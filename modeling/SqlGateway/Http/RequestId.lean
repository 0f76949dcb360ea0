/-
# Request ids

Every request has an id, which its response and every error body carry.  The client may choose it;
otherwise one is made up.
-/
import SqlGateway.Http.Message

namespace SqlGateway.Http

/-- The header that carries the id. -/
def requestIdHeader : String := "x-request-id"

/-- The id that the client chose: the first one, if it is readable and not empty. -/
def Request.chosenId? (r : Request) : Option String :=
  ((r.header? requestIdHeader).bind headerText?).filter (· ≠ "")

/-- The id of a request, given the one that would be made up. -/
def Request.id (r : Request) (fresh : String) : String := r.chosenId?.getD fresh

end SqlGateway.Http
