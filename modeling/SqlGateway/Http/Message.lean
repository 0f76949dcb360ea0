/-
# HTTP messages

Requests and responses as far as the gateway looks at them.  Header names are lower case; values
are bytes in a request, because a client may send any, and text in a response.
-/
namespace SqlGateway.Http

/-- A request. -/
structure Request where
  method : String
  /-- The request target: path and query, percent-encoded.  A client that talks to a proxy puts
  scheme and authority in front. -/
  target : String
  headers : List (String × List UInt8)
  body : List UInt8

/-- A response. -/
structure Response where
  status : Nat
  headers : List (String × String)
  body : String
deriving DecidableEq, Repr

/-- The first value of a header. -/
def Request.header? (r : Request) (name : String) : Option (List UInt8) :=
  r.headers.lookup name

/-- Whether a character ends a path. -/
def endsPath (c : Char) : Bool := c = '?' || c = '#'

/-- Whether a character can stand in a scheme. -/
def isSchemeChar (c : Char) : Bool := c.isAlphanum || c = '+' || c = '-' || c = '.'

/-- A target without the scheme and authority in front of its path. -/
def withoutAuthority (target : List Char) : List Char :=
  match target.dropWhile isSchemeChar with
  | ':' :: '/' :: '/' :: rest => rest.dropWhile fun c => c != '/' && !endsPath c
  | _ => target

/-- The path of the target; an empty one stands for the root. -/
def Request.path (r : Request) : String :=
  match (withoutAuthority r.target.toList).takeWhile fun c => !endsPath c with
  | [] => "/"
  | path => String.ofList path

/-- Whether a byte of a header's value is readable: a tab or printable ASCII. -/
def isReadable (b : UInt8) : Bool := b = 9 || (32 ≤ b && b < 127)

/-- The text of a header's value, if all of it is readable. -/
def headerText? (value : List UInt8) : Option String :=
  if value.all isReadable then
    some (String.ofList (value.map fun b => Char.ofNat b.toNat))
  else none

/-- Whether a text may be the value of a header: of control characters only tabs. -/
def isHeaderText (s : String) : Bool :=
  s.toList.all fun c => c = '\t' || (32 ≤ c.toNat && c.toNat ≠ 127)

/-- The response with a header set, in place of any value it had. -/
def Response.setHeader (r : Response) (name value : String) : Response :=
  { r with headers := r.headers.filter (·.1 != name) ++ [(name, value)] }

/-- The type of every body that the gateway writes. -/
def jsonType : String × String := ("content-type", "application/json")

end SqlGateway.Http
