/-
# Basic authentication

A request may carry credentials: the scheme `Basic`, and username and password in base64 with a
colon between them.  The username ends at the first colon; the password may have more of them.
Only the first header counts, and the scheme is written exactly so.
-/
import SqlGateway.Config
import SqlGateway.Http.Failure
import SqlGateway.Text.Base64
import SqlGateway.Text.Blank
import SqlGateway.Text.Utf8

namespace SqlGateway.Http

/-! ## 1. Reading -/

/-- The scheme, with the blank behind it. -/
def basicScheme : String := "Basic "

/-- Username and password. -/
structure Credentials where
  username : String
  password : String
deriving DecidableEq, Repr

/-- The credentials that a decoded text says. -/
def Credentials.ofText? (cs : List Char) : Option Credentials :=
  match cs.span (· != ':') with
  | (_, []) => none
  | (username, _ :: password) => some ⟨String.ofList username, String.ofList password⟩

/-- The credentials that a header's value says. -/
def Credentials.ofHeader? (value : List UInt8) : Option Credentials := do
  let text := (← headerText? value).toList
  guard (basicScheme.toList.isPrefixOf text)
  let bytes ← Text.Base64.decode? (Text.trimChars (text.drop basicScheme.toList.length))
  Credentials.ofText? (← Text.Utf8.decode? bytes).toList

/-- The credentials of a request. -/
def Request.credentials? (r : Request) : Option Credentials :=
  (r.header? "authorization").bind Credentials.ofHeader?

/-! ## 2. Checking -/

/-- Whether credentials are those of an account. -/
def Credentials.isOf (c : Credentials) (a : Config.Account) : Bool :=
  a.username == c.username && a.password == c.password

/-- The paths that are open to everybody. -/
def publicPaths : List String := ["/health"]

/-- Why a request is refused; none if it is admitted. -/
def Request.refusal? (r : Request) (server : Config.Server) : Option Failure :=
  if !server.auth || publicPaths.contains r.path then none
  else
    match r.credentials? with
    | none => some (.unauthorized "missing basic credentials")
    | some c =>
      if server.accounts.any c.isOf then none
      else some (.unauthorized "invalid username or password")

end SqlGateway.Http
