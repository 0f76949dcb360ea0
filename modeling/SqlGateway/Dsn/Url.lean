/-
# URLs that name a database

A URL is a scheme, an authority with a user, a host and a port, a path, and a query of keys and
values.  Only the scheme is needed; what is not there is empty.

* Behind some schemes, as `http`, an authority stands always, and its host is a host name or an
  address.  Behind `file` the authority is only a host.  Behind all others a host is any text without
  certain characters, or an address in brackets.
* The segments `.` and `..` of a path are taken out, unless the path begins without a slash.
* All other parts are kept as they are written.  Whoever uses a part decodes it, and may find that
  it is no text.
-/
import SqlGateway.Dsn.HostName
import SqlGateway.Dsn.Path

namespace SqlGateway.Dsn

/-! ## 1. Parts -/

/-- Why a text is no URL. -/
inductive UrlFault where
  | noScheme
  | emptyHost
  | port
  | domainCharacter
  | hostName
  | decimalAddress
  | bracketedAddress
deriving DecidableEq, Repr

/-- The wording of the fault. -/
def UrlFault.message : UrlFault → String
  | noScheme => "relative URL without a base"
  | emptyHost => "empty host"
  | port => "invalid port number"
  | domainCharacter => "invalid domain character"
  | hostName => "invalid international domain name"
  | decimalAddress => "invalid IPv4 address"
  | bracketedAddress => "invalid IPv6 address"

/-- The parts of a URL, as they are written. -/
structure Url where
  user : List Char
  password : List Char
  host : List Char
  port : Option Nat
  path : List Char
  query : List Char
deriving DecidableEq, Repr

/-- A URL of which nothing is known. -/
def Url.empty : Url := ⟨[], [], [], none, [], []⟩

/-! ## 2. Schemes -/

/-- What a scheme asks of the rest. -/
inductive Kind where
  | plain
  /-- A host must be there. -/
  | hosted
  | file
deriving DecidableEq, Repr

/-- Whether a character may stand in a scheme behind the first one. -/
def inScheme (c : Char) : Bool := c.isAlphanum || c == '+' || c == '-' || c == '.'

/-- The scheme of a URL, and what is behind its colon. -/
def splitScheme? (cs : List Char) : Option (List Char × List Char) :=
  let scheme := cs.takeWhile inScheme
  match cs.drop scheme.length with
  | ':' :: rest => if scheme.head?.any Char.isAlpha then some (scheme, rest) else none
  | _ => none

/-- What a scheme asks, whatever the case of its letters. -/
def Kind.ofScheme (scheme : List Char) : Kind :=
  let name := String.ofList (scheme.map Char.toLower)
  if ["http", "https", "ws", "wss", "ftp"].contains name then .hosted
  else if name = "file" then .file
  else .plain

/-- Whether a character is a slash; behind some schemes a backslash is one too. -/
def Kind.isSlash (k : Kind) (c : Char) : Bool := c == '/' || (k != .plain && c == '\\')

/-- Whether a character ends an authority. -/
def Kind.endsAuthority (k : Kind) (c : Char) : Bool := k.isSlash c || c == '?' || c == '#'

/-! ## 3. Authorities -/

/-- What is in front of the last `@` of an authority, and what is behind it. -/
def splitUser (authority : List Char) : Option (List Char) × List Char :=
  let host := (authority.reverse.takeWhile (· != '@')).reverse
  if host.length < authority.length then
    (some (authority.take (authority.length - host.length - 1)), host)
  else (none, authority)

/-- The host at the start of an authority, and the rest of it; brackets hide colons. -/
def splitHost (inside : Bool) : List Char → List Char × List Char
  | [] => ([], [])
  | c :: cs =>
    if c = ':' ∧ inside = false then ([], c :: cs)
    else
      let (host, rest) := splitHost (if c = '[' then true else if c = ']' then false else inside) cs
      (c :: host, rest)

/-- The characters that no host has. -/
def forbiddenInHost (c : Char) : Bool :=
  c.toNat == 0 || " #/:<>?@[\\]^|".toList.contains c

/-- Refuses what is no host name. -/
def checkName (host : List Char) : Except UrlFault Unit :=
  match HostName.ofText? host with
  | none => .error .hostName
  | some [] => .error .emptyHost
  | some name =>
    if Address.endsInNumber name && !Address.isNumeric name then .error .decimalAddress else .ok ()

/-- Refuses what is no host. -/
def checkHost (k : Kind) (host : List Char) : Except UrlFault Unit :=
  if host.head? = some '[' then
    if host.getLast? = some ']' && Address.isGrouped ((host.drop 1).dropLast) then .ok ()
    else .error .bracketedAddress
  else if k ≠ .plain then checkName host
  else if host.any forbiddenInHost then .error .domainCharacter
  else .ok ()

/-- The port that is said behind a host, and what follows it: a backslash ends a port. -/
def takePort : List Char → Except UrlFault (Option Nat × List Char)
  | [] => .ok (none, [])
  | _ :: cs =>
    let digits := cs.takeWhile Char.isDigit
    let rest := cs.drop digits.length
    if 0x10000 ≤ Digits.value digits || rest.head?.any (· != '\\') then .error .port
    else .ok (if digits.isEmpty then none else some (Digits.value digits), rest)

/-- The parts of an authority, and what is left of it; `more` tells whether anything follows it. -/
def ofAuthority (k : Kind) (more : Bool) (authority : List Char) :
    Except UrlFault (Url × List Char) := do
  let (credentials, address) := splitUser authority
  if credentials = some [] && address.isEmpty && more then throw .emptyHost
  let (host, behind) := splitHost false address
  if host.isEmpty && (k = .hosted || !behind.isEmpty) then throw .emptyHost
  checkHost k host
  let (port, rest) ← takePort behind
  let said := credentials.getD []
  if host.isEmpty && !(said.isEmpty || said = [':']) then throw .emptyHost
  let user := said.takeWhile (· != ':')
  return ({ Url.empty with user := user, password := said.drop (user.length + 1), host, port }, rest)

/-! ## 4. The whole -/

/-- A URL with the path and the query that are written behind its authority. -/
def Url.withPath (u : Url) (k : Kind) (cs : List Char) : Url :=
  let cs := cs.takeWhile (· != '#')
  let path := cs.takeWhile (· != '?')
  let resolved :=
    match path with
    | [] => []
    | c :: rest => Path.resolve k.isSlash ['/'] (if k.isSlash c then rest else path)
  { u with path := resolved, query := cs.drop (path.length + 1) }

/-- A URL whose path begins without a slash. -/
def Url.withOpaquePath (u : Url) (cs : List Char) : Url :=
  let cs := cs.takeWhile (· != '#')
  let path := cs.takeWhile (· != '?')
  { u with path := path, query := cs.drop (path.length + 1) }

/-- Whether a character around a URL does not belong to it. -/
def isAround (c : Char) : Bool := c.toNat ≤ 32

/-- Whether a character in a URL does not count. -/
def isIgnored (c : Char) : Bool := c == '\t' || c == '\n' || c == '\r'

/-- The URL with an authority, which begins here. -/
def Url.ofAuthorityOn (k : Kind) (cs : List Char) : Except UrlFault Url := do
  let authority := cs.takeWhile (!k.endsAuthority ·)
  let behind := cs.drop authority.length
  let (u, rest) ← ofAuthority k (!behind.isEmpty) authority
  return u.withPath k (rest ++ behind)

/-- Whether a text is the name of a drive. -/
def isDrive (cs : List Char) : Bool := cs.length == 2 && Path.isDrive cs

/-- The URL of a file, behind its scheme. -/
def Url.ofFile (cs : List Char) : Except UrlFault Url := do
  match cs with
  | a :: b :: rest =>
    if Kind.file.isSlash a && Kind.file.isSlash b then
      let host := rest.takeWhile (!Kind.file.endsAuthority ·)
      if isDrive host then return Url.empty.withPath .file rest
      else
        if !host.isEmpty then checkHost .file host
        return { Url.empty with host }.withPath .file (rest.drop host.length)
    else return Url.empty.withPath .file cs
  | _ => return Url.empty.withPath .file cs

/-- The parts of a URL. -/
def Url.ofText (s : String) : Except UrlFault Url := do
  let cs := ((s.toList.dropWhile isAround).reverse.dropWhile isAround).reverse
  let cs := cs.filter fun c => !isIgnored c
  let some (scheme, rest) := splitScheme? cs | throw .noScheme
  match Kind.ofScheme scheme with
  | .hosted => Url.ofAuthorityOn .hosted (rest.dropWhile Kind.hosted.isSlash)
  | .file => Url.ofFile rest
  | .plain =>
    match rest with
    | '/' :: '/' :: rest => Url.ofAuthorityOn .plain rest
    | '/' :: _ => return Url.empty.withPath .plain rest
    | _ => return Url.empty.withOpaquePath rest

/-- The pieces of a text between the separators. -/
def pieces (separator : Char) (cs : List Char) : List (List Char) :=
  cs.foldr
    (fun c acc =>
      if c = separator then [] :: acc
      else
        match acc with
        | p :: ps => (c :: p) :: ps
        | [] => [[c]])
    [[]]

/-- The text that a key or a value of a query stands for. -/
def formText (cs : List Char) : String :=
  let plain := cs.map fun c => if c = '+' then ' ' else c
  Text.Utf8.decodeLossy (Text.Percent.decode (Text.Utf8.encodeChars plain))

/-- The keys and values of a query. -/
def queryPairs (query : List Char) : List (String × String) :=
  ((pieces '&' query).filter (!·.isEmpty)).map fun piece =>
    let key := piece.takeWhile (· != '=')
    (formText key, formText (piece.drop (key.length + 1)))

end SqlGateway.Dsn
