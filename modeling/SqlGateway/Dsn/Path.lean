/-
# Paths with dots

In a path the segment `.` stands for the place reached so far and `..` for the one above it; a dot may
be percent-encoded.  Such segments are taken out when a URL is read.

Nothing lies above the first slash.  A segment that names a drive, a letter and a colon, is never left.
-/
namespace SqlGateway.Dsn.Path

/-- A segment with encoded dots decoded. -/
def dotted : List Char → List Char
  | '%' :: '2' :: 'e' :: cs => '.' :: dotted cs
  | '%' :: '2' :: 'E' :: cs => '.' :: dotted cs
  | c :: cs => c :: dotted cs
  | [] => []

/-- Whether a segment names a drive. -/
def isDrive : List Char → Bool
  | c :: d :: rest => c.isAlpha && (d == ':' || d == '|') && (rest.isEmpty || rest.head? == some '\\')
  | _ => false

/-- The path above a path; both are in reverse and end with a slash. -/
def above (path : List Char) : List Char :=
  match path with
  | '/' :: before =>
    let last := before.takeWhile (· != '/')
    if last.length = before.length || isDrive last.reverse then path
    else before.drop last.length
  | _ => path.dropWhile (· != '/')

/-- Adds a segment to a path in reverse, and a slash if one follows it. -/
def addSegment (path segment : List Char) (slash : Bool) : List Char :=
  match dotted segment with
  | ['.', '.'] => above path
  | ['.'] => path
  | _ => if slash then '/' :: (segment.reverse ++ path) else segment.reverse ++ path

/-- Adds what is written to a path in reverse; `segment` is the segment so far, in reverse. -/
def addAll (isSlash : Char → Bool) (path segment : List Char) : List Char → List Char
  | [] => addSegment path segment.reverse false
  | c :: cs =>
    if isSlash c then addAll isSlash (addSegment path segment.reverse true) [] cs
    else addAll isSlash path (c :: segment) cs

/-- The path that is written behind `start`, which is empty or a slash. -/
def resolve (isSlash : Char → Bool) (start written : List Char) : List Char :=
  (addAll isSlash start [] written).reverse

end SqlGateway.Dsn.Path
