/-
# Environment files

A file of assignments, `NAME=value`, one on a line, which fill in the variables that the environment
does not have.

* Blank lines and lines that start with `#` say nothing; `export` in front of a name is allowed.
* A value ends at a blank, and then only a comment may follow.  Between single quotes everything
  stands for itself; between double quotes, and without any, a backslash protects a character and a
  dollar sign brings the value of a variable.
* A line that is open in quotes goes on in the next one.
* The first line that cannot be read ends the reading, and the assignments before it hold.
-/
import SqlGateway.Text.Alphanumeric
import SqlGateway.Text.Blank

namespace SqlGateway.Startup.EnvFile

/-- Variables with their values. -/
abbrev Variables := List (String × String)

/-! ## 1. Lines -/

/-- Where in a line a reader is, as far as the end of the line depends on it. -/
inductive Place where
  | plain
  | blank
  | escaped
  | single
  | singleEscaped
  | double
  | doubleEscaped
  | comment
deriving DecidableEq, Repr

/-- The place behind a character outside quotes. -/
def Place.opened (c : Char) : Place :=
  if c = '\\' then escaped
  else if c = '"' then double
  else if c = '\'' then single
  else plain

/-- The place behind a character. -/
def Place.after (p : Place) (c : Char) : Place :=
  match p with
  | plain => if Text.isBlank c && c != '\n' && c != '\r' then blank else opened c
  | blank => if c = '#' then comment else opened c
  | escaped => plain
  | single => if c = '\\' then singleEscaped else if c = '\'' then plain else single
  | singleEscaped => single
  | double => if c = '\\' then doubleEscaped else if c = '"' then plain else double
  | doubleEscaped => double
  | comment => comment

/-- The lines of a text, with their ends. -/
def rawLines (cs : List Char) : List (List Char) :=
  let lines := (cs.splitOn '\n')
  let ended := lines.dropLast.map (· ++ ['\n'])
  ended ++ (lines.getLast?.filter (!·.isEmpty)).toList

/-- The line up to its comment, and where its end is. -/
def scanLine (p : Place) : List Char → List Char × Place
  | [] => ([], p)
  | c :: cs =>
    if p.after c = .comment then ([], .comment)
    else
      let (kept, last) := scanLine (p.after c) cs
      (c :: kept, last)

/-- Whether a line is a comment as a whole. -/
def isComment (line : List Char) : Bool := (line.dropWhile Text.isBlank).head? == some '#'

/-- Joins lines as long as they are open; none stands for a text that ends too early.  `opened` is
what was read of an open line, and `p` is where its end is. -/
def joinLines (opened : List Char) (p : Place) : List (List Char) → List (Option (List Char))
  | [] => if opened.isEmpty && p = .plain then [] else [none]
  | line :: more =>
    if isComment (opened ++ line) then joinLines [] .plain more
    else
      let (kept, last) := scanLine p line
      match last with
      | .plain | .comment => some (opened ++ kept) :: joinLines [] .plain more
      | last => joinLines (opened ++ line) last more

/-! ## 2. Values -/

/-- How far a value has been read. -/
inductive Mode where
  | plain
  | single
  | double
  /-- Behind a backslash; the flag tells whether in double quotes. -/
  | escaped (quoted : Bool)
  /-- In the name of a variable. -/
  | name (quoted braced : Bool) (read : List Char)
  /-- Behind the end of the value. -/
  | ended
deriving DecidableEq, Repr

/-- Outside of quotes, or inside of double ones. -/
def Mode.resting (quoted : Bool) : Mode := if quoted then double else plain

/-- The value of a variable; one that is not there is empty. -/
def valueOf (vars : Variables) (name : List Char) : List Char :=
  ((vars.lookup (String.ofList name)).getD "").toList

/-- What a backslash makes of a character. -/
def unescape? (c : Char) : Option Char :=
  if c = 'n' then some '\n' else if "\\'\"$ ".toList.contains c then some c else none

/-- The value that is left to read. -/
def readValue (vars : Variables) : Mode → List Char → Option (List Char)
  | .plain, [] => some []
  | .ended, [] => some []
  | .escaped false, [] => some []
  | .name false false read, [] => some (valueOf vars read)
  | _, [] => none
  | .ended, c :: cs =>
    if c = ' ' || c = '\t' then readValue vars .ended cs
    else if c = '#' then some []
    else none
  | .escaped quoted, c :: cs => do
    let c ← unescape? c
    return c :: (← readValue vars (.resting quoted) cs)
  | .single, c :: cs =>
    if c = '\'' then readValue vars .plain cs
    else return c :: (← readValue vars .single cs)
  | .name quoted braced read, c :: cs =>
    if Text.isAlphanumeric c then readValue vars (.name quoted braced (read ++ [c])) cs
    else if braced then
      if c = '\x7d' then return valueOf vars read ++ (← readValue vars (.resting quoted) cs)
      else readValue vars (.name quoted true (read ++ [c])) cs
    else if c = '\x7b' && read.isEmpty then readValue vars (.name quoted true []) cs
    else if c = '$' then
      return valueOf vars read ++ (← readValue vars (.name quoted false []) cs)
    else return valueOf vars read ++ c :: (← readValue vars (.resting quoted) cs)
  | .double, c :: cs =>
    if c = '$' then readValue vars (.name true false []) cs
    else if c = '"' then readValue vars .plain cs
    else if c = '\\' then readValue vars (.escaped true) cs
    else return c :: (← readValue vars .double cs)
  | .plain, c :: cs =>
    if c = '$' then readValue vars (.name false false []) cs
    else if c = '\'' then readValue vars .single cs
    else if c = '"' then readValue vars .double cs
    else if c = '\\' then readValue vars (.escaped false) cs
    else if c = ' ' || c = '\t' then readValue vars .ended cs
    else return c :: (← readValue vars .plain cs)

/-! ## 3. Assignments -/

/-- Whether a character may start a name. -/
def startsName (c : Char) : Bool := c.isAlpha || c == '_'

/-- Whether a character may stand in a name. -/
def inName (c : Char) : Bool := c.isAlphanum || c == '_' || c == '.'

/-- A name, and what is behind it and its blanks. -/
def splitName? (cs : List Char) : Option (List Char × List Char) :=
  if cs.head?.any startsName then
    let name := cs.takeWhile inName
    some (name, (cs.drop name.length).dropWhile Text.isBlank)
  else none

/-- A name, and what is behind its equals sign. -/
def splitAssignment? (cs : List Char) : Option (List Char × List Char) := do
  let (name, rest) ← splitName? cs
  match rest with
  | '=' :: value => return (name, value)
  | _ =>
    guard (name = "export".toList)
    match ← splitName? rest with
    | (name, '=' :: value) => return (name, value)
    | _ => none

/-- The variables after a line; none if the line cannot be read.  A variable that is there keeps its
value. -/
def readLine (line : List Char) (vars : Variables) : Option Variables :=
  let cs := Text.trimChars line
  if cs.isEmpty || cs.head? = some '#' then some vars
  else do
    let (name, rest) ← splitAssignment? cs
    let rest := rest.dropWhile Text.isBlank
    let value ←
      if rest.isEmpty || rest.head? = some '#' then some []
      else readValue vars .plain rest
    let name := String.ofList name
    return if (vars.lookup name).isSome then vars else vars ++ [(name, String.ofList value)]

/-- The variables after lines, up to the first one that cannot be read. -/
def readLines (vars : Variables) : List (Option (List Char)) → Variables
  | [] => vars
  | none :: _ => vars
  | some line :: more =>
    match readLine line vars with
    | some vars => readLines vars more
    | none => vars

/-- The environment with what a file fills in. -/
def fill (env : Variables) (content : String) : Variables :=
  let cs := content.toList
  let cs := if cs.head? = some '\uFEFF' then cs.drop 1 else cs
  readLines env (joinLines [] .plain (rawLines cs))

end SqlGateway.Startup.EnvFile
