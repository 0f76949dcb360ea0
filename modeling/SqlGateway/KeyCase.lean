/-
# Names of result columns

A result column keeps its name, or has it put into one of three cases: `lowerCamel`, `upperCamel`
or `underscore`.  Each of them is a function of the name alone.

* Camel case drops the separators (`_` and the space) and raises the first character of every
  word; the rest of a word stays as it is.  `lowerCamel` then lowers the first character.
* Underscore case writes `_` before every ASCII capital but a leading one, and lowers every
  character.

Raising and lowering follow the full mappings of Unicode.
-/
import SqlGateway.Text.Blank
import SqlGateway.Text.LetterCase

namespace SqlGateway

open Text

/-- What happens to the names of result columns. -/
inductive KeyCase where
  /-- The name as the store reports it. -/
  | keep
  /-- `user_name` becomes `userName`. -/
  | lowerCamel
  /-- `user_name` becomes `UserName`. -/
  | upperCamel
  /-- `userName` becomes `user_name`. -/
  | underscore
deriving DecidableEq, Repr

/-- The text of a format that is none of the known ones. -/
structure UnknownFormat where
  format : String
deriving DecidableEq, Repr

/-- The wording of the error. -/
def UnknownFormat.message (e : UnknownFormat) : String :=
  "unknown format '" ++ e.format ++ "' (expected lowerCamel, upperCamel or underscore)"

namespace KeyCase

/-! ## 1. Formats by name -/

/-- The name of a case in a configuration. -/
def name : KeyCase → String
  | keep => "none"
  | lowerCamel => "lowerCamel"
  | upperCamel => "upperCamel"
  | underscore => "underscore"

/-- The case that a configured format asks for.  Blanks around it do not count, and a blank
format asks for nothing. -/
def ofFormat (format : String) : Except UnknownFormat KeyCase :=
  match trim format with
  | "" => .ok keep
  | "none" => .ok keep
  | "lowerCamel" => .ok lowerCamel
  | "upperCamel" => .ok upperCamel
  | "underscore" => .ok underscore
  | other => .error ⟨other⟩

/-! ## 2. Camel case -/

/-- Whether `c` separates two words of a name. -/
def isSeparator (c : Char) : Bool := c == '_' || c == ' '

/-- The words of a name, empty ones included: one more than there are separators. -/
def words : List Char → List (List Char)
  | [] => [[]]
  | c :: cs =>
    if isSeparator c then [] :: words cs
    else
      match words cs with
      | [] => [[c]]
      | w :: ws => (c :: w) :: ws

/-- A word with its first character raised. -/
def raiseFirst : List Char → List Char
  | [] => []
  | c :: cs => upper c ++ cs

/-- A name with its first character lowered. -/
def lowerFirst : List Char → List Char
  | [] => []
  | c :: cs => lower c ++ cs

/-- The words of the name, each with its first character raised, without separators. -/
def camel (cs : List Char) : List Char := (words cs).flatMap raiseFirst

/-! ## 3. Underscore case -/

/-- A character after the first: an ASCII capital starts a new word. -/
def snakeChar (c : Char) : List Char := if c.isUpper then '_' :: lower c else lower c

/-- The name in lower case, with `_` before every ASCII capital but a leading one. -/
def snake : List Char → List Char
  | [] => []
  | c :: cs => lower c ++ cs.flatMap snakeChar

/-! ## 4. Application -/

/-- A name in camel case, its first character raised or lowered. -/
def toCamel (name : String) (raised : Bool) : String :=
  String.ofList (if raised then camel name.toList else lowerFirst (camel name.toList))

/-- A name in underscore case. -/
def toUnderscore (name : String) : String := String.ofList (snake name.toList)

/-- The name that a result column gets. -/
def apply (k : KeyCase) (name : String) : String :=
  match k with
  | keep => name
  | lowerCamel => toCamel name false
  | upperCamel => toCamel name true
  | underscore => toUnderscore name

end KeyCase

end SqlGateway
