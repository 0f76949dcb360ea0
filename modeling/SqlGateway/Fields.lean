/-
# Request fields

The body of a call is a flat JSON object.  Each member is a field: one scalar, or a list of
scalars.  A field is *present* when it occurs and is not null; an empty list is present.

Fields are kept in the order of the body.  A name that comes again replaces the value, so a look-up
finds the last one.
-/
import SqlGateway.Json.Printer
import SqlGateway.Text.Quoted

namespace SqlGateway

/-! ## 1. Values -/

/-- A value that can be bound to a statement. -/
inductive Scalar where
  | null
  | bool (b : Bool)
  | number (n : JsonNumber)
  | text (s : String)
deriving DecidableEq

/-- The value of a field. -/
inductive FieldValue where
  | scalar (s : Scalar)
  /-- A list, for `IN (...)`. -/
  | list (items : List Scalar)
deriving DecidableEq

namespace Scalar

/-- The scalar as JSON. -/
def toJson : Scalar → Json
  | null => .null
  | bool b => .bool b
  | number n => .number n
  | text s => .string s

/-- The scalar for a log line or a message: JSON notation, but texts are quoted so that nothing in
them is invisible. -/
def display : Scalar → String
  | null => "null"
  | bool true => "true"
  | bool false => "false"
  | number n => String.ofList n.render
  | text s => Text.quoted s

end Scalar

/-- Arguments as the text of a JSON array. -/
def argumentsText (args : List Scalar) : String := (Json.array (args.map Scalar.toJson)).text

/-- Why a JSON value is not the value of a field. -/
inductive FieldFault where
  | objectValue
  | nestedList
deriving DecidableEq, Repr

/-- The wording of the fault. -/
def FieldFault.message : FieldFault → String
  | objectValue => "object values are not supported as sql parameters"
  | nestedList => "nested lists are not supported as sql parameters"

/-- The scalar that a JSON value denotes. -/
def Scalar.ofJson : Json → Except FieldFault Scalar
  | .null => .ok .null
  | .bool b => .ok (.bool b)
  | .number n => .ok (.number n)
  | .string s => .ok (.text s)
  | .array _ => .error .nestedList
  | .object _ => .error .objectValue

namespace FieldValue

/-- The value as JSON. -/
def toJson : FieldValue → Json
  | scalar s => s.toJson
  | list items => .array (items.map Scalar.toJson)

/-- The field value that a JSON value denotes; in a list the first unfit item decides. -/
def ofJson : Json → Except FieldFault FieldValue
  | .array items => (items.mapM Scalar.ofJson).map list
  | v => (Scalar.ofJson v).map scalar

/-- Whether the value counts as given. -/
def isPresent : FieldValue → Bool
  | scalar .null => false
  | _ => true

end FieldValue

/-! ## 2. Fields -/

/-- The fields of a request, each name once. -/
structure Fields where
  members : List (String × FieldValue)
deriving DecidableEq

namespace Fields

/-- No fields. -/
def empty : Fields := ⟨[]⟩

/-- The fields given by members in order; of a repeated name the last value counts. -/
def ofMembers (entries : List (String × FieldValue)) : Fields := ⟨Json.membersOf entries⟩

/-- The value of a field. -/
def get? (f : Fields) (name : String) : Option FieldValue := f.members.lookup name

/-- The value of a present field. -/
def present? (f : Fields) (name : String) : Option FieldValue :=
  (f.get? name).filter (·.isPresent)

/-- Whether the field is present. -/
def isPresent (f : Fields) (name : String) : Bool := (f.present? name).isSome

end Fields

end SqlGateway
