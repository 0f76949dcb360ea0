/-
# Fields from a request body

A body of nothing but ASCII white space holds no fields.  Any other body must be one JSON object
whose values are scalars or lists of scalars.  The members are read one by one, and the first
value that is no field value ends the reading: such a fault shows behind the value, or behind the
closing brace when that comes next.
-/
import SqlGateway.Fields
import SqlGateway.Json.Reader

namespace SqlGateway

open Json

/-! ## 1. Faults -/

/-- A top-level value other than an object. -/
inductive NonObject where
  | null
  | bool (b : Bool)
  | number (n : JsonNumber)
  | string (s : String)
  | sequence
deriving DecidableEq

/-- How such a value is named. -/
def NonObject.describe : NonObject → String
  | null => "null"
  | bool b => "boolean `" ++ (if b then "true" else "false") ++ "`"
  | number n =>
    let text := String.ofList n.render
    match n with
    | .integer _ _ => "integer `" ++ text ++ "`"
    | .float _ _ => "floating point `" ++ text ++ "`"
  | string s => "string " ++ Text.quoted s
  | sequence => "sequence"

/-- Why a body holds no fields. -/
inductive BodyCause where
  | json (cause : Cause)
  | notAnObject (found : NonObject)
  | field (fault : FieldFault)
deriving DecidableEq

/-- The wording of a cause. -/
def BodyCause.message : BodyCause → String
  | json cause => cause.message
  | notAnObject found => "invalid type: " ++ found.describe ++ ", expected a map"
  | field fault => fault.message

/-- What is wrong with a body, and where. -/
structure BodyError where
  cause : BodyCause
  position : Position
deriving DecidableEq

/-- The wording of the error. -/
def BodyError.message (e : BodyError) : String := e.cause.message ++ e.position.message

namespace Fields

/-! ## 2. Reading -/

/-- A cause, and the number of bytes not yet taken where it showed. -/
structure BodyFault where
  cause : BodyCause
  left : Nat

/-- A fault of the JSON text. -/
def ofFault (e : Fault) : BodyFault := ⟨.json e.cause, e.left⟩

/-- How many bytes are left once the end of the object has been looked for in `rest`. -/
def leftBehindValue (rest : List UInt8) : Nat :=
  match skipBlanks rest with
  | 125 :: t => t.length
  | t => t.length

/-- Takes the members of the body and its closing brace; `seen` holds them in reverse. -/
def takeFields (first : Bool) (seen : List (String × FieldValue)) (s : List UInt8) :
    Except BodyFault (Taken (List (String × FieldValue)) s) :=
  match nextKey first s with
  | .error e => .error (ofFault e)
  | .ok (.close rest shorter) => .ok ⟨seen.reverse, rest, shorter⟩
  | .ok (.entry t ht) =>
    match takeKey t with
    | .error e => .error (ofFault e)
    | .ok k =>
      have := k.shorter
      match takeValue (depthLimit - 1) k.rest with
      | .error e => .error (ofFault e)
      | .ok v =>
        have := v.shorter
        match FieldValue.ofJson v.value with
        | .error fault => .error ⟨.field fault, leftBehindValue v.rest⟩
        | .ok value =>
          (takeFields false ((k.value, value) :: seen) v.rest).map (·.widen (by omega))
termination_by s.length

/-- The fault of a body that begins, blanks apart, with `b :: t` and not with a brace. -/
def notAnObject (b : UInt8) (t : List UInt8) : BodyFault :=
  let found (v : NonObject) (rest : List UInt8) : BodyFault := ⟨.notAnObject v, rest.length⟩
  let seq := found .sequence (b :: t)
  if b = 91 then seq
  else
    match takeValue depthLimit (b :: t) with
    | .error e => ofFault e
    | .ok r =>
      match r.value with
      | .null => found .null r.rest
      | .bool v => found (.bool v) r.rest
      | .number n => found (.number n) r.rest
      | .string s => found (.string s) r.rest
      | _ => seq

/-- The fields of a body that is not blank. -/
def ofJsonBytes (input : List UInt8) : Except BodyFault Fields :=
  match skipBlanks input with
  | [] => .error (ofFault (faultOn .endInValue []))
  | b :: t =>
    if b = 123 then do
      let r ← takeFields true [] t
      (atEnd r.rest).mapError ofFault
      return ofMembers r.value
    else .error (notAnObject b t)

/-- Whether `b` is ASCII white space. -/
def isAsciiSpace (b : UInt8) : Bool := b == 32 || b == 9 || b == 10 || b == 12 || b == 13

/-- The fields of a request body. -/
def ofBody (body : List UInt8) : Except BodyError Fields :=
  if body.all isAsciiSpace then .ok empty
  else (ofJsonBytes body).mapError fun e => ⟨e.cause, position body e.left⟩

end Fields

end SqlGateway
