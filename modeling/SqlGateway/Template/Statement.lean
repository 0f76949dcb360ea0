/-
# Compiling a template

A template and the fields of a request become a statement: SQL text with markers, and one argument
for every marker, in order.

1. The blocks of every declared name that has no present field are cut out of the text, markers
   and all.
2. What remains is read from left to right.  The placeholder of a declared name becomes a marker,
   or for a list a bracketed row of markers; the markers of its blocks are dropped.  A placeholder
   without a present field is a missing parameter.

Step 2 produces a list of *chunks*, text and bound values, in which no value has a written form.
Only the marker style turns bound values into text, so what a field holds never reaches the SQL.
-/
import SqlGateway.Engine
import SqlGateway.Fields
import SqlGateway.Template.Token

namespace SqlGateway

/-- SQL text with markers, and the arguments in the order of the markers. -/
structure Statement where
  sql : String
  args : List Scalar
deriving DecidableEq

namespace Template

/-! ## 1. Cutting blocks out -/

/-- The text before and the text behind the first occurrence of `pattern`. -/
def splitAtFirst (pattern : List Char) : List Char → Option (List Char × List Char)
  | [] => none
  | c :: cs =>
    if pattern.isPrefixOf (c :: cs) then some ([], (c :: cs).drop pattern.length)
    else (splitAtFirst pattern cs).map fun (before, behind) => (c :: before, behind)

theorem append_of_splitAtFirst {pattern s before behind : List Char}
    (h : splitAtFirst pattern s = some (before, behind)) :
    before ++ pattern ++ behind = s := by
  induction s generalizing before with
  | nil => simp [splitAtFirst] at h
  | cons c cs ih =>
    unfold splitAtFirst at h
    split at h
    next hp =>
      obtain ⟨rfl, rfl⟩ : _ ∧ _ := by simpa using h
      obtain ⟨t, ht⟩ := List.isPrefixOf_iff_prefix.mp hp
      rw [← ht]
      simp
    next =>
      obtain ⟨⟨b, r⟩, hb, hr⟩ := Option.map_eq_some_iff.mp h
      obtain ⟨rfl, rfl⟩ : _ ∧ _ := by simpa using hr
      simp [← ih hb]

/-- `s` without the blocks of `name`: as long as an opening marker has a closing marker behind it,
the first of either kind and what is between them go. -/
def stripBlock (name : List Char) (s : List Char) : List Char :=
  match _h : splitAtFirst (tokenText .opening name) s with
  | none => s
  | some (before, inside) =>
    match _h' : splitAtFirst (tokenText .closing name) inside with
    | none => s
    | some (_, behind) => stripBlock name (before ++ behind)
termination_by s.length
decreasing_by
  have h1 := congrArg List.length (append_of_splitAtFirst _h)
  have h2 := congrArg List.length (append_of_splitAtFirst _h')
  simp only [tokenText, List.length_append, List.length_cons, List.length_nil] at h1 h2 ⊢
  omega

/-- `s` without the blocks of the declared names that have no present field. -/
def stripAbsent (fields : Fields) (declared : List String) (s : List Char) : List Char :=
  declared.foldl
    (fun s name => if fields.isPresent name then s else stripBlock name.toList s) s

/-! ## 2. Substitution -/

/-- A character of the statement, or a value bound at this place. -/
inductive Chunk where
  | char (c : Char)
  | bound (value : Scalar)
deriving DecidableEq

/-- Bound values with commas between them. -/
def commaSeparated : List Scalar → List Chunk
  | [] => []
  | [v] => [.bound v]
  | v :: w :: rest => .bound v :: .char ',' :: commaSeparated (w :: rest)

/-- What the placeholder of a present field becomes. -/
def chunksOf : FieldValue → List Chunk
  | .scalar v => [.bound v]
  | .list items => .char '(' :: commaSeparated items ++ [.char ')']

/-- A declared placeholder without a present field. -/
structure MissingParam where
  name : String
deriving DecidableEq, Repr

/-- The wording of the error. -/
def MissingParam.message (e : MissingParam) : String := "missing parameter: " ++ e.name

/-- What one piece becomes. -/
def substitutePiece (fields : Fields) (declared : List String) :
    Piece → Except MissingParam (List Chunk)
  | .char c => .ok [.char c]
  | .token t =>
    if t.name ∈ declared then
      match t.kind, fields.present? t.name with
      | .placeholder, some value => .ok (chunksOf value)
      | .placeholder, none => .error ⟨t.name⟩
      | _, some _ => .ok []
      | _, none => .ok (t.text.map .char)
    else .ok (t.text.map .char)

/-- What the pieces become, from left to right. -/
def substitute (fields : Fields) (declared : List String) :
    List Piece → Except MissingParam (List Chunk)
  | [] => .ok []
  | p :: ps => do
    let chunks ← substitutePiece fields declared p
    return chunks ++ (← substitute fields declared ps)

/-! ## 3. Writing -/

/-- The text of the chunks when `n` markers have been written before them. -/
def writeFrom (style : MarkerStyle) (n : Nat) : List Chunk → List Char
  | [] => []
  | .char c :: rest => c :: writeFrom style n rest
  | .bound _ :: rest => style.marker (n + 1) ++ writeFrom style (n + 1) rest

/-- The bound values of the chunks. -/
def boundValues (chunks : List Chunk) : List Scalar :=
  chunks.filterMap fun
    | .char _ => none
    | .bound v => some v

/-- The statement that the chunks make in the given style. -/
def statementOf (style : MarkerStyle) (chunks : List Chunk) : Statement where
  sql := String.ofList (writeFrom style 0 chunks)
  args := boundValues chunks

/-- The statement for a template, the fields of a request and the declared names. -/
def compile (style : MarkerStyle) (template : String) (fields : Fields) (declared : List String) :
    Except MissingParam Statement :=
  (substitute fields declared (pieces (stripAbsent fields declared template.toList))).map
    (statementOf style)

end Template

end SqlGateway
