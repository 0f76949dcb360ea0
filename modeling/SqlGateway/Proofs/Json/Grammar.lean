/-
# The grammar of JSON texts

Which bytes are the text of which value.  The grammar follows the productions of JSON one by one
and says nothing about reading: blanks may stand on both sides of a value, a character of a string
may be written as it is or as an escape, and the keys of an object may repeat.

A literal says a number by the rule of `Json.Literal`; one that is too large says none, so it is no
text of a value.
-/
import SqlGateway.Json.Reader

namespace SqlGateway.Json

/-! ## 1. Shapes of values -/

/-- A value is neither an array nor an object. -/
def IsScalar : Json → Prop
  | .array _ => False
  | .object _ => False
  | _ => True

/-- A value is a scalar or an array of scalars. -/
def IsFlat : Json → Prop
  | .array items => ∀ item ∈ items, item.IsScalar
  | .object _ => False
  | _ => True

/-! ## 2. Blanks and strings -/

/-- What may stand between two tokens. -/
def Blanks (bs : List UInt8) : Prop := ∀ b ∈ bs, isSpace b = true

/-- Four hexadecimal digits and their value. -/
inductive HexText : List UInt8 → Nat → Prop
  | digits {a b c d : UInt8} {p q r s : Nat} (ha : hexValue? a = some p) (hb : hexValue? b = some q)
      (hc : hexValue? c = some r) (hd : hexValue? d = some s) :
      HexText [a, b, c, d] (((p * 16 + q) * 16 + r) * 16 + s)

/-- The characters that have an escape of one letter. -/
def escapes : List (UInt8 × Char) :=
  [(34, '"'), (92, '\\'), (47, '/'), (98, '\x08'), (102, '\x0c'), (110, '\n'), (114, '\r'),
    (116, '\t')]

/-- A character between the quotes. -/
inductive CharText : List UInt8 → Char → Prop
  | plain {c : Char} (quote : c ≠ '"') (backslash : c ≠ '\\') (control : 0x20 ≤ c.toNat) :
      CharText (String.utf8EncodeChar c) c
  | escaped {b : UInt8} {c : Char} (listed : (b, c) ∈ escapes) : CharText [92, b] c
  | codePoint {ds : List UInt8} {n : Nat} (digits : HexText ds n)
      (scalar : n < 0xD800 ∨ 0xDFFF < n) : CharText (92 :: 117 :: ds) (Char.ofNat n)
  | surrogates {ds es : List UInt8} {m n : Nat} (leading : HexText ds m) (trailing : HexText es n)
      (hm : 0xD800 ≤ m ∧ m ≤ 0xDBFF) (hn : 0xDC00 ≤ n ∧ n ≤ 0xDFFF) :
      CharText (92 :: 117 :: ds ++ 92 :: 117 :: es)
        (Char.ofNat ((m - 0xD800) * 1024 + (n - 0xDC00) + 0x10000))

/-- What stands between the quotes of a string. -/
inductive CharsText : List UInt8 → List Char → Prop
  | nil : CharsText [] []
  | cons {bs more : List UInt8} {c : Char} {cs : List Char} (first : CharText bs c)
      (rest : CharsText more cs) : CharsText (bs ++ more) (c :: cs)

/-- A string with its quotes. -/
def StringText (bs : List UInt8) (s : String) : Prop :=
  ∃ inside, CharsText inside s.toList ∧ bs = 34 :: inside ++ [34]

/-! ## 3. Numbers -/

/-- The values of digits. -/
def digitValues (ds : List UInt8) : List Nat := ds.map (·.toNat - 48)

/-- The number that digits write behind `n`. -/
def valueFrom (n : Nat) (ds : List UInt8) : Nat :=
  (digitValues ds).foldl (fun n d => n * 10 + d) n

/-- The exponent of a literal. -/
structure Exponent where
  letter : UInt8
  sign : Option Bool
  digits : List UInt8
  isLetter : letter = 101 ∨ letter = 69
  isNumber : ∀ b ∈ digits, isDigit b = true
  nonempty : digits ≠ []

/-- The sign of an exponent, which is a minus if `true`. -/
def signText : Option Bool → List UInt8
  | none => []
  | some false => [43]
  | some true => [45]

/-- The exponent as it is written. -/
def Exponent.text (e : Exponent) : List UInt8 := e.letter :: signText e.sign ++ e.digits

/-- A number literal.  Without digits in the fraction there is no point. -/
structure Numeral where
  negative : Bool
  whole : List UInt8
  fraction : List UInt8
  exponent : Option Exponent
  isWhole : ∀ b ∈ whole, isDigit b = true
  nonempty : whole ≠ []
  noLeadingZero : whole.head? = some 48 → whole = [48]
  isFraction : ∀ b ∈ fraction, isDigit b = true

namespace Numeral

/-- The fraction as it is written. -/
def fractionText (n : Numeral) : List UInt8 :=
  if n.fraction = [] then [] else 46 :: n.fraction

/-- The exponent as it is written. -/
def exponentText (n : Numeral) : List UInt8 := n.exponent.elim [] Exponent.text

/-- The literal as it is written. -/
def text (n : Numeral) : List UInt8 :=
  (if n.negative then [45] else []) ++ n.whole ++ n.fractionText ++ n.exponentText

/-- The float of gathered digits with the sign of the literal. -/
def float? (n : Numeral) (g : Literal.Gathered) : Option JsonNumber :=
  (g.float n.negative).bind JsonNumber.ofFloat?

/-- The digits in front of the point. -/
def gatheredWhole (n : Numeral) : Literal.Gathered :=
  Literal.gatherWhole ⟨0, 0⟩ (digitValues n.whole)

/-- All digits in front of the exponent. -/
def gathered (n : Numeral) : Literal.Gathered :=
  Literal.gatherFraction n.gatheredWhole (digitValues n.fraction)

/-- The number of gathered digits with an exponent.  One beyond the limit makes zero of them if it
points down, and no number if it points up, unless they are zero. -/
def scaled? (n : Numeral) (g : Literal.Gathered) (e : Exponent) : Option JsonNumber :=
  let power := valueFrom 0 e.digits
  let downwards := e.sign = some true
  if power ≤ exponentLimit then
    n.float? ⟨g.significand, if downwards then g.exponent - power else g.exponent + power⟩
  else if g.significand ≠ 0 ∧ ¬ downwards then none
  else n.float? ⟨0, 0⟩

/-- The number that the literal says. -/
def value? (n : Numeral) : Option JsonNumber :=
  match n.exponent with
  | some e => n.scaled? n.gathered e
  | none =>
    if n.fraction = [] ∧ n.gatheredWhole.exponent = 0 then
      Literal.integer n.negative n.gatheredWhole.significand
    else n.float? n.gathered

end Numeral

/-! ## 4. Values -/

/-- What a text can be the text of. -/
inductive Form where
  | value (v : Json)
  /-- A value with blanks around it. -/
  | element (v : Json)
  /-- Elements with commas between them. -/
  | elements (vs : List Json)
  /-- A key with its value. -/
  | member (key : String) (v : Json)
  /-- Members with commas between them. -/
  | members (ms : List (String × Json))
  /-- An object, with all the members that are written. -/
  | object (ms : List (String × Json))

/-- The bytes are a text of this form, and brackets and braces nest so deep in it. -/
inductive TextOf : List UInt8 → Nat → Form → Prop
  | null : TextOf (Text.Utf8.encode "null") 0 (.value .null)
  | true : TextOf (Text.Utf8.encode "true") 0 (.value (.bool true))
  | false : TextOf (Text.Utf8.encode "false") 0 (.value (.bool false))
  | number {n : Numeral} {x : JsonNumber} (means : n.value? = some x) :
      TextOf n.text 0 (.value (.number x))
  | string {bs : List UInt8} {s : String} (written : StringText bs s) :
      TextOf bs 0 (.value (.string s))
  | emptyArray {ws : List UInt8} (blanks : Blanks ws) :
      TextOf (91 :: ws ++ [93]) 1 (.value (.array []))
  | array {bs : List UInt8} {n : Nat} {vs : List Json} (items : TextOf bs n (.elements vs)) :
      TextOf (91 :: bs ++ [93]) (n + 1) (.value (.array vs))
  | ofObject {bs : List UInt8} {n : Nat} {ms : List (String × Json)}
      (written : TextOf bs n (.object ms)) : TextOf bs n (.value (.object (membersOf ms)))
  | emptyObject {ws : List UInt8} (blanks : Blanks ws) : TextOf (123 :: ws ++ [125]) 1 (.object [])
  | object {bs : List UInt8} {n : Nat} {ms : List (String × Json)}
      (entries : TextOf bs n (.members ms)) : TextOf (123 :: bs ++ [125]) (n + 1) (.object ms)
  | element {ws bs ws' : List UInt8} {n : Nat} {v : Json} (front : Blanks ws)
      (written : TextOf bs n (.value v)) (back : Blanks ws') :
      TextOf (ws ++ bs ++ ws') n (.element v)
  | lastElement {bs : List UInt8} {n : Nat} {v : Json} (written : TextOf bs n (.element v)) :
      TextOf bs n (.elements [v])
  | moreElements {bs more : List UInt8} {n k : Nat} {v : Json} {vs : List Json}
      (written : TextOf bs n (.element v)) (rest : TextOf more k (.elements vs)) :
      TextOf (bs ++ 44 :: more) (max n k) (.elements (v :: vs))
  | member {ws ks ws' bs : List UInt8} {n : Nat} {key : String} {v : Json} (front : Blanks ws)
      (named : StringText ks key) (back : Blanks ws') (written : TextOf bs n (.element v)) :
      TextOf (ws ++ ks ++ ws' ++ 58 :: bs) n (.member key v)
  | lastMember {bs : List UInt8} {n : Nat} {key : String} {v : Json}
      (written : TextOf bs n (.member key v)) : TextOf bs n (.members [(key, v)])
  | moreMembers {bs more : List UInt8} {n k : Nat} {key : String} {v : Json}
      {ms : List (String × Json)} (written : TextOf bs n (.member key v))
      (rest : TextOf more k (.members ms)) :
      TextOf (bs ++ 44 :: more) (max n k) (.members ((key, v) :: ms))

namespace TextOf

/-- A value without blanks around it. -/
theorem bare {bs : List UInt8} {n : Nat} {v : Json} (h : TextOf bs n (.value v)) :
    TextOf bs n (.element v) := by
  have hblanks : Blanks [] := List.forall_mem_nil _
  have helement := element hblanks h hblanks
  rwa [List.nil_append, List.append_nil] at helement

/-- How deep a text may nest if it is one of these values. -/
def bound : Form → Nat → Prop
  | .value v, n => (v.IsScalar → n = 0) ∧ (v.IsFlat → n ≤ 1)
  | .element v, n => (v.IsScalar → n = 0) ∧ (v.IsFlat → n ≤ 1)
  | .elements vs, n => (∀ v ∈ vs, v.IsScalar) → n = 0
  | .member _ v, n => v.IsFlat → n ≤ 1
  | _, _ => True

theorem bound_of {bs : List UInt8} {n : Nat} {form : Form} (h : TextOf bs n form) :
    bound form n := by
  induction h with
  | null => exact ⟨fun _ => rfl, fun _ => Nat.zero_le 1⟩
  | true => exact ⟨fun _ => rfl, fun _ => Nat.zero_le 1⟩
  | false => exact ⟨fun _ => rfl, fun _ => Nat.zero_le 1⟩
  | number => exact ⟨fun _ => rfl, fun _ => Nat.zero_le 1⟩
  | string => exact ⟨fun _ => rfl, fun _ => Nat.zero_le 1⟩
  | emptyArray => exact ⟨False.elim, fun _ => Nat.le_refl 1⟩
  | array _ ih => exact ⟨False.elim, fun hflat => Nat.succ_le_succ (Nat.le_of_eq (ih hflat))⟩
  | ofObject => exact ⟨False.elim, False.elim⟩
  | element _ _ _ ih => exact ih
  | lastElement _ ih => exact fun hscalar => ih.1 (hscalar _ List.mem_cons_self)
  | moreElements _ _ ih ihs =>
    intro hscalar
    rw [ih.1 (hscalar _ List.mem_cons_self), ihs fun v hv => hscalar v (List.mem_cons_of_mem _ hv)]
    rfl
  | member _ _ _ _ ih => exact ih.2
  | _ => trivial

/-- **A value of a field nests at most once**, and its text does not nest deeper. -/
theorem le_one_of_isFlat {bs : List UInt8} {n : Nat} {key : String} {v : Json}
    (h : TextOf bs n (.member key v)) (hflat : v.IsFlat) : n ≤ 1 :=
  h.bound_of hflat

end TextOf

end SqlGateway.Json
