/-
# Reading JSON

A reader takes bytes from the front of its input and returns what is left, together with the
proof that something was taken; that proof is what lets the readers of arrays and objects repeat.
A fault carries its cause and the number of bytes that were left when it showed, so the reader
never counts lines: `position` does that, once, at the end.

Values nest to a depth of 127.
-/
import SqlGateway.Json.Literal
import SqlGateway.Text.Utf8

namespace SqlGateway.Json

open Text

/-! ## 1. Faults -/

/-- Why a text is no JSON value. -/
inductive Cause where
  | endInValue
  | endInList
  | endInObject
  | endInString
  | expectedValue
  | expectedIdent
  | expectedColon
  | expectedCommaOrBrace
  | expectedCommaOrBracket
  | keyMustBeString
  | trailingComma
  | trailingCharacters
  | invalidNumber
  | numberOutOfRange
  | invalidEscape
  | loneSurrogate
  | unfinishedSurrogate
  | invalidCodePoint
  | controlCharacter
  | tooDeep
deriving DecidableEq, Repr

/-- The wording of a cause. -/
def Cause.message : Cause → String
  | endInValue => "EOF while parsing a value"
  | endInList => "EOF while parsing a list"
  | endInObject => "EOF while parsing an object"
  | endInString => "EOF while parsing a string"
  | expectedValue => "expected value"
  | expectedIdent => "expected ident"
  | expectedColon => "expected `:`"
  | expectedCommaOrBrace => "expected `,` or `\x7d`"
  | expectedCommaOrBracket => "expected `,` or `]`"
  | keyMustBeString => "key must be a string"
  | trailingComma => "trailing comma"
  | trailingCharacters => "trailing characters"
  | invalidNumber => "invalid number"
  | numberOutOfRange => "number out of range"
  | invalidEscape => "invalid escape"
  | loneSurrogate => "lone leading surrogate in hex escape"
  | unfinishedSurrogate => "unexpected end of hex escape"
  | invalidCodePoint => "invalid unicode code point"
  | controlCharacter => "control character (\\u0000-\\u001F) found while parsing a string"
  | tooDeep => "recursion limit exceeded"

/-- A fault, and the number of bytes not yet taken where it showed. -/
structure Fault where
  cause : Cause
  left : Nat
deriving DecidableEq, Repr

/-- A fault that shows with `rest` still to be read. -/
def faultAt (cause : Cause) (rest : List UInt8) : Fault := ⟨cause, rest.length⟩

/-- A fault that shows on the first byte of `rest`, which counts as looked at. -/
def faultOn (cause : Cause) (rest : List UInt8) : Fault := ⟨cause, rest.length - 1⟩

/-- A place in a text: the line, counted from one, and the bytes before the place on that line. -/
structure Position where
  line : Nat
  column : Nat
deriving DecidableEq, Repr

/-- The place in `input` where `left` bytes remain. -/
def position (input : List UInt8) (left : Nat) : Position :=
  let seen := input.take (input.length - left)
  ⟨seen.count 10 + 1, (seen.reverse.takeWhile (· != 10)).length⟩

/-- The wording of a place. -/
def Position.message (p : Position) : String :=
  " at line " ++ toString p.line ++ " column " ++ toString p.column

/-! ## 2. What a reader returns -/

/-- What was read from the front of `s`, and what is left of it. -/
structure Taken (α : Type) (s : List UInt8) where
  value : α
  rest : List UInt8
  shorter : rest.length < s.length

/-- What was read from a later part of `s` was read from `s`. -/
def Taken.widen {α : Type} {s t : List UInt8} (r : Taken α t) (h : t.length ≤ s.length) :
    Taken α s :=
  ⟨r.value, r.rest, Nat.lt_of_lt_of_le r.shorter h⟩

/-! ## 3. Blanks and words -/

/-- Whether `b` may stand between two tokens. -/
def isSpace (b : UInt8) : Bool := b == 32 || b == 10 || b == 9 || b == 13

/-- `s` from its first byte that is no blank. -/
def skipBlanks (s : List UInt8) : List UInt8 := s.dropWhile isSpace

theorem length_skipBlanks_le (s : List UInt8) : (skipBlanks s).length ≤ s.length :=
  (List.dropWhile_suffix isSpace).length_le

/-- Takes the rest of a word whose first letter has been taken. -/
def takeWord : List Char → (s : List UInt8) → Except Fault { r : List UInt8 // r.length ≤ s.length }
  | [], s => .ok ⟨s, Nat.le_refl _⟩
  | _ :: _, [] => .error (faultAt .endInValue [])
  | c :: cs, b :: s =>
    if b.toNat = c.toNat then
      (takeWord cs s).map fun r => ⟨r.1, Nat.le_succ_of_le r.2⟩
    else .error (faultAt .expectedIdent s)

/-! ## 4. Strings -/

/-- The value of a hexadecimal digit. -/
def hexValue? (b : UInt8) : Option Nat :=
  if 48 ≤ b && b ≤ 57 then some (b.toNat - 48)
  else if 97 ≤ b && b ≤ 102 then some (b.toNat - 87)
  else if 65 ≤ b && b ≤ 70 then some (b.toNat - 55)
  else none

/-- Takes four hexadecimal digits. -/
def takeHex4 : (s : List UInt8) → Except Fault (Taken Nat s)
  | a :: b :: c :: d :: s =>
    match hexValue? a, hexValue? b, hexValue? c, hexValue? d with
    | some a, some b, some c, some d =>
      .ok ⟨((a * 16 + b) * 16 + c) * 16 + d, s, by simp only [List.length_cons]; omega⟩
    | _, _, _, _ => .error (faultAt .invalidEscape s)
  | _ => .error (faultAt .endInString [])

/-- Takes what follows `\u`: four digits, and for a leading surrogate the escape of the trailing
one as well. -/
def takeCodePoint (s : List UInt8) : Except Fault (Taken Char s) := do
  let r ← takeHex4 s
  let n := r.value
  if 0xDC00 ≤ n ∧ n ≤ 0xDFFF then throw (faultAt .loneSurrogate r.rest)
  if n < 0xD800 ∨ 0xDBFF < n then return ⟨Char.ofNat n, r.rest, r.shorter⟩
  match h : r.rest with
  | [] => throw (faultAt .endInString [])
  | [b] =>
    if b = 92 then throw (faultAt .endInString []) else throw (faultAt .unfinishedSurrogate [])
  | b :: u :: more =>
    if b ≠ 92 then throw (faultAt .unfinishedSurrogate (u :: more))
    if u ≠ 117 then throw (faultAt .unfinishedSurrogate more)
    let r' ← takeHex4 more
    let n' := r'.value
    if n' < 0xDC00 ∨ 0xDFFF < n' then throw (faultAt .loneSurrogate r'.rest)
    return ⟨Char.ofNat ((n - 0xD800) * 1024 + (n' - 0xDC00) + 0x10000), r'.rest, by
      have h1 := r'.shorter
      have h2 := r.shorter
      simp only [h, List.length_cons] at h2
      omega⟩

/-- Takes what follows a backslash. -/
def takeEscape : (s : List UInt8) → Except Fault (Taken Char s)
  | [] => .error (faultAt .endInString [])
  | b :: s =>
    let simple (c : Char) : Except Fault (Taken Char (b :: s)) := .ok ⟨c, s, by simp⟩
    if b = 34 then simple '"'
    else if b = 92 then simple '\\'
    else if b = 47 then simple '/'
    else if b = 98 then simple '\x08'
    else if b = 102 then simple '\x0c'
    else if b = 110 then simple '\n'
    else if b = 114 then simple '\r'
    else if b = 116 then simple '\t'
    else if b = 117 then (takeCodePoint s).map (·.widen (Nat.le_succ _))
    else .error (faultAt .invalidEscape s)

/-- Takes the bytes of a string up to the closing quote; `seen` holds them in reverse. -/
def takeStringBytes (seen : List UInt8) (s : List UInt8) :
    Except Fault (Taken (List UInt8) s) :=
  match s with
  | [] => .error (faultAt .endInString [])
  | b :: rest =>
    if b = 34 then .ok ⟨seen.reverse, rest, by simp⟩
    else if b = 92 then
      match takeEscape rest with
      | .error e => .error e
      | .ok r =>
        have := r.shorter
        (takeStringBytes ((String.utf8EncodeChar r.value).reverse ++ seen) r.rest).map
          (·.widen (by simp only [List.length_cons]; omega))
    else if b < 32 then .error (faultAt .controlCharacter rest)
    else (takeStringBytes (b :: seen) rest).map (·.widen (by simp))
termination_by s.length
decreasing_by all_goals (simp only [List.length_cons]; omega)

/-- The fault of a string whose bytes are not UTF-8, with `rest` behind its closing quote.  The
place is counted back from there, by the bytes of the string from the first at fault on; an escape
has fewer bytes in the string than in the text. -/
def notUtf8 (bytes rest : List UInt8) : Fault :=
  ⟨.invalidCodePoint, rest.length + bytes.length - (Utf8.firstFault bytes).elim 0 (·.index)⟩

/-- Takes a string whose opening quote has been taken. -/
def takeString (s : List UInt8) : Except Fault (Taken String s) := do
  let r ← takeStringBytes [] s
  match Utf8.decode? r.value with
  | some text => return ⟨text, r.rest, r.shorter⟩
  | none => throw (notUtf8 r.value r.rest)

/-! ## 5. Numbers -/

/-- Whether `b` is a decimal digit. -/
def isDigit (b : UInt8) : Bool := 48 ≤ b && b ≤ 57

/-- The digits at the front of `s`. -/
def leadingDigits (s : List UInt8) : List Nat := (s.takeWhile isDigit).map (·.toNat - 48)

/-- `s` behind the digits at its front. -/
def afterDigits (s : List UInt8) : List UInt8 := s.dropWhile isDigit

theorem length_afterDigits_le (s : List UInt8) : (afterDigits s).length ≤ s.length :=
  (List.dropWhile_suffix isDigit).length_le

/-- What remains of `s`, which may be all of it. -/
abbrev Remainder (s : List UInt8) := { r : List UInt8 // r.length ≤ s.length }

/-- The largest exponent that a literal may write. -/
def exponentLimit : Nat := 0x80000000 - 1

/-- The digits of an exponent: its value, or, once it exceeds the limit, what is left behind the
digit that took it there. -/
def readExponent (value : Nat) : List UInt8 → Nat ⊕ List UInt8
  | [] => .inl value
  | b :: s =>
    if isDigit b then
      let value := value * 10 + (b.toNat - 48)
      if exponentLimit < value then .inr s else readExponent value s
    else .inl value

/-- The float of what was gathered; the fault shows with `rest` to be read. -/
def finishFloat (negative : Bool) (g : Literal.Gathered) (rest : List UInt8) :
    Except Fault JsonNumber :=
  match (g.float negative).bind JsonNumber.ofFloat? with
  | some n => .ok n
  | none => .error (faultAt .numberOutOfRange rest)

/-- The sign of an exponent, a minus if `true`, and what stands behind it. -/
def takeSign : (s : List UInt8) → Bool × Remainder s
  | [] => (false, ⟨[], Nat.le_refl _⟩)
  | b :: t =>
    if b = 43 then (false, ⟨t, Nat.le_succ _⟩)
    else if b = 45 then (true, ⟨t, Nat.le_succ _⟩)
    else (false, ⟨b :: t, Nat.le_refl _⟩)

/-- Takes the digits of an exponent. -/
def takeExponentDigits (negative downwards : Bool) (g : Literal.Gathered) :
    (s : List UInt8) → Except Fault (JsonNumber × Remainder s)
  | [] => .error (faultAt .endInValue [])
  | b :: t =>
    if isDigit b then
      let rest : Remainder (b :: t) := ⟨afterDigits (b :: t), length_afterDigits_le _⟩
      match readExponent 0 (b :: t) with
      | .inl e =>
        let exponent := if downwards then g.exponent - e else g.exponent + e
        (finishFloat negative ⟨g.significand, exponent⟩ rest.1).map (·, rest)
      | .inr left =>
        if g.significand ≠ 0 ∧ !downwards then .error (faultAt .numberOutOfRange left)
        else (finishFloat negative ⟨0, 0⟩ rest.1).map (·, rest)
    else .error (faultAt .invalidNumber t)

/-- Takes what follows `e` or `E`. -/
def takeExponent (negative : Bool) (g : Literal.Gathered) (s : List UInt8) :
    Except Fault (JsonNumber × Remainder s) :=
  let (downwards, unsigned) := takeSign s
  (takeExponentDigits negative downwards g unsigned.1).map fun r =>
    (r.1, ⟨r.2.1, Nat.le_trans r.2.2 unsigned.2⟩)

/-- Takes what follows the point. -/
def takeFraction (negative : Bool) (g : Literal.Gathered) (s : List UInt8) :
    Except Fault (JsonNumber × Remainder s) := do
  if (leadingDigits s).isEmpty then
    throw (if s.isEmpty then faultOn .endInValue s else faultOn .invalidNumber s)
  let g := Literal.gatherFraction g (leadingDigits s)
  match h : afterDigits s with
  | [] => return (← finishFloat negative g [], ⟨[], Nat.zero_le _⟩)
  | b :: t =>
    have hle : (b :: t).length ≤ s.length := h ▸ length_afterDigits_le s
    if b = 101 ∨ b = 69 then
      let (n, r) ← takeExponent negative g t
      return (n, ⟨r.1, Nat.le_trans r.2 (Nat.le_trans (Nat.le_succ _) hle)⟩)
    else return (← finishFloat negative g (b :: t), ⟨b :: t, hle⟩)

/-- The number of a whole part that nothing follows; `exact` when its digits all fit 64 bits. -/
def finishWhole (negative exact : Bool) (g : Literal.Gathered) (rest : List UInt8) :
    Except Fault JsonNumber :=
  if exact then
    match Literal.integer negative g.significand with
    | some n => .ok n
    | none => .error (faultAt .numberOutOfRange rest)
  else finishFloat negative g rest

/-- Takes what follows the digits of the whole part. -/
def takeNumberTail (negative exact : Bool) (g : Literal.Gathered) :
    (s : List UInt8) → Except Fault (JsonNumber × Remainder s)
  | [] => (finishWhole negative exact g []).map fun n => (n, ⟨[], Nat.le_refl _⟩)
  | b :: t =>
    if b = 46 then
      (takeFraction negative g t).map fun r => (r.1, ⟨r.2.1, Nat.le_succ_of_le r.2.2⟩)
    else if b = 101 ∨ b = 69 then
      (takeExponent negative g t).map fun r => (r.1, ⟨r.2.1, Nat.le_succ_of_le r.2.2⟩)
    else (finishWhole negative exact g (b :: t)).map fun n => (n, ⟨b :: t, Nat.le_refl _⟩)

/-- Takes a number whose sign, if any, has been taken. -/
def takeNumber (negative : Bool) : (s : List UInt8) → Except Fault (Taken JsonNumber s)
  | [] => .error (faultAt .endInValue [])
  | b :: t =>
    if b = 48 then
      if (t.head?.map isDigit).getD false then .error (faultOn .invalidNumber t)
      else
        (takeNumberTail negative true ⟨0, 0⟩ t).map fun r =>
          ⟨r.1, r.2.1, Nat.lt_succ_of_le r.2.2⟩
    else if isDigit b then
      let g := Literal.gatherWhole ⟨b.toNat - 48, 0⟩ (leadingDigits t)
      (takeNumberTail negative (g.exponent = 0) g (afterDigits t)).map fun r =>
        ⟨r.1, r.2.1, Nat.lt_succ_of_le (Nat.le_trans r.2.2 (length_afterDigits_le t))⟩
    else .error (faultAt .invalidNumber t)

/-! ## 6. Separators -/

/-- What stands next inside brackets. -/
inductive Turn (s : List UInt8) where
  /-- The closing bracket, with what follows it. -/
  | close (rest : List UInt8) (shorter : rest.length < s.length)
  /-- Another entry, with the input from its first byte on. -/
  | entry (rest : List UInt8) (notLonger : rest.length ≤ s.length)

/-- Finds the next item of an array. -/
def nextItem (first : Bool) (s : List UInt8) : Except Fault (Turn s) :=
  have hs := length_skipBlanks_le s
  match h : skipBlanks s with
  | [] => .error (faultOn .endInList [])
  | b :: t =>
    have hb : t.length < s.length := by simp only [h, List.length_cons] at hs; omega
    if b = 93 then .ok (.close t hb)
    else if b = 44 ∧ !first then
      have ht := length_skipBlanks_le t
      match h' : skipBlanks t with
      | [] => .error (faultOn .endInValue [])
      | c :: u =>
        if c = 93 then .error (faultOn .trailingComma (c :: u))
        else .ok (.entry (c :: u) (by rw [h'] at ht; omega))
    else if first then .ok (.entry (b :: t) (by rw [h] at hs; exact hs))
    else .error (faultOn .expectedCommaOrBracket (b :: t))

/-- Finds the next key of an object: the input behind its opening quote. -/
def nextKey (first : Bool) (s : List UInt8) : Except Fault (Turn s) :=
  have hs := length_skipBlanks_le s
  let key (t : List UInt8) (ht : t.length ≤ s.length) : Except Fault (Turn s) :=
    match t with
    | [] => .error (faultOn .endInValue [])
    | b :: u =>
      if b = 34 then .ok (.entry u (by simp only [List.length_cons] at ht; omega))
      else if b = 125 then .error (faultOn .trailingComma (b :: u))
      else .error (faultOn .keyMustBeString (b :: u))
  match h : skipBlanks s with
  | [] => .error (faultOn .endInObject [])
  | b :: t =>
    have hb : t.length < s.length := by simp only [h, List.length_cons] at hs; omega
    if b = 125 then .ok (.close t hb)
    else if b = 44 ∧ !first then
      key (skipBlanks t) (Nat.le_trans (length_skipBlanks_le t) (Nat.le_of_lt hb))
    else if first then key (b :: t) (by rw [h] at hs; exact hs)
    else .error (faultOn .expectedCommaOrBrace (b :: t))

/-- Takes the colon behind a key. -/
def takeColon (s : List UInt8) : Except Fault (Taken Unit s) :=
  have hs := length_skipBlanks_le s
  match h : skipBlanks s with
  | [] => .error (faultOn .endInObject [])
  | b :: t =>
    if b = 58 then .ok ⟨(), t, by simp only [h, List.length_cons] at hs; omega⟩
    else .error (faultOn .expectedColon (b :: t))

/-- Takes a key, whose opening quote has been taken, and the colon behind it. -/
def takeKey (s : List UInt8) : Except Fault (Taken String s) := do
  let k ← takeString s
  let c ← takeColon k.rest
  return ⟨k.value, c.rest, Nat.lt_trans c.shorter k.shorter⟩

/-! ## 7. Values -/

mutual

/-- Takes a value; brackets may nest `depth - 1` deep in it. -/
def takeValue (depth : Nat) (s : List UInt8) : Except Fault (Taken Json s) :=
  have hs := length_skipBlanks_le s
  match h : skipBlanks s with
  | [] => .error (faultOn .endInValue [])
  | b :: t =>
    have hb : t.length < s.length := by simp only [h, List.length_cons] at hs; omega
    let word (rest : String) (v : Json) : Except Fault (Taken Json s) :=
      (takeWord rest.toList t).map fun r => ⟨v, r.1, Nat.lt_of_le_of_lt r.2 hb⟩
    if b = 110 then word "ull" .null
    else if b = 116 then word "rue" (.bool true)
    else if b = 102 then word "alse" (.bool false)
    else if b = 45 then
      (takeNumber true t).map fun r => ⟨.number r.value, r.rest, Nat.lt_trans r.shorter hb⟩
    else if isDigit b then
      (takeNumber false (b :: t)).map fun r =>
        ⟨.number r.value, r.rest, by have := r.shorter; rw [h] at hs; omega⟩
    else if b = 34 then
      (takeString t).map fun r => ⟨.string r.value, r.rest, Nat.lt_trans r.shorter hb⟩
    else if b = 91 then
      if depth ≤ 1 then .error (faultOn .tooDeep (b :: t))
      else
        (takeItems (depth - 1) true [] t).map fun r =>
          ⟨.array r.value, r.rest, Nat.lt_trans r.shorter hb⟩
    else if b = 123 then
      if depth ≤ 1 then .error (faultOn .tooDeep (b :: t))
      else
        (takeMembers (depth - 1) true [] t).map fun r =>
          ⟨.object (membersOf r.value), r.rest, Nat.lt_trans r.shorter hb⟩
    else .error (faultOn .expectedValue (b :: t))
termination_by (s.length, 0)
decreasing_by all_goals (apply Prod.Lex.left; assumption)

/-- Takes the items of an array and its closing bracket; `seen` holds the items in reverse. -/
def takeItems (depth : Nat) (first : Bool) (seen : List Json) (s : List UInt8) :
    Except Fault (Taken (List Json) s) :=
  match nextItem first s with
  | .error e => .error e
  | .ok (.close rest shorter) => .ok ⟨seen.reverse, rest, shorter⟩
  | .ok (.entry t ht) =>
    match takeValue depth t with
    | .error e => .error e
    | .ok v =>
      have := v.shorter
      (takeItems depth false (v.value :: seen) v.rest).map
        (·.widen (by omega))
termination_by (s.length, 1)
decreasing_by
  · rcases Nat.lt_or_eq_of_le ht with h | h
    · exact Prod.Lex.left _ _ h
    · rw [h]; exact Prod.Lex.right _ (by decide)
  · apply Prod.Lex.left; omega

/-- Takes the members of an object and its closing brace; `seen` holds them in reverse. -/
def takeMembers (depth : Nat) (first : Bool) (seen : List (String × Json)) (s : List UInt8) :
    Except Fault (Taken (List (String × Json)) s) :=
  match nextKey first s with
  | .error e => .error e
  | .ok (.close rest shorter) => .ok ⟨seen.reverse, rest, shorter⟩
  | .ok (.entry t ht) =>
    match takeKey t with
    | .error e => .error e
    | .ok k =>
      have := k.shorter
      match takeValue depth k.rest with
      | .error e => .error e
      | .ok v =>
        have := v.shorter
        (takeMembers depth false ((k.value, v.value) :: seen) v.rest).map
          (·.widen (by omega))
termination_by (s.length, 1)
decreasing_by all_goals (apply Prod.Lex.left; omega)

end

/-- How deep values nest, plus one. -/
def depthLimit : Nat := 128

/-! ## 8. Whole texts -/

/-- What is wrong with a text, and where. -/
structure ReadError where
  cause : Cause
  position : Position
deriving DecidableEq, Repr

/-- The wording of the error. -/
def ReadError.message (e : ReadError) : String := e.cause.message ++ e.position.message

/-- Nothing but blanks may be left behind the value. -/
def atEnd (rest : List UInt8) : Except Fault Unit :=
  match skipBlanks rest with
  | [] => .ok ()
  | b :: t => .error (faultOn .trailingCharacters (b :: t))

/-- The one value that a text holds. -/
def ofBytes (input : List UInt8) : Except ReadError Json :=
  let whole : Except Fault Json := do
    let r ← takeValue depthLimit input
    atEnd r.rest
    return r.value
  whole.mapError fun e => ⟨e.cause, position input e.left⟩

/-- The one value that a text holds. -/
def ofText (s : String) : Except ReadError Json := ofBytes (Utf8.encode s)

end SqlGateway.Json
