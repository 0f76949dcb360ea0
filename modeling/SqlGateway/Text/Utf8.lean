/-
# UTF-8, also where it is malformed

A byte sequence is cut into pieces: encoded characters, maximal malformed parts, and at the end
possibly a part that only lacks its continuation.  Three readings use the same cut:

* `decode?` accepts a sequence of characters and nothing else;
* `decodeLossy` writes U+FFFD for every other piece;
* `firstFault` says where the first other piece stands and how long it is.
-/
namespace SqlGateway.Text.Utf8

/-! ## 1. Pieces -/

/-- A maximal part of a byte sequence. -/
inductive Piece where
  /-- An encoded character and the number of its bytes. -/
  | char (c : Char) (size : Nat)
  /-- Bytes that begin no character. -/
  | malformed (size : Nat)
  /-- A beginning of a character at the end of the input. -/
  | incomplete (size : Nat)
deriving DecidableEq, Repr

/-- The number of bytes of a piece. -/
def Piece.size : Piece → Nat
  | char _ n => n
  | malformed n => n
  | incomplete n => n

/-- Whether `b` continues a character. -/
def isContinuation (b : UInt8) : Bool := 0x80 ≤ b && b ≤ 0xBF

/-- Whether `b` may follow the lead byte `a`: the second byte is where overlong forms, surrogates
and numbers above U+10FFFF show. -/
def isSecond (a b : UInt8) : Bool :=
  if a == 0xE0 then 0xA0 ≤ b && b ≤ 0xBF
  else if a == 0xED then 0x80 ≤ b && b ≤ 0x9F
  else if a == 0xF0 then 0x90 ≤ b && b ≤ 0xBF
  else if a == 0xF4 then 0x80 ≤ b && b ≤ 0x8F
  else isContinuation b

/-- How many bytes a character with this lead byte has; none if no character begins so. -/
def leadSize (a : UInt8) : Nat :=
  if a < 0x80 then 1
  else if 0xC2 ≤ a && a ≤ 0xDF then 2
  else if 0xE0 ≤ a && a ≤ 0xEF then 3
  else if 0xF0 ≤ a && a ≤ 0xF4 then 4
  else 0

/-- The six low bits of a continuation byte. -/
def low6 (b : UInt8) : Nat := b.toNat % 64

/-- The first piece of `a :: rest`. -/
def firstPiece (a : UInt8) (rest : List UInt8) : Piece :=
  match leadSize a, rest with
  | 1, _ => .char (Char.ofNat a.toNat) 1
  | 2, [] => .incomplete 1
  | 2, b :: _ =>
    if isContinuation b then .char (Char.ofNat (a.toNat % 32 * 64 + low6 b)) 2 else .malformed 1
  | 3, [] => .incomplete 1
  | 3, b :: more =>
    if !isSecond a b then .malformed 1
    else
      match more with
      | [] => .incomplete 2
      | c :: _ =>
        if isContinuation c then
          .char (Char.ofNat (a.toNat % 16 * 4096 + low6 b * 64 + low6 c)) 3
        else .malformed 2
  | 4, [] => .incomplete 1
  | 4, b :: more =>
    if !isSecond a b then .malformed 1
    else
      match more with
      | [] => .incomplete 2
      | c :: more =>
        if !isContinuation c then .malformed 2
        else
          match more with
          | [] => .incomplete 3
          | d :: _ =>
            if isContinuation d then
              .char (Char.ofNat (a.toNat % 8 * 262144 + low6 b * 4096 + low6 c * 64 + low6 d)) 4
            else .malformed 3
  | _, _ => .malformed 1

/-- The pieces of a byte sequence, in order. -/
def pieces : List UInt8 → List Piece
  | [] => []
  | a :: rest =>
    let p := firstPiece a rest
    p :: pieces (rest.drop (p.size - 1))
termination_by bs => bs.length
decreasing_by simp only [List.length_drop, List.length_cons]; omega

/-! ## 2. Readings -/

/-- The text of a well-formed sequence. -/
def decodeChars? (bs : List UInt8) : Option (List Char) :=
  (pieces bs).mapM fun
    | .char c _ => some c
    | _ => none

/-- The text of a well-formed sequence. -/
def decode? (bs : List UInt8) : Option String := (decodeChars? bs).map String.ofList

/-- The text of any sequence, U+FFFD standing for every piece that is no character. -/
def decodeLossy (bs : List UInt8) : String :=
  String.ofList ((pieces bs).map fun
    | .char c _ => c
    | _ => '\uFFFD')

/-- Where a sequence stops being text. -/
structure Fault where
  index : Nat
  /-- The number of malformed bytes; none when the input merely ends too soon. -/
  size : Option Nat
deriving DecidableEq, Repr

/-- The first piece that is no character, given the number of bytes before the pieces. -/
def faultFrom : Nat → List Piece → Option Fault
  | _, [] => none
  | i, .char _ n :: ps => faultFrom (i + n) ps
  | i, .malformed n :: _ => some ⟨i, some n⟩
  | i, .incomplete _ :: _ => some ⟨i, none⟩

/-- The first place where a sequence stops being text. -/
def firstFault (bs : List UInt8) : Option Fault := faultFrom 0 (pieces bs)

/-- The wording of a fault. -/
def Fault.message (f : Fault) : String :=
  match f.size with
  | some n => "invalid utf-8 sequence of " ++ toString n ++ " bytes from index " ++ toString f.index
  | none => "incomplete utf-8 byte sequence from index " ++ toString f.index

/-! ## 3. Writing -/

/-- The bytes of a text. -/
def encodeChars (cs : List Char) : List UInt8 := cs.flatMap String.utf8EncodeChar

/-- The bytes of a text. -/
def encode (s : String) : List UInt8 := encodeChars s.toList

end SqlGateway.Text.Utf8
