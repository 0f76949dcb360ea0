/-
# A place in a YAML text

A cursor is the rest of a text and the place where it begins: line, column, and how many bytes of
the text stand before it.
Five characters end a line, and a carriage return together with a line feed ends it once.  The end
of the text counts as blank and as a break wherever one may end a token.
-/
namespace SqlGateway.Yaml

/-- The rest of a text, and where it begins.  The index counts bytes, the column characters. -/
structure Cursor where
  rest : List Char
  index : Nat
  line : Nat
  column : Nat

namespace Cursor

/-! ## 1. Characters -/

/-- Whether `c` is a space or a tab. -/
def isBlank (c : Char) : Bool := c == ' ' || c == '\t'

/-- Whether `c` ends a line. -/
def isBreak (c : Char) : Bool :=
  c == '\n' || c == '\r' || c == '\x85' || c == '\u2028' || c == '\u2029'

/-- Whether `c` is a blank or ends a line. -/
def isGap (c : Char) : Bool := isBlank c || isBreak c

/-- Whether `c` may stand in an anchor or in a tag handle. -/
def isWord (c : Char) : Bool := c.isAlphanum || c == '_' || c == '-'

/-- Whether a text may hold `c` at all: no controls but tab and line ends, no surrogates, and not
the last two code points of the basic plane. -/
def isAllowed (c : Char) : Bool :=
  let n := c.toNat
  n == 0x09 || n == 0x0A || n == 0x0D || (0x20 ≤ n && n ≤ 0x7E) || n == 0x85 ||
    (0xA0 ≤ n && n ≤ 0xD7FF) || (0xE000 ≤ n && n ≤ 0xFFFD) || 0x10000 ≤ n

/-- Whether a gap or the end of the text stands at the front. -/
def gapAhead : List Char → Bool
  | [] => true
  | c :: _ => isGap c

/-- Whether a line end or the end of the text stands at the front. -/
def breakAhead : List Char → Bool
  | [] => true
  | c :: _ => isBreak c

/-- Whether `---` or `...` stands at the front and ends there. -/
def documentMark : List Char → Bool
  | '-' :: '-' :: '-' :: more => gapAhead more
  | '.' :: '.' :: '.' :: more => gapAhead more
  | _ => false

/-! ## 2. Moving -/

/-- How many bytes the next `n` characters take. -/
def bytesAhead (c : Cursor) (n : Nat) : Nat := (c.rest.take n).foldl (· + ·.utf8Size) 0

/-- The cursor behind `n` characters of one line, with `rest` to follow. -/
def advance (c : Cursor) (n : Nat) (rest : List Char) : Cursor :=
  ⟨rest, c.index + c.bytesAhead n, c.line, c.column + n⟩

/-- The cursor behind a line end of `n` characters, with `rest` to follow. -/
def nextLine (c : Cursor) (n : Nat) (rest : List Char) : Cursor :=
  ⟨rest, c.index + c.bytesAhead n, c.line + 1, 0⟩

/-- Takes the characters of this line that satisfy `p`, which holds of no line end. -/
def takeWhile (c : Cursor) (p : Char → Bool) : List Char × Cursor :=
  let taken := c.rest.takeWhile p
  (taken, c.advance taken.length (c.rest.dropWhile p))

/-- The cursor behind the characters of this line that satisfy `p`. -/
def skipWhile (c : Cursor) (p : Char → Bool) : Cursor := (c.takeWhile p).2

theorem length_skipWhile_le (c : Cursor) (p : Char → Bool) :
    (c.skipWhile p).rest.length ≤ c.rest.length :=
  (List.dropWhile_suffix p).length_le

/-- The cursor behind a byte order mark, if one begins this line. -/
def skipMark (c : Cursor) : Cursor :=
  match c.column, c.rest with
  | 0, '\uFEFF' :: rest => c.advance 1 rest
  | _, _ => c

theorem length_skipMark_le (c : Cursor) : c.skipMark.rest.length ≤ c.rest.length := by
  unfold skipMark
  split
  · rename_i hc
    simp [advance, hc]
  · exact Nat.le_refl _

/-- Takes a line end, if one stands here: how it reads, and the cursor on the next line. -/
def takeBreak (c : Cursor) : Option (Char × Cursor) :=
  match c.rest with
  | '\r' :: '\n' :: rest => some ('\n', c.nextLine 2 rest)
  | '\u2028' :: rest => some ('\u2028', c.nextLine 1 rest)
  | '\u2029' :: rest => some ('\u2029', c.nextLine 1 rest)
  | x :: rest => if isBreak x then some ('\n', c.nextLine 1 rest) else none
  | [] => none

theorem length_of_takeBreak {c c' : Cursor} {x : Char} (h : c.takeBreak = some (x, c')) :
    c'.rest.length < c.rest.length := by
  unfold takeBreak at h
  split at h <;> simp_all [nextLine]
  · obtain ⟨-, rfl⟩ := h; simp only; omega
  · obtain ⟨-, rfl⟩ := h; simp
  · obtain ⟨-, rfl⟩ := h; simp
  · obtain ⟨-, -, rfl⟩ := h; simp

/-- The cursor behind a line end, if one stands here. -/
def skipBreak (c : Cursor) : Cursor :=
  match c.takeBreak with
  | some (_, c') => c'
  | none => c

/-- The cursor on the line end behind a comment, if one stands here. -/
def skipComment (c : Cursor) : Cursor :=
  match c.rest with
  | '#' :: _ => c.skipWhile (!isBreak ·)
  | _ => c

theorem length_skipComment_le (c : Cursor) : c.skipComment.rest.length ≤ c.rest.length := by
  unfold skipComment
  split
  · exact c.length_skipWhile_le _
  · exact Nat.le_refl _

/-- The cursor behind blanks, a comment and the line end; none if anything else stands there. -/
def finishLine? (c : Cursor) : Option Cursor :=
  let c := (c.skipWhile isBlank).skipComment
  if breakAhead c.rest then some c.skipBreak else none

/-! ## 3. Gaps between words -/

/-- What stands between two words of a scalar: blanks on one line, or the first line end and the
further ones. -/
structure Gap where
  blanks : List Char
  firstBreak : Option Char
  moreBreaks : List Char

/-- Nothing between two words. -/
def Gap.none : Gap := ⟨[], .none, []⟩

/-- How a gap reads: blanks as they are; a line end as a space; of several line feeds, one less.
A line end that is no line feed stays. -/
def Gap.text (g : Gap) : List Char :=
  match g.firstBreak with
  | .none => if g.moreBreaks.isEmpty then g.blanks else g.moreBreaks
  | some '\n' => if g.moreBreaks.isEmpty then [' '] else g.moreBreaks
  | some x => x :: g.moreBreaks

/-- Takes the gap that stands here.  With `broken` a line end has been taken before, so blanks
count for nothing.  With a `limit`, a tab before that column on a later line is refused. -/
def takeGap (limit : Option Nat) (c : Cursor) (broken : Bool) (g : Gap) :
    Option (Gap × Bool × Cursor) :=
  match _h : c.rest with
  | [] => some (g, broken, c)
  | x :: rest =>
    if isBlank x then
      if broken && x == '\t' && (limit.map (decide <| c.column < ·)).getD false then .none
      else
        takeGap limit (c.advance 1 rest) broken
          (if broken then g else { g with blanks := g.blanks ++ [x] })
    else
      match hb : c.takeBreak with
      | .none => some (g, broken, c)
      | some (b, c') =>
        have := length_of_takeBreak hb
        takeGap limit c' true
          (if broken then { g with moreBreaks := g.moreBreaks ++ [b] }
            else { g with blanks := [], firstBreak := some b })
termination_by c.rest.length
decreasing_by
  · simp [advance, _h]
  · assumption

/-- A gap takes nothing back. -/
theorem length_of_takeGap {limit : Option Nat} {c c' : Cursor} {broken broken' : Bool} {g g' : Gap}
    (h : takeGap limit c broken g = some (g', broken', c')) :
    c'.rest.length ≤ c.rest.length := by
  fun_induction takeGap limit c broken g with
  | case1 => simp_all
  | case2 => simp at h
  | case3 c _ _ x rest hc _ _ ih =>
    have := ih h
    rw [hc]
    exact Nat.le_succ_of_le this
  | case4 => simp_all
  | case5 c _ _ x rest hc _ b c'' hb shorter ih =>
    exact Nat.le_trans (ih h) (Nat.le_of_lt shorter)

/-- A line end stands where one can be taken. -/
theorem isSome_takeBreak {c : Cursor} {x : Char} {rest : List Char} (hc : c.rest = x :: rest)
    (hx : isBreak x) : c.takeBreak.isSome := by
  unfold takeBreak
  rw [hc]
  split <;> simp_all

/-- A gap that stands here is taken. -/
theorem length_of_takeGap_of_gap {limit : Option Nat} {c c' : Cursor} {broken' : Bool} {g g' : Gap}
    {x : Char} {rest : List Char} (hc : c.rest = x :: rest) (hx : isGap x)
    (h : takeGap limit c false g = some (g', broken', c')) :
    c'.rest.length < c.rest.length := by
  unfold takeGap at h
  split at h
  · simp_all
  · rename_i y rest' hy
    split at h
    · have := length_of_takeGap (by simpa using h)
      rw [hy]
      exact Nat.lt_succ_of_le this
    · split at h
      · rename_i hblank hnone
        have : y = x := by simp_all
        subst this
        have := isSome_takeBreak hc (by simpa [isGap, hblank] using hx)
        simp_all
      · rename_i hb
        exact Nat.lt_of_le_of_lt (length_of_takeGap h) (length_of_takeBreak hb)

end Cursor

end SqlGateway.Yaml
