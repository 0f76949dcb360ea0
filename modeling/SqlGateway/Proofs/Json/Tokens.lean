/-
# The tokens of JSON

What the readers of words, strings and numbers do with texts of the grammar: they take the text
whole, they give what it means, and they leave what stands behind it.

* `took_takeString`: a string is taken up to its closing quote, whatever its escapes;
* `took_takeNumber`: a number is taken whole, if something stands behind it that ends a number.

A reader returns a proof that something was taken.  `took` and `tookTail` leave that proof out, so
two readings can be compared that start at different places.
-/
import Mathlib.Data.List.DropRight
import SqlGateway.Proofs.Json.Grammar
import SqlGateway.Proofs.Text.Utf8

namespace SqlGateway.Json

open Text

variable {ε α : Type} {s t rest : List UInt8}

/-! ## 1. What is taken -/

/-- What a reader takes and what it leaves. -/
def took (x : Except ε (Taken α s)) : Except ε (α × List UInt8) := x.map fun r => (r.value, r.rest)

@[simp] theorem took_ok (v : α) (rest : List UInt8) (h : rest.length < s.length) :
    took (.ok ⟨v, rest, h⟩ : Except ε (Taken α s)) = .ok (v, rest) := rfl

@[simp] theorem took_error (e : ε) : took (.error e : Except ε (Taken α s)) = .error e := rfl

@[simp] theorem took_map_widen (x : Except ε (Taken α t)) (h : t.length ≤ s.length) :
    took (x.map (·.widen h)) = took x := by
  cases x <;> rfl

theorem took_eq_ok_iff {x : Except ε (Taken α s)} {v : α} :
    took x = .ok (v, rest) ↔ ∃ h, x = .ok ⟨v, rest, h⟩ := by
  cases x with
  | error e => simp
  | ok r =>
    obtain ⟨value, left, shorter⟩ := r
    constructor
    · intro h
      obtain ⟨rfl, rfl⟩ : value = v ∧ left = rest := by simpa using h
      exact ⟨shorter, rfl⟩
    · rintro ⟨h, heq⟩
      rw [heq, took_ok]

/-! ## 2. Blanks -/

theorem skipBlanks_append {ws : List UInt8} (h : Blanks ws) (s : List UInt8) :
    skipBlanks (ws ++ s) = skipBlanks s := List.dropWhile_append_of_pos h

theorem skipBlanks_cons {b : UInt8} (h : isSpace b = false) (s : List UInt8) :
    skipBlanks (b :: s) = b :: s := List.dropWhile_cons_of_neg (by simp [h])

theorem skipBlanks_append_of_eq_cons {b : UInt8} (hs : skipBlanks s = b :: t)
    (more : List UInt8) : skipBlanks (s ++ more) = b :: (t ++ more) := by
  rw [skipBlanks] at hs
  rw [skipBlanks, List.dropWhile_append, hs]
  rfl

theorem skipBlanks_skipBlanks (s : List UInt8) : skipBlanks (skipBlanks s) = skipBlanks s :=
  List.dropWhile_idempotent _ _

/-- A word is taken whole. -/
theorem takeWord_append (word : List Char) (s : List UInt8)
    (h : word.all (fun c => c.toNat < 256) = true) :
    ∃ hle, takeWord word (word.map (fun c => UInt8.ofNat c.toNat) ++ s) = .ok ⟨s, hle⟩ := by
  induction word with
  | nil => exact ⟨Nat.le_refl _, rfl⟩
  | cons c word ih =>
    rw [List.all_cons, Bool.and_eq_true, decide_eq_true_eq] at h
    have hbyte : (UInt8.ofNat c.toNat).toNat = c.toNat := UInt8.toNat_ofNat_of_lt' h.1
    obtain ⟨hle, htaken⟩ := ih h.2
    rw [List.map_cons, List.cons_append]
    refine ⟨Nat.le_succ_of_le hle, ?_⟩
    rw [takeWord, if_pos hbyte, htaken]
    rfl

/-! ## 3. Strings -/

theorem took_takeHex4 {ds : List UInt8} {n : Nat} (h : HexText ds n) (rest : List UInt8) :
    took (takeHex4 (ds ++ rest)) = .ok (n, rest) := by
  cases h with
  | digits ha hb hc hd =>
    simp only [List.cons_append, List.nil_append, takeHex4, ha, hb, hc, hd, took_ok]

theorem took_takeCodePoint {ds : List UInt8} {n : Nat} (h : HexText ds n)
    (hscalar : n < 0xD800 ∨ 0xDFFF < n) (rest : List UInt8) :
    took (takeCodePoint (ds ++ rest)) = .ok (Char.ofNat n, rest) := by
  obtain ⟨hshorter, htaken⟩ := took_eq_ok_iff.mp (took_takeHex4 h rest)
  have hlone : ¬ (0xDC00 ≤ n ∧ n ≤ 0xDFFF) := by omega
  have hwhole : n < 0xD800 ∨ 0xDBFF < n := by omega
  unfold takeCodePoint
  rw [htaken]
  simp only [bind, Except.bind, hlone, hwhole, if_true, if_false]
  rfl

theorem took_takeCodePoint_pair {ds es : List UInt8} {m n : Nat} (hds : HexText ds m)
    (hes : HexText es n) (hm : 0xD800 ≤ m ∧ m ≤ 0xDBFF) (hn : 0xDC00 ≤ n ∧ n ≤ 0xDFFF)
    (rest : List UInt8) : took (takeCodePoint (ds ++ 92 :: 117 :: (es ++ rest))) =
      .ok (Char.ofNat ((m - 0xD800) * 1024 + (n - 0xDC00) + 0x10000), rest) := by
  obtain ⟨hshorter, htaken⟩ := took_eq_ok_iff.mp (took_takeHex4 hds (92 :: 117 :: (es ++ rest)))
  obtain ⟨hshorter', htaken'⟩ := took_eq_ok_iff.mp (took_takeHex4 hes rest)
  have hlone : ¬ (0xDC00 ≤ m ∧ m ≤ 0xDFFF) := by omega
  have hwhole : ¬ (m < 0xD800 ∨ 0xDBFF < m) := by omega
  have htrailing : ¬ (n < 0xDC00 ∨ 0xDFFF < n) := by omega
  unfold takeCodePoint
  rw [htaken]
  dsimp only [bind, Except.bind]
  rw [if_neg hlone, if_neg hwhole, if_neg (by decide : ¬ (92 : UInt8) ≠ 92),
    if_neg (by decide : ¬ (117 : UInt8) ≠ 117), htaken']
  dsimp only
  rw [if_neg htrailing]
  exact took_ok _ _ _

theorem took_takeEscape_letter {b : UInt8} {c : Char} (h : (b, c) ∈ escapes) (rest : List UInt8) :
    took (takeEscape (b :: rest)) = .ok (c, rest) := by
  simp only [escapes, List.mem_cons, Prod.mk.injEq, List.not_mem_nil, or_false] at h
  rcases h with ⟨rfl, rfl⟩ | ⟨rfl, rfl⟩ | ⟨rfl, rfl⟩ | ⟨rfl, rfl⟩ | ⟨rfl, rfl⟩ | ⟨rfl, rfl⟩ |
    ⟨rfl, rfl⟩ | ⟨rfl, rfl⟩ <;> rfl

theorem took_takeEscape_u (s : List UInt8) :
    took (takeEscape (117 :: s)) = took (takeCodePoint s) :=
  took_map_widen (takeCodePoint s) (Nat.le_succ _)

/-- The bytes of a character stand between quotes as they are, unless it has to be escaped. -/
theorem plain_of_mem_utf8EncodeChar {c : Char} (hquote : c ≠ '"') (hbackslash : c ≠ '\\')
    (hcontrol : 0x20 ≤ c.toNat) {b : UInt8} (hb : b ∈ String.utf8EncodeChar c) :
    b ≠ 34 ∧ b ≠ 92 ∧ ¬ b < 32 := by
  have hquote' : c.toNat ≠ 34 := fun h => hquote (Char.toNat_inj.mp h)
  have hbackslash' : c.toNat ≠ 92 := fun h => hbackslash (Char.toNat_inj.mp h)
  have hencode := Utf8.utf8EncodeChar_ofNat (show c.toNat.isValidChar from c.valid)
  rw [Char.ofNat_toNat] at hencode
  rw [hencode] at hb
  simp only [ne_eq, ← UInt8.toNat_inj, UInt8.lt_iff_toNat_lt, UInt8.reduceToNat]
  have hbyte : ∀ n < 256, (UInt8.ofNat n).toNat = n := fun n => UInt8.toNat_ofNat_of_lt'
  by_cases hone : c.toNat ≤ 0x7F
  · rw [if_pos hone, List.mem_singleton] at hb
    rw [hb, hbyte _ (by omega)]
    omega
  -- every byte of a longer encoding is at least 128
  have hhigh : 128 ≤ b.toNat := by
    rw [if_neg hone] at hb
    split at hb
    next =>
      simp only [List.mem_cons, List.not_mem_nil, or_false] at hb
      rcases hb with rfl | rfl <;> rw [hbyte _ (by omega)] <;> omega
    next =>
      split at hb
      next =>
        simp only [List.mem_cons, List.not_mem_nil, or_false] at hb
        rcases hb with rfl | rfl | rfl <;> rw [hbyte _ (by omega)] <;> omega
      next =>
        simp only [List.mem_cons, List.not_mem_nil, or_false] at hb
        rcases hb with rfl | rfl | rfl | rfl <;> rw [hbyte _ (by omega)] <;> omega
  omega

theorem took_takeStringBytes_plain {bs : List UInt8} (h : ∀ b ∈ bs, b ≠ 34 ∧ b ≠ 92 ∧ ¬ b < 32)
    (seen s : List UInt8) :
    took (takeStringBytes seen (bs ++ s)) = took (takeStringBytes (bs.reverse ++ seen) s) := by
  induction bs generalizing seen with
  | nil => rfl
  | cons b bs ih =>
    obtain ⟨hquote, hbackslash, hcontrol⟩ := h b List.mem_cons_self
    rw [List.cons_append, takeStringBytes, if_neg hquote, if_neg hbackslash, if_neg hcontrol,
      took_map_widen, ih fun b hb => h b (List.mem_cons_of_mem _ hb)]
    simp

theorem took_takeStringBytes_escape {c : Char} {s rest : List UInt8}
    (h : took (takeEscape s) = .ok (c, rest)) (seen : List UInt8) :
    took (takeStringBytes seen (92 :: s)) =
      took (takeStringBytes ((String.utf8EncodeChar c).reverse ++ seen) rest) := by
  obtain ⟨hshorter, htaken⟩ := took_eq_ok_iff.mp h
  rw [takeStringBytes, if_neg (by decide), if_pos rfl, htaken]
  exact took_map_widen _ _

/-- **A character between the quotes is taken as it is meant**, however it is written. -/
theorem took_takeStringBytes_char {bs : List UInt8} {c : Char} (h : CharText bs c)
    (seen s : List UInt8) :
    took (takeStringBytes seen (bs ++ s)) =
      took (takeStringBytes ((String.utf8EncodeChar c).reverse ++ seen) s) := by
  cases h with
  | plain hquote hbackslash hcontrol =>
    exact took_takeStringBytes_plain
      (fun b => plain_of_mem_utf8EncodeChar hquote hbackslash hcontrol) seen s
  | escaped listed => exact took_takeStringBytes_escape (took_takeEscape_letter listed s) seen
  | codePoint digits scalar =>
    have htook := (took_takeEscape_u _).trans (took_takeCodePoint digits scalar s)
    exact took_takeStringBytes_escape htook seen
  | surrogates leading trailing hm hn =>
    have hpair := took_takeCodePoint_pair leading trailing hm hn s
    rw [← took_takeEscape_u] at hpair
    rw [List.append_assoc]
    exact took_takeStringBytes_escape hpair seen

theorem took_takeStringBytes {bs : List UInt8} {cs : List Char} (h : CharsText bs cs)
    (seen rest : List UInt8) :
    took (takeStringBytes seen (bs ++ 34 :: rest)) =
      .ok (seen.reverse ++ Utf8.encodeChars cs, rest) := by
  induction h generalizing seen with
  | nil =>
    rw [List.nil_append, takeStringBytes, if_pos rfl, took_ok]
    simp [Utf8.encodeChars]
  | cons first more ih =>
    rw [List.append_assoc, took_takeStringBytes_char first, ih]
    simp [Utf8.encodeChars]

/-- **A string is taken as the text that stands between its quotes.** -/
theorem took_takeString {bs : List UInt8} {text : String} (h : CharsText bs text.toList)
    (rest : List UInt8) : took (takeString (bs ++ 34 :: rest)) = .ok (text, rest) := by
  obtain ⟨hshorter, htaken⟩ := took_eq_ok_iff.mp (took_takeStringBytes h [] rest)
  have hdecode : Utf8.decode? (Utf8.encodeChars text.toList) = some text :=
    Utf8.decode?_eq_some_iff.mpr rfl
  unfold takeString
  rw [htaken]
  simp only [bind, Except.bind, List.reverse_nil, List.nil_append, hdecode]
  rfl


/-! ## 4. Numbers -/

theorem leadingDigits_append {ds : List UInt8} (hds : ∀ b ∈ ds, isDigit b = true)
    (hrest : ∀ b ∈ rest.head?, isDigit b = false) :
    leadingDigits (ds ++ rest) = digitValues ds := by
  have hnone : rest.takeWhile isDigit = [] := by
    cases rest with
    | nil => rfl
    | cons b t => exact List.takeWhile_cons_of_neg (by simp [hrest b rfl])
  rw [leadingDigits, List.takeWhile_append_of_pos hds, hnone, List.append_nil, digitValues]

theorem afterDigits_append {ds : List UInt8} (hds : ∀ b ∈ ds, isDigit b = true)
    (hrest : ∀ b ∈ rest.head?, isDigit b = false) : afterDigits (ds ++ rest) = rest := by
  have hall : rest.dropWhile isDigit = rest := by
    cases rest with
    | nil => rfl
    | cons b t => exact List.dropWhile_cons_of_neg (by simp [hrest b rfl])
  rw [afterDigits, List.dropWhile_append_of_pos hds, hall]

theorem le_valueFrom (n : Nat) (ds : List UInt8) : n ≤ valueFrom n ds := by
  induction ds generalizing n with
  | nil => exact Nat.le_refl n
  | cons d ds ih =>
    have h := ih (n * 10 + (d.toNat - 48))
    exact Nat.le_trans (by omega) h

/-- The digits of an exponent are read up to the limit. -/
theorem readExponent_append {ds : List UInt8} (hds : ∀ b ∈ ds, isDigit b = true)
    (hrest : ∀ b ∈ rest.head?, isDigit b = false) {n : Nat} (hn : n ≤ exponentLimit) :
    (valueFrom n ds ≤ exponentLimit → readExponent n (ds ++ rest) = .inl (valueFrom n ds)) ∧
      (exponentLimit < valueFrom n ds → ∃ left, readExponent n (ds ++ rest) = .inr left) := by
  induction ds generalizing n with
  | nil =>
    refine ⟨fun _ => ?_, fun hlarge => absurd hlarge (Nat.not_lt.mpr hn)⟩
    cases rest with
    | nil => rfl
    | cons b t => rw [List.nil_append, readExponent, if_neg (by simp [hrest b rfl])]; rfl
  | cons d ds ih =>
    have hvalue : valueFrom n (d :: ds) = valueFrom (n * 10 + (d.toNat - 48)) ds := rfl
    rw [List.cons_append, readExponent, if_pos (hds d List.mem_cons_self), hvalue]
    by_cases hlarge : exponentLimit < n * 10 + (d.toNat - 48)
    · have hmore := le_valueFrom (n * 10 + (d.toNat - 48)) ds
      exact ⟨fun h => absurd h (by omega), fun _ => ⟨ds ++ rest, if_pos hlarge⟩⟩
    · rw [if_neg hlarge]
      exact ih (fun b hb => hds b (List.mem_cons_of_mem _ hb)) (Nat.not_lt.mp hlarge)

theorem finishFloat_eq_ok {n : Numeral} {g : Literal.Gathered} {x : JsonNumber}
    (h : n.float? g = some x) (rest : List UInt8) : finishFloat n.negative g rest = .ok x := by
  rw [Numeral.float?] at h
  rw [finishFloat, h]

/-- What a reader of the end of a number takes and what it leaves, which may be all. -/
def tookTail (x : Except ε (α × Remainder s)) : Except ε (α × List UInt8) :=
  x.map fun r => (r.1, r.2.1)

theorem tookTail_eq_ok_iff {x : Except ε (α × Remainder s)} {v : α} :
    tookTail x = .ok (v, rest) ↔ ∃ h, x = .ok (v, ⟨rest, h⟩) := by
  cases x with
  | error e => simp [tookTail, Except.map]
  | ok r =>
    obtain ⟨value, left, shorter⟩ := r
    constructor
    · intro h
      obtain ⟨rfl, rfl⟩ : value = v ∧ left = rest := by simpa [tookTail, Except.map] using h
      exact ⟨shorter, rfl⟩
    · rintro ⟨h, heq⟩
      rw [heq]
      rfl

theorem takeSign_text (sign : Option Bool) {d : UInt8} (hd : isDigit d = true) (s : List UInt8) :
    (takeSign (signText sign ++ d :: s)).1 = decide (sign = some true) ∧
      (takeSign (signText sign ++ d :: s)).2.1 = d :: s := by
  rcases sign with _ | _ | _
  · have hplus : d ≠ 43 := by rintro rfl; exact absurd hd (by decide)
    have hminus : d ≠ 45 := by rintro rfl; exact absurd hd (by decide)
    rw [signText, List.nil_append, takeSign, if_neg hplus, if_neg hminus]
    exact ⟨rfl, rfl⟩
  · exact ⟨rfl, rfl⟩
  · exact ⟨rfl, rfl⟩

theorem takeExponentDigits_text {n : Numeral} {g : Literal.Gathered} {e : Exponent} {x : JsonNumber}
    (h : n.scaled? g e = some x) (hrest : ∀ b ∈ rest.head?, isDigit b = false) :
    tookTail (takeExponentDigits n.negative (decide (e.sign = some true)) g (e.digits ++ rest)) =
      .ok (x, rest) := by
  obtain ⟨letter, sign, digits, hletter, hdigits, hne⟩ := e
  obtain ⟨d, ds, rfl⟩ := List.exists_cons_of_ne_nil hne
  have hafter := afterDigits_append hdigits hrest
  obtain ⟨hsmall, hlarge⟩ := readExponent_append hdigits hrest (Nat.zero_le exponentLimit)
  rw [Numeral.scaled?] at h
  simp only [List.cons_append] at hafter hsmall hlarge ⊢
  rw [takeExponentDigits, if_pos (hdigits d List.mem_cons_self)]
  by_cases hlimit : valueFrom 0 (d :: ds) ≤ exponentLimit
  · rw [if_pos hlimit] at h
    rw [hsmall hlimit]
    simp only [decide_eq_true_eq, finishFloat_eq_ok h, Except.map, tookTail, hafter]
  · obtain ⟨left, hleft⟩ := hlarge (Nat.not_le.mp hlimit)
    rw [if_neg hlimit] at h
    rw [hleft]
    by_cases hover : g.significand ≠ 0 ∧ ¬ sign = some true
    · rw [if_pos hover] at h
      cases h
    · rw [if_neg hover] at h
      have hover' : ¬ (g.significand ≠ 0 ∧ (!decide (sign = some true)) = true) := by
        simpa using hover
      simp only [if_neg hover', finishFloat_eq_ok h, Except.map, tookTail, hafter]

theorem takeExponent_text {n : Numeral} {g : Literal.Gathered} {e : Exponent} {x : JsonNumber}
    (h : n.scaled? g e = some x) (hrest : ∀ b ∈ rest.head?, isDigit b = false) :
    tookTail (takeExponent n.negative g (signText e.sign ++ (e.digits ++ rest))) =
      .ok (x, rest) := by
  obtain ⟨d, ds, hdigits⟩ := List.exists_cons_of_ne_nil e.nonempty
  have hd : isDigit d = true := e.isNumber d (hdigits ▸ List.mem_cons_self)
  obtain ⟨hdownwards, hunsigned⟩ := takeSign_text e.sign hd (ds ++ rest)
  have htook := takeExponentDigits_text h hrest
  rw [hdigits, List.cons_append] at htook ⊢
  rw [takeExponent]
  generalize takeSign (signText e.sign ++ d :: (ds ++ rest)) = signed at hdownwards hunsigned ⊢
  obtain ⟨downwards, unsigned, hle⟩ := signed
  dsimp only at hdownwards hunsigned ⊢
  subst hdownwards hunsigned
  obtain ⟨hshorter, htaken⟩ := tookTail_eq_ok_iff.mp htook
  rw [htaken]
  rfl

/-- What may stand behind a number. -/
def EndsNumber (rest : List UInt8) : Prop :=
  ∀ b ∈ rest.head?, isDigit b = false ∧ b ≠ 46 ∧ b ≠ 101 ∧ b ≠ 69

theorem EndsNumber.head_not_digit (h : EndsNumber rest) : ∀ b ∈ rest.head?, isDigit b = false :=
  fun b hb => (h b hb).1

/-- An exponent, or nothing, stands behind the digits of a fraction. -/
theorem exponentText_append_head (n : Numeral) (h : EndsNumber rest) :
    ∀ b ∈ (n.exponentText ++ rest).head?, isDigit b = false := by
  intro b hb
  cases hexponent : n.exponent with
  | none =>
    rw [Numeral.exponentText, hexponent] at hb
    exact h.head_not_digit b hb
  | some e =>
    rw [Numeral.exponentText, hexponent] at hb
    obtain rfl : e.letter = b := Option.some.inj hb
    rcases e.isLetter with hletter | hletter <;> rw [hletter] <;> rfl

/-- Behind the digits in front of it, an exponent is taken with what it scales. -/
theorem value?_of_exponent {n : Numeral} {e : Exponent} (h : n.exponent = some e) :
    n.value? = n.scaled? n.gathered e := by
  rw [Numeral.value?, h]

theorem exponentText_append {n : Numeral} {e : Exponent} (h : n.exponent = some e)
    (rest : List UInt8) :
    n.exponentText ++ rest = e.letter :: (signText e.sign ++ (e.digits ++ rest)) := by
  rw [Numeral.exponentText, h]
  simp [Exponent.text]

theorem takeFraction_text {n : Numeral} {x : JsonNumber} (h : n.value? = some x)
    (hfraction : n.fraction ≠ []) (hrest : EndsNumber rest) :
    tookTail (takeFraction n.negative n.gatheredWhole (n.fraction ++ (n.exponentText ++ rest))) =
      .ok (x, rest) := by
  have hhead := exponentText_append_head n hrest
  have hleading := leadingDigits_append n.isFraction hhead
  have hafter := afterDigits_append n.isFraction hhead
  have hsome : (digitValues n.fraction).isEmpty = false := by
    simpa [digitValues] using hfraction
  unfold takeFraction
  rw [hleading, hsome, if_neg Bool.false_ne_true]
  cases hexponent : n.exponent with
  | none =>
    have hvalue : n.float? n.gathered = some x := by
      rw [← h, Numeral.value?, hexponent]
      exact (if_neg fun hwhole => hfraction hwhole.1).symm
    have hfloat : ∀ left, finishFloat n.negative
        (Literal.gatherFraction n.gatheredWhole (digitValues n.fraction)) left = .ok x :=
      finishFloat_eq_ok hvalue
    rw [Numeral.exponentText, hexponent, Option.elim_none, List.nil_append] at hafter
    dsimp only
    split
    next hnil =>
      rw [Numeral.exponentText, hexponent, Option.elim_none, List.nil_append, hafter] at hnil
      rw [hfloat]
      exact congrArg (fun left => Except.ok (x, left)) hnil.symm
    next b t hcons =>
      rw [Numeral.exponentText, hexponent, Option.elim_none, List.nil_append, hafter] at hcons
      obtain ⟨-, -, he, hE⟩ := hrest b (by rw [hcons]; rfl)
      rw [if_neg (not_or.mpr ⟨he, hE⟩), hfloat]
      exact congrArg (fun left => Except.ok (x, left)) hcons.symm
  | some e =>
    rw [value?_of_exponent hexponent] at h
    dsimp only
    split
    next hnil =>
      rw [hafter, exponentText_append hexponent] at hnil
      cases hnil
    next b t hcons =>
      rw [hafter, exponentText_append hexponent] at hcons
      obtain ⟨rfl, rfl⟩ := List.cons.inj hcons
      obtain ⟨hshorter, htaken⟩ :=
        tookTail_eq_ok_iff.mp (takeExponent_text h hrest.head_not_digit)
      have htaken' : takeExponent n.negative
          (Literal.gatherFraction n.gatheredWhole (digitValues n.fraction))
          (signText e.sign ++ (e.digits ++ rest)) = .ok (x, ⟨rest, hshorter⟩) := htaken
      rw [if_pos e.isLetter, htaken']
      rfl

/-- The end of a whole number is the number. -/
theorem finishWhole_eq_ok {n : Numeral} {x : JsonNumber} (h : n.value? = some x)
    (hexponent : n.exponent = none) (hfraction : n.fraction = []) (left : List UInt8) :
    finishWhole n.negative (n.gatheredWhole.exponent = 0) n.gatheredWhole left = .ok x := by
  have hgathered : n.gathered = n.gatheredWhole := by rw [Numeral.gathered, hfraction]; rfl
  rw [Numeral.value?, hexponent] at h
  dsimp only at h
  rw [finishWhole]
  by_cases hexact : n.gatheredWhole.exponent = 0
  · rw [if_pos ⟨hfraction, hexact⟩] at h
    rw [if_pos (decide_eq_true hexact), h]
  · rw [if_neg fun hwhole => hexact hwhole.2, hgathered] at h
    rw [if_neg (by simpa using hexact)]
    exact finishFloat_eq_ok h left

/-- **What stands behind the digits of the whole part is taken as the end of the number.** -/
theorem takeNumberTail_text {n : Numeral} {x : JsonNumber} (h : n.value? = some x)
    (hrest : EndsNumber rest) :
    tookTail (takeNumberTail n.negative (n.gatheredWhole.exponent = 0) n.gatheredWhole
      (n.fractionText ++ (n.exponentText ++ rest))) = .ok (x, rest) := by
  by_cases hfraction : n.fraction = []
  · have hnothing : n.fractionText = [] := if_pos hfraction
    have hgathered : n.gathered = n.gatheredWhole := by rw [Numeral.gathered, hfraction]; rfl
    rw [hnothing, List.nil_append]
    cases hexponent : n.exponent with
    | none =>
      have hwhole := finishWhole_eq_ok h hexponent hfraction
      rw [Numeral.exponentText, hexponent, Option.elim_none, List.nil_append]
      cases rest with
      | nil => 
        rw [takeNumberTail, hwhole]
        rfl
      | cons b t =>
        obtain ⟨-, hpoint, he, hE⟩ := hrest b rfl
        rw [takeNumberTail, if_neg hpoint, if_neg (not_or.mpr ⟨he, hE⟩), hwhole]
        rfl
    | some e =>
      rw [value?_of_exponent hexponent, hgathered] at h
      obtain ⟨hshorter, htaken⟩ :=
        tookTail_eq_ok_iff.mp (takeExponent_text h hrest.head_not_digit)
      have hpoint : e.letter ≠ 46 := by
        rcases e.isLetter with hletter | hletter <;> rw [hletter] <;> decide
      rw [exponentText_append hexponent, takeNumberTail, if_neg hpoint, if_pos e.isLetter, htaken]
      rfl
  · have hpoint : n.fractionText = 46 :: n.fraction := if_neg hfraction
    obtain ⟨hshorter, htaken⟩ := tookTail_eq_ok_iff.mp (takeFraction_text h hfraction hrest)
    rw [hpoint, List.cons_append, takeNumberTail, if_pos rfl, htaken]
    rfl

theorem fits_of_isDigit {d : UInt8} (hd : isDigit d = true) :
    Literal.fits 0 (d.toNat - 48) = true := by
  simp only [isDigit, Bool.and_eq_true, decide_eq_true_eq, UInt8.le_iff_toNat_le,
    UInt8.reduceToNat] at hd
  simp only [Literal.fits, decide_eq_true_eq]
  omega

/-- What may stand behind the whole part of a number. -/
theorem tail_head (n : Numeral) (hrest : EndsNumber rest) :
    ∀ b ∈ (n.fractionText ++ (n.exponentText ++ rest)).head?, isDigit b = false := by
  by_cases hfraction : n.fraction = []
  · rw [Numeral.fractionText, if_pos hfraction, List.nil_append]
    exact exponentText_append_head n hrest
  · rw [Numeral.fractionText, if_neg hfraction]
    intro b hb
    obtain rfl : 46 = b := Option.some.inj hb
    rfl

/-- **A number is taken whole**, up to its sign. -/
theorem took_takeNumber {n : Numeral} {x : JsonNumber} (h : n.value? = some x)
    (hrest : EndsNumber rest) :
    took (takeNumber n.negative
      (n.whole ++ (n.fractionText ++ (n.exponentText ++ rest)))) = .ok (x, rest) := by
  obtain ⟨d, ds, hwhole⟩ := List.exists_cons_of_ne_nil n.nonempty
  have hd : isDigit d = true := n.isWhole d (hwhole ▸ List.mem_cons_self)
  have hds : ∀ b ∈ ds, isDigit b = true :=
    fun b hb => n.isWhole b (hwhole ▸ List.mem_cons_of_mem _ hb)
  have hgathered : n.gatheredWhole =
      Literal.gatherWhole ⟨d.toNat - 48, 0⟩ (digitValues ds) := by
    rw [Numeral.gatheredWhole, hwhole]
    have hfits := fits_of_isDigit hd
    simp [digitValues, Literal.gatherWhole, hfits]
  have htail := tail_head n hrest
  rw [hwhole, List.cons_append, takeNumber]
  by_cases hzero : d = 48
  · subst hzero
    obtain rfl : ds = [] := by
      have hlone := n.noLeadingZero (by rw [hwhole]; rfl)
      rw [hwhole] at hlone
      exact (List.cons.inj hlone).2
    have hlone : ((n.fractionText ++ (n.exponentText ++ rest)).head?.map isDigit).getD false =
        false := by
      generalize (n.fractionText ++ (n.exponentText ++ rest)).head? = head at htail
      cases head with
      | none => rfl
      | some b => exact htail b rfl
    have hg : n.gatheredWhole = ⟨0, 0⟩ := hgathered
    have htail := takeNumberTail_text h hrest
    rw [hg] at htail
    obtain ⟨hshorter, htaken⟩ := tookTail_eq_ok_iff.mp htail
    have htaken' : takeNumberTail n.negative true ⟨0, 0⟩
        (n.fractionText ++ (n.exponentText ++ rest)) = .ok (x, ⟨rest, hshorter⟩) := htaken
    rw [if_pos rfl, List.nil_append, hlone, if_neg Bool.false_ne_true, htaken']
    rfl
  · have hafter := takeNumberTail_text h hrest
    rw [← afterDigits_append hds htail] at hafter
    obtain ⟨hshorter, htaken⟩ := tookTail_eq_ok_iff.mp hafter
    rw [if_neg hzero, if_pos hd, leadingDigits_append hds htail, ← hgathered]
    dsimp only
    rw [htaken]
    rfl

end SqlGateway.Json
