/-
# Well-formed UTF-8

A byte sequence is read as a text exactly if it is the encoding of that text.  Overlong forms and
surrogates are ruled out, and they are ruled out by the second byte, not by looking at the number
that comes out.

* `firstPiece_eq_char_iff`: a character stands at the front in one of four forms;
* `exists_leads`, `Leads.encode`: these are the forms of its encoding, and no others;
* `decode?_eq_some_iff`: the same for whole sequences;
* `decodeLossy_of_decode?`: what is well-formed is read without loss.
-/
import SqlGateway.Text.Utf8

namespace SqlGateway.Text.Utf8

/-! ## 1. Bytes as numbers -/

theorem toNat_charOfNat {n : Nat} (h : n.isValidChar) : (Char.ofNat n).toNat = n := by
  have hofNat : Char.ofNat n = Char.ofNatAux n h := dif_pos h
  rw [hofNat]
  rfl

theorem isContinuation_iff {b : UInt8} :
    isContinuation b = true ↔ 0x80 ≤ b.toNat ∧ b.toNat ≤ 0xBF := by
  simp [isContinuation, UInt8.le_iff_toNat_le]

theorem isSecond_iff {a b : UInt8} :
    isSecond a b = true ↔ 0x80 ≤ b.toNat ∧ b.toNat ≤ 0xBF ∧ (a.toNat = 0xE0 → 0xA0 ≤ b.toNat) ∧
      (a.toNat = 0xED → b.toNat ≤ 0x9F) ∧ (a.toNat = 0xF0 → 0x90 ≤ b.toNat) ∧
      (a.toNat = 0xF4 → b.toNat ≤ 0x8F) := by
  have heq : ∀ n : UInt8, a = n ↔ a.toNat = n.toNat := fun n => UInt8.toNat_inj.symm
  unfold isSecond
  simp only [beq_iff_eq, heq]
  repeat' split
  all_goals simp [isContinuation, UInt8.le_iff_toNat_le] at *
  all_goals omega

/-- The range of the lead byte says how many bytes there are. -/
theorem leadSize_iff {a : UInt8} {n : Nat} (hn : 0 < n) :
    leadSize a = n ↔
      n = 1 ∧ a.toNat < 0x80 ∨ n = 2 ∧ 0xC2 ≤ a.toNat ∧ a.toNat ≤ 0xDF ∨
        n = 3 ∧ 0xE0 ≤ a.toNat ∧ a.toNat ≤ 0xEF ∨ n = 4 ∧ 0xF0 ≤ a.toNat ∧ a.toNat ≤ 0xF4 := by
  simp only [leadSize, UInt8.le_iff_toNat_le, UInt8.lt_iff_toNat_lt, UInt8.reduceToNat,
    Bool.and_eq_true, decide_eq_true_eq]
  split
  · omega
  split
  · omega
  split
  · omega
  split <;> omega

/-- The encoding of a number that is a character. -/
theorem utf8EncodeChar_ofNat {v : Nat} (h : v.isValidChar) :
    String.utf8EncodeChar (Char.ofNat v) =
      if v ≤ 0x7F then [UInt8.ofNat v]
      else if v ≤ 0x7FF then [UInt8.ofNat (v / 64 % 32 + 192), UInt8.ofNat (v % 64 + 128)]
      else if v ≤ 0xFFFF then
        [UInt8.ofNat (v / 4096 % 16 + 224), UInt8.ofNat (v / 64 % 64 + 128),
          UInt8.ofNat (v % 64 + 128)]
      else
        [UInt8.ofNat (v / 262144 % 8 + 240), UInt8.ofNat (v / 4096 % 64 + 128),
          UInt8.ofNat (v / 64 % 64 + 128), UInt8.ofNat (v % 64 + 128)] := by
  have hv : (Char.ofNat v).val.toNat = v := toNat_charOfNat h
  rw [String.utf8EncodeChar]
  simp only [hv]

/-! ## 2. The first piece -/

/-- The four forms of a character at the front: the lead byte, what stands behind it, the character
and the number of its bytes. -/
inductive Leads (a : UInt8) : List UInt8 → Char → Nat → Prop
  | one {more : List UInt8} (lead : leadSize a = 1) : Leads a more (Char.ofNat a.toNat) 1
  | two {b : UInt8} {more : List UInt8} (lead : leadSize a = 2) (second : isContinuation b = true) :
      Leads a (b :: more) (Char.ofNat (a.toNat % 32 * 64 + low6 b)) 2
  | three {b b' : UInt8} {more : List UInt8} (lead : leadSize a = 3) (second : isSecond a b = true)
      (third : isContinuation b' = true) :
      Leads a (b :: b' :: more) (Char.ofNat (a.toNat % 16 * 4096 + low6 b * 64 + low6 b')) 3
  | four {b b' b'' : UInt8} {more : List UInt8} (lead : leadSize a = 4)
      (second : isSecond a b = true) (third : isContinuation b' = true)
      (fourth : isContinuation b'' = true) :
      Leads a (b :: b' :: b'' :: more)
        (Char.ofNat (a.toNat % 8 * 262144 + low6 b * 4096 + low6 b' * 64 + low6 b'')) 4

theorem firstPiece_eq_char_iff {a : UInt8} {rest : List UInt8} {c : Char} {n : Nat} :
    firstPiece a rest = .char c n ↔ Leads a rest c n := by
  constructor
  · intro h
    unfold firstPiece at h
    split at h
    next lead =>
      cases h
      exact .one lead
    next => cases h
    next b more lead =>
      split at h
      next second =>
        cases h
        exact .two lead second
      next => cases h
    next => cases h
    next b more lead =>
      split at h
      next => cases h
      next second =>
        split at h
        next => cases h
        next b' more =>
          split at h
          next third =>
            cases h
            exact .three lead (by simpa using second) third
          next => cases h
    next => cases h
    next b more lead =>
      split at h
      next => cases h
      next second =>
        split at h
        next => cases h
        next b' more =>
          split at h
          next => cases h
          next third =>
            split at h
            next => cases h
            next b'' more =>
              split at h
              next fourth =>
                cases h
                exact .four lead (by simpa using second) (by simpa using third) fourth
              next => cases h
    next => cases h
  · intro h
    cases h with
    | one lead => simp [firstPiece, lead]
    | two lead second => simp [firstPiece, lead, second]
    | three lead second third => simp [firstPiece, lead, second, third]
    | four lead second third fourth => simp [firstPiece, lead, second, third, fourth]

/-- **Only the encoding of a character leads as that character.** -/
theorem Leads.encode {a : UInt8} {rest : List UInt8} {c : Char} {n : Nat} (h : Leads a rest c n) :
    a :: rest = String.utf8EncodeChar c ++ rest.drop (n - 1) := by
  cases h with
  | one lead =>
    have hlead : a.toNat < 0x80 := by simpa using (leadSize_iff (by decide)).mp lead
    rw [utf8EncodeChar_ofNat (.inl (by omega)), if_pos (by omega)]
    simp
  | @two b more lead second =>
    have hlead : 0xC2 ≤ a.toNat ∧ a.toNat ≤ 0xDF := by
      simpa using (leadSize_iff (by decide)).mp lead
    have hsecond := isContinuation_iff.mp second
    have hb : low6 b = b.toNat - 0x80 := by unfold low6; omega
    generalize hv : a.toNat % 32 * 64 + low6 b = v
    have h1 : v / 64 % 32 + 192 = a.toNat := by omega
    have h2 : v % 64 + 128 = b.toNat := by omega
    rw [utf8EncodeChar_ofNat (.inl (by omega)), if_neg (by omega), if_pos (by omega), h1, h2]
    simp
  | @three b b' more lead second third =>
    have hlead : 0xE0 ≤ a.toNat ∧ a.toNat ≤ 0xEF := by
      simpa using (leadSize_iff (by decide)).mp lead
    obtain ⟨hlow, hhigh, hE0, hED, -, -⟩ := isSecond_iff.mp second
    have hthird := isContinuation_iff.mp third
    have hb : low6 b = b.toNat - 0x80 := by unfold low6; omega
    have hb' : low6 b' = b'.toNat - 0x80 := by unfold low6; omega
    generalize hv : a.toNat % 16 * 4096 + low6 b * 64 + low6 b' = v
    have hvalid : v.isValidChar := by unfold Nat.isValidChar; omega
    have h1 : v / 4096 % 16 + 224 = a.toNat := by omega
    have h2 : v / 64 % 64 + 128 = b.toNat := by omega
    have h3 : v % 64 + 128 = b'.toNat := by omega
    rw [utf8EncodeChar_ofNat hvalid, if_neg (by omega), if_neg (by omega), if_pos (by omega), h1,
      h2, h3]
    simp
  | @four b b' b'' more lead second third fourth =>
    have hlead : 0xF0 ≤ a.toNat ∧ a.toNat ≤ 0xF4 := by
      simpa using (leadSize_iff (by decide)).mp lead
    obtain ⟨hlow, hhigh, -, -, hF0, hF4⟩ := isSecond_iff.mp second
    have hthird := isContinuation_iff.mp third
    have hfourth := isContinuation_iff.mp fourth
    have hb : low6 b = b.toNat - 0x80 := by unfold low6; omega
    have hb' : low6 b' = b'.toNat - 0x80 := by unfold low6; omega
    have hb'' : low6 b'' = b''.toNat - 0x80 := by unfold low6; omega
    generalize hv : a.toNat % 8 * 262144 + low6 b * 4096 + low6 b' * 64 + low6 b'' = v
    have hvalid : v.isValidChar := by unfold Nat.isValidChar; omega
    have h1 : v / 262144 % 8 + 240 = a.toNat := by omega
    have h2 : v / 4096 % 64 + 128 = b.toNat := by omega
    have h3 : v / 64 % 64 + 128 = b'.toNat := by omega
    have h4 : v % 64 + 128 = b''.toNat := by omega
    rw [utf8EncodeChar_ofNat hvalid, if_neg (by omega), if_neg (by omega), if_neg (by omega), h1,
      h2, h3, h4]
    simp

/-- **The encoding of a character leads as that character**, whatever stands behind it. -/
theorem exists_leads (c : Char) (rest : List UInt8) :
    ∃ a more, String.utf8EncodeChar c = a :: more ∧ Leads a (more ++ rest) c (more.length + 1) := by
  have hvalid : c.toNat.isValidChar := c.valid
  have hencode := utf8EncodeChar_ofNat hvalid
  rw [Char.ofNat_toNat] at hencode
  rw [hencode]
  have hc := Char.ofNat_toNat c
  generalize c.toNat = v at hvalid hc
  unfold Nat.isValidChar at hvalid
  have hbyte : ∀ n < 256, (UInt8.ofNat n).toNat = n := fun n => UInt8.toNat_ofNat_of_lt'
  by_cases h7 : v ≤ 0x7F
  · refine ⟨_, _, if_pos h7, ?_⟩
    have ha := hbyte v (by omega)
    generalize UInt8.ofNat v = a at ha ⊢
    have hv : a.toNat = v := by omega
    have h := @Leads.one a rest ((leadSize_iff (by decide)).mpr (by omega))
    rwa [hv, hc] at h
  rw [if_neg h7]
  by_cases h11 : v ≤ 0x7FF
  · refine ⟨_, _, if_pos h11, ?_⟩
    have ha := hbyte (v / 64 % 32 + 192) (by omega)
    have hb := hbyte (v % 64 + 128) (by omega)
    generalize UInt8.ofNat (v / 64 % 32 + 192) = a at ha ⊢
    generalize UInt8.ofNat (v % 64 + 128) = b at hb ⊢
    have hv : a.toNat % 32 * 64 + low6 b = v := by unfold low6; omega
    have h := @Leads.two a b rest ((leadSize_iff (by decide)).mpr (by omega))
      (isContinuation_iff.mpr (by omega))
    rwa [hv, hc] at h
  rw [if_neg h11]
  by_cases h16 : v ≤ 0xFFFF
  · refine ⟨_, _, if_pos h16, ?_⟩
    have ha := hbyte (v / 4096 % 16 + 224) (by omega)
    have hb := hbyte (v / 64 % 64 + 128) (by omega)
    have hb' := hbyte (v % 64 + 128) (by omega)
    generalize UInt8.ofNat (v / 4096 % 16 + 224) = a at ha ⊢
    generalize UInt8.ofNat (v / 64 % 64 + 128) = b at hb ⊢
    generalize UInt8.ofNat (v % 64 + 128) = b' at hb' ⊢
    have hv : a.toNat % 16 * 4096 + low6 b * 64 + low6 b' = v := by unfold low6; omega
    have h := @Leads.three a b b' rest ((leadSize_iff (by decide)).mpr (by omega))
      (isSecond_iff.mpr (by omega)) (isContinuation_iff.mpr (by omega))
    rwa [hv, hc] at h
  · refine ⟨_, _, if_neg h16, ?_⟩
    have ha := hbyte (v / 262144 % 8 + 240) (by omega)
    have hb := hbyte (v / 4096 % 64 + 128) (by omega)
    have hb' := hbyte (v / 64 % 64 + 128) (by omega)
    have hb'' := hbyte (v % 64 + 128) (by omega)
    generalize UInt8.ofNat (v / 262144 % 8 + 240) = a at ha ⊢
    generalize UInt8.ofNat (v / 4096 % 64 + 128) = b at hb ⊢
    generalize UInt8.ofNat (v / 64 % 64 + 128) = b' at hb' ⊢
    generalize UInt8.ofNat (v % 64 + 128) = b'' at hb'' ⊢
    have hv : a.toNat % 8 * 262144 + low6 b * 4096 + low6 b' * 64 + low6 b'' = v := by
      unfold low6; omega
    have h := @Leads.four a b b' b'' rest ((leadSize_iff (by decide)).mpr (by omega))
      (isSecond_iff.mpr (by omega)) (isContinuation_iff.mpr (by omega))
      (isContinuation_iff.mpr (by omega))
    rwa [hv, hc] at h

/-! ## 3. Sequences -/

theorem decodeChars?_cons_eq_some_iff {a : UInt8} {rest : List UInt8} {cs : List Char} :
    decodeChars? (a :: rest) = some cs ↔ ∃ c n cs', Leads a rest c n ∧
      decodeChars? (rest.drop (n - 1)) = some cs' ∧ cs = c :: cs' := by
  rw [decodeChars?, pieces]
  cases hpiece : firstPiece a rest with
  | char c n =>
    have hleads := firstPiece_eq_char_iff.mp hpiece
    simp only [List.mapM_cons, Piece.size, Option.bind_eq_bind, Option.bind_some,
      Option.bind_eq_some_iff, Option.pure_def, Option.some.injEq]
    constructor
    · rintro ⟨cs', hcs', rfl⟩
      exact ⟨c, n, cs', hleads, hcs', rfl⟩
    · rintro ⟨c', n', cs', hleads', hcs', rfl⟩
      cases hpiece.symm.trans (firstPiece_eq_char_iff.mpr hleads')
      exact ⟨cs', hcs', rfl⟩
  | malformed n =>
    refine iff_of_false (by simp) ?_
    rintro ⟨c, n', cs', hleads, -⟩
    cases hpiece.symm.trans (firstPiece_eq_char_iff.mpr hleads)
  | incomplete n =>
    refine iff_of_false (by simp) ?_
    rintro ⟨c, n', cs', hleads, -⟩
    cases hpiece.symm.trans (firstPiece_eq_char_iff.mpr hleads)

theorem decodeChars?_encodeChars (cs : List Char) : decodeChars? (encodeChars cs) = some cs := by
  induction cs with
  | nil => simp [decodeChars?, encodeChars, pieces]
  | cons c cs ih =>
    obtain ⟨a, more, hencode, hleads⟩ := exists_leads c (encodeChars cs)
    have hcons : encodeChars (c :: cs) = a :: (more ++ encodeChars cs) := by
      rw [encodeChars, List.flatMap_cons, hencode]
      rfl
    rw [hcons, decodeChars?_cons_eq_some_iff]
    refine ⟨c, more.length + 1, cs, hleads, ?_, rfl⟩
    rw [Nat.add_sub_cancel, List.drop_left, ih]

theorem encodeChars_of_decodeChars? {bs : List UInt8} {cs : List Char}
    (h : decodeChars? bs = some cs) : encodeChars cs = bs := by
  fun_induction pieces bs generalizing cs with
  | case1 =>
    obtain rfl : cs = [] := by simpa [decodeChars?, pieces] using h.symm
    rfl
  | case2 a rest p =>
    rename_i ih
    obtain ⟨c, n, cs', hleads, hcs', rfl⟩ := decodeChars?_cons_eq_some_iff.mp h
    have hp : p = .char c n := firstPiece_eq_char_iff.mpr hleads
    rw [hp, Piece.size] at ih
    rw [encodeChars, List.flatMap_cons, ← encodeChars, ih hcs', ← hleads.encode]

/-- **A byte sequence is read as a text exactly if it is the encoding of that text.** -/
theorem decode?_eq_some_iff {bs : List UInt8} {s : String} :
    decode? bs = some s ↔ bs = encode s := by
  rw [decode?, encode, Option.map_eq_some_iff]
  constructor
  · rintro ⟨cs, hcs, rfl⟩
    rw [String.toList_ofList, encodeChars_of_decodeChars? hcs]
  · rintro rfl
    exact ⟨s.toList, decodeChars?_encodeChars _, String.ofList_toList⟩

end SqlGateway.Text.Utf8
