/-
# Camel case and underscore case undo each other

A renamed column can be told from another one as long as its name can be read back.  That is so for
the names that one would write:

* *snake names*, words of ASCII lower-case letters and digits joined by `_`, each beginning with a
  letter, are read back from either camel case (`snake_camel`);
* *plain names*, ASCII letters and digits, are read back from underscore case but for the case of
  their first character (`camel_snake`);
* `casings_inverse`: both, and that no such column of a row is lost.

Underscore case writes no `_` before a leading capital, so `Id` and `id` come to one name; that the
first characters are of one kind is what keeps plain names apart.
-/
import SqlGateway.KeyCase
import SqlGateway.Proofs.Row.Members
import SqlGateway.Row.Script
import Mathlib

namespace SqlGateway

open Text

namespace KeyCase

/-! ## 1. Names -/

/-- A lower-case letter and behind it lower-case letters and digits, all of them ASCII. -/
def IsWord : List Char → Prop
  | [] => False
  | c :: cs => c.isLower = true ∧ ∀ d ∈ cs, d.isLower = true ∨ d.isDigit = true

/-- The name is one or more words joined by single underscores. -/
def IsSnake (name : String) : Prop :=
  ∃ ws, ws ≠ [] ∧ (∀ w ∈ ws, IsWord w) ∧ name.toList = List.intercalate ['_'] ws

/-- The name consists of ASCII letters and digits. -/
def IsPlain (name : String) : Prop := ∀ c ∈ name.toList, c.isAlphanum = true

/-- The name begins with a character of which `p` holds. -/
def Starts (p : Char → Bool) (name : String) : Prop := ∃ c ∈ name.toList.head?, p c = true

/-- What keeps two names apart under a case, if they are not the same. -/
def TellsApart : KeyCase → String → String → Prop
  | keep, _, _ => True
  | lowerCamel, a, b => IsSnake a ∧ IsSnake b
  | upperCamel, a, b => IsSnake a ∧ IsSnake b
  | underscore, a, b => IsPlain a ∧ IsPlain b ∧
    (¬ Starts Char.isLower a ∧ ¬ Starts Char.isLower b ∨
      ¬ Starts Char.isUpper a ∧ ¬ Starts Char.isUpper b)

variable {c d : Char} {cs w : List Char} {ws : List (List Char)}

/-! ## 2. Characters -/

theorem toNat_lt_of_isAlphanum (h : c.isAlphanum = true) : c.toNat < 0x80 := by
  simp [Char.isAlphanum, Char.isAlpha, Char.isUpper, Char.isLower, Char.isDigit,
    UInt32.le_iff_toNat_le, ← Char.toNat_val] at h ⊢
  omega

theorem isSeparator_of_isAlphanum (h : c.isAlphanum = true) : isSeparator c = false := by
  rw [isSeparator, Bool.or_eq_false_iff, beq_eq_false_iff_ne, beq_eq_false_iff_ne]
  refine ⟨?_, ?_⟩
  · rintro rfl
    exact absurd h (by decide)
  · rintro rfl
    exact absurd h (by decide)

theorem upper_of_isAlphanum (h : c.isAlphanum = true) : upper c = [c.toUpper] :=
  upper_of_ascii (toNat_lt_of_isAlphanum h)

theorem lower_of_isAlphanum (h : c.isAlphanum = true) : lower c = [c.toLower] :=
  lower_of_ascii (toNat_lt_of_isAlphanum h)

theorem isAlphanum_toLower (h : c.isAlphanum = true) : c.toLower.isAlphanum = true := by
  by_cases hupper : c.isUpper = true
  · simp [Char.isAlphanum, Char.isAlpha, hupper]
  · rwa [Char.toLower_eq_of_not_isUpper hupper]

theorem isAlphanum_toUpper (h : c.isAlphanum = true) : c.toUpper.isAlphanum = true := by
  by_cases hlower : c.isLower = true
  · simp [Char.isAlphanum, Char.isAlpha, hlower]
  · rwa [Char.toUpper_eq_of_not_isLower hlower]

theorem isSeparator_toLower (h : c.isAlphanum = true) : isSeparator c.toLower = false :=
  isSeparator_of_isAlphanum (isAlphanum_toLower h)

theorem upper_toLower (h : c.isAlphanum = true) : upper c.toLower = upper c := by
  rw [upper_of_isAlphanum (isAlphanum_toLower h), upper_of_isAlphanum h,
    Char.toUpper_toLower_eq_toUpper]

theorem lower_toLower (h : c.isAlphanum = true) : lower c.toLower = lower c := by
  rw [lower_of_isAlphanum (isAlphanum_toLower h), lower_of_isAlphanum h,
    Char.toLower_toLower_eq_toLower]

theorem lower_toUpper (h : c.isAlphanum = true) : lower c.toUpper = lower c := by
  rw [lower_of_isAlphanum (isAlphanum_toUpper h), lower_of_isAlphanum h,
    Char.toLower_toUpper_eq_toLower]

theorem upper_of_not_isLower (h : c.isAlphanum = true) (hlower : c.isLower = false) :
    upper c = [c] := by
  rw [upper_of_isAlphanum h, Char.toUpper_eq_of_not_isLower (by simp [hlower])]

theorem lower_of_not_isUpper (h : c.isAlphanum = true) (hupper : c.isUpper = false) :
    lower c = [c] := by
  rw [lower_of_isAlphanum h, Char.toLower_eq_of_not_isUpper (by simp [hupper])]

/-- A capital behind the first character is written as its small letter behind `_`. -/
theorem snakeChar_of_isUpper (h : c.isUpper = true) : snakeChar c = ['_', c.toLower] := by
  rw [snakeChar, if_pos h, lower_of_isAlphanum (by simp [Char.isAlphanum, Char.isAlpha, h])]

theorem snakeChar_of_not_isUpper (h : c.isAlphanum = true) (hupper : c.isUpper = false) :
    snakeChar c = [c] := by
  rw [snakeChar, if_neg (by simp [hupper]), lower_of_not_isUpper h hupper]

/-! ## 3. Splitting and joining -/

theorem words_of_forall (h : ∀ c ∈ w, isSeparator c = false) : words w = [w] := by
  induction w with
  | nil => rfl
  | cons c w ih =>
    rw [words, h c List.mem_cons_self, ih fun d hd => h d (List.mem_cons_of_mem c hd)]
    rfl

theorem words_append (h : ∀ c ∈ w, isSeparator c = false) (cs : List Char) :
    words (w ++ '_' :: cs) = w :: words cs := by
  induction w with
  | nil => rfl
  | cons c w ih =>
    rw [List.cons_append, words, h c List.mem_cons_self,
      ih fun d hd => h d (List.mem_cons_of_mem c hd)]
    rfl

/-- Splitting undoes joining. -/
theorem words_intercalate (hne : ws ≠ []) (h : ∀ w ∈ ws, ∀ c ∈ w, isSeparator c = false) :
    words (List.intercalate ['_'] ws) = ws := by
  induction ws with
  | nil => exact absurd rfl hne
  | cons w ws ih =>
    have hw := h w List.mem_cons_self
    cases ws with
    | nil =>
      rw [List.intercalate_singleton]
      exact words_of_forall hw
    | cons w' ws =>
      rw [List.intercalate_cons_cons, List.append_assoc, List.singleton_append, words_append hw,
        ih (List.cons_ne_nil w' ws) fun v hv => h v (List.mem_cons_of_mem w hv)]

theorem intercalate_cons_eq (w : List Char) (ws : List (List Char)) :
    List.intercalate ['_'] (w :: ws) = w ++ ws.flatMap ('_' :: ·) := by
  induction ws generalizing w with
  | nil => simp
  | cons w' ws ih =>
    rw [List.intercalate_cons_cons, ih, List.flatMap_cons, List.append_assoc]
    rfl

/-! ## 4. From camel case back -/

/-- No character of a word is a capital. -/
theorem IsWord.forall (h : IsWord w) : ∀ c ∈ w, c.isAlphanum = true ∧ c.isUpper = false := by
  have hsmall : ∀ c : Char, c.isLower = true ∨ c.isDigit = true →
      c.isAlphanum = true ∧ c.isUpper = false := by
    intro c hc
    simp [Char.isAlphanum, Char.isAlpha, Char.isUpper, Char.isLower, Char.isDigit,
      UInt32.le_iff_toNat_le] at hc ⊢
    omega
  cases w with
  | nil => exact h.elim
  | cons c cs =>
    obtain ⟨hc, hcs⟩ := h
    intro d hd
    rcases List.mem_cons.mp hd with rfl | hd
    · exact hsmall d (.inl hc)
    · exact hsmall d (hcs d hd)

theorem flatMap_snakeChar_of_forall (h : ∀ c ∈ cs, c.isAlphanum = true ∧ c.isUpper = false) :
    cs.flatMap snakeChar = cs := by
  induction cs with
  | nil => rfl
  | cons c cs ih =>
    obtain ⟨hplain, hupper⟩ := h c List.mem_cons_self
    rw [List.flatMap_cons, snakeChar_of_not_isUpper hplain hupper,
      ih fun d hd => h d (List.mem_cons_of_mem c hd)]
    rfl

/-- A raised word is read back, with `_` before it unless it comes first. -/
theorem IsWord.snake_raiseFirst (h : IsWord w) :
    (raiseFirst w).flatMap snakeChar = '_' :: w ∧
      ∀ cs, snake (raiseFirst w ++ cs) = w ++ cs.flatMap snakeChar := by
  have hforall := h.forall
  cases w with
  | nil => exact h.elim
  | cons c w =>
    obtain ⟨hplain, hupper⟩ := hforall c List.mem_cons_self
    have hraised : snakeChar c.toUpper = ['_', c] := by
      rw [snakeChar, if_pos (by simp [Char.isAlpha, h.1]), lower_toUpper hplain,
        lower_of_not_isUpper hplain hupper]
    have hw : w.flatMap snakeChar = w :=
      flatMap_snakeChar_of_forall fun d hd => hforall d (List.mem_cons_of_mem c hd)
    rw [raiseFirst, upper_of_isAlphanum hplain]
    refine ⟨?_, fun cs => ?_⟩
    · rw [List.flatMap_append, List.flatMap_singleton, hraised, hw]
      rfl
    · calc snake ([c.toUpper] ++ w ++ cs)
        _ = lower c.toUpper ++ (w ++ cs).flatMap snakeChar := rfl
        _ = c :: w ++ cs.flatMap snakeChar := by
            rw [lower_toUpper hplain, lower_of_not_isUpper hplain hupper, List.flatMap_append, hw]
            rfl

/-- Underscore case does not tell how the first character was written. -/
theorem snake_lowerFirst (h : ∀ c ∈ cs.head?, c.isAlphanum = true) :
    snake (lowerFirst cs) = snake cs := by
  cases cs with
  | nil => rfl
  | cons c cs =>
    have hc := h c rfl
    rw [lowerFirst, lower_of_isAlphanum hc]
    exact congrArg (· ++ cs.flatMap snakeChar) (lower_toLower hc)

theorem camel_intercalate (hne : ws ≠ []) (h : ∀ w ∈ ws, IsWord w) :
    camel (List.intercalate ['_'] ws) = ws.flatMap raiseFirst := by
  have hplain : ∀ w ∈ ws, ∀ c ∈ w, isSeparator c = false :=
    fun w hw c hc => isSeparator_of_isAlphanum ((h w hw).forall c hc).1
  rw [camel, words_intercalate hne hplain]

/-- **Underscore case undoes camel case.** -/
theorem snake_camel (hne : ws ≠ []) (h : ∀ w ∈ ws, IsWord w) :
    snake (camel (List.intercalate ['_'] ws)) = List.intercalate ['_'] ws := by
  rw [camel_intercalate hne h]
  cases ws with
  | nil => exact absurd rfl hne
  | cons w ws =>
    have hws : (ws.flatMap raiseFirst).flatMap snakeChar = ws.flatMap ('_' :: ·) := by
      rw [List.flatMap_assoc]
      exact List.flatMap_congr fun v hv =>
        (h v (List.mem_cons_of_mem w hv)).snake_raiseFirst.1
    rw [List.flatMap_cons, (h w List.mem_cons_self).snake_raiseFirst.2, hws, intercalate_cons_eq]

/-! ## 5. From underscore case back -/

theorem camel_of_forall (h : ∀ c ∈ w, isSeparator c = false) : camel w = raiseFirst w := by
  rw [camel, words_of_forall h, List.flatMap_singleton]

theorem camel_separated (h : ∀ c ∈ w, isSeparator c = false) (cs : List Char) :
    camel (w ++ '_' :: cs) = raiseFirst w ++ camel cs := by
  rw [camel, words_append h, List.flatMap_cons]
  rfl

/-- What underscore case makes of further characters, camel case undoes; `d :: w` is the word that
they come in. -/
theorem camel_append_flatMap (hword : ∀ c ∈ d :: w, isSeparator c = false)
    (hcs : ∀ c ∈ cs, c.isAlphanum = true) :
    camel (d :: w ++ cs.flatMap snakeChar) = upper d ++ w ++ cs := by
  induction cs generalizing d w with
  | nil =>
    rw [List.flatMap_nil, List.append_nil, List.append_nil, camel_of_forall hword]
    rfl
  | cons c cs ih =>
    have hc := hcs c List.mem_cons_self
    have hrest : ∀ c' ∈ cs, c'.isAlphanum = true := fun c' h => hcs c' (List.mem_cons_of_mem c h)
    rw [List.flatMap_cons]
    cases hupper : c.isUpper with
    | true =>
      -- a new word begins, and its first character is raised again
      have hraised : upper c.toLower = [c] := by
        rw [upper_toLower hc, upper_of_not_isLower hc]
        simpa using Char.not_isLower_of_isUpper hupper
      have hnew : ∀ c' ∈ [c.toLower], isSeparator c' = false :=
        List.forall_mem_singleton.mpr (isSeparator_toLower hc)
      calc camel (d :: w ++ (snakeChar c ++ cs.flatMap snakeChar))
        _ = camel (d :: w ++ '_' :: ([c.toLower] ++ cs.flatMap snakeChar)) := by
            rw [snakeChar_of_isUpper hupper]
            rfl
        _ = raiseFirst (d :: w) ++ (upper c.toLower ++ [] ++ cs) := by
            rw [camel_separated hword, ih hnew hrest]
        _ = upper d ++ w ++ c :: cs := by
            rw [hraised]
            rfl
    | false =>
      have hlonger : ∀ c' ∈ d :: (w ++ [c]), isSeparator c' = false := by
        intro c' h
        rcases List.mem_append.mp (show c' ∈ d :: w ++ [c] from h) with h | h
        · exact hword c' h
        · rw [List.mem_singleton.mp h]
          exact isSeparator_of_isAlphanum hc
      calc camel (d :: w ++ (snakeChar c ++ cs.flatMap snakeChar))
        _ = camel (d :: (w ++ [c]) ++ cs.flatMap snakeChar) := by
            rw [snakeChar_of_not_isUpper hc hupper, ← List.append_assoc]
            rfl
        _ = upper d ++ (w ++ [c]) ++ cs := ih hlonger hrest
        _ = upper d ++ w ++ c :: cs := by simp

/-- **Camel case undoes underscore case**, except that the first character is raised. -/
theorem camel_snake (h : ∀ c ∈ cs, c.isAlphanum = true) : camel (snake cs) = raiseFirst cs := by
  cases cs with
  | nil => rfl
  | cons c cs =>
    have hc := h c List.mem_cons_self
    have hfirst : ∀ c' ∈ [c.toLower], isSeparator c' = false :=
      List.forall_mem_singleton.mpr (isSeparator_toLower hc)
    have hundo := camel_append_flatMap hfirst fun c' h' => h c' (List.mem_cons_of_mem c h')
    rw [snake, lower_of_isAlphanum hc, raiseFirst, ← upper_toLower hc]
    exact hundo.trans (congrArg (· ++ cs) (List.append_nil _))

/-! ## 6. Names and columns -/

theorem isAlphanum_head_camel (hne : ws ≠ []) (h : ∀ w ∈ ws, IsWord w) :
    ∀ c ∈ (camel (List.intercalate ['_'] ws)).head?, c.isAlphanum = true := by
  rw [camel_intercalate hne h]
  match ws, hne with
  | w :: ws, _ =>
    have hw := h w List.mem_cons_self
    match w with
    | c :: cs =>
      have hc := (hw.forall c List.mem_cons_self).1
      rw [List.flatMap_cons, raiseFirst, upper_of_isAlphanum hc]
      rintro d ⟨⟩
      exact isAlphanum_toUpper hc

/-- A snake name is read back from either camel case. -/
theorem toUnderscore_toCamel {name : String} (h : IsSnake name) (raised : Bool) :
    toUnderscore (toCamel name raised) = name := by
  obtain ⟨ws, hne, hws, hname⟩ := h
  rw [toUnderscore, toCamel, String.toList_ofList, hname]
  refine (congrArg String.ofList ?_).trans ((congrArg String.ofList hname).symm.trans
    String.ofList_toList)
  cases raised with
  | true => exact snake_camel hne hws
  | false => exact (snake_lowerFirst (isAlphanum_head_camel hne hws)).trans (snake_camel hne hws)

/-- A plain name is read back from underscore case but for the case of its first character. -/
theorem toCamel_toUnderscore {name : String} (h : IsPlain name) (raised : Bool) :
    toCamel (toUnderscore name) raised =
      String.ofList (if raised then raiseFirst name.toList else lowerFirst name.toList) := by
  rw [toCamel, toUnderscore, String.toList_ofList, camel_snake h]
  cases raised with
  | true => rfl
  | false =>
    refine congrArg String.ofList ?_
    cases hname : name.toList with
    | nil => rfl
    | cons c cs =>
      have hc := h c (hname ▸ List.mem_cons_self)
      show lowerFirst (upper c ++ cs) = lowerFirst (c :: cs)
      rw [upper_of_isAlphanum hc]
      exact congrArg (· ++ cs) (lower_toUpper hc)

/-- Where the first character is of the right case, a plain name is read back as it was. -/
theorem toCamel_toUnderscore_eq {name : String} (h : IsPlain name) (raised : Bool)
    (hstart : ¬ Starts (if raised then Char.isLower else Char.isUpper) name) :
    toCamel (toUnderscore name) raised = name := by
  rw [toCamel_toUnderscore h]
  refine (congrArg String.ofList ?_).trans String.ofList_toList
  cases hname : name.toList with
  | nil => cases raised <;> rfl
  | cons c cs =>
    have hc := h c (hname ▸ List.mem_cons_self)
    have hfirst : (if raised then Char.isLower else Char.isUpper) c = false :=
      Bool.eq_false_iff.mpr fun hfirst => hstart ⟨c, by rw [hname]; rfl, hfirst⟩
    cases raised with
    | true => exact congrArg (· ++ cs) (upper_of_not_isLower hc hfirst)
    | false => exact congrArg (· ++ cs) (lower_of_not_isUpper hc hfirst)

variable {k : KeyCase} {a b : String} {columns : List String}

/-- Names that are told apart do not come to one name: both can be read back from it. -/
theorem TellsApart.eq_of_apply_eq (h : k.TellsApart a b) (heq : k.apply a = k.apply b) : a = b := by
  have hundone : ∀ undo : String → String, undo (k.apply a) = a → undo (k.apply b) = b → a = b :=
    fun undo ha hb => ha.symm.trans ((congrArg undo heq).trans hb)
  cases k with
  | keep => exact heq
  | lowerCamel =>
    exact hundone toUnderscore (toUnderscore_toCamel h.1 false) (toUnderscore_toCamel h.2 false)
  | upperCamel =>
    exact hundone toUnderscore (toUnderscore_toCamel h.1 true) (toUnderscore_toCamel h.2 true)
  | underscore =>
    obtain ⟨ha, hb, ⟨hastart, hbstart⟩ | ⟨hastart, hbstart⟩⟩ := h
    · exact hundone (toCamel · true) (toCamel_toUnderscore_eq ha true hastart)
        (toCamel_toUnderscore_eq hb true hbstart)
    · exact hundone (toCamel · false) (toCamel_toUnderscore_eq ha false hastart)
        (toCamel_toUnderscore_eq hb false hbstart)

/-- Plain names of which one begins with a capital and the other does not are not told apart. -/
example : underscore.apply "Id" = underscore.apply "id" := by
  decide +kernel

theorem nodup_map_apply (h : columns.Pairwise fun a b => a ≠ b ∧ k.TellsApart a b) :
    (columns.map k.apply).Nodup :=
  List.pairwise_map.mpr (h.imp fun ⟨hne, hapart⟩ heq => hne (hapart.eq_of_apply_eq heq))

open Marshaler in
/-- **Camel case and underscore case undo each other** on regular names.  So distinct names that are
regular in this sense do not come to one name, and in all rows of a result that has such columns
every column has its member. -/
theorem casings_inverse {σ ε : Type} (c : Cursor σ ε) (s : σ) :
    (∀ name, IsSnake name → ∀ raised, toUnderscore (toCamel name raised) = name) ∧
    (∀ name, IsPlain name →
      (¬ Starts Char.isLower name → toCamel (toUnderscore name) true = name) ∧
      (¬ Starts Char.isUpper name → toCamel (toUnderscore name) false = name)) ∧
    (∀ k a b, TellsApart k a b → a ≠ b → k.apply a ≠ k.apply b) ∧
    ∀ (k : KeyCase) columns cancels s', c.columns s = (.given (.ok columns) cancels, s') →
      columns.Pairwise (fun a b => a ≠ b ∧ k.TellsApart a b) →
      ∀ moves row m', ((start k s).reached c moves).next c = (.ok (some row), m') →
        ∃ cells s₁ cancels, c.nextRow s₁ = (.given (.ok (some cells)) cancels, m'.cursor) ∧
          cells.length = columns.length ∧
          row = (columns.map k.apply).zip (cells.map Cell.toJson) := by
  refine ⟨fun name => toUnderscore_toCamel,
    fun name h => ⟨toCamel_toUnderscore_eq h true, toCamel_toUnderscore_eq h false⟩,
    fun k a b hapart hne heq => hne (hapart.eq_of_apply_eq heq), ?_⟩
  intro k columns cancels s' htold hapart moves row m' hrow
  have hinformed : Informed c k s ((start k s).reached c moves) :=
    Informed.reached (m := start k s) (.unasked rfl rfl rfl) moves
  obtain ⟨columns', ⟨cancels', s₀, hasked⟩, cells, s₁, cancels₁, hread, hlength, hshows⟩ :=
    hinformed.of_row hrow
  obtain rfl : columns = columns' := by
    cases htold.symm.trans hasked
    rfl
  exact ⟨cells, s₁, cancels₁, hread, hlength, hshows.distinct (nodup_map_apply hapart)⟩

/-- A row of two columns that can be told apart. -/
def twinScript : Script :=
  .ofAnswers (.given (.ok ["user_name", "user_name2"]) false)
    [.given (.ok (some [.text "a", .text "b"])) false]

theorem casings_inverse_twinScript :
    toUnderscore (toCamel "user_name2" false) = "user_name2" ∧
    toCamel (toUnderscore "UserID2") true = "UserID2" ∧
    lowerCamel.apply "user_name" ≠ lowerCamel.apply "user_name2" ∧
    ∃ cells : List Cell, cells.length = 2 ∧
      [("userName", Json.string "a"), ("userName2", .string "b")] =
        (["user_name", "user_name2"].map lowerCamel.apply).zip (cells.map Cell.toJson) := by
  obtain ⟨hsnake, hplain, happart, hrow⟩ := casings_inverse Script.cursor twinScript
  have hname : IsSnake "user_name" :=
    ⟨["user".toList, "name".toList], by decide, by simp [IsWord], rfl⟩
  have hname2 : IsSnake "user_name2" :=
    ⟨["user".toList, "name2".toList], by decide, by simp [IsWord], rfl⟩
  have hID : IsPlain "UserID2" := by simp [IsPlain]
  have htwins : lowerCamel.TellsApart "user_name" "user_name2" := ⟨hname, hname2⟩
  refine ⟨hsnake _ hname2 false, (hplain _ hID).1 (by simp [Starts]), happart _ _ _ htwins ?_, ?_⟩
  · decide
  · obtain ⟨cells, -, -, -, hlength, heq⟩ := hrow lowerCamel ["user_name", "user_name2"] false _ rfl
      (List.pairwise_pair.mpr ⟨by decide, htwins⟩) [] _ _ rfl
    exact ⟨cells, hlength, heq⟩

end KeyCase

end SqlGateway
