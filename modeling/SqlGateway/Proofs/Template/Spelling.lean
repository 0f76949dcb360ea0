/-
# Characters that spell a token

Pieces that are put together need not be read as they were: characters that are no token where they
stand can come to stand side by side and be read as one.  Then they *spell* it.  A token's text has
its only opening brace in front, so what is spelt never takes a part of a token with it.

* `pieces_textOf_iff`: pieces are read as they were exactly if their characters spell no token;
* `pieces_textOf_of_tokens_eq`: the tokens that are read tell whether it is so, since none of them
  is lost by putting pieces together;
* `not_spells_append`: what spells a token across a seam starts with characters, and these are all
  that one has to know of what is behind it.
-/
import SqlGateway.Proofs.Template.Forest

namespace SqlGateway.Template

/-! ## 1. Spelling -/

/-- Every token among the pieces has a name. -/
def Named (ps : List Piece) : Prop := ∀ t : Token, .token t ∈ ps → IsName t.name.toList

/-- The characters among the pieces spell a token: they stand side by side as in its text. -/
def Spells (ps : List Piece) (t : Token) : Prop :=
  IsName t.name.toList ∧ t.text.map Piece.char <:+: ps

variable {ps qs rs : List Piece} {t : Token}

theorem named_pieces (s : List Char) : Named (pieces s) := fun _ => isName_of_mem_pieces

theorem Named.sublist (h : Named qs) (hsub : ps.Sublist qs) : Named ps :=
  fun t ht => h t (hsub.subset ht)

theorem Spells.mono (h : Spells ps t) (hps : ps <:+: qs) : Spells qs t :=
  ⟨h.1, h.2.trans hps⟩

/-- What spells a token begins with a character. -/
theorem map_text_eq_cons (t : Token) :
    ∃ q, t.text.map Piece.char = .char '\x7b' :: q := ⟨_, rfl⟩

/-- Text without a brace can be taken off pieces only if it is made of their characters. -/
theorem exists_of_textOf_eq {cs rest : List Char} (hps : Named ps) (hcs : '\x7b' ∉ cs)
    (h : textOf ps = cs ++ rest) : ∃ qs, ps = cs.map .char ++ qs ∧ textOf qs = rest := by
  induction cs generalizing ps with
  | nil => exact ⟨ps, rfl, h⟩
  | cons c cs ih =>
    obtain ⟨hc, hmem⟩ : '\x7b' ≠ c ∧ '\x7b' ∉ cs := by simpa using hcs
    cases ps with
    | nil => simp at h
    | cons p ps =>
      cases p with
      | char d =>
        obtain ⟨rfl, htail⟩ := List.cons.inj h
        obtain ⟨qs, rfl, hrest⟩ := ih (hps.sublist (List.sublist_cons_self _ _)) hmem htail
        exact ⟨qs, rfl, hrest⟩
      | token t =>
        obtain ⟨q, hq, -⟩ := text_eq_cons (hps t List.mem_cons_self)
        rw [textOf_cons, Piece.text, hq] at h
        exact absurd (List.cons.inj h).1 hc

/-- A brace among pieces is read as the front of a token only if characters spell this token. -/
theorem exists_of_takeToken_textOf {rest : List Char} (hps : Named ps)
    (h : takeToken (textOf ps) = some (t, rest)) :
    ∃ qs, .char '\x7b' :: ps = t.text.map .char ++ qs ∧ textOf qs = rest := by
  obtain ⟨hname, htext⟩ := takeToken_eq_some_iff.mp h
  obtain ⟨q, hq, hmem⟩ := text_eq_cons hname
  rw [hq] at htext
  obtain ⟨qs, rfl, hrest⟩ := exists_of_textOf_eq hps hmem (List.cons.inj htext).2.symm
  exact ⟨qs, by rw [hq]; rfl, hrest⟩

/-! ## 2. Reading pieces again -/

theorem spells_of_takeToken {rest : List Char} (hps : Named ps)
    (h : takeToken (textOf ps) = some (t, rest)) : Spells (.char '\x7b' :: ps) t := by
  obtain ⟨qs, hqs, -⟩ := exists_of_takeToken_textOf hps h
  exact ⟨(takeToken_eq_some_iff.mp h).1, hqs ▸ (List.prefix_append _ _).isInfix⟩

/-- **Pieces are read as they were exactly if their characters spell no token.** -/
theorem pieces_textOf_iff (hps : Named ps) :
    pieces (textOf ps) = ps ↔ ∀ t, ¬ Spells ps t := by
  constructor
  · rintro h t ⟨hname, front, back, hps⟩
    rw [List.append_assoc] at hps
    have hread := pieces_textOf_of_append (h.trans hps.symm)
    rw [textOf_append, textOf_map_char, pieces_text_append hname] at hread
    obtain ⟨q, hq⟩ := map_text_eq_cons t
    rw [hq] at hread
    cases (List.cons.inj hread).1
  · intro h
    induction ps with
    | nil => exact pieces_nil
    | cons p ps ih =>
      have htail := ih (hps.sublist (List.sublist_cons_self _ _)) fun t ht =>
        h t (ht.mono (List.suffix_cons p ps).isInfix)
      cases p with
      | token t =>
        rw [textOf_cons, Piece.text, pieces_text_append (hps t List.mem_cons_self), htail]
      | char c =>
        rw [textOf_cons, Piece.text, List.singleton_append]
        by_cases hc : c = '\x7b'
        · subst hc
          cases htake : takeToken (textOf ps) with
          | none => rw [pieces_brace htake, htail]
          | some found =>
            exact absurd (spells_of_takeToken (hps.sublist (List.sublist_cons_self _ _)) htake)
              (h found.1)
        · rw [pieces_cons_of_ne hc, htail]

/-- The tokens among pieces. -/
def tokensOf (ps : List Piece) : List Token := ps.filterMap Piece.token?

theorem tokensOf_map_char_append (cs : List Char) (ps : List Piece) :
    tokensOf (cs.map .char ++ ps) = tokensOf ps := by
  simp [tokensOf, List.filterMap_append, List.filterMap_map, Piece.token?, Function.comp_def]

/-- No token is lost by putting pieces together, and if none is gained either, the pieces are read
as they were.  The induction is on the number of pieces, for a token that is spelt takes several. -/
theorem length_tokensOf_le (n : Nat) (hn : ps.length ≤ n) (hps : Named ps) :
    (tokensOf ps).length ≤ (tokensOf (pieces (textOf ps))).length ∧
      ((tokensOf (pieces (textOf ps))).length = (tokensOf ps).length →
        pieces (textOf ps) = ps) := by
  induction n generalizing ps with
  | zero =>
    obtain rfl := List.length_eq_zero_iff.mp (Nat.le_zero.mp hn)
    rw [textOf_nil, pieces_nil]
    exact ⟨Nat.le_refl _, fun _ => rfl⟩
  | succ n ih =>
    cases ps with
    | nil =>
      rw [textOf_nil, pieces_nil]
      exact ⟨Nat.le_refl _, fun _ => rfl⟩
    | cons p ps =>
      have hnamed := hps.sublist (List.sublist_cons_self p ps)
      obtain ⟨hle, heq⟩ := ih (Nat.le_of_succ_le_succ hn : ps.length ≤ n) hnamed
      cases p with
      | token t =>
        rw [textOf_cons, Piece.text, pieces_text_append (hps t List.mem_cons_self)]
        refine ⟨Nat.succ_le_succ hle, fun h => ?_⟩
        rw [heq (Nat.succ.inj h)]
      | char c =>
        rw [textOf_cons, Piece.text, List.singleton_append]
        by_cases hc : c = '\x7b'
        · subst hc
          cases htake : takeToken (textOf ps) with
          | none =>
            rw [pieces_brace htake]
            exact ⟨hle, fun h => by rw [heq h]⟩
          | some found =>
            -- one token more, and those behind it are not fewer
            obtain ⟨t, rest⟩ := found
            obtain ⟨hname, htext⟩ := takeToken_eq_some_iff.mp htake
            obtain ⟨qs, hqs, hrest⟩ := exists_of_takeToken_textOf hnamed htake
            obtain ⟨q, hq⟩ := map_text_eq_cons t
            have hcons : ps = q ++ qs := by
              rw [hq] at hqs
              exact (List.cons.inj hqs).2
            have hlength : qs.length ≤ n := by
              rw [hcons, List.length_cons, List.length_append] at hn
              omega
            have hmore := (ih hlength (hnamed.sublist (hcons ▸ List.sublist_append_right q qs))).1
            rw [← htext, pieces_text_append hname, hqs, tokensOf_map_char_append, ← hrest]
            have hgained : (tokensOf (.token t :: pieces (textOf qs))).length =
                (tokensOf (pieces (textOf qs))).length + 1 := rfl
            rw [hgained]
            exact ⟨by omega, fun h => by omega⟩
        · rw [pieces_cons_of_ne hc]
          exact ⟨hle, fun h => by rw [heq h]⟩

/-- **The tokens that are read tell whether the pieces are read as they were.** -/
theorem pieces_textOf_of_tokens_eq (hps : Named ps)
    (h : tokensOf (pieces (textOf ps)) = tokensOf ps) : pieces (textOf ps) = ps :=
  (length_tokensOf_le ps.length (Nat.le_refl _) hps).2 (congrArg List.length h)

/-! ## 3. Texts -/

theorem splitAtFirst_eq_none_iff {pattern s : List Char} (hpattern : pattern ≠ []) :
    splitAtFirst pattern s = none ↔ ¬ pattern <:+: s := by
  induction s with
  | nil => simpa [splitAtFirst] using hpattern
  | cons c s ih =>
    rw [splitAtFirst, List.infix_cons_iff]
    by_cases hfront : pattern <+: c :: s
    · simp [hfront, List.isPrefixOf_iff_prefix]
    · simp [hfront, List.isPrefixOf_iff_prefix, ih]

/-- **A token is read off a text exactly if its own text stands in it.** -/
theorem mem_pieces_iff {s : List Char} (ht : IsName t.name.toList) :
    .token t ∈ pieces s ↔ t.text <:+: s := by
  constructor
  · intro h
    obtain ⟨front, back, hs⟩ := List.append_of_mem h
    rw [← textOf_pieces s, hs, textOf_append, textOf_cons]
    exact List.infix_append' _ _ _
  · intro h
    refine Classical.byContradiction fun hmem => ?_
    have hnone := splitAtFirst_of_not_mem ht hmem
    rw [splitAtFirst_eq_none_iff (by simp [Token.text, tokenText])] at hnone
    exact hnone h

/-! ## 4. Seams -/

/-- Characters in front of pieces stand in front of the first token. -/
theorem map_char_prefix_of_append_token {cs : List Char}
    (h : cs.map Piece.char <+: ps ++ .token t :: qs) : cs.map Piece.char <+: ps := by
  induction ps generalizing cs with
  | nil =>
    cases cs with
    | nil => exact List.nil_prefix
    | cons c cs => cases (List.cons_prefix_cons.mp h).1
  | cons p ps ih =>
    cases cs with
    | nil => exact List.nil_prefix
    | cons c cs =>
      obtain ⟨rfl, htail⟩ := List.cons_prefix_cons.mp h
      exact List.cons_prefix_cons.mpr ⟨rfl, ih htail⟩

/-- **Nothing is spelt across a seam** if nothing would be spelt there with other pieces behind it,
as long as these begin with the same characters. -/
theorem not_spells_append (h : ∀ t, ¬ Spells (ps ++ rs) t) (hqs : ∀ t, ¬ Spells qs t)
    (hlead : ∀ cs : List Char, cs.map Piece.char <+: qs → cs.map Piece.char <+: rs) (t : Token) :
    ¬ Spells (ps ++ qs) t := by
  rintro ⟨hname, hspelt⟩
  rcases List.infix_append_iff.mp hspelt with hin | hin | ⟨front, back, htext, hfront, hback⟩
  · exact h t ⟨hname, hin.trans (List.prefix_append ps rs).isInfix⟩
  · exact hqs t ⟨hname, hin⟩
  · obtain ⟨cs, ds, -, rfl, rfl⟩ := List.map_eq_append_iff.mp htext
    refine h t ⟨hname, htext ▸ ?_⟩
    obtain ⟨a, ha⟩ := hfront
    obtain ⟨b, hb⟩ := hlead ds hback
    exact ⟨a, b, by rw [← ha, ← hb]; simp⟩

end SqlGateway.Template
