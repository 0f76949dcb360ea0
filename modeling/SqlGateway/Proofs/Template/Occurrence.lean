/-
# Where a token occurs

A template is read in two ways.  `pieces` cuts it into tokens and the characters between them;
`splitAtFirst` looks for the text of one token and knows nothing of the others.  The two agree,
since neither a name nor a sigil holds an opening brace: an occurrence can start only where the
scanner looks for a token.

* `takeToken_eq_some_iff`: behind a brace stands a token exactly if the text goes on with a name
  and a closing brace;
* `splitAtFirst_of_pieces`, `splitAtFirst_of_not_mem`: the first occurrence of a token's text is
  the first of the pieces that is this token, and without such a piece there is no occurrence;
* `stripBlock_of_pieces`, `stripBlock_of_not_mem`: what one round of cutting a block out does to
  the pieces.
-/
import SqlGateway.Template.Statement

namespace SqlGateway.Template

/-! ## 1. Names -/

/-- A name of a token: name characters, at least one. -/
def IsName (name : List Char) : Prop := name ≠ [] ∧ ∀ c ∈ name, isNameChar c = true

instance (name : List Char) : Decidable (IsName name) :=
  decidable_of_iff (name ≠ [] ∧ name.all isNameChar = true) (by simp [IsName])

@[simp] theorem isNameChar_openingBrace : isNameChar '\x7b' = false := by decide

@[simp] theorem isNameChar_closingBrace : isNameChar '\x7d' = false := by decide

@[simp] theorem isNameChar_hash : isNameChar '#' = false := by decide

@[simp] theorem isNameChar_slash : isNameChar '/' = false := by decide

theorem takeWhile_name_append {name s : List Char} (h : ∀ c ∈ name, isNameChar c = true) :
    (name ++ '\x7d' :: s).takeWhile isNameChar = name := by
  rw [List.takeWhile_append_of_pos h]
  simp

theorem dropWhile_name_append {name s : List Char} (h : ∀ c ∈ name, isNameChar c = true) :
    (name ++ '\x7d' :: s).dropWhile isNameChar = '\x7d' :: s := by
  rw [List.dropWhile_append_of_pos h]
  simp

/-- A sigil is read off the front of a text that does not start with one itself. -/
theorem splitSigil_append {kind : TokenKind} {s : List Char} (hhash : s.head? ≠ some '#')
    (hslash : s.head? ≠ some '/') : splitSigil (kind.sigil ++ s) = (kind, s) := by
  cases kind with
  | opening => rfl
  | closing => rfl
  | placeholder =>
    simp only [TokenKind.sigil, List.nil_append]
    unfold splitSigil
    split
    next => simp at hhash
    next => simp at hslash
    next => rfl

/-- A name does not start with a sigil, so the sigil of a token is read off without its name. -/
theorem splitSigil_name {kind : TokenKind} {name : List Char}
    (h : ∀ c ∈ name, isNameChar c = true) : splitSigil (kind.sigil ++ name) = (kind, name) := by
  refine splitSigil_append ?_ ?_ <;>
  · intro hc
    have := h _ (List.mem_of_mem_head? hc)
    simp at this

/-! ## 2. Taking a token -/

/-- **What stands behind a brace is a token exactly if it reads as one.** -/
theorem takeToken_eq_some_iff {cs rest : List Char} {t : Token} :
    takeToken cs = some (t, rest) ↔ IsName t.name.toList ∧ t.text ++ rest = '\x7b' :: cs := by
  constructor
  · intro h
    refine ⟨?_, text_of_takeToken h⟩
    unfold takeToken takeName at h
    split at h
    next =>
      split at h
      next => simp at h
      next hne =>
        obtain ⟨rfl, -⟩ : _ ∧ _ := by simpa using h
        rw [IsName, String.toList_ofList]
        exact ⟨hne, List.all_eq_true.mp List.all_takeWhile⟩
    next => simp at h
  · rintro ⟨hname, htext⟩
    obtain ⟨kind, name⟩ := t
    obtain rfl : cs = kind.sigil ++ name.toList ++ '\x7d' :: rest := by
      simpa [Token.text, tokenText] using htext.symm
    have hsplit : splitSigil (kind.sigil ++ name.toList ++ '\x7d' :: rest) =
        (kind, name.toList ++ '\x7d' :: rest) := by
      obtain ⟨c, n, hc⟩ := List.exists_cons_of_ne_nil hname.1
      have hchar : isNameChar c = true := hname.2 c (hc ▸ List.mem_cons_self)
      rw [List.append_assoc, hc]
      refine splitSigil_append ?_ ?_ <;>
      · rintro heq
        obtain rfl := Option.some.inj heq
        simp at hchar
    rw [takeToken, hsplit, takeName]
    simp only [dropWhile_name_append hname.2, takeWhile_name_append hname.2, if_neg hname.1,
      String.ofList_toList]

/-- The text of a token starts with a brace and holds no other. -/
theorem text_eq_cons {t : Token} (h : IsName t.name.toList) :
    ∃ q, t.text = '\x7b' :: q ∧ '\x7b' ∉ q := by
  refine ⟨t.kind.sigil ++ t.name.toList ++ ['\x7d'], rfl, ?_⟩
  have hname : '\x7b' ∉ t.name.toList := fun hc => by simpa using h.2 _ hc
  have hsigil : '\x7b' ∉ t.kind.sigil := by cases t.kind <;> decide
  simp [hname, hsigil]

/-! ## 3. The pieces of a text that is built up -/

@[simp] theorem pieces_nil : pieces [] = [] := by
  rw [pieces]

theorem pieces_cons_of_ne {c : Char} {cs : List Char} (h : c ≠ '\x7b') :
    pieces (c :: cs) = .char c :: pieces cs := by
  rw [pieces, if_neg h]

theorem pieces_brace {cs : List Char} (h : takeToken cs = none) :
    pieces ('\x7b' :: cs) = .char '\x7b' :: pieces cs := by
  rw [pieces, if_pos rfl]
  split
  next heq => simp [h] at heq
  next => rfl

theorem pieces_text_append {t : Token} (h : IsName t.name.toList) (rest : List Char) :
    pieces (t.text ++ rest) = .token t :: pieces rest := by
  obtain ⟨q, hq, -⟩ := text_eq_cons h
  have htake : takeToken (q ++ rest) = some (t, rest) :=
    takeToken_eq_some_iff.mpr ⟨h, by rw [hq]; rfl⟩
  rw [hq, List.cons_append, pieces, if_pos rfl]
  split
  next t' rest' heq =>
    rw [htake] at heq
    obtain ⟨rfl, rfl⟩ : _ ∧ _ := by simpa using heq
    rfl
  next heq => simp [htake] at heq

/-- **Reading a template piece by piece.**  A statement about all templates holds if it holds of
the empty one and is kept by a token, by a brace that opens none, and by any other character. -/
theorem template_induction {P : List Char → Prop} (nil : P [])
    (token : ∀ (t : Token) rest, IsName t.name.toList → P rest → P (t.text ++ rest))
    (brace : ∀ cs, takeToken cs = none → P cs → P ('\x7b' :: cs))
    (char : ∀ c cs, c ≠ '\x7b' → P cs → P (c :: cs)) (s : List Char) : P s := by
  fun_induction pieces s with
  | case1 => exact nil
  | case2 cs t rest h _ ih =>
    rw [← text_of_takeToken h]
    exact token t rest (takeToken_eq_some_iff.mp h).1 ih
  | case3 cs h ih => exact brace cs h ih
  | case4 c cs hc ih => exact char c cs hc ih

/-- The text of pieces. -/
def textOf (ps : List Piece) : List Char := ps.flatMap Piece.text

@[simp] theorem textOf_nil : textOf [] = [] := rfl

@[simp] theorem textOf_cons (p : Piece) (ps : List Piece) :
    textOf (p :: ps) = p.text ++ textOf ps := rfl

@[simp] theorem textOf_append (ps qs : List Piece) :
    textOf (ps ++ qs) = textOf ps ++ textOf qs := List.flatMap_append

theorem textOf_pieces (s : List Char) : textOf (pieces s) = s := flatMap_text_pieces s

/-- Every token among the pieces of a template has a name. -/
theorem isName_of_mem_pieces {s : List Char} {t : Token} (h : .token t ∈ pieces s) :
    IsName t.name.toList := by
  induction s using template_induction with
  | nil => simp at h
  | token t' rest ht' ih =>
    rw [pieces_text_append ht'] at h
    rcases List.mem_cons.mp h with heq | h
    · cases heq
      exact ht'
    · exact ih h
  | brace cs hcs ih =>
    rw [pieces_brace hcs] at h
    exact ih (by simpa using h)
  | char c cs hc ih =>
    rw [pieces_cons_of_ne hc] at h
    exact ih (by simpa using h)

/-- What is behind some of the pieces is cut the same way when it stands alone. -/
theorem pieces_textOf_of_append {s : List Char} {ps qs : List Piece}
    (h : pieces s = ps ++ qs) : pieces (textOf qs) = qs := by
  induction s using template_induction generalizing ps with
  | nil =>
    obtain ⟨-, rfl⟩ : ps = [] ∧ qs = [] := by simpa using h
    exact pieces_nil
  | token t rest ht ih =>
    cases ps with
    | nil => rw [← show pieces (t.text ++ rest) = qs from h, textOf_pieces]
    | cons p ps =>
      rw [pieces_text_append ht] at h
      exact ih (List.cons.inj h).2
  | brace cs hcs ih =>
    cases ps with
    | nil => rw [← show pieces ('\x7b' :: cs) = qs from h, textOf_pieces]
    | cons p ps =>
      rw [pieces_brace hcs] at h
      exact ih (List.cons.inj h).2
  | char c cs hc ih =>
    cases ps with
    | nil => rw [← show pieces (c :: cs) = qs from h, textOf_pieces]
    | cons p ps =>
      rw [pieces_cons_of_ne hc] at h
      exact ih (List.cons.inj h).2

/-! ## 4. The textual search -/

theorem splitAtFirst_append_self (pattern s : List Char) (h : pattern ≠ []) :
    splitAtFirst pattern (pattern ++ s) = some ([], s) := by
  match pattern, h with
  | c :: q, _ => simp [splitAtFirst]

theorem splitAtFirst_cons_of_not_leading {pattern cs : List Char} {c : Char}
    (h : ¬ pattern <+: c :: cs) :
    splitAtFirst pattern (c :: cs) =
      (splitAtFirst pattern cs).map fun (before, behind) => (c :: before, behind) := by
  have hp : ¬ pattern.isPrefixOf (c :: cs) = true := fun hp => h (List.isPrefixOf_iff_prefix.mp hp)
  rw [splitAtFirst, if_neg hp]

/-- A pattern that starts with a brace does not start in a text without braces. -/
theorem splitAtFirst_append_of_not_mem {u s q : List Char} (h : '\x7b' ∉ u) :
    splitAtFirst ('\x7b' :: q) (u ++ s) =
      (splitAtFirst ('\x7b' :: q) s).map fun (before, behind) => (u ++ before, behind) := by
  induction u with
  | nil => simp
  | cons c u ih =>
    obtain ⟨hc, hu⟩ : '\x7b' ≠ c ∧ '\x7b' ∉ u := by simpa using h
    have hnot : ¬ ('\x7b' :: q) <+: c :: (u ++ s) := fun hp =>
      hc (List.cons_prefix_cons.mp hp).1
    rw [List.cons_append, splitAtFirst_cons_of_not_leading hnot, ih hu, Option.map_map]
    rfl

/-- The texts of two tokens begin a template together only if they are one token. -/
theorem eq_of_prefix_text {t t' : Token} {rest : List Char} (ht : IsName t.name.toList)
    (ht' : IsName t'.name.toList) (h : t.text <+: t'.text ++ rest) : t = t' := by
  obtain ⟨u, hu⟩ := h
  have hp := congrArg pieces hu
  rw [pieces_text_append ht, pieces_text_append ht'] at hp
  simpa using (List.cons.inj hp).1

/-- A token that comes first and is another one is passed over as a whole. -/
theorem splitAtFirst_text_append {t t' : Token} (ht : IsName t.name.toList)
    (ht' : IsName t'.name.toList) (hne : t ≠ t') (rest : List Char) :
    splitAtFirst t.text (t'.text ++ rest) =
      (splitAtFirst t.text rest).map fun (before, behind) => (t'.text ++ before, behind) := by
  have hnot : ¬ t.text <+: t'.text ++ rest := fun hp => hne (eq_of_prefix_text ht ht' hp)
  obtain ⟨q, hq, -⟩ := text_eq_cons ht
  obtain ⟨q', hq', hmem⟩ := text_eq_cons ht'
  rw [hq', List.cons_append] at hnot ⊢
  rw [splitAtFirst_cons_of_not_leading hnot, hq,
    splitAtFirst_append_of_not_mem hmem, Option.map_map]
  rfl

theorem not_prefix_of_takeToken {t : Token} {cs : List Char} (ht : IsName t.name.toList)
    (h : takeToken cs = none) : ¬ t.text <+: '\x7b' :: cs := by
  rintro ⟨rest, hrest⟩
  have hsome : takeToken cs = some (t, rest) := takeToken_eq_some_iff.mpr ⟨ht, hrest⟩
  simp [h] at hsome

theorem not_prefix_of_ne {t : Token} {c : Char} {cs : List Char} (ht : IsName t.name.toList)
    (h : c ≠ '\x7b') : ¬ t.text <+: c :: cs := by
  obtain ⟨q, hq, -⟩ := text_eq_cons ht
  rw [hq]
  exact fun hp => h (List.cons_prefix_cons.mp hp).1.symm

/-- **A token that is not among the pieces does not occur.** -/
theorem splitAtFirst_of_not_mem {t : Token} {s : List Char} (ht : IsName t.name.toList)
    (h : .token t ∉ pieces s) : splitAtFirst t.text s = none := by
  induction s using template_induction with
  | nil => rfl
  | token t' rest ht' ih =>
    rw [pieces_text_append ht'] at h
    obtain ⟨hne, hrest⟩ : t ≠ t' ∧ .token t ∉ pieces rest := by simpa using h
    rw [splitAtFirst_text_append ht ht' hne, ih hrest]
    rfl
  | brace cs hcs ih =>
    rw [pieces_brace hcs] at h
    rw [splitAtFirst_cons_of_not_leading (not_prefix_of_takeToken ht hcs), ih (by simpa using h)]
    rfl
  | char c cs hc ih =>
    rw [pieces_cons_of_ne hc] at h
    rw [splitAtFirst_cons_of_not_leading (not_prefix_of_ne ht hc), ih (by simpa using h)]
    rfl

/-- **The first occurrence of a token is the first of the pieces that is this token.** -/
theorem splitAtFirst_of_pieces {t : Token} {s : List Char} {ps qs : List Piece}
    (ht : IsName t.name.toList) (h : pieces s = ps ++ .token t :: qs) (hps : .token t ∉ ps) :
    splitAtFirst t.text s = some (textOf ps, textOf qs) := by
  have htext : t.text ≠ [] := by simp [Token.text, tokenText]
  induction s using template_induction generalizing ps with
  | nil => simp at h
  | token t' rest ht' ih =>
    rw [pieces_text_append ht'] at h
    cases ps with
    | nil =>
      obtain ⟨rfl, rfl⟩ : t' = t ∧ pieces rest = qs := by simpa using h
      rw [splitAtFirst_append_self _ _ htext, textOf_pieces]
      rfl
    | cons p ps =>
      obtain ⟨rfl, hrest⟩ := List.cons.inj h
      obtain ⟨hne, hps⟩ : t ≠ t' ∧ .token t ∉ ps := by simpa using hps
      rw [splitAtFirst_text_append ht ht' hne, ih hrest hps]
      rfl
  | brace cs hcs ih =>
    rw [pieces_brace hcs] at h
    cases ps with
    | nil => simp at h
    | cons p ps =>
      obtain ⟨rfl, hrest⟩ := List.cons.inj h
      rw [splitAtFirst_cons_of_not_leading (not_prefix_of_takeToken ht hcs),
        ih hrest (fun hp => hps (List.mem_cons_of_mem _ hp))]
      rfl
  | char c cs hc ih =>
    rw [pieces_cons_of_ne hc] at h
    cases ps with
    | nil => simp at h
    | cons p ps =>
      obtain ⟨rfl, hrest⟩ := List.cons.inj h
      rw [splitAtFirst_cons_of_not_leading (not_prefix_of_ne ht hc),
        ih hrest (fun hp => hps (List.mem_cons_of_mem _ hp))]
      rfl

/-! ## 5. Cutting blocks out -/

theorem stripAbsent_cons (fields : Fields) (name : String) (declared : List String)
    (s : List Char) : stripAbsent fields (name :: declared) s =
      stripAbsent fields declared
        (if fields.isPresent name then s else stripBlock name.toList s) := rfl

/-- Without an opening marker nothing is cut out. -/
theorem stripBlock_of_not_mem {name : String} {s : List Char} (hn : IsName name.toList)
    (h : .token ⟨.opening, name⟩ ∉ pieces s) : stripBlock name.toList s = s := by
  have hopen : splitAtFirst (tokenText .opening name.toList) s = none :=
    splitAtFirst_of_not_mem (t := ⟨.opening, name⟩) hn h
  rw [stripBlock]
  split
  next => rfl
  next heq => simp [hopen] at heq

/-- One round of cutting: the pieces from the first opening marker to the first closing marker
behind it go. -/
theorem stripBlock_of_pieces {name : String} {s : List Char} {ps ms qs : List Piece}
    (hn : IsName name.toList)
    (h : pieces s = ps ++ .token ⟨.opening, name⟩ :: (ms ++ .token ⟨.closing, name⟩ :: qs))
    (hps : .token ⟨.opening, name⟩ ∉ ps) (hms : .token ⟨.closing, name⟩ ∉ ms) :
    stripBlock name.toList s = stripBlock name.toList (textOf (ps ++ qs)) := by
  have hopen : splitAtFirst (tokenText .opening name.toList) s =
      some (textOf ps, textOf (ms ++ .token ⟨.closing, name⟩ :: qs)) :=
    splitAtFirst_of_pieces (t := ⟨.opening, name⟩) hn h hps
  have hinside : pieces (textOf (ms ++ .token ⟨.closing, name⟩ :: qs)) =
      ms ++ .token ⟨.closing, name⟩ :: qs := by
    have hsplit : pieces s = (ps ++ [.token ⟨.opening, name⟩]) ++
        (ms ++ .token ⟨.closing, name⟩ :: qs) := by simpa using h
    exact pieces_textOf_of_append hsplit
  have hclose : splitAtFirst (tokenText .closing name.toList)
      (textOf (ms ++ .token ⟨.closing, name⟩ :: qs)) = some (textOf ms, textOf qs) :=
    splitAtFirst_of_pieces (t := ⟨.closing, name⟩) hn hinside hms
  rw [stripBlock]
  split
  next heq => simp [hopen] at heq
  next before inside heq =>
    obtain ⟨rfl, rfl⟩ := Prod.mk.inj (Option.some.inj (hopen.symm.trans heq))
    split
    next heq' => simp only [hclose, reduceCtorEq] at heq'
    next mid behind heq' =>
      obtain ⟨-, rfl⟩ := Prod.mk.inj (Option.some.inj (hclose.symm.trans heq'))
      rw [textOf_append]

end SqlGateway.Template
