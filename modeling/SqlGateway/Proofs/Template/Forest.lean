/-
# Templates as forests

A template without stray tokens is a forest: literal texts, placeholders, and blocks with a forest
inside.  The compiler never builds it; it works on the text.  This module proves that the text of a
well-formed forest gives the forest's own structure back, whatever reads it:

* `Forest.pieces_text`: the scanner cuts the text into the tokens of the forest and the characters
  of its literals;
* `Forest.validate_text`: the blocks are accepted;
* `Forest.stripAbsent_text`: cutting blocks out of the text, one name after the other, is pruning
  the forest at all these names at once.

A literal may hold braces, but no token, and it may not end in the beginning of one.  Then nothing
that comes to stand behind it can make a token of it (`Stable`), and the text may be cut in front
of any piece and joined again.
-/
import SqlGateway.Proofs.Template.Occurrence
import SqlGateway.Template.Block

namespace SqlGateway.Template

/-! ## 1. Literals -/

/-- The beginning of a token whose name is not closed yet: a brace, a sigil or none, and name
characters. -/
def Unfinished (cs : List Char) : Prop :=
  ∃ (kind : TokenKind) (name : List Char),
    (∀ c ∈ name, isNameChar c = true) ∧ cs = '\x7b' :: (kind.sigil ++ name)

/-- A literal text holds no token and does not end in the beginning of one. -/
structure IsLiteral (cs : List Char) : Prop where
  no_token : ∀ t : Token, IsName t.name.toList → ¬ t.text <:+: cs
  finished : ∀ u, Unfinished u → ¬ u <:+ cs

theorem unfinished_brace_iff {cs : List Char} :
    Unfinished ('\x7b' :: cs) ↔ (splitSigil cs).2.all isNameChar = true := by
  constructor
  · rintro ⟨kind, name, hname, heq⟩
    rw [(List.cons.inj heq).2, splitSigil_name hname]
    exact List.all_eq_true.mpr hname
  · intro h
    exact ⟨(splitSigil cs).1, (splitSigil cs).2, List.all_eq_true.mp h,
      by rw [sigil_append_splitSigil]⟩

theorem isLiteral_nil : IsLiteral [] where
  no_token t ht h := by
    obtain ⟨q, hq, -⟩ := text_eq_cons ht
    simp [hq] at h
  finished := by
    rintro _ ⟨kind, name, -, rfl⟩ h
    simp at h

/-- A text is a literal exactly if its tail is one and a brace in front opens nothing. -/
theorem isLiteral_cons_iff {c : Char} {cs : List Char} :
    IsLiteral (c :: cs) ↔
      (c = '\x7b' → takeToken cs = none ∧ ¬ (splitSigil cs).2.all isNameChar = true) ∧
        IsLiteral cs := by
  constructor
  · intro h
    refine ⟨?_, fun t ht hi => h.no_token t ht (List.infix_cons hi),
      fun u hu hs => h.finished u hu (hs.trans (List.suffix_cons c cs))⟩
    rintro rfl
    constructor
    · cases htake : takeToken cs with
      | none => rfl
      | some found =>
        obtain ⟨ht, htext⟩ := takeToken_eq_some_iff.mp htake
        exact absurd ⟨[], found.2, htext⟩ (h.no_token found.1 ht)
    · intro hall
      exact h.finished _ (unfinished_brace_iff.mpr hall) List.suffix_rfl
  · rintro ⟨hbrace, h⟩
    constructor
    · intro t ht hi
      rcases List.infix_cons_iff.mp hi with hp | hi
      · by_cases hc : c = '\x7b'
        · subst hc
          exact not_prefix_of_takeToken ht (hbrace rfl).1 hp
        · exact not_prefix_of_ne ht hc hp
      · exact h.no_token t ht hi
    · intro u hu hs
      rcases List.suffix_cons_iff.mp hs with heq | hs
      · subst heq
        obtain ⟨kind, name, hname, heq⟩ := id hu
        obtain rfl : c = '\x7b' := (List.cons.inj heq).1
        exact (hbrace rfl).2 (unfinished_brace_iff.mp hu)
      · exact h.finished u hu hs

instance decidableIsLiteral : (cs : List Char) → Decidable (IsLiteral cs)
  | [] => isTrue isLiteral_nil
  | _ :: cs =>
    have := decidableIsLiteral cs
    decidable_of_iff _ isLiteral_cons_iff.symm

/-- What is begun of a sigil and a name is the beginning of a token. -/
theorem unfinished_of_append_eq {kind : TokenKind} {name cs s : List Char}
    (hname : ∀ c ∈ name, isNameChar c = true) (h : cs ++ s = kind.sigil ++ name) :
    Unfinished ('\x7b' :: cs) := by
  match kind, cs with
  | .placeholder, cs =>
    obtain rfl : cs ++ s = name := h
    exact ⟨.placeholder, cs, fun c hc => hname c (List.mem_append_left s hc), rfl⟩
  | .opening, [] => exact ⟨.placeholder, [], by simp, rfl⟩
  | .closing, [] => exact ⟨.placeholder, [], by simp, rfl⟩
  | .opening, c :: cs =>
    obtain ⟨rfl, rfl⟩ := List.cons.inj h
    exact ⟨.opening, cs, fun c hc => hname c (List.mem_append_left s hc), rfl⟩
  | .closing, c :: cs =>
    obtain ⟨rfl, rfl⟩ := List.cons.inj h
    exact ⟨.closing, cs, fun c hc => hname c (List.mem_append_left s hc), rfl⟩

/-- A brace that opens no token, and of which no token is left unfinished, opens none whatever
follows. -/
theorem takeToken_append_eq_none {cs : List Char} (h : takeToken cs = none)
    (hopen : ¬ Unfinished ('\x7b' :: cs)) (s : List Char) : takeToken (cs ++ s) = none := by
  cases htake : takeToken (cs ++ s) with
  | none => rfl
  | some found =>
    obtain ⟨⟨kind, name⟩, rest⟩ := found
    obtain ⟨hname, htext⟩ := takeToken_eq_some_iff.mp htake
    have hbehind : kind.sigil ++ name.toList ++ '\x7d' :: rest = cs ++ s := by
      simpa [Token.text, tokenText] using htext
    rcases List.append_eq_append_iff.mp hbehind with ⟨a, hcs, hrest⟩ | ⟨a, hbegun, -⟩
    · cases a with
      | nil =>
        exact absurd (unfinished_of_append_eq hname.2 (s := []) (by simpa using hcs)) hopen
      | cons _ a =>
        -- the whole token lies in `cs`
        obtain ⟨rfl, -⟩ := List.cons.inj hrest
        have : takeToken cs = some (⟨kind, name⟩, a) :=
          takeToken_eq_some_iff.mpr ⟨hname, by simp [Token.text, tokenText, hcs]⟩
        simp [h] at this
    · exact absurd (unfinished_of_append_eq hname.2 hbegun.symm) hopen

/-! ## 2. Pieces that stay what they are -/

/-- Pieces that are cut the same way whatever text stands behind them. -/
def Stable (ps : List Piece) : Prop := ∀ s, pieces (textOf ps ++ s) = ps ++ pieces s

theorem stable_nil : Stable [] := fun _ => rfl

theorem Stable.append {ps qs : List Piece} (hps : Stable ps) (hqs : Stable qs) :
    Stable (ps ++ qs) := by
  intro s
  rw [textOf_append, List.append_assoc, hps, hqs, List.append_assoc]

theorem Stable.pieces_textOf {ps : List Piece} (h : Stable ps) : pieces (textOf ps) = ps := by
  simpa using h []

theorem Stable.pieces_textOf_append {ps qs : List Piece} (h : Stable ps)
    (hqs : pieces (textOf qs) = qs) : pieces (textOf (ps ++ qs)) = ps ++ qs := by
  rw [textOf_append, h, hqs]

theorem stable_token {t : Token} (h : IsName t.name.toList) : Stable [.token t] := by
  intro s
  simpa [Piece.text] using pieces_text_append h s

@[simp] theorem textOf_map_char (cs : List Char) : textOf (cs.map .char) = cs := by
  induction cs with
  | nil => rfl
  | cons c cs ih => simp [Piece.text, ih]

/-- **A literal stays text, whatever follows it.** -/
theorem IsLiteral.stable {cs : List Char} (h : IsLiteral cs) : Stable (cs.map .char) := by
  intro s
  rw [textOf_map_char]
  induction cs with
  | nil => rfl
  | cons c cs ih =>
    obtain ⟨hbrace, hcs⟩ := isLiteral_cons_iff.mp h
    by_cases hc : c = '\x7b'
    · subst hc
      have hnone : takeToken (cs ++ s) = none :=
        takeToken_append_eq_none (hbrace rfl).1
          (fun hu => (hbrace rfl).2 (unfinished_brace_iff.mp hu)) s
      rw [List.cons_append, pieces_brace hnone, ih hcs]
      rfl
    · rw [List.cons_append, pieces_cons_of_ne hc, ih hcs]
      rfl

/-! ## 3. Forests -/

/-- A template as literals, placeholders and blocks in the order of the text; `next` is what stands
behind. -/
inductive Forest where
  | nil
  | literal (text : List Char) (next : Forest)
  | placeholder (name : String) (next : Forest)
  | block (name : String) (body next : Forest)
deriving DecidableEq, Repr

/-- Whether the blocks of `name` are cut out: it is declared and has no present field. -/
def isAbsent (fields : Fields) (declared : List String) (name : String) : Bool :=
  decide (name ∈ declared) && !fields.isPresent name

namespace Forest

/-- The template text of a forest. -/
def text : Forest → List Char
  | nil => []
  | literal cs next => cs ++ next.text
  | placeholder name next => tokenText .placeholder name.toList ++ next.text
  | block name body next =>
    tokenText .opening name.toList ++ body.text ++ tokenText .closing name.toList ++ next.text

/-- The pieces of a forest. -/
def pieces : Forest → List Piece
  | nil => []
  | literal cs next => cs.map .char ++ next.pieces
  | placeholder name next => .token ⟨.placeholder, name⟩ :: next.pieces
  | block name body next =>
    .token ⟨.opening, name⟩ :: (body.pieces ++ .token ⟨.closing, name⟩ :: next.pieces)

/-- The names of all blocks, those inside others too. -/
def blockNames : Forest → List String
  | nil => []
  | literal _ next => next.blockNames
  | placeholder _ next => next.blockNames
  | block name body next => name :: (body.blockNames ++ next.blockNames)

/-- Literals are literals, names are names, and no block encloses one of its own name. -/
def WellFormed : Forest → Prop
  | nil => True
  | literal cs next => IsLiteral cs ∧ next.WellFormed
  | placeholder name next => IsName name.toList ∧ next.WellFormed
  | block name body next =>
    IsName name.toList ∧ name ∉ body.blockNames ∧ body.WellFormed ∧ next.WellFormed

instance decidableWellFormed : (f : Forest) → Decidable f.WellFormed
  | nil => inferInstanceAs (Decidable True)
  | literal cs next =>
    have := decidableWellFormed next
    inferInstanceAs (Decidable (IsLiteral cs ∧ next.WellFormed))
  | placeholder name next =>
    have := decidableWellFormed next
    inferInstanceAs (Decidable (IsName name.toList ∧ next.WellFormed))
  | block name body next =>
    have := decidableWellFormed body
    have := decidableWellFormed next
    inferInstanceAs (Decidable
      (IsName name.toList ∧ name ∉ body.blockNames ∧ body.WellFormed ∧ next.WellFormed))

/-- The forest without the blocks whose names are `gone`, and all that is in them. -/
def prune (gone : String → Bool) : Forest → Forest
  | nil => nil
  | literal cs next => literal cs (next.prune gone)
  | placeholder name next => placeholder name (next.prune gone)
  | block name body next =>
    if gone name then next.prune gone else block name (body.prune gone) (next.prune gone)

/-! ## 4. Reading a forest back -/

theorem textOf_pieces (f : Forest) : textOf f.pieces = f.text := by
  induction f with
  | nil => rfl
  | literal cs next ih => simp [pieces, text, ih]
  | placeholder name next ih => simp [pieces, text, ih, Piece.text, Token.text]
  | block name body next ihb ihn => simp [pieces, text, ihb, ihn, Piece.text, Token.text]

theorem WellFormed.stable {f : Forest} (h : f.WellFormed) : Stable f.pieces := by
  induction f with
  | nil => exact stable_nil
  | literal cs next ih => exact h.1.stable.append (ih h.2)
  | placeholder name next ih =>
    exact (stable_token (t := ⟨.placeholder, name⟩) h.1).append (ih h.2)
  | block name body next ihb ihn =>
    obtain ⟨hname, -, hbody, hnext⟩ := h
    have hopen := stable_token (t := ⟨.opening, name⟩) hname
    have hclose := stable_token (t := ⟨.closing, name⟩) hname
    exact hopen.append ((ihb hbody).append (hclose.append (ihn hnext)))

/-- **The scanner reads a forest's own pieces off its text.** -/
theorem pieces_text {f : Forest} (h : f.WellFormed) : Template.pieces f.text = f.pieces := by
  rw [← textOf_pieces, h.stable.pieces_textOf]

/-- The markers among the pieces are those of the forest's blocks. -/
theorem mem_blockNames_of_mem_pieces {f : Forest} {kind : TokenKind} {name : String}
    (hkind : kind ≠ .placeholder) (h : .token ⟨kind, name⟩ ∈ f.pieces) : name ∈ f.blockNames := by
  induction f with
  | nil => simp [pieces] at h
  | literal cs next ih =>
    simp only [pieces, List.mem_append, List.mem_map, reduceCtorEq, and_false, exists_false,
      false_or] at h
    exact ih h
  | placeholder other next ih =>
    simp only [pieces, List.mem_cons, Piece.token.injEq, Token.mk.injEq, hkind, false_and,
      false_or] at h
    exact ih h
  | block other body next ihb ihn =>
    simp only [pieces, List.mem_cons, List.mem_append, Piece.token.injEq, Token.mk.injEq] at h
    rcases h with ⟨-, rfl⟩ | h | ⟨-, rfl⟩ | h
    · exact List.mem_cons_self
    · exact List.mem_cons_of_mem _ (List.mem_append_left _ (ihb h))
    · exact List.mem_cons_self
    · exact List.mem_cons_of_mem _ (List.mem_append_right _ (ihn h))

/-- The tokens of a forest. -/
def tokens (f : Forest) : List Token := f.pieces.filterMap Piece.token?

@[simp] theorem tokens_literal (cs : List Char) (next : Forest) :
    (literal cs next).tokens = next.tokens := by
  simp [tokens, pieces, List.filterMap_append, List.filterMap_map, Piece.token?,
    Function.comp_def]

@[simp] theorem tokens_placeholder (name : String) (next : Forest) :
    (placeholder name next).tokens = ⟨.placeholder, name⟩ :: next.tokens := rfl

@[simp] theorem tokens_block (name : String) (body next : Forest) :
    (block name body next).tokens =
      ⟨.opening, name⟩ :: (body.tokens ++ ⟨.closing, name⟩ :: next.tokens) := by
  simp [tokens, pieces, Piece.token?]

theorem scan_text {f : Forest} (h : f.WellFormed) : scan (String.ofList f.text) = f.tokens := by
  rw [scan, String.toList_ofList, pieces_text h, tokens]

/-- The tokens of a forest leave the open blocks as they were. -/
theorem validateTokens_append {f : Forest} (h : f.WellFormed) {stack : List String}
    (hfresh : ∀ name ∈ f.blockNames, name ∉ stack) (ts : List Token) :
    validateTokens stack (f.tokens ++ ts) = validateTokens stack ts := by
  induction f generalizing stack ts with
  | nil => rfl
  | literal cs next ih =>
    rw [tokens_literal]
    exact ih h.2 hfresh ts
  | placeholder name next ih =>
    rw [tokens_placeholder, List.cons_append, validateTokens]
    exact ih h.2 hfresh ts
  | block name body next ihb ihn =>
    obtain ⟨-, hself, hbody, hnext⟩ := h
    have hname : name ∉ stack := hfresh name List.mem_cons_self
    have hinner : ∀ n ∈ body.blockNames, n ∉ name :: stack := by
      intro n hn hmem
      rcases List.mem_cons.mp hmem with rfl | hmem
      · exact hself hn
      · exact hfresh n (List.mem_cons_of_mem _ (List.mem_append_left _ hn)) hmem
    have hbehind : ∀ n ∈ next.blockNames, n ∉ stack := fun n hn =>
      hfresh n (List.mem_cons_of_mem _ (List.mem_append_right _ hn))
    rw [tokens_block, List.cons_append, validateTokens, if_neg hname, List.append_assoc,
      ihb hbody hinner, List.cons_append, validateTokens, if_pos rfl, ihn hnext hbehind]

/-- **The blocks of a forest are accepted.** -/
theorem validate_text {f : Forest} (h : f.WellFormed) :
    validate (String.ofList f.text) = .ok () := by
  rw [validate, scan_text h, ← List.append_nil f.tokens, validateTokens_append h (by simp)]
  rfl

/-! ## 5. Pruning -/

theorem mem_blockNames_of_mem_prune {gone : String → Bool} {f : Forest} {name : String}
    (h : name ∈ (f.prune gone).blockNames) : name ∈ f.blockNames ∧ gone name = false := by
  induction f with
  | nil => simp [prune, blockNames] at h
  | literal cs next ih => exact ih h
  | placeholder other next ih => exact ih h
  | block other body next ihb ihn =>
    rw [prune] at h
    split at h
    next =>
      have := ihn h
      exact ⟨List.mem_cons_of_mem _ (List.mem_append_right _ this.1), this.2⟩
    next hgone =>
      rcases List.mem_cons.mp h with rfl | h
      · exact ⟨List.mem_cons_self, by simpa using hgone⟩
      · rcases List.mem_append.mp h with h | h
        · have := ihb h
          exact ⟨List.mem_cons_of_mem _ (List.mem_append_left _ this.1), this.2⟩
        · have := ihn h
          exact ⟨List.mem_cons_of_mem _ (List.mem_append_right _ this.1), this.2⟩

theorem WellFormed.prune {f : Forest} (h : f.WellFormed) (gone : String → Bool) :
    (f.prune gone).WellFormed := by
  induction f with
  | nil => trivial
  | literal cs next ih => exact ⟨h.1, ih h.2⟩
  | placeholder name next ih => exact ⟨h.1, ih h.2⟩
  | block name body next ihb ihn =>
    obtain ⟨hname, hself, hbody, hnext⟩ := h
    rw [Forest.prune]
    split
    next => exact ihn hnext
    next =>
      exact ⟨hname, fun hmem => hself (mem_blockNames_of_mem_prune hmem).1, ihb hbody, ihn hnext⟩

/-- Pruning twice is pruning both kinds of block at once. -/
theorem prune_prune (f : Forest) (p q : String → Bool) :
    (f.prune p).prune q = f.prune fun name => p name || q name := by
  induction f with
  | nil => rfl
  | literal cs next ih => simp [prune, ih]
  | placeholder name next ih => simp [prune, ih]
  | block name body next ihb ihn =>
    by_cases hp : p name = true
    · simp [prune, hp, ihn]
    · by_cases hq : q name = true
      · simp [prune, hp, hq, ihn]
      · simp [prune, hp, hq, ihb, ihn]

theorem prune_false (f : Forest) : f.prune (fun _ => false) = f := by
  induction f with
  | nil => rfl
  | literal cs next ih => simp [prune, ih]
  | placeholder name next ih => simp [prune, ih]
  | block name body next ihb ihn => simp [prune, ihb, ihn]

/-- A marker of a name that no block has is not among the pieces. -/
theorem not_mem_pieces {f : Forest} {kind : TokenKind} {name : String}
    (hkind : kind ≠ .placeholder) (h : name ∉ f.blockNames) : .token ⟨kind, name⟩ ∉ f.pieces :=
  fun hmem => h (mem_blockNames_of_mem_pieces hkind hmem)

theorem not_mem_blockNames_prune (f : Forest) (name : String) :
    name ∉ (f.prune (· == name)).blockNames := by
  intro hmem
  have := (mem_blockNames_of_mem_prune hmem).2
  simp at this

/-- Cutting the blocks of `name` out of a text reaches every block of a forest in it.  In front of
the forest stand pieces without an opening marker of `name`; the induction moves what it has passed
over to them. -/
theorem stripBlock_append {name : String} (hn : IsName name.toList) {f : Forest}
    (h : f.WellFormed) {ps qs : List Piece} (hps : Stable ps)
    (hopen : .token ⟨.opening, name⟩ ∉ ps) (hqs : Template.pieces (textOf qs) = qs) :
    stripBlock name.toList (textOf (ps ++ (f.pieces ++ qs))) =
      stripBlock name.toList (textOf (ps ++ ((f.prune (· == name)).pieces ++ qs))) := by
  induction f generalizing ps qs with
  | nil => rfl
  | literal cs next ih =>
    have hnot : .token ⟨.opening, name⟩ ∉ ps ++ cs.map .char := by simp [hopen]
    simpa [pieces, prune] using ih h.2 (hps.append h.1.stable) hnot hqs
  | placeholder other next ih =>
    have hstable := hps.append (stable_token (t := ⟨.placeholder, other⟩) h.1)
    have hnot : .token ⟨.opening, name⟩ ∉ ps ++ [.token ⟨.placeholder, other⟩] := by simp [hopen]
    simpa [pieces, prune] using ih h.2 hstable hnot hqs
  | block other body next ihb ihn =>
    obtain ⟨hother, hself, hbody, hnext⟩ := id h
    by_cases heq : other = name
    · -- the block is the first of its name, and the closing marker behind it is its own
      subst heq
      have hall : Template.pieces (textOf (ps ++ ((block other body next).pieces ++ qs))) =
          ps ++ .token ⟨.opening, other⟩ ::
            (body.pieces ++ .token ⟨.closing, other⟩ :: (next.pieces ++ qs)) := by
        simpa [pieces] using (hps.append h.stable).pieces_textOf_append hqs
      have hcut : stripBlock other.toList (textOf (ps ++ ((block other body next).pieces ++ qs))) =
          stripBlock other.toList (textOf (ps ++ (next.pieces ++ qs))) :=
        stripBlock_of_pieces hn hall hopen (not_mem_pieces (by decide) hself)
      rw [hcut, ihn hnext hps hopen hqs]
      simp [prune]
    · have hmarker := stable_token (t := ⟨.opening, other⟩) hother
      have hclose := stable_token (t := ⟨.closing, other⟩) hother
      have hnot : .token ⟨.opening, name⟩ ∉ ps ++ [.token ⟨.opening, other⟩] := by
        simp [hopen, Ne.symm heq]
      have hbehind : Template.pieces
          (textOf (.token ⟨.closing, other⟩ :: (next.pieces ++ qs))) =
            .token ⟨.closing, other⟩ :: (next.pieces ++ qs) :=
        (hclose.append hnext.stable).pieces_textOf_append hqs
      have hinner := ihb hbody (hps.append hmarker) hnot hbehind
      have hpruned := hps.append (hmarker.append ((hbody.prune (· == name)).stable.append hclose))
      have hbody' : .token ⟨.opening, name⟩ ∉ (body.prune (· == name)).pieces :=
        not_mem_pieces (by decide) (not_mem_blockNames_prune body name)
      have hnot' : .token ⟨.opening, name⟩ ∉ ps ++ ([.token ⟨.opening, other⟩] ++
          ((body.prune (· == name)).pieces ++ [.token ⟨.closing, other⟩])) := by
        simp [hopen, Ne.symm heq, hbody']
      have houter := ihn hnext hpruned hnot' hqs
      simp only [pieces, prune, beq_eq_false_iff_ne.mpr heq, Bool.false_eq_true, if_false]
      simp only [textOf_append, textOf_cons, textOf_nil, List.append_assoc, List.append_nil]
        at hinner houter ⊢
      rw [hinner, houter]

/-- **Cutting the blocks of a name out of the text is pruning the forest.** -/
theorem stripBlock_text {f : Forest} (h : f.WellFormed) {name : String}
    (hn : IsName name.toList) :
    stripBlock name.toList f.text = (f.prune (· == name)).text := by
  have hcut := stripBlock_append hn h stable_nil (by simp) (show Template.pieces (textOf []) = []
    from pieces_nil)
  simp only [List.nil_append, List.append_nil, textOf_pieces] at hcut
  rw [hcut]
  refine stripBlock_of_not_mem hn ?_
  rw [pieces_text (h.prune _)]
  exact not_mem_pieces (by decide) (not_mem_blockNames_prune f name)

theorem isAbsent_nil (fields : Fields) : isAbsent fields [] = fun _ => false := by
  funext n
  simp [isAbsent]

theorem isAbsent_cons_of_isPresent {fields : Fields} {name : String}
    (h : fields.isPresent name = true) (declared : List String) :
    isAbsent fields (name :: declared) = isAbsent fields declared := by
  funext n
  by_cases hn : n = name
  · simp [isAbsent, hn, h]
  · simp [isAbsent, hn]

theorem isAbsent_cons_of_not_isPresent {fields : Fields} {name : String}
    (h : ¬ fields.isPresent name = true) (declared : List String) :
    isAbsent fields (name :: declared) = fun n => n == name || isAbsent fields declared n := by
  funext n
  by_cases hn : n = name
  · simp [isAbsent, hn, h]
  · simp [isAbsent, hn]

/-- **Cutting out the blocks of all absent names, one name after the other and in any order, is
pruning the forest once.** -/
theorem stripAbsent_text {f : Forest} (h : f.WellFormed) (fields : Fields)
    {declared : List String} (hdeclared : ∀ name ∈ declared, IsName name.toList) :
    stripAbsent fields declared f.text = (f.prune (isAbsent fields declared)).text := by
  induction declared generalizing f with
  | nil =>
    rw [isAbsent_nil, prune_false]
    rfl
  | cons name declared ih =>
    have hname : IsName name.toList := hdeclared name List.mem_cons_self
    have hrest : ∀ n ∈ declared, IsName n.toList := fun n hn =>
      hdeclared n (List.mem_cons_of_mem _ hn)
    rw [stripAbsent_cons]
    by_cases hpresent : fields.isPresent name = true
    · rw [if_pos hpresent, ih h hrest, isAbsent_cons_of_isPresent hpresent]
    · rw [if_neg hpresent, stripBlock_text h hname, ih (h.prune _) hrest, prune_prune,
        isAbsent_cons_of_not_isPresent hpresent]

end Forest

end SqlGateway.Template
