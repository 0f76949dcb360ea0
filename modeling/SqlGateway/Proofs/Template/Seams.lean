/-
# Where text is joined

Cutting a block out joins the text in front of it to the text behind it, and writing a statement
joins what stood on both sides of a marker.  Either way characters come to stand side by side that
were apart in the template.

* `stripBlock_textOf`, `Forest.stripAbsent_textOf`: as long as nothing is spelt at a join, cutting
  blocks out of the text is pruning the forest;
* `Written.infix_iff`: a token is read in a statement only if loose characters spell it;
* `cutsCleanly_iff_seamless`: a template is compiled as its blocks say, for all fields, exactly if
  nothing is spelt at any join;
* `Forest.WellFormed.cutsCleanly`: that is so of every template whose literals begin no token.

A brace that is left over in front of a block can take the text behind the block for a marker.
Then the wrong text is cut out, and a marker may be left in the statement.
-/
import Mathlib.Data.List.Basic
import SqlGateway.Proofs.Template.Blocks
import SqlGateway.Proofs.Template.Evaluation

namespace SqlGateway

/-- The values that are bound for the placeholder of a name. -/
def Fields.valuesOf (fields : Fields) (name : String) : List Scalar :=
  match fields.present? name with
  | none => []
  | some (.scalar v) => [v]
  | some (.list items) => items

namespace Template

variable {name : String} {ps qs : List Piece} {fields : Fields} {declared : List String}

/-! ## 1. Cutting out the blocks of a name -/

/-- The second pieces are the first without the blocks of the name. -/
inductive Cut (name : String) : List Piece → List Piece → Prop
  | done {ps : List Piece} (none : .token ⟨.opening, name⟩ ∉ ps) : Cut name ps ps
  | block {ps ms qs qs' : List Piece} (first : .token ⟨.opening, name⟩ ∉ ps)
      (own : .token ⟨.closing, name⟩ ∉ ms) (behind : Cut name qs qs') :
      Cut name (ps ++ .token ⟨.opening, name⟩ :: (ms ++ .token ⟨.closing, name⟩ :: qs)) (ps ++ qs')

/-- Characters in front stay in front. -/
theorem Cut.lead (h : Cut name ps qs) {cs : List Char} (hlead : cs.map Piece.char <+: ps) :
    cs.map Piece.char <+: qs := by
  cases h with
  | done none => exact hlead
  | block first own behind =>
    exact (map_char_prefix_of_append_token hlead).trans (List.prefix_append _ _)

theorem Cut.append {ps' qs' : List Piece} (h : Cut name ps ps') (h' : Cut name qs qs') :
    Cut name (ps ++ qs) (ps' ++ qs') := by
  induction h with
  | @done ps none =>
    cases h' with
    | done none' => exact .done (by simp [none, none'])
    | block first own behind =>
      rw [← List.append_assoc, ← List.append_assoc]
      exact .block (by simp [none, first]) own behind
  | block first own _ ih =>
    simp only [List.append_assoc, List.cons_append]
    exact .block first own ih

/-- **Cutting the blocks of a name out of the text is cutting them out of the pieces**, if neither
before nor afterwards the characters spell a token.  The induction is on the blocks that are still
to be cut out; `front` is what stands before them. -/
theorem stripBlock_textOf_append (hn : IsName name.toList) (h : Cut name ps qs)
    (front : List Piece) (hfront : .token ⟨.opening, name⟩ ∉ front) (hnamed : Named (front ++ ps))
    (hbefore : ∀ t, ¬ Spells (front ++ ps) t) (hafter : ∀ t, ¬ Spells (front ++ qs) t) :
    stripBlock name.toList (textOf (front ++ ps)) = textOf (front ++ qs) := by
  induction h generalizing front with
  | done none =>
    refine stripBlock_of_not_mem hn ?_
    rw [(pieces_textOf_iff hnamed).mpr hbefore]
    simp [hfront, none]
  | @block ps ms qs qs' first own behind ih =>
    have hread := (pieces_textOf_iff hnamed).mpr hbefore
    rw [← List.append_assoc] at hread
    have hfirst : .token ⟨.opening, name⟩ ∉ front ++ ps := by simp [hfront, first]
    have hbehind : qs.Sublist
        (.token ⟨.opening, name⟩ :: (ms ++ .token ⟨.closing, name⟩ :: qs)) :=
      ((List.sublist_cons_self _ qs).trans (List.sublist_append_right ms _)).trans
        (List.sublist_cons_self _ _)
    rw [stripBlock_of_pieces hn (by rwa [← List.append_assoc]) hfirst own, ih _ hfirst,
      List.append_assoc]
    · exact hnamed.sublist (by simpa using hbehind)
    · rw [← List.append_assoc] at hafter
      refine not_spells_append hafter (fun t ht => hbefore t (ht.mono ?_)) fun _ => behind.lead
      exact ⟨front ++ ps ++ .token ⟨.opening, name⟩ :: ms ++ [.token ⟨.closing, name⟩], [], by simp⟩
    · rwa [← List.append_assoc] at hafter

theorem stripBlock_textOf (hn : IsName name.toList) (h : Cut name ps qs) (hnamed : Named ps)
    (hbefore : ∀ t, ¬ Spells ps t) (hafter : ∀ t, ¬ Spells qs t) :
    stripBlock name.toList (textOf ps) = textOf qs :=
  stripBlock_textOf_append hn h [] (by simp) hnamed hbefore hafter

namespace Forest

variable {f : Forest}

/-- Pruning at a name is cutting its blocks out of the pieces. -/
theorem Nested.cut (h : f.Nested) (name : String) :
    Cut name f.pieces (f.prune (· == name)).pieces := by
  induction f with
  | nil => exact .done (by simp [pieces])
  | literal cs next ih => exact Cut.append (.done (by simp)) (ih h)
  | placeholder other next ih =>
    have hplaceholder : Cut name [.token ⟨.placeholder, other⟩] [.token ⟨.placeholder, other⟩] :=
      .done (by simp)
    exact hplaceholder.append (ih h.2)
  | block other body next ihb ihn =>
    obtain ⟨-, hself, hbody, hnext⟩ := h
    rw [pieces, Forest.prune]
    by_cases heq : other = name
    · subst heq
      rw [if_pos (beq_self_eq_true other)]
      exact .block List.not_mem_nil (not_mem_pieces (by decide) hself) (ihn hnext)
    · rw [if_neg (by simpa using heq), pieces]
      have hmarker : ∀ kind, Cut name [.token ⟨kind, other⟩] [.token ⟨kind, other⟩] := fun kind =>
        .done (by simp [Ne.symm heq])
      exact (hmarker .opening).append ((ihb hbody).append ((hmarker .closing).append (ihn hnext)))

/-- **Cutting out the blocks of absent names, one name after the other, is pruning the forest at
all of them**, if no pruning of it makes characters spell a token. -/
theorem stripAbsent_textOf (h : f.Nested) (hseams : ∀ gone t, ¬ Spells (f.prune gone).pieces t)
    (fields : Fields) {names : List String} (hnames : ∀ n ∈ names, IsName n.toList) :
    stripAbsent fields names f.text = (f.prune (isAbsent fields names)).text := by
  induction names generalizing f with
  | nil =>
    rw [isAbsent_nil, prune_false]
    rfl
  | cons name names ih =>
    have hrest : ∀ n ∈ names, IsName n.toList := fun n hn => hnames n (List.mem_cons_of_mem _ hn)
    rw [stripAbsent_cons]
    by_cases hpresent : fields.isPresent name = true
    · rw [if_pos hpresent, ih h hseams hrest, isAbsent_cons_of_isPresent hpresent]
    · have hbefore : ∀ t, ¬ Spells f.pieces t := fun t => by
        simpa [prune_false] using hseams (fun _ => false) t
      have hcut := stripBlock_textOf (hnames name List.mem_cons_self) (h.cut name) h.named
        hbefore (hseams _)
      rw [textOf_pieces, textOf_pieces] at hcut
      have hseams' : ∀ gone t, ¬ Spells ((f.prune (· == name)).prune gone).pieces t := fun gone t =>
        by simpa only [prune_prune] using hseams (fun n => n == name || gone n) t
      rw [if_neg hpresent, hcut, ih (h.prune _) hseams' hrest, prune_prune,
        isAbsent_cons_of_not_isPresent hpresent]

end Forest

/-! ## 2. What a statement is written with -/

/-- Whether the piece is the marker of a block. -/
def Piece.isMarker : Piece → Bool
  | char _ => false
  | token t => t.kind != .placeholder

/-- The pieces without the markers of blocks. -/
def withoutMarkers (ps : List Piece) : List Piece := ps.filter (!·.isMarker)

/-- The characters that stand first where a placeholder was. -/
def gapHeads : List Char := ['?', '$', '(']

/-- The text is the characters of the pieces, with something in place of every token that has no
brace and does not look like the inside of a token. -/
inductive Written : List Piece → List Char → Prop
  | nil : Written [] []
  | char {ps : List Piece} {w : List Char} (c : Char) (rest : Written ps w) :
      Written (.char c :: ps) (c :: w)
  | token {ps : List Piece} {w : List Char} (t : Token) {c : Char} {gap : List Char}
      (head : c ∈ gapHeads) (noBrace : '\x7b' ∉ gap) (rest : Written ps w) :
      Written (.token t :: ps) (c :: gap ++ w)

theorem not_mem_text_of_mem_gapHeads {t : Token} (ht : IsName t.name.toList) {c : Char}
    (hc : c ∈ gapHeads) : c ∉ t.text := by
  have hplain : ∀ c ∈ gapHeads, isNameChar c = false ∧ c ≠ '\x7b' ∧ c ≠ '\x7d' ∧
      ∀ kind : TokenKind, c ∉ kind.sigil := by
    intro c hc
    simp only [gapHeads, List.mem_cons, List.not_mem_nil, or_false] at hc
    rcases hc with rfl | rfl | rfl <;>
      exact ⟨by decide, by decide, by decide, fun kind => by cases kind <;> decide⟩
  obtain ⟨hname, hopen, hclose, hsigil⟩ := hplain c hc
  have hnot : c ∉ t.name.toList := fun h => by simp [ht.2 c h] at hname
  simp [Token.text, tokenText, hopen, hclose, hsigil, hnot]

/-- Characters that can stand in a token stand in front of the text exactly if they do so in front
of the pieces. -/
theorem Written.prefix_iff {w : List Char} (h : Written ps w) {cs : List Char}
    (hcs : ∀ c ∈ gapHeads, c ∉ cs) : cs <+: w ↔ cs.map Piece.char <+: ps := by
  induction h generalizing cs with
  | nil => cases cs <;> simp
  | char d rest ih =>
    cases cs with
    | nil => simp
    | cons c cs =>
      have hcs' : ∀ c ∈ gapHeads, c ∉ cs := fun c hc hmem => hcs c hc (List.mem_cons_of_mem _ hmem)
      rw [List.map_cons, List.cons_prefix_cons, List.cons_prefix_cons, ih hcs', Piece.char.injEq]
  | token t head noBrace rest ih =>
    cases cs with
    | nil => simp
    | cons c cs =>
      refine iff_of_false (fun hfront => ?_) fun hfront => ?_
      · obtain ⟨rfl, -⟩ := List.cons_prefix_cons.mp hfront
        exact hcs c head List.mem_cons_self
      · cases (List.cons_prefix_cons.mp hfront).1

/-- **A token stands in the text exactly if the characters of the pieces spell it.** -/
theorem Written.infix_iff {w : List Char} (h : Written ps w) {t : Token}
    (ht : IsName t.name.toList) : t.text <:+: w ↔ t.text.map Piece.char <:+: ps := by
  obtain ⟨q, hq, -⟩ := text_eq_cons ht
  have hchars : ∀ c ∈ gapHeads, c ∉ t.text := fun _ => not_mem_text_of_mem_gapHeads ht
  induction h with
  | nil => simp [hq]
  | @char ps w c rest ih =>
    have hrest : t.text <:+: w ↔ t.text.map Piece.char <:+: ps := ih
    rw [List.infix_cons_iff, List.infix_cons_iff, hrest, (rest.char c).prefix_iff hchars]
  | @token ps w t' c gap head noBrace rest ih =>
    have hnone : '\x7b' ∉ c :: gap := by
      have hc : '\x7b' ≠ c := fun heq => hchars c head (by rw [hq, ← heq]; exact List.mem_cons_self)
      simp [hc, noBrace]
    have hgap : t.text <:+: c :: gap ++ w ↔ t.text <:+: w := by
      refine ⟨fun h => ?_, fun h => h.trans (List.suffix_append _ _).isInfix⟩
      rcases List.infix_append_iff.mp h with hin | hin | ⟨front, back, htext, hfront, hback⟩
      · exact absurd (hin.subset (by rw [hq]; exact List.mem_cons_self)) hnone
      · exact hin
      · cases front with
        | nil => exact htext ▸ hback.isInfix
        | cons d front =>
          obtain ⟨rfl, -⟩ := List.cons.inj (hq.symm.trans htext)
          exact absurd (hfront.subset List.mem_cons_self) hnone
    have htoken : ¬ t.text.map Piece.char <+: .token t' :: ps := by
      rw [hq, List.map_cons]
      exact fun hfront => by cases (List.cons_prefix_cons.mp hfront).1
    have hrest : t.text <:+: w ↔ t.text.map Piece.char <:+: ps := ih
    rw [hgap, hrest, List.infix_cons_iff, or_iff_right htoken]

theorem Written.append_token {w w' : List Char} {t : Token} (h : Written ps w)
    (hw' : ∃ c gap, w' = c :: gap ∧ c ∈ gapHeads ∧ '\x7b' ∉ gap) :
    Written (.token t :: ps) (w' ++ w) := by
  obtain ⟨c, gap, rfl, head, noBrace⟩ := hw'
  exact .token t head noBrace h

/-- Markers are written without a brace. -/
theorem openingBrace_not_mem_marker (style : MarkerStyle) (n : Nat) :
    '\x7b' ∉ style.marker n := by
  cases style with
  | question => simp [MarkerStyle.marker]
  | dollar =>
    intro h
    rcases List.mem_cons.mp h with h | h
    · exact absurd h (by decide)
    · exact absurd (Nat.isDigit_of_mem_toDigits (by decide) (by decide) h) (by decide)

theorem openingBrace_not_mem_writeFrom (style : MarkerStyle) (n : Nat) {chunks : List Chunk}
    (h : .char '\x7b' ∉ chunks) : '\x7b' ∉ writeFrom style n chunks := by
  induction chunks generalizing n with
  | nil => simp [writeFrom]
  | cons chunk chunks ih =>
    obtain ⟨hchunk, hchunks⟩ : .char '\x7b' ≠ chunk ∧ .char '\x7b' ∉ chunks := by simpa using h
    cases chunk with
    | char c => simpa [writeFrom, ih n hchunks] using hchunk
    | bound v => simp [writeFrom, openingBrace_not_mem_marker, ih (n + 1) hchunks]

theorem boundValues_commaSeparated (items : List Scalar) :
    boundValues (commaSeparated items) = items ∧ .char '\x7b' ∉ commaSeparated items := by
  fun_induction commaSeparated items with
  | case1 => exact ⟨rfl, by simp⟩
  | case2 v => exact ⟨rfl, by simp⟩
  | case3 v w rest ih =>
    obtain ⟨hvalues, hbrace⟩ := ih
    refine ⟨?_, by simp [hbrace]⟩
    show v :: boundValues (commaSeparated (w :: rest)) = v :: w :: rest
    rw [hvalues]

/-! ## 3. What substitution writes -/

/-- The names of the placeholders among pieces, in order. -/
def placeholderNames (ps : List Piece) : List String :=
  ((tokensOf ps).filter (·.kind == .placeholder)).map (·.name)

theorem writeFrom_chunksOf (style : MarkerStyle) (n : Nat) (value : FieldValue) :
    ∃ c gap, writeFrom style n (chunksOf value) = c :: gap ∧ c ∈ gapHeads ∧ '\x7b' ∉ gap := by
  cases value with
  | scalar v =>
    have hbrace := openingBrace_not_mem_marker style (n + 1)
    cases style with
    | question => exact ⟨'?', [], rfl, by decide, by simp⟩
    | dollar =>
      refine ⟨'$', Nat.toDigits 10 (n + 1), by simp [chunksOf, writeFrom, MarkerStyle.marker],
        by decide, ?_⟩
      exact fun h => hbrace (List.mem_cons_of_mem _ h)
  | list items =>
    refine ⟨'(', writeFrom style n (commaSeparated items ++ [.char ')']), rfl, by decide, ?_⟩
    exact openingBrace_not_mem_writeFrom style n
      (by simp [(boundValues_commaSeparated items).2])

theorem boundValues_chunksOf {value : FieldValue} (h : fields.present? name = some value) :
    boundValues (chunksOf value) = fields.valuesOf name := by
  rw [Fields.valuesOf, h]
  cases value with
  | scalar v => rfl
  | list items =>
    show boundValues (.char '(' :: commaSeparated items ++ [.char ')']) = items
    rw [boundValues_append]
    show boundValues (commaSeparated items) ++ [] = items
    rw [List.append_nil, (boundValues_commaSeparated items).1]

/-- **Substitution writes a gap for every placeholder and nothing for a marker**, and the values it
binds are those of the placeholders in order. -/
theorem written_of_substitute (hdeclared : ∀ t, .token t ∈ ps → t.name ∈ declared)
    (hmarkers : ∀ t, .token t ∈ ps → t.kind ≠ .placeholder → fields.isPresent t.name = true)
    {chunks : List Chunk} (h : substitute fields declared ps = .ok chunks) (style : MarkerStyle)
    (n : Nat) : Written (withoutMarkers ps) (writeFrom style n chunks) ∧
      boundValues chunks = (placeholderNames ps).flatMap fields.valuesOf := by
  induction ps generalizing chunks n with
  | nil =>
    cases h
    exact ⟨.nil, rfl⟩
  | cons p ps ih =>
    have hdeclared' : ∀ t, .token t ∈ ps → t.name ∈ declared :=
      fun t ht => hdeclared t (List.mem_cons_of_mem _ ht)
    have hmarkers' : ∀ t, .token t ∈ ps → t.kind ≠ .placeholder →
        fields.isPresent t.name = true := fun t ht => hmarkers t (List.mem_cons_of_mem _ ht)
    rw [substitute_cons] at h
    cases hpiece : substitutePiece fields declared p with
    | error e => simp [hpiece, Except.bind] at h
    | ok a =>
      cases hrest : substitute fields declared ps with
      | error e => simp [hpiece, hrest, Except.bind, Except.map] at h
      | ok b =>
        obtain rfl : a ++ b = chunks := by simpa [hpiece, hrest, Except.bind, Except.map] using h
        obtain ⟨hwritten, hvalues⟩ := ih hdeclared' hmarkers' hrest (n + (boundValues a).length)
        rw [writeFrom_append, boundValues_append, hvalues]
        cases p with
        | char c =>
          cases hpiece
          exact ⟨hwritten.char c, rfl⟩
        | token t =>
          have ht := hdeclared t List.mem_cons_self
          obtain ⟨kind, name⟩ := t
          by_cases hkind : kind = .placeholder
          · subst hkind
            rw [substitutePiece, if_pos ht] at hpiece
            cases hpresent : fields.present? name with
            | none => simp [hpresent] at hpiece
            | some value =>
              obtain rfl : chunksOf value = a := by simpa [hpresent] using hpiece
              rw [boundValues_chunksOf hpresent] at hwritten ⊢
              exact ⟨hwritten.append_token (writeFrom_chunksOf style n value), rfl⟩
          · have hpresent := hmarkers _ List.mem_cons_self hkind
            rw [substitutePiece_marker hkind fun _ => hpresent, if_pos ht] at hpiece
            cases hpiece
            have hwithout : withoutMarkers (.token ⟨kind, name⟩ :: ps) = withoutMarkers ps :=
              List.filter_cons_of_neg (by simp [Piece.isMarker, hkind])
            have hnames : placeholderNames (.token ⟨kind, name⟩ :: ps) = placeholderNames ps := by
              simp [placeholderNames, tokensOf, Piece.token?, hkind]
            rw [hwithout, hnames]
            exact ⟨hwritten, rfl⟩

/-- Nothing is missing if every field that the pieces name is present. -/
theorem exists_substitute_eq_ok
    (hpresent : ∀ t, .token t ∈ ps → fields.isPresent t.name = true) :
    ∃ chunks, substitute fields declared ps = .ok chunks := by
  induction ps with
  | nil => exact ⟨[], rfl⟩
  | cons p ps ih =>
    obtain ⟨b, hb⟩ := ih fun t ht => hpresent t (List.mem_cons_of_mem _ ht)
    obtain ⟨a, ha⟩ : ∃ a, substitutePiece fields declared p = .ok a := by
      cases p with
      | char c => exact ⟨_, rfl⟩
      | token t =>
        obtain ⟨value, hvalue⟩ :=
          Option.isSome_iff_exists.mp (hpresent t List.mem_cons_self)
        rw [substitutePiece]
        split
        next =>
          obtain ⟨kind, name⟩ := t
          simp only at hvalue
          cases kind <;> simp only [hvalue, Except.ok.injEq, exists_eq']
        next => exact ⟨_, rfl⟩
    rw [substitute_cons, ha, hb]
    exact ⟨_, rfl⟩

/-- What is substituted without a fault has no placeholder of a declared name without a field. -/
theorem isPresent_of_substitute {chunks : List Chunk}
    (h : substitute fields declared ps = .ok chunks)
    (hmem : .token ⟨.placeholder, name⟩ ∈ ps) (hname : name ∈ declared) :
    fields.isPresent name = true := by
  obtain ⟨front, back, rfl⟩ := List.append_of_mem hmem
  rw [substitute_append, substitute_cons, substitutePiece, if_pos hname] at h
  rw [Fields.isPresent]
  cases hvalue : fields.present? name with
  | some value => rfl
  | none =>
    cases hfront : substitute fields declared front with
    | error e => simp [hfront, Except.bind] at h
    | ok a => simp [hfront, hvalue, Except.bind, Except.map] at h

/-! ## 4. Templates without seams -/

theorem mem_scan_iff {template : String} {t : Token} :
    t ∈ scan template ↔ .token t ∈ pieces template.toList := by
  rw [scan, List.mem_filterMap]
  constructor
  · rintro ⟨p, hp, hpt⟩
    cases p with
    | char c => cases hpt
    | token t' =>
      cases hpt
      exact hp
  · exact fun h => ⟨_, h, rfl⟩

/-- A name is declared exactly if some token has it. -/
theorem mem_declaredNames_iff {template : String} :
    name ∈ declaredNames template ↔ ∃ kind, .token ⟨kind, name⟩ ∈ pieces template.toList := by
  simp only [declaredNames, List.mem_eraseDups, List.mem_map, List.mem_append, List.mem_filter,
    mem_scan_iff]
  constructor
  · rintro ⟨⟨kind, _⟩, ⟨h, -⟩ | ⟨h, -⟩, rfl⟩
    · exact ⟨kind, h⟩
    · exact ⟨kind, h⟩
  · rintro ⟨kind, h⟩
    refine ⟨⟨kind, name⟩, ?_, rfl⟩
    by_cases hkind : kind = .placeholder
    · exact .inl ⟨h, by simp [hkind]⟩
    · exact .inr ⟨h, by simp [hkind]⟩

namespace Forest

variable {f : Forest} {gone : String → Bool}

theorem mem_pieces_of_mem_prune {p : Piece} (h : p ∈ (f.prune gone).pieces) : p ∈ f.pieces := by
  induction f with
  | nil => exact h
  | literal cs next ih =>
    rcases List.mem_append.mp h with h | h
    · exact List.mem_append_left _ h
    · exact List.mem_append_right _ (ih h)
  | placeholder name next ih =>
    rcases List.mem_cons.mp h with rfl | h
    · exact List.mem_cons_self
    · exact List.mem_cons_of_mem _ (ih h)
  | block name body next ihb ihn =>
    have hnext : p ∈ (next.prune gone).pieces → p ∈ (block name body next).pieces := fun h =>
      List.mem_cons_of_mem _ (List.mem_append_right _ (List.mem_cons_of_mem _ (ihn h)))
    rw [Forest.prune] at h
    split at h
    next => exact hnext h
    next =>
      rcases List.mem_cons.mp h with rfl | h
      · exact List.mem_cons_self
      · rcases List.mem_append.mp h with h | h
        · exact List.mem_cons_of_mem _ (List.mem_append_left _ (ihb h))
        · rcases List.mem_cons.mp h with rfl | h
          · exact List.mem_cons_of_mem _ (List.mem_append_right _ List.mem_cons_self)
          · exact hnext h

/-- The name of a block is that of an opening marker. -/
theorem mem_pieces_of_mem_blockNames {name : String} (h : name ∈ f.blockNames) :
    .token ⟨.opening, name⟩ ∈ f.pieces := by
  induction f with
  | nil => cases h
  | literal cs next ih => exact List.mem_append_right _ (ih h)
  | placeholder other next ih => exact List.mem_cons_of_mem _ (ih h)
  | block other body next ihb ihn =>
    rcases List.mem_cons.mp h with rfl | h
    · exact List.mem_cons_self
    · rcases List.mem_append.mp h with h | h
      · exact List.mem_cons_of_mem _ (List.mem_append_left _ (ihb h))
      · exact List.mem_cons_of_mem _ (List.mem_append_right _ (List.mem_cons_of_mem _ (ihn h)))

end Forest

/-- What of a template stands outside the blocks of absent names. -/
def kept (template : String) (fields : Fields) : List Piece :=
  outside (isAbsent fields (declaredNames template)) [] (pieces template.toList)

/-- Deleting text makes no token: whatever the fields are, and in whatever order the declared names
are gone through, -/
structure CutsCleanly (template : String) : Prop where
  /-- what is cut out are the blocks of absent names and nothing else, -/
  text : ∀ fields order, order.Perm (declaredNames template) →
    stripAbsent fields order template.toList = textOf (kept template fields)
  /-- the tokens that are read afterwards are those outside of these blocks, -/
  tokens : ∀ fields order, order.Perm (declaredNames template) →
    scan (String.ofList (stripAbsent fields order template.toList)) =
      tokensOf (kept template fields)
  /-- no token of a declared name is read in a statement, -/
  sql : ∀ style fields order st, order.Perm (declaredNames template) →
    compile style template fields order = .ok st →
      ∀ t ∈ scan st.sql, t.name ∉ declaredNames template
  /-- and the arguments are those of the placeholders outside of these blocks. -/
  args : ∀ style fields order st, order.Perm (declaredNames template) →
    compile style template fields order = .ok st →
      st.args = (placeholderNames (kept template fields)).flatMap fields.valuesOf

/-- Nothing is spelt where a template is joined, whichever blocks are cut out, -/
structure Seamless (template : String) : Prop where
  /-- neither in what is left of the text -/
  unspelt : ∀ gone t, ¬ Spells (outside gone [] (pieces template.toList)) t
  /-- nor, if no field is missing there, in what is left without the markers. -/
  erased : ∀ gone, (∀ name, .token ⟨.placeholder, name⟩ ∈
      outside gone [] (pieces template.toList) → gone name = false) →
    ∀ t, t.name ∈ declaredNames template →
      ¬ Spells (withoutMarkers (outside gone [] (pieces template.toList))) t

/-- Present fields of the given names. -/
def flags (names : List String) : Fields := ⟨names.map fun name => (name, .scalar (.bool true))⟩

theorem isPresent_flags (names : List String) (name : String) :
    (flags names).isPresent name = decide (name ∈ names) := by
  have hvalue : (flags names).get? name =
      if name ∈ names then some (.scalar (.bool true)) else none := by
    induction names with
    | nil => rfl
    | cons n names ih =>
      show List.lookup name ((n, _) :: (flags names).members) = _
      rw [List.lookup_cons]
      by_cases heq : name = n
      · simp [heq]
      · have hrest : List.lookup name (flags names).members =
            if name ∈ names then some (.scalar (.bool true)) else none := ih
        simp [beq_eq_false_iff_ne.mpr heq, heq, hrest]
  rw [Fields.isPresent, Fields.present?, hvalue]
  by_cases hmem : name ∈ names
  · simp [hmem, FieldValue.isPresent]
  · simp [hmem]

section

variable {template : String} {f : Forest}

/-- What compiling a template does when nothing is spelt in the text that is left: substitution
goes through the pieces of the pruned forest. -/
theorem compile_eq_of_unspelt (hf : f.Nested) (hps : pieces template.toList = f.pieces)
    (hseams : ∀ gone t, ¬ Spells (f.prune gone).pieces t) (fields : Fields) {order : List String}
    (horder : order.Perm (declaredNames template)) :
    stripAbsent fields order template.toList = textOf (kept template fields) ∧
      pieces (textOf (kept template fields)) = kept template fields ∧
      kept template fields = (f.prune (isAbsent fields order)).pieces := by
  have habsent : isAbsent fields (declaredNames template) = isAbsent fields order := by
    funext n
    simp only [isAbsent, horder.mem_iff]
  have hkept : kept template fields = (f.prune (isAbsent fields order)).pieces := by
    rw [kept, hps, outside_pieces, habsent]
  have htext : template.toList = f.text := by
    rw [← textOf_pieces template.toList, hps, Forest.textOf_pieces]
  refine ⟨?_, ?_, hkept⟩
  · rw [htext, hkept, Forest.textOf_pieces]
    exact Forest.stripAbsent_textOf hf hseams fields fun n hn =>
      isName_of_mem_declaredNames (horder.mem_iff.mp hn)
  · rw [hkept]
    exact (pieces_textOf_iff (hf.prune _).named).mpr (hseams _)

/-- The markers that are left belong to present fields. -/
theorem isPresent_of_mem_prune (hps : pieces template.toList = f.pieces) {order : List String}
    (horder : order.Perm (declaredNames template)) {t : Token}
    (ht : .token t ∈ (f.prune (isAbsent fields order)).pieces) (hkind : t.kind ≠ .placeholder) :
    fields.isPresent t.name = true := by
  obtain ⟨kind, name⟩ := t
  have hgone := (Forest.mem_blockNames_of_mem_prune
    (Forest.mem_blockNames_of_mem_pieces hkind ht)).2
  have hdeclared : name ∈ order := horder.mem_iff.mpr
    (mem_declaredNames_iff.mpr ⟨kind, hps ▸ Forest.mem_pieces_of_mem_prune ht⟩)
  simpa [isAbsent, hdeclared] using hgone

theorem mem_order_of_mem_prune (hps : pieces template.toList = f.pieces) {order : List String}
    (horder : order.Perm (declaredNames template)) {gone : String → Bool} {t : Token}
    (ht : .token t ∈ (f.prune gone).pieces) : t.name ∈ order :=
  horder.mem_iff.mpr
    (mem_declaredNames_iff.mpr ⟨t.kind, hps ▸ Forest.mem_pieces_of_mem_prune ht⟩)

/-- A statement holds a token exactly if the pieces that it was made of spell it without their
markers. -/
theorem mem_scan_sql_iff {chunks : List Chunk} {style : MarkerStyle}
    (h : Written (withoutMarkers ps) (writeFrom style 0 chunks)) {t : Token} :
    t ∈ scan (statementOf style chunks).sql ↔ Spells (withoutMarkers ps) t := by
  rw [mem_scan_iff, statementOf, String.toList_ofList]
  constructor
  · intro ht
    have hname := isName_of_mem_pieces ht
    exact ⟨hname, (h.infix_iff hname).mp ((mem_pieces_iff hname).mp ht)⟩
  · rintro ⟨hname, hspelt⟩
    exact (mem_pieces_iff hname).mpr ((h.infix_iff hname).mpr hspelt)

theorem cutsCleanly_of_seamless (hf : f.Nested) (hps : pieces template.toList = f.pieces)
    (h : Seamless template) : CutsCleanly template := by
  have hseams : ∀ gone t, ¬ Spells (f.prune gone).pieces t := fun gone t => by
    simpa only [hps, outside_pieces] using h.unspelt gone t
  -- what a statement is made of
  have hcompile : ∀ style fields order st, order.Perm (declaredNames template) →
      compile style template fields order = .ok st → ∃ chunks, st = statementOf style chunks ∧
        substitute fields order (kept template fields) = .ok chunks ∧
        Written (withoutMarkers (kept template fields)) (writeFrom style 0 chunks) ∧
        boundValues chunks =
          (placeholderNames (kept template fields)).flatMap fields.valuesOf := by
    intro style fields order st horder hst
    obtain ⟨hstrip, hread, hkept⟩ := compile_eq_of_unspelt hf hps hseams fields horder
    rw [compile, hstrip, hread] at hst
    cases hchunks : substitute fields order (kept template fields) with
    | error e => simp [hchunks, Except.map] at hst
    | ok chunks =>
      rw [hchunks] at hst
      refine ⟨chunks, (Except.ok.inj hst).symm, rfl, written_of_substitute ?_ ?_ hchunks style 0⟩
      · exact fun t ht => mem_order_of_mem_prune hps horder (hkept ▸ ht)
      · exact fun t ht hkind => isPresent_of_mem_prune hps horder (hkept ▸ ht) hkind
  refine ⟨fun fields order horder => ?_, fun fields order horder => ?_, ?_, ?_⟩
  · exact (compile_eq_of_unspelt hf hps hseams fields horder).1
  · obtain ⟨hstrip, hread, -⟩ := compile_eq_of_unspelt hf hps hseams fields horder
    rw [hstrip, scan, String.toList_ofList, hread, tokensOf]
  · intro style fields order st horder hst t ht hname
    obtain ⟨chunks, rfl, hchunks, hwritten, -⟩ := hcompile style fields order st horder hst
    refine h.erased (isAbsent fields (declaredNames template)) (fun name hmem => ?_) t hname
      ((mem_scan_sql_iff hwritten).mp ht)
    have hkept := (compile_eq_of_unspelt hf hps hseams fields horder).2.2
    have hplaceholder : .token ⟨.placeholder, name⟩ ∈ kept template fields := hmem
    have hordered := mem_order_of_mem_prune hps horder (hkept ▸ hplaceholder)
    simp [isAbsent, isPresent_of_substitute hchunks hplaceholder hordered]
  · intro style fields order st horder hst
    obtain ⟨chunks, rfl, -, -, hvalues⟩ := hcompile style fields order st horder hst
    exact hvalues

/-- Whatever is cut out is cut out for some fields: those that are present exactly for the names
that are not gone. -/
theorem outside_eq_kept_flags (hps : pieces template.toList = f.pieces) (gone : String → Bool) :
    outside gone [] (pieces template.toList) =
      kept template (flags ((declaredNames template).filter (!gone ·))) := by
  rw [kept, hps, outside_pieces, outside_pieces]
  refine congrArg Forest.pieces (Forest.prune_congr fun name hname => ?_)
  have hdeclared : name ∈ declaredNames template :=
    mem_declaredNames_iff.mpr ⟨_, hps ▸ Forest.mem_pieces_of_mem_blockNames hname⟩
  simp [isAbsent, isPresent_flags, hdeclared]

/-- As many tokens are read as are left, so none of them is spelt by characters. -/
theorem CutsCleanly.unspelt (hf : f.Nested) (hps : pieces template.toList = f.pieces)
    (h : CutsCleanly template) (gone : String → Bool) (t : Token) :
    ¬ Spells (outside gone [] (pieces template.toList)) t := by
  have hnamed : Named (outside gone [] (pieces template.toList)) := by
    rw [hps, outside_pieces]
    exact (hf.prune gone).named
  refine (pieces_textOf_iff hnamed).mp (pieces_textOf_of_tokens_eq hnamed ?_) t
  rw [outside_eq_kept_flags hps, ← h.tokens _ _ (List.Perm.refl _),
    h.text _ _ (List.Perm.refl _), scan, String.toList_ofList, tokensOf]

theorem seamless_of_cutsCleanly (hf : f.Nested) (hps : pieces template.toList = f.pieces)
    (h : CutsCleanly template) : Seamless template := by
  refine ⟨h.unspelt hf hps, fun gone hpresent t hname hspelt => ?_⟩
  have hseams : ∀ gone t, ¬ Spells (f.prune gone).pieces t := fun gone t => by
    simpa only [hps, outside_pieces] using h.unspelt hf hps gone t
  obtain ⟨fields, hfields⟩ : ∃ fields,
      fields = flags ((declaredNames template).filter (!gone ·)) := ⟨_, rfl⟩
  have hkept : outside gone [] (pieces template.toList) = kept template fields :=
    hfields ▸ outside_eq_kept_flags hps gone
  have horder := List.Perm.refl (declaredNames template)
  obtain ⟨hstrip, hread, hprune⟩ := compile_eq_of_unspelt hf hps hseams fields horder
  rw [hkept] at hpresent hspelt
  have hdeclared : ∀ t, .token t ∈ kept template fields → t.name ∈ declaredNames template :=
    fun t ht => mem_order_of_mem_prune hps horder (hprune ▸ ht)
  have hmarkers : ∀ t, .token t ∈ kept template fields → t.kind ≠ .placeholder →
      fields.isPresent t.name = true :=
    fun t ht hkind => isPresent_of_mem_prune hps horder (hprune ▸ ht) hkind
  have hall : ∀ t, .token t ∈ kept template fields → fields.isPresent t.name = true := by
    intro t ht
    by_cases hkind : t.kind = .placeholder
    · obtain ⟨kind, name⟩ := t
      subst hkind
      simp [hfields, isPresent_flags, hdeclared _ ht, hpresent name ht]
    · exact hmarkers t ht hkind
  -- so there is a statement, in which the token would be read
  obtain ⟨chunks, hchunks⟩ : ∃ chunks,
      substitute fields (declaredNames template) (kept template fields) = .ok chunks :=
    exists_substitute_eq_ok hall
  have hcompile : compile .question template fields (declaredNames template) =
      .ok (statementOf .question chunks) := by
    rw [compile, hstrip, hread, hchunks]
    rfl
  have hwritten := (written_of_substitute hdeclared hmarkers hchunks .question 0).1
  exact h.sql .question fields _ _ horder hcompile t ((mem_scan_sql_iff hwritten).mpr hspelt) hname

end

namespace Forest

variable {f : Forest}

/-- Literals stay text when the markers between them are erased. -/
theorem WellFormed.stable_withoutMarkers (h : f.WellFormed) : Stable (withoutMarkers f.pieces) := by
  induction f with
  | nil => exact stable_nil
  | literal cs next ih =>
    have hsplit : withoutMarkers (literal cs next).pieces =
        cs.map .char ++ withoutMarkers next.pieces := by
      simp [pieces, withoutMarkers, Piece.isMarker]
    rw [hsplit]
    exact h.1.stable.append (ih h.2)
  | placeholder name next ih =>
    exact (stable_token (t := ⟨.placeholder, name⟩) h.1).append (ih h.2)
  | block name body next ihb ihn =>
    obtain ⟨-, -, hbody, hnext⟩ := h
    have hsplit : withoutMarkers (block name body next).pieces =
        withoutMarkers body.pieces ++ withoutMarkers next.pieces :=
      List.filter_append body.pieces (.token ⟨.closing, name⟩ :: next.pieces)
    rw [hsplit]
    exact (ihb hbody).append (ihn hnext)

/-- **The text of a well-formed forest has no seams**: a literal begins no token that it does not
finish, so nothing that comes to stand behind it can make one. -/
theorem WellFormed.seamless (h : f.WellFormed) : Seamless (String.ofList f.text) := by
  have houtside : ∀ gone, outside gone [] (Template.pieces (String.ofList f.text).toList) =
      (f.prune gone).pieces := fun gone => by
    rw [String.toList_ofList, pieces_text h, outside_pieces]
  constructor
  · intro gone
    rw [houtside, ← pieces_textOf_iff (h.prune gone).nested.named]
    exact (h.prune gone).stable.pieces_textOf
  · intro gone _ t _
    have hnamed := (h.prune gone).nested.named.sublist (List.filter_sublist (p := (!·.isMarker)))
    rw [houtside]
    exact (pieces_textOf_iff hnamed).mp (h.prune gone).stable_withoutMarkers.pieces_textOf t

theorem WellFormed.cutsCleanly (h : f.WellFormed) : CutsCleanly (String.ofList f.text) :=
  cutsCleanly_of_seamless h.nested (by rw [String.toList_ofList, pieces_text h]) h.seamless

end Forest

/-- **Deleting text makes no token exactly if nothing is spelt at a seam.**  For every template that
is accepted: in whatever order its names are gone through and whatever the fields are, exactly the
blocks of absent names are cut out, the tokens that are read afterwards are those outside of them,
no token of the template is left in a statement and every argument comes from a placeholder that is
kept, if and only if there are no blocks such that, when they are cut out, characters that were
apart spell a token. -/
theorem cutsCleanly_iff_seamless {template : String} (h : validate template = .ok ()) :
    CutsCleanly template ↔ Seamless template := by
  obtain ⟨f, hf, hps⟩ := exists_forest_of_validate h
  exact ⟨seamless_of_cutsCleanly hf hps, cutsCleanly_of_seamless hf hps⟩

/-- A JSON text with a member that is left out unless there is a value for it. -/
def optionalMember : String :=
  "SELECT '\x7b\x7b#b\x7d\"k\":\x7bb\x7d\x7b/b\x7d\x7d'"

theorem pieces_optionalMember : pieces optionalMember.toList =
    "SELECT '\x7b".toList.map .char ++ .token ⟨.opening, "b"⟩ ::
      ("\"k\":".toList.map .char ++ .token ⟨.placeholder, "b"⟩ :: .token ⟨.closing, "b"⟩ ::
        "\x7d'".toList.map .char) := by decide +kernel

/-- Braces are left over on both sides of the block, but they spell nothing. -/
theorem seamless_optionalMember : Seamless optionalMember := by
  have houtside : ∀ gone : String → Bool, outside gone [] (pieces optionalMember.toList) =
      if gone "b" then "SELECT '\x7b\x7d'".toList.map .char
      else pieces optionalMember.toList := by
    intro gone
    rw [pieces_optionalMember]
    cases hgone : gone "b" <;> simp [outside, hgone]
  have hcut : ∀ t, ¬ Spells ("SELECT '\x7b\x7d'".toList.map .char) t :=
    (pieces_textOf_iff (by simp [Named])).mp (by decide +kernel)
  have hwhole : ∀ t, ¬ Spells (pieces optionalMember.toList) t :=
    (pieces_textOf_iff (named_pieces _)).mp (by rw [textOf_pieces])
  have herased : ∀ t, ¬ Spells (withoutMarkers (pieces optionalMember.toList)) t :=
    (pieces_textOf_iff ((named_pieces _).sublist List.filter_sublist)).mp (by decide +kernel)
  constructor
  · intro gone
    rw [houtside]
    split
    next => exact hcut
    next => exact hwhole
  · intro gone _ t _
    rw [houtside]
    split
    next => exact fun h => hcut t (h.mono (by decide +kernel))
    next => exact herased t

theorem cutsCleanly_optionalMember :
    validate optionalMember = .ok () ∧ CutsCleanly optionalMember := by
  have hvalid : validate optionalMember = .ok () := by decide +kernel
  exact ⟨hvalid, (cutsCleanly_iff_seamless hvalid).mpr seamless_optionalMember⟩

/-- A template with a brace in front of a block. -/
def strayBrace : String :=
  "SELECT 1\x7b#c\x7d\x7b\x7b#b\x7d\x7bb\x7d\x7b/b\x7d/c\x7d AND a=\x7ba\x7d\x7b/c\x7d"

/-- **A brace in front of a block makes a marker of the text behind it.**  With `b` and `c` absent
the block of `c` is the end of the template, yet only a part of it is cut out: the rest stays in the
statement with its placeholder, whose value is bound, and with the closing marker. -/
theorem strayBrace_not_cutsCleanly :
    validate strayBrace = .ok () ∧ declaredNames strayBrace = ["b", "a", "c"] ∧
      textOf (kept strayBrace ⟨[("a", .scalar (.bool true))]⟩) = "SELECT 1".toList ∧
      compile .question strayBrace ⟨[("a", .scalar (.bool true))]⟩ ["b", "a", "c"] =
        .ok ⟨"SELECT 1 AND a=?\x7b/c\x7d", [.bool true]⟩ ∧
      ¬ CutsCleanly strayBrace := by
  have hnames : declaredNames strayBrace = ["b", "a", "c"] := by decide +kernel
  have hcompile : compile .question strayBrace ⟨[("a", .scalar (.bool true))]⟩ ["b", "a", "c"] =
      .ok ⟨"SELECT 1 AND a=?\x7b/c\x7d", [.bool true]⟩ := by decide +kernel
  refine ⟨by decide +kernel, hnames, by decide +kernel, hcompile, fun h => ?_⟩
  refine h.sql _ _ _ _ (hnames ▸ List.Perm.refl _) hcompile ⟨.closing, "c"⟩ (by decide +kernel) ?_
  rw [hnames]
  decide

end Template

end SqlGateway
