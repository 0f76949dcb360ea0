/-
# Where the tokens of a template stand

The scanner goes over a template once, and behind a brace that opens nothing it goes on with the
next character.  Blocks are cut out by a search for the text of a marker, which knows nothing of the
scanner.  This module gives every token its place, in bytes, and proves that both sides are exact:

* `mem_spans_iff`: the places that are found are those where the text of a token stands, all of
  them, whatever braces stand in front;
* `firstFrom?_eq`: what the search finds behind any place is the first token there;
* `stripBlock_eq_spans`: cutting a block out takes away the bytes from the first opening marker to
  the end of the first closing marker behind it.

Both rest on one fact: a token has its only opening brace in front, so nothing that the scanner
takes, and nothing that it passes over, can reach into another token.
-/
import Mathlib.Data.String.Basic
import SqlGateway.Proofs.Template.Spelling

namespace SqlGateway.Template

open String (utf8Len utf8Len_append utf8Len_cons utf8Len_toList)

/-! ## 1. Places -/

/-- A token and its place in a template: the number of bytes before it, and before what follows. -/
structure Span where
  token : Token
  start : Nat
  stop : Nat
deriving DecidableEq, Repr

/-- The tokens among pieces, with `offset` bytes in front of the first piece. -/
def spansFrom (offset : Nat) : List Piece → List Span
  | [] => []
  | .char c :: ps => spansFrom (offset + c.utf8Size) ps
  | .token t :: ps =>
    ⟨t, offset, offset + utf8Len t.text⟩ :: spansFrom (offset + utf8Len t.text) ps

/-- The tokens that the scanner finds, with their places. -/
def spans (template : String) : List Span := spansFrom 0 (pieces template.toList)

/-- The text of the token stands at this place of the template. -/
structure Span.StandsIn (sp : Span) (template : String) : Prop where
  name : IsName sp.token.name.toList
  place : ∃ before behind : String,
    template = before ++ String.ofList sp.token.text ++ behind ∧
      sp.start = before.utf8ByteSize ∧
      sp.stop = (before ++ String.ofList sp.token.text).utf8ByteSize

variable {s u v : List Char} {t : Token} {ps : List Piece} {sp : Span} {offset : Nat}

theorem utf8Len_pos_of_ne_nil (h : u ≠ []) : 0 < utf8Len u := by
  cases u with
  | nil => exact absurd rfl h
  | cons c u =>
    have := c.utf8Size_pos
    rw [utf8Len_cons]
    omega

theorem text_ne_nil (t : Token) : t.text ≠ [] := by simp [Token.text, tokenText]

theorem utf8Len_text_pos (t : Token) : 0 < utf8Len t.text := utf8Len_pos_of_ne_nil (text_ne_nil t)

theorem map_token_spansFrom (offset : Nat) (ps : List Piece) :
    (spansFrom offset ps).map Span.token = tokensOf ps := by
  induction ps generalizing offset with
  | nil => rfl
  | cons p ps ih =>
    cases p with
    | char c => exact ih _
    | token t =>
      rw [spansFrom, List.map_cons, ih]
      rfl

/-- A token that is found stands among the pieces, as far behind the start as the text before it
is long. -/
theorem mem_spansFrom_iff :
    sp ∈ spansFrom offset ps ↔ ∃ front back, ps = front ++ .token sp.token :: back ∧
      sp.start = offset + utf8Len (textOf front) ∧ sp.stop = sp.start + utf8Len sp.token.text := by
  induction ps generalizing offset with
  | nil => simp [spansFrom]
  | cons p ps ih =>
    cases p with
    | char c =>
      rw [spansFrom, ih]
      constructor
      · rintro ⟨front, back, rfl, hstart, hstop⟩
        refine ⟨.char c :: front, back, rfl, ?_, hstop⟩
        rw [textOf_cons, Piece.text, List.singleton_append, utf8Len_cons]
        omega
      · rintro ⟨_ | ⟨p, front⟩, back, heq, hstart, hstop⟩
        · cases heq
        · obtain ⟨rfl, rfl⟩ := List.cons.inj heq
          refine ⟨front, back, rfl, ?_, hstop⟩
          rw [textOf_cons, Piece.text, List.singleton_append, utf8Len_cons] at hstart
          omega
    | token t =>
      rw [spansFrom, List.mem_cons, ih]
      constructor
      · rintro (rfl | ⟨front, back, rfl, hstart, hstop⟩)
        · exact ⟨[], ps, rfl, rfl, rfl⟩
        · refine ⟨.token t :: front, back, rfl, ?_, hstop⟩
          rw [textOf_cons, Piece.text, utf8Len_append]
          omega
      · rintro ⟨_ | ⟨p, front⟩, back, heq, hstart, hstop⟩
        · obtain ⟨htoken, rfl⟩ := List.cons.inj heq
          obtain ⟨token, start, stop⟩ := sp
          obtain rfl : t = token := Piece.token.inj htoken
          obtain rfl : start = offset := hstart
          exact .inl (by rw [show stop = _ from hstop])
        · obtain ⟨rfl, rfl⟩ := List.cons.inj heq
          refine .inr ⟨front, back, rfl, ?_, hstop⟩
          rw [textOf_cons, Piece.text, utf8Len_append] at hstart
          omega

/-- The places come one behind the other. -/
theorem pairwise_spansFrom (offset : Nat) (ps : List Piece) :
    (spansFrom offset ps).Pairwise fun a b => a.start < b.start ∧ a.stop ≤ b.start := by
  induction ps generalizing offset with
  | nil => exact List.Pairwise.nil
  | cons p ps ih =>
    cases p with
    | char c => exact ih _
    | token t =>
      rw [spansFrom, List.pairwise_cons]
      refine ⟨fun sp hsp => ?_, ih _⟩
      obtain ⟨front, back, -, hstart, -⟩ := mem_spansFrom_iff.mp hsp
      have := utf8Len_text_pos t
      dsimp only
      omega

/-! ## 2. Every place -/

/-- **No token is missed.**  Wherever the text of a token stands, the scanner cuts it out as a piece
of its own.  The induction goes along the scanner: neither a token nor a brace that opens nothing
reaches into it. -/
theorem exists_pieces_append_text (ht : IsName t.name.toList) {before behind : List Char}
    (h : s = before ++ t.text ++ behind) :
    ∃ front, pieces s = front ++ .token t :: pieces behind ∧ textOf front = before := by
  induction s using template_induction generalizing before with
  | nil =>
    have hnil : before ++ t.text = [] := (List.append_eq_nil_iff.mp h.symm).1
    exact absurd (List.append_eq_nil_iff.mp hnil).2 (text_ne_nil t)
  | token t' rest ht' ih =>
    rw [pieces_text_append ht']
    rcases List.append_eq_append_iff.mp (h.trans (List.append_assoc _ _ _)) with
      ⟨before', rfl, hrest⟩ | ⟨inside, hinside, hrest⟩
    · obtain ⟨front, hfront, rfl⟩ := ih (hrest.trans (List.append_assoc _ _ _).symm)
      exact ⟨.token t' :: front, by rw [hfront]; rfl, rfl⟩
    · cases before with
      | nil =>
        obtain rfl : t'.text = inside := hinside
        obtain rfl : t = t' := eq_of_prefix_text ht ht' ⟨behind, hrest⟩
        exact ⟨[], by rw [List.append_cancel_left hrest]; rfl, rfl⟩
      | cons c before =>
        -- within `t'` no other token can begin, so what is left of `t'` is nothing
        obtain ⟨q, hq, hmem⟩ := text_eq_cons ht'
        obtain ⟨q', hq', -⟩ := text_eq_cons ht
        cases inside with
        | nil =>
          obtain ⟨front, hfront, htext⟩ := @ih [] hrest.symm
          refine ⟨.token t' :: front, by rw [hfront]; rfl, ?_⟩
          rw [textOf_cons, htext, Piece.text, hinside]
          simp
        | cons d inside =>
          rw [hq] at hinside
          rw [hq'] at hrest
          obtain rfl := (List.cons.inj hrest).1
          refine absurd ?_ hmem
          rw [(List.cons.inj hinside).2]
          exact List.mem_append_right _ List.mem_cons_self
  | brace cs hcs ih =>
    cases before with
    | nil =>
      exact absurd ⟨behind, h.symm⟩ (not_prefix_of_takeToken ht hcs)
    | cons c before =>
      obtain ⟨rfl, hrest⟩ := List.cons.inj h
      obtain ⟨front, hfront, rfl⟩ := ih hrest
      exact ⟨.char '\x7b' :: front, by rw [pieces_brace hcs, hfront]; rfl, rfl⟩
  | char c cs hc ih =>
    cases before with
    | nil => exact absurd ⟨behind, h.symm⟩ (not_prefix_of_ne ht hc)
    | cons c before =>
      obtain ⟨rfl, hrest⟩ := List.cons.inj h
      obtain ⟨front, hfront, rfl⟩ := ih hrest
      exact ⟨.char _ :: front, by rw [pieces_cons_of_ne hc, hfront]; rfl, rfl⟩

/-- **The places that are found are those where the text of a token stands.** -/
theorem mem_spans_iff {template : String} : sp ∈ spans template ↔ sp.StandsIn template := by
  rw [spans, mem_spansFrom_iff]
  constructor
  · rintro ⟨front, back, hpieces, hstart, hstop⟩
    have hmem : .token sp.token ∈ pieces template.toList := by
      rw [hpieces]
      exact List.mem_append_right _ List.mem_cons_self
    refine ⟨isName_of_mem_pieces hmem, String.ofList (textOf front), String.ofList (textOf back),
      ?_, ?_, ?_⟩
    · rw [← String.toList_inj, ← textOf_pieces template.toList, hpieces]
      simp [Piece.text]
    · rw [String.utf8ByteSize_ofList, hstart, Nat.zero_add]
    · rw [String.utf8ByteSize_append, String.utf8ByteSize_ofList, String.utf8ByteSize_ofList, hstop,
        hstart, Nat.zero_add]
  · rintro ⟨hname, before, behind, rfl, hstart, hstop⟩
    have hsplit : (before ++ String.ofList sp.token.text ++ behind).toList =
        before.toList ++ sp.token.text ++ behind.toList := by simp
    obtain ⟨front, hpieces, htext⟩ := exists_pieces_append_text hname hsplit
    refine ⟨front, _, hpieces, ?_, ?_⟩
    · rw [htext, utf8Len_toList, hstart, Nat.zero_add]
    · rw [hstop, hstart, String.utf8ByteSize_append, String.utf8ByteSize_ofList]

theorem Span.StandsIn.isValid {template : String} (h : sp.StandsIn template) :
    String.Pos.Raw.IsValid template ⟨sp.start⟩ ∧ String.Pos.Raw.IsValid template ⟨sp.stop⟩ := by
  obtain ⟨-, before, behind, rfl, hstart, hstop⟩ := h
  constructor
  · refine String.Pos.Raw.isValid_iff_exists_append.mpr
      ⟨before, String.ofList sp.token.text ++ behind, String.append_assoc .., ?_⟩
    rw [hstart]
    rfl
  · refine String.Pos.Raw.isValid_iff_exists_append.mpr ⟨_, behind, rfl, ?_⟩
    rw [hstop]
    rfl

/-! ## 3. The search -/

/-- The first of the places of a token that begins at a byte or behind it. -/
def firstFrom? (template : String) (t : Token) (start : Nat) : Option Span :=
  (spans template).find? fun sp => sp.token = t && start ≤ sp.start

/-- Of two beginnings of one text the one with fewer bytes is the beginning of the other. -/
theorem prefix_of_utf8Len_le (hu : u <+: s) (hv : v <+: s) (h : utf8Len u ≤ utf8Len v) :
    u <+: v := by
  rcases Nat.le_total u.length v.length with hle | hle
  · exact List.prefix_of_prefix_length_le hu hv hle
  · obtain ⟨w, rfl⟩ := List.prefix_of_prefix_length_le hv hu hle
    rw [utf8Len_append] at h
    cases w with
    | nil => simp
    | cons c w =>
      have := utf8Len_pos_of_ne_nil (List.cons_ne_nil c w)
      omega

/-- What the search finds stands before every other occurrence. -/
theorem prefix_of_splitAtFirst {pattern found rest : List Char}
    (h : splitAtFirst pattern s = some (found, rest)) (hs : s = u ++ pattern ++ v) :
    found <+: u := by
  induction s generalizing found u with
  | nil => simp [splitAtFirst] at h
  | cons c s ih =>
    by_cases hfront : pattern <+: c :: s
    · rw [splitAtFirst, if_pos (List.isPrefixOf_iff_prefix.mpr hfront)] at h
      obtain ⟨rfl, -⟩ : [] = found ∧ _ := by simpa using h
      exact List.nil_prefix
    · rw [splitAtFirst_cons_of_not_leading hfront, Option.map_eq_some_iff] at h
      obtain ⟨⟨found', rest'⟩, hfound, heq⟩ := h
      obtain ⟨rfl, rfl⟩ : c :: found' = found ∧ rest' = rest := by simpa using heq
      cases u with
      | nil => exact absurd ⟨v, hs.symm⟩ hfront
      | cons d u =>
        obtain ⟨rfl, htail⟩ := List.cons.inj hs
        exact List.cons_prefix_cons.mpr ⟨rfl, ih hfound htail⟩

/-- A place behind `u` is where the text of the token stands behind `u`. -/
theorem exists_of_mem_spans {template : String} (h : sp ∈ spans template)
    (htemplate : template.toList = u ++ s) (hle : utf8Len u ≤ sp.start) :
    ∃ between behind, s = between ++ sp.token.text ++ behind ∧
      sp.start = utf8Len u + utf8Len between := by
  obtain ⟨-, before, behind, rfl, hstart, -⟩ := mem_spans_iff.mp h
  have hsplit : before.toList ++ (sp.token.text ++ behind.toList) = u ++ s := by
    rw [← htemplate]
    simp
  have hu : u <+: before.toList := by
    refine prefix_of_utf8Len_le (List.prefix_append u s) (hsplit ▸ List.prefix_append _ _) ?_
    rw [utf8Len_toList]
    omega
  obtain ⟨between, hbetween⟩ := hu
  refine ⟨between, behind.toList, ?_, ?_⟩
  · rw [← hbetween, List.append_assoc, List.append_cancel_left_eq] at hsplit
    rw [← hsplit, List.append_assoc]
  · rw [hstart, ← utf8Len_toList, ← hbetween, utf8Len_append]

theorem mem_spans_of_append {template : String} (ht : IsName t.name.toList)
    (htemplate : template.toList = u ++ t.text ++ v) :
    ⟨t, utf8Len u, utf8Len u + utf8Len t.text⟩ ∈ spans template := by
  refine mem_spans_iff.mpr ⟨ht, String.ofList u, String.ofList v, ?_, ?_, ?_⟩
  · rw [← String.toList_inj, htemplate]
    simp
  · rw [String.utf8ByteSize_ofList]
  · rw [String.utf8ByteSize_append, String.utf8ByteSize_ofList, String.utf8ByteSize_ofList]

/-- **The search finds the first token.**  What is found behind any place is the token of this text
that the scanner puts first there; where nothing is found, the scanner has none. -/
theorem firstFrom?_eq {template : String} (ht : IsName t.name.toList)
    (htemplate : template.toList = u ++ s) :
    firstFrom? template t (utf8Len u) = (splitAtFirst t.text s).map fun found =>
      ⟨t, utf8Len (u ++ found.1), utf8Len (u ++ found.1) + utf8Len t.text⟩ := by
  cases hfound : splitAtFirst t.text s with
  | none =>
    rw [Option.map_none, firstFrom?, List.find?_eq_none]
    intro sp hsp hfits
    obtain ⟨rfl, hle⟩ : sp.token = t ∧ utf8Len u ≤ sp.start := by simpa using hfits
    obtain ⟨between, behind, rfl, -⟩ := exists_of_mem_spans hsp htemplate hle
    exact (splitAtFirst_eq_none_iff (text_ne_nil _)).mp hfound (List.infix_append _ _ _)
  | some found =>
    obtain ⟨found, rest⟩ := found
    have hs := append_of_splitAtFirst hfound
    have hmem : ⟨t, utf8Len (u ++ found), utf8Len (u ++ found) + utf8Len t.text⟩ ∈ spans template :=
      mem_spans_of_append ht (v := rest) (by rw [htemplate, ← hs]; simp)
    obtain ⟨front, back, hsplit⟩ := List.append_of_mem hmem
    rw [Option.map_some, firstFrom?, List.find?_eq_some_iff_append]
    refine ⟨by simp, front, back, hsplit, fun sp hsp => ?_⟩
    -- a place in front of it that fits would be found by the search
    have hbefore : sp.start < utf8Len (u ++ found) := by
      have hpairwise := pairwise_spansFrom 0 (pieces template.toList)
      rw [← spans, hsplit, List.pairwise_append] at hpairwise
      exact (hpairwise.2.2 sp hsp _ List.mem_cons_self).1
    rw [Bool.not_eq_true', ← Bool.not_eq_true]
    intro hfits
    obtain ⟨rfl, hle⟩ : sp.token = t ∧ utf8Len u ≤ sp.start := by simpa using hfits
    obtain ⟨between, behind, hbetween, hstart⟩ :=
      exists_of_mem_spans (hsplit ▸ List.mem_append_left _ hsp) htemplate hle
    obtain ⟨more, rfl⟩ := prefix_of_splitAtFirst hfound hbetween
    rw [utf8Len_append] at hbefore hstart
    omega

/-! ## 4. Cutting a block out -/

/-- The template without the bytes from `start` to `stop`. -/
def withoutBytes (template : String) (start stop : Nat) : String :=
  String.Pos.Raw.extract template 0 ⟨start⟩ ++
    String.Pos.Raw.extract template ⟨stop⟩ ⟨template.utf8ByteSize⟩

theorem toList_withoutBytes {template : String} {gone : List Char}
    (h : template.toList = u ++ gone ++ v) :
    (withoutBytes template (utf8Len u) (utf8Len (u ++ gone))).toList = u ++ v := by
  obtain rfl : template = String.ofList (u ++ gone ++ v) := by
    rw [← h, String.ofList_toList]
  have hfront : String.Pos.Raw.extract (String.ofList (u ++ gone ++ v)) 0 ⟨utf8Len u⟩ =
      String.ofList u := by
    simpa using String.extract_of_valid [] u (gone ++ v)
  have hback : String.Pos.Raw.extract (String.ofList (u ++ gone ++ v)) ⟨utf8Len (u ++ gone)⟩
      ⟨utf8Len (u ++ gone) + utf8Len v⟩ = String.ofList v := by
    simpa using String.extract_of_valid (u ++ gone) v []
  rw [withoutBytes, String.utf8ByteSize_ofList, utf8Len_append (u ++ gone), hfront, hback]
  simp

/-- **A block is cut out from token to token.**  The bytes that go are those from the first opening
marker up to the end of the first closing marker behind it, as the scanner places them. -/
theorem stripBlock_eq_spans {name : String} (hname : IsName name.toList) (template : String) :
    stripBlock name.toList template.toList =
      match firstFrom? template ⟨.opening, name⟩ 0 with
      | none => template.toList
      | some o =>
        match firstFrom? template ⟨.closing, name⟩ o.stop with
        | none => template.toList
        | some c => stripBlock name.toList (withoutBytes template o.start c.stop).toList := by
  have hopening :=
    firstFrom?_eq (t := ⟨.opening, name⟩) hname (List.nil_append template.toList).symm
  simp only [List.nil_append, String.utf8Len_nil] at hopening
  rw [hopening, stripBlock]
  split
  next hnone =>
    replace hnone : splitAtFirst (Token.text ⟨.opening, name⟩) template.toList = none := hnone
    rw [hnone, Option.map_none]
  next before inside hsome =>
    replace hsome : splitAtFirst (Token.text ⟨.opening, name⟩) template.toList =
      some (before, inside) := hsome
    have hsplit := append_of_splitAtFirst hsome
    have hclosing := firstFrom?_eq (t := ⟨.closing, name⟩) hname hsplit.symm
    rw [utf8Len_append] at hclosing
    rw [hsome, Option.map_some]
    dsimp only
    rw [hclosing]
    split
    next hnone =>
      replace hnone : splitAtFirst (Token.text ⟨.closing, name⟩) inside = none := hnone
      rw [hnone, Option.map_none]
    next mid behind hsome' =>
      replace hsome' : splitAtFirst (Token.text ⟨.closing, name⟩) inside = some (mid, behind) :=
        hsome'
      have hgone : template.toList = before ++
          (Token.text ⟨.opening, name⟩ ++ mid ++ Token.text ⟨.closing, name⟩) ++ behind := by
        rw [← hsplit, ← append_of_splitAtFirst hsome']
        simp
      have hwithout := toList_withoutBytes hgone
      rw [hsome', Option.map_some]
      dsimp only
      rw [← hwithout, ← utf8Len_append]
      simp only [List.append_assoc]

/-! ## 5. Scanner and search -/

/-- **The scanner finds exactly the tokens, and the search agrees with it.**  The places of the
tokens follow each other without overlap, lie between characters, and are all the places where the
text of a token stands.  From any place on, the search for a token finds the first one there, and
cutting a block out takes away what stands from the first opening marker to the first closing marker
behind it. -/
theorem scan_exact (template : String) :
    scan template = (spans template).map Span.token ∧
    ((spans template).Pairwise fun a b => a.start < b.start ∧ a.stop ≤ b.start) ∧
    (∀ sp, sp ∈ spans template ↔ sp.StandsIn template) ∧
    (∀ sp ∈ spans template, String.Pos.Raw.IsValid template ⟨sp.start⟩ ∧
      String.Pos.Raw.IsValid template ⟨sp.stop⟩) ∧
    (∀ (t : Token) (before behind : String), IsName t.name.toList → template = before ++ behind →
      ((splitAtFirst t.text behind.toList).map fun found =>
        before.utf8ByteSize + utf8Len found.1) =
          (firstFrom? template t before.utf8ByteSize).map Span.start) ∧
    ∀ name : String, IsName name.toList →
      stripBlock name.toList template.toList =
        match firstFrom? template ⟨.opening, name⟩ 0 with
        | none => template.toList
        | some o =>
          match firstFrom? template ⟨.closing, name⟩ o.stop with
          | none => template.toList
          | some c => stripBlock name.toList (withoutBytes template o.start c.stop).toList := by
  refine ⟨(map_token_spansFrom _ _).symm, pairwise_spansFrom _ _, fun sp => mem_spans_iff,
    fun sp hsp => (mem_spans_iff.mp hsp).isValid, ?_, fun name hname =>
      stripBlock_eq_spans hname template⟩
  rintro t before behind ht rfl
  have hfirst := firstFrom?_eq ht (String.toList_append (s := before) (t := behind))
  rw [← utf8Len_toList, hfirst, Option.map_map]
  congr 1
  funext found
  simp

/-- Stray and repeated braces in front of tokens, and a name with more bytes than characters. -/
def strayBraces : String := "\x7b\x7b\x7b#é\x7d \x7b#\x7bé\x7d\x7b/é\x7d\x7b/é\x7d"

/-- The search from within the braces finds the first closing marker, as the scanner places it, and
the block up to it is cut out, while the brace in front of it stays. -/
theorem scan_exact_strayBraces :
    IsName "é".toList ∧
      spans strayBraces = [⟨⟨.opening, "é"⟩, 2, 7⟩, ⟨⟨.placeholder, "é"⟩, 10, 14⟩,
        ⟨⟨.closing, "é"⟩, 14, 19⟩, ⟨⟨.closing, "é"⟩, 19, 24⟩] ∧
      ((splitAtFirst (Token.text ⟨.closing, "é"⟩) "#\x7bé\x7d\x7b/é\x7d\x7b/é\x7d".toList).map
        fun found => 9 + utf8Len found.1) = some 14 ∧
      stripBlock "é".toList strayBraces.toList =
        stripBlock "é".toList (withoutBytes strayBraces 2 19).toList := by
  have hname : IsName "é".toList := by decide
  have hspans : spans strayBraces = [⟨⟨.opening, "é"⟩, 2, 7⟩, ⟨⟨.placeholder, "é"⟩, 10, 14⟩,
      ⟨⟨.closing, "é"⟩, 14, 19⟩, ⟨⟨.closing, "é"⟩, 19, 24⟩] := by decide +kernel
  obtain ⟨-, -, -, -, hsearch, hstrip⟩ := scan_exact strayBraces
  refine ⟨hname, hspans, ?_, ?_⟩
  · have hfound := hsearch ⟨.closing, "é"⟩ "\x7b\x7b\x7b#é\x7d \x7b"
      "#\x7bé\x7d\x7b/é\x7d\x7b/é\x7d" hname (by decide)
    rw [firstFrom?, hspans] at hfound
    exact hfound.trans (by decide)
  · have hopen : firstFrom? strayBraces ⟨.opening, "é"⟩ 0 = some ⟨⟨.opening, "é"⟩, 2, 7⟩ := by
      rw [firstFrom?, hspans]
      rfl
    have hclose : firstFrom? strayBraces ⟨.closing, "é"⟩ 7 = some ⟨⟨.closing, "é"⟩, 14, 19⟩ := by
      rw [firstFrom?, hspans]
      rfl
    have hcut := hstrip "é" hname
    rw [hopen] at hcut
    dsimp only at hcut
    rwa [hclose] at hcut

end SqlGateway.Template
