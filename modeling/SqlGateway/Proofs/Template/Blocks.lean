/-
# The forest of an accepted template

`validate` accepts a template if its block markers nest.  Then its pieces are those of a forest,
whose literals are whatever characters the template has between its tokens.  Such a literal may
hold or begin anything; it is no token in the template, and that is all.

* `exists_forest_of_validate`: every accepted template has such a forest;
* `outside_pieces`: what stands outside the blocks of given names is told by the names of the open
  blocks, and it is what pruning the forest leaves.
-/
import SqlGateway.Proofs.Template.Spelling

namespace SqlGateway.Template

/-! ## 1. Nested blocks -/

/-- Names are names, and no block encloses one of its own name. -/
def Forest.Nested : Forest → Prop
  | .nil => True
  | .literal _ next => next.Nested
  | .placeholder name next => IsName name.toList ∧ next.Nested
  | .block name body next =>
    IsName name.toList ∧ name ∉ body.blockNames ∧ body.Nested ∧ next.Nested

namespace Forest

variable {f : Forest}

theorem Nested.named (h : f.Nested) : Named f.pieces := by
  induction f with
  | nil => exact fun t ht => nomatch ht
  | literal cs next ih =>
    intro t ht
    rcases List.mem_append.mp ht with ht | ht
    · obtain ⟨c, -, hc⟩ := List.mem_map.mp ht
      cases hc
    · exact ih h t ht
  | placeholder name next ih =>
    intro t ht
    rcases List.mem_cons.mp ht with heq | ht
    · cases heq
      exact h.1
    · exact ih h.2 t ht
  | block name body next ihb ihn =>
    obtain ⟨hname, -, hbody, hnext⟩ := h
    intro t ht
    rcases List.mem_cons.mp ht with heq | ht
    · cases heq
      exact hname
    · rcases List.mem_append.mp ht with ht | ht
      · exact ihb hbody t ht
      · rcases List.mem_cons.mp ht with heq | ht
        · cases heq
          exact hname
        · exact ihn hnext t ht

theorem Nested.prune (h : f.Nested) (gone : String → Bool) : (f.prune gone).Nested := by
  induction f with
  | nil => trivial
  | literal cs next ih => exact ih h
  | placeholder name next ih => exact ⟨h.1, ih h.2⟩
  | block name body next ihb ihn =>
    obtain ⟨hname, hself, hbody, hnext⟩ := h
    rw [Forest.prune]
    split
    next => exact ihn hnext
    next =>
      exact ⟨hname, fun hmem => hself (mem_blockNames_of_mem_prune hmem).1, ihb hbody, ihn hnext⟩

theorem WellFormed.nested (h : f.WellFormed) : f.Nested := by
  induction f with
  | nil => trivial
  | literal cs next ih => exact ih h.2
  | placeholder name next ih => exact ⟨h.1, ih h.2⟩
  | block name body next ihb ihn =>
    obtain ⟨hname, hself, hbody, hnext⟩ := h
    exact ⟨hname, hself, ihb hbody, ihn hnext⟩

end Forest

/-! ## 2. Reading a forest off -/

/-- What may stand behind a forest while blocks are open: the end, or the marker that closes the
innermost of them, and then whatever is accepted. -/
def Follows : List String → List Piece → Prop
  | [], rest => rest = []
  | top :: outer, rest => ∃ more, rest = .token ⟨.closing, top⟩ :: more ∧
    validateTokens outer (tokensOf more) = .ok ()

theorem follows_nil {stack : List String} (h : validateTokens stack [] = .ok ()) :
    Follows stack [] := by
  cases stack with
  | nil => rfl
  | cons top outer => simp [validateTokens, List.getLast?_cons] at h

theorem validateTokens_opening_eq_ok_iff {stack : List String} {name : String} {ts : List Token} :
    validateTokens stack (⟨.opening, name⟩ :: ts) = .ok () ↔
      name ∉ stack ∧ validateTokens (name :: stack) ts = .ok () := by
  rw [validateTokens]
  by_cases hname : name ∈ stack
  · simp [hname]
  · simp [hname]

/-- Only the innermost block can be closed. -/
theorem follows_closing {stack : List String} {name : String} {ps : List Piece}
    (h : validateTokens stack (⟨.closing, name⟩ :: tokensOf ps) = .ok ()) :
    Follows stack (.token ⟨.closing, name⟩ :: ps) := by
  cases stack with
  | nil => cases h
  | cons top outer =>
    rw [validateTokens] at h
    split at h
    next heq => exact ⟨ps, by rw [heq], h⟩
    next =>
      split at h
      next => cases h
      next => cases h

/-- Accepted pieces begin with a forest, and behind it the innermost open block is closed.  The
induction is on the number of pieces, for what is behind a block is read after the block. -/
theorem exists_forest_append {stack : List String} {ps : List Piece} (n : Nat)
    (hn : ps.length ≤ n) (hps : Named ps) (h : validateTokens stack (tokensOf ps) = .ok ()) :
    ∃ (f : Forest) (rest : List Piece), ps = f.pieces ++ rest ∧ f.Nested ∧
      (∀ name ∈ f.blockNames, name ∉ stack) ∧ Follows stack rest := by
  induction n generalizing stack ps with
  | zero =>
    obtain rfl := List.length_eq_zero_iff.mp (Nat.le_zero.mp hn)
    exact ⟨.nil, [], rfl, trivial, (fun _ h => nomatch h), follows_nil h⟩
  | succ n ih =>
    cases ps with
    | nil => exact ⟨.nil, [], rfl, trivial, (fun _ h => nomatch h), follows_nil h⟩
    | cons p ps =>
      have hlength : ps.length ≤ n := Nat.le_of_succ_le_succ hn
      have hnamed : Named ps := hps.sublist (List.sublist_cons_self _ _)
      cases p with
      | char c =>
        obtain ⟨f, rest, rfl, hf, hfresh, hrest⟩ := ih hlength hnamed h
        exact ⟨.literal [c] f, rest, rfl, hf, hfresh, hrest⟩
      | token t =>
        obtain ⟨kind, name⟩ := t
        have hname : IsName name.toList := hps _ List.mem_cons_self
        cases kind with
        | placeholder =>
          obtain ⟨f, rest, rfl, hf, hfresh, hrest⟩ := ih hlength hnamed h
          exact ⟨.placeholder name f, rest, rfl, ⟨hname, hf⟩, hfresh, hrest⟩
        | closing => exact ⟨.nil, _, rfl, trivial, (fun _ h => nomatch h), follows_closing h⟩
        | opening =>
          obtain ⟨houter, hinside⟩ := validateTokens_opening_eq_ok_iff.mp h
          obtain ⟨body, _, rfl, hbody, hinner, more, rfl, hmore⟩ :=
            ih hlength hnamed hinside
          rw [List.length_append, List.length_cons] at hlength
          have hlength' : more.length ≤ n := by omega
          have hnamed' : Named more := hnamed.sublist
            ((List.sublist_cons_self _ _).trans (List.sublist_append_right _ _))
          obtain ⟨next, rest, rfl, hnext, hbehind, hrest⟩ := ih hlength' hnamed' hmore
          refine ⟨.block name body next, rest, by simp [Forest.pieces],
            ⟨hname, fun hmem => hinner name hmem List.mem_cons_self, hbody, hnext⟩, ?_, hrest⟩
          intro other hother
          rcases List.mem_cons.mp hother with rfl | hother
          · exact houter
          · rcases List.mem_append.mp hother with hother | hother
            · exact fun hmem => hinner other hother (List.mem_cons_of_mem _ hmem)
            · exact hbehind other hother

/-- **An accepted template has the pieces of a forest.** -/
theorem exists_forest_of_validate {template : String} (h : validate template = .ok ()) :
    ∃ f : Forest, f.Nested ∧ pieces template.toList = f.pieces := by
  obtain ⟨f, rest, hps, hf, -, rfl⟩ :=
    exists_forest_append _ (Nat.le_refl _) (named_pieces template.toList) h
  exact ⟨f, hf, by rw [hps, List.append_nil]⟩

/-! ## 3. Outside of blocks -/

/-- The pieces that stand outside every block whose name is `gone`; `stack` are the names of the
blocks that are open before them, the innermost first.  A marker belongs to its block. -/
def outside (gone : String → Bool) (stack : List String) : List Piece → List Piece
  | [] => []
  | .char c :: ps => (if stack.any gone then [] else [.char c]) ++ outside gone stack ps
  | .token ⟨.placeholder, name⟩ :: ps =>
    (if stack.any gone then [] else [.token ⟨.placeholder, name⟩]) ++ outside gone stack ps
  | .token ⟨.opening, name⟩ :: ps =>
    (if (name :: stack).any gone then [] else [.token ⟨.opening, name⟩]) ++
      outside gone (name :: stack) ps
  | .token ⟨.closing, name⟩ :: ps =>
    (if stack.any gone then [] else [.token ⟨.closing, name⟩]) ++ outside gone stack.tail ps

/-- Within a block that is gone nothing stands outside, and elsewhere what pruning leaves. -/
theorem outside_append (gone : String → Bool) (f : Forest) (stack : List String)
    (rest : List Piece) :
    outside gone stack (f.pieces ++ rest) =
      (if stack.any gone then [] else (f.prune gone).pieces) ++ outside gone stack rest := by
  induction f generalizing stack rest with
  | nil => simp [Forest.pieces, Forest.prune]
  | literal cs next ih =>
    have hchars : ∀ qs, outside gone stack (cs.map .char ++ qs) =
        (if stack.any gone then [] else cs.map .char) ++ outside gone stack qs := by
      intro qs
      induction cs with
      | nil => simp
      | cons c cs ihc =>
        rw [List.map_cons, List.cons_append, outside, ihc]
        split <;> simp
    rw [Forest.pieces, List.append_assoc, hchars, ih, Forest.prune, Forest.pieces]
    split <;> simp
  | placeholder name next ih =>
    rw [Forest.pieces, List.cons_append, outside, ih, Forest.prune, Forest.pieces]
    split <;> simp
  | block name body next ihb ihn =>
    rw [Forest.pieces, List.cons_append, outside, List.append_assoc, ihb, List.cons_append, outside,
      List.tail_cons, ihn, Forest.prune, List.any_cons]
    by_cases hstack : stack.any gone = true
    · simp [hstack]
    · by_cases hname : gone name = true
      · simp [hstack, hname]
      · simp [hstack, hname, Forest.pieces]

/-- **What stands outside the blocks is what pruning leaves.** -/
theorem outside_pieces (gone : String → Bool) (f : Forest) :
    outside gone [] f.pieces = (f.prune gone).pieces := by
  have h := outside_append gone f [] []
  simpa [outside] using h

/-- Only the names of blocks matter. -/
theorem Forest.prune_congr {gone gone' : String → Bool} {f : Forest}
    (h : ∀ name ∈ f.blockNames, gone name = gone' name) : f.prune gone = f.prune gone' := by
  induction f with
  | nil => rfl
  | literal cs next ih => rw [prune, prune, ih h]
  | placeholder name next ih => rw [prune, prune, ih h]
  | block name body next ihb ihn =>
    have hname := h name List.mem_cons_self
    have hbody := ihb fun n hn => h n (List.mem_cons_of_mem _ (List.mem_append_left _ hn))
    have hnext := ihn fun n hn => h n (List.mem_cons_of_mem _ (List.mem_append_right _ hn))
    rw [prune, prune, hname, hbody, hnext]

end SqlGateway.Template
