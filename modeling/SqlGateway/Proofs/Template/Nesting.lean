/-
# Which marker is blamed

The blocks of a template are a bracket language with one more rule: no block stands inside one of
its own name.  `validate` is a stack machine that reads the markers once, from left to right.  This
module holds it to the grammar, in both directions, and says which error a template outside of the
language gets.  The names of the open blocks are read off the derivation (`LeavesOpen`), without a
word about the machine.

* `validateMarkers_append`: what the grammar derives leaves the stack of the machine as it was;
* `viable_iff_leavesOpen`: markers can be continued to a derivable sequence exactly if they are
  derivable sequences with opened blocks between them;
* `validate_follows_grammar`: a template is accepted exactly if its markers are derivable, and
  otherwise the first marker that no continuation can mend is blamed, or the outermost open block.
-/
import Mathlib.Data.List.Induction
import SqlGateway.Template.Block

namespace SqlGateway.Template

/-! ## 1. The block language -/

/-- A token that opens or closes a block. -/
inductive Marker where
  | opens (name : String)
  | closes (name : String)
deriving DecidableEq, Repr

/-- The marker that a token is; a placeholder is none. -/
def Token.marker? : Token → Option Marker
  | ⟨.placeholder, _⟩ => none
  | ⟨.opening, name⟩ => some (.opens name)
  | ⟨.closing, name⟩ => some (.closes name)

/-- The token that a marker is. -/
def Marker.token : Marker → Token
  | opens name => ⟨.opening, name⟩
  | closes name => ⟨.closing, name⟩

/-- The block markers of a template, from left to right. -/
def markers (template : String) : List Marker := (scan template).filterMap Token.marker?

/-- What the grammar `B ::= empty | {#name} B {/name} B` derives, if no block of a name stands
inside another one of that name. -/
inductive WellNested : List Marker → Prop
  | nil : WellNested []
  | block {name : String} {body next : List Marker} :
      .opens name ∉ body → WellNested body → WellNested next →
      WellNested (.opens name :: (body ++ .closes name :: next))

/-- Something can stand behind the markers so that the whole is derivable. -/
def Viable (ms : List Marker) : Prop := ∃ more, WellNested (ms ++ more)

/-- The markers are derivable sequences, with markers between them that open blocks.  These blocks
are open behind the markers; their names are listed with the innermost first. -/
inductive LeavesOpen : List Marker → List String → Prop
  | closed {ms : List Marker} : WellNested ms → LeavesOpen ms []
  | opened {ms body : List Marker} {stack : List String} {name : String} :
      LeavesOpen ms stack → name ∉ stack → WellNested body →
      (∀ other ∈ name :: stack, .opens other ∉ body) →
      LeavesOpen (ms ++ .opens name :: body) (name :: stack)

/-- What is wrong with a marker while blocks are open, the innermost of them first. -/
inductive Fault : List String → Marker → BlockError → Prop
  | nestedInItself {stack : List String} {name : String} :
      name ∈ stack → Fault stack (.opens name) (.nestedInItself name)
  | misnested {innermost name : String} {others : List String} :
      name ≠ innermost → name ∈ others →
      Fault (innermost :: others) (.closes name) (.misnested innermost name)
  | unmatchedClose {stack : List String} {name : String} :
      name ∉ stack → Fault stack (.closes name) (.unmatchedClose name)

/-- The error that markers get: what is wrong with the first one behind which nothing can make a
derivable sequence of them, and if there is none, the outermost block that is open at the end. -/
inductive Blames (ms : List Marker) : BlockError → Prop
  | hopeless {before after : List Marker} {m : Marker} {stack : List String} {e : BlockError} :
      ms = before ++ m :: after → Viable before → ¬ Viable (before ++ [m]) →
      LeavesOpen before stack → Fault stack m e → Blames ms e
  | unclosed {stack : List String} {name : String} :
      Viable ms → LeavesOpen ms stack → stack.getLast? = some name → Blames ms (.unclosed name)

variable {ms before body next rest : List Marker} {stack : List String} {m : Marker}
  {name : String} {e : BlockError}

theorem WellNested.append (h : WellNested ms) (hnext : WellNested next) :
    WellNested (ms ++ next) := by
  induction h with
  | nil => exact hnext
  | @block name body _ hself hbody _ _ ih =>
    rw [List.cons_append, List.append_assoc, List.cons_append]
    exact .block hself hbody ih

theorem wellNested_block (hbody : WellNested body) (hself : .opens name ∉ body) :
    WellNested (.opens name :: (body ++ [.closes name])) :=
  .block hself hbody .nil

theorem Viable.of_append (h : Viable (ms ++ rest)) : Viable ms := by
  obtain ⟨more, hmore⟩ := h
  exact ⟨rest ++ more, by rwa [← List.append_assoc]⟩

/-! ## 2. The machine on markers -/

/-- `validateTokens` on markers alone. -/
def validateMarkers (stack : List String) (ms : List Marker) : Except BlockError Unit :=
  validateTokens stack (ms.map Marker.token)

theorem validateMarkers_nil_eq_ok_iff : validateMarkers stack [] = .ok () ↔ stack = [] := by
  cases stack with
  | nil => exact iff_of_true rfl rfl
  | cons top outer => simp [validateMarkers, validateTokens, List.getLast?_cons]

theorem validateMarkers_nil_eq_error_iff :
    validateMarkers stack [] = .error e ↔
      ∃ name, stack.getLast? = some name ∧ e = .unclosed name := by
  rw [validateMarkers, List.map_nil, validateTokens]
  cases hlast : stack.getLast? with
  | none => simp
  | some name => simp [eq_comm]

theorem validateMarkers_opens (hname : name ∉ stack) :
    validateMarkers stack (.opens name :: ms) = validateMarkers (name :: stack) ms := by
  rw [validateMarkers, List.map_cons, Marker.token, validateTokens, if_neg hname, validateMarkers]

theorem validateMarkers_closes :
    validateMarkers (name :: stack) (.closes name :: ms) = validateMarkers stack ms := by
  rw [validateMarkers, List.map_cons, Marker.token, validateTokens, if_pos rfl, validateMarkers]

/-- A marker at fault ends the reading, whatever is behind it. -/
theorem validateMarkers_of_fault (h : Fault stack m e) (ms : List Marker) :
    validateMarkers stack (m :: ms) = .error e := by
  cases h with
  | nestedInItself hname =>
    rw [validateMarkers, List.map_cons, Marker.token, validateTokens, if_pos hname]
  | misnested hne hname =>
    rw [validateMarkers, List.map_cons, Marker.token, validateTokens, if_neg (Ne.symm hne),
      if_pos hname]
  | unmatchedClose hname =>
    cases stack with
    | nil => rfl
    | cons top outer =>
      rw [validateMarkers, List.map_cons, Marker.token, validateTokens,
        if_neg (List.ne_of_not_mem_cons hname).symm, if_neg (List.not_mem_of_not_mem_cons hname)]

/-- **Placeholders are passed over.** -/
theorem validateTokens_eq_validateMarkers (stack : List String) (ts : List Token) :
    validateTokens stack ts = validateMarkers stack (ts.filterMap Token.marker?) := by
  induction ts generalizing stack with
  | nil => rfl
  | cons t ts ih =>
    obtain ⟨kind, name⟩ := t
    cases kind with
    | placeholder =>
      rw [validateTokens, ih]
      rfl
    | opening =>
      show _ = validateMarkers stack (.opens name :: ts.filterMap Token.marker?)
      by_cases hname : name ∈ stack
      · rw [validateTokens, if_pos hname, validateMarkers_of_fault (.nestedInItself hname)]
      · rw [validateTokens, if_neg hname, validateMarkers_opens hname, ih]
    | closing =>
      show _ = validateMarkers stack (.closes name :: ts.filterMap Token.marker?)
      cases stack with
      | nil => rfl
      | cons top outer =>
        rw [validateTokens]
        split
        next heq =>
          subst heq
          rw [validateMarkers_closes, ih]
        next hne =>
          split
          next hname => rw [validateMarkers_of_fault (.misnested (Ne.symm hne) hname)]
          next hname =>
            rw [validateMarkers_of_fault
              (.unmatchedClose (List.not_mem_cons_of_ne_of_not_mem (Ne.symm hne) hname))]

theorem validate_eq_validateMarkers (template : String) :
    validate template = validateMarkers [] (markers template) :=
  validateTokens_eq_validateMarkers [] (scan template)

/-- **What the grammar derives leaves the open blocks as they were**, unless it opens one of them
again. -/
theorem validateMarkers_append (h : WellNested ms) (hfresh : ∀ name ∈ stack, .opens name ∉ ms)
    (rest : List Marker) : validateMarkers stack (ms ++ rest) = validateMarkers stack rest := by
  induction h generalizing stack rest with
  | nil => rfl
  | @block name body next hself hbody hnext ihb ihn =>
    have hname : name ∉ stack := fun hmem => hfresh name hmem List.mem_cons_self
    have hinner : ∀ other ∈ name :: stack, .opens other ∉ body := by
      intro other hother hmem
      rcases List.mem_cons.mp hother with rfl | hother
      · exact hself hmem
      · exact hfresh other hother (List.mem_cons_of_mem _ (List.mem_append_left _ hmem))
    have hbehind : ∀ other ∈ stack, .opens other ∉ next := fun other hother hmem =>
      hfresh other hother
        (List.mem_cons_of_mem _ (List.mem_append_right _ (List.mem_cons_of_mem _ hmem)))
    rw [List.cons_append, validateMarkers_opens hname, List.append_assoc, ihb hinner,
      List.cons_append, validateMarkers_closes, ihn hbehind]

theorem WellNested.validateMarkers_eq_ok (h : WellNested ms) : validateMarkers [] ms = .ok () := by
  have hempty : validateMarkers [] (ms ++ []) = validateMarkers [] [] :=
    validateMarkers_append h (by simp) []
  rwa [List.append_nil] at hempty

/-! ## 3. Open blocks -/

/-- The machine arrives behind markers with the blocks that they leave open. -/
theorem LeavesOpen.validateMarkers_append (h : LeavesOpen before stack) (rest : List Marker) :
    validateMarkers [] (before ++ rest) = validateMarkers stack rest := by
  induction h generalizing rest with
  | closed hms => exact Template.validateMarkers_append hms (by simp) rest
  | @opened ms body stack name _ hname hbody hfresh ih =>
    rw [List.append_assoc, ih, List.cons_append, validateMarkers_opens hname,
      Template.validateMarkers_append hbody hfresh]

/-- A derivable sequence behind the markers opens nothing for good. -/
theorem LeavesOpen.append (h : LeavesOpen before stack) (hms : WellNested ms)
    (hfresh : ∀ name ∈ stack, .opens name ∉ ms) : LeavesOpen (before ++ ms) stack := by
  cases h with
  | closed hbefore => exact .closed (hbefore.append hms)
  | opened hopen hname hbody hinner =>
    rw [List.append_assoc, List.cons_append]
    refine .opened hopen hname (hbody.append hms) fun other hother hmem => ?_
    rcases List.mem_append.mp hmem with hmem | hmem
    · exact hinner other hother hmem
    · exact hfresh other hother hmem

theorem LeavesOpen.opens (h : LeavesOpen before stack) (hname : name ∉ stack) :
    LeavesOpen (before ++ [.opens name]) (name :: stack) :=
  .opened h hname .nil (by simp)

/-- The marker that closes the innermost block ends it. -/
theorem LeavesOpen.closes (h : LeavesOpen before (name :: stack)) :
    LeavesOpen (before ++ [.closes name]) stack := by
  cases h with
  | @opened ms body _ _ hopen hname hbody hfresh =>
    rw [List.append_assoc, List.cons_append]
    refine hopen.append (wellNested_block hbody (hfresh name List.mem_cons_self)) ?_
    intro other hother hmem
    rcases List.mem_cons.mp hmem with heq | hmem
    · cases heq
      exact hname hother
    · rcases List.mem_append.mp hmem with hmem | hmem
      · exact hfresh other (List.mem_cons_of_mem _ hother) hmem
      · cases List.mem_singleton.mp hmem

theorem wellNested_of_leavesOpen (h : LeavesOpen ms []) : WellNested ms := by
  cases h with
  | closed hms => exact hms

/-- All that is open can be closed. -/
theorem LeavesOpen.viable (h : LeavesOpen before stack) : Viable before := by
  induction stack generalizing before with
  | nil => exact ⟨[], by simpa using wellNested_of_leavesOpen h⟩
  | cons name outer ih => exact (ih h.closes).of_append

/-- **One marker**: it is at fault, or it opens a block or closes the innermost one. -/
theorem LeavesOpen.fault_or_step (h : LeavesOpen before stack) (m : Marker) :
    (∃ e, Fault stack m e) ∨
      ∃ stack', LeavesOpen (before ++ [m]) stack' := by
  cases m with
  | opens name =>
    by_cases hname : name ∈ stack
    · exact .inl ⟨_, .nestedInItself hname⟩
    · exact .inr ⟨_, h.opens hname⟩
  | closes name =>
    by_cases hname : name ∈ stack
    · cases stack with
      | nil => cases hname
      | cons innermost others =>
        by_cases heq : name = innermost
        · subst heq
          exact .inr ⟨_, h.closes⟩
        · exact .inl ⟨_, .misnested heq ((List.mem_cons.mp hname).resolve_left heq)⟩
    · exact .inl ⟨_, .unmatchedClose hname⟩

/-- A marker at fault cannot be mended. -/
theorem LeavesOpen.not_viable_of_fault (h : LeavesOpen before stack) (hfault : Fault stack m e) :
    ¬ Viable (before ++ [m]) := by
  rintro ⟨more, hmore⟩
  have hok := hmore.validateMarkers_eq_ok
  rw [List.append_assoc, h.validateMarkers_append, List.singleton_append,
    validateMarkers_of_fault hfault] at hok
  cases hok

/-- **Markers can be continued exactly if they are derivable sequences with opened blocks between
them.**  The induction takes the last marker off. -/
theorem viable_iff_leavesOpen : Viable ms ↔ ∃ stack, LeavesOpen ms stack := by
  constructor
  · intro h
    induction ms using List.reverseRecOn with
    | nil => exact ⟨[], .closed .nil⟩
    | append_singleton before m ih =>
      obtain ⟨stack, hopen⟩ := ih h.of_append
      rcases hopen.fault_or_step m with ⟨e, hfault⟩ | hstep
      · exact absurd h (hopen.not_viable_of_fault hfault)
      · exact hstep
  · rintro ⟨stack, h⟩
    exact h.viable

/-! ## 4. Accepted and blamed -/

/-- The machine accepts only derivable markers, and it blames as it should.  The induction is on the
markers that are still to be read. -/
theorem LeavesOpen.outcome (h : LeavesOpen before stack) (rest : List Marker) :
    (validateMarkers stack rest = .ok () → WellNested (before ++ rest)) ∧
      ∀ e, validateMarkers stack rest = .error e → Blames (before ++ rest) e := by
  induction rest generalizing before stack with
  | nil =>
    rw [List.append_nil]
    constructor
    · intro hok
      obtain rfl := validateMarkers_nil_eq_ok_iff.mp hok
      exact wellNested_of_leavesOpen h
    · intro e herror
      obtain ⟨name, hlast, rfl⟩ := validateMarkers_nil_eq_error_iff.mp herror
      exact .unclosed h.viable h hlast
  | cons m rest ih =>
    rcases h.fault_or_step m with ⟨e', hfault⟩ | ⟨stack', hstep⟩
    · rw [validateMarkers_of_fault hfault]
      refine ⟨fun hok => (nomatch hok), fun e herror => ?_⟩
      obtain rfl := Except.error.inj herror
      exact .hopeless rfl h.viable (h.not_viable_of_fault hfault) h hfault
    · have hread := hstep.validateMarkers_append rest
      rw [List.append_assoc, List.singleton_append, h.validateMarkers_append] at hread
      rw [hread, ← List.singleton_append, ← List.append_assoc]
      exact ih hstep

theorem validateMarkers_eq_ok_iff : validateMarkers [] ms = .ok () ↔ WellNested ms := by
  constructor
  · exact (LeavesOpen.outcome (.closed .nil) ms).1
  · exact WellNested.validateMarkers_eq_ok

theorem validateMarkers_eq_error_iff : validateMarkers [] ms = .error e ↔ Blames ms e := by
  constructor
  · exact (LeavesOpen.outcome (.closed .nil) ms).2 e
  · intro h
    cases h with
    | hopeless heq _ _ hopen hfault =>
      rw [heq, hopen.validateMarkers_append, validateMarkers_of_fault hfault]
    | unclosed _ hopen hlast =>
      have hread := hopen.validateMarkers_append []
      rw [List.append_nil] at hread
      rw [hread]
      exact validateMarkers_nil_eq_error_iff.mpr ⟨_, hlast, rfl⟩

/-- **A template is accepted exactly if its block markers are derivable, and otherwise the right one
is blamed.**  The error is that of the first marker behind which nothing can make the markers
derivable: a block of an open name is opened, or one is closed that is not the innermost, or none of
the name is open.  If there is no such marker, the outermost block that is still open is blamed.
Nothing but the markers counts. -/
theorem validate_follows_grammar (template : String) :
    (validate template = .ok () ↔ WellNested (markers template)) ∧
      (∀ e, validate template = .error e ↔ Blames (markers template) e) ∧
      ∀ other, markers other = markers template → validate other = validate template := by
  refine ⟨?_, fun e => ?_, fun other hsame => ?_⟩
  · rw [validate_eq_validateMarkers, validateMarkers_eq_ok_iff]
  · rw [validate_eq_validateMarkers, validateMarkers_eq_error_iff]
  · rw [validate_eq_validateMarkers, validate_eq_validateMarkers, hsame]

/-- Placeholders and braces without a name around two markers. -/
theorem validate_follows_grammar_strayText :
    markers "{}{a}{#x}{b}{ }{/y}" = markers "{#x}{/y}" ∧
      validate "{}{a}{#x}{b}{ }{/y}" = validate "{#x}{/y}" ∧
      Blames (markers "{}{a}{#x}{b}{ }{/y}") (.unmatchedClose "y") := by
  have hmarkers : markers "{}{a}{#x}{b}{ }{/y}" = markers "{#x}{/y}" := by decide +kernel
  have herror : validate "{}{a}{#x}{b}{ }{/y}" = .error (.unmatchedClose "y") := by decide +kernel
  exact ⟨hmarkers, (validate_follows_grammar "{#x}{/y}").2.2 _ hmarkers,
    ((validate_follows_grammar _).2.1 _).mp herror⟩

end SqlGateway.Template
