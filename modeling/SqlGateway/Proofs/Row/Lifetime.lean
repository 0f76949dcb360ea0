/-
# The lifetime of a marshaler

What a client can make a marshaler do: it asks for the next row, and it cancels the operation, in
any order and as often as it likes.  A lifetime is told as its *events*: the calls that the cursor
gets, the cancellations, and what the marshaler returns.  The calls are those that a cursor writes
into a journal, so they are counted where they arrive.

* `turn_next`: what one call of `next` can do, case by case;
* `pairwise_permits`: no event is followed by one that it rules out;
* `collectEnding_iff_outcomes`: collecting is asking for rows until there is none;
* `lifetime_orderly`: all of it together.

The names may be known although no row was read yet, because a cancellation came with them.  That
the columns are never asked for again does not depend on a row.
-/
import SqlGateway.Proofs.Row.Collection

namespace SqlGateway

variable {σ ε : Type}

/-! ## 1. Events -/

/-- A call of a cursor. -/
inductive CursorCall where
  | columns
  | row
deriving DecidableEq, Repr

/-- Whether the operation was cancelled during the call. -/
def Answer.cancels {α : Type} : Answer α → Bool
  | given _ cancels => cancels
  | withheld => true

namespace Marshaler

/-- What a call of `next` returns. -/
abbrev Outcome (ε : Type) := Except (MarshalError ε) (Option ResultRow)

/-- What happens in a lifetime. -/
inductive Event (ε : Type) where
  /-- The cursor is called. -/
  | called (call : CursorCall)
  /-- The operation is cancelled, by the client or during a call of the cursor. -/
  | cancelled
  /-- A call of `next` returns. -/
  | returned (outcome : Outcome ε)

/-- The cancellation, if there was one. -/
def noted (cancels : Bool) : List (Event ε) := if cancels then [.cancelled] else []

/-- A cursor that keeps a journal of the calls it gets. -/
def journaled (c : Cursor σ ε) : Cursor (σ × List (Event ε)) ε where
  columns s :=
    let (answer, s') := c.columns s.1
    (answer, s', s.2 ++ .called .columns :: noted answer.cancels)
  nextRow s :=
    let (answer, s') := c.nextRow s.1
    (answer, s', s.2 ++ .called .row :: noted answer.cancels)

/-- The marshaler with a journal in its cursor. -/
def onto (m : Marshaler σ) (journal : List (Event ε)) : Marshaler (σ × List (Event ε)) :=
  ⟨(m.cursor, journal), m.case, m.cancelled, m.names, m.done⟩

/-- What the cursor writes into an empty journal during the next call. -/
def calls (c : Cursor σ ε) (m : Marshaler σ) : List (Event ε) :=
  ((m.onto []).next (journaled c)).2.cursor.2

/-- What a client does. -/
inductive Move where
  | next
  | cancel
deriving DecidableEq, Repr

/-- The events of a lifetime, move by move. -/
def lifetime (c : Cursor σ ε) : List Move → Marshaler σ → List (List (Event ε))
  | [], _ => []
  | .cancel :: moves, m => [.cancelled] :: lifetime c moves m.cancel
  | .next :: moves, m =>
    (calls c m ++ [.returned (m.next c).1]) :: lifetime c moves (m.next c).2

/-- The marshaler after all moves. -/
def reached (c : Cursor σ ε) : List Move → Marshaler σ → Marshaler σ
  | [], m => m
  | .cancel :: moves, m => reached c moves m.cancel
  | .next :: moves, m => reached c moves (m.next c).2

/-- What repeated calls of `next` return. -/
def outcomes (c : Cursor σ ε) : Nat → Marshaler σ → List (Outcome ε)
  | 0, _ => []
  | n + 1, m => (m.next c).1 :: outcomes c n (m.next c).2

variable {c : Cursor σ ε}

/-! ## 2. The journal -/

/-- What asking for the names writes into the journal. -/
def columnCalls (c : Cursor σ ε) (m : Marshaler σ) : List (Event ε) :=
  if m.names = none then .called .columns :: noted (c.columns m.cursor).1.cancels else []

/-- What asking for a row writes into the journal. -/
def rowCalls (c : Cursor σ ε) (m : Marshaler σ) : List (Event ε) :=
  if m.cancelled then [] else .called .row :: noted (c.nextRow m.cursor).1.cancels

/-- What reading a row writes into the journal. -/
def readCalls (c : Cursor σ ε) (m : Marshaler σ) : List (Event ε) :=
  if m.cancelled then []
  else columnCalls c m ++
    match m.askNames c with
    | (.error _, _) => []
    | (.ok _, m') => rowCalls c m'

theorem askNames_onto (c : Cursor σ ε) (m : Marshaler σ) (journal : List (Event ε)) :
    (m.onto journal).askNames (journaled c) =
      ((m.askNames c).1, (m.askNames c).2.onto (journal ++ columnCalls c m)) := by
  obtain ⟨s, case, cancelled, names, done⟩ := m
  cases names with
  | some names => simp [askNames, onto, columnCalls]
  | none =>
    cases hasked : c.columns s with
    | mk answer s' =>
      cases answer with
      | withheld => simp [askNames, onto, columnCalls, journaled, after, hasked]
      | given told cancels =>
        cases told <;> simp [askNames, onto, columnCalls, journaled, after, hasked]

theorem askRow_onto (c : Cursor σ ε) (m : Marshaler σ) (names : List String)
    (journal : List (Event ε)) :
    (m.onto journal).askRow (journaled c) names =
      ((m.askRow c names).1, (m.askRow c names).2.onto (journal ++ rowCalls c m)) := by
  obtain ⟨s, case, cancelled, names', done⟩ := m
  cases cancelled with
  | true => simp [askRow, onto, rowCalls]
  | false =>
    cases hread : c.nextRow s with
    | mk answer s' =>
      cases answer with
      | withheld => simp [askRow, onto, rowCalls, journaled, after, hread]
      | given told cancels =>
        rcases told with e | _ | cells
        · simp [askRow, onto, rowCalls, journaled, after, hread]
        · simp [askRow, onto, rowCalls, journaled, after, hread]
        · by_cases hfits : cells.length = names.length <;>
            simp [askRow, onto, rowCalls, journaled, after, hread, hfits]

theorem readRow_onto (c : Cursor σ ε) (m : Marshaler σ) (journal : List (Event ε)) :
    (m.onto journal).readRow (journaled c) =
      ((m.readRow c).1, (m.readRow c).2.onto (journal ++ readCalls c m)) := by
  cases hcancelled : m.cancelled with
  | true => simp [readRow, readCalls, onto, hcancelled]
  | false =>
    have honto : (m.onto journal).cancelled = false := hcancelled
    simp only [readRow, readCalls, honto, hcancelled, askNames_onto]
    match m.askNames c with
    | (.error e, m') => simp
    | (.ok names, m') => simp [askRow_onto]

/-- **The journal changes nothing**, and what it says of a call does not depend on what it said
before. -/
theorem next_onto (c : Cursor σ ε) (m : Marshaler σ) (journal : List (Event ε)) :
    (m.onto journal).next (journaled c) =
      ((m.next c).1, (m.next c).2.onto (journal ++ if m.done then [] else readCalls c m)) := by
  cases hdone : m.done with
  | true => simp [next, onto, hdone]
  | false =>
    have honto : (m.onto journal).done = false := hdone
    simp only [next, honto, hdone, readRow_onto]
    rfl

theorem calls_eq (c : Cursor σ ε) (m : Marshaler σ) :
    calls c m = if m.done then [] else readCalls c m := by
  rw [calls, next_onto]
  rfl

theorem next_done {m : Marshaler σ} (hdone : m.done = true) : m.next c = (.ok none, m) := by
  simp [next, hdone]

theorem calls_done {m : Marshaler σ} (hdone : m.done = true) : calls c m = [] := by
  simp [calls_eq, hdone]

/-! ## 3. One move -/

/-- What one call of `next` can do to a marshaler, with the calls of the cursor and the outcome. -/
inductive Turn (m m' : Marshaler σ) : List (Event ε) → Outcome ε → Prop
  | idle (done : m.done = true) (same : m' = m) : Turn m m' [] (.ok none)
  | refused (cancelled : m.cancelled = true) (ended : m'.done = true) :
      Turn m m' [] (.error .cancelled)
  /-- The columns are asked for, and no row is. -/
  | columns {cancels : Bool} {e : MarshalError ε} (live : m.cancelled = false)
      (unnamed : m.names = none) (cancelled : m'.cancelled = cancels) (ended : m'.done = true) :
      Turn m m' (.called .columns :: noted cancels) (.error e)
  /-- A row is asked for. -/
  | row {cancels : Bool} {o : Outcome ε} (live : m.cancelled = false) (named : m.names ≠ none)
      (cancelled : m'.cancelled = cancels) (named' : m'.names = m.names)
      (ended : m'.done = !isRow o) : Turn m m' (.called .row :: noted cancels) o
  /-- First the columns are asked for, and then a row. -/
  | both {cancels : Bool} {o : Outcome ε} (live : m.cancelled = false) (unnamed : m.names = none)
      (cancelled : m'.cancelled = cancels) (named' : m'.names ≠ none)
      (ended : m'.done = !isRow o) :
      Turn m m' (.called .columns :: .called .row :: noted cancels) o

/-- What is asked for a row, the cursor is left with; the rest of the marshaler knows of the
cancellation only. -/
theorem askRow_snd {m : Marshaler σ} (hlive : m.cancelled = false) (names : List String) :
    (m.askRow c names).2 = m.after (c.nextRow m.cursor).2 (c.nextRow m.cursor).1.cancels := by
  cases hread : c.nextRow m.cursor with
  | mk answer s' =>
    match answer with
    | .withheld => simp [askRow, hlive, hread, Answer.cancels]
    | .given (.error e) cancels => simp [askRow, hlive, hread, Answer.cancels]
    | .given (.ok none) cancels => simp [askRow, hlive, hread, Answer.cancels]
    | .given (.ok (some cells)) cancels =>
      by_cases hfits : cells.length = names.length <;>
        simp [askRow, hlive, hread, hfits, Answer.cancels]

theorem turn_of_named {m : Marshaler σ} {names : List String} (hdone : m.done = false)
    (hlive : m.cancelled = false) (hnames : m.names = some names) :
    Turn m (m.next c).2 (calls c m) (m.next c).1 := by
  have hasked : m.askNames c = (.ok names, m) := by simp [askNames, hnames]
  have hnext : m.next c = ((m.askRow c names).1,
      { (m.askRow c names).2 with done := !isRow (m.askRow c names).1 }) := by
    simp [next, readRow, hdone, hlive, hasked]
  have hcalls : calls c m = .called .row :: noted (c.nextRow m.cursor).1.cancels := by
    simp [calls_eq, readCalls, columnCalls, rowCalls, hdone, hlive, hnames, hasked]
  rw [hnext, hcalls]
  have hsnd := askRow_snd (c := c) hlive names
  exact .row hlive (by simp [hnames]) (by simp [hsnd, after, hlive]) (by simp [hsnd, after]) rfl

theorem turn_of_unnamed {m : Marshaler σ} (hdone : m.done = false) (hlive : m.cancelled = false)
    (hnames : m.names = none) : Turn m (m.next c).2 (calls c m) (m.next c).1 := by
  cases hcolumns : c.columns m.cursor with
  | mk answer s' =>
    match answer with
    | .withheld =>
      have hcalls : calls c m = .called .columns :: noted true := by
        simp [calls_eq, readCalls, columnCalls, askNames, hdone, hlive, hnames, hcolumns,
          Answer.cancels]
      simp only [hcalls, next, readRow, askNames, hdone, hlive, hnames, hcolumns]
      exact .columns hlive hnames (by simp [after]) rfl
    | .given (.error e) cancels =>
      have hcalls : calls c m = .called .columns :: noted cancels := by
        simp [calls_eq, readCalls, columnCalls, askNames, hdone, hlive, hnames, hcolumns,
          Answer.cancels]
      simp only [hcalls, next, readRow, askNames, hdone, hlive, hnames, hcolumns]
      exact .columns hlive hnames (by simp [after, hlive]) rfl
    | .given (.ok columns) true =>
      have hcalls : calls c m = .called .columns :: noted true := by
        simp [calls_eq, readCalls, columnCalls, rowCalls, askNames, after, hdone, hlive, hnames,
          hcolumns, Answer.cancels]
      have hnext : (m.next c).1 = .error .cancelled ∧ (m.next c).2.cancelled = true ∧
          (m.next c).2.done = true := by
        simp [next, readRow, askNames, askRow, after, isRow, hdone, hlive, hnames, hcolumns]
      rw [hcalls, hnext.1]
      exact .columns hlive hnames hnext.2.1 hnext.2.2
    | .given (.ok columns) false =>
      -- from here on it is as if the names had been known
      obtain ⟨names, m', hasked, hlive', hnamed⟩ : ∃ names m', m.askNames c = (.ok names, m') ∧
          m'.cancelled = false ∧ m'.names ≠ none := by
        refine ⟨columns.map m.case.apply,
          { m.after s' false with names := some (columns.map m.case.apply) }, ?_, ?_, ?_⟩
        · simp [askNames, hnames, hcolumns]
        · simp [after, hlive]
        · simp
      have hnext : m.next c = ((m'.askRow c names).1,
          { (m'.askRow c names).2 with done := !isRow (m'.askRow c names).1 }) := by
        simp [next, readRow, hdone, hlive, hasked]
      have hcalls : calls c m =
          .called .columns :: .called .row :: noted (c.nextRow m'.cursor).1.cancels := by
        simp [calls_eq, readCalls, columnCalls, rowCalls, hdone, hlive, hlive', hnames, hasked,
          hcolumns, Answer.cancels, noted]
      rw [hnext, hcalls]
      have hsnd := askRow_snd (c := c) hlive' names
      exact .both hlive hnames (by simp [hsnd, after, hlive']) (by simp [hsnd, after, hnamed]) rfl

/-- **One call of `next`**, case by case. -/
theorem turn_next (c : Cursor σ ε) (m : Marshaler σ) :
    Turn m (m.next c).2 (calls c m) (m.next c).1 := by
  cases hdone : m.done with
  | true =>
    rw [next_done hdone, calls_done hdone]
    exact .idle hdone rfl
  | false =>
    cases hlive : m.cancelled with
    | true =>
      have hcalls : calls c m = [] := by simp [calls_eq, readCalls, hdone, hlive]
      rw [hcalls, next_cancelled hdone hlive]
      exact .refused hlive rfl
    | false =>
      cases hnames : m.names with
      | some names => exact turn_of_named hdone hlive hnames
      | none => exact turn_of_unnamed hdone hlive hnames

/-! ## 4. All moves -/

/-- What may come later, once an event has happened. -/
def Event.Permits : Event ε → Event ε → Prop
  | .called _, e => e ≠ .called .columns
  | .cancelled, e => ∀ call, e ≠ .called call
  | .returned (.ok (some _)), _ => True
  | .returned _, e => e = .cancelled ∨ e = .returned (.ok none)

theorem mem_noted {e : Event ε} {cancels : Bool} :
    e ∈ noted cancels ↔ e = .cancelled ∧ cancels = true := by
  cases cancels <;> simp [noted]

variable {moves : List Move} {m : Marshaler σ}

/-- What every move keeps and what rules the events of every move rules a whole lifetime. -/
theorem forall_mem_lifetime {P : Marshaler σ → Prop} {Q : Event ε → Prop}
    (hcancelled : Q .cancelled) (hcancel : ∀ m, P m → P m.cancel)
    (hnext : ∀ m, P m →
      P (m.next c).2 ∧ (∀ e ∈ calls c m, Q e) ∧ Q (.returned (m.next c).1)) (hm : P m) :
    ∀ e ∈ (lifetime c moves m).flatten, Q e := by
  induction moves generalizing m with
  | nil => exact fun e h => (nomatch h)
  | cons move moves ih =>
    cases move with
    | cancel =>
      intro e h
      rcases List.mem_cons.mp h with rfl | h
      · exact hcancelled
      · exact ih (hcancel m hm) e h
    | next =>
      intro e h
      obtain ⟨hkept, hcalls, hreturned⟩ := hnext m hm
      rw [lifetime, List.flatten_cons] at h
      rcases List.mem_append.mp h with h | h
      · rcases List.mem_append.mp h with h | h
        · exact hcalls e h
        · exact List.mem_singleton.mp h ▸ hreturned
      · exact ih hkept e h

/-- Behind the end there are cancellations and empty answers only. -/
theorem eq_of_mem_lifetime_of_done (hdone : m.done = true) :
    ∀ e ∈ (lifetime c moves m).flatten, e = .cancelled ∨ e = .returned (.ok none) := by
  refine forall_mem_lifetime (P := fun m => m.done = true) (.inl rfl) (fun _ h => h) ?_ hdone
  intro m hdone
  rw [next_done hdone, calls_done hdone]
  exact ⟨hdone, fun e h => (nomatch h), .inr rfl⟩

/-- Once the operation is cancelled the cursor is left alone. -/
theorem not_called_of_cancelled (hcancelled : m.cancelled = true) :
    ∀ e ∈ (lifetime c moves m).flatten, ∀ call, e ≠ .called call := by
  refine forall_mem_lifetime (P := fun m => m.cancelled = true) (fun _ h => nomatch h)
    (fun _ _ => rfl) ?_ hcancelled
  intro m hcancelled
  have hcalls : calls c m = [] := by simp [calls_eq, readCalls, hcancelled]
  refine ⟨?_, fun e h => (nomatch hcalls ▸ h), fun _ h => nomatch h⟩
  cases hdone : m.done with
  | true => rw [next_done hdone, hcancelled]
  | false => rw [next_cancelled hdone hcancelled, hcancelled]

/-- Once the names are known the columns are not asked for. -/
theorem not_called_columns_of_named (hnamed : m.names ≠ none) :
    ∀ e ∈ (lifetime c moves m).flatten, e ≠ .called .columns := by
  refine forall_mem_lifetime (P := fun m => m.names ≠ none ∨ m.done = true) (fun h => nomatch h)
    (fun _ h => h) ?_ (.inl hnamed)
  rintro m (hnamed | hdone)
  · have hturn := turn_next c m
    generalize (m.next c).2 = m', calls c m = events, (m.next c).1 = o at hturn ⊢
    refine ⟨?_, ?_, fun h => nomatch h⟩
    · cases hturn with
      | idle done same => exact .inr (same ▸ done)
      | refused cancelled ended => exact .inr ended
      | columns live unnamed => exact absurd unnamed hnamed
      | row live named cancelled named' ended => exact .inl (named' ▸ hnamed)
      | both live unnamed => exact absurd unnamed hnamed
    · cases hturn with
      | idle => exact fun e h => (nomatch h)
      | refused => exact fun e h => (nomatch h)
      | columns live unnamed => exact absurd unnamed hnamed
      | row live named => simp [mem_noted]
      | both live unnamed => exact absurd unnamed hnamed
  · rw [next_done hdone, calls_done hdone]
    exact ⟨.inr hdone, fun e h => (nomatch h), fun h => nomatch h⟩

theorem Event.permits_cancelled (e : Event ε) : e.Permits .cancelled := by
  match e with
  | .called _ => exact fun h => by cases h
  | .cancelled => exact fun _ h => by cases h
  | .returned (.ok (some _)) => trivial
  | .returned (.ok none) => exact .inl rfl
  | .returned (.error _) => exact .inl rfl

theorem Event.permits_end (e : Event ε) : e.Permits (.returned (.ok none)) := by
  match e with
  | .called _ => exact fun h => by cases h
  | .cancelled => exact fun _ h => by cases h
  | .returned (.ok (some _)) => trivial
  | .returned (.ok none) => exact .inr rfl
  | .returned (.error _) => exact .inr rfl

/-- What a turn leaves behind: the names are known, the cancellation has arrived, and an outcome
that is no row was the last one. -/
theorem Turn.left {m m' : Marshaler σ} {events : List (Event ε)} {o : Outcome ε}
    (h : Turn m m' events o) :
    (∀ call, .called call ∈ events → m'.names ≠ none ∨ m'.done = true) ∧
      (.cancelled ∈ events → m'.cancelled = true) ∧ (∀ o', .returned o' ∉ events) ∧
      (isRow o = false → m'.done = true) := by
  cases h with
  | idle done same => simp [same, done]
  | refused cancelled ended => simp [ended]
  | columns live unnamed cancelled ended => simp [mem_noted, cancelled, ended]
  | row live named cancelled named' ended =>
    simp only [cancelled, named', ended]
    simp [mem_noted, named]
  | both live unnamed cancelled named' ended => simp [mem_noted, cancelled, named', ended]

/-- Within a turn no event is followed by one that it rules out. -/
theorem Turn.pairwise_permits {m m' : Marshaler σ} {events : List (Event ε)} {o : Outcome ε}
    (h : Turn m m' events o) : (events ++ [Event.returned o]).Pairwise Event.Permits := by
  cases h with
  | idle => simp
  | refused => simp
  | @columns cancels => cases cancels <;> simp [noted, Event.Permits]
  | @row cancels => cases cancels <;> simp [noted, Event.Permits]
  | @both cancels => cases cancels <;> simp [noted, Event.Permits]

/-- **No event is followed by one that it rules out.** -/
theorem pairwise_permits (c : Cursor σ ε) (moves : List Move) (m : Marshaler σ) :
    (lifetime c moves m).flatten.Pairwise Event.Permits := by
  induction moves generalizing m with
  | nil => exact .nil
  | cons move moves ih =>
    cases move with
    | cancel =>
      rw [lifetime, List.flatten_cons, List.pairwise_append]
      refine ⟨List.pairwise_singleton _ _, ih m.cancel, ?_⟩
      intro e he e' he'
      rw [List.mem_singleton] at he
      subst he
      exact not_called_of_cancelled (m := m.cancel) rfl e' he'
    | next =>
      have hturn := turn_next c m
      rw [lifetime, List.flatten_cons, List.pairwise_append]
      refine ⟨hturn.pairwise_permits, ih (m.next c).2, ?_⟩
      obtain ⟨hcalled, hcancelled, hreturned, hlast⟩ := hturn.left
      intro e he e' he'
      have hdone : (m.next c).2.done = true → e.Permits e' := by
        intro hdone
        rcases eq_of_mem_lifetime_of_done hdone e' he' with rfl | rfl
        · exact e.permits_cancelled
        · exact e.permits_end
      rcases List.mem_append.mp he with hevent | hlast'
      · match e with
        | .called call =>
          rcases hcalled call hevent with hnamed | hover
          · exact not_called_columns_of_named hnamed e' he'
          · exact hdone hover
        | .cancelled =>
          exact not_called_of_cancelled (hcancelled hevent) e' he'
        | .returned o => exact absurd hevent (hreturned o)
      · rw [List.mem_singleton] at hlast'
        subst hlast'
        cases ho : (m.next c).1 with
        | error err => exact ho ▸ hdone (hlast (by rw [ho]; rfl))
        | ok row? =>
          cases row? with
          | none => exact ho ▸ hdone (hlast (by rw [ho]; rfl))
          | some row => trivial

/-- No row is read before the columns were asked for. -/
theorem exists_columns_before_row (hnames : m.names = none)
    (hrow : .called .row ∈ (lifetime c moves m).flatten) :
    ∃ before after, (lifetime c moves m).flatten = before ++ .called .columns :: after ∧
      .called .row ∉ before := by
  induction moves generalizing m with
  | nil => cases hrow
  | cons move moves ih =>
    cases move with
    | cancel =>
      rcases List.mem_cons.mp hrow with heq | hrow
      · cases heq
      · obtain ⟨before, after, heq, hbefore⟩ := ih (m := m.cancel) hnames hrow
        refine ⟨.cancelled :: before, after, congrArg (Event.cancelled :: ·) heq, ?_⟩
        simpa using hbefore
    | next =>
      have hturn := turn_next c m
      rw [lifetime, List.flatten_cons] at hrow ⊢
      generalize (m.next c).2 = m', calls c m = events, (m.next c).1 = o at hturn hrow ⊢
      -- a turn without a call of the cursor was the last one to do anything
      have hquiet : m'.done = true → events = [] → False := by
        rintro hdone rfl
        have hmem : .called .row ∈ (lifetime c moves m').flatten := by simpa using hrow
        have := eq_of_mem_lifetime_of_done hdone _ hmem
        simp at this
      cases hturn with
      | idle done same => exact (hquiet (by rw [same]; exact done) rfl).elim
      | refused cancelled ended => exact (hquiet ended rfl).elim
      | columns => exact ⟨[], _, rfl, List.not_mem_nil⟩
      | row live named => exact absurd hnames named
      | both => exact ⟨[], _, rfl, List.not_mem_nil⟩

/-- At most one row is read at a move. -/
theorem pairwise_row_of_mem_lifetime {turn : List (Event ε)} (h : turn ∈ lifetime c moves m) :
    turn.Pairwise fun e e' => e = .called .row → e' ≠ .called .row := by
  induction moves generalizing m with
  | nil => cases h
  | cons move moves ih =>
    cases move with
    | cancel =>
      rcases List.mem_cons.mp h with rfl | h
      · exact List.pairwise_singleton _ _
      · exact ih h
    | next =>
      rcases List.mem_cons.mp h with rfl | h
      · have hturn := turn_next c m
        generalize (m.next c).2 = m', calls c m = events, (m.next c).1 = o at hturn ⊢
        cases hturn with
        | idle => simp
        | refused => simp
        | @columns cancels => cases cancels <;> simp [noted]
        | @row cancels => cases cancels <;> simp [noted]
        | @both cancels => cases cancels <;> simp [noted]
      · exact ih h

/-! ## 5. Collecting and asking -/

/-- Rows up to an outcome that is none are collected, or that outcome is the error. -/
theorem collectEnding_of_outcomes {rows : List ResultRow} {last : Outcome ε}
    (hlast : isRow last = false) (h : m.Ends c)
    (hrows : outcomes c (rows.length + 1) m = rows.map (.ok ∘ some) ++ [last]) :
    (collectEnding c m h).1 = last.map fun _ => rows := by
  induction rows generalizing m with
  | nil =>
    have hnext : m.next c = (last, (m.next c).2) := Prod.ext (List.cons.inj hrows).1 rfl
    match last with
    | .ok none =>
      rw [collectEnding_of_end hnext]
      rfl
    | .error e =>
      rw [collectEnding_of_error hnext]
      rfl
  | cons row rows ih =>
    obtain ⟨hfirst, hrest⟩ := List.cons.inj hrows
    have hnext : m.next c = (.ok (some row), (m.next c).2) := Prod.ext hfirst rfl
    rw [collectEnding_of_row hnext h (h.of_row hnext), ih _ hrest]
    cases last <;> rfl

/-- Where collecting ends, so do the rows. -/
theorem exists_outcomes_of_ends (h : m.Ends c) :
    ∃ (rows : List ResultRow) (last : Outcome ε), isRow last = false ∧
      outcomes c (rows.length + 1) m = rows.map (.ok ∘ some) ++ [last] := by
  induction h with
  | intro m _ ih =>
    cases hnext : m.next c with
    | mk o m' =>
      match o with
      | .error e => exact ⟨[], .error e, rfl, by simp [outcomes, hnext]⟩
      | .ok none => exact ⟨[], .ok none, rfl, by simp [outcomes, hnext]⟩
      | .ok (some row) =>
        obtain ⟨rows, last, hlast, heq⟩ := ih m' ⟨row, hnext⟩
        refine ⟨row :: rows, last, hlast, ?_⟩
        rw [List.length_cons, outcomes, hnext, heq]
        rfl

theorem ends_of_outcomes {rows : List ResultRow} {last : Outcome ε} (hlast : isRow last = false)
    (hrows : outcomes c (rows.length + 1) m = rows.map (.ok ∘ some) ++ [last]) : m.Ends c := by
  induction rows generalizing m with
  | nil =>
    refine ends_of_next fun row m' hrow => ?_
    have hfirst : (m.next c).1 = last := (List.cons.inj hrows).1
    rw [← hfirst, hrow] at hlast
    cases hlast
  | cons row rows ih =>
    obtain ⟨hfirst, hrest⟩ := List.cons.inj hrows
    refine ends_of_next fun row' m' hrow => ?_
    rw [hrow] at hrest
    exact ih hrest

/-- Collecting is asking for rows until there is none: it comes to an end exactly where the rows
do, and tells all rows or the error that came in place of one. -/
theorem collectEnding_iff_outcomes (c : Cursor σ ε) (m : Marshaler σ) :
    (m.Ends c ↔ ∃ (rows : List ResultRow) (last : Outcome ε), isRow last = false ∧
      outcomes c (rows.length + 1) m = rows.map (.ok ∘ some) ++ [last]) ∧
    ∀ h : m.Ends c,
      (∀ rows, (collectEnding c m h).1 = .ok rows ↔
        outcomes c (rows.length + 1) m = rows.map (.ok ∘ some) ++ [.ok none]) ∧
      ∀ e, (collectEnding c m h).1 = .error e ↔
        ∃ rows : List ResultRow,
          outcomes c (rows.length + 1) m = rows.map (.ok ∘ some) ++ [.error e] := by
  refine ⟨⟨exists_outcomes_of_ends, fun ⟨rows, last, hlast, h⟩ => ends_of_outcomes hlast h⟩,
    fun h => ?_⟩
  obtain ⟨rows, last, hlast, hrows⟩ := exists_outcomes_of_ends h
  have hresult := collectEnding_of_outcomes hlast h hrows
  refine ⟨fun rows' => ⟨fun heq => ?_, collectEnding_of_outcomes rfl h⟩,
    fun e => ⟨fun heq => ?_, fun ⟨rows', hrows'⟩ => collectEnding_of_outcomes rfl h hrows'⟩⟩
  · match last with
    | .ok none =>
      cases hresult.symm.trans heq
      exact hrows
    | .error e => cases hresult.symm.trans heq
  · match last with
    | .ok none => cases hresult.symm.trans heq
    | .error e' =>
      cases hresult.symm.trans heq
      exact ⟨rows, hrows⟩

/-! ## 6. Orderly lifetimes -/

/-- What holds of the events of a lifetime in their order. -/
structure Orderly (events : List (Event ε)) : Prop where
  /-- The columns are asked for at most once, -/
  columns_once : events.Pairwise fun e e' => e = .called .columns → e' ≠ .called .columns
  /-- and before any row is read. -/
  columns_first : .called .row ∈ events →
    ∃ before after, events = before ++ .called .columns :: after ∧ .called .row ∉ before
  /-- Behind the first outcome that is no row there are no rows, no errors and no calls. -/
  end_once : events.Pairwise fun e e' => ∀ o, e = .returned o → isRow o = false →
    (∀ call, e' ≠ .called call) ∧ ∀ o', e' = .returned o' → o' = .ok none
  /-- Once the operation is cancelled the cursor is not called. -/
  cancelled_once : events.Pairwise fun e e' => e = .cancelled → ∀ call, e' ≠ .called call
  /-- At most one error is returned. -/
  error_once : events.Pairwise fun e e' => ∀ err err', e = .returned (.error err) →
    e' ≠ .returned (.error err')

theorem Event.Permits.of_last {e : Event ε} {o : Outcome ε} (hlast : isRow o = false)
    (h : (Event.returned o).Permits e) : e = .cancelled ∨ e = .returned (.ok none) := by
  match o with
  | .ok none => exact h
  | .error _ => exact h

theorem orderly_lifetime (hnames : m.names = none) : Orderly (lifetime c moves m).flatten := by
  have hpermits := pairwise_permits c moves m
  refine ⟨?_, exists_columns_before_row hnames, ?_, ?_, ?_⟩
  · exact hpermits.imp fun h heq => by
      subst heq
      exact h
  · refine hpermits.imp fun h o heq hlast => ?_
    subst heq
    rcases h.of_last hlast with rfl | rfl
    · exact ⟨fun call heq => (nomatch heq), fun o' heq => (nomatch heq)⟩
    · exact ⟨fun call heq => (nomatch heq), fun o' heq => (Event.returned.inj heq).symm⟩
  · exact hpermits.imp fun h heq => by
      subst heq
      exact h
  · refine hpermits.imp fun h err err' heq heq' => ?_
    subst heq heq'
    rcases h.of_last rfl with h | h <;> cases h

/-- **The lifetime of a marshaler is orderly**, whatever the client does and whatever the cursor
answers.  A move reads at most one row, the journal in which the calls are counted changes nothing,
and collecting with a fresh marshaler is asking it for rows until there is none. -/
theorem lifetime_orderly (c : Cursor σ ε) (case : KeyCase) (s : σ) :
    (∀ moves, Orderly (lifetime c moves (start case s)).flatten ∧
      ∀ turn ∈ lifetime c moves (start case s),
        turn.Pairwise fun e e' => e = .called .row → e' ≠ .called .row) ∧
    (∀ (m : Marshaler σ) journal, (m.onto journal).next (journaled c) =
      ((m.next c).1, (m.next c).2.onto (journal ++ calls c m))) ∧
    ∀ cancelled, ((opened case cancelled s).Ends c ↔
        ∃ (rows : List ResultRow) (last : Outcome ε), isRow last = false ∧
          outcomes c (rows.length + 1) (opened case cancelled s) =
            rows.map (.ok ∘ some) ++ [last]) ∧
      ∀ h : (opened case cancelled s).Ends c,
        (∀ rows, (collectEnding c (opened case cancelled s) h).1 = .ok rows ↔
          outcomes c (rows.length + 1) (opened case cancelled s) =
            rows.map (.ok ∘ some) ++ [.ok none]) ∧
        ∀ e, (collectEnding c (opened case cancelled s) h).1 = .error e ↔
          ∃ rows : List ResultRow, outcomes c (rows.length + 1) (opened case cancelled s) =
            rows.map (.ok ∘ some) ++ [.error e] := by
  refine ⟨fun moves => ⟨orderly_lifetime rfl, fun turn => pairwise_row_of_mem_lifetime⟩, ?_, ?_⟩
  · intro m journal
    rw [next_onto, calls_eq]
  · intro cancelled
    exact collectEnding_iff_outcomes c (opened case cancelled s)

theorem lifetime_orderly_spoiledScript :
    Orderly (lifetime Script.cursor [.next, .next, .next, .next]
      (start .lowerCamel spoiledScript)).flatten ∧
    (opened .lowerCamel false spoiledScript).Ends Script.cursor ∧
    (collectEnding Script.cursor (opened .lowerCamel false spoiledScript)
      (ends_of_bounded _ _)).1 = .error .cancelled := by
  have h := lifetime_orderly Script.cursor .lowerCamel spoiledScript
  refine ⟨(h.1 _).1, ends_of_bounded _ _, (((h.2.2 false).2 _).2 _).mpr ?_⟩
  exact ⟨[[("userId", .string "1")], [("userId", .string "2")]], rfl⟩

end Marshaler

end SqlGateway
