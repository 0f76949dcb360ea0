/-
# Looking ahead loses nothing

A peeking cursor pulls a row before anyone has asked for it.  Here is what that does to the rows:
whatever calls are made, in whatever order, a row that was pulled is handed out once, in its turn.
A failure that is met while looking ahead belongs to the call that looks, and the row behind it is
still to come.

The account is kept in *polls*: every time a call turns to the store it notes what it got, which is
a delivery or, from a silent store, nothing.  What is at the *front* is what the next call meets.

* `meets`: what one call does, case by case;
* `conserved_step`: a row that a call pulls is handed out or kept;
* `of_exhausted`: behind the end nothing happens any more;
* `stopsAtFailure_next`: a marshaler does not call a cursor that has failed;
* `lookahead_lossless`: all of it together.
-/
import SqlGateway.Proofs.Row.Members
import SqlGateway.Row.Peeking
import Mathlib.Data.List.ReduceOption

namespace SqlGateway

variable {σ ρ ε : Type}

/-! ## 1. Calls of a cursor -/

namespace Cursor

/-- The state that a call leaves. -/
def step (c : Cursor σ ε) (s : σ) : CursorCall → σ
  | .columns => (c.columns s).2
  | .row => (c.nextRow s).2

/-- The state after calls that are made one after the other. -/
def after (c : Cursor σ ε) (calls : List CursorCall) (s : σ) : σ := calls.foldl c.step s

/-- The call is answered with a failure. -/
def Fails (c : Cursor σ ε) (s : σ) : CursorCall → Prop
  | .columns => ∃ e cancels, (c.columns s).1 = .given (.error e) cancels
  | .row => ∃ e cancels, (c.nextRow s).1 = .given (.error e) cancels

/-- Behind a call that fails there is no other. -/
def StopsAtFailure (c : Cursor σ ε) : List CursorCall → σ → Prop
  | [], _ => True
  | call :: calls, s => (c.Fails s call → calls = []) ∧ c.StopsAtFailure calls (c.step s call)

theorem after_append (c : Cursor σ ε) (calls more : List CursorCall) (s : σ) :
    c.after (calls ++ more) s = c.after more (c.after calls s) :=
  List.foldl_append

end Cursor

/-- The answer with `f` applied to what it tells. -/
def Answer.andThen {α β : Type} (a : Answer (Except ε α)) (f : α → Except ε β) :
    Answer (Except ε β) :=
  match a with
  | .given told cancels => .given (told.bind f) cancels
  | .withheld => .withheld

namespace Peeking

/-! ## 2. The front and the polls -/

/-- What the next call meets: a row, the end, a failure, or silence. -/
def front (p : Peeking ρ ε) : Answer (Except ε (Option ρ)) :=
  match p.peeked with
  | some r => .given (.ok (some r)) false
  | none => p.pull.1

/-- What a call meets that got `poll` from the store. -/
def met : Option (Delivery ρ ε) → Answer (Except ε (Option ρ))
  | none => .withheld
  | some (.row r) => .given (.ok (some r)) false
  | some (.failed e) => .given (.error e) false
  | some .finished => .given (.ok none) false

/-- The row at the front, if there is one. -/
def frontRow? (p : Peeking ρ ε) : Option ρ :=
  match p.front with
  | .given (.ok r?) _ => r?
  | _ => none

/-- What the next call gets from the store: one delivery, or nothing if the store is silent.  The
list is empty if the call does not turn to the store. -/
def polls (p : Peeking ρ ε) : List (Option (Delivery ρ ε)) :=
  if p.peeked.isSome || p.exhausted then [] else [p.upcoming.head?]

/-- What calls get from the store, one after the other. -/
def polled (reader : RowReader ρ ε) : List CursorCall → Peeking ρ ε → List (Option (Delivery ρ ε))
  | [], _ => []
  | call :: calls, p => p.polls ++ polled reader calls ((cursor reader).step p call)

/-- The row that a call hands out, in a list. -/
def handed (p : Peeking ρ ε) : CursorCall → List ρ
  | .columns => []
  | .row => p.frontRow?.toList

/-- The rows that calls hand out, one after the other. -/
def handedOut (reader : RowReader ρ ε) : List CursorCall → Peeking ρ ε → List ρ
  | [], _ => []
  | call :: calls, p => p.handed call ++ handedOut reader calls ((cursor reader).step p call)

/-- The rows among what the store delivered. -/
def rowsOf (polls : List (Option (Delivery ρ ε))) : List ρ :=
  polls.filterMap fun
    | some (.row r) => some r
    | _ => none

/-- The cursor with other deliveries to come. -/
def awaiting (p : Peeking ρ ε) (upcoming : List (Delivery ρ ε)) : Peeking ρ ε :=
  { p with upcoming := upcoming }

/-- The call goes the same way whatever the store is about to deliver, and takes nothing of it. -/
def Ignores (reader : RowReader ρ ε) (p : Peeking ρ ε) : CursorCall → Prop
  | .columns => ∀ upcoming, (p.awaiting upcoming).columns reader =
      ((p.columns reader).1, (p.columns reader).2.awaiting upcoming)
  | .row => ∀ upcoming, (p.awaiting upcoming).nextRow reader =
      ((p.nextRow reader).1, (p.nextRow reader).2.awaiting upcoming)

variable {reader : RowReader ρ ε} {p : Peeking ρ ε} {calls : List CursorCall}

/-! ## 3. One call -/

/-- What a call does to a cursor, whether it asks for the columns or for a row: what it gets from
the store, what it meets, and for both calls the answer and the cursor that is left. -/
inductive Meets (reader : RowReader ρ ε) : Peeking ρ ε → List (Option (Delivery ρ ε)) →
    Answer (Except ε (Option ρ)) → Answer (Except ε (List String)) × Peeking ρ ε →
    Answer (Except ε (Option (List Cell))) × Peeking ρ ε → Prop
  | peeked (r : ρ) (upcoming : List (Delivery ρ ε)) (exhausted : Bool) :
      Meets reader ⟨upcoming, some r, exhausted⟩ [] (.given (.ok (some r)) false)
        (.given (.ok (reader.columnNames r)) false, ⟨upcoming, some r, exhausted⟩)
        (.given ((reader.cells r).map some) false, ⟨upcoming, none, exhausted⟩)
  | spent (upcoming : List (Delivery ρ ε)) :
      Meets reader ⟨upcoming, none, true⟩ [] (.given (.ok none) false)
        (.given (.ok []) false, ⟨upcoming, none, true⟩)
        (.given (.ok none) false, ⟨upcoming, none, true⟩)
  | silent :
      Meets reader ⟨[], none, false⟩ [none] .withheld (.withheld, ⟨[], none, false⟩)
        (.withheld, ⟨[], none, false⟩)
  | row (r : ρ) (rest : List (Delivery ρ ε)) :
      Meets reader ⟨.row r :: rest, none, false⟩ [some (.row r)] (.given (.ok (some r)) false)
        (.given (.ok (reader.columnNames r)) false, ⟨rest, some r, false⟩)
        (.given ((reader.cells r).map some) false, ⟨rest, none, false⟩)
  | failed (e : ε) (rest : List (Delivery ρ ε)) :
      Meets reader ⟨.failed e :: rest, none, false⟩ [some (.failed e)] (.given (.error e) false)
        (.given (.error e) false, ⟨rest, none, false⟩)
        (.given (.error e) false, ⟨rest, none, false⟩)
  | finished (rest : List (Delivery ρ ε)) :
      Meets reader ⟨.finished :: rest, none, false⟩ [some .finished] (.given (.ok none) false)
        (.given (.ok []) false, ⟨rest, none, true⟩) (.given (.ok none) false, ⟨rest, none, true⟩)

/-- **One call**, case by case. -/
theorem meets (reader : RowReader ρ ε) (p : Peeking ρ ε) :
    Meets reader p p.polls p.front (p.columns reader) (p.nextRow reader) := by
  obtain ⟨upcoming, peeked, exhausted⟩ := p
  cases peeked with
  | some r => exact .peeked r upcoming exhausted
  | none =>
    cases exhausted with
    | true => exact .spent upcoming
    | false =>
      match upcoming with
      | [] => exact .silent
      | .row r :: rest => exact .row r rest
      | .failed e :: rest => exact .failed e rest
      | .finished :: rest => exact .finished rest

/-- A row that is asked for is the one at the front, read. -/
theorem nextRow_fst (reader : RowReader ρ ε) (p : Peeking ρ ε) :
    (p.nextRow reader).1 = p.front.andThen (Option.mapM reader.cells) := by
  have hmeets := meets reader p
  generalize p.nextRow reader = row, p.front = front at hmeets ⊢
  cases hmeets <;> rfl

/-- The columns are those of the row at the front. -/
theorem columns_fst (reader : RowReader ρ ε) (p : Peeking ρ ε) :
    (p.columns reader).1 = p.front.andThen fun r? => .ok (r?.elim [] reader.columnNames) := by
  have hmeets := meets reader p
  generalize p.columns reader = columns, p.front = front at hmeets ⊢
  cases hmeets <;> rfl

/-- **A call turns to the store exactly if it matters what the store delivers.** -/
theorem polls_eq_nil_iff (reader : RowReader ρ ε) (p : Peeking ρ ε) (call : CursorCall) :
    p.polls = [] ↔ p.Ignores reader call := by
  obtain ⟨upcoming, peeked, exhausted⟩ := p
  cases peeked with
  | some r => exact iff_of_true rfl (by cases call <;> exact fun _ => rfl)
  | none =>
    cases exhausted with
    | true => exact iff_of_true rfl (by cases call <;> exact fun _ => rfl)
    | false =>
      refine iff_of_false (fun h => nomatch h) fun h => ?_
      -- silence and the end are told apart
      cases call with
      | columns =>
        exact nomatch (congrArg Prod.fst (h [])).trans (congrArg Prod.fst (h [.finished])).symm
      | row =>
        exact nomatch (congrArg Prod.fst (h [])).trans (congrArg Prod.fst (h [.finished])).symm

/-- Asking for the columns again, once they were told, changes nothing. -/
theorem columns_again {names : List String} {cancels : Bool}
    (h : (p.columns reader).1 = .given (.ok names) cancels) :
    (p.columns reader).2.columns reader = p.columns reader ∧
      (p.columns reader).2.front = p.front := by
  have hmeets := meets reader p
  generalize p.columns reader = columns, p.front = front at hmeets h ⊢
  cases hmeets with
  | silent => cases h
  | failed e rest => cases h
  | peeked r upcoming exhausted => exact ⟨rfl, rfl⟩
  | spent upcoming => exact ⟨rfl, rfl⟩
  | row r rest => exact ⟨rfl, rfl⟩
  | finished rest => exact ⟨rfl, rfl⟩

/-- Once told, the columns can be asked for any number of times. -/
theorem after_replicate_columns {names : List String} {cancels : Bool} (n : Nat)
    (h : (p.columns reader).1 = .given (.ok names) cancels) :
    (cursor reader).after (.replicate n .columns) (p.columns reader).2 = (p.columns reader).2 := by
  induction n with
  | zero => rfl
  | succ n ih =>
    have hagain : (cursor reader).step (p.columns reader).2 .columns = (p.columns reader).2 :=
      congrArg Prod.snd (columns_again h).1
    rw [List.replicate_succ, Cursor.after, List.foldl_cons, hagain]
    exact ih

/-! ## 4. All calls -/

theorem rowsOf_append (polls more : List (Option (Delivery ρ ε))) :
    rowsOf (polls ++ more) = rowsOf polls ++ rowsOf more :=
  List.filterMap_append

/-- What a call gets from the store is what the store was about to deliver. -/
theorem pulled_step (reader : RowReader ρ ε) (p : Peeking ρ ε) (call : CursorCall) :
    p.polls.reduceOption ++ ((cursor reader).step p call).upcoming = p.upcoming := by
  cases call with
  | columns => cases meets reader p <;> rfl
  | row => cases meets reader p <;> rfl

theorem pulled_after (reader : RowReader ρ ε) (calls : List CursorCall) (p : Peeking ρ ε) :
    (polled reader calls p).reduceOption ++ ((cursor reader).after calls p).upcoming =
      p.upcoming := by
  induction calls generalizing p with
  | nil => rfl
  | cons call calls ih =>
    rw [polled, List.reduceOption_append, List.append_assoc]
    exact (congrArg (p.polls.reduceOption ++ ·) (ih _)).trans (pulled_step reader p call)

/-- **A row that a call pulls is handed out or kept**, and never before one that was kept. -/
theorem conserved_step (reader : RowReader ρ ε) (p : Peeking ρ ε) (call : CursorCall) :
    p.handed call ++ ((cursor reader).step p call).peeked.toList =
      p.peeked.toList ++ rowsOf p.polls := by
  cases call with
  | columns => cases meets reader p <;> rfl
  | row => cases meets reader p <;> rfl

/-- The rows handed out and the one that is kept are the rows pulled, in their order. -/
theorem conserved_after (reader : RowReader ρ ε) (calls : List CursorCall) (p : Peeking ρ ε) :
    handedOut reader calls p ++ ((cursor reader).after calls p).peeked.toList =
      p.peeked.toList ++ rowsOf (polled reader calls p) := by
  induction calls generalizing p with
  | nil => exact (List.append_nil _).symm
  | cons call calls ih =>
    calc handedOut reader (call :: calls) p ++
          ((cursor reader).after (call :: calls) p).peeked.toList
      _ = p.handed call ++ (handedOut reader calls ((cursor reader).step p call) ++
            ((cursor reader).after calls ((cursor reader).step p call)).peeked.toList) :=
          List.append_assoc ..
      _ = p.handed call ++ ((cursor reader).step p call).peeked.toList ++
            rowsOf (polled reader calls ((cursor reader).step p call)) := by
          rw [ih, List.append_assoc]
      _ = p.peeked.toList ++ rowsOf (polled reader (call :: calls) p) := by
          rw [conserved_step, polled, rowsOf_append, List.append_assoc]

/-! ## 5. The end and failures -/

/-- The store has told its end exactly if it had before or tells it now. -/
theorem exhausted_step (reader : RowReader ρ ε) (p : Peeking ρ ε) (call : CursorCall) :
    ((cursor reader).step p call).exhausted = true ↔
      p.exhausted = true ∨ some .finished ∈ p.polls := by
  cases call with
  | columns => cases meets reader p <;> simp [polls, cursor, Cursor.step, columns, pull]
  | row => cases meets reader p <;> simp [polls, cursor, Cursor.step, nextRow, pull]

theorem exhausted_after (reader : RowReader ρ ε) (calls : List CursorCall) (p : Peeking ρ ε) :
    ((cursor reader).after calls p).exhausted = true ↔
      p.exhausted = true ∨ some .finished ∈ polled reader calls p := by
  induction calls generalizing p with
  | nil => exact (or_iff_left List.not_mem_nil).symm
  | cons call calls ih =>
    rw [polled, List.mem_append, ← or_assoc, ← exhausted_step reader p call]
    exact ih _

/-- A cursor whose store has told its end holds no row. -/
def Settled (p : Peeking ρ ε) : Prop := p.exhausted = true → p.peeked = none

theorem Settled.step (h : p.Settled) (call : CursorCall) :
    ((cursor reader).step p call).Settled := by
  cases call with
  | columns => cases meets reader p <;> simp_all [Settled, cursor, Cursor.step, columns, pull]
  | row => cases meets reader p <;> simp_all [Settled, cursor, Cursor.step, nextRow, pull]

theorem Settled.after (h : p.Settled) (calls : List CursorCall) :
    ((cursor reader).after calls p).Settled := by
  induction calls generalizing p with
  | nil => exact h
  | cons call calls ih => exact ih (h.step call)

/-- **Behind the end nothing happens any more.** -/
theorem of_exhausted (reader : RowReader ρ ε) (h : p.Settled) (hend : p.exhausted = true) :
    p.polls = [] ∧ p.columns reader = (.given (.ok []) false, p) ∧
      p.nextRow reader = (.given (.ok none) false, p) := by
  obtain ⟨upcoming, peeked, exhausted⟩ := p
  obtain rfl : exhausted = true := hend
  obtain rfl : peeked = none := h rfl
  exact ⟨rfl, rfl, rfl⟩

theorem polled_eq_nil (hend : p.exhausted = true) : polled reader calls p = [] := by
  induction calls generalizing p with
  | nil => rfl
  | cons call calls ih =>
    have hpolls : p.polls = [] := by simp [polls, hend]
    rw [polled, hpolls, ih ((exhausted_step reader p call).mpr (.inl hend)), List.append_nil]

/-- What a call gets from the store is at most one thing. -/
theorem pairwise_polls (p : Peeking ρ ε)
    (R : Option (Delivery ρ ε) → Option (Delivery ρ ε) → Prop) : p.polls.Pairwise R := by
  rw [polls]
  split
  · exact .nil
  · exact List.pairwise_singleton R _

/-- The store is not asked again once it has told its end. -/
theorem end_last (reader : RowReader ρ ε) (calls : List CursorCall) (p : Peeking ρ ε) :
    (polled reader calls p).Pairwise fun poll _ => poll ≠ some .finished := by
  induction calls generalizing p with
  | nil => exact .nil
  | cons call calls ih =>
    rw [polled, List.pairwise_append]
    refine ⟨pairwise_polls p _, ih _, fun poll hpoll later hlater hend => ?_⟩
    subst hend
    rw [polled_eq_nil ((exhausted_step reader p call).mpr (.inr hpoll))] at hlater
    exact List.not_mem_nil hlater

/-- A call that turns to the store meets what it gets there. -/
theorem front_eq_of_mem_polls {poll : Option (Delivery ρ ε)} (reader : RowReader ρ ε)
    (h : poll ∈ p.polls) : p.front = met poll := by
  have hmeets := meets reader p
  generalize p.polls = polls, p.front = front at hmeets h ⊢
  cases hmeets with
  | peeked r upcoming exhausted => exact nomatch h
  | spent upcoming => exact nomatch h
  | silent => exact List.mem_singleton.mp h ▸ rfl
  | row r rest => exact List.mem_singleton.mp h ▸ rfl
  | failed e rest => exact List.mem_singleton.mp h ▸ rfl
  | finished rest => exact List.mem_singleton.mp h ▸ rfl

/-- A failure is told by the call that gets it from the store, and by no other. -/
theorem failed_mem_polls_iff {e : ε} (reader : RowReader ρ ε) :
    some (.failed e) ∈ p.polls ↔ p.front = .given (.error e) false := by
  refine ⟨front_eq_of_mem_polls reader, fun h => ?_⟩
  have hmeets := meets reader p
  generalize p.polls = polls, p.front = front at hmeets h ⊢
  cases hmeets with
  | failed e' rest =>
    cases h
    exact List.mem_singleton_self _
  | peeked r upcoming exhausted => cases h
  | spent upcoming => cases h
  | silent => cases h
  | row r rest => cases h
  | finished rest => cases h

/-- The call that gets a failure from the store is answered with it. -/
theorem fails_of_failed_mem_polls {e : ε} (h : some (.failed e) ∈ p.polls) (call : CursorCall) :
    (cursor reader).Fails p call := by
  have hfront := (failed_mem_polls_iff reader).mp h
  cases call with
  | columns => exact ⟨e, false, by rw [cursor, columns_fst, hfront]; rfl⟩
  | row => exact ⟨e, false, by rw [cursor, nextRow_fst, hfront]; rfl⟩

/-- Calls of which none follows a failed one do not turn to the store after a failure. -/
theorem failure_last {calls : List CursorCall} (h : (cursor reader).StopsAtFailure calls p) :
    (polled reader calls p).Pairwise fun poll _ => ∀ e, poll ≠ some (.failed e) := by
  induction calls generalizing p with
  | nil => exact .nil
  | cons call calls ih =>
    obtain ⟨hlast, hstops⟩ := h
    rw [polled, List.pairwise_append]
    refine ⟨pairwise_polls p _, ih hstops, fun poll hpoll later hlater e hfailed => ?_⟩
    subst hfailed
    rw [hlast (fails_of_failed_mem_polls hpoll call)] at hlater
    exact List.not_mem_nil hlater

/-! ## 6. Whatever calls are made -/

/-- What the next call comes to, and what it does to the cursor. -/
structure Serves (reader : RowReader ρ ε) (p : Peeking ρ ε) : Prop where
  /-- A call turns to the store exactly if it matters what the store delivers, -/
  turns : ∀ call, p.polls = [] ↔ p.Ignores reader call
  /-- and then it meets what it gets there. -/
  meets : ∀ poll ∈ p.polls, p.front = met poll
  /-- The row is the one at the front, with its cells or with the failure to read them. -/
  row : (p.nextRow reader).1 = p.front.andThen (Option.mapM reader.cells)
  /-- The columns are those of the row at the front, and none at the end. -/
  columns : (p.columns reader).1 = p.front.andThen fun r? => .ok (r?.elim [] reader.columnNames)
  /-- However often the columns are asked for, the front stays as it is. -/
  again : ∀ names cancels, (p.columns reader).1 = .given (.ok names) cancels → ∀ n,
    let p' := (cursor reader).after (.replicate n .columns) (p.columns reader).2
    p'.columns reader = p.columns reader ∧ p'.front = p.front
  /-- A failure of the store is told by the call that got it, whichever call that is. -/
  failed : ∀ e, some (.failed e) ∈ p.polls →
    (p.columns reader).1 = .given (.error e) false ∧ (p.nextRow reader).1 = .given (.error e) false

theorem serves (reader : RowReader ρ ε) (p : Peeking ρ ε) : p.Serves reader := by
  refine ⟨polls_eq_nil_iff reader p, fun _ => front_eq_of_mem_polls reader, nextRow_fst reader p,
    columns_fst reader p, fun names cancels htold n => ?_, fun e hfailed => ?_⟩
  · rw [after_replicate_columns n htold]
    exact columns_again htold
  · have hfront : p.front = .given (.error e) false := front_eq_of_mem_polls reader hfailed
    rw [columns_fst, nextRow_fst, hfront]
    exact ⟨rfl, rfl⟩

/-- What calls have done with a stream of deliveries, and what the cursor `p` that they left will
do. -/
structure Lossless (reader : RowReader ρ ε) (stream : List (Delivery ρ ε))
    (calls : List CursorCall) (p : Peeking ρ ε) : Prop where
  /-- What was got from the store is gone from the stream, and nothing else is. -/
  pulled : (polled reader calls (ofDeliveries stream)).reduceOption ++ p.upcoming = stream
  /-- The rows that were handed out and the one that is kept are those that were pulled. -/
  rows : handedOut reader calls (ofDeliveries stream) ++ p.peeked.toList =
    rowsOf (polled reader calls (ofDeliveries stream))
  serves : p.Serves reader
  /-- The store was not asked again once it had told its end, -/
  end_last : (polled reader calls (ofDeliveries stream)).Pairwise fun poll _ =>
    poll ≠ some .finished
  /-- and it will not be: there are no columns and no rows any more. -/
  ended : some .finished ∈ polled reader calls (ofDeliveries stream) →
    p.polls = [] ∧ p.columns reader = (.given (.ok []) false, p) ∧
      p.nextRow reader = (.given (.ok none) false, p)

theorem lossless (reader : RowReader ρ ε) (stream : List (Delivery ρ ε)) (calls : List CursorCall) :
    Lossless reader stream calls ((cursor reader).after calls (ofDeliveries stream)) := by
  refine ⟨pulled_after reader calls _, conserved_after reader calls _, serves reader _,
    end_last reader calls _, fun hend => of_exhausted reader ?_ ?_⟩
  · exact Settled.after (p := ofDeliveries stream) (fun h => nomatch h) calls
  · exact (exhausted_after reader calls _).mpr (.inr hend)

/-- The store fails when it is asked for the columns, and the rows behind the failure all come. -/
example : handedOut (⟨fun _ => ["n"], fun n => .ok [.int n]⟩ : RowReader Int String)
    [.columns, .columns, .row, .row, .row]
    (ofDeliveries [.failed "gone", .row 1, .row 2, .finished]) = [1, 2] := by
  rfl

end Peeking

/-! ## 7. Calls of a marshaler -/

namespace Marshaler

/-- The call that an event is. -/
def Event.call? : Event ε → Option CursorCall
  | .called call => some call
  | _ => none

/-- The calls among the events. -/
def cursorCalls (events : List (Event ε)) : List CursorCall := events.filterMap Event.call?

@[simp]
theorem cursorCalls_append (events more : List (Event ε)) :
    cursorCalls (events ++ more) = cursorCalls events ++ cursorCalls more :=
  List.filterMap_append

@[simp]
theorem cursorCalls_noted (cancels : Bool) : cursorCalls (noted cancels : List (Event ε)) = [] := by
  cases cancels <;> rfl

@[simp]
theorem cursorCalls_turn (events : List (Event ε)) (o : Outcome ε) :
    cursorCalls (events ++ [.returned o]) = cursorCalls events := by
  rw [cursorCalls_append]
  exact List.append_nil _

variable {c : Cursor σ ε} {m m₁ : Marshaler σ} {names : List String} {later : List CursorCall}

theorem cursorCalls_columnCalls (c : Cursor σ ε) (m : Marshaler σ) :
    cursorCalls (columnCalls c m) = if m.names = none then [.columns] else [] := by
  rw [columnCalls]
  split
  · exact congrArg (CursorCall.columns :: ·) (cursorCalls_noted _)
  · rfl

theorem cursorCalls_rowCalls (c : Cursor σ ε) (m : Marshaler σ) :
    cursorCalls (rowCalls c m) = if m.cancelled then [] else [.row] := by
  rw [rowCalls]
  split
  · rfl
  · exact congrArg (CursorCall.row :: ·) (cursorCalls_noted _)

/-- What asking for the names does to the cursor. -/
theorem cursor_askNames (c : Cursor σ ε) (m : Marshaler σ) :
    (m.askNames c).2.cursor = c.after (cursorCalls (columnCalls c m)) m.cursor := by
  rw [cursorCalls_columnCalls, askNames]
  cases hnames : m.names with
  | some names => rfl
  | none =>
    cases hcolumns : c.columns m.cursor with
    | mk answer s' =>
      have hstep : c.after [.columns] m.cursor = s' := congrArg Prod.snd hcolumns
      rw [if_pos rfl, hstep]
      rcases answer with ⟨e | columns, cancels⟩ | _
      · rfl
      · rfl
      · rfl

/-- What asking for a row does to the cursor. -/
theorem cursor_askRow (c : Cursor σ ε) (names : List String) (m : Marshaler σ) :
    (m.askRow c names).2.cursor = c.after (cursorCalls (rowCalls c m)) m.cursor := by
  rw [cursorCalls_rowCalls]
  cases hlive : m.cancelled with
  | true => simp [askRow, hlive, Cursor.after]
  | false =>
    rw [askRow_snd hlive]
    rfl

/-- A call of `next` that is neither behind the end nor cancelled calls the cursor for the names, if
they are not known, and then for a row, if there are names. -/
theorem calls_live (hdone : m.done = false) (hlive : m.cancelled = false) :
    calls c m = columnCalls c m ++
      match m.askNames c with
      | (.error _, _) => []
      | (.ok _, m') => rowCalls c m' := by
  rw [calls_eq, readCalls, hdone, hlive]
  rfl

/-- The calls of the cursor are all that happens to it. -/
theorem cursor_next (c : Cursor σ ε) (m : Marshaler σ) :
    (m.next c).2.cursor = c.after (cursorCalls (calls c m)) m.cursor := by
  cases hdone : m.done with
  | true =>
    rw [next_done hdone, calls_done hdone]
    rfl
  | false =>
    cases hlive : m.cancelled with
    | true =>
      have hcalls : calls c m = [] := by simp [calls_eq, readCalls, hlive]
      rw [next_cancelled hdone hlive, hcalls]
      rfl
    | false =>
      have hnamed := cursor_askNames c m
      rcases next_live (c := c) hdone hlive with ⟨e, m₁, hasked, hnext⟩ | ⟨names, m₁, hasked, hnext⟩
      · rw [calls_live hdone hlive, hnext, hasked, List.append_nil, ← hnamed, hasked]
      · rw [calls_live hdone hlive, hnext, hasked, cursorCalls_append, Cursor.after_append,
          ← hnamed, hasked]
        exact cursor_askRow c names m₁

theorem cursor_reached (c : Cursor σ ε) (moves : List Move) (m : Marshaler σ) :
    (m.reached c moves).cursor = c.after (cursorCalls (lifetime c moves m).flatten) m.cursor := by
  induction moves generalizing m with
  | nil => rfl
  | cons move moves ih =>
    cases move with
    | cancel => exact ih m.cancel
    | next =>
      rw [lifetime, List.flatten_cons, cursorCalls_append, cursorCalls_turn, Cursor.after_append,
        ← cursor_next]
      exact ih _

/-- A read that fails brings no row. -/
theorem isRow_askRow_of_fails (hlive : m.cancelled = false) (h : c.Fails m.cursor .row)
    (names : List String) : isRow (m.askRow c names).1 = false := by
  obtain ⟨e, cancels, h⟩ := h
  cases hread : c.nextRow m.cursor with
  | mk answer s' =>
    obtain rfl : answer = .given (.error e) cancels := (congrArg Prod.fst hread).symm.trans h
    simp [askRow, hlive, hread, isRow]

/-- No call follows a read that failed, if none follows where there was no row. -/
theorem stopsAtFailure_askRow (hlater : c.StopsAtFailure later (m.askRow c names).2.cursor)
    (hlast : isRow (m.askRow c names).1 = false → later = []) :
    c.StopsAtFailure (cursorCalls (rowCalls c m) ++ later) m.cursor := by
  rw [cursorCalls_rowCalls]
  cases hlive : m.cancelled with
  | true =>
    rw [hlast (by simp [askRow, hlive, isRow])]
    trivial
  | false =>
    rw [askRow_snd hlive] at hlater
    exact ⟨fun hfails => hlast (isRow_askRow_of_fails hlive hfails names), hlater⟩

/-- No call follows a failure to tell the columns: where there are names, there was none. -/
theorem stopsAtFailure_askNames (hasked : m.askNames c = (.ok names, m₁))
    (hlater : c.StopsAtFailure later m₁.cursor) :
    c.StopsAtFailure (cursorCalls (columnCalls c m) ++ later) m.cursor := by
  obtain ⟨-, -, hknown | ⟨hnone, columns, cancels, htold, -⟩⟩ := askNames_eq_ok hasked
  · have hsame : m₁ = m := by simp_all [askNames]
    rw [cursorCalls_columnCalls, hknown]
    exact hsame ▸ hlater
  · rw [cursorCalls_columnCalls, if_pos hnone]
    constructor
    · rintro ⟨e, cancels', hfails⟩
      rw [htold] at hfails
      cases hfails
    · show c.StopsAtFailure later (c.columns m.cursor).2
      rw [htold]
      exact hlater

/-- **A call that fails is the last one** of a call of `next` and of everything behind it. -/
theorem stopsAtFailure_next (hlater : c.StopsAtFailure later (m.next c).2.cursor)
    (hlast : (m.next c).2.done = true → later = []) :
    c.StopsAtFailure (cursorCalls (calls c m) ++ later) m.cursor := by
  cases hdone : m.done with
  | true =>
    rw [hlast (by rw [next_done hdone, hdone]), calls_done hdone]
    trivial
  | false =>
    cases hlive : m.cancelled with
    | true =>
      have hcalls : calls c m = [] := by simp [calls_eq, readCalls, hlive]
      rw [hlast (by rw [next_cancelled hdone hlive]), hcalls]
      trivial
    | false =>
      rcases next_live (c := c) hdone hlive with ⟨e, m₁, hasked, hnext⟩ | ⟨names, m₁, hasked, hnext⟩
      -- there are no names, so this was the last call, whether it failed or was cancelled
      · rw [hlast (by rw [hnext]), calls_live hdone hlive, hasked, List.append_nil, List.append_nil,
          cursorCalls_columnCalls]
        split
        · exact ⟨fun _ => rfl, trivial⟩
        · trivial
      · rw [hnext] at hlater hlast
        rw [calls_live hdone hlive, hasked, cursorCalls_append, List.append_assoc]
        refine stopsAtFailure_askNames hasked (stopsAtFailure_askRow hlater fun hrow => hlast ?_)
        simp [hrow]

/-- No call follows one that failed, in a whole lifetime. -/
theorem stopsAtFailure_lifetime (c : Cursor σ ε) (moves : List Move) (m : Marshaler σ) :
    c.StopsAtFailure (cursorCalls (lifetime c moves m).flatten) m.cursor := by
  induction moves generalizing m with
  | nil => trivial
  | cons move moves ih =>
    cases move with
    | cancel => exact ih m.cancel
    | next =>
      rw [lifetime, List.flatten_cons, cursorCalls_append, cursorCalls_turn]
      refine stopsAtFailure_next (ih _) fun hdone => ?_
      refine List.filterMap_eq_nil_iff.mpr fun e he => ?_
      rcases eq_of_mem_lifetime_of_done hdone e he with rfl | rfl
      · rfl
      · rfl

end Marshaler

namespace Peeking

open Marshaler in
/-- **Looking ahead loses no row, repeats none and changes no order**, whatever a store delivers and
whatever calls are made.  The calls that a marshaler makes are among these; it makes none behind a
call that failed or behind an error that it told, so that the store is not asked again after a
failure. -/
theorem lookahead_lossless (reader : RowReader ρ ε) (stream : List (Delivery ρ ε)) :
    (∀ calls, Lossless reader stream calls
      ((cursor reader).after calls (ofDeliveries stream))) ∧
    ∀ case moves,
      let m := start case (ofDeliveries stream)
      let events := (lifetime (cursor reader) moves m).flatten
      (m.reached (cursor reader) moves).cursor =
          (cursor reader).after (cursorCalls events) (ofDeliveries stream) ∧
        (cursor reader).StopsAtFailure (cursorCalls events) (ofDeliveries stream) ∧
        ((polled reader (cursorCalls events) (ofDeliveries stream)).Pairwise fun poll _ =>
          ∀ e, poll ≠ some (.failed e)) ∧
        events.Pairwise fun e e' => ∀ err, e = .returned (.error err) →
          ∀ call, e' ≠ .called call := by
  refine ⟨lossless reader stream, fun case moves => ?_⟩
  have hstops := stopsAtFailure_lifetime (cursor reader) moves (start case (ofDeliveries stream))
  refine ⟨cursor_reached (cursor reader) moves _, hstops, failure_last hstops, ?_⟩
  refine (orderly_lifetime rfl).end_once.imp fun hlast err heq => ?_
  exact (hlast (.error err) heq rfl).1

end Peeking

end SqlGateway
