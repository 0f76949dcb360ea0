/-
# Collecting: all rows or none

What `collectEnding` makes of a cursor, said in terms of what the cursor answers.  The reads of a
cursor are *undisturbed* as long as every one delivers a row of the right width and none cancels;
`Delivers` is a run of undisturbed reads.  Behind it stands either the end of the rows, or the first
thing that goes wrong.

* `collectEnding_of_delivers`: undisturbed reads put their rows in front, in order;
* `ends_opened_iff`: collecting comes to an end unless undisturbed reads follow each other for ever;
* `collect_faithful`: the result is all rows exactly if nothing goes wrong before the end, and
  otherwise the first thing that goes wrong.

A cancellation counts from the next call on.  A read that cancels and still delivers a row spoils
the collection, a read that cancels and tells the end does not.
-/
import SqlGateway.Row.Marshaler
import SqlGateway.Row.Script

namespace SqlGateway

variable {σ ε : Type}

/-! ## 1. What a cursor delivers -/

namespace Cursor

/-- From state `s` the next reads deliver `rows`, all of them `width` cells wide, and leave state
`s'`; nothing is cancelled meanwhile. -/
inductive Delivers (c : Cursor σ ε) (width : Nat) : σ → List (List Cell) → σ → Prop
  | nil (s : σ) : Delivers c width s [] s
  | cons {s s' s'' : σ} {cells : List Cell} {rows : List (List Cell)}
      (read : c.nextRow s = (.given (.ok (some cells)) false, s'))
      (fits : cells.length = width) (more : Delivers c width s' rows s'') :
      Delivers c width s (cells :: rows) s''

/-- The next read tells the end; it may cancel. -/
def IsOver (c : Cursor σ ε) (s : σ) : Prop :=
  ∃ cancels s', c.nextRow s = (.given (.ok none) cancels, s')

/-- What goes wrong with the next read. -/
inductive ReadFails (c : Cursor σ ε) (width : Nat) (s : σ) : MarshalError ε → Prop
  | withheld {s' : σ} (read : c.nextRow s = (.withheld, s')) : ReadFails c width s .cancelled
  | store {s' : σ} {e : ε} {cancels : Bool}
      (read : c.nextRow s = (.given (.error e) cancels, s')) : ReadFails c width s (.store e)
  | mismatch {s' : σ} {cells : List Cell} {cancels : Bool}
      (read : c.nextRow s = (.given (.ok (some cells)) cancels, s'))
      (misfits : cells.length ≠ width) :
      ReadFails c width s (.columnMismatch width cells.length)
  /-- The row came, but with it the cancellation, which the next call meets. -/
  | cancelled {s' : σ} {cells : List Cell}
      (read : c.nextRow s = (.given (.ok (some cells)) true, s'))
      (fits : cells.length = width) : ReadFails c width s .cancelled

/-- The columns are told, undisturbed. -/
def Names (c : Cursor σ ε) (s : σ) (columns : List String) (s' : σ) : Prop :=
  c.columns s = (.given (.ok columns) false, s')

/-- What goes wrong with asking for the columns. -/
inductive ColumnsFail (c : Cursor σ ε) (s : σ) : MarshalError ε → Prop
  | withheld {s' : σ} (asked : c.columns s = (.withheld, s')) : ColumnsFail c s .cancelled
  | store {s' : σ} {e : ε} {cancels : Bool}
      (asked : c.columns s = (.given (.error e) cancels, s')) : ColumnsFail c s (.store e)
  /-- The columns were told, but with them came the cancellation. -/
  | cancelled {s' : σ} {columns : List String}
      (asked : c.columns s = (.given (.ok columns) true, s')) : ColumnsFail c s .cancelled

/-- The first thing that goes wrong with the operation, which may be cancelled beforehand. -/
inductive FirstFailure (c : Cursor σ ε) (s : σ) : Bool → MarshalError ε → Prop
  | cancelledBefore : FirstFailure c s true .cancelled
  | columns {e : MarshalError ε} (fails : c.ColumnsFail s e) : FirstFailure c s false e
  | read {s₁ s₂ : σ} {columns : List String} {rows : List (List Cell)} {e : MarshalError ε}
      (asked : c.Names s columns s₁) (delivered : c.Delivers columns.length s₁ rows s₂)
      (fails : c.ReadFails columns.length s₂ e) : FirstFailure c s false e

/-- Everything there is: the columns and all rows up to the end. -/
def Completes (c : Cursor σ ε) (s : σ) (columns : List String) (rows : List (List Cell)) : Prop :=
  ∃ s₁ s₂, c.Names s columns s₁ ∧ c.Delivers columns.length s₁ rows s₂ ∧ c.IsOver s₂

/-- Undisturbed reads follow each other for ever. -/
def IsEndless (c : Cursor σ ε) (width : Nat) (s : σ) : Prop :=
  ∀ n, ∃ rows s', rows.length = n ∧ c.Delivers width s rows s'

theorem names_or_columnsFail (c : Cursor σ ε) (s : σ) :
    (∃ columns s', c.Names s columns s') ∨ ∃ e, c.ColumnsFail s e := by
  cases hasked : c.columns s with
  | mk answer s' =>
    match answer with
    | .given (.ok columns) false => exact .inl ⟨columns, s', hasked⟩
    | .withheld => exact .inr ⟨_, .withheld hasked⟩
    | .given (.error e) cancels => exact .inr ⟨_, .store hasked⟩
    | .given (.ok columns) true => exact .inr ⟨_, .cancelled hasked⟩

/-- The next read ends the run of undisturbed reads, one way or the other. -/
def IsLast (c : Cursor σ ε) (width : Nat) (s : σ) : Prop :=
  c.IsOver s ∨ ∃ e, c.ReadFails width s e

/-- A read is the last one, or it delivers a row undisturbed. -/
theorem isLast_or_read (c : Cursor σ ε) (width : Nat) (s : σ) :
    c.IsLast width s ∨ ∃ cells s',
      c.nextRow s = (.given (.ok (some cells)) false, s') ∧ cells.length = width := by
  cases hread : c.nextRow s with
  | mk answer s' =>
    match answer with
    | .withheld => exact .inl (.inr ⟨_, .withheld hread⟩)
    | .given (.error e) cancels => exact .inl (.inr ⟨_, .store hread⟩)
    | .given (.ok none) cancels => exact .inl (.inl ⟨cancels, s', hread⟩)
    | .given (.ok (some cells)) cancels =>
      by_cases hfits : cells.length = width
      · cases cancels with
        | false => exact .inr ⟨cells, s', rfl, hfits⟩
        | true => exact .inl (.inr ⟨_, .cancelled hread hfits⟩)
      · exact .inl (.inr ⟨_, .mismatch hread hfits⟩)

theorem not_isLast_of_read {c : Cursor σ ε} {width : Nat} {s s' : σ} {cells : List Cell}
    (read : c.nextRow s = (.given (.ok (some cells)) false, s')) (fits : cells.length = width) :
    ¬ c.IsLast width s := by
  rintro (⟨cancels, s'', hover⟩ | ⟨e, hfails⟩)
  · cases read.symm.trans hover
  · cases hfails with
    | withheld hread => cases read.symm.trans hread
    | store hread => cases read.symm.trans hread
    | mismatch hread misfits =>
      cases read.symm.trans hread
      exact misfits fits
    | cancelled hread _ => cases read.symm.trans hread

/-- Behind the last read there is nothing more to deliver. -/
theorem Delivers.length_le {c : Cursor σ ε} {width : Nat} {s s₁ s₂ : σ}
    {rows rows' : List (List Cell)} (hd : c.Delivers width s rows s₁) (hlast : c.IsLast width s₁)
    (hd' : c.Delivers width s rows' s₂) : rows'.length ≤ rows.length := by
  induction hd generalizing rows' with
  | nil s =>
    cases hd' with
    | nil => exact Nat.le_refl 0
    | cons read fits _ => exact absurd hlast (not_isLast_of_read read fits)
  | cons read _ _ ih =>
    cases hd' with
    | nil => exact Nat.zero_le _
    | cons read' _ more' =>
      cases read.symm.trans read'
      exact Nat.succ_le_succ (ih hlast more')

end Cursor

namespace Marshaler

variable {c : Cursor σ ε} {case : KeyCase} {names : List String} {s s' : σ}

/-! ## 2. One call -/

/-- A marshaler that has not asked for anything; the operation may be cancelled already. -/
def opened (case : KeyCase) (cancelled : Bool) (s : σ) : Marshaler σ :=
  { start case s with cancelled := cancelled }

/-- A marshaler that knows its names and has nothing against reading on. -/
def reading (case : KeyCase) (names : List String) (s : σ) : Marshaler σ :=
  ⟨s, case, false, some names, false⟩

theorem next_cancelled {m : Marshaler σ} (hdone : m.done = false)
    (hcancelled : m.cancelled = true) : m.next c = (.error .cancelled, { m with done := true }) := by
  simp [next, readRow, isRow, hdone, hcancelled]

variable (case) in
theorem next_reading_row {cells : List Cell} {cancels : Bool}
    (h : c.nextRow s = (.given (.ok (some cells)) cancels, s'))
    (hfits : cells.length = names.length) :
    (reading case names s).next c =
      (.ok (some (.ofCells names cells)), { reading case names s' with cancelled := cancels }) := by
  simp [next, readRow, askNames, askRow, reading, after, isRow, h, hfits]

variable (case) in
theorem next_reading_end (h : c.IsOver s) :
    ∃ m', (reading case names s).next c = (.ok none, m') := by
  obtain ⟨cancels, s', h⟩ := h
  simp [next, readRow, askNames, askRow, reading, h]

variable (case) in
/-- Once the names are told, a fresh marshaler goes on like one that knew them all along. -/
theorem next_opened {columns : List String} (h : c.Names s columns s') :
    (opened case false s).next c = (reading case (columns.map case.apply) s').next c := by
  have h : c.columns s = (.given (.ok columns) false, s') := h
  simp [next, readRow, askNames, opened, start, reading, after, h]

/-! ## 3. The whole collection -/

theorem collectEnding_of_error {m m' : Marshaler σ} {e : MarshalError ε}
    (hm : m.next c = (.error e, m')) (h : m.Ends c) :
    collectEnding c m h = (.error e, m') := by
  rw [collectEnding]
  split <;> simp_all

theorem collectEnding_of_end {m m' : Marshaler σ} (hm : m.next c = (.ok none, m'))
    (h : m.Ends c) : collectEnding c m h = (.ok [], m') := by
  rw [collectEnding]
  split <;> simp_all

theorem Ends.of_row {m m' : Marshaler σ} {row : ResultRow} (h : m.Ends c)
    (hm : m.next c = (.ok (some row), m')) : m'.Ends c :=
  h.inv ⟨row, hm⟩

theorem collectEnding_of_row {m m' : Marshaler σ} {row : ResultRow}
    (hm : m.next c = (.ok (some row), m')) (h : m.Ends c) (h' : m'.Ends c) :
    collectEnding c m h =
      ((collectEnding c m' h').1.map (row :: ·), (collectEnding c m' h').2) := by
  rw [collectEnding]
  split
  next hm' => simp_all
  next hm' => simp_all
  next hm' =>
    cases hm.symm.trans hm'
    rfl

/-- Only the next call counts. -/
theorem collectEnding_congr {m m' : Marshaler σ} (hm : m.next c = m'.next c) (h : m.Ends c)
    (h' : m'.Ends c) : collectEnding c m h = collectEnding c m' h' := by
  cases hnext : m'.next c with
  | mk outcome m'' =>
    rw [hnext] at hm
    match outcome with
    | .error e => rw [collectEnding_of_error hm, collectEnding_of_error hnext]
    | .ok none => rw [collectEnding_of_end hm, collectEnding_of_end hnext]
    | .ok (some row) =>
      rw [collectEnding_of_row hm h (h.of_row hm), collectEnding_of_row hnext h' (h.of_row hm)]

theorem ends_congr {m m' : Marshaler σ} (hm : m.next c = m'.next c) : m.Ends c ↔ m'.Ends c := by
  constructor <;> intro h <;> refine Acc.intro _ fun m'' ⟨row, hrow⟩ => h.inv ⟨row, ?_⟩
  · rw [hm, hrow]
  · rw [← hm, hrow]

/-- **Undisturbed reads put their rows in front, in order.** -/
theorem collectEnding_of_delivers {rows : List (List Cell)}
    (hd : c.Delivers names.length s rows s') (h : (reading case names s).Ends c) :
    ∃ h' : (reading case names s').Ends c, (collectEnding c (reading case names s) h).1 =
      (collectEnding c (reading case names s') h').1.map (rows.map (.ofCells names) ++ ·) := by
  induction hd with
  | nil s =>
    refine ⟨h, ?_⟩
    cases (collectEnding c (reading case names s) h).1 <;> rfl
  | @cons s s' s'' cells rows read fits more ih =>
    have hnext : (reading case names s).next c =
        (.ok (some (.ofCells names cells)), reading case names s') :=
      next_reading_row case read fits
    obtain ⟨h', heq⟩ := ih (h.of_row hnext)
    refine ⟨h', ?_⟩
    rw [collectEnding_of_row hnext h (h.of_row hnext), heq]
    cases (collectEnding c (reading case names s'') h').1 <;> rfl

theorem collectEnding_of_isOver (hover : c.IsOver s) (h : (reading case names s).Ends c) :
    (collectEnding c (reading case names s) h).1 = .ok [] := by
  obtain ⟨m', hnext⟩ := next_reading_end case hover
  rw [collectEnding_of_end hnext]

theorem collectEnding_of_readFails {e : MarshalError ε} (hfails : c.ReadFails names.length s e)
    (h : (reading case names s).Ends c) :
    (collectEnding c (reading case names s) h).1 = .error e := by
  -- all but the last of these is an error of the very next call
  have hnow : (∃ m', (reading case names s).next c = (.error e, m')) →
      (collectEnding c (reading case names s) h).1 = .error e := by
    rintro ⟨m', hnext⟩
    rw [collectEnding_of_error hnext]
  cases hfails with
  | withheld read => exact hnow (by simp [next, readRow, askNames, askRow, reading, read])
  | store read => exact hnow (by simp [next, readRow, askNames, askRow, reading, read])
  | mismatch read misfits =>
    exact hnow (by simp [next, readRow, askNames, askRow, reading, read, misfits])
  | cancelled read fits =>
    have hnext := next_reading_row case read fits
    rw [collectEnding_of_row hnext h (h.of_row hnext),
      collectEnding_of_error (next_cancelled rfl rfl)]
    rfl

/-! ## 4. Where collecting ends -/

theorem ends_of_next {m : Marshaler σ}
    (h : ∀ row m', m.next c = (.ok (some row), m') → m'.Ends c) : m.Ends c :=
  Acc.intro m fun m' ⟨row, hrow⟩ => h row m' hrow

theorem ends_of_error {m m' : Marshaler σ} {e : MarshalError ε} (hm : m.next c = (.error e, m')) :
    m.Ends c :=
  ends_of_next fun row m'' hrow => by cases hm.symm.trans hrow

theorem ends_of_isLast (h : c.IsLast names.length s) : (reading case names s).Ends c := by
  rcases h with hover | ⟨e, hfails⟩
  · obtain ⟨m', hm⟩ := next_reading_end case hover
    exact ends_of_next fun row m'' hrow => by cases hm.symm.trans hrow
  · refine ends_of_next fun row m' hrow => ?_
    cases hfails with
    | withheld read => simp [next, readRow, askNames, askRow, reading, read] at hrow
    | store read => simp [next, readRow, askNames, askRow, reading, read] at hrow
    | mismatch read misfits =>
      simp [next, readRow, askNames, askRow, reading, read, misfits] at hrow
    | cancelled read fits =>
      cases (next_reading_row case read fits).symm.trans hrow
      exact ends_of_error (next_cancelled rfl rfl)

theorem exists_delivers_of_ends (h : (reading case names s).Ends c) :
    ∃ rows s', c.Delivers names.length s rows s' ∧ c.IsLast names.length s' := by
  generalize hm : reading case names s = m at h
  induction h generalizing s with
  | intro m _ ih =>
    subst hm
    rcases c.isLast_or_read names.length s with hlast | ⟨cells, s', read, fits⟩
    · exact ⟨[], s, .nil s, hlast⟩
    · obtain ⟨rows, s'', hd, hlast⟩ := ih _ ⟨_, next_reading_row case read fits⟩ rfl
      exact ⟨cells :: rows, s'', .cons read fits hd, hlast⟩

/-- **Collecting comes to an end unless undisturbed reads follow each other for ever.** -/
theorem ends_reading_iff :
    (reading case names s).Ends c ↔ ¬ c.IsEndless names.length s := by
  constructor
  · intro h hendless
    obtain ⟨rows, s', hd, hlast⟩ := exists_delivers_of_ends h
    obtain ⟨rows', s'', hlength, hd'⟩ := hendless (rows.length + 1)
    have := hd.length_le hlast hd'
    omega
  · intro hendless
    refine Classical.byContradiction fun hends => hendless fun n => ?_
    clear hendless
    induction n generalizing s with
    | zero => exact ⟨[], s, rfl, .nil s⟩
    | succ n ih =>
      rcases c.isLast_or_read names.length s with hlast | ⟨cells, s', read, fits⟩
      · exact absurd (ends_of_isLast hlast) hends
      · have hmore : ¬ (reading case names s').Ends c := fun hmore =>
          hends (ends_of_next fun row m' hrow => by
            cases (next_reading_row case read fits).symm.trans hrow
            exact hmore)
        obtain ⟨rows, s'', rfl, hd⟩ := ih hmore
        exact ⟨cells :: rows, s'', rfl, .cons read fits hd⟩

/-! ## 5. The fresh marshaler -/

variable (case) in
theorem next_opened_of_columnsFail {e : MarshalError ε} (h : c.ColumnsFail s e) :
    ∃ m', (opened case false s).next c = (.error e, m') := by
  cases h with
  | withheld asked => simp [next, readRow, askNames, opened, start, asked]
  | store asked => simp [next, readRow, askNames, opened, start, asked]
  | cancelled asked => simp [next, readRow, askNames, askRow, opened, start, after, asked]

theorem collectEnding_of_firstFailure {cancelled : Bool} {e : MarshalError ε}
    (hf : c.FirstFailure s cancelled e) (h : (opened case cancelled s).Ends c) :
    (collectEnding c (opened case cancelled s) h).1 = .error e := by
  cases hf with
  | cancelledBefore => rw [collectEnding_of_error (next_cancelled rfl rfl)]
  | columns fails =>
    obtain ⟨m', hm⟩ := next_opened_of_columnsFail case fails
    rw [collectEnding_of_error hm]
  | read asked delivered fails =>
    have hnext := next_opened case asked
    have hreading := (ends_congr hnext).mp h
    rw [collectEnding_congr hnext h hreading]
    rw [← List.length_map (f := case.apply)] at delivered fails
    obtain ⟨h', heq⟩ := collectEnding_of_delivers delivered hreading
    rw [heq, collectEnding_of_readFails fails h']
    rfl

theorem collectEnding_of_completes {columns : List String} {rows : List (List Cell)}
    (hc : c.Completes s columns rows) (h : (opened case false s).Ends c) :
    (collectEnding c (opened case false s) h).1 =
      .ok (rows.map (.ofCells (columns.map case.apply))) := by
  obtain ⟨s₁, s₂, asked, delivered, hover⟩ := hc
  have hnext := next_opened case asked
  have hreading := (ends_congr hnext).mp h
  rw [collectEnding_congr hnext h hreading]
  rw [← List.length_map (f := case.apply)] at delivered
  obtain ⟨h', heq⟩ := collectEnding_of_delivers delivered hreading
  rw [heq, collectEnding_of_isOver hover h']
  exact congrArg _ (List.append_nil _)

/-- An operation that comes to an end is complete, or something goes wrong with it. -/
theorem completes_or_firstFailure {cancelled : Bool} (h : (opened case cancelled s).Ends c) :
    (cancelled = false ∧ ∃ columns rows, c.Completes s columns rows) ∨
      ∃ e, c.FirstFailure s cancelled e := by
  cases cancelled with
  | true => exact .inr ⟨_, .cancelledBefore⟩
  | false =>
    rcases c.names_or_columnsFail s with ⟨columns, s₁, asked⟩ | ⟨e, fails⟩
    · obtain ⟨rows, s₂, delivered, hlast⟩ :=
        exists_delivers_of_ends ((ends_congr (next_opened case asked)).mp h)
      rw [List.length_map] at delivered hlast
      rcases hlast with hover | ⟨e, fails⟩
      · exact .inl ⟨rfl, columns, rows, s₁, s₂, asked, delivered, hover⟩
      · exact .inr ⟨e, .read asked delivered fails⟩
    · exact .inr ⟨e, .columns fails⟩

theorem ends_opened_iff {cancelled : Bool} :
    (opened case cancelled s).Ends c ↔ ¬ (cancelled = false ∧
      ∃ columns s', c.Names s columns s' ∧ c.IsEndless columns.length s') := by
  cases cancelled with
  | true =>
    refine ⟨fun _ h => absurd h.1 Bool.noConfusion, fun _ => ?_⟩
    exact ends_of_error (next_cancelled rfl rfl)
  | false =>
    constructor
    · rintro h ⟨-, columns, s', asked, hendless⟩
      refine ends_reading_iff.mp ((ends_congr (next_opened case asked)).mp h) ?_
      rwa [List.length_map]
    · intro h
      rcases c.names_or_columnsFail s with ⟨columns, s', asked⟩ | ⟨e, fails⟩
      · refine (ends_congr (next_opened case asked)).mpr (ends_reading_iff.mpr fun hendless => ?_)
        rw [List.length_map] at hendless
        exact h ⟨rfl, columns, s', asked, hendless⟩
      · obtain ⟨m', hm⟩ := next_opened_of_columnsFail case fails
        exact ends_of_error hm

/-- **All rows or none.**  Collecting comes to an end unless rows are delivered for ever.  Its
result is the list of all rows exactly if the operation is not cancelled, the columns are told and
undisturbed reads lead to the end, each row made of what was delivered; in every other case it is
the first thing that goes wrong. -/
theorem collect_faithful (c : Cursor σ ε) (case : KeyCase) (cancelled : Bool) (s : σ) :
    ((opened case cancelled s).Ends c ↔ ¬ (cancelled = false ∧
      ∃ columns s', c.Names s columns s' ∧ c.IsEndless columns.length s')) ∧
    ∀ h : (opened case cancelled s).Ends c,
      (∀ result, (collectEnding c (opened case cancelled s) h).1 = .ok result ↔
        cancelled = false ∧ ∃ columns rows, c.Completes s columns rows ∧
          result = rows.map (.ofCells (columns.map case.apply))) ∧
      ∀ e, (collectEnding c (opened case cancelled s) h).1 = .error e ↔
        c.FirstFailure s cancelled e := by
  refine ⟨ends_opened_iff, fun h => ?_⟩
  rcases completes_or_firstFailure h with ⟨rfl, columns, rows, hc⟩ | ⟨e, hf⟩
  · have hresult := collectEnding_of_completes hc h
    refine ⟨fun result => ?_, fun e => ?_⟩
    · constructor
      · intro heq
        exact ⟨rfl, columns, rows, hc, Except.ok.inj (heq.symm.trans hresult)⟩
      · rintro ⟨-, columns', rows', hc', rfl⟩
        exact collectEnding_of_completes hc' h
    · constructor
      · intro heq
        cases heq.symm.trans hresult
      · exact fun hf => collectEnding_of_firstFailure hf h
  · have hresult := collectEnding_of_firstFailure hf h
    refine ⟨fun result => ?_, fun e' => ?_⟩
    · constructor
      · intro heq
        cases heq.symm.trans hresult
      · rintro ⟨rfl, columns, rows, hc, rfl⟩
        exact collectEnding_of_completes hc h
    · constructor
      · intro heq
        cases heq.symm.trans hresult
        exact hf
      · exact fun hf' => collectEnding_of_firstFailure hf' h

/-- Two rows; with the second comes the cancellation. -/
def spoiledScript : Script :=
  .ofAnswers (.given (.ok ["user_id"]) false)
    [.given (.ok (some [.text "1"])) false, .given (.ok (some [.text "2"])) true]

/-- Two rows; with the end comes the cancellation. -/
def finishedScript : Script :=
  .ofAnswers (.given (.ok ["user_id"]) false)
    [.given (.ok (some [.text "1"])) false, .given (.ok (some [.text "2"])) false,
      .given (.ok none) true]

theorem collect_faithful_scripts :
    (∃ h : (opened .lowerCamel false spoiledScript).Ends Script.cursor,
      (collectEnding Script.cursor _ h).1 = .error .cancelled) ∧
    ∃ h : (opened .lowerCamel false finishedScript).Ends Script.cursor,
      (collectEnding Script.cursor _ h).1 =
        .ok [[("userId", .string "1")], [("userId", .string "2")]] := by
  refine ⟨⟨ends_of_bounded _ _, ?_⟩, ⟨ends_of_bounded _ _, ?_⟩⟩
  · refine (((collect_faithful Script.cursor .lowerCamel false spoiledScript).2 _).2 _).mpr ?_
    exact .read rfl (.cons rfl rfl (.nil _)) (.cancelled rfl rfl)
  · refine (((collect_faithful Script.cursor .lowerCamel false finishedScript).2 _).1 _).mpr ?_
    exact ⟨rfl, ["user_id"], [[.text "1"], [.text "2"]],
      ⟨_, _, rfl, .cons rfl rfl (.cons rfl rfl (.nil _)), true, _, rfl⟩, rfl⟩

end Marshaler

end SqlGateway
