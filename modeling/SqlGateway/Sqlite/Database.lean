/-
# A SQLite database

Tables with rows, each row under an integer key.  Statements are carried out one after the other; a
statement that fails changes nothing.

* A table has at most one column that *is* the key; without one the key is hidden.  A primary
  column that is not the key has no value twice, null apart.
* A key that is not given is one above the largest key.  If there is none above it, any free key
  may be taken: here the least positive one.  A table that counts up remembers the largest key it
  ever gave, and never gives it again, so it may be full.
* The key of the last row inserted is remembered over all tables, and survives a failure, even of
  the statement that inserted it.
* Of two faults of one row a missing value is told before a taken key, and a key that is no integer
  before both.
-/
import SqlGateway.Row.Peeking
import SqlGateway.Sqlite.Evaluation
import SqlGateway.Store.Error

namespace SqlGateway.Sqlite

/-! ## 1. Tables -/

/-- A row of a table. -/
structure StoredRow where
  key : Int
  values : List Value
deriving DecidableEq, Repr

/-- A table; the rows are in the order of their keys. -/
structure Table where
  name : String
  columns : List ColumnSpec
  rows : List StoredRow
  /-- The largest key under which a row was ever inserted. -/
  largestKey : Int
deriving DecidableEq, Repr

namespace Table

/-- The place of the column that is the key. -/
def keyIndex? (t : Table) : Option Nat := t.columns.findIdx? (·.isKey)

/-- The scope of a row. -/
def scope (t : Table) (params values : List Value) : Scope := ⟨t.columns, values, params⟩

/-- The least positive key that is free. -/
def leastFreeKey (t : Table) : Int :=
  let candidates : List Nat := List.range' 1 (t.rows.length + 1)
  let isTaken (k : Nat) : Bool := t.rows.any fun r => r.key == (k : Int)
  (candidates.find? fun k => !isTaken k).getD 1

/-- The key for a row that does not give one. -/
def freshKey (t : Table) : Except Fault Int :=
  let largest := (t.rows.getLast?.map (·.key)).getD 0
  let countsUp := t.columns.any (·.countsUp)
  let largest := if countsUp then max largest t.largestKey else largest
  if largest < 0x8000000000000000 - 1 then .ok (largest + 1)
  else if countsUp then .error .full
  else .ok t.leastFreeKey

/-- The key that a value says. -/
def keyOf (v : Value) : Except Fault Int :=
  match Affinity.integer.apply v with
  | .int n => .ok n
  | _ => .error .keyMismatch

/-- Refuses a row with a null where a value is required. -/
def checkRequired (t : Table) (values : List Value) : Except Fault Unit :=
  match (t.columns.zip values).find? fun (c, v) => c.required && !c.isKey && v == .null with
  | some (c, _) => .error (.missingValue t.name c.name)
  | none => .ok ()

/-- The rows with one more, in the order of the keys. -/
def place (r : StoredRow) : List StoredRow → List StoredRow
  | [] => [r]
  | s :: more => if r.key < s.key then r :: s :: more else s :: place r more

/-- Whether two rows have one value, which is not null, at a place. -/
def clash (i : Nat) (r s : StoredRow) : Bool :=
  match r.values[i]?, s.values[i]? with
  | some v, some w => v != .null && v.order w == .eq
  | _, _ => false

/-- Puts a row under a key that is free, if no value is taken that only one row may have. -/
def put (t : Table) (r : StoredRow) : Except Fault Table :=
  if t.rows.any (·.key == r.key) then
    let column := (t.columns.find? (·.isKey)).elim "rowid" (·.name)
    .error (.takenKey t.name column)
  else
    let taken (i : Nat) (c : ColumnSpec) : Bool := c.isPrimary && t.rows.any (clash i r)
    match t.columns.zipIdx.find? fun (c, i) => taken i c with
    | some (c, _) => .error (.takenKey t.name c.name)
    | none => .ok { t with rows := place r t.rows }

/-- The values as the columns hold them. -/
def held (t : Table) (values : List Value) : List Value :=
  t.columns.zipWith (fun c v => c.affinity.apply v) values

/-- The values with the key in its column. -/
def withKey (t : Table) (key : Int) (values : List Value) : List Value :=
  match t.keyIndex? with
  | some i => values.set i (.int key)
  | none => values

/-- Inserts a row; the key is told too. -/
def insertRow (t : Table) (values : List Value) : Except Fault (Table × Int) := do
  let key ←
    match t.keyIndex?.bind (values[·]?) with
    | none => t.freshKey
    | some .null => t.freshKey
    | some v => keyOf v
  let values := t.withKey key (t.held values)
  t.checkRequired values
  let t ← t.put ⟨key, values⟩
  return ({ t with largestKey := max t.largestKey key }, key)

/-- Gives a row other values. -/
def updateRow (t : Table) (old : StoredRow) (values : List Value) : Except Fault Table := do
  let key ←
    match t.keyIndex?.bind (values[·]?) with
    | none => .ok old.key
    | some v => keyOf v
  let values := t.withKey key (t.held values)
  t.checkRequired values
  { t with rows := t.rows.filter (·.key ≠ old.key) }.put ⟨key, values⟩

end Table

/-! ## 2. Databases -/

/-- A database as one connection sees it. -/
structure Database where
  tables : List Table
  /-- The key of the last row that was inserted. -/
  lastKey : Int
deriving DecidableEq, Repr

/-- A row of a result. -/
structure ShownRow where
  names : List String
  values : List Value
deriving DecidableEq, Repr

/-- What carrying out an action comes to. -/
structure Outcome where
  rows : List ShownRow
  /-- How many rows were inserted, changed or removed. -/
  changes : Nat
deriving DecidableEq, Repr

namespace Database

/-- A database without tables. -/
def empty : Database := ⟨[], 0⟩

/-- The table of a name. -/
def table (d : Database) (name : String) : Except Fault Table :=
  match d.tables.find? fun t => sameName t.name name with
  | some t => .ok t
  | none => .error (.noSuchTable name)

/-- The database with a table in its new state. -/
def withTable (d : Database) (t : Table) : Database :=
  { d with tables := d.tables.map fun u => if u.name = t.name then t else u }

/-- The first name that stands twice. -/
def repeated? : List String → Option String
  | [] => none
  | n :: more => if more.any (sameName n) then more.find? (sameName n) else repeated? more

/-- Makes a table; `source` is its name as it was written. -/
def create (d : Database) (name source : String) (unlessThere : Bool)
    (columns : List ColumnSpec) : Except Fault (Database × Outcome) :=
  match d.table name with
  | .ok _ => if unlessThere then .ok (d, ⟨[], 0⟩) else .error (.tableExists source)
  | .error _ =>
    match repeated? (columns.map (·.name)) with
    | some column => .error (.duplicateColumn column)
    | none =>
      if "sqlite_".toList.isPrefixOf (name.toList.map Char.toLower) then .error (.reservedName name)
      else if 1 < columns.countP (·.isPrimary) then .error (.severalKeys name)
      else if columns.any fun c => c.countsUp && !c.isKey then .error .countsNoKey
      else .ok ({ d with tables := d.tables ++ [⟨name, columns, [], 0⟩] }, ⟨[], 0⟩)

/-- The places of the named columns. -/
def places (t : Table) : List String → Except Fault (List Nat)
  | [] => .ok []
  | name :: more =>
    match (t.scope [] []).indexOf? name with
    | some i => (places t more).map (i :: ·)
    | none => .error (.notInTable t.name name)

/-- The values of a new row: those at the given places, and null elsewhere. -/
def spread (t : Table) (places : List Nat) (values : List Value) : List Value :=
  (List.range t.columns.length).map fun i =>
    match places.idxOf? i with
    | some k => values.getD k .null
    | none => .null

/-- Inserts rows one after the other; the last key is told, also if a row cannot be inserted. -/
def insertAll (t : Table) (lastKey : Int) : List (List Value) → Int × Except Fault Table
  | [] => (lastKey, .ok t)
  | values :: more =>
    match t.insertRow values with
    | .error f => (lastKey, .error f)
    | .ok (t, key) => insertAll t key more

/-- The rows that an insertion means: the table they go to, and their values. -/
def newRows (d : Database) (params : List Value) (name : String) (columns : Option (List String))
    (rows : List (List Expr)) : Except Fault (Table × List (List Value)) := do
  let width := (rows.head?.map List.length).getD 0
  if rows.any (·.length ≠ width) then throw .unevenRows
  let t ← d.table name
  let places ← places t (columns.getD (t.columns.map (·.name)))
  let scope : Scope := ⟨[], [], params⟩
  rows.forM (checkAll scope)
  if width ≠ places.length then
    throw
      (if columns.isSome then .valuesForColumns width places.length
      else .valuesForTable t.name t.columns.length width)
  return (t, rows.map fun r => spread t places (valuesOf scope r))

/-- Inserts rows. -/
def insert (d : Database) (params : List Value) (name : String) (columns : Option (List String))
    (rows : List (List Expr)) : Database × Except Fault Outcome :=
  match d.newRows params name columns rows with
  | .error f => (d, .error f)
  | .ok (t, rows) =>
    match insertAll t d.lastKey rows with
    | (key, .error f) => ({ d with lastKey := key }, .error f)
    | (key, .ok t) => ({ d.withTable t with lastKey := key }, .ok ⟨[], rows.length⟩)

/-- Checks the condition of a statement. -/
def checkCondition (s : Scope) (which : Option Expr) : Except Fault Unit :=
  which.elim (.ok ()) (Expr.check s)

/-- Gives rows other values, one after the other. -/
def updateAll (t : Table) (params : List Value) (changes : List (Nat × Expr)) :
    List StoredRow → Except Fault Table
  | [] => .ok t
  | r :: more => do
    let s := t.scope params r.values
    let values := changes.foldl (fun vs (i, e) => vs.set i (e.value s)) r.values
    updateAll (← t.updateRow r values) params changes more

/-- Changes rows. -/
def update (d : Database) (params : List Value) (name : String) (changes : List (String × Expr))
    (which : Option Expr) : Except Fault (Database × Outcome) := do
  let t ← d.table name
  let s := t.scope params []
  let columns := changes.map (·.1)
  let targets := columns.filterMap s.indexOf?
  if let some missing := columns.find? fun c => (s.indexOf? c).isNone then
    throw (.noSuchColumn missing)
  checkAll s (changes.map (·.2))
  checkCondition s which
  let chosen := t.rows.filter fun r => meets (t.scope params r.values) which
  let t ← updateAll t params (targets.zip (changes.map (·.2))) chosen
  return (d.withTable t, ⟨[], chosen.length⟩)

/-- Removes rows. -/
def delete (d : Database) (params : List Value) (name : String) (which : Option Expr) :
    Except Fault (Database × Outcome) := do
  let t ← d.table name
  checkCondition (t.scope params []) which
  let (gone, kept) := t.rows.partition fun r => meets (t.scope params r.values) which
  return (d.withTable { t with rows := kept }, ⟨[], gone.length⟩)

/-! ## 3. Selections -/

/-- The expressions that a selection shows, with their names. -/
def shownExprs (columns : List ColumnSpec) : Shown → List (String × Expr)
  | .everything => columns.map fun c => (c.name, .column c.name)
  | .value e label source =>
    let name :=
      match label, e with
      | some name, _ => name
      | none, .column c =>
        ((columns.find? fun spec => sameName spec.name c).map (·.name)).getD source
      | none, _ => source
    [(name, e)]

/-- The expression that a rule of order means: one that is shown, if it is called by its name or
its number; `i` is the place of the rule. -/
def orderKey (shown : List (String × Expr)) (i : Nat) : Expr → Except Fault Expr
  | .column name =>
    .ok (((shown.find? fun (label, _) => sameName label name).map (·.2)).getD (.column name))
  | .literal (.int n) =>
    match if 1 ≤ n then shown[n.toNat - 1]? else none with
    | some (_, e) => .ok e
    | none => .error (.orderOutOfRange (i + 1) shown.length)
  | e => .ok e

/-- Whether a row may stand before another one. -/
def inOrder (rules : List (Expr × Bool)) (a b : Scope) : Bool :=
  match rules with
  | [] => true
  | (e, descending) :: more =>
    match (e.value a).order (e.value b) with
    | .lt => !descending
    | .gt => descending
    | .eq => inOrder more a b

/-- Selects values of rows. -/
def select (d : Database) (params : List Value) (shown : List Shown) (table : Option String)
    (which : Option Expr) (order : List OrderRule) : Except Fault Outcome := do
  let (columns, rows) ←
    match table with
    | some name => (d.table name).map fun t => (t.columns, t.rows.map (·.values))
    | none => .ok ([], [[]])
  if table.isNone && shown.any (· matches .everything) then throw .noTables
  let s : Scope := ⟨columns, [], params⟩
  let shown := shown.flatMap (shownExprs columns)
  checkAll s (shown.map (·.2))
  checkCondition s which
  let rules ← order.zipIdx.mapM fun (r, i) => do
    return (← orderKey shown i r.key, r.descending)
  checkAll s (rules.map (·.1))
  let scopes := (rows.map fun values => { s with values := values }).filter (meets · which)
  let sorted := scopes.mergeSort (inOrder rules)
  return ⟨sorted.map fun s => ⟨shown.map (·.1), valuesOf s (shown.map (·.2))⟩, 0⟩

/-! ## 4. Statements -/

/-- The database and the outcome of what either happens or does not. -/
def settle (d : Database) : Except Fault (Database × Outcome) → Database × Except Fault Outcome
  | .error f => (d, .error f)
  | .ok (d, outcome) => (d, .ok outcome)

/-- Carries out an action. -/
def perform (d : Database) (params : List Value) : Action → Database × Except Fault Outcome
  | .create table source unlessThere columns =>
    d.settle (d.create table source unlessThere columns)
  | .insert table columns rows => d.insert params table columns rows
  | .update table changes which => d.settle (d.update params table changes which)
  | .delete table which => d.settle (d.delete params table which)
  | .select shown table which order => (d, d.select params shown table which order)

/-- The fault of a statement that cannot be read.  That a table is there already is told as soon as
its name is read. -/
def unreadable (d : Database) (ts : List Token) (e : SyntaxError) : Fault :=
  match Reader.creationHead? ts with
  | none => .notReadable e
  | some head =>
    if (d.table head.table).isOk && !head.unlessThere then .tableExists head.source
    else .notReadable e

/-- Carries out the statements of a text one after the other, at most `fuel` of them.  All rows
and the number of changes are told, and the fault that ended the work. -/
def performAll (d : Database) (params : List Value) :
    Nat → List Token → Database × Outcome × Option Fault
  | 0, _ => (d, ⟨[], 0⟩, none)
  | fuel + 1, ts =>
    match dropSemicolons ts with
    | [] => (d, ⟨[], 0⟩, none)
    | ts =>
      match Reader.action ts with
      | .error e => (d, ⟨[], 0⟩, some (d.unreadable ts e))
      | .ok (a, rest) =>
        match d.perform params a with
        | (d, .error f) => (d, ⟨[], 0⟩, some f)
        | (d, .ok done) =>
          let (d, later, fault) := performAll d params fuel rest
          (d, ⟨done.rows ++ later.rows, done.changes + later.changes⟩, fault)

/-- Carries out a text with the given bound values. -/
def run (d : Database) (sql : String) (bound : List Store.Bound) :
    Database × Outcome × Option Fault :=
  let ts := tokens sql
  d.performAll (bound.map .ofBound) (ts.length + 1) ts

end Database

end SqlGateway.Sqlite
