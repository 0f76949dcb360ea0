/-
# Values of expressions

An expression is checked once, before any row is looked at: its columns and functions must be
known, and a row of several values stands nowhere but in brackets of its own.  After that it has a
value for every row.

* A comparison with null is unknown, and so is what depends on it.
* Two values are compared after the affinity of the column on one side was applied to both.
* Membership uses the affinity of the left side alone.
-/
import SqlGateway.Sqlite.Fault

namespace SqlGateway.Sqlite

/-! ## 1. Names -/

/-- Names are equal if they differ in the case of ASCII letters at most. -/
def sameName (a b : String) : Bool :=
  a.toList.map Char.toLower == b.toList.map Char.toLower

/-- What an expression can refer to: columns with their affinities and values, and bound values. -/
structure Scope where
  columns : List ColumnSpec
  /-- The values of the columns. -/
  values : List Value
  params : List Value

namespace Scope

/-- The place of a column. -/
def indexOf? (s : Scope) (column : String) : Option Nat :=
  s.columns.findIdx? fun c => sameName c.name column

/-- The value of a name that is no column. -/
def keyword? (name : String) : Option Value :=
  if sameName name "true" then some (.int 1)
  else if sameName name "false" then some (.int 0)
  else none

/-- The value of a column. -/
def column (s : Scope) (name : String) : Value :=
  match s.indexOf? name with
  | some i => s.values.getD i .null
  | none => (keyword? name).getD .null

end Scope

/-! ## 2. Checking -/

/-- Whether there is a function of the name. -/
def isFunction (name : String) : Bool := sameName name "typeof"

mutual

/-- Checks an expression over the given columns. -/
def Expr.check (s : Scope) : Expr → Except Fault Unit
  | .literal _ => .ok ()
  | .oversized source => .error (.oversizedNumber source)
  | .parameter _ => .ok ()
  | .quotedName name orText =>
    if orText || (s.indexOf? name).isSome then .ok () else .error (.noSuchColumn name)
  | .column name =>
    if (s.indexOf? name).isSome || (Scope.keyword? name).isSome then .ok ()
    else .error (.noSuchColumn name)
  | .minus e => e.check s
  | .call function args =>
    if !isFunction function then .error (.noSuchFunction function)
    else if args.length ≠ 1 then .error (.argumentCount function)
    else checkAll s args
  | .cast e _ => e.check s
  | .row items => do
    checkAll s items
    throw .rowMisused
  | .compare _ a b => do
    a.check s
    b.check s
  | .both a b => do
    a.check s
    b.check s
  | .either a b => do
    a.check s
    b.check s
  | .negation e => e.check s
  | .isIn e items => do
    e.check s
    checkAll s items

/-- Checks expressions over the given columns. -/
def checkAll (s : Scope) : List Expr → Except Fault Unit
  | [] => .ok ()
  | e :: more => do
    e.check s
    checkAll s more

end

/-! ## 3. Evaluating -/

/-- The affinity of an expression, if it has one. -/
def Expr.affinity? (s : Scope) : Expr → Option Affinity
  | .column name => (s.indexOf? name).bind fun i => s.columns[i]?.map (·.affinity)
  | .quotedName name _ => (s.indexOf? name).bind fun i => s.columns[i]?.map (·.affinity)
  | .cast _ target => some target
  | _ => none

/-- The affinity under which two sides are compared. -/
def comparisonAffinity : Option Affinity → Option Affinity → Affinity
  | some a, some b => if a.isNumeric || b.isNumeric then .numeric else .blob
  | some a, none => if a.isNumeric then .numeric else a
  | none, some b => if b.isNumeric then .numeric else b
  | none, none => .blob

/-- The opposite of a number. -/
def Value.oppositeNumber : Value → Value
  | .int n => if n = -0x8000000000000000 then .real (.ofInt (-n)) else .int (-n)
  | .real x => .real x.neg
  | v => v

/-- The opposite value: that of the number which a value counts as. -/
def Value.opposite : Value → Value
  | .text s => oppositeNumber (leadingNumber s)
  | .blob bs => oppositeNumber (leadingNumber (Text.Utf8.decodeLossy bs))
  | v => oppositeNumber v

/-- What a comparison says about values of the given order. -/
def Comparison.holds (c : Comparison) (o : Ordering) : Bool :=
  match c with
  | .equal | .same => o == .eq
  | .unequal | .different => o != .eq
  | .less => o == .lt
  | .atMost => o != .gt
  | .greater => o == .gt
  | .atLeast => o != .lt

/-- Whether the comparison takes null as a value like others. -/
def Comparison.countsNull (c : Comparison) : Bool := c == .same || c == .different

/-- What a comparison of two values says. -/
def Comparison.truth (c : Comparison) (a b : Value) : Option Bool :=
  if !c.countsNull && (a == .null || b == .null) then none else some (c.holds (a.order b))

/-- Both, where what is unknown may still be false. -/
def bothOf : Option Bool → Option Bool → Option Bool
  | some false, _ => some false
  | _, some false => some false
  | some true, b => b
  | none, _ => none

/-- Either, where what is unknown may still be true. -/
def eitherOf (a b : Option Bool) : Option Bool := (bothOf (a.map not) (b.map not)).map not

/-- Whether a value is one of others. -/
def member (v : Value) (items : List Value) : Option Bool :=
  items.foldr (fun item known => eitherOf (Comparison.equal.truth v item) known) (some false)

mutual

/-- The value of an expression that was checked. -/
def Expr.value (s : Scope) : Expr → Value
  | .literal v => v
  | .oversized _ => .null
  | .parameter i => s.params.getD i .null
  | .column name => s.column name
  | .quotedName name _ =>
    match s.indexOf? name with
    | some i => s.values.getD i .null
    | none => .text name
  | .minus e => (e.value s).opposite
  | .call _ args =>
    match valuesOf s args with
    | v :: _ => .text v.className
    | [] => .null
  | .cast e target => target.cast (e.value s)
  | .row _ => .null
  | .compare c a b =>
    let affinity := comparisonAffinity (a.affinity? s) (b.affinity? s)
    .ofTruth? (c.truth (affinity.apply (a.value s)) (affinity.apply (b.value s)))
  | .both a b => .ofTruth? (bothOf (a.value s).truth? (b.value s).truth?)
  | .either a b => .ofTruth? (eitherOf (a.value s).truth? (b.value s).truth?)
  | .negation e => .ofTruth? ((e.value s).truth?.map not)
  | .isIn e items =>
    let affinity := comparisonAffinity (e.affinity? s) none
    .ofTruth? (member (affinity.apply (e.value s)) ((valuesOf s items).map affinity.apply))

/-- The values of expressions that were checked. -/
def valuesOf (s : Scope) : List Expr → List Value
  | [] => []
  | e :: more => e.value s :: valuesOf s more

end

/-- Whether a condition holds; without one everything is meant. -/
def meets (s : Scope) (which : Option Expr) : Bool :=
  which.all fun e => (e.value s).truth? == some true

end SqlGateway.Sqlite
