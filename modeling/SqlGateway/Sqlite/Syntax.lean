/-
# Reading SQLite's SQL

A text holds statements with semicolons between them.  One statement is read at a time, from the
tokens that are left; the next one is looked at only after the first was carried out.

* Operators bind in four levels: `OR`, `AND`, equality and membership, order.
* What cannot be read is told by the first token that no statement could have at its place.
* A list behind `IN` needs brackets of its own, so a single variable there is an error, and a
  bracketed one is not.
-/
import SqlGateway.Sqlite.Action
import SqlGateway.Sqlite.Token

namespace SqlGateway.Sqlite

/-! ## 1. Readers -/

/-- Why a statement cannot be read. -/
inductive SyntaxError where
  | near (source : String)
  | unrecognized (source : String)
  /-- The text ends too early. -/
  | incomplete
deriving DecidableEq, Repr

/-- The wording of the error. -/
def SyntaxError.message : SyntaxError → String
  | near source => "near \"" ++ source ++ "\": syntax error"
  | unrecognized source => "unrecognized token: \"" ++ source ++ "\""
  | incomplete => "incomplete input"

/-- Reads a part of a statement from the tokens that are left. -/
abbrev Reader := StateT (List Token) (Except SyntaxError)

namespace Reader

/-- The error that the next token is. -/
def faultAt : List Token → SyntaxError
  | [] => .incomplete
  | t :: _ =>
    if t.kind = .illegal then .unrecognized (String.ofList t.source)
    else .near (String.ofList t.source)

/-- Fails at the next token. -/
def unexpected {α : Type} : Reader α := fun ts => .error (faultAt ts)

/-- Takes the next token if it is the given keyword or symbol. -/
def accept (s : String) : Reader Bool := fun ts =>
  match ts with
  | t :: more => .ok (if t.is s then (true, more) else (false, ts))
  | [] => .ok (false, ts)

/-- Takes the given keywords or symbols. -/
def require : List String → Reader Unit
  | [] => pure ()
  | s :: more => do
    if ← accept s then require more else unexpected

/-- Takes all of the given keywords if the first one is there. -/
def acceptPhrase (first : String) (more : List String) : Reader Bool := do
  if ← accept first then
    require more
    return true
  else return false

/-- The keywords that are no names. -/
def reserved : List String :=
  ["ADD", "ALL", "ALTER", "AND", "AS", "AUTOINCREMENT", "BETWEEN", "CASE", "CHECK", "COLLATE",
    "COMMIT", "CONSTRAINT", "CREATE", "DEFAULT", "DEFERRABLE", "DELETE", "DISTINCT", "DROP",
    "ELSE", "ESCAPE", "EXCEPT", "EXISTS", "FOREIGN", "FROM", "GROUP", "HAVING", "IN", "INDEX",
    "INSERT", "INTERSECT", "INTO", "IS", "ISNULL", "JOIN", "LIMIT", "NOT", "NOTHING", "NOTNULL",
    "NULL", "ON", "OR", "ORDER", "PRIMARY", "REFERENCES", "RETURNING", "SELECT", "SET", "TABLE",
    "THEN", "TO", "TRANSACTION", "UNION", "UNIQUE", "UPDATE", "USING", "VALUES", "WHEN", "WHERE"]

/-- The name that a token says. -/
def nameOf? (t : Token) : Option String :=
  match t.kind with
  | .word => if reserved.any t.is then none else some (String.ofList t.source)
  | .quotedName => some t.unquoted
  | .string => some t.unquoted
  | _ => none

/-- Takes a name. -/
def name : Reader String := fun ts =>
  match ts with
  | t :: more =>
    match nameOf? t with
    | some s => .ok (s, more)
    | none => .error (faultAt ts)
  | [] => .error (faultAt ts)

/-- Takes a name if there is one. -/
def name? : Reader (Option String) := fun ts =>
  match ts with
  | t :: more =>
    match nameOf? t with
    | some s => .ok (some s, more)
    | none => .ok (none, ts)
  | [] => .ok (none, ts)

/-- Takes one item or more with commas between them; at most `fuel` commas. -/
def separated {α : Type} (item : Reader α) : Nat → Reader (List α)
  | 0 => return [← item]
  | fuel + 1 => do
    let first ← item
    if ← accept "," then return first :: (← separated item fuel) else return [first]

/-- Takes items with commas between them. -/
def commaList {α : Type} (item : Reader α) : Reader (List α) := do
  separated item (← get).length

/-- Takes items in brackets. -/
def bracketed {α : Type} (item : Reader α) : Reader (List α) := do
  require ["("]
  let items ← commaList item
  require [")"]
  return items

/-! ## 2. Expressions -/

/-- A binary operator, its level and what it makes of its operands. -/
structure Operator where
  symbol : String
  level : Nat
  make : Expr → Expr → Expr

/-- The binary operators, but for those that start with `IS`. -/
def operators : List Operator :=
  [⟨"OR", 1, .either⟩, ⟨"AND", 2, .both⟩,
    ⟨"=", 4, .compare .equal⟩, ⟨"==", 4, .compare .equal⟩,
    ⟨"<>", 4, .compare .unequal⟩, ⟨"!=", 4, .compare .unequal⟩,
    ⟨"<", 5, .compare .less⟩, ⟨"<=", 5, .compare .atMost⟩,
    ⟨">", 5, .compare .greater⟩, ⟨">=", 5, .compare .atLeast⟩]

/-- The level of equality and membership. -/
def equalityLevel : Nat := 4

/-- Takes a binary operator of the given level or a higher one. -/
def operator? (level : Nat) : Reader (Option Operator) := fun ts =>
  match ts with
  | t :: more =>
    match operators.find? fun o => t.is o.symbol && level ≤ o.level with
    | some o => .ok (some o, more)
    | none => .ok (none, ts)
  | [] => .ok (none, ts)

/-- Takes `IN` or `NOT IN`; `true` is told for the latter. -/
def membership? : Reader (Option Bool) := do
  if ← accept "IN" then return some false
  else if ← acceptPhrase "NOT" ["IN"] then return some true
  else return none

/-- The number that a token says. -/
def numberOf (negative : Bool) (source : List Char) : Expr :=
  let digits := source.filter (· != '_')
  if isHexLiteral digits then
    match Value.ofHex? negative (digits.drop 2) with
    | some v => .literal v
    | none => .oversized (String.ofList ((if negative then ['-'] else []) ++ digits))
  else .literal ((Value.unsignedNumber? negative digits).getD .null)

/-- The affinity of the type that words say. -/
def typeAffinity (words : List String) : Affinity := .ofType (String.intercalate " " words)

/-- Takes the words of a type; at most `fuel` of them. -/
def typeWords : Nat → Reader (List String)
  | 0 => return []
  | fuel + 1 => do
    match ← name? with
    | some word => return word :: (← typeWords fuel)
    | none => return []

/-- Takes a number that may have a sign. -/
def signedNumber : Reader Unit := do
  if !(← accept "+") then
    let _ ← accept "-"
  match ← get with
  | t :: more => if t.kind = .number then set more else unexpected
  | [] => unexpected

/-- Takes the words of a type, and its size in brackets: one number or two. -/
def typeName : Reader (List String) := do
  let words ← typeWords (← get).length
  if !words.isEmpty then
    if ← accept "(" then
      signedNumber
      if ← accept "," then signedNumber
      require [")"]
  return words

mutual

/-- Takes an expression whose operators have the given level or a higher one. -/
def expr : Nat → Nat → Reader Expr
  | 0, _ => unexpected
  | fuel + 1, level => do
    let first ← operand fuel
    operations fuel level first

/-- Takes the operators behind an operand, and their operands. -/
def operations : Nat → Nat → Expr → Reader Expr
  | 0, _, left => return left
  | fuel + 1, level, left => do
    if let some o ← operator? level then
      let right ← expr fuel (o.level + 1)
      operations fuel level (o.make left right)
    else if equalityLevel < level then return left
    else if ← accept "IS" then
      let c := if ← accept "NOT" then Comparison.different else Comparison.same
      let right ← expr fuel (equalityLevel + 1)
      operations fuel level (.compare c left right)
    else if let some negated ← membership? then
      require ["("]
      let items ← if ← accept ")" then pure [] else listed fuel
      let e := Expr.isIn left items
      operations fuel level (if negated then .negation e else e)
    else return left

/-- Takes expressions with commas between them and the closing bracket. -/
def listed : Nat → Reader (List Expr)
  | 0 => unexpected
  | fuel + 1 => do
    let first ← expr fuel 1
    if ← accept "," then return first :: (← listed fuel)
    require [")"]
    return [first]

/-- Takes an operand. -/
def operand : Nat → Reader Expr
  | 0 => unexpected
  | fuel + 1 => do
    let t :: more ← get | unexpected
    if t.is "(" then
      set more
      match ← listed fuel with
      | [e] => return e
      | items => return .row items
    else if t.is "NOT" then
      set more
      return .negation (← expr fuel 3)
    else if t.is "-" then
      set more
      match more with
      | n :: behind =>
        if n.kind = .number then
          set behind
          return numberOf true n.source
        else return .minus (← operand fuel)
      | [] => unexpected
    else if t.is "+" then
      set more
      operand fuel
    else if t.is "NULL" then
      set more
      return .literal .null
    else if t.is "CAST" then
      set more
      require ["("]
      let e ← expr fuel 1
      require ["AS"]
      let words ← typeName
      require [")"]
      return .cast e (if words.isEmpty then .numeric else typeAffinity words)
    else
      match t.kind with
      | .number => set more; return numberOf false t.source
      | .string => set more; return .literal (.text t.unquoted)
      | .blob => set more; return .literal (.blob t.blobBytes)
      | .variable i => set more; return .parameter i
      | .quotedName =>
        set more
        return .quotedName t.unquoted (t.source.head? == some '"')
      | .word =>
        let word ← name
        if ← accept "(" then
          if ← accept ")" then return .call word []
          else if ← acceptPhrase "*" [")"] then return .call word []
          else return .call word (← listed fuel)
        else return .column word
      | _ => unexpected

end

/-- Takes a whole expression. -/
def expression : Reader Expr := do
  expr (4 * (← get).length + 4) 1

/-! ## 3. Statements -/

/-- Takes what is said about a column behind its type; at most `fuel` rules. -/
def columnRules : Nat → ColumnSpec → Bool → Reader ColumnSpec
  | 0, spec, _ => return spec
  | fuel + 1, spec, isInteger => do
    if ← acceptPhrase "PRIMARY" ["KEY"] then
      let _ ← accept "ASC"
      let countsUp ← accept "AUTOINCREMENT"
      columnRules fuel { spec with isKey := isInteger, isPrimary := true, countsUp } isInteger
    else if ← acceptPhrase "NOT" ["NULL"] then
      columnRules fuel { spec with required := true } isInteger
    else if ← accept "NULL" then columnRules fuel spec isInteger
    else return spec

/-- Takes a column of a table that is to be made. -/
def columnSpec : Reader ColumnSpec := do
  let columnName ← name
  let words ← typeName
  let isInteger := words.map (·.toList.map Char.toUpper) == ["INTEGER".toList]
  columnRules (← get).length ⟨columnName, typeAffinity words, false, false, false, false⟩ isInteger

/-- Takes a condition if there is one. -/
def condition? : Reader (Option Expr) := do
  if ← accept "WHERE" then return some (← expression) else return none

/-- Takes what a selection shows at one place. -/
def shown : Reader Shown := do
  if ← accept "*" then return .everything
  let before ← get
  let e ← expression
  let source := sourceText (before.take (before.length - (← get).length))
  let label ← if ← accept "AS" then pure (some (← name)) else name?
  return .value e label source

/-- Takes a rule for the order of rows. -/
def orderRule : Reader OrderRule := do
  let key ← expression
  if ← accept "DESC" then return ⟨key, true⟩
  let _ ← accept "ASC"
  return ⟨key, false⟩

/-- Takes a table that is selected from, and the other name that it may be given. -/
def source : Reader String := do
  let table ← name
  if ← accept "AS" then
    let _ ← name
  else
    let _ ← name?
  return table

/-- Takes what is behind `SELECT`. -/
def selection : Reader Action := do
  let items ← commaList shown
  let table ← if ← accept "FROM" then some <$> source else pure none
  let which ← condition?
  let order ← if ← acceptPhrase "ORDER" ["BY"] then commaList orderRule else pure []
  return .select items table which order

/-- A table that is to be made: its name, the source of that, and whether it may be there. -/
structure TableHead where
  table : String
  source : String
  unlessThere : Bool

/-- Takes what is behind `CREATE TABLE`, up to the name. -/
def tableHead : Reader TableHead := do
  let unlessThere ← acceptPhrase "IF" ["NOT", "EXISTS"]
  let source := ((← get).head?.map fun t => String.ofList t.source).getD ""
  return ⟨← name, source, unlessThere⟩

/-- Takes what is behind `CREATE TABLE`. -/
def creation : Reader Action := do
  let head ← tableHead
  return .create head.table head.source head.unlessThere (← bracketed columnSpec)

/-- The table that a statement is to make, if it can be told before the statement is read. -/
def creationHead? (ts : List Token) : Option TableHead :=
  let head : Reader TableHead := do
    require ["CREATE", "TABLE"]
    tableHead
  match head.run ts with
  | .ok (h, rest) => if rest.head?.any (·.kind == .illegal) then none else some h
  | .error _ => none

/-- Takes what is behind `INSERT INTO`. -/
def insertion : Reader Action := do
  let table ← name
  let columns ←
    match (← get).head? with
    | some t => if t.is "(" then some <$> bracketed name else pure none
    | none => pure none
  require ["VALUES"]
  return .insert table columns (← commaList (bracketed expression))

/-- Takes a column and its new value. -/
def change : Reader (String × Expr) := do
  let column ← name
  require ["="]
  return (column, ← expression)

/-- Takes what is behind `UPDATE`. -/
def updating : Reader Action := do
  let table ← name
  require ["SET"]
  let changes ← commaList change
  return .update table changes (← condition?)

/-- Takes what is behind `DELETE FROM`. -/
def deletion : Reader Action := do
  let table ← name
  return .delete table (← condition?)

/-- Takes a statement without what ends it. -/
def body : Reader Action := do
  if ← accept "SELECT" then selection
  else if ← acceptPhrase "CREATE" ["TABLE"] then creation
  else if ← acceptPhrase "INSERT" ["INTO"] then insertion
  else if ← accept "UPDATE" then updating
  else if ← acceptPhrase "DELETE" ["FROM"] then deletion
  else unexpected

/-- Takes a statement up to its semicolon or the end of the text. -/
def action : Reader Action := do
  let a ← body
  match ← get with
  | [] => return a
  | _ =>
    require [";"]
    return a

end Reader

/-- The tokens without the semicolons in front. -/
def dropSemicolons (ts : List Token) : List Token := ts.dropWhile (·.is ";")

end SqlGateway.Sqlite
