/-
# Log filters

A filter says which events are logged.  It is a list of directives with commas between them: a level
for all events (`info`), for the events of a target (`sgt_gateway=debug`), or for the events that have
a value of some name (`[{db}]=debug`).

* A directive is for every target that starts with its text, so a shorter text is for more targets.
  Of the directives for an event the longest one decides, then the one with the most names, and of
  equal ones the last.
* A name that is no level is a target, logged at every level.
* A directive with the name of a span, or with the value of a field, is for what happens inside spans.
* An empty filter lets only errors through.
* Blanks belong to what they stand at, so a level with a blank is no level.
-/
import SqlGateway.Number.Digits
import SqlGateway.Text.Alphanumeric
import SqlGateway.Text.Blank
import SqlGateway.Text.Pattern

namespace SqlGateway.Log

/-! ## 1. Levels -/

/-- How important an event is. -/
inductive Level where
  | error
  | warn
  | info
  | debug
  | trace
deriving DecidableEq, Repr

namespace Level

/-- The number of the level; a larger one is for less important events. -/
def number : Level → Nat
  | error => 1
  | warn => 2
  | info => 3
  | debug => 4
  | trace => 5

/-- The levels, the most important first. -/
def all : List Level := [error, warn, info, debug, trace]

/-- The name of the level. -/
def name : Level → String
  | error => "ERROR"
  | warn => "WARN"
  | info => "INFO"
  | debug => "DEBUG"
  | trace => "TRACE"

end Level

/-- The least important level that is logged; none if nothing is. -/
abbrev Threshold := Option Level

/-- The number that digits say, with a plus sign in front or without. -/
def numberOf? (cs : List Char) : Option Nat :=
  let digits := if cs.head? = some '+' then cs.drop 1 else cs
  if digits.isEmpty || !digits.all Char.isDigit then none
  else some (Digits.value digits)

/-- The threshold that a name or a number says. -/
def Threshold.ofText? (text : List Char) : Option Threshold :=
  let name := String.ofList (text.map Char.toUpper)
  match numberOf? text with
  | some n => if n = 0 then some none else (Level.all.find? (·.number == n)).map some
  | none => if name = "OFF" then some none else (Level.all.find? (·.name == name)).map some

/-! ## 2. Faults -/

/-- Why a text is no filter. -/
inductive FilterFault where
  | malformed
  | level
  /-- The value of a field is no pattern. -/
  | field (f : Text.Pattern.Fault)
deriving DecidableEq, Repr

/-- The wording of the fault. -/
def FilterFault.message : FilterFault → String
  | malformed => "invalid filter directive"
  | level =>
    "error parsing level filter: expected one of \"off\", \"error\", \"warn\", \"info\", " ++
      "\"debug\", \"trace\", or a number 0-5"
  | field f => "invalid field filter: " ++ f.reasons.headD ""

/-- The wordings from the fault to its reason. -/
def FilterFault.reasons (f : FilterFault) : List String :=
  match f with
  | malformed => [f.message]
  | level => [f.message, f.message]
  | field g => f.message :: g.reasons

/-! ## 3. Directives -/

/-- A rule for some events. -/
structure Directive where
  /-- What the targets start with; none for all targets. -/
  target : Option String
  threshold : Threshold
  /-- What an event must have a value of. -/
  fields : List String
  /-- Whether the rule is only for what happens inside a span. -/
  inSpan : Bool
deriving DecidableEq, Repr

/-- The rule for everything. -/
def Directive.all : Directive := ⟨none, some .trace, [], false⟩

namespace Directive

/-- What is being read of a directive, and the byte where it began. -/
inductive Stage where
  | start
  | name (start : Nat)
  | span (start : Nat)
  | field (start : Nat)
  | behindFields
  | behindSpan
  | level (start : Nat)

/-- `cs` without its first `n` bytes. -/
def dropBytes : Nat → List Char → List Char
  | 0, cs => cs
  | _, [] => []
  | n + 1, c :: cs => dropBytes (n + 1 - c.utf8Size) cs

/-- The first `n` bytes of `cs`. -/
def takeBytes : Nat → List Char → List Char
  | 0, _ => []
  | _, [] => []
  | n + 1, c :: cs => c :: takeBytes (n + 1 - c.utf8Size) cs

/-- The text from the byte `start` up to the byte `stop`. -/
def slice (text : List Char) (start stop : Nat) : List Char :=
  takeBytes (stop - start) (dropBytes start text)

/-- Whether a directive may start with a character. -/
def startsWith (c : Char) : Bool := "-:_[".toList.contains c || Text.isAlphanumeric c

/-- The threshold behind an equals sign; without a text it is the last one. -/
def thresholdOf (text : List Char) : Except FilterFault Threshold :=
  if text.isEmpty then .ok (some .trace)
  else
    match Threshold.ofText? text with
    | some t => .ok t
    | none => .error .level

/-- Whether a text is a decimal number, perhaps with a fraction and an exponent. -/
def isDecimal (cs : List Char) : Bool :=
  let whole := cs.takeWhile Char.isDigit
  let rest := cs.drop whole.length
  let fraction := if rest.head? = some '.' then (rest.drop 1).takeWhile Char.isDigit else []
  let rest := if rest.head? = some '.' then rest.drop (fraction.length + 1) else rest
  let exponent (cs : List Char) : Bool :=
    let digits := if cs.head?.any (fun c => c == '+' || c == '-') then cs.drop 1 else cs
    !digits.isEmpty && digits.all Char.isDigit
  !(whole ++ fraction).isEmpty &&
    (rest.isEmpty || (rest.head?.any (fun c => c == 'e' || c == 'E') && exponent (rest.drop 1)))

/-- Whether a text is a number; infinity and what is no number count as one. -/
def isNumber (cs : List Char) : Bool :=
  let unsigned := if cs.head?.any (fun c => c == '+' || c == '-') then cs.drop 1 else cs
  isDecimal unsigned ||
    ["inf", "infinity", "nan"].contains (String.ofList (unsigned.map Char.toLower))

/-- Adds a field, which may have a value behind an equals sign: a number, or a pattern.  A value counts
only inside spans. -/
def withField (d : Directive) (text : List Char) : Except FilterFault Directive :=
  let name := text.takeWhile (· != '=')
  let d := { d with fields := d.fields ++ [String.ofList name] }
  match text.drop name.length with
  | [] => if name.isEmpty then .error .malformed else .ok d
  | _ :: behind =>
    let value := behind.takeWhile (· != '=')
    if isNumber value then .ok { d with inSpan := true }
    else
      match Text.Pattern.check value with
      | .ok () => .ok { d with inSpan := true }
      | .error f => .error (.field f)

/-- Reads the character `c` at the byte `i`.  The parts are cut out of `text`. -/
def step (text : List Char) (i : Nat) (c : Char) : Stage × Directive → Except FilterFault (Stage × Directive)
  | (.start, d) =>
    if c = '[' then .ok (.span (i + 1), d)
    else if startsWith c then .ok (.name i, d)
    else .error .malformed
  | (.name start, d) =>
    let named := { d with target := some (String.ofList (slice text start i)) }
    if c = '=' then .ok (.level (i + 1), named)
    else if c = '[' then .ok (.span (i + 1), named)
    else .ok (.name start, d)
  | (.span start, d) =>
    if c = ']' then .ok (.behindSpan, { d with inSpan := true })
    else if c = '\x7b' then
      .ok (.field (i + 1), { d with inSpan := !(slice text start i).isEmpty })
    else .ok (.span start, d)
  | (.field start, d) =>
    if c = '\x7d' then (d.withField (slice text start i)).map fun d => (.behindFields, d)
    else .ok (.field start, d)
  | (.behindFields, d) => if c = ']' then .ok (.behindSpan, d) else .error .malformed
  | (.behindSpan, d) => if c = '=' then .ok (.level (i + 1), d) else .error .malformed
  | (.level start, d) => .ok (.level start, d)

/-- Reads the characters from the byte `i` on. -/
def readFrom (text : List Char) (i : Nat) (s : Stage × Directive) :
    List Char → Except FilterFault (Stage × Directive)
  | [] => .ok s
  | c :: cs => do readFrom text (i + c.utf8Size) (← step text i c s) cs

/-- The directive that a text says.  Blanks around it are passed over, but its parts are cut out of the
text at the places that they have without the blanks in front. -/
def ofText (text : List Char) : Except FilterFault Directive := do
  let (stage, d) ← readFrom text 0 (.start, .all) (Text.trimChars text)
  match stage with
  | .name start =>
    let whole := dropBytes start text
    match Threshold.ofText? whole with
    | some t => return { d with threshold := t }
    | none => return { d with target := some (String.ofList whole) }
  | .level start => return { d with threshold := ← thresholdOf (dropBytes start text) }
  | .behindSpan => return d
  | _ => throw .malformed

/-- Whether the directive is for events of a target that have values of the given names. -/
def isFor (d : Directive) (target : String) (names : List String) : Bool :=
  !d.inSpan && d.target.all (fun t => t.toList.isPrefixOf target.toList) &&
    d.fields.all names.contains

/-- How narrow a directive is by its target. -/
def width (d : Directive) : Nat := d.target.elim 0 (·.utf8ByteSize + 1)

/-- Whether a directive is at most as narrow as another one: by its target, then by the number of its
fields, and then by their names. -/
def isWithin (d e : Directive) : Bool :=
  d.width < e.width || (d.width == e.width &&
    (d.fields.length < e.fields.length ||
      (d.fields.length == e.fields.length && !decide (e.fields < d.fields))))

end Directive

/-! ## 4. Filters -/

/-- Which events are logged. -/
structure Filter where
  directives : List Directive
deriving DecidableEq, Repr

namespace Filter

/-- The filter without directives: errors only. -/
def errorsOnly : Filter := ⟨[{ Directive.all with threshold := some .error }]⟩

/-- The filter that a text says. -/
def ofText (text : String) : Except FilterFault Filter := do
  let parts := (text.toList.splitOn ',').filter (!·.isEmpty)
  if parts.isEmpty then return errorsOnly
  return ⟨← parts.mapM Directive.ofText⟩

/-- The filter unless somebody says so. -/
def standard : String := "sgt_gateway=info,tower_http=info"

/-- The filter that counts: that of the environment if it can be read, else the configured one, else
the standard one. -/
def choose (environment configured : Option String) : Except FilterFault Filter :=
  match environment.map ofText with
  | some (.ok f) => .ok f
  | _ => ofText (configured.getD standard)

/-- The directive that decides about a target and names. -/
def deciding? (f : Filter) (target : String) (names : List String) : Option Directive :=
  (f.directives.filter (·.isFor target names)).foldl
    (fun best d => if best.all (·.isWithin d) then some d else best) none

/-- Whether events of a target are logged at a level, if they have values of the given names. -/
def allows (f : Filter) (target : String) (names : List String) (l : Level) : Bool :=
  ((f.deciding? target names).bind (·.threshold)).any fun t => l.number ≤ t.number

end Filter

end SqlGateway.Log
