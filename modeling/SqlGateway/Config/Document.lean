/-
# The configuration file

How the nodes of a YAML document are read as the fields of the configuration.

* Any scalar serves as a text, however it looks.  Numbers and flags must be plain.
* An optional field may be null; others may not.
* Where nothing is written, a list is empty and a section has no fields.
* Unknown fields are skipped unread; a known field may stand only once.
* An alias is read as the node that it stands for.  A document may make a reader follow at most a
  hundred times as many aliases as it has events.
-/
import SqlGateway.Config.Raw
import SqlGateway.Yaml.Node

namespace SqlGateway.Config

open Yaml

/-! ## 1. Readers -/

/-- A reader of nodes in a document.  Its state is how many more aliases it may follow. -/
abbrev Reads (α : Type) := Document → Node → StateT Nat Option α

/-- How many aliases a reader of a document may follow. -/
def aliasLimit (doc : Document) : Nat := 100 * doc.events

/-- The node that a node stands for. -/
def follow : Reads Node := fun doc n =>
  match n with
  | .alias k => do
    let left ← get
    if left = 0 then failure
    else
      set (left - 1)
      (doc.anchored.lookup k).getM
  | n => return n

/-- Any scalar as a text. -/
def readText : Reads String := fun doc n => do
  match ← follow doc n with
  | .scalar _ _ text => return text
  | _ => failure

/-- Whether a plain scalar is written as null. -/
def isNullText (text : String) : Bool :=
  text == "null" || text == "Null" || text == "NULL" || text == "~"

/-- The tag of nulls. -/
def nullTag : List UInt8 := "tag:yaml.org,2002:null".toUTF8.toList

/-- The tag of flags. -/
def boolTag : List UInt8 := "tag:yaml.org,2002:bool".toUTF8.toList

/-- The tag of integers. -/
def intTag : List UInt8 := "tag:yaml.org,2002:int".toUTF8.toList

/-- A value that may be null. -/
def readOptional {α : Type} (read : Reads α) : Reads (Option α) := fun doc n => do
  let n ← follow doc n
  match n with
  | .scalar .plain (some tag) text =>
    if tag = nullTag then (if isNullText text then return none else failure)
    else return some (← read doc n)
  | .scalar .plain none text =>
    if text = "" ∨ isNullText text then return none else return some (← read doc n)
  | _ => return some (← read doc n)

/-- Whether a scalar may hold a number or a flag: a plain one, or a literal one with the tag. -/
def isBare (expected : List UInt8) (style : ScalarStyle) (tag : Option (List UInt8)) : Bool :=
  style == .plain || (style == .literal && tag == some expected)

/-- A flag. -/
def readFlag : Reads Bool := fun doc n => do
  match ← follow doc n with
  | .scalar style tag text =>
    if !isBare boolTag style tag then failure
    else if text = "true" ∨ text = "True" ∨ text = "TRUE" then return true
    else if text = "false" ∨ text = "False" ∨ text = "FALSE" then return false
    else failure
  | _ => failure

/-- The value of a digit in a base up to sixteen. -/
def digitIn? (base : Nat) (c : Char) : Option Nat := (hexDigit? c).filter (· < base)

/-- The number that digits write in a base; at least one digit. -/
def numberIn? (base : Nat) (cs : List Char) : Option Nat :=
  if cs.isEmpty then none
  else cs.foldl (fun n c => n.bind fun n => (digitIn? base c).map (n * base + ·)) (some 0)

/-- Whether a text is digits with a needless zero in front. -/
def hasLeadingZero : List Char → Bool
  | '0' :: c :: cs => (c :: cs).all Char.isDigit
  | _ => false

/-- The natural number below `2 ^ 64` that a plain scalar writes: decimal, or in base sixteen,
eight or two behind `0x`, `0o` or `0b`, with an optional plus sign in front of it all. -/
def naturalOf? (text : List Char) : Option Nat :=
  let unsigned := if text.head? == some '+' then text.drop 1 else text
  let based (base : Nat) (cs : List Char) : Option Nat :=
    (numberIn? base cs).filter (· < 0x10000000000000000)
  let decimal : Option Nat := if hasLeadingZero unsigned then none else based 10 unsigned
  match unsigned with
  | '0' :: 'x' :: cs => based 16 cs
  | '0' :: 'o' :: cs => based 8 cs
  | '0' :: 'b' :: cs => based 2 cs
  | _ => decimal

/-- A natural number below a bound. -/
def readNatural (bound : Nat) : Reads Nat := fun doc n => do
  match ← follow doc n with
  | .scalar style tag text =>
    if !isBare intTag style tag then failure
    else ((naturalOf? text.toList).filter (· < bound)).getM
  | _ => failure

/-- Whether nothing is written where a node stands. -/
def isUnwritten : Node → Bool
  | .scalar .plain _ "" => true
  | _ => false

/-- A list. -/
def readList {α : Type} (read : Reads α) : Reads (List α) := fun doc n => do
  match ← follow doc n with
  | .sequence items => items.mapM (read doc)
  | n => if isUnwritten n then return [] else failure

/-- The known fields of a section. -/
structure Section where
  doc : Document
  fields : List (String × Node)

/-- Adds the fields of `entries` that are known; none may stand twice, and every key is a text. -/
def knownFields (doc : Document) (known : List String) (found : List (String × Node)) :
    List (Node × Node) → StateT Nat Option (List (String × Node))
  | [] => return found
  | (k, v) :: more => do
    let name ← readText doc k
    if known.contains name then
      if (found.lookup name).isSome then failure
      else knownFields doc known (found ++ [(name, v)]) more
    else knownFields doc known found more

/-- A section with the given fields. -/
def readSection (known : List String) : Reads Section := fun doc n => do
  match ← follow doc n with
  | .mapping entries => return ⟨doc, ← knownFields doc known [] entries⟩
  | n => if isUnwritten n then return ⟨doc, []⟩ else failure

/-- A field that must be there. -/
def Section.required {α : Type} (s : Section) (name : String) (read : Reads α) :
    StateT Nat Option α :=
  match s.fields.lookup name with
  | some n => read s.doc n
  | none => failure

/-- A field with a default. -/
def Section.withDefault {α : Type} (s : Section) (name : String) (read : Reads α) (default : α) :
    StateT Nat Option α :=
  match s.fields.lookup name with
  | some n => read s.doc n
  | none => return default

/-- A field that may be missing or null. -/
def Section.optional {α : Type} (s : Section) (name : String) (read : Reads α) :
    StateT Nat Option (Option α) :=
  s.withDefault name (readOptional read) none

/-! ## 2. Sections -/

/-- An account. -/
def readAccount : Reads Account := fun doc n => do
  let s ← readSection ["username", "password"] doc n
  return ⟨← s.required "username" readText, ← s.required "password" readText⟩

/-- The `server` section. -/
def readServer : Reads RawServer := fun doc n => do
  let s ← readSection
    ["addr", "port", "auth", "accounts", "tls", "debug", "query-timeout"] doc n
  return {
    addr := ← s.optional "addr" readText
    port := ← s.optional "port" (readNatural (0x10000))
    auth := ← s.withDefault "auth" readFlag false
    accounts := ← s.withDefault "accounts" (readList readAccount) []
    tls := ← s.withDefault "tls" readFlag false
    debug := ← s.withDefault "debug" readFlag false
    queryTimeout := ← s.optional "query-timeout" (readNatural (0x10000000000000000)) }

/-- The `log` section. -/
def readLog : Reads RawLog := fun doc n => do
  let s ← readSection ["path", "level", "size", "age", "backups"] doc n
  return {
    path := ← s.optional "path" readText
    level := ← s.optional "level" readText
    size := ← s.optional "size" (readNatural (0x10000000000000000))
    age := ← s.optional "age" (readNatural (0x10000000000000000))
    backups := ← s.optional "backups" (readNatural (0x10000000000000000)) }

/-- An entry of `apis`. -/
def readApi : Reads RawApi := fun doc n => do
  let s ← readSection ["name", "sql", "format", "debug"] doc n
  return {
    name := ← s.optional "name" readText
    sql := ← s.optional "sql" readText
    format := ← s.optional "format" readText
    debug := ← s.withDefault "debug" readFlag false }

/-- An entry of `groups`. -/
def readGroup : Reads RawGroup := fun doc n => do
  let s ← readSection ["name", "format", "apis"] doc n
  return {
    name := ← s.optional "name" readText
    format := ← s.optional "format" readText
    apis := ← s.withDefault "apis" (readList readApi) [] }

/-- An entry of `dbs`. -/
def readDatabase : Reads RawDatabase := fun doc n => do
  let s ← readSection ["name", "type", "dsn", "format", "max-connections", "groups"] doc n
  return {
    name := ← s.optional "name" readText
    type := ← s.optional "type" readText
    dsn := ← s.optional "dsn" readText
    format := ← s.optional "format" readText
    maxConnections := ← s.optional "max-connections" (readNatural (0x100000000))
    groups := ← s.withDefault "groups" (readList readGroup) [] }

/-- The whole document. -/
def readRaw : Reads Raw := fun doc n => do
  let s ← readSection ["server", "log", "dbs"] doc n
  return {
    server := ← s.optional "server" readServer
    log := ← s.optional "log" readLog
    dbs := ← s.withDefault "dbs" (readList readDatabase) [] }

/-- The fields of a configuration file. -/
def Raw.ofYaml? (text : String) : Option Raw := do
  let doc ← document? text
  (readRaw doc (doc.root.getD .empty)).run' (aliasLimit doc)

/-- The configuration of a configuration file. -/
def ofYaml (text : String) : Except Error Config :=
  match Raw.ofYaml? text with
  | some raw => raw.validate
  | none => .error .malformed

end SqlGateway.Config
