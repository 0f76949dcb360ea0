/-
# From a YAML text to its tokens

The scan goes from left to right and turns indentation into tokens.  Two things need memory:

* **Indentation.**  A block opens where a line is indented further than the block around it, and
  every deeper block closes where a line is indented less.
* **Simple keys.**  Whether a scalar is a key shows only at the colon behind it.  So the place
  where a key may have begun is kept, one place per bracket, and the key token is put in there
  afterwards.  A key must stand on one line and within 1024 bytes.

Between brackets indentation does not count.
-/
import SqlGateway.Yaml.Scalar
import SqlGateway.Yaml.Tag

namespace SqlGateway.Yaml

open Yaml.Cursor

/-! ## 1. State -/

/-- A place where a key may have begun. -/
structure SimpleKey where
  /-- How many tokens stand before it. -/
  token : Nat
  index : Nat
  line : Nat
  column : Nat
  /-- Whether nothing but a key can stand there. -/
  required : Bool

/-- The state of the scan. -/
structure Scan where
  cursor : Cursor
  tokens : Array Token
  /-- The column of the innermost block; negative outside every block. -/
  indent : Int
  outerIndents : List Int
  /-- Where a key may have begun, inside the innermost bracket. -/
  key : Option SimpleKey
  /-- The same for each bracket around it. -/
  outerKeys : List (Option SimpleKey)
  /-- Whether a key may begin here. -/
  keyAllowed : Bool

namespace Scan

/-- The state before a text. -/
def start (text : List Char) : Scan where
  cursor := ⟨text, 0, 0, 0⟩
  tokens := #[]
  indent := -1
  outerIndents := []
  key := none
  outerKeys := []
  keyAllowed := true

/-- Whether the scan is between brackets. -/
def inFlow (s : Scan) : Bool := !s.outerKeys.isEmpty

/-- The state with one more token. -/
def emit (s : Scan) (t : Token) : Scan := { s with tokens := s.tokens.push t }

/-- The state with the cursor moved. -/
def moveTo (s : Scan) (c : Cursor) : Scan := { s with cursor := c }

/-! ## 2. Simple keys -/

/-- Whether the key can no longer be one. -/
def isStale (s : Scan) (k : SimpleKey) : Bool :=
  k.line < s.cursor.line || k.index + 1024 < s.cursor.index

/-- Gives up keys that can no longer be ones; a required key may not be given up. -/
def dropStaleKeys (s : Scan) : Option Scan :=
  let check (k : Option SimpleKey) : Option (Option SimpleKey) :=
    match k with
    | none => some none
    | some k => if s.isStale k then (if k.required then none else some none) else some (some k)
  do return { s with key := ← check s.key, outerKeys := ← s.outerKeys.mapM check }

/-- Gives up the key of the innermost bracket. -/
def dropKey (s : Scan) : Option Scan :=
  match s.key with
  | some k => if k.required then none else some { s with key := none }
  | none => some s

/-- Remembers that a key may begin here. -/
def saveKey (s : Scan) : Option Scan :=
  if s.keyAllowed then do
    let s ← s.dropKey
    let c := s.cursor
    return { s with key := some {
      token := s.tokens.size
      index := c.index
      line := c.line
      column := c.column
      required := !s.inFlow && s.indent == (c.column : Int) } }
  else some s

/-! ## 3. Indentation -/

/-- Opens a block at a column, if that lies deeper than the block around it.  Its token goes
before the token number `place`. -/
def openBlock (s : Scan) (column : Nat) (place : Nat) (t : Token) : Scan :=
  if s.inFlow || (column : Int) ≤ s.indent then s
  else
    { s with
      indent := column
      outerIndents := s.indent :: s.outerIndents
      tokens := s.tokens.insertIdxIfInBounds place t }

/-- Closes the blocks that lie deeper than a column; `outer` are the columns around them. -/
def closeBlocksFrom (column : Int) (tokens : Array Token) (indent : Int) :
    List Int → Array Token × Int × List Int
  | [] => (tokens, indent, [])
  | outer :: more =>
    if column < indent then closeBlocksFrom column (tokens.push .blockEnd) outer more
    else (tokens, indent, outer :: more)

/-- Closes the blocks that lie deeper than a column. -/
def closeBlocks (s : Scan) (column : Int) : Scan :=
  if s.inFlow then s
  else
    let (tokens, indent, outer) := closeBlocksFrom column s.tokens s.indent s.outerIndents
    { s with tokens := tokens, indent := indent, outerIndents := outer }

/-! ## 4. One token -/

/-- The cursor on the next token, and whether a key may begin there.  A tab may stand before it
only where no key may begin; a byte order mark may begin any line. -/
def skipToToken (flow keyAllowed : Bool) (c : Cursor) : Cursor × Bool :=
  let gap := c.skipMark.skipWhile fun x => x == ' ' || ((flow || !keyAllowed) && x == '\t')
  match _h : gap.skipComment.takeBreak with
  | some (_, next) => skipToToken flow (keyAllowed || !flow) next
  | none => (gap.skipComment, keyAllowed)
termination_by c.rest.length
decreasing_by
  calc next.rest.length
      _ < _ := length_of_takeBreak _h
      _ ≤ _ := length_skipComment_le _
      _ ≤ _ := length_skipWhile_le _ _
      _ ≤ c.rest.length := length_skipMark_le c

/-- Ends whatever is open outside brackets: blocks, and the key that might begin here. -/
def closeAll (s : Scan) : Option Scan := do
  let s ← (s.closeBlocks (-1)).dropKey
  return { s with keyAllowed := false }

/-- An opening bracket. -/
def openBracket (s : Scan) (rest : List Char) (t : Token) : Option Scan := do
  let s ← s.saveKey
  return { (s.emit t).moveTo (s.cursor.advance 1 rest) with
    key := none, outerKeys := s.key :: s.outerKeys, keyAllowed := true }

/-- A closing bracket. -/
def closeBracket (s : Scan) (rest : List Char) (t : Token) : Option Scan := do
  let s ← s.dropKey
  let s :=
    match s.outerKeys with
    | [] => s
    | k :: more => { s with key := k, outerKeys := more }
  return { (s.emit t).moveTo (s.cursor.advance 1 rest) with keyAllowed := false }

/-- A comma between brackets. -/
def comma (s : Scan) (rest : List Char) : Option Scan := do
  let s ← s.dropKey
  return { (s.emit .flowEntry).moveTo (s.cursor.advance 1 rest) with keyAllowed := true }

/-- A dash before an entry. -/
def dash (s : Scan) (rest : List Char) : Option Scan :=
  if !s.inFlow && !s.keyAllowed then none
  else do
    let s ← (s.openBlock s.cursor.column s.tokens.size .blockSequenceStart).dropKey
    return { (s.emit .blockEntry).moveTo (s.cursor.advance 1 rest) with keyAllowed := true }

/-- A question mark before a key. -/
def questionMark (s : Scan) (rest : List Char) : Option Scan :=
  if !s.inFlow && !s.keyAllowed then none
  else do
    let s ← (s.openBlock s.cursor.column s.tokens.size .blockMappingStart).dropKey
    return { (s.emit .key).moveTo (s.cursor.advance 1 rest) with keyAllowed := !s.inFlow }

/-- A colon before a value.  If a key may have begun on this line, it did. -/
def colon (s : Scan) (rest : List Char) : Option Scan :=
  let finish (s : Scan) (keyAllowed : Bool) : Scan :=
    { (s.emit .value).moveTo (s.cursor.advance 1 rest) with keyAllowed := keyAllowed }
  match s.key with
  | some k =>
    let s := { s with tokens := s.tokens.insertIdxIfInBounds k.token .key }
    let s := s.openBlock k.column k.token .blockMappingStart
    some (finish { s with key := none } false)
  | none =>
    if s.inFlow then some (finish s false)
    else if !s.keyAllowed then none
    else some (finish (s.openBlock s.cursor.column s.tokens.size .blockMappingStart) true)

/-- A token that may be a key, read by `take` from the cursor. -/
def keyLike (s : Scan) (take : Cursor → Option (Token × Cursor)) : Option Scan := do
  let s ← s.saveKey
  let (t, c) ← take s.cursor
  return { (s.emit t).moveTo c with keyAllowed := false }

/-- A block scalar, which is never a key. -/
def blockScalar (s : Scan) (literal : Bool) (rest : List Char) : Option Scan := do
  let s ← s.dropKey
  let (text, c) ← takeBlock literal s.indent (s.cursor.advance 1 rest)
  let style := if literal then ScalarStyle.literal else .folded
  return { (s.emit (.scalar style (String.ofList text))).moveTo c with keyAllowed := true }

/-- A plain scalar.  Behind a line end a key may begin again. -/
def plainScalar (s : Scan) : Option Scan := do
  let s ← s.saveKey
  let p ← takePlain s.inFlow (s.indent + 1).toNat s.cursor [] .none false
  return { (s.emit (.scalar .plain (String.ofList p.text))).moveTo p.cursor with
    keyAllowed := p.broken }

/-- Whether a plain scalar may begin with `x` before `rest`. -/
def plainMayBegin (flow : Bool) (x : Char) (rest : List Char) : Bool :=
  if x == '-' then !(rest.head?.map isBlank).getD false
  else if x == '?' || x == ':' then !flow && !gapAhead rest
  else !(isGap x || ",[]\x7b\x7d#&*!|>'\"%@\x60".toList.contains x)

/-- A named token behind an indicator. -/
def named (rest : List Char) (make : String → Token) (c : Cursor) : Option (Token × Cursor) :=
  (takeAnchor (c.advance 1 rest)).map fun (name, c) => (make name, c)

/-- A quoted scalar from its opening quote on. -/
def quotedFrom (single : Bool) (rest : List Char) (c : Cursor) : Option (Token × Cursor) :=
  (takeQuoted single (rest.length + 1) (c.advance 1 rest) []).map fun (text, c) =>
    (.scalar (if single then .singleQuoted else .doubleQuoted) (String.ofList text), c)

/-- Takes the token that begins with `x` before `rest`. -/
def takeToken (s : Scan) (x : Char) (rest : List Char) : Option Scan :=
  let c := s.cursor
  if c.column == 0 && x == '%' then do
    let s ← s.closeAll
    let (t, c) ← takeDirective (s.cursor.advance 1 rest)
    return (s.emit t).moveTo c
  else if c.column == 0 && documentMark (x :: rest) then do
    let s ← s.closeAll
    return (s.emit (if x == '-' then .documentStart else .documentEnd)).moveTo
      (s.cursor.advance 3 (rest.drop 2))
  else if x == '[' then s.openBracket rest .flowSequenceStart
  else if x == '\x7b' then s.openBracket rest .flowMappingStart
  else if x == ']' then s.closeBracket rest .flowSequenceEnd
  else if x == '\x7d' then s.closeBracket rest .flowMappingEnd
  else if x == ',' then s.comma rest
  else if x == '-' && gapAhead rest then s.dash rest
  else if x == '?' && (s.inFlow || gapAhead rest) then s.questionMark rest
  else if x == ':' && (s.inFlow || gapAhead rest) then s.colon rest
  else if x == '*' then s.keyLike (named rest .alias)
  else if x == '&' then s.keyLike (named rest .anchor)
  else if x == '!' then s.keyLike (takeTag s.inFlow)
  else if x == '|' && !s.inFlow then s.blockScalar true rest
  else if x == '>' && !s.inFlow then s.blockScalar false rest
  else if x == '\'' then s.keyLike (quotedFrom true rest)
  else if x == '"' then s.keyLike (quotedFrom false rest)
  else if plainMayBegin s.inFlow x rest then s.plainScalar
  else none

/-! ## 5. The whole text -/

/-- The state at the next token: stale keys given up, deeper blocks closed. -/
def toToken (s : Scan) : Option Scan := do
  let (c, keyAllowed) := skipToToken s.inFlow s.keyAllowed s.cursor
  let s ← { s with cursor := c, keyAllowed := keyAllowed }.dropStaleKeys
  return s.closeBlocks c.column

/-- Takes the tokens to the end of the text.  Every token takes a character. -/
def run : Nat → Scan → Option (Array Token)
  | 0, _ => none
  | fuel + 1, s => do
    let s ← s.toToken
    match s.cursor.rest with
    | [] =>
      let s ← s.closeAll
      return s.tokens.push .streamEnd
    | x :: rest => run fuel (← s.takeToken x rest)

end Scan

/-- The tokens of a text; none if it is no YAML. -/
def tokens? (text : String) : Option (List Token) :=
  let cs := text.toList
  if cs.all isAllowed then (Scan.run (cs.length + 1) (.start cs)).map Array.toList else none

end SqlGateway.Yaml
