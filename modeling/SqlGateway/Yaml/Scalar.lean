/-
# Scalars of a YAML text

The five ways to write a scalar.  Each reader starts behind the indicator, if there is one, and
returns the text of the scalar and the cursor behind it.

* A plain scalar ends at `: `, at ` #`, in brackets at a flow indicator, and where a line is
  indented too little.
* A quoted scalar ends at its quote; line ends in it fold.
* A block scalar is the lines that are indented at least as far as its first.
-/
import SqlGateway.Yaml.Cursor

namespace SqlGateway.Yaml

open Yaml.Cursor

/-! ## 1. Plain scalars -/

/-- Whether `c` ends a plain scalar between brackets. -/
def isFlowIndicator (c : Char) : Bool :=
  c == ',' || c == '[' || c == ']' || c == '\x7b' || c == '\x7d'

/-- A plain scalar, the cursor behind it, and whether lines ended on the way there. -/
structure Plain where
  text : List Char
  cursor : Cursor
  broken : Bool

/-- Takes a plain scalar whose text so far is `seen`, in reverse.  In brackets (`flow`) a colon
before a flow indicator or a question mark is refused. -/
def takePlain (flow : Bool) (indent : Nat) (c : Cursor) (seen : List Char) (gap : Gap)
    (broken : Bool) : Option Plain :=
  match _h : c.rest with
  | [] => some ⟨seen.reverse, c, broken⟩
  | x :: rest =>
    if _hx : isGap x then
      match _hg : takeGap (some indent) c false .none with
      | none => none
      | some (gap, broken, c') =>
        if (!flow && c'.column < indent) || (c'.column == 0 && documentMark c'.rest)
            || c'.rest.head? == some '#' then
          some ⟨seen.reverse, c', broken⟩
        else takePlain flow indent c' seen gap broken
    else if flow && x == ':'
        && (rest.head?.map fun y => isFlowIndicator y || y == '?').getD false then none
    else if (x == ':' && gapAhead rest) || (flow && isFlowIndicator x) then
      some ⟨seen.reverse, c, broken⟩
    else takePlain flow indent (c.advance 1 rest) (x :: (gap.text.reverse ++ seen)) .none false
termination_by c.rest.length
decreasing_by
  · exact length_of_takeGap_of_gap _h _hx _hg
  · simp [advance, _h]

/-! ## 2. Quoted scalars -/

/-- The character of a one-letter escape. -/
def simpleEscape (c : Char) : Option Char :=
  match c with
  | '0' => some '\x00'
  | 'a' => some '\x07'
  | 'b' => some '\x08'
  | 't' => some '\t'
  | '\t' => some '\t'
  | 'n' => some '\n'
  | 'v' => some '\x0b'
  | 'f' => some '\x0c'
  | 'r' => some '\r'
  | 'e' => some '\x1b'
  | ' ' => some ' '
  | '"' => some '"'
  | '/' => some '/'
  | '\\' => some '\\'
  | 'N' => some '\x85'
  | '_' => some '\xa0'
  | 'L' => some '\u2028'
  | 'P' => some '\u2029'
  | _ => none

/-- How many hexadecimal digits follow the letter of an escape. -/
def escapeDigits (c : Char) : Option Nat :=
  match c with
  | 'x' => some 2
  | 'u' => some 4
  | 'U' => some 8
  | _ => none

/-- The value of a hexadecimal digit. -/
def hexDigit? (c : Char) : Option Nat :=
  if c.isDigit then some (c.toNat - 48)
  else if 'a' ≤ c && c ≤ 'f' then some (c.toNat - 87)
  else if 'A' ≤ c && c ≤ 'F' then some (c.toNat - 55)
  else none

/-- The value of hexadecimal digits. -/
def hexNumber? (cs : List Char) : Option Nat :=
  cs.foldl (fun n c => n.bind fun n => (hexDigit? c).map (n * 16 + ·)) (some 0)

/-- The character with code point `n`, unless `n` is a surrogate or too large. -/
def charOf? (n : Nat) : Option Char := if n.isValidChar then some (Char.ofNat n) else none

/-- Takes an escape behind the backslash, other than an escaped line end. -/
def takeEscape (c : Cursor) : Option (Char × Cursor) :=
  match c.rest with
  | [] => none
  | x :: rest =>
    match simpleEscape x, escapeDigits x with
    | some y, _ => some (y, c.advance 1 rest)
    | none, some n =>
      if rest.length < n then none
      else do
        let value ← hexNumber? (rest.take n)
        let y ← charOf? value
        return (y, c.advance (n + 1) (rest.drop n))
    | none, none => none

/-- Takes a quoted scalar behind its opening quote; `seen` is its text so far, in reverse.  A
document mark in column 0 and the end of the text are refused. -/
def takeQuoted (single : Bool) : Nat → Cursor → List Char → Option (List Char × Cursor)
  | 0, _, _ => none
  | fuel + 1, c, seen =>
    if c.column == 0 && documentMark c.rest then none
    else
      match c.rest with
      | [] => none
      | '\'' :: '\'' :: rest =>
        if single then takeQuoted single fuel (c.advance 2 rest) ('\'' :: seen)
        else takeQuoted single fuel (c.advance 2 rest) ('\'' :: '\'' :: seen)
      | x :: rest =>
        if x == (if single then '\'' else '"') then some (seen.reverse, c.advance 1 rest)
        else if !single && x == '\\' then
          let c := c.advance 1 rest
          if !rest.isEmpty && breakAhead rest then do
            let (gap, _, c) ← takeGap none c.skipBreak true .none
            takeQuoted single fuel c (gap.text.reverse ++ seen)
          else do
            let (y, c) ← takeEscape c
            takeQuoted single fuel c (y :: seen)
        else if isGap x then do
          let (gap, _, c) ← takeGap none c false .none
          takeQuoted single fuel c (gap.text.reverse ++ seen)
        else takeQuoted single fuel (c.advance 1 rest) (x :: seen)

/-! ## 3. Block scalars -/

/-- What happens to the line ends behind the last line. -/
inductive Chomping where
  | strip
  | clip
  | keep
deriving DecidableEq, Repr

/-- The header of a block scalar: its chomping, and the indentation if it is given. -/
structure BlockHeader where
  chomping : Chomping
  indentation : Option Nat

/-- Takes an indentation digit, if one stands here; zero is refused. -/
def takeIndentation (c : Cursor) : Option (Option Nat × Cursor) :=
  match c.rest with
  | x :: rest =>
    if x == '0' then none
    else if x.isDigit then some (some (x.toNat - 48), c.advance 1 rest)
    else some (none, c)
  | [] => some (none, c)

/-- Takes a chomping indicator, if one stands here. -/
def takeChomping (c : Cursor) : Option Chomping × Cursor :=
  match c.rest with
  | '+' :: rest => (some .keep, c.advance 1 rest)
  | '-' :: rest => (some .strip, c.advance 1 rest)
  | _ => (none, c)

/-- Takes the header of a block scalar and the line end behind it. -/
def takeHeader (c : Cursor) : Option (BlockHeader × Cursor) := do
  let (before, c) := takeChomping c
  let (indentation, c) ← takeIndentation c
  let (chomping, c) :=
    match before, indentation with
    | none, some _ => takeChomping c
    | _, _ => (before, c)
  let c ← c.finishLine?
  return (⟨chomping.getD .clip, indentation⟩, c)

/-- Takes empty lines and the indentation of the next line, up to column `indent` if that is
known.  Returns the line ends, the cursor, and the deepest column seen. -/
def takeEmptyLines (indent : Option Nat) (c : Cursor) (breaks : List Char) (deepest : Nat) :
    Option (List Char × Cursor × Nat) :=
  let within (column : Nat) : Bool := (indent.map (decide <| column < ·)).getD true
  match _h : c.rest with
  | [] => some (breaks, c, max deepest c.column)
  | x :: rest =>
    if x == ' ' && within c.column then takeEmptyLines indent (c.advance 1 rest) breaks deepest
    else
      let deepest := max deepest c.column
      if x == '\t' && within c.column then none
      else
        match hb : c.takeBreak with
        | none => some (breaks, c, deepest)
        | some (b, c') =>
          have := length_of_takeBreak hb
          takeEmptyLines indent c' (breaks ++ [b]) deepest
termination_by c.rest.length
decreasing_by
  · simp [advance, _h]
  · assumption

/-- Takes the lines of a block scalar.  `seen` is the text so far, in reverse; `lastBreak` and
`breaks` are the line ends behind it that still may fold, and `indented` tells whether its last line
began with a blank. -/
def takeLines (literal : Bool) (indent : Nat) : Nat → Cursor → List Char → List Char → List Char →
    Bool → Option (List Char × List Char × List Char × Cursor)
  | 0, _, _, _, _, _ => none
  | fuel + 1, c, seen, lastBreak, breaks, indented =>
    if c.column != indent || c.rest.isEmpty then some (seen.reverse, lastBreak, breaks, c)
    else do
      let blank := (c.rest.head?.map isBlank).getD false
      let folds := !literal && lastBreak == ['\n'] && !indented && !blank
      let joint := if folds then (if breaks.isEmpty then [' '] else []) else lastBreak
      let (line, c) := c.takeWhile (!isBreak ·)
      let (lastBreak, c) :=
        match c.takeBreak with
        | some (b, c') => ([b], c')
        | none => ([], c)
      let seen := (joint ++ breaks ++ line).reverse ++ seen
      let (breaks, c, _) ← takeEmptyLines (some indent) c [] 0
      takeLines literal indent fuel c seen lastBreak breaks blank

/-- Takes a block scalar behind its indicator, inside a block of the given indentation, which is
negative at the top. -/
def takeBlock (literal : Bool) (parent : Int) (c : Cursor) : Option (List Char × Cursor) := do
  let (header, c) ← takeHeader c
  let given : Option Nat := header.indentation.map fun n =>
    if 0 ≤ parent then parent.toNat + n else n
  let (breaks, c, deepest) ← takeEmptyLines given c [] 0
  let indent := given.getD (max (max deepest (parent + 1).toNat) 1)
  let (text, lastBreak, breaks, c) ←
    takeLines literal indent (c.rest.length + 1) c [] [] breaks false
  let ending :=
    match header.chomping with
    | .strip => []
    | .clip => lastBreak
    | .keep => lastBreak ++ breaks
  return (text ++ ending, c)

end SqlGateway.Yaml
