/-
# Patterns of text

Which texts are patterns: letters, sets in brackets, groups in parentheses, alternatives, repetitions
and escapes.  Nothing is matched here; a pattern is only checked, so the parts of it are read from left
to right and nothing is kept of them but whether something stands before a repetition, and which
parentheses and brackets are open.

A fault is told with the pattern itself and marks below the place:

* a missing or unknown thing is marked where it should stand or stands;
* what is not closed is marked where it was opened;
* of a name or flag that comes twice both places are marked.

A pattern that asks for the edges of words has no automaton, which shows only when all else is right.
-/
import SqlGateway.Number.Digits
import SqlGateway.Text.Alphanumeric
import SqlGateway.Text.Blank

namespace SqlGateway.Text.Pattern

/-! ## 1. Faults -/

/-- What is wrong with a pattern. -/
inductive Cause where
  | nothingToRepeat
  | countUnclosed
  | countMissing
  | countInvalid
  | countOrder
  | setUnclosed
  | setEscape
  | rangeOrder
  | rangeEdge
  | groupUnclosed
  | groupUnopened
  | lookAround
  | nameEmpty
  | nameCharacter
  | nameUnclosed
  | nameRepeated
  | flagUnknown
  | flagRepeated
  | negationRepeated
  | negationDangling
  | flagsUnclosed
  | escapeUnclosed
  | escapeUnknown
  | backreference
  | hexDigit
  | hexEmpty
  | hexValue
  | propertyInvalid
  | propertyUnknown
  | edgeUnclosed
  | edgeOrCountUnclosed
deriving DecidableEq, Repr

/-- The wording of the cause. -/
def Cause.message : Cause → String
  | nothingToRepeat => "repetition operator missing expression"
  | countUnclosed => "unclosed counted repetition"
  | countMissing => "repetition quantifier expects a valid decimal"
  | countInvalid => "decimal literal invalid"
  | countOrder => "invalid repetition count range, the start must be <= the end"
  | setUnclosed => "unclosed character class"
  | setEscape => "invalid escape sequence found in character class"
  | rangeOrder => "invalid character class range, the start must be <= the end"
  | rangeEdge => "invalid range boundary, must be a literal"
  | groupUnclosed => "unclosed group"
  | groupUnopened => "unopened group"
  | lookAround => "look-around, including look-ahead and look-behind, is not supported"
  | nameEmpty => "empty capture group name"
  | nameCharacter => "invalid capture group character"
  | nameUnclosed => "unclosed capture group name"
  | nameRepeated => "duplicate capture group name"
  | flagUnknown => "unrecognized flag"
  | flagRepeated => "duplicate flag"
  | negationRepeated => "flag negation operator repeated"
  | negationDangling => "dangling flag negation operator"
  | flagsUnclosed => "expected flag but got end of regex"
  | escapeUnclosed => "incomplete escape sequence, reached end of pattern prematurely"
  | escapeUnknown => "unrecognized escape sequence"
  | backreference => "backreferences are not supported"
  | hexDigit => "invalid hexadecimal digit"
  | hexEmpty => "hexadecimal literal empty"
  | hexValue => "hexadecimal literal is not a Unicode scalar value"
  | propertyInvalid => "invalid Unicode character class"
  | propertyUnknown => "Unicode property not found"
  | edgeUnclosed => "special word boundary assertion is either unclosed or contains an invalid " ++
      "character"
  | edgeOrCountUnclosed => "found either the beginning of a special word boundary or a bounded " ++
      "repetition on a \\b with an opening brace, but no closing brace"

/-- A cause, and the characters that it shows at. -/
structure Mark where
  cause : Cause
  start : Nat
  width : Nat
  /-- Where the same stood before. -/
  earlier : Option Nat
deriving DecidableEq, Repr

/-- Why a text is no pattern that can be used. -/
inductive Fault where
  | malformed (text : List Char) (m : Mark)
  /-- It asks for the edges of words. -/
  | edges
deriving DecidableEq, Repr

/-- The marks below a pattern. -/
def Mark.line (m : Mark) : List Char :=
  let carets := List.replicate (max 1 m.width) '^'
  match m.earlier with
  | none => List.replicate m.start ' ' ++ carets
  | some e =>
    List.replicate e ' ' ++ carets ++ List.replicate (m.start - e - carets.length) ' ' ++ carets

/-- The wordings of the reasons, the innermost at the end. -/
def Fault.reasons : Fault → List String
  | malformed text m =>
    ["error building NFA", "error parsing regex",
      "regex parse error:\n    " ++ String.ofList text ++ "\n    " ++ String.ofList m.line ++
        "\nerror: " ++ m.cause.message]
  | edges =>
    ["unsupported regex feature for DFAs: cannot build DFAs for regexes with Unicode word " ++
      "boundaries; switch to ASCII word boundaries, or heuristically enable Unicode word " ++
      "boundaries or use a different regex engine"]

/-- A fault at `width` characters from `start` on. -/
def fault {α : Type} (cause : Cause) (start width : Nat) : Except Mark α :=
  .error ⟨cause, start, width, none⟩

/-! ## 2. Places -/

/-- The rest of a pattern, and how many characters stand before it. -/
structure Place where
  rest : List Char
  index : Nat
  /-- Whether blanks and comments count for nothing. -/
  loose : Bool

/-- `cs` without the blanks and comments in front. -/
def skipGap (inComment : Bool) : List Char → List Char
  | [] => []
  | c :: cs =>
    if inComment then skipGap (c != '\n') cs
    else if isBlank c then skipGap false cs
    else if c == '#' then skipGap true cs
    else c :: cs

namespace Place

/-- The place behind blanks and comments, if these count for nothing. -/
def skip (p : Place) : Place :=
  if p.loose then
    let rest := skipGap false p.rest
    { p with rest := rest, index := p.index + (p.rest.length - rest.length) }
  else p

/-- The place behind one character. -/
def step (p : Place) : Place := { p with rest := p.rest.drop 1, index := p.index + 1 }

/-- The place behind one character and what counts for nothing. -/
def advance (p : Place) : Place := p.step.skip

/-- The place behind `n` characters. -/
def jump (p : Place) (n : Nat) : Place := { p with rest := p.rest.drop n, index := p.index + n }

/-- Whether `cs` stands here. -/
def isAt (p : Place) (cs : String) : Bool := cs.toList.isPrefixOf p.rest

/-- The longest run of characters from here on that satisfy `ok`, each followed by `advance`. -/
def takeRun (ok : Char → Bool) : Nat → Place → List Char × Place
  | 0, p => ([], p)
  | fuel + 1, p =>
    match p.rest with
    | c :: _ =>
      if ok c then
        let (run, q) := takeRun ok fuel p.advance
        (c :: run, q)
      else ([], p)
    | [] => ([], p)

/-- The longest run of characters from here on that satisfy `ok`. -/
def run (ok : Char → Bool) (p : Place) : List Char × Place := takeRun ok p.rest.length p

end Place

/-! ## 3. Escapes -/

/-- What an escape or a single character stands for. -/
inductive Atom where
  | letter (code : Nat)
  /-- A set of characters; it may have a name that is none. -/
  | set (wrong : Option Mark)
  /-- A condition on the place. -/
  | anchor (edge : Bool)

/-- The characters that have a meaning of their own in a pattern. -/
def isMeta (c : Char) : Bool := "\\.+*?()|[]\x7b\x7d^$#&-~".toList.contains c

/-- The letters that stand for a control behind a backslash. -/
def control? (c : Char) : Option Nat :=
  [('a', 7), ('f', 12), ('t', 9), ('n', 10), ('r', 13), ('v', 11)].lookup c

/-- The number that hexadecimal digits say. -/
def hexNumber (cs : List Char) : Nat := cs.foldl (fun n c => n * 16 + Digits.hexValue c) 0

/-- The letter with a number in hexadecimal digits, which stand from `start` on and end before `p`. -/
def hexLetter (digits : List Char) (start : Nat) (p : Place) : Except Mark (Atom × Place) :=
  let n := hexNumber digits
  if n.isValidChar then .ok (.letter n, p) else fault .hexValue start (p.index - start)

/-- Takes `n` hexadecimal digits. -/
def takeHexDigits : Nat → Place → Except Mark (List Char × Place)
  | 0, p => .ok ([], p)
  | n + 1, p =>
    match p.rest with
    | [] => fault .escapeUnclosed p.index 0
    | c :: _ =>
      if !Digits.isHex c then fault .hexDigit p.index 1
      else do
        let (more, q) ← takeHexDigits n p.advance
        return (c :: more, q)

/-- Takes the number behind `x`, `u` or `U`, which stands at `p`: some digits, or any in braces. -/
def takeHex (count : Nat) (p : Place) : Except Mark (Atom × Place) :=
  let p := p.advance
  match p.rest with
  | '\x7b' :: _ =>
    let (digits, q) := p.advance.run Digits.isHex
    match q.rest with
    | [] => fault .escapeUnclosed p.index (q.index - p.index)
    | '\x7d' :: _ =>
      if digits.isEmpty then fault .hexEmpty p.index (q.index + 1 - p.index)
      else (hexLetter digits (p.index + 1) q).map fun (a, _) => (a, q.advance)
    | _ => fault .hexDigit q.index 1
  | _ => do
    let (digits, q) ← takeHexDigits count p
    hexLetter digits p.index q

/-- Takes the property behind `\p`, which begins at `start`; the `p` stands at `p`. -/
def takeProperty (start : Nat) (p : Place) : Except Mark (Atom × Place) :=
  let p := p.advance
  match p.rest with
  | [] => fault .escapeUnclosed p.index 0
  | '\x7b' :: _ =>
    let (_, q) := p.advance.run (· != '\x7d')
    if q.rest.isEmpty then fault .escapeUnclosed q.index 0 else .ok (.set none, q.advance)
  | '\\' :: _ => fault .propertyInvalid p.index 1
  | c :: _ =>
    let q := p.advance
    let known := "CcLlMmNnPpSsZz".toList.contains c
    .ok (.set (if known then none else some ⟨.propertyUnknown, start, q.index - start, none⟩), q)

/-- Takes what may follow `\b` in braces, given where the escape begins.  What is no word is left to be
a count. -/
def takeEdge (start : Nat) (p : Place) : Except Mark (Atom × Place) :=
  match p.rest with
  | '\x7b' :: _ =>
    let q := p.advance
    match q.rest with
    | [] => fault .edgeOrCountUnclosed start (q.index - start)
    | c :: _ =>
      let inName (c : Char) : Bool := c.isAlpha || c == '-'
      if !inName c then .ok (.anchor true, p)
      else
        let (_, r) := q.run inName
        if r.isAt "\x7d" then .ok (.anchor true, r.step)
        else fault .edgeUnclosed p.index (r.index - p.index)
  | _ => .ok (.anchor true, p)

/-- Takes an escape from its backslash on. -/
def takeEscape (p : Place) : Except Mark (Atom × Place) :=
  let start := p.index
  let p := p.step
  match p.rest with
  | [] => fault .escapeUnclosed start 1
  | c :: _ =>
    if c.isDigit then fault .backreference start 2
    else if c == 'x' then takeHex 2 p
    else if c == 'u' then takeHex 4 p
    else if c == 'U' then takeHex 8 p
    else if c == 'p' || c == 'P' then takeProperty start p
    else if "dswDSW".toList.contains c then .ok (.set none, p.step)
    else if isMeta c then .ok (.letter c.toNat, p.step)
    else if c.toNat < 128 && !c.isAlphanum && c != '<' && c != '>' then .ok (.letter c.toNat, p.step)
    else
      match control? c with
      | some n => .ok (.letter n, p.step)
      | none =>
        if c == 'A' || c == 'z' then .ok (.anchor false, p.step)
        else if c == 'b' then takeEdge start p.step
        else if c == 'B' || c == '<' || c == '>' then .ok (.anchor true, p.step)
        else fault .escapeUnknown start 2

/-! ## 4. Sets -/

/-- What shows only when the whole pattern has been read. -/
structure Later where
  wrong : Option Mark
  edge : Bool

/-- Takes note of an atom. -/
def Later.note (l : Later) : Atom → Later
  | .letter _ => l
  | .set wrong => { l with wrong := l.wrong.or wrong }
  | .anchor edge => { l with edge := l.edge || edge }

/-- The names of sets that may stand between `[:` and `:]`. -/
def namedSets : List String :=
  ["alnum", "alpha", "ascii", "blank", "cntrl", "digit", "graph", "lower", "print", "punct", "space",
    "upper", "word", "xdigit"]

/-- The place behind a set like `[:alpha:]`, if one stands here. -/
def namedSet? (p : Place) : Option Place :=
  if !p.isAt "[:" then none
  else
    let skipped := if (p.jump 2).isAt "^" then 3 else 2
    let inner := p.jump skipped
    let name := inner.rest.takeWhile (· != ':')
    let behind := inner.jump name.length
    if behind.isAt ":]" && namedSets.contains (String.ofList name) then some (behind.jump 2)
    else none

/-- Opens a set whose bracket stands here: where it began and how much of it has been read. -/
def openSet (p : Place) : Except Mark ((Nat × Nat) × Place) :=
  let start := p.index
  let unclosed {α : Type} (q : Place) : Except Mark α := fault .setUnclosed start (q.index - start)
  let p := p.advance
  if p.rest.isEmpty then unclosed p
  else
    let p := if p.isAt "^" then p.advance else p
    if p.rest.isEmpty then unclosed p
    else
      let (dashes, p) := p.run (· == '-')
      if p.rest.isEmpty then fault .setUnclosed start 0
      else
        let p := if dashes.isEmpty && p.isAt "]" then p.advance else p
        if p.rest.isEmpty then unclosed p else .ok ((start, p.index - start), p)

/-- Takes an escape or a character in a set. -/
def takeMember (p : Place) : Except Mark (Atom × Place) :=
  match p.rest with
  | '\\' :: _ => takeEscape p
  | c :: _ => .ok (.letter c.toNat, p.step)
  | [] => .ok (.set none, p)

/-- Takes a member of a set, or a range of them; `unclosed` is the fault of a set that does not end. -/
def takeRange (unclosed : Mark) (p : Place) : Except Mark (List Atom × Place) := do
  let (first, behind) ← takeMember p
  let q := behind.skip
  if q.rest.isEmpty then throw unclosed
  let beyond := q.advance
  if !q.isAt "-" || beyond.isAt "]" || beyond.isAt "-" then
    match first with
    | .anchor _ => fault .setEscape p.index (behind.index - p.index)
    | _ => return ([first], q)
  else
    if beyond.rest.isEmpty then throw unclosed
    let (last, r) ← takeMember beyond
    match first, last with
    | .letter a, .letter b =>
      if b < a then fault .rangeOrder p.index (r.index - p.index) else return ([], r)
    | .letter _, _ => fault .rangeEdge beyond.index (r.index - beyond.index)
    | _, _ => fault .rangeEdge p.index (behind.index - p.index)

/-- Takes a set up to its closing bracket; `opened` are the sets that are open, the innermost first. -/
def takeSet : Nat → List (Nat × Nat) → Later → Place → Except Mark (Later × Place)
  | 0, _, l, p => .ok (l, p)
  | fuel + 1, opened, l, p =>
    let p := p.skip
    let unclosed : Mark :=
      match opened with
      | (start, width) :: _ => ⟨.setUnclosed, start, width, none⟩
      | [] => ⟨.setUnclosed, p.index, 1, none⟩
    match p.rest with
    | [] => .error unclosed
    | '[' :: _ =>
      match if opened.isEmpty then none else namedSet? p with
      | some q => takeSet fuel opened l q
      | none => do
        let (o, q) ← openSet p
        takeSet fuel (o :: opened) l q
    | ']' :: _ =>
      match opened with
      | _ :: o :: outer => takeSet fuel (o :: outer) l p.step
      | _ => .ok (l, p.step)
    | _ =>
      if p.isAt "&&" || p.isAt "--" || p.isAt "~~" then takeSet fuel opened l (p.jump 2)
      else do
        let (atoms, q) ← takeRange unclosed p
        takeSet fuel opened (atoms.foldl Later.note l) q

/-! ## 5. Groups -/

/-- How far a pattern has been read. -/
structure Scan where
  place : Place
  /-- Whether something stands here that can be repeated. -/
  repeatable : Bool
  /-- The open parentheses, the innermost first, each with whether blanks counted around it. -/
  groups : List (Nat × Bool)
  /-- The names of groups, and where they stand. -/
  names : List (List Char × Nat)
  later : Later

namespace Scan

/-- Whether `c` may stand in the name of a group. -/
def inName (first : Bool) (c : Char) : Bool :=
  c == '_' || (if first then isAlphanumeric c && !c.isDigit
    else isAlphanumeric c || c == '.' || c == '[' || c == ']')

/-- Opens a group at `start` that is read from `p` on. -/
def openGroup (s : Scan) (start : Nat) (p : Place) : Scan :=
  { s with place := p, repeatable := false, groups := (start, s.place.loose) :: s.groups }

/-- Takes a group's name, which stands at `p`, and opens the group. -/
def openNamed (s : Scan) (start : Nat) (p : Place) : Except Mark Scan :=
  let name := p.rest.takeWhile (· != '>')
  let wrong := name.zipIdx.find? fun (c, i) => !inName (i == 0) c
  match wrong with
  | some (_, i) => fault .nameCharacter (p.index + i) 1
  | none =>
    let q := p.jump name.length
    if q.rest.isEmpty then fault .nameUnclosed q.index 0
    else if name.isEmpty then fault .nameEmpty p.index 0
    else
      match s.names.lookup name with
      | some e => .error ⟨.nameRepeated, p.index, name.length, some e⟩
      | none => .ok { s.openGroup start q.step with names := (name, p.index) :: s.names }

/-- Takes flags up to `:` or `)`; `seen` are the ones before, with their places. -/
def takeFlags : Nat → List (Char × Nat) → Place → Except Mark (List (Char × Nat) × Place)
  | 0, seen, p => .ok (seen, p)
  | fuel + 1, seen, p =>
    match p.rest with
    | [] => fault .flagsUnclosed p.index 0
    | c :: _ =>
      if c == ':' || c == ')' then
        match seen.getLast? with
        | some ('-', i) => fault .negationDangling i 1
        | _ => .ok (seen, p)
      else if c != '-' && !"imsUuRx".toList.contains c then fault .flagUnknown p.index 1
      else
        match seen.lookup c with
        | some e =>
          .error ⟨if c == '-' then .negationRepeated else .flagRepeated, p.index, 1, some e⟩
        | none => takeFlags fuel (seen ++ [(c, p.index)]) p.step

/-- Whether flags say that blanks count for nothing. -/
def loosened (flags : List (Char × Nat)) (before : Bool) : Bool :=
  let letters := flags.map (·.1)
  if letters.contains 'x' then !(letters.takeWhile (· != 'x')).contains '-' else before

/-- Takes flags behind `(?`, which stand at `p`; they are for a group or for what follows. -/
def openFlagged (s : Scan) (start : Nat) (question p : Place) : Except Mark Scan := do
  if p.rest.isEmpty then fault .groupUnclosed start 1
  else
    let (flags, q) ← takeFlags (p.rest.length + 1) [] p
    let loose := loosened flags s.place.loose
    let behind := { q.step with loose := loose }
    if q.isAt ":" then return s.openGroup start behind
    else if flags.isEmpty then fault .nothingToRepeat question.index 0
    else return { s with place := behind, repeatable := false }

/-- Opens a group whose parenthesis stands here. -/
def openAny (s : Scan) : Except Mark Scan :=
  let start := s.place.index
  let p := s.place.advance
  let looking := ["?=", "?!", "?<=", "?<!"].find? fun w => p.isAt w
  match looking with
  | some w => fault .lookAround start (p.index + w.length - start)
  | none =>
    if p.isAt "?P<" then s.openNamed start (p.jump 3)
    else if p.isAt "?<" then s.openNamed start (p.jump 2)
    else if p.isAt "?" then s.openFlagged start p p.step
    else .ok (s.openGroup start p)

/-- Closes the innermost group. -/
def closeGroup (s : Scan) : Except Mark Scan :=
  match s.groups with
  | [] => fault .groupUnopened s.place.index 1
  | (_, loose) :: outer =>
    .ok { s with
      place := { s.place.step with loose := loose }, repeatable := true, groups := outer }

/-! ## 6. Repetitions -/

/-- The fault of a repetition that has nothing to repeat. -/
def checkRepeatable (s : Scan) : Except Mark Unit :=
  if s.repeatable then .ok () else fault .nothingToRepeat s.place.index 0

/-- Takes `?`, `*` or `+`, and a `?` behind it. -/
def takeRepetition (s : Scan) : Except Mark Scan := do
  s.checkRepeatable
  let p := s.place.step
  return { s with place := if p.isAt "?" then p.step else p }

/-- The largest count. -/
def largestCount : Nat := 0xFFFFFFFF

/-- Takes a number: none where no digit stands. -/
def takeCount (p : Place) : Except Mark (Option Nat × Place) :=
  let (_, p) := p.run isBlank
  let (digits, q) := p.run Char.isDigit
  let (_, behind) := q.run isBlank
  if digits.isEmpty then .ok (none, behind)
  else if largestCount < Digits.value digits then fault .countInvalid p.index (q.index - p.index)
  else .ok (some (Digits.value digits), behind)

/-- Takes a count in braces. -/
def takeCounted (s : Scan) : Except Mark Scan := do
  s.checkRepeatable
  let start := s.place.index
  let inside := s.place.advance
  let finish (p : Place) : Except Mark Scan :=
    if p.isAt "\x7d" then
      let p := p.step
      .ok { s with place := if p.isAt "?" then p.step else p }
    else fault .countUnclosed start (p.index - start)
  let rest := inside.run fun c => c.isDigit || isBlank c
  if rest.2.rest.isEmpty then fault .countUnclosed start (rest.2.index - start)
  else
    let (low, p) ← takeCount inside
    if p.isAt "," then
      let (high, q) ← takeCount p.advance
      match low, high with
      | some a, some b => if b < a then fault .countOrder start (q.index + 1 - start) else finish q
      | _, _ => finish q
    else
      match low with
      | none => fault .countMissing p.index 0
      | some _ => finish p

/-! ## 7. The whole -/

/-- Takes the next part of a pattern, which begins with `c`. -/
def next (s : Scan) (c : Char) : Except Mark Scan :=
  let atom (r : Except Mark (Atom × Place)) : Except Mark Scan :=
    r.map fun (a, p) => { s with place := p, repeatable := true, later := s.later.note a }
  if c == '(' then s.openAny
  else if c == ')' then s.closeGroup
  else if c == '|' then .ok { s with place := s.place.step, repeatable := false }
  else if c == '[' then
    (takeSet (2 * s.place.rest.length + 1) [] s.later s.place).map fun (l, p) =>
      { s with place := p, repeatable := true, later := l }
  else if c == '?' || c == '*' || c == '+' then s.takeRepetition
  else if c == '\x7b' then s.takeCounted
  else if c == '\\' then atom (takeEscape s.place)
  else if c == '^' || c == '$' then atom (.ok (.anchor false, s.place.step))
  else atom (.ok (.letter c.toNat, s.place.step))

/-- Reads a pattern to its end. -/
def readAll : Nat → Scan → Except Mark Scan
  | 0, s => .ok s
  | fuel + 1, s =>
    let s := { s with place := s.place.skip }
    match s.place.rest with
    | c :: _ => do readAll fuel (← s.next c)
    | [] =>
      match s.groups with
      | (start, _) :: _ => fault .groupUnclosed start 1
      | [] => .ok s

end Scan

/-- Refuses what is no pattern that can be used. -/
def check (text : List Char) : Except Fault Unit :=
  let start : Scan := ⟨⟨text, 0, false⟩, false, [], [], ⟨none, false⟩⟩
  match Scan.readAll (text.length + 1) start with
  | .error m => .error (.malformed text m)
  | .ok s =>
    match s.later.wrong with
    | some m => .error (.malformed text m)
    | none => if s.later.edge then .error .edges else .ok ()

end SqlGateway.Text.Pattern
