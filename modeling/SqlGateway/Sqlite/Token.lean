/-
# Tokens of SQLite's SQL

A statement is cut into tokens; blanks and comments are tokens too, and are left out before
parsing, except that an expression remembers its source, with the comments behind it.  A variable
`?` has a number, counted from zero and from the left.
-/
import SqlGateway.Number.Digits
import SqlGateway.Sqlite.Value

namespace SqlGateway.Sqlite

/-! ## 1. Tokens -/

/-- What a token is. -/
inductive TokenKind where
  | blank
  | word
  | quotedName
  | string
  | blob
  | number
  | variable (index : Nat)
  | symbol
  | illegal
deriving DecidableEq, Repr

/-- A token with its source, and the blanks behind it. -/
structure Token where
  kind : TokenKind
  source : List Char
  behind : List Char
deriving DecidableEq, Repr

/-! ## 2. Scanning -/

/-- Whether a character may start a word. -/
def startsWord (c : Char) : Bool := c.isAlpha || c == '_' || 128 ≤ c.toNat

/-- Whether a character may stand in a word. -/
def inWord (c : Char) : Bool := startsWord c || c.isDigit || c == '$'

/-- How many characters a quoted text has behind its first quote, the last quote included. -/
def quotedSize? (quote : Char) : List Char → Option Nat
  | [] => none
  | c :: cs =>
    if c = quote then
      match cs with
      | d :: ds => if d = quote then (quotedSize? quote ds).map (· + 2) else some 1
      | [] => some 1
    else (quotedSize? quote cs).map (· + 1)

/-- How many characters a comment has behind its start, the end included. -/
def commentSize : List Char → Nat
  | '*' :: '/' :: _ => 2
  | _ :: cs => commentSize cs + 1
  | [] => 0

/-- Whether a number is hexadecimal: `0x` and a digit start it. -/
def isHexLiteral : List Char → Bool
  | '0' :: x :: d :: _ => (x == 'x' || x == 'X') && Digits.isHex d
  | _ => false

/-- How many characters of a number a text starts with; underscores count as digits. -/
def literalSize (cs : List Char) : Nat :=
  if isHexLiteral cs then 2 + ((cs.drop 2).takeWhile fun c => Digits.isHex c || c == '_').length
  else Value.numberSizeWith (fun c => c.isDigit || c == '_') cs

/-- Whether every underscore stands between two digits; `before` is what stands in front. -/
def underscoresFit (isDigit : Char → Bool) (before : Option Char) : List Char → Bool
  | [] => true
  | c :: cs =>
    (c != '_' || (before.any isDigit && cs.head?.any isDigit)) && underscoresFit isDigit (some c) cs

/-- Whether the characters of a number make one. -/
def isLiteral (cs : List Char) : Bool :=
  underscoresFit (if isHexLiteral cs then Digits.isHex else Char.isDigit) none cs

/-- The symbols of two characters. -/
def longSymbols : List (Char × Char) :=
  [('<', '='), ('>', '='), ('<', '>'), ('!', '='), ('=', '='), ('|', '|'), ('<', '<'), ('>', '>')]

/-- The kind of the token that starts with `c`, and how many characters more it has. -/
def scanOne (c : Char) (cs : List Char) : TokenKind × Nat :=
  let quoted (kind : TokenKind) : TokenKind × Nat :=
    match quotedSize? c cs with
    | some n => (kind, n)
    | none => (.illegal, cs.length)
  if Value.isPadding c then (.blank, 0)
  else if c = '-' && cs.head? = some '-' then (.blank, (cs.takeWhile (· != '\n')).length)
  else if c = '/' && cs.head? = some '*' then (.blank, 1 + commentSize (cs.drop 1))
  else if c = '\'' then quoted .string
  else if c = '"' || c = '\x60' then quoted .quotedName
  else if c = '[' then
    let n := (cs.takeWhile (· != ']')).length
    if n < cs.length then (.quotedName, n + 1) else (.illegal, cs.length)
  else if (c = 'x' || c = 'X') && cs.head? = some '\'' then
    let inner := (cs.drop 1).takeWhile (· != '\'')
    let size := min (inner.length + 2) cs.length
    if inner.length % 2 = 0 && inner.all Digits.isHex && inner.length + 2 ≤ cs.length then
      (.blob, size)
    else (.illegal, size)
  else if c.isDigit || (c = '.' && cs.head?.any Char.isDigit) then
    let n := literalSize (c :: cs)
    let tail := ((c :: cs).drop n).takeWhile inWord
    if tail.isEmpty && isLiteral ((c :: cs).take n) then (.number, n - 1)
    else (.illegal, n - 1 + tail.length)
  else if c = '?' then (.variable 0, (cs.takeWhile Char.isDigit).length)
  else if startsWord c then (.word, (cs.takeWhile inWord).length)
  else if cs.head?.any fun d => longSymbols.contains (c, d) then (.symbol, 1)
  else if "()*,;=<>+-/%.&|~".toList.contains c then (.symbol, 0)
  else (.illegal, 0)

/-- The tokens of a text, blanks included. -/
def scanAll : List Char → List (TokenKind × List Char)
  | [] => []
  | c :: cs =>
    let (kind, n) := scanOne c cs
    (kind, c :: cs.take n) :: scanAll (cs.drop n)
termination_by cs => cs.length
decreasing_by simp only [List.length_drop, List.length_cons]; omega

/-- The blanks that scanned tokens start with. -/
def leadingBlanks : List (TokenKind × List Char) → List Char
  | (.blank, source) :: more => source ++ leadingBlanks more
  | _ => []

/-- Puts blanks into the tokens in front of them and numbers the variables from `next` on. -/
def arrange (next : Nat) : List (TokenKind × List Char) → List Token
  | [] => []
  | (.blank, _) :: more => arrange next more
  | (.variable _, source) :: more =>
    let index :=
      match source.drop 1 with
      | [] => next
      | digits => Digits.value digits - 1
    ⟨.variable index, source, leadingBlanks more⟩ :: arrange (max next (index + 1)) more
  | (kind, source) :: more => ⟨kind, source, leadingBlanks more⟩ :: arrange next more

/-- The tokens of a text. -/
def tokens (sql : String) : List Token := arrange 0 (scanAll sql.toList)

/-! ## 3. What tokens say -/

/-- Text with every doubled quote made one. -/
def undouble (quote : Char) : List Char → List Char
  | c :: d :: cs => if c = quote ∧ d = quote then c :: undouble quote cs else c :: undouble quote (d :: cs)
  | cs => cs

/-- The text between the quotes of a token. -/
def Token.unquoted (t : Token) : String :=
  let inner := (t.source.drop 1).take (t.source.length - 2)
  match t.source.head? with
  | some '[' => String.ofList inner
  | some quote => String.ofList (undouble quote inner)
  | none => ""

/-- The bytes that hexadecimal digits say. -/
def hexBytes : List Char → List UInt8
  | a :: b :: cs => UInt8.ofNat (Digits.hexValue a * 16 + Digits.hexValue b) :: hexBytes cs
  | _ => []

/-- The bytes that a blob says. -/
def Token.blobBytes (t : Token) : List UInt8 :=
  hexBytes ((t.source.drop 2).take (t.source.length - 3))

/-- Whether a token is the given keyword or symbol. -/
def Token.is (t : Token) (s : String) : Bool :=
  match t.kind with
  | .word => t.source.map Char.toUpper == s.toList
  | .symbol => t.source == s.toList
  | _ => false

/-- The source of tokens with what is behind them, white space apart. -/
def sourceText (ts : List Token) : String :=
  let cs := ts.flatMap fun t => t.source ++ t.behind
  String.ofList (cs.reverse.dropWhile Value.isPadding).reverse

end SqlGateway.Sqlite
