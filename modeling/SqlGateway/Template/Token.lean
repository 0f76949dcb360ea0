/-
# Tokens of a template

A template is SQL text with three kinds of token: the placeholder `{name}`, and the two markers
`{#name}` and `{/name}` that open and close a block.  A name is a run of letters, digits, `_`, `.`
and `-`, never empty.  Every other brace is plain text, so JSON literals need no escape.

A template is cut into *pieces*: tokens, and the characters between them.  The cut loses nothing
(`flatMap_text_pieces`), and every reading of a template goes through it.
-/
import SqlGateway.Text.Alphanumeric

namespace SqlGateway.Template

open Text

/-! ## 1. Tokens -/

/-- What a token does. -/
inductive TokenKind where
  /-- `{name}`: stands for the value of a field. -/
  | placeholder
  /-- `{#name}`: opens a block. -/
  | opening
  /-- `{/name}`: closes a block. -/
  | closing
deriving DecidableEq, Repr

/-- A token of a template. -/
structure Token where
  kind : TokenKind
  name : String
deriving DecidableEq, Repr

/-- What stands between the brace and the name. -/
def TokenKind.sigil : TokenKind → List Char
  | placeholder => []
  | opening => ['#']
  | closing => ['/']

/-- The text of a token of the given kind and name. -/
def tokenText (kind : TokenKind) (name : List Char) : List Char :=
  '\x7b' :: kind.sigil ++ name ++ ['\x7d']

/-- A token as it stands in the template. -/
def Token.text (t : Token) : List Char := tokenText t.kind t.name.toList

/-- Whether `c` may stand in a name. -/
def isNameChar (c : Char) : Bool := isAlphanumeric c || c == '_' || c == '.' || c == '-'

/-! ## 2. Pieces -/

/-- A character outside every token, or a token. -/
inductive Piece where
  | char (c : Char)
  | token (t : Token)
deriving DecidableEq, Repr

/-- A piece as it stands in the template. -/
def Piece.text : Piece → List Char
  | char c => [c]
  | token t => t.text

/-- The token that a piece is. -/
def Piece.token? : Piece → Option Token
  | char _ => none
  | token t => some t

/-- The kind of token that the text behind a brace asks for, and the text behind the sigil. -/
def splitSigil : List Char → TokenKind × List Char
  | '#' :: cs => (.opening, cs)
  | '/' :: cs => (.closing, cs)
  | cs => (.placeholder, cs)

/-- The name and the closing brace at the front of `cs`, for a token of the given kind. -/
def takeName (kind : TokenKind) (cs : List Char) : Option (Token × List Char) :=
  match cs.dropWhile isNameChar with
  | '\x7d' :: rest =>
    if cs.takeWhile isNameChar = [] then none
    else some (⟨kind, String.ofList (cs.takeWhile isNameChar)⟩, rest)
  | _ => none

/-- The token whose opening brace has been taken, and what follows it. -/
def takeToken (cs : List Char) : Option (Token × List Char) :=
  takeName (splitSigil cs).1 (splitSigil cs).2

theorem sigil_append_splitSigil (cs : List Char) :
    (splitSigil cs).1.sigil ++ (splitSigil cs).2 = cs := by
  unfold splitSigil
  split <;> rfl

/-- **A token and what follows it are the text behind the brace.** -/
theorem text_of_takeToken {cs rest : List Char} {t : Token}
    (h : takeToken cs = some (t, rest)) : t.text ++ rest = '\x7b' :: cs := by
  unfold takeToken takeName at h
  split at h
  next rest' hrest =>
    split at h
    next => simp at h
    next =>
      injection h with h
      injection h with ht hr
      subst ht hr
      have hcut := List.takeWhile_append_dropWhile (p := isNameChar) (l := (splitSigil cs).2)
      rw [hrest] at hcut
      rw [← sigil_append_splitSigil cs, Token.text, tokenText, String.toList_ofList]
      simp only [List.cons_append, List.append_assoc, List.nil_append, hcut,
        sigil_append_splitSigil]
  next => simp at h

theorem length_of_takeToken {cs rest : List Char} {t : Token}
    (h : takeToken cs = some (t, rest)) : rest.length < cs.length := by
  have := congrArg List.length (text_of_takeToken h)
  simp only [Token.text, tokenText, List.length_append, List.length_cons, List.length_nil] at this
  omega

/-- The pieces of a template, from left to right. -/
def pieces : List Char → List Piece
  | [] => []
  | c :: cs =>
    if c = '\x7b' then
      match h : takeToken cs with
      | some (t, rest) =>
        have := length_of_takeToken h
        .token t :: pieces rest
      | none => .char c :: pieces cs
    else .char c :: pieces cs
termination_by cs => cs.length
decreasing_by all_goals (simp only [List.length_cons]; omega)

/-- **The pieces put together are the template.** -/
theorem flatMap_text_pieces (cs : List Char) : (pieces cs).flatMap Piece.text = cs := by
  fun_induction pieces cs with
  | case1 => rfl
  | case2 cs t rest h _ ih => simp [Piece.text, ih, text_of_takeToken h]
  | case3 cs h ih => simp [Piece.text, ih]
  | case4 c cs hc ih => simp [Piece.text, ih]

/-- The tokens of a template, from left to right. -/
def scan (template : String) : List Token := (pieces template.toList).filterMap Piece.token?

/-! ## 3. Declared names -/

/-- The names that a template declares: those of its placeholders first, then those of its block
markers, each once and in order of appearance. -/
def declaredNames (template : String) : List String :=
  let tokens := scan template
  let placeholders := tokens.filter (·.kind == .placeholder)
  let markers := tokens.filter (·.kind != .placeholder)
  ((placeholders ++ markers).map (·.name)).eraseDups

end SqlGateway.Template
