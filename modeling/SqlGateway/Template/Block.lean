/-
# Blocks of a template

Every `{#name}` must be closed by a later `{/name}`, blocks nest properly, and no block stands
inside one of its own name.  `validate` checks this from left to right with the names of the open
blocks, and blames the first marker that no continuation can mend.
-/
import SqlGateway.Template.Token

namespace SqlGateway.Template

/-- What is wrong with the blocks of a template. -/
inductive BlockError where
  | unclosed (name : String)
  | unmatchedClose (name : String)
  | nestedInItself (name : String)
  /-- `inner` is closed while the later block `outer` is still open. -/
  | misnested (outer inner : String)
deriving DecidableEq, Repr

/-- The wording of the error. -/
def BlockError.message : BlockError → String
  | unclosed name => "block '" ++ name ++ "' is opened but never closed"
  | unmatchedClose name => "block '" ++ name ++ "' is closed without being opened"
  | nestedInItself name => "block '" ++ name ++ "' is nested inside itself"
  | misnested outer inner =>
    "block '" ++ inner ++ "' is closed while block '" ++ outer ++ "' is still open"

/-- Checks tokens while the blocks `stack` are open, the innermost first. -/
def validateTokens (stack : List String) : List Token → Except BlockError Unit
  | [] =>
    match stack.getLast? with
    | some name => .error (.unclosed name)
    | none => .ok ()
  | ⟨.placeholder, _⟩ :: ts => validateTokens stack ts
  | ⟨.opening, name⟩ :: ts =>
    if name ∈ stack then .error (.nestedInItself name) else validateTokens (name :: stack) ts
  | ⟨.closing, name⟩ :: ts =>
    match stack with
    | [] => .error (.unmatchedClose name)
    | top :: outer =>
      if top = name then validateTokens outer ts
      else if name ∈ outer then .error (.misnested top name)
      else .error (.unmatchedClose name)

/-- Checks the blocks of a template. -/
def validate (template : String) : Except BlockError Unit := validateTokens [] (scan template)

end SqlGateway.Template
