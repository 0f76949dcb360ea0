/-
# Documents of a YAML text

Tokens form a tree of nodes.  A scalar keeps how it was written, because a plain `~` is null and a
quoted one is not; a collection keeps nothing but its entries, since no reader of a configuration
looks further.  An alias keeps the number of its anchor: the anchored node may be around it, so it
is looked up only when it is read.

A document also counts its events: a scalar and an alias are one each, a collection is two and those
of its entries.  Aliases let a short text stand for a long one, and the count bounds how long.

Anchors are numbered by how many names have been seen before.  A name that is anchored again gets
a fresh number without being a new name, so a later name may take over that number.
-/
import SqlGateway.Yaml.Tokens

namespace SqlGateway.Yaml

/-! ## 1. Nodes -/

/-- A node of a document. -/
inductive Node where
  | scalar (style : ScalarStyle) (tag : Option (List UInt8)) (text : String)
  | sequence (items : List Node)
  | mapping (entries : List (Node × Node))
  | alias (anchor : Nat)

/-- The node that stands where nothing is written. -/
def Node.empty : Node := .scalar .plain none ""

mutual

/-- How many events a node consists of. -/
def Node.events : Node → Nat
  | .scalar _ _ _ => 1
  | .alias _ => 1
  | .sequence items => 2 + Node.eventsOfItems items
  | .mapping entries => 2 + Node.eventsOfEntries entries

/-- How many events the items of a sequence consist of. -/
def Node.eventsOfItems : List Node → Nat
  | [] => 0
  | n :: more => n.events + Node.eventsOfItems more

/-- How many events the entries of a mapping consist of. -/
def Node.eventsOfEntries : List (Node × Node) → Nat
  | [] => 0
  | (k, v) :: more => k.events + v.events + Node.eventsOfEntries more

end

/-- A document: its root, none in a text without content, and the anchored nodes. -/
structure Document where
  root : Option Node
  anchored : List (Nat × Node)

/-- How many events a document consists of. -/
def Document.events (doc : Document) : Nat := (doc.root.map Node.events).getD 0

/-! ## 2. Anchors and tags -/

/-- What has been seen of a document. -/
structure Context where
  /-- The handles in force. -/
  handles : List (String × List UInt8)
  /-- The number of each anchor name. -/
  names : List (String × Nat)
  /-- For each anchor number, which anchored node it stands for, latest first. -/
  latest : List (Nat × Nat)
  /-- The anchored nodes that are complete. -/
  complete : List (Nat × Node)
  /-- How many nodes have been anchored. -/
  count : Nat

/-- The handles that are in force without a directive. -/
def defaultHandles : List (String × List UInt8) :=
  [("!", "!".toUTF8.toList), ("!!", "tag:yaml.org,2002:".toUTF8.toList)]

/-- The context at the beginning of a document. -/
def Context.start (handles : List (String × List UInt8)) : Context := ⟨handles, [], [], [], 0⟩

/-- The tag with a handle and a suffix; none if the handle is unknown. -/
def Context.resolve? (ctx : Context) (handle : String) (suffix : List UInt8) :
    Option (List UInt8) :=
  if handle = "" then some suffix else (ctx.handles.lookup handle).map (· ++ suffix)

/-- Anchors a node under a name, before the node is complete. -/
def Context.anchor (ctx : Context) (name : Option String) : Context :=
  match name with
  | none => ctx
  | some name =>
    let number := ctx.names.length
    { ctx with
      names := (name, number) :: ctx.names.filter (·.1 != name)
      latest := (number, ctx.count) :: ctx.latest
      count := ctx.count + 1 }

/-- Completes the node that was anchored when the count was `serial`. -/
def Context.completeNode (ctx : Context) (name : Option String) (serial : Nat) (n : Node) :
    Context :=
  if name.isSome then { ctx with complete := (serial, n) :: ctx.complete } else ctx

/-- The anchored nodes by anchor number. -/
def Context.anchored (ctx : Context) : List (Nat × Node) :=
  ctx.latest.filterMap fun (number, serial) =>
    (ctx.complete.lookup serial).map fun n => (number, n)

/-! ## 3. Properties of a node -/

/-- The anchor and the tag before a node. -/
structure Properties where
  anchor : Option String
  tag : Option (String × List UInt8)

/-- Takes an anchor and a tag, in either order, each at most once. -/
def takeProperties : List Token → Properties × List Token
  | .anchor a :: .tag h s :: ts => (⟨some a, some (h, s)⟩, ts)
  | .tag h s :: .anchor a :: ts => (⟨some a, some (h, s)⟩, ts)
  | .anchor a :: ts => (⟨some a, none⟩, ts)
  | .tag h s :: ts => (⟨none, some (h, s)⟩, ts)
  | ts => (⟨none, none⟩, ts)

/-- The tag of a node with these properties: none if none is given, and refused if its handle is
unknown. -/
def Context.tagOf (ctx : Context) (p : Properties) : Option (Option (List UInt8)) :=
  match p.tag with
  | none => some none
  | some (handle, suffix) => (ctx.resolve? handle suffix).map some

/-! ## 4. The tree -/

/-- A node, the tokens behind it, and the context there. -/
structure Parsed (α : Type) where
  value : α
  rest : List Token
  context : Context

/-- Whether the tokens begin with one of the given ones. -/
def ahead (stops : List Token) (ts : List Token) : Bool :=
  match ts with
  | t :: _ => stops.contains t
  | [] => true

mutual

/-- Takes a node.  In a block (`block`) block collections may stand; behind a key or value
(`indentless`) so may a sequence that is not indented. -/
def takeNode : Nat → Bool → Bool → Context → List Token → Option (Parsed Node)
  | 0, _, _, _, _ => none
  | fuel + 1, block, indentless, ctx, ts =>
    match ts with
    | .alias name :: rest => do
      let number ← ctx.names.lookup name
      return ⟨.alias number, rest, ctx⟩
    | _ => do
      let (p, ts) := takeProperties ts
      let tag ← ctx.tagOf p
      let serial := ctx.count
      let ctx := ctx.anchor p.anchor
      let finish (r : Parsed Node) : Parsed Node :=
        { r with context := r.context.completeNode p.anchor serial r.value }
      match ts with
      | .scalar style text :: rest =>
        return finish ⟨.scalar style tag text, rest, ctx⟩
      | .flowSequenceStart :: rest => do
        let r ← takeFlowItems fuel true ctx rest []
        return finish ⟨.sequence r.value, r.rest, r.context⟩
      | .flowMappingStart :: rest => do
        let r ← takeFlowEntries fuel true ctx rest []
        return finish ⟨.mapping r.value, r.rest, r.context⟩
      | t :: rest =>
        if indentless && t == .blockEntry then do
          let r ← takeIndentlessItems fuel ctx (t :: rest) []
          return finish ⟨.sequence r.value, r.rest, r.context⟩
        else if block && t == .blockSequenceStart then do
          let r ← takeBlockItems fuel ctx rest []
          return finish ⟨.sequence r.value, r.rest, r.context⟩
        else if block && t == .blockMappingStart then do
          let r ← takeBlockEntries fuel ctx rest []
          return finish ⟨.mapping r.value, r.rest, r.context⟩
        else if p.anchor.isSome || p.tag.isSome then
          return finish ⟨.scalar .plain tag "", t :: rest, ctx⟩
        else none
      | [] => none

/-- Takes a node, or the empty node where one of `stops` comes first. -/
def takeNodeOr : Nat → List Token → Bool → Bool → Context → List Token → Option (Parsed Node)
  | 0, _, _, _, _, _ => none
  | fuel + 1, stops, block, indentless, ctx, ts =>
    if ahead stops ts then some ⟨.empty, ts, ctx⟩ else takeNode fuel block indentless ctx ts

/-- Takes the items of a block sequence and its end. -/
def takeBlockItems : Nat → Context → List Token → List Node → Option (Parsed (List Node))
  | 0, _, _, _ => none
  | fuel + 1, ctx, ts, seen =>
    match ts with
    | .blockEntry :: rest => do
      let r ← takeNodeOr fuel [.blockEntry, .blockEnd] true false ctx rest
      takeBlockItems fuel r.context r.rest (r.value :: seen)
    | .blockEnd :: rest => some ⟨seen.reverse, rest, ctx⟩
    | _ => none

/-- Takes the items of a sequence that is not indented; it ends before any other token. -/
def takeIndentlessItems : Nat → Context → List Token → List Node → Option (Parsed (List Node))
  | 0, _, _, _ => none
  | fuel + 1, ctx, ts, seen =>
    match ts with
    | .blockEntry :: rest => do
      let r ← takeNodeOr fuel [.blockEntry, .key, .value, .blockEnd] true false ctx rest
      takeIndentlessItems fuel r.context r.rest (r.value :: seen)
    | _ => some ⟨seen.reverse, ts, ctx⟩

/-- Takes the entries of a block mapping and its end. -/
def takeBlockEntries : Nat → Context → List Token → List (Node × Node) →
    Option (Parsed (List (Node × Node)))
  | 0, _, _, _ => none
  | fuel + 1, ctx, ts, seen =>
    match ts with
    | .key :: rest => do
      let k ← takeNodeOr fuel [.key, .value, .blockEnd] true true ctx rest
      match k.rest with
      | .value :: rest => do
        let v ← takeNodeOr fuel [.key, .value, .blockEnd] true true k.context rest
        takeBlockEntries fuel v.context v.rest ((k.value, v.value) :: seen)
      | rest => takeBlockEntries fuel k.context rest ((k.value, .empty) :: seen)
    | .blockEnd :: rest => some ⟨seen.reverse, rest, ctx⟩
    | _ => none

/-- Takes the items of a bracketed sequence and its closing bracket. -/
def takeFlowItems : Nat → Bool → Context → List Token → List Node → Option (Parsed (List Node))
  | 0, _, _, _, _ => none
  | fuel + 1, first, ctx, ts, seen =>
    match ts, first with
    | .flowSequenceEnd :: rest, _ => some ⟨seen.reverse, rest, ctx⟩
    | .flowEntry :: rest, false => takeFlowItem fuel ctx rest seen
    | ts, true => takeFlowItem fuel ctx ts seen
    | _, false => none

/-- Takes one item of a bracketed sequence, or its closing bracket.  An entry `key: value` is a
mapping of its own. -/
def takeFlowItem : Nat → Context → List Token → List Node → Option (Parsed (List Node))
  | 0, _, _, _ => none
  | fuel + 1, ctx, ts, seen =>
    match ts with
    | .flowSequenceEnd :: rest => some ⟨seen.reverse, rest, ctx⟩
    | .key :: rest => do
      let k ←
        if ahead [.value, .flowEntry, .flowSequenceEnd] rest then
          some (⟨.empty, rest.drop 1, ctx⟩ : Parsed Node)
        else takeNode fuel false false ctx rest
      match k.rest with
      | .value :: rest => do
        let v ← takeNodeOr fuel [.flowEntry, .flowSequenceEnd] false false k.context rest
        takeFlowItems fuel false v.context v.rest (.mapping [(k.value, v.value)] :: seen)
      | rest => takeFlowItems fuel false k.context rest (.mapping [(k.value, .empty)] :: seen)
    | _ => do
      let r ← takeNode fuel false false ctx ts
      takeFlowItems fuel false r.context r.rest (r.value :: seen)

/-- Takes the entries of a bracketed mapping and its closing brace. -/
def takeFlowEntries : Nat → Bool → Context → List Token → List (Node × Node) →
    Option (Parsed (List (Node × Node)))
  | 0, _, _, _, _ => none
  | fuel + 1, first, ctx, ts, seen =>
    match ts, first with
    | .flowMappingEnd :: rest, _ => some ⟨seen.reverse, rest, ctx⟩
    | .flowEntry :: rest, false => takeFlowPair fuel ctx rest seen
    | ts, true => takeFlowPair fuel ctx ts seen
    | _, false => none

/-- Takes one entry of a bracketed mapping, or its closing brace.  A lone node is a key without a
value. -/
def takeFlowPair : Nat → Context → List Token → List (Node × Node) →
    Option (Parsed (List (Node × Node)))
  | 0, _, _, _ => none
  | fuel + 1, ctx, ts, seen =>
    match ts with
    | .flowMappingEnd :: rest => some ⟨seen.reverse, rest, ctx⟩
    | .key :: rest => do
      let k ← takeNodeOr fuel [.value, .flowEntry, .flowMappingEnd] false false ctx rest
      match k.rest with
      | .value :: rest => do
        let v ← takeNodeOr fuel [.flowEntry, .flowMappingEnd] false false k.context rest
        takeFlowEntries fuel false v.context v.rest ((k.value, v.value) :: seen)
      | rest => takeFlowEntries fuel false k.context rest ((k.value, .empty) :: seen)
    | _ => do
      let r ← takeNode fuel false false ctx ts
      takeFlowEntries fuel false r.context r.rest ((r.value, .empty) :: seen)

end

/-! ## 5. The document -/

/-- Takes the directives before a document: at most one version, which must be 1.1 or 1.2, and at
most one tag directive for a handle. -/
def takeDirectives (version : Bool) (handles : List (String × List UInt8)) :
    List Token → Option (List (String × List UInt8) × List Token)
  | .versionDirective major minor :: ts =>
    if version || major != 1 || (minor != 1 && minor != 2) then none
    else takeDirectives true handles ts
  | .tagDirective handle expansion :: ts =>
    if (handles.lookup handle).isSome then none
    else takeDirectives version (handles ++ [(handle, expansion)]) ts
  | ts => some (handles, ts)

/-- Whether the tokens end a document, or the stream. -/
def atDocumentEnd : List Token → Bool
  | [] => true
  | .documentStart :: _ => true
  | .documentEnd :: _ => true
  | .streamEnd :: _ => true
  | .versionDirective _ _ :: _ => true
  | .tagDirective _ _ :: _ => true
  | _ => false

/-- Whether nothing but document ends stands before the end of the stream. -/
def onlyEnds : List Token → Bool
  | .documentEnd :: ts => onlyEnds ts
  | [.streamEnd] => true
  | _ => false

/-- The only document of a text; none if the text is no YAML or holds several documents. -/
def document? (text : String) : Option Document := do
  let ts ← tokens? text
  let fuel := 4 * ts.length + 4
  if ts == [.streamEnd] then return ⟨none, []⟩
  else
    let (directives, rest) ← takeDirectives false [] ts
    let explicit := rest.head? == some .documentStart
    if !explicit && rest.length != ts.length then none
    else
      let rest := if explicit then rest.drop 1 else rest
      let ctx := Context.start (directives ++ defaultHandles)
      let r ←
        if explicit && atDocumentEnd rest then some (⟨.empty, rest, ctx⟩ : Parsed Node)
        else takeNode fuel true false ctx rest
      if onlyEnds r.rest then return ⟨some r.value, r.context.anchored⟩ else none

end SqlGateway.Yaml
