import Gazetteer.Yaml.Token

/-!
# Documents

A document is read into a tree of scalars and mappings. There are no sequences in the tree: nothing
that is configured here is a list, so a text with a list in it is refused where the list begins.

Anchors are numbered, and an alias stays in the tree as the number of the anchor that its name has at
that place. What it stands for is looked up in the whole document, so a mapping may hold an alias of
itself; readers know what they look for and so come to an end.
-/

set_option autoImplicit false

namespace Gazetteer.Yaml

inductive Node where
  /-- A text; what it can stand for depends on how it is written. -/
  | scalar (tag : Option Tag) (style : ScalarStyle) (text : String)
  | mapping (tag : Option Tag) (entries : List (Node × Node))
  /-- Whatever is marked by the anchor with this number. -/
  | alias (number : Nat)
  deriving Repr, Inhabited

/-- A tree, and the nodes that anchors mark, the last ones first. -/
structure Document where
  root : Node
  marked : List (Nat × Node)
  deriving Repr, Inhabited

/-- The node that a node stands for: itself, unless it is an alias. -/
def Document.resolve (d : Document) : Node → Option Node
  | .alias number => d.marked.lookup number
  | node => some node

structure Composer where
  tokens : List Token
  /-- The handles that directives declare, and what they stand for. -/
  handles : List (String × Tag) := []
  /-- The numbers that the names of anchors have at present. -/
  numbers : List (String × Nat) := []
  /-- The numbers of the anchors in their order, with their nodes as far as these are complete. -/
  anchors : Array (Nat × Option Node) := #[]

namespace Composer

def next (c : Composer) : Composer := { c with tokens := c.tokens.drop 1 }

def sees (c : Composer) (ts : List Token) : Bool := c.tokens.head?.any ts.contains

/-! ## Properties of nodes -/

/-- What a tag with a handle and a suffix is in full. The handle has to be declared or be usual. -/
def fullTag? (c : Composer) (handle : String) (suffix : Tag) : Option Tag :=
  if handle = "" then some suffix
  else
    match c.handles.lookup handle with
    | some stands => some (stands ++ suffix)
    | none =>
      if handle = "!" then some (Tag.ofText "!" ++ suffix)
      else if handle = "!!" then some (Tag.ofText "tag:yaml.org,2002:" ++ suffix)
      else none

/-- Takes an anchor off the front, if there is one. -/
def takeAnchor (c : Composer) : Option String × Composer :=
  match c.tokens with
  | .anchor name :: _ => (some name, c.next)
  | _ => (none, c)

/-- Takes a tag off the front, if there is one. -/
def takeTag? (c : Composer) : Option (Option Tag × Composer) :=
  match c.tokens with
  | .tag handle suffix :: _ => (c.fullTag? handle suffix).map fun t => (some t, c.next)
  | _ => some (none, c)

/-- Takes an anchor and a tag off the front, in either order. -/
def takeProperties? (c : Composer) : Option (Option String × Option Tag × Composer) := do
  match c.takeAnchor with
  | (some name, c) =>
    let (tag, c) ← c.takeTag?
    return (some name, tag, c)
  | (none, c) =>
    let (tag, c) ← c.takeTag?
    let (name, c) := if tag.isSome then c.takeAnchor else (none, c)
    return (name, tag, c)

/--
Sets an anchor whose node is not complete. Its number is the count of different names so far. When a
name is set again, its number is therefore also that of the next new name, which then takes over.
-/
def openAnchor (c : Composer) (name : Option String) : Composer :=
  match name with
  | some name =>
    let number := c.numbers.length
    let others := c.numbers.filter fun (other, _) => other != name
    { c with numbers := (name, number) :: others, anchors := c.anchors.push (number, none) }
  | none => c

/-- Completes the node of the `i`-th anchor, if an anchor was set for it. -/
def closeAnchor (c : Composer) (name : Option String) (i : Nat) (node : Node) : Composer :=
  match name with
  | some _ => { c with anchors := c.anchors.modify i fun (number, _) => (number, some node) }
  | none => c

/-- The nodes that are complete, the last ones first. -/
def marked (c : Composer) : List (Nat × Node) :=
  c.anchors.toList.reverse.filterMap fun (number, node) => node.map fun n => (number, n)

/-! ## Nodes -/

/-- The node where nothing is written. -/
def nothing : Node := .scalar none .plain ""

/-- The tokens before which a key or a value in a block is empty. -/
def endsBlockPart : List Token := [.key, .value, .blockEnd]

mutual

/-- Takes a node off the front. Blocks cannot stand between brackets. -/
def node? (block : Bool) : Nat → Composer → Option (Node × Composer)
  | 0, _ => none
  | fuel + 1, c =>
    match c.tokens with
    | .alias name :: _ => (c.numbers.lookup name).map fun number => (.alias number, c.next)
    | _ => do
      let (name, tag, c) ← c.takeProperties?
      let i := c.anchors.size
      let c := c.openAnchor name
      let (node, c) ←
        match c.tokens with
        | .scalar style text :: _ => some (.scalar tag style text, c.next)
        | .flowMapping :: _ =>
          (flowEntries? fuel true c.next []).map fun (es, c) => (.mapping tag es, c)
        | .blockMapping :: _ =>
          if block then (blockEntries? fuel c.next []).map fun (es, c) => (.mapping tag es, c)
          else none
        | .flowSequence :: _ => none
        | .blockSequence :: _ => none
        | .blockEntry :: _ => none
        | _ => if name.isSome || tag.isSome then some (.scalar tag .plain "", c) else none
      return (node, c.closeAnchor name i node)

/-- Takes the entries of a mapping in a block and its end off the front; `done` holds those before. -/
def blockEntries? : Nat → Composer → List (Node × Node) → Option (List (Node × Node) × Composer)
  | 0, _, _ => none
  | fuel + 1, c, done =>
    if c.sees [.blockEnd] then some (done.reverse, c.next)
    else if !c.sees [.key] then none
    else do
      let c := c.next
      let (key, c) ← if c.sees endsBlockPart then some (nothing, c) else node? true fuel c
      if !c.sees [.value] then blockEntries? fuel c ((key, nothing) :: done)
      else
        let c := c.next
        let (value, c) ← if c.sees endsBlockPart then some (nothing, c) else node? true fuel c
        blockEntries? fuel c ((key, value) :: done)

/-- Takes the entries of a mapping between braces and the closing brace off the front. -/
def flowEntries? : Nat → Bool → Composer → List (Node × Node) →
    Option (List (Node × Node) × Composer)
  | 0, _, _, _ => none
  | fuel + 1, first, c, done =>
    if c.sees [.flowMappingEnd] then some (done.reverse, c.next)
    else if !first && !c.sees [.flowEntry] then none
    else do
      let c := if first then c else c.next
      if c.sees [.flowMappingEnd] then return (done.reverse, c.next)
      if c.sees [.key] then
        let c := c.next
        let (key, c) ←
          if c.sees [.value, .flowEntry, .flowMappingEnd] then some (nothing, c)
          else node? false fuel c
        if !c.sees [.value] then flowEntries? fuel false c ((key, nothing) :: done)
        else
          let c := c.next
          let (value, c) ←
            if c.sees [.flowEntry, .flowMappingEnd] then some (nothing, c) else node? false fuel c
          flowEntries? fuel false c ((key, value) :: done)
      else
        let (key, c) ← node? false fuel c
        flowEntries? fuel false c ((key, nothing) :: done)

end

/-! ## Documents -/

/-- Takes directives off the front. A version has to be known, and nothing is declared twice. -/
def directives? : Nat → Bool → Composer → Option Composer
  | 0, _, _ => none
  | fuel + 1, versioned, c =>
    match c.tokens with
    | .version major minor :: _ =>
      if versioned || major ≠ 1 || (minor ≠ 1 && minor ≠ 2) then none
      else directives? fuel true c.next
    | .tagHandle handle stands :: _ =>
      if (c.handles.lookup handle).isSome then none
      else directives? fuel versioned { c.next with handles := (handle, stands) :: c.handles }
    | _ => some c

/-- Whether a document without content ends here. -/
def endsDocument (c : Composer) : Bool :=
  match c.tokens with
  | [] => true
  | .version _ _ :: _ => true
  | .tagHandle _ _ :: _ => true
  | .documentStart :: _ => true
  | .documentEnd :: _ => true
  | _ => false

/-- Whether a document announces itself, by directives or by its mark. -/
def startsExplicitly (c : Composer) : Bool :=
  match c.tokens with
  | .version _ _ :: _ => true
  | .tagHandle _ _ :: _ => true
  | .documentStart :: _ => true
  | _ => false

/-- The one document of a text, or nothing if the text has none. -/
def document? (c : Composer) : Option (Option Document) := do
  let fuel := c.tokens.length + 1
  if c.tokens.isEmpty then return none
  let (node, c) ←
    if c.startsExplicitly then do
      let c ← c.directives? fuel false
      if !c.sees [.documentStart] then none
      else if c.next.endsDocument then some (nothing, c.next)
      else node? true fuel c.next
    else node? true fuel c
  if (c.tokens.dropWhile (· == .documentEnd)).isEmpty then return some ⟨node, c.marked⟩ else none

end Composer

/-- Reads a text that holds at most one document. -/
def Document.ofText? (s : String) : Option (Option Document) := do
  Composer.document? { tokens := ← Token.scan? s }

end Gazetteer.Yaml
