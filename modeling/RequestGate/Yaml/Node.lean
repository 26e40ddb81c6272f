import RequestGate.Yaml.Event

/-!
# Nodes of a YAML document

The tree of nodes that the events of a document describe.  An alias stands for the node with an
anchor.  An anchor is given a number, which is how many different names of anchors came before it; an
alias refers to the node that was last given the number of its name.
-/

namespace RequestGate
namespace Yaml

/-- A node of a document. -/
inductive Node where
  /-- The node whose anchor has a number. -/
  | alias (number : Nat)
  | scalar (tag : Option String) (text : String) (plain : Bool)
  | sequence (tag : Option String) (items : List Node)
  | mapping (tag : Option String) (entries : List (Node × Node))

namespace Node

/-- A node that is open: its tag, the number of its anchor, when it started, and its parts so far,
the latest first. -/
structure Frame where
  tag : Option String
  anchor : Option Nat
  started : Nat
  isMapping : Bool
  parts : List Node

/-- A node with an anchor: the anchor's number and when the node started. -/
structure Anchored where
  number : Nat
  started : Nat
  node : Node

/-- A tree part way through. -/
structure Builder where
  frames : List Frame
  root : Option Node
  /-- The names of anchors with their numbers. -/
  names : Fields Nat
  anchored : List Anchored
  /-- How many events have been read. -/
  count : Nat

/-- A document: its root, its nodes with anchors, and how many events it has. -/
structure Document where
  root : Node
  anchored : List Anchored
  events : Nat

/-- The entries that parts, the latest first, make up in pairs. -/
def pairs (entries : List (Node × Node)) : List Node → List (Node × Node)
  | value :: key :: rest => pairs ((key, value) :: entries) rest
  | _ => entries

namespace Builder

/-- The builder with an anchor named, and the anchor's number. -/
def nameAnchor (b : Builder) : Option String → Builder × Option Nat
  | none => (b, none)
  | some name =>
    let number := b.names.length
    ({ b with names := b.names.insert name number }, some number)

/-- The builder with a complete node. -/
def add (b : Builder) (anchor : Option Nat) (started : Nat) (node : Node) : Builder :=
  let b := match anchor with
    | some number => { b with anchored := ⟨number, started, node⟩ :: b.anchored }
    | none => b
  match b.frames with
  | frame :: rest => { b with frames := { frame with parts := node :: frame.parts } :: rest }
  | [] => { b with root := some node }

/-- The builder with a node opened. -/
def opened (b : Builder) (properties : Properties) (isMapping : Bool) : Builder :=
  let (b, anchor) := b.nameAnchor properties.anchor
  { b with frames := ⟨properties.tag, anchor, b.count, isMapping, []⟩ :: b.frames }

/-- The builder with the innermost node closed. -/
def closed? (b : Builder) : Option Builder :=
  match b.frames with
  | [] => none
  | frame :: rest =>
    let node :=
      if frame.isMapping then mapping frame.tag (pairs [] frame.parts)
      else sequence frame.tag frame.parts.reverse
    some ({ b with frames := rest }.add frame.anchor frame.started node)

/-- The builder after one more event; fails at an alias without an anchor. -/
def step? (b : Builder) (event : Event) : Option Builder := do
  let b ← match event with
    | .alias name =>
      match Fields.get? name b.names with
      | some number => some (b.add none b.count (.alias number))
      | none => none
    | .scalar properties text plain =>
      let (b, anchor) := b.nameAnchor properties.anchor
      some (b.add anchor b.count (.scalar properties.tag text plain))
    | .sequenceStart properties => some (b.opened properties false)
    | .mappingStart properties => some (b.opened properties true)
    | .sequenceEnd | .mappingEnd => b.closed?
  return { b with count := b.count + 1 }

end Builder

/-- The document that events describe; a text without events is an empty one. -/
def ofEvents? (events : List Event) : Option Document := do
  let b ← events.foldlM Builder.step? ⟨[], none, [], [], 0⟩
  return ⟨b.root.getD (.scalar none "" true), b.anchored, b.count⟩

/-- The node that was last given a number. -/
def Document.anchored? (document : Document) (number : Nat) : Option Node :=
  (document.anchored.filter (·.number = number)).foldl (fun found entry =>
    match found with
    | some other => if other.started < entry.started then some entry else some other
    | none => some entry) none |>.map Anchored.node

end Node
end Yaml
end RequestGate
