import RequestGate.Yaml.Token

/-!
# Events of a YAML document

The nodes of a document in the order in which they start and end.  A node may carry an anchor and a
tag; the handle of a tag is replaced by what the directives of the document say it leads with.  Where
a node is left out, an empty plain scalar stands for it.

The grammar is a machine with a stack of the places to return to.  In brackets, a key that is left out
takes the token after its question mark with it.
-/

namespace RequestGate
namespace Yaml

/-- The anchor and the tag of a node. -/
structure Properties where
  anchor : Option String
  tag : Option String

/-- A step through the nodes of a document. -/
inductive Event where
  | alias (name : String)
  | scalar (properties : Properties) (text : String) (plain : Bool)
  | sequenceStart (properties : Properties)
  | sequenceEnd
  | mappingStart (properties : Properties)
  | mappingEnd

namespace Event

/-- What the grammar expects. -/
inductive Place where
  | documentContent
  | documentEnd
  | blockNode
  | blockEntry
  | indentlessEntry
  | blockKey
  | blockValue
  | flowEntry (first : Bool)
  | pairKey
  | pairValue
  | pairEnd
  | flowKey (first : Bool)
  | flowValue
  | flowNoValue
  deriving DecidableEq

/-- The grammar between two events. -/
structure Grammar where
  place : Place
  /-- The places to return to, the nearest first. -/
  returns : List Place
  tokens : List Token
  /-- What tags with a handle lead with. -/
  handles : List (String × String)
  /-- The events so far, the latest first. -/
  events : List Event

/-- A node that is left out. -/
def empty : Event :=
  .scalar ⟨none, none⟩ "" true

namespace Grammar

/-- The grammar with an event, at a place. -/
def emit (g : Grammar) (event : Event) (place : Place) : Grammar :=
  { g with events := event :: g.events, place := place }

/-- The grammar at the place to return to. -/
def leave (g : Grammar) : Grammar :=
  match g.returns with
  | place :: rest => { g with place := place, returns := rest }
  | [] => { g with place := .documentEnd }

/-- The grammar that returns to a place later. -/
def later (g : Grammar) (place : Place) : Grammar :=
  { g with returns := place :: g.returns }

/-- The grammar past tokens. -/
def drop (g : Grammar) (count : Nat) : Grammar :=
  { g with tokens := g.tokens.drop count }

/-- An event after which the grammar leaves its place. -/
def close (g : Grammar) (event : Event) : Grammar :=
  { g.leave with events := event :: g.events }

/-- The full text of a tag. -/
def tagText? (g : Grammar) (handle suffix : String) : Option String :=
  if handle = "" then some suffix
  else (g.handles.find? fun entry => entry.1 = handle).map fun entry => entry.2 ++ suffix

/-- Reads the properties of a node, in either order. -/
def properties? (g : Grammar) : Option (Properties × Grammar) :=
  match g.tokens with
  | .anchor name :: .tag handle suffix :: rest => do
    return (⟨some name, ← g.tagText? handle suffix⟩, { g with tokens := rest })
  | .anchor name :: rest => some (⟨some name, none⟩, { g with tokens := rest })
  | .tag handle suffix :: .anchor name :: rest => do
    return (⟨some name, ← g.tagText? handle suffix⟩, { g with tokens := rest })
  | .tag handle suffix :: rest => do
    return (⟨none, ← g.tagText? handle suffix⟩, { g with tokens := rest })
  | _ => some (⟨none, none⟩, g)

/-- A node of which only the properties are written. -/
def unwritten? (g : Grammar) (properties : Properties) : Option Grammar :=
  if properties.anchor.isSome || properties.tag.isSome then
    some (g.close (.scalar properties "" true))
  else none

/-- Reads a node.  Block collections are read where `block` says so, and sequences that are not
indented where `indentless` does. -/
def node? (g : Grammar) (block indentless : Bool) : Option Grammar :=
  match g.tokens with
  | .alias name :: rest => some ({ g with tokens := rest }.close (.alias name))
  | _ => do
    let (properties, g) ← g.properties?
    let unchanged := if properties.tag = some "!" then { properties with tag := none } else properties
    match g.tokens with
    | .scalar text plain :: rest =>
      some ({ g with tokens := rest }.close (.scalar unchanged text plain))
    | .flowSequenceStart :: rest =>
      some ({ g with tokens := rest }.emit (.sequenceStart properties) (.flowEntry true))
    | .flowMappingStart :: rest =>
      some ({ g with tokens := rest }.emit (.mappingStart properties) (.flowKey true))
    | .blockEntry :: _ =>
      if indentless then some (g.emit (.sequenceStart properties) .indentlessEntry)
      else g.unwritten? properties
    | .blockSequenceStart :: rest =>
      if block then some ({ g with tokens := rest }.emit (.sequenceStart properties) .blockEntry)
      else g.unwritten? properties
    | .blockMappingStart :: rest =>
      if block then some ({ g with tokens := rest }.emit (.mappingStart properties) .blockKey)
      else g.unwritten? properties
    | _ => g.unwritten? properties

/-- A node that is left out, before a place. -/
def skipNode (g : Grammar) (place : Place) : Grammar :=
  g.emit empty place

/-- Whether a token ends or separates what stands in a block. -/
def endsBlockNode : List Token → Bool
  | .key :: _ => true
  | .value :: _ => true
  | .blockEnd :: _ => true
  | _ => false

/-- Reads an item of a sequence in brackets, or its end after a comma. -/
def item? (g : Grammar) : Option Grammar :=
  match g.tokens with
  | .key :: rest => some ({ g with tokens := rest }.emit (.mappingStart ⟨none, none⟩) .pairKey)
  | .flowSequenceEnd :: rest => some ({ g with tokens := rest }.close .sequenceEnd)
  | _ => (g.later (.flowEntry false)).node? false false

/-- Reads a key of a mapping in brackets, or its end after a comma. -/
def flowPair? (g : Grammar) : Option Grammar :=
  match g.tokens with
  | .key :: rest =>
    let g := { g with tokens := rest }
    match rest with
    | .value :: _ | .flowEntry :: _ | .flowMappingEnd :: _ => some (g.skipNode .flowValue)
    | _ => (g.later .flowValue).node? false false
  | .flowMappingEnd :: rest => some ({ g with tokens := rest }.close .mappingEnd)
  | _ => (g.later .flowNoValue).node? false false

/-- One step of the grammar. -/
def step? (g : Grammar) : Option Grammar :=
  match g.place with
  | .documentContent =>
    match g.tokens with
    | .version .. :: _ | .tagDirective .. :: _ | .documentStart :: _ | .documentEnd :: _
    | .streamEnd :: _ => some (g.close empty)
    | _ => g.node? true false
  | .documentEnd => some g
  | .blockNode => g.node? true false
  | .blockEntry =>
    match g.tokens with
    | .blockEntry :: rest =>
      let g := { g with tokens := rest }
      match rest with
      | .blockEntry :: _ | .blockEnd :: _ => some (g.skipNode .blockEntry)
      | _ => (g.later .blockEntry).node? true false
    | .blockEnd :: rest => some ({ g with tokens := rest }.close .sequenceEnd)
    | _ => none
  | .indentlessEntry =>
    match g.tokens with
    | .blockEntry :: rest =>
      let g := { g with tokens := rest }
      match rest with
      | .blockEntry :: _ => some (g.skipNode .indentlessEntry)
      | rest =>
        if endsBlockNode rest then some (g.skipNode .indentlessEntry)
        else (g.later .indentlessEntry).node? true false
    | _ => some (g.close .sequenceEnd)
  | .blockKey =>
    match g.tokens with
    | .key :: rest =>
      let g := { g with tokens := rest }
      if endsBlockNode rest then some (g.skipNode .blockValue)
      else (g.later .blockValue).node? true true
    | .blockEnd :: rest => some ({ g with tokens := rest }.close .mappingEnd)
    | _ => none
  | .blockValue =>
    match g.tokens with
    | .value :: rest =>
      let g := { g with tokens := rest }
      if endsBlockNode rest then some (g.skipNode .blockKey)
      else (g.later .blockKey).node? true true
    | _ => some (g.skipNode .blockKey)
  | .flowEntry first =>
    match g.tokens with
    | .flowSequenceEnd :: rest => some ({ g with tokens := rest }.close .sequenceEnd)
    | .flowEntry :: rest => if first then g.item? else { g with tokens := rest }.item?
    | _ => if first then g.item? else none
  | .pairKey =>
    match g.tokens with
    | .value :: rest | .flowEntry :: rest | .flowSequenceEnd :: rest =>
      some ({ g with tokens := rest }.skipNode .pairValue)
    | _ => (g.later .pairValue).node? false false
  | .pairValue =>
    match g.tokens with
    | .value :: rest =>
      let g := { g with tokens := rest }
      match rest with
      | .flowEntry :: _ | .flowSequenceEnd :: _ => some (g.skipNode .pairEnd)
      | _ => (g.later .pairEnd).node? false false
    | _ => some (g.skipNode .pairEnd)
  | .pairEnd => some (g.emit .mappingEnd (.flowEntry false))
  | .flowKey first =>
    match g.tokens with
    | .flowMappingEnd :: rest => some ({ g with tokens := rest }.close .mappingEnd)
    | .flowEntry :: rest => if first then g.flowPair? else { g with tokens := rest }.flowPair?
    | _ => if first then g.flowPair? else none
  | .flowValue =>
    match g.tokens with
    | .value :: rest =>
      let g := { g with tokens := rest }
      match rest with
      | .flowEntry :: _ | .flowMappingEnd :: _ => some (g.skipNode (.flowKey false))
      | _ => (g.later (.flowKey false)).node? false false
    | _ => some (g.skipNode (.flowKey false))
  | .flowNoValue => some (g.skipNode (.flowKey false))

/-- Runs the grammar to the end of the document. -/
def run? : Nat → Grammar → Option Grammar
  | 0, _ => none
  | fuel + 1, g =>
    if g.place = .documentEnd then some g
    else
      match g.step? with
      | some g => run? fuel g
      | none => none

end Grammar

/-- The handles that every document has. -/
def defaultHandles : List (String × String) :=
  [("!", "!"), ("!!", "tag:yaml.org,2002:")]

/-- Reads the directives of a document: at most one version, which has to be 1.1 or 1.2, and handles,
each at most once. -/
def directives? (versioned : Bool) (handles : List (String × String)) :
    List Token → Option (List (String × String) × List Token)
  | .version major minor :: rest =>
    if versioned || major ≠ 1 || !(minor = 1 || minor = 2) then none
    else directives? true handles rest
  | .tagDirective handle leading :: rest =>
    if handles.any fun entry => entry.1 = handle then none
    else directives? versioned (handles ++ [(handle, leading)]) rest
  | tokens => some (handles ++ defaultHandles, tokens)

/-- Whether nothing but ends of documents is left. -/
def onlyEnds : List Token → Bool
  | .documentEnd :: rest => onlyEnds rest
  | .streamEnd :: _ => true
  | _ => false

/-- The events of the only document of a text; a text without a document has none. -/
def ofTokens? (tokens : List Token) : Option (List Event) :=
  match tokens with
  | .streamEnd :: _ => some []
  | tokens => do
    let (handles, rest) ← directives? false [] tokens
    let directed := rest.length < tokens.length
    let (place, rest) ← match rest with
      | .documentStart :: rest => some (Place.documentContent, rest)
      | rest => if directed then none else some (Place.blockNode, rest)
    let g ← Grammar.run? (4 * tokens.length + 8) ⟨place, [], rest, handles, []⟩
    let rest := match g.tokens with
      | .documentEnd :: rest => rest
      | rest => rest
    if onlyEnds rest then some g.events.reverse else none

end Event
end Yaml
end RequestGate
