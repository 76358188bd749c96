import ShaderBuild.Yaml.Resolution
import ShaderBuild.Yaml.Token

/-! # Nodes of YAML texts

The tokens of a document make a graph of scalars, sequences and mappings. An anchor names a node, and an
alias is the node with its name once more; so a node can stand in several places, and even within itself.
-/

namespace ShaderBuild.Yaml

/-- The number of a node in its graph. -/
abbrev NodeId := Nat

/-- A key and its value. -/
abbrev Entry := NodeId × NodeId

/-- What a node holds. -/
inductive Content where
  | scalar (text : String)
  | sequence (items : List NodeId)
  | mapping (entries : List Entry)
  deriving Repr, DecidableEq

/-- A node: what it stands for, and what it holds. The one need not go with the other. -/
structure Node where
  kind : Kind
  content : Content
  deriving Repr, DecidableEq

instance : Inhabited Node := ⟨⟨.null, .scalar ""⟩⟩

/-- The nodes of a document. -/
abbrev Graph := Array Node

/-- The nodes of a document and the one that holds all others. -/
structure Composition where
  graph : Graph
  root : NodeId
  deriving Repr

/-- What reading nodes goes by. -/
structure Composer where
  tokens : List Token
  /-- What the handles of tags stand for. -/
  handles : List (String × String)
  /-- The nodes that anchors name. -/
  anchors : List (String × NodeId)
  graph : Graph
  /-- The number of further collections that may be opened within each other. -/
  room : Nat

/-- A computation that reads nodes. -/
abbrev Compose := StateT Composer (Except Fault)

namespace Compose

def refuse {α : Type} : Compose α := throw .malformed

def next? : Compose (Option Token) := do
  match (← get).tokens.head? with
  | some (.fault fault) => throw fault
  | token? => return token?

def advance : Compose Unit := modify fun composer => { composer with tokens := composer.tokens.drop 1 }

/-- Whether the next token is one of some; if it is, stay before it. -/
def isNext (expected : List Token) : Compose Bool := do
  match ← next? with
  | some token => return expected.contains token
  | none => return false

/-- Go on after the next token if it is a given one. -/
def accept (token : Token) : Compose Bool := do
  if ← isNext [token] then
    advance
    return true
  else return false

/-- Go on after the next token, which has to be a given one. -/
def expect (token : Token) : Compose Unit := do
  if ← accept token then return () else refuse

def standardHandles : List (String × String) := [("!", "!"), ("!!", "tag:yaml.org,2002:")]

/-- The tag that is meant by a written one. -/
def meaning (tag : WrittenTag) : Compose String := do
  match tag.handle? with
  | none => return tag.suffix
  | some handle =>
    match (← get).handles.lookup handle with
    | some lead => return lead ++ tag.suffix
    | none => refuse

/-- What stands before a node: an anchor, a tag, both in either order, or nothing. -/
structure Properties where
  anchor? : Option String
  tag? : Option String
  deriving Repr, DecidableEq

/-- Read an anchor, if one is here. -/
def anchor? : Compose (Option String) := do
  match ← next? with
  | some (.anchor name) =>
    advance
    return some name
  | _ => return none

/-- Read a tag, if one is here. -/
def tag? : Compose (Option WrittenTag) := do
  match ← next? with
  | some (.tag written) =>
    advance
    return some written
  | _ => return none

/-- Read an anchor and a tag in either order. -/
def written : Compose (Option String × Option WrittenTag) := do
  match ← anchor? with
  | some name => return (some name, ← tag?)
  | none =>
    match ← tag? with
    | some tag => return (← anchor?, some tag)
    | none => return (none, none)

/-- Read what stands before a node. Only then is the meaning of the tag looked up. -/
def properties : Compose Properties := do
  let (anchor?, tag?) ← written
  return ⟨anchor?, ← tag?.mapM meaning⟩

/-- An anchor may be set once only. -/
def checkAnchor (anchor? : Option String) : Compose Unit := do
  match anchor? with
  | none => return ()
  | some name => if ((← get).anchors.lookup name).isSome then refuse else return ()

/-- Add a node to the graph, and let an anchor name it. -/
def add (anchor? : Option String) (node : Node) : Compose NodeId := do
  let id := (← get).graph.size
  modify fun composer =>
    { composer with
      graph := composer.graph.push node
      anchors := (anchor?.map fun name => (name, id)).toList ++ composer.anchors }
  return id

def fill (id : NodeId) (content : Content) : Compose Unit :=
  modify fun composer =>
    { composer with graph := composer.graph.modify id fun node => { node with content } }

def addEmpty : Compose NodeId := add none ⟨.null, .scalar ""⟩

/-- The kind of a scalar. Without a tag, or with a lone exclamation mark for one, the text decides; a text
    in quotation marks or in a block is a text if nothing else is said. -/
def scalarKind (tag? : Option String) (plain : Bool) (text : String) : Kind :=
  match tag? with
  | some "!" => Kind.ofText text
  | some tag => Kind.ofTag tag
  | none => if plain then Kind.ofText text else .text

/-- The kind of a collection, given the one it has without a tag. A lone exclamation mark says nothing. -/
def collectionKind (tag? : Option String) (untagged : Kind) : Kind :=
  match tag? with
  | none | some "!" => untagged
  | some tag => Kind.ofTag tag

/-- Read what is inside a collection, unless too many collections are around it. -/
def inside {α : Type} (reading : Compose α) : Compose α := do
  match (← get).room with
  | 0 => throw .nested
  | room + 1 =>
    modify fun composer => { composer with room }
    let result ← reading
    modify fun composer => { composer with room := room + 1 }
    return result

/-- Add a collection. It is in the graph before what it holds is read. -/
def addCollection (found : Properties) (untagged : Kind) (empty : Content) (reading : Compose Content) :
    Compose NodeId := do
  let id ← add found.anchor? ⟨collectionKind found.tag? untagged, empty⟩
  fill id (← inside reading)
  return id

def addSequence (found : Properties) (items : Compose (List NodeId)) : Compose NodeId :=
  addCollection found .sequence (.sequence []) (Content.sequence <$> items)

def addMapping (found : Properties) (entries : Compose (List Entry)) : Compose NodeId :=
  addCollection found .mapping (.mapping []) (Content.mapping <$> entries)

def addScalar (found : Properties) (plain : Bool) (text : String) : Compose NodeId :=
  add found.anchor? ⟨scalarKind found.tag? plain text, .scalar text⟩

/-- Where a node stands, which decides how it may start. -/
inductive Place where
  /-- Between brackets. -/
  | flow
  /-- Outside brackets. -/
  | block
  /-- In a block mapping, whose values may be sequences that are not indented further. -/
  | member
  deriving Repr, DecidableEq

mutual

/-- Read a node. The fuel bounds the nesting of calls. -/
def node : Nat → Place → Compose NodeId
  | 0, _ => refuse
  | fuel + 1, place => do
    match ← next? with
    | some (.alias name) =>
      advance
      match (← get).anchors.lookup name with
      | some found => return found
      | none => refuse
    | _ => content fuel place (← properties)

/-- Read a node after its anchor and tag. -/
def content : Nat → Place → Properties → Compose NodeId
  | 0, _, _ => refuse
  | fuel + 1, place, found => do
    let token? ← next?
    checkAnchor found.anchor?
    match token?, place with
    | some (.scalar text plain), _ =>
      advance
      addScalar found plain text
    | some .flowSequence, _ =>
      advance
      addSequence found (flowItems fuel true)
    | some .flowMapping, _ =>
      advance
      addMapping found (flowEntries fuel true)
    | some .entry, .member => addSequence found (looseItems fuel)
    | some .blockSequence, .block | some .blockSequence, .member =>
      advance
      addSequence found (blockItems fuel)
    | some .blockMapping, .block | some .blockMapping, .member =>
      advance
      addMapping found (blockEntries fuel)
    | _, _ => if found.anchor?.isNone ∧ found.tag?.isNone then refuse else addScalar found true ""

/-- Read the items of a block sequence up to its end. -/
def blockItems : Nat → Compose (List NodeId)
  | 0 => refuse
  | fuel + 1 => do
    if ← accept .entry then
      let item ← if ← isNext [.entry, .blockEnd] then addEmpty else node fuel .block
      let items ← blockItems fuel
      return item :: items
    else
      expect .blockEnd
      return []

/-- Read the items of a sequence that is indented no further than the mapping around it. -/
def looseItems : Nat → Compose (List NodeId)
  | 0 => refuse
  | fuel + 1 => do
    if ← accept .entry then
      let item ←
        if ← isNext [.entry, .key, .value, .blockEnd] then addEmpty else node fuel .block
      let items ← looseItems fuel
      return item :: items
    else return []

/-- Read the entries of a block mapping up to its end. -/
def blockEntries : Nat → Compose (List Entry)
  | 0 => refuse
  | fuel + 1 => do
    if ← accept .key then
      let key ←
        if ← isNext [.key, .value, .blockEnd] then addEmpty else node fuel .member
      let value ← blockValue fuel
      let entries ← blockEntries fuel
      return (key, value) :: entries
    else
      expect .blockEnd
      return []

/-- Read the value of a block mapping's entry, if one is given. -/
def blockValue : Nat → Compose NodeId
  | 0 => refuse
  | fuel + 1 => do
    if ← accept .value then
      if ← isNext [.key, .value, .blockEnd] then addEmpty else node fuel .member
    else addEmpty

/-- Read the items between square brackets up to the closing one. -/
def flowItems : Nat → Bool → Compose (List NodeId)
  | 0, _ => refuse
  | fuel + 1, first => do
    if ← accept .flowSequenceEnd then return []
    else
      if !first then expect .separator
      if ← accept .flowSequenceEnd then return []
      else
        let item ←
          if ← accept .key then addMapping ⟨none, none⟩ (flowPair fuel) else node fuel .flow
        let items ← flowItems fuel false
        return item :: items

/-- Read the only entry of a mapping that stands between square brackets, after the mark of its key. -/
def flowPair : Nat → Compose (List Entry)
  | 0 => refuse
  | fuel + 1 => do
    let key ←
      if ← isNext [.value, .separator, .flowSequenceEnd] then addEmpty else node fuel .flow
    let value ← flowValue fuel .flowSequenceEnd
    return [(key, value)]

/-- Read the entries between braces up to the closing one. -/
def flowEntries : Nat → Bool → Compose (List Entry)
  | 0, _ => refuse
  | fuel + 1, first => do
    if ← accept .flowMappingEnd then return []
    else
      if !first then expect .separator
      if ← accept .flowMappingEnd then return []
      else
        let entry ←
          if ← accept .key then
            let key ←
              if ← isNext [.value, .separator, .flowMappingEnd] then addEmpty
              else node fuel .flow
            let value ← flowValue fuel .flowMappingEnd
            pure (key, value)
          else do
            let key ← node fuel .flow
            pure (key, ← addEmpty)
        let entries ← flowEntries fuel false
        return entry :: entries

/-- Read the value of an entry between brackets, if one is given. -/
def flowValue : Nat → Token → Compose NodeId
  | 0, _ => refuse
  | fuel + 1, closing => do
    if ← accept .value then
      if ← isNext [.separator, closing] then addEmpty else node fuel .flow
    else addEmpty

end

/-- Read the declarations before a document. A version other than the first is refused, and so is a
    handle or version that is declared twice. -/
def declarations : List Token → Bool → List (String × String) →
    Except Fault (List Token × List (String × String))
  | .declaration (.version major _) :: rest, versioned, handles =>
    if versioned ∨ major ≠ 1 then .error .malformed else declarations rest true handles
  | .declaration (.handle handle meaning) :: rest, versioned, handles =>
    if (handles.lookup handle).isSome then .error .malformed
    else declarations rest versioned (handles ++ [(handle, meaning)])
  | .declaration .other :: rest, versioned, handles => declarations rest versioned handles
  | .fault fault :: _, _, _ => .error fault
  | rest, _, handles => .ok (rest, handles)

/-- Whether a document is over before it has a node. -/
def isEmptyDocument (tokens : List Token) : Bool :=
  match tokens.head? with
  | none | some .documentStart | some .documentEnd | some (.declaration _) => true
  | _ => false

/-- See to it that a text ends after its document. The declarations of another document are still
    read. -/
def atEnd (tokens : List Token) : Except Fault Unit :=
  match tokens.dropWhile (· == .documentEnd) with
  | [] => .ok ()
  | rest => do
    let _ ← declarations rest false []
    .error .malformed

def deepest : Nat := 489

/-- Read the node of a document and see to it that nothing comes after it. -/
def document (tokens : List Token) (handles : List (String × String)) : Except Fault Composition := do
  let (root, composer) ← node (4 * tokens.length + 8) .block ⟨tokens, handles, [], #[], deepest⟩
  atEnd composer.tokens
  return ⟨composer.graph, root⟩

def emptyDocument : Composition := ⟨#[default], 0⟩

end Compose

/-- The nodes of a text's only document, if there is a document. -/
def composition? (tokens : List Token) : Except Fault (Option Composition) := do
  match tokens.head? with
  | none => return none
  | some .documentStart | some (.declaration _) =>
    let (rest, declared) ← Compose.declarations tokens false []
    match rest with
    | .documentStart :: rest =>
      if Compose.isEmptyDocument rest then
        Compose.atEnd rest
        return some Compose.emptyDocument
      else return some (← Compose.document rest (declared ++ Compose.standardHandles))
    | _ => .error .malformed
  | some _ => return some (← Compose.document tokens Compose.standardHandles)

end ShaderBuild.Yaml
