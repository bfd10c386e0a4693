import TripleQuote.Yaml.Tag
import TripleQuote.Yaml.Token

/-! # Nodes of YAML documents

A document is a tree of scalars, sequences and mappings, each with its type. The tree is read off
the tokens (`Node.ofTokens`). The functions that read it take a bound for the depth of their
recursion, which the number of tokens gives. -/

namespace TripleQuote.Yaml

/-- A node of a document. -/
inductive Node where
  | scalar (tag : Tag) (text : Text)
  | sequence (tag : Tag) (items : List Node)
  | mapping (tag : Tag) (entries : List (Node × Node))
deriving Repr, Inhabited

/-- What is left of a document that is being read. -/
structure Reading where
  tokens : List Token
  /-- The nodes with anchors. A node that has not been read to its end stands for none. -/
  anchors : List (Text × Option Node)
  /-- The handles of tags with their meaning. -/
  handles : List (Text × Text)

/-- Reading a part of a document. -/
abbrev Read := StateT Reading (Except Fault)

namespace Node

def tag : Node → Tag
  | scalar t _ => t
  | sequence t _ => t
  | mapping t _ => t

/-- The next token. A document that breaks off there has a fault. -/
def peek : Read Token := fun r =>
  match r.tokens with
  | .broken fault :: _ => .error fault
  | t :: _ => .ok (t, r)
  | [] => .error .malformed

/-- Go on to the next token. -/
def skip : Read Unit := modify fun r => { r with tokens := r.tokens.tail }

/-- Refuse the document. -/
def refuse {α : Type} : Read α := throw .malformed

/-- Skip a token that must come next. -/
def expect (t : Token) : Read Unit := do
  if (← peek) = t then skip else refuse

/-- Where a node stands, which decides the forms it can have. -/
inductive Context where
  /-- Inside a flow collection. -/
  | flow
  | block
  /-- A value or key of a block mapping: a sequence need not be indented. -/
  | entry
deriving DecidableEq, Repr

/-! ### Anchors and tags -/

/-- What comes before the content of a node. -/
structure Properties where
  anchor : Option Text
  tag : Option Text

/-- The full tag of a tag with a handle. -/
def fullTag (handle : Option Text) (suffix : Text) : Read Text := do
  match handle with
  | none => return suffix
  | some handle =>
    match (← get).handles.lookup handle with
    | some meaning => return meaning ++ suffix
    | none => refuse

/-- The anchor and the tag of a node, in any order. -/
def readProperties : Read Properties := do
  match ← peek with
  | .anchor name => do
    skip
    match ← peek with
    | .tag handle suffix =>
      skip
      return ⟨some name, some (← fullTag handle suffix)⟩
    | _ => return ⟨some name, none⟩
  | .tag handle suffix => do
    skip
    match ← peek with
    | .anchor name =>
      skip
      return ⟨some name, some (← fullTag handle suffix)⟩
    | _ => return ⟨none, some (← fullTag handle suffix)⟩
  | _ => return ⟨none, none⟩

/-- The type of a node for which `untagged` is the type without a tag. An exclamation mark as a
tag makes no difference. -/
def Properties.type (p : Properties) (untagged : Tag) : Tag :=
  match p.tag with
  | none => untagged
  | some t => if t = ['!'] then untagged else .ofText t

/-- The type of a scalar. The spelling decides for plain scalars, and for those with an
exclamation mark as their tag. -/
def Properties.scalarType (p : Properties) (plain : Bool) (text : Text) : Tag :=
  p.type (if plain || p.tag.isSome then .ofPlain text else .text)

/-- Name the node that starts here. A name can be given once. -/
def Properties.openAnchor (p : Properties) : Read Unit := do
  match p.anchor with
  | none => return
  | some name =>
    if ((← get).anchors.lookup name).isSome then refuse
    else modify fun r => { r with anchors := (name, none) :: r.anchors }

/-- Name a node that has been read. -/
def Properties.close (p : Properties) (node : Node) : Read Node := do
  match p.anchor with
  | none => return node
  | some name =>
    modify fun r => { r with anchors := (name, some node) :: r.anchors }
    return node

/-- The node with an anchor. Inside the node itself the anchor cannot be used. -/
def referent (name : Text) : Read Node := do
  match (← get).anchors.lookup name with
  | some (some node) => return node
  | _ => refuse

/-! ### Nodes -/

/-- The node of a place where nothing is written. -/
def missing : Node := scalar .null []

mutual
/-- The node that comes next. -/
def read : (fuel : Nat) → Context → Read Node
  | 0, _ => refuse
  | fuel + 1, context => do
    match ← peek with
    | .reference name =>
      skip
      referent name
    | _ =>
      let p ← readProperties
      match ← peek, context with
      | .scalar plain text, _ =>
        skip
        p.openAnchor
        p.close (scalar (p.scalarType plain text) text)
      | .flowSequenceStart, _ =>
        skip
        p.openAnchor
        let items ← readFlowItems fuel true
        p.close (sequence (p.type .sequence) items)
      | .flowMappingStart, _ =>
        skip
        p.openAnchor
        let entries ← readFlowEntries fuel true
        p.close (mapping (p.type .mapping) entries)
      | .dash, .entry =>
        p.openAnchor
        let items ← readUnindented fuel
        p.close (sequence (p.type .sequence) items)
      | .sequenceStart, .block | .sequenceStart, .entry =>
        skip
        p.openAnchor
        let items ← readItems fuel
        p.close (sequence (p.type .sequence) items)
      | .mappingStart, .block | .mappingStart, .entry =>
        skip
        p.openAnchor
        let entries ← readEntries fuel
        p.close (mapping (p.type .mapping) entries)
      | _, _ =>
        if p.anchor.isSome || p.tag.isSome then
          p.openAnchor
          p.close (scalar (p.scalarType true []) [])
        else refuse

/-- The node that comes next, or a missing one before a token that ends its place. -/
def readUnless (ends : Token → Bool) : (fuel : Nat) → Context → Read Node
  | 0, _ => refuse
  | fuel + 1, context => do
    if ends (← peek) then return missing else read fuel context

/-- The value behind a colon, or a missing one. -/
def readValue (ends : Token → Bool) : (fuel : Nat) → Context → Read Node
  | 0, _ => refuse
  | fuel + 1, context => do
    if (← peek) = .value then
      skip
      readUnless ends fuel context
    else return missing

/-- The items of a block sequence and its end. -/
def readItems : (fuel : Nat) → Read (List Node)
  | 0 => refuse
  | fuel + 1 => do
    match ← peek with
    | .dash =>
      skip
      let item ← readUnless (fun t => t == .dash || t == .blockEnd) fuel .block
      return item :: (← readItems fuel)
    | .blockEnd =>
      skip
      return []
    | _ => refuse

/-- The items of a block sequence that is not indented. -/
def readUnindented : (fuel : Nat) → Read (List Node)
  | 0 => refuse
  | fuel + 1 => do
    match ← peek with
    | .dash =>
      skip
      let ends (t : Token) : Bool := t == .dash || t == .key || t == .value || t == .blockEnd
      let item ← readUnless ends fuel .block
      return item :: (← readUnindented fuel)
    | _ => return []

/-- The entries of a block mapping and its end. -/
def readEntries : (fuel : Nat) → Read (List (Node × Node))
  | 0 => refuse
  | fuel + 1 => do
    match ← peek with
    | .key =>
      skip
      let ends (t : Token) : Bool := t == .key || t == .value || t == .blockEnd
      let key ← readUnless ends fuel .entry
      let value ← readValue ends fuel .entry
      return (key, value) :: (← readEntries fuel)
    | .blockEnd =>
      skip
      return []
    | _ => refuse

/-- The items of a flow sequence and its end. An item may be a mapping of one entry without
braces. `first` is set before the first item. -/
def readFlowItems : (fuel : Nat) → (first : Bool) → Read (List Node)
  | 0, _ => refuse
  | fuel + 1, first => do
    if (← peek) = .flowSequenceEnd then
      skip
      return []
    unless first do expect .comma
    match ← peek with
    | .flowSequenceEnd =>
      skip
      return []
    | .key =>
      skip
      let ends (t : Token) : Bool := t == .comma || t == .flowSequenceEnd
      let key ← readUnless (fun t => t == .value || ends t) fuel .flow
      let value ← readValue ends fuel .flow
      return mapping .mapping [(key, value)] :: (← readFlowItems fuel false)
    | _ =>
      let item ← read fuel .flow
      return item :: (← readFlowItems fuel false)

/-- The entries of a flow mapping and its end. A node without a colon is a key whose value is
missing. -/
def readFlowEntries : (fuel : Nat) → (first : Bool) → Read (List (Node × Node))
  | 0, _ => refuse
  | fuel + 1, first => do
    if (← peek) = .flowMappingEnd then
      skip
      return []
    unless first do expect .comma
    match ← peek with
    | .flowMappingEnd =>
      skip
      return []
    | .key =>
      skip
      let ends (t : Token) : Bool := t == .comma || t == .flowMappingEnd
      let key ← readUnless (fun t => t == .value || ends t) fuel .flow
      let value ← readValue ends fuel .flow
      return (key, value) :: (← readFlowEntries fuel false)
    | _ =>
      let key ← read fuel .flow
      return (key, missing) :: (← readFlowEntries fuel false)
end

/-! ### Documents -/

/-- The meaning of the handles that need no directive. -/
def commonHandles : List (Text × Text) := [("!!", Tag.common), ("!", ['!'])]

/-- Read directives. The version is given once at most and must be 1, and a handle is given a
meaning once at most. -/
def readDirectives : (fuel : Nat) → (versioned : Bool) → (handles : List (Text × Text)) → Read Unit
  | 0, _, _ => refuse
  | fuel + 1, versioned, handles => do
    match ← peek with
    | .directive (.version major) =>
      skip
      if versioned || major ≠ 1 then refuse else readDirectives fuel true handles
    | .directive (.handle handle expansion) =>
      skip
      if (handles.lookup handle).isSome then refuse
      else readDirectives fuel versioned ((handle, expansion) :: handles)
    | .directive .unknown =>
      skip
      readDirectives fuel versioned handles
    | _ => modify fun r => { r with handles := handles ++ commonHandles }

/-- Skip the marks of the ends of documents. -/
def skipEnds : (fuel : Nat) → Read Unit
  | 0 => refuse
  | fuel + 1 => do
    if (← peek) = .documentEnd then
      skip
      skipEnds fuel

/-- The start of a document, which a line of dashes follows. -/
def readStart (fuel : Nat) : Read Unit := do
  readDirectives fuel false []
  expect .documentStart

/-- The content of a document after its start. -/
def readContent (fuel : Nat) : Read Node := do
  match ← peek with
  | .directive _ | .documentStart | .documentEnd | .finish => return missing
  | _ => read fuel .block

/-- The end of the only document. What another one starts with is still read. -/
def readEnd (fuel : Nat) : Read Unit := do
  skipEnds fuel
  if (← peek) = .finish then return
  readStart fuel
  refuse

/-- The node of the only document, if there is a document. -/
def readDocument (fuel : Nat) : Read (Option Node) := do
  match ← peek with
  | .finish => return none
  | t =>
    let starts := match t with
      | .directive _ | .documentStart => true
      | _ => false
    if starts then readStart fuel
    let node ← if starts then readContent fuel else read fuel .block
    readEnd fuel
    return some node

/-- The node of the only document in a list of tokens, if there is a document. -/
def ofTokens (ts : List Token) : Except Fault (Option Node) :=
  ((readDocument (4 * ts.length + 4)).run ⟨ts, [], commonHandles⟩).map (·.1)

end Node

end TripleQuote.Yaml
