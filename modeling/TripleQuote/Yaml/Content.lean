import TripleQuote.Yaml.Node

/-! # The content of nodes

What the type of a node makes of it. The mappings under the key `<<` of a mapping are merged into
it. A collection is filled only after everything around it has been made, so of several faults
the outermost one counts, and the first one among those that are equally deep
(`Content.firstFault`). -/

namespace TripleQuote.Yaml

/-- The content of a node. -/
inductive Content where
  | leaf (value : Except Fault Value)
  | list (items : List Content)
  | map (entries : List (Content × Content))
  | set (entries : List (Content × Content))
  | pairs (entries : List (Content × Content))
  /-- A collection that is written in a form which its type does not have. -/
  | misshapen
deriving Inhabited

namespace Node

/-- The content that a node of a type has whatever its form: none for a collection. -/
def collectionContent (tag : Tag) : Content :=
  match tag with
  | .sequence | .mapping | .set | .pairs => .misshapen
  | _ => .leaf (.error .malformed)

mutual
/-- The content of a node. -/
def content : Node → Content
  | scalar tag text => if tag.isScalar then .leaf (tag.read text) else collectionContent tag
  | sequence tag items =>
    match tag with
    | .sequence => .list (contents items)
    | .pairs => (pairContents items).elim .misshapen .pairs
    | tag => collectionContent tag
  | mapping tag entries =>
    match tag with
    | .mapping => (mergedContents entries).elim .misshapen fun (merged, own) => .map (merged ++ own)
    | .set => (mergedContents entries).elim .misshapen fun (merged, own) => .set (merged ++ own)
    | tag => collectionContent tag

def contents : List Node → List Content
  | [] => []
  | node :: nodes => content node :: contents nodes

/-- The entries of a sequence of mappings with one entry each. -/
def pairContents : List Node → Option (List (Content × Content))
  | [] => some []
  | mapping _ [(key, value)] :: nodes =>
    (pairContents nodes).map ((content key, content value) :: ·)
  | _ :: _ => none

/-- The entries that are merged into a mapping, and its own. The sign `=` as a key is a text. -/
def mergedContents :
    List (Node × Node) → Option (List (Content × Content) × List (Content × Content))
  | [] => some ([], [])
  | (key, value) :: entries => do
    let (merged, own) ← mergedContents entries
    match key with
    | scalar .sign text => return (merged, (.leaf (.ok (.text text)), content value) :: own)
    | key =>
      if key.tag = .merge then return ((← mergeable value) ++ merged, own)
      else return (merged, (content key, content value) :: own)

/-- The entries of a node that is merged: those of a mapping, or of a sequence of mappings, the
last of which comes first. -/
def mergeable : Node → Option (List (Content × Content))
  | mapping _ entries => do
    let (merged, own) ← mergedContents entries
    return merged ++ own
  | sequence _ items => (mergeableItems items).map fun mappings => mappings.reverse.flatten
  | scalar _ _ => none

def mergeableItems : List Node → Option (List (List (Content × Content)))
  | [] => some []
  | mapping _ entries :: nodes => do
    let (merged, own) ← mergedContents entries
    return (merged ++ own) :: (← mergeableItems nodes)
  | _ :: _ => none
end

end Node

namespace Content

/-! ### Faults -/

/-- Whether the content can be a key. -/
def isKey : Content → Bool
  | leaf _ => true
  | _ => false

/-- The faults that are found when the content is met. -/
def faultsMet : Content → List Fault
  | leaf (.error fault) => [fault]
  | _ => []

/-- Lists of faults side by side: those that are equally deep are joined. -/
def beside : List (List Fault) → List (List Fault) → List (List Fault)
  | [], ys => ys
  | xs, [] => xs
  | x :: xs, y :: ys => (x ++ y) :: beside xs ys

/-- The faults that are found when the entries of a collection are met. -/
def entryFaults (keyed : Bool) (entries : List (Content × Content)) : List Fault :=
  entries.flatMap fun (key, value) =>
    key.faultsMet ++ (if keyed && !key.isKey then [.malformed] else []) ++ value.faultsMet

mutual
/-- The faults that are found when a collection is filled, by their depth. -/
def faultsFilling : Content → List (List Fault)
  | leaf _ => []
  | list items => items.flatMap faultsMet :: itemFaultsFilling items
  | map entries => entryFaults true entries :: entryFaultsFilling entries
  | set entries => entryFaults true entries :: entryFaultsFilling entries
  | pairs entries => entryFaults false entries :: entryFaultsFilling entries
  | misshapen => [[.malformed]]

def itemFaultsFilling : List Content → List (List Fault)
  | [] => []
  | item :: items => beside item.faultsFilling (itemFaultsFilling items)

def entryFaultsFilling : List (Content × Content) → List (List Fault)
  | [] => []
  | (key, value) :: entries =>
    beside key.faultsFilling (beside value.faultsFilling (entryFaultsFilling entries))
end

/-- The fault of a document, if it has one. -/
def firstFault (c : Content) : Option Fault := (c.faultsMet ++ c.faultsFilling.flatten).head?

/-! ### Values -/

/-- Whether two values are the same key of a document, in which there is only one NaN. -/
def sameKey (a b : Value) : Bool :=
  match a, b with
  | .float .nan, .float .nan => true
  | a, b => a.sameKey b

def shownSet (keys : List Value) : Text :=
  if keys.isEmpty then "set()"
  else '{' :: Text.join ", " (keys.map Value.shown) ++ ['}']

mutual
/-- The value of content without a fault. -/
def value : Content → Value
  | leaf v => v.toOption.getD .null
  | list items => .list (values items)
  | map entries => .map (Ordered.ofList sameKey (entryValues entries))
  | set entries => .object (shownSet ((Ordered.ofList sameKey (entryValues entries)).map (·.1)))
  | pairs entries => .list ((entryValues entries).map fun (k, v) => .tuple [k, v])
  | misshapen => .null

def values : List Content → List Value
  | [] => []
  | item :: items => item.value :: values items

def entryValues : List (Content × Content) → List (Value × Value)
  | [] => []
  | (key, value) :: entries => (key.value, value.value) :: entryValues entries
end

end Content

end TripleQuote.Yaml
