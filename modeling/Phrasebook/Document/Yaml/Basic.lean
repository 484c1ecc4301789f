import Phrasebook.Document.Yaml.Content
import Phrasebook.Document.Yaml.Node

/-! YAML documents as values.  A collection is made before its members, so of all faults the one counts
that lies in the fewest collections. -/

namespace Phrasebook.Yaml

namespace Node

def tag : Node → Tag
  | .scalar tag _ => tag
  | .sequence tag _ => tag
  | .mapping tag _ => tag

mutual

/-- The text of a scalar, or of the value in a mapping that has an equal sign as its key. -/
def text? : Node → Option Text
  | .scalar _ text => some text
  | .sequence _ _ => none
  | .mapping _ entries => textIn? entries

def textIn? : List (Node × Node) → Option Text
  | [] => none
  | (key, value) :: entries => if key.tag = .value then text? value else textIn? entries

end

/-- An equal sign as a key is a text. -/
def asKey (key : Node) : Node :=
  match key with
  | .scalar .value text => .scalar .text text
  | _ => key

mutual

/-- The members of a mapping with those first that it merges, unless it merges what is no mapping. -/
def members? : Node → Option (List (Node × Node))
  | .mapping _ entries => (split? entries).map fun (merged, own) => merged ++ own
  | _ => none

/-- The entries that other entries merge, and those that merge nothing. -/
def split? : List (Node × Node) → Option (List (Node × Node) × List (Node × Node))
  | [] => some ([], [])
  | (key, value) :: entries => do
    let (merged, own) ← split? entries
    if key.tag = .merge then return ((← mergedBy? value) ++ merged, own)
    else return (merged, (key.asKey, value) :: own)

/-- The members that a mapping gives, or a sequence of mappings.  The first of them counts most, so it
stands last. -/
def mergedBy? : Node → Option (List (Node × Node))
  | .scalar _ _ => none
  | .sequence _ items => mergedByAll? items
  | .mapping _ entries => (split? entries).map fun (merged, own) => merged ++ own

def mergedByAll? : List Node → Option (List (Node × Node))
  | [] => some []
  | item :: items => do
    let members ← members? item
    return (← mergedByAll? items) ++ members

end

end Node

/-- A value, and the first fault in each round of making it: first that of the value itself, then those
of its members, then those of their members. -/
structure Draft where
  value : Value
  faults : List (Option Fault)

namespace Draft

/-- The first faults of two parts that are made side by side. -/
def beside : List (Option Fault) → List (Option Fault) → List (Option Fault)
  | [], faults => faults
  | faults, [] => faults
  | a :: as, b :: bs => a.or b :: beside as bs

def together (drafts : List Draft) : List (Option Fault) :=
  drafts.foldr (fun draft faults => beside draft.faults faults) []

/-- A collection, whose members are made in the next round. -/
def collection (value : Value) (members : List Draft) : Draft := ⟨value, none :: together members⟩

/-- A fault in place of a value. -/
def failed (fault : Fault) : Draft := ⟨.none, [some fault]⟩

/-- A collection that turns out to be none when its members are to be made. -/
def failedLater : Draft := collection .none [failed .construction]

def ofRead : Except Fault Value → Draft
  | .ok value => ⟨value, []⟩
  | .error fault => failed fault

/-- A key is no list and no mapping. -/
def checkedKey (key : Draft) : List Draft :=
  match key.value with
  | .list _ => [key, failed .construction]
  | .map _ => [key, failed .construction]
  | _ => [key]

/-- The value, unless there is a fault. -/
def finish (draft : Draft) : Except Fault Value :=
  match draft.faults.findSome? id with
  | some fault => .error fault
  | none => .ok draft.value

end Draft

namespace Node

def scalarDraft (node : Node) : Draft :=
  match node.text? with
  | some text => .ofRead (node.tag.read text)
  | none => .failed .construction

def listDraft (make : Node → Draft) : Node → Draft
  | .sequence _ items =>
    let drafts := items.map make
    .collection (.list (drafts.map (·.value))) drafts
  | _ => .failedLater

/-- A collection of the members of a mapping. -/
def membersDraft (make : Node → Draft) (gather : List (Value × Value) → Value) (node : Node) : Draft :=
  match node.members? with
  | some members =>
    let drafts := members.map fun (key, value) => (make key, make value)
    .collection (gather (drafts.map fun (key, value) => (key.value, value.value)))
      (drafts.flatMap fun (key, value) => key.checkedKey ++ [value])
  | none => .failedLater

/-- The key and the value of a mapping that has one member alone. -/
def pairDrafts (make : Node → Draft) : Node → List Draft
  | .mapping _ [(key, value)] => [make key, make value]
  | _ => [.failed .construction]

/-- A list of pairs, each of which is written as a mapping with one member. -/
def pairsDraft (make : Node → Draft) : Node → Draft
  | .sequence _ items =>
    let pairs := items.map (pairDrafts make)
    .collection (.list (pairs.map fun pair => .tuple (pair.map (·.value)))) pairs.flatten
  | _ => .failedLater

/-- The value of a node that has at most `bound` levels. -/
def draft (bound : Nat) (node : Node) : Draft :=
  match bound, node.tag with
  | 0, _ => .failed .construction
  | bound + 1, .list => node.listDraft (draft bound)
  | bound + 1, .map =>
    node.membersDraft (draft bound) fun entries =>
      .map (entries.foldl (fun found (key, value) => Value.put key value found) [])
  | bound + 1, .set => node.membersDraft (draft bound) fun entries => .list (entries.map Prod.fst)
  | bound + 1, .ordered => node.pairsDraft (draft bound)
  | bound + 1, .pairs => node.pairsDraft (draft bound)
  | _, _ => node.scalarDraft

end Node

/-- Where runs of characters that documents may hold begin and end. -/
def characterBoundaries : List Nat := [
  0x9, 0xB, 0xD, 0xE, 0x20, 0x7F, 0x85, 0x86, 0xA0, 0xD800, 0xE000, 0xFFFE, 0x10000, 0x110000]

/-- The value that a document is; an empty one is none. -/
def read (text : Text) : Except Fault Value :=
  if text.all (Text.within characterBoundaries) then do
    match ← Node.read text with
    | none => return .none
    | some node => (node.draft (levels text)).finish
  else .error .character

end Phrasebook.Yaml
