import PromptTrainer.Yaml.Event
/-!
# YAML documents

A document is loaded from the events of a stream into a tree of nodes.  Each node keeps
what a reader of typed values needs: a scalar its text, style and tag; a collection its tag
and items or entries.  An alias stays a reference to the node its anchor named, by number,
so that a node may be referred to from inside itself; the anchored nodes are kept in a
table.  An anchor names the node from its start on, until the same name is given again;
an alias to a name not given before it is refused.

`Yaml.load` reads a text holding at most one document.  A text with no document loads as
the empty document (`root = none`); a second document, or any fault of the text, is
refused.  The document also records how many events it was made of, which bounds how often
aliases may be followed when it is read.
-/

namespace PromptTrainer
namespace Yaml

/-- A node of a YAML document. -/
inductive Node where
  | scalar (value : String) (style : ScalarStyle) (tag : Option TagBytes)
  | sequence (tag : Option TagBytes) (items : List Node)
  | mapping (tag : Option TagBytes) (entries : List (Node × Node))
  /-- A reference to the anchored node of a number. -/
  | alias (target : Nat)
deriving Inhabited

/-- A loaded document: its root (none for a stream without documents), the anchored nodes
by number, and the number of its events. -/
structure Document where
  root : Option Node
  anchors : Array Node
  eventCount : Nat

/-- The anchors met while loading: names with their numbers (latest first), and the
anchored nodes. -/
structure Anchors where
  names : List (String × Nat) := []
  nodes : Array Node := #[]

/-- Gives a name to a new number, whose node is filled in later. -/
def Anchors.reserve (a : Anchors) : Option String → Anchors × Option Nat
  | none => (a, none)
  | some name => ({ names := (name, a.nodes.size) :: a.names, nodes := a.nodes.push default },
      some a.nodes.size)

/-- Fills in the node of a reserved number. -/
def Anchors.fill (a : Anchors) : Option Nat → Node → Anchors
  | none, _ => a
  | some id, n => { a with nodes := a.nodes.setIfInBounds id n }

/-- A result of loading. -/
abbrev Loading (α : Type) := Except YamlError α

mutual
/-- Loads the node whose events start the list. -/
def loadNode : Nat → List Event → Anchors → Loading (Node × List Event × Anchors)
  | 0, _, _ => .error ⟨"the document is nested too deeply"⟩
  | fuel + 1, events, a =>
    match events with
    | .alias name :: rest =>
      match a.names.lookup name with
      | some id => .ok (.alias id, rest, a)
      | none => .error ⟨"unknown anchor"⟩
    | .scalar anchor tag value style :: rest =>
      let node := Node.scalar value style tag
      let (a, id) := a.reserve anchor
      .ok (node, rest, a.fill id node)
    | .sequenceStart anchor tag :: rest => do
      let (a, id) := a.reserve anchor
      let (items, rest, a) ← loadItems fuel rest a []
      let node := Node.sequence tag items
      .ok (node, rest, a.fill id node)
    | .mappingStart anchor tag :: rest => do
      let (a, id) := a.reserve anchor
      let (entries, rest, a) ← loadEntries fuel rest a []
      let node := Node.mapping tag entries
      .ok (node, rest, a.fill id node)
    | _ => .error ⟨"a node was expected"⟩

/-- Loads the items of a sequence up to its end; `acc` holds those loaded, last first. -/
def loadItems : Nat → List Event → Anchors → List Node → Loading (List Node × List Event × Anchors)
  | 0, _, _, _ => .error ⟨"the document is nested too deeply"⟩
  | fuel + 1, events, a, acc =>
    match events with
    | .sequenceEnd :: rest => .ok (acc.reverse, rest, a)
    | _ => do
      let (item, rest, a) ← loadNode fuel events a
      loadItems fuel rest a (item :: acc)

/-- Loads the entries of a mapping up to its end; `acc` holds those loaded, last first. -/
def loadEntries : Nat → List Event → Anchors → List (Node × Node) →
    Loading (List (Node × Node) × List Event × Anchors)
  | 0, _, _, _ => .error ⟨"the document is nested too deeply"⟩
  | fuel + 1, events, a, acc =>
    match events with
    | .mappingEnd :: rest => .ok (acc.reverse, rest, a)
    | _ => do
      let (key, rest, a) ← loadNode fuel events a
      let (value, rest, a) ← loadNode fuel rest a
      loadEntries fuel rest a ((key, value) :: acc)
end

/-- The events of the first document of a stream and those after it. -/
def firstDocument : List Event → Loading (Option (List Event × List Event))
  | .streamStart :: .streamEnd :: _ => .ok none
  | .streamStart :: .documentStart :: rest =>
    let body := rest.takeWhile (fun e => match e with | .documentEnd => false | _ => true)
    .ok (some (body, rest.drop (body.length + 1)))
  | _ => .error ⟨"a stream was expected"⟩

/-- Loads the single document of a YAML text. -/
def load (source : String) : Loading Document := do
  let evs ← events source
  match ← firstDocument evs with
  | none => pure ⟨none, #[], 1⟩
  | some (body, after) =>
    match after with
    | .documentStart :: _ => .error ⟨"deserializing from YAML containing more than one document is not supported"⟩
    | _ =>
      let fuel := 2 * body.length + 4
      let (root, _, anchors) ← loadNode fuel body {}
      pure ⟨some root, anchors.nodes, body.length⟩

end Yaml
end PromptTrainer
