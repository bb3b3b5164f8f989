import SettingsCheck.Yaml.Node

/-!
Aliases. An anchor is numbered by how many names were known before it, and an alias means the number
that its name had last. The node that took a number last is what all aliases with it stand for.
-/

namespace SettingsCheck.Yaml

structure Anchors where
  /-- Each known name with its number. -/
  numbers : List (String × Nat) := []
  /-- Which labelled node holds a number, newest first. -/
  holders : List (Nat × Nat) := []
  /-- How many labelled nodes were begun. -/
  begun : Nat := 0
  /-- The labelled nodes. -/
  nodes : List (Nat × Node Nat) := []

namespace Anchors

/-- Begins a node; gives its place among the labelled ones. -/
def enter (label : Label) (s : Anchors) : Option Nat × Anchors :=
  match label.anchor with
  | none => (none, s)
  | some name =>
    let number := s.numbers.length
    (some s.begun, { s with
      numbers := (name, number) :: s.numbers.filter (·.1 != name)
      holders := (number, s.begun) :: s.holders
      begun := s.begun + 1 })

def leave (place : Option Nat) (node : Node Nat) (s : Anchors) : Node Nat × Anchors :=
  match place with
  | none => (node, s)
  | some i => (node, { s with nodes := (i, node) :: s.nodes })

def target? (s : Anchors) (number : Nat) : Option (Node Nat) :=
  (s.holders.lookup number).bind (s.nodes.lookup ·)

end Anchors

namespace Node

mutual
/-- Replaces the names of aliases by numbers; nothing for an alias without anchor before it. -/
def number? : Node String → Anchors → Option (Node Nat × Anchors)
  | reference name, s => (s.numbers.lookup name).map fun n => (reference n, s)
  | scalar label style text, s =>
    let (place, s) := s.enter label
    some (s.leave place (scalar label style text))
  | sequence label items, s =>
    let (place, s) := s.enter label
    (numberItems? items s).map fun (items, s) => s.leave place (sequence label items)
  | mapping label entries, s =>
    let (place, s) := s.enter label
    (numberEntries? entries s).map fun (entries, s) => s.leave place (mapping label entries)

def numberItems? : List (Node String) → Anchors → Option (List (Node Nat) × Anchors)
  | [], s => some ([], s)
  | item :: rest, s => do
    let (item, s) ← number? item s
    let (rest, s) ← numberItems? rest s
    return (item :: rest, s)

def numberEntries? : List (Node String × Node String) → Anchors →
    Option (List (Node Nat × Node Nat) × Anchors)
  | [], s => some ([], s)
  | (key, value) :: rest, s => do
    let (key, s) ← number? key s
    let (value, s) ← number? value s
    let (rest, s) ← numberEntries? rest s
    return ((key, value) :: rest, s)
end

variable {ref : Type}

mutual
/-- How many places a reader passes in a node: one for each leaf, two for each container. -/
def size : Node ref → Nat
  | reference _ => 1
  | scalar _ _ _ => 1
  | sequence _ items => 2 + sizeItems items
  | mapping _ entries => 2 + sizeEntries entries

def sizeItems : List (Node ref) → Nat
  | [] => 0
  | item :: rest => size item + sizeItems rest

def sizeEntries : List (Node ref × Node ref) → Nat
  | [] => 0
  | (key, value) :: rest => size key + size value + sizeEntries rest
end

/-- Puts copies in place of the aliases, as many as allowed. Containers may nest as deep as given,
so an alias inside its own target fails. -/
def expand (targets : Nat → Option (Node Nat)) : Nat → Node Nat → StateT Nat Option (Node Empty)
  | depth, reference n => fun budget => do
    match budget, ← targets n with
    | 0, _ => none
    | budget + 1, node => content depth node budget
  | depth, node => content depth node
where
  /-- A node that is no alias. -/
  content : Nat → Node Nat → StateT Nat Option (Node Empty)
    | _, reference _ => fun _ => none
    | _, scalar label style text => pure (scalar label style text)
    | 0, _ => fun _ => none
    | depth + 1, sequence label items => return sequence label (← items.mapM (expand targets depth))
    | depth + 1, mapping label entries =>
      return mapping label (← entries.mapM fun (key, value) => do
        let key ← expand targets depth key
        return (key, ← expand targets depth value))

/-- The document of a text, without aliases. -/
def ofText? (text : String) : Option (Node Empty) := do
  let root ← document? (← tokens? text)
  let (root, anchors) ← root.number? {}
  let (node, _) ← (expand anchors.target? 128 root).run (100 * root.size)
  return node

end Node

end SettingsCheck.Yaml
