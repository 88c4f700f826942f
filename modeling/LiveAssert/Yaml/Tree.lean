import LiveAssert.Yaml.Node

namespace LiveAssert.Yaml

inductive Tree
  | scalar (tag : Option (List Char)) (text : List Char) (plain : Bool)
  | sequence (tag : Option (List Char)) (items : List Tree)
  | mapping (tag : Option (List Char)) (entries : List (Tree × Tree))

namespace Node

abbrev Numbering := List (Name × Nat)

def Numbering.get? (ns : Numbering) (name : Name) : Option Nat := ns.lookup name

def Numbering.add (ns : Numbering) (name : Name) : Numbering :=
  (name, ns.length) :: ns.filter (·.1 != name)

def Props.number (ns : Numbering) (p : Props Name) : Props Nat × Numbering :=
  match p.anchor with
  | none => (⟨none, p.tag⟩, ns)
  | some a => (⟨some ns.length, p.tag⟩, ns.add a)

mutual

def number? (ns : Numbering) : Node Name → Option (Node Nat × Numbering)
  | .alias name => (ns.get? name).map fun n => (.alias n, ns)
  | .scalar p text plain =>
    let (p, ns) := Props.number ns p
    some (.scalar p text plain, ns)
  | .sequence p items =>
    let (p, ns) := Props.number ns p
    (numberItems? ns items).map fun (items, ns) => (.sequence p items, ns)
  | .mapping p entries =>
    let (p, ns) := Props.number ns p
    (numberEntries? ns entries).map fun (entries, ns) => (.mapping p entries, ns)

def numberItems? (ns : Numbering) : List (Node Name) → Option (List (Node Nat) × Numbering)
  | [] => some ([], ns)
  | item :: items =>
    match item.number? ns with
    | none => none
    | some (item, ns) => (numberItems? ns items).map fun (items, ns) => (item :: items, ns)

def numberEntries? (ns : Numbering) :
    List (Node Name × Node Name) → Option (List (Node Nat × Node Nat) × Numbering)
  | [] => some ([], ns)
  | (k, v) :: entries =>
    match k.number? ns with
    | none => none
    | some (k, ns) =>
      match v.number? ns with
      | none => none
      | some (v, ns) =>
        (numberEntries? ns entries).map fun (entries, ns) => ((k, v) :: entries, ns)

end

mutual

def anchored : Node Nat → List (Nat × Node Nat)
  | .alias _ => []
  | .scalar p text plain => (p.anchor.map fun n => (n, .scalar p text plain)).toList
  | .sequence p items =>
    (p.anchor.map fun n => (n, .sequence p items)).toList ++ anchoredItems items
  | .mapping p entries =>
    (p.anchor.map fun n => (n, .mapping p entries)).toList ++ anchoredEntries entries

def anchoredItems : List (Node Nat) → List (Nat × Node Nat)
  | [] => []
  | item :: items => item.anchored ++ anchoredItems items

def anchoredEntries : List (Node Nat × Node Nat) → List (Nat × Node Nat)
  | [] => []
  | (k, v) :: entries => k.anchored ++ (v.anchored ++ anchoredEntries entries)

end

mutual

/-- The size of a document: one for a scalar or alias, two for a collection and what it holds. -/
def size : Node ι → Nat
  | .alias _ => 1
  | .scalar _ _ _ => 1
  | .sequence _ items => sizeItems items + 2
  | .mapping _ entries => sizeEntries entries + 2

def sizeItems : List (Node ι) → Nat
  | [] => 0
  | item :: items => item.size + sizeItems items

def sizeEntries : List (Node ι × Node ι) → Nat
  | [] => 0
  | (k, v) :: entries => k.size + v.size + sizeEntries entries

end

def depthLimit : Nat := 128

abbrev Expansion := StateT Nat Option

def target (table : List (Nat × Node Nat)) : Node Nat → Expansion (Node Nat)
  | .alias n => do
    match ← get with
    | 0 => failure
    | left + 1 =>
      set left
      match table.lookup n with
      | some node => pure node
      | none => failure
  | node => pure node

def expand (table : List (Nat × Node Nat)) : (depth : Nat) → Node Nat → Expansion Tree
  | 0, node => do
    match ← target table node with
    | .scalar p text plain => pure (.scalar p.tag text plain)
    | _ => failure
  | depth + 1, node => do
    match ← target table node with
    | .alias _ => failure
    | .scalar p text plain => pure (.scalar p.tag text plain)
    | .sequence p items => return .sequence p.tag (← items.mapM (expand table depth))
    | .mapping p entries =>
      return .mapping p.tag (← entries.mapM fun (k, v) => do
        let k ← expand table depth k
        let v ← expand table depth v
        return (k, v))

def tree? (node : Node Name) : Option Tree := do
  let (node, _) ← node.number? []
  let (tree, _) ← (expand node.anchored.reverse depthLimit node).run (100 * node.size)
  some tree

end Node

def Tree.read? (s : List Char) : Option (Option Tree) := do
  match ← Node.ofTokens? (← Token.read? s) with
  | none => some none
  | some node => node.tree?.map some

end LiveAssert.Yaml
