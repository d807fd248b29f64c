import VulnProbe.Yaml.Token

namespace VulnProbe.Yaml

/-- A node. Anchors are numbers, and an alias has the number of its node. The tags of collections do not
    matter and are not kept. -/
inductive Node where
  | alias (anchor : Nat)
  | scalar (anchor : Option Nat) (tag : Option String) (style : Style) (text : String)
  | sequence (anchor : Option Nat) (items : List Node)
  | mapping (anchor : Option Nat) (entries : List (Node × Node))
  deriving Inhabited

namespace Node

/-- The node that stands where nothing is written. -/
def empty : Node :=
  .scalar none none .plain ""

/-- A node with the number of its anchor, if it has one. -/
def labelled (anchor : Option Nat) (n : Node) : List (Nat × Node) :=
  anchor.toList.map fun a => (a, n)

mutual
/-- The nodes with an anchor at or below a node, in the order in which they start. -/
def anchored : Node → List (Nat × Node)
  | .alias _ => []
  | .scalar anchor tag style text => labelled anchor (.scalar anchor tag style text)
  | .sequence anchor items => labelled anchor (.sequence anchor items) ++ anchoredItems items
  | .mapping anchor entries => labelled anchor (.mapping anchor entries) ++ anchoredEntries entries

/-- The nodes with an anchor in the items of a sequence. -/
def anchoredItems : List Node → List (Nat × Node)
  | [] => []
  | item :: rest => anchored item ++ anchoredItems rest

/-- The nodes with an anchor in the entries of a mapping. -/
def anchoredEntries : List (Node × Node) → List (Nat × Node)
  | [] => []
  | (key, value) :: rest => anchored key ++ anchored value ++ anchoredEntries rest
end

mutual
/-- The number of marks that write a node: one for a scalar or an alias, and two around a
    collection. -/
def size : Node → Nat
  | .alias _ => 1
  | .scalar .. => 1
  | .sequence _ items => itemsSize items + 2
  | .mapping _ entries => entriesSize entries + 2

/-- The number of marks of the items of a sequence. -/
def itemsSize : List Node → Nat
  | [] => 0
  | item :: rest => size item + itemsSize rest

/-- The number of marks of the entries of a mapping. -/
def entriesSize : List (Node × Node) → Nat
  | [] => 0
  | (key, value) :: rest => size key + size value + entriesSize rest
end

/-- The node below a root that a number stands for: of several, the one that starts last. -/
def find? (root : Node) (anchor : Nat) : Option Node :=
  (root.anchored.reverse.find? fun p => p.1 == anchor).map (·.2)

end Node

end VulnProbe.Yaml
