import Enclosure.Yaml.Tag

/-!
# Nodes

A document is a tree of scalars, sequences and mappings, some of which carry a
tag or an anchor, and of references to anchored nodes. Anchors are numbered when
the document is read, and a reference holds the number. A document may use one
name for several anchors, and then two anchors may get one number; the last node
in reading order that carries a number is the one that references to it mean
(`Node.meanings`).
-/

set_option autoImplicit false

namespace Enclosure.Yaml

/-- What may precede a node: a tag, and an anchor by its number. -/
structure Properties where
  tag : Option Tag := none
  anchor : Option Nat := none
deriving DecidableEq

/-- A node of a document. -/
inductive Node where
  /-- A scalar, and whether it is written without quotes or a block header. -/
  | scalar (text : String) (plain : Bool) (properties : Properties)
  | sequence (items : List Node) (properties : Properties)
  | mapping (fields : List (Node × Node)) (properties : Properties)
  | reference (anchor : Nat)

namespace Node

/-- The node of a value that is not written. -/
def empty : Node := scalar "" true {}

/-- What precedes a node. -/
def properties : Node → Properties
  | scalar _ _ properties => properties
  | sequence _ properties => properties
  | mapping _ properties => properties
  | reference _ => {}

/-- The node with its number, if it has one. -/
def label (node : Node) : List (Nat × Node) :=
  match node.properties.anchor with
  | some anchor => [(anchor, node)]
  | none => []

mutual

/-- The numbered nodes of a tree in reading order. -/
def labels : Node → List (Nat × Node)
  | scalar text plain properties => (scalar text plain properties).label
  | sequence items properties => (sequence items properties).label ++ itemLabels items
  | mapping fields properties => (mapping fields properties).label ++ fieldLabels fields
  | reference _ => []

/-- The numbered nodes of items in reading order. -/
def itemLabels : List Node → List (Nat × Node)
  | [] => []
  | item :: items => item.labels ++ itemLabels items

/-- The numbered nodes of fields in reading order. -/
def fieldLabels : List (Node × Node) → List (Nat × Node)
  | [] => []
  | (name, value) :: fields => name.labels ++ value.labels ++ fieldLabels fields

end

/-- What references mean: the numbered nodes of a tree, the last one first, so
that looking up a number finds the last node that carries it. -/
def meanings (root : Node) : List (Nat × Node) := root.labels.reverse

mutual

/-- The size of a tree: one for a scalar or a reference, and for a collection two
more than its parts have. -/
def size : Node → Nat
  | scalar _ _ _ => 1
  | sequence items _ => itemsSize items + 2
  | mapping fields _ => fieldsSize fields + 2
  | reference _ => 1

/-- The size of items together. -/
def itemsSize : List Node → Nat
  | [] => 0
  | item :: items => item.size + itemsSize items

/-- The size of fields together. -/
def fieldsSize : List (Node × Node) → Nat
  | [] => 0
  | (name, value) :: fields => name.size + value.size + fieldsSize fields

end

end Node

end Enclosure.Yaml
