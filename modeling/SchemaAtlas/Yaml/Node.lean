import SchemaAtlas.Yaml.Scalar
import SchemaAtlas.Yaml.Tag

/-!
# YAML documents

A document as a tree of scalars, sequences and mappings.  A part may be marked
with a number and a tag, and the number can stand for the part elsewhere, even
within the part itself; so what such a number stands for is looked up only
where it is needed, by `Document.target`.  A value that is left out is an
empty plain scalar.
-/

namespace SchemaAtlas.Yaml

/-- What is said in front of a part. -/
structure Properties where
  anchor : Option Nat
  tag : Option Tag
deriving DecidableEq, Inhabited

/-- A part of a document. -/
inductive Node where
  | scalar (style : Style) (letters : List Char)
  | sequence (items : List Node)
  | mapping (entries : List (Node × Node))
  /-- The part with a number. -/
  | reference (number : Nat)
  /-- A part and what is said in front of it. -/
  | marked (properties : Properties) (part : Node)
deriving Inhabited

namespace Node

/-- The part that is left out. -/
def absent : Node := .scalar .plain []

/-- The part without what is said in front of it. -/
def bare : Node → Node
  | .marked _ part => part.bare
  | part => part

def tag? : Node → Option Tag
  | .marked properties _ => properties.tag
  | _ => none

mutual

/-- The numbered parts, in their order in the text. -/
def numbered : Node → List (Nat × Node)
  | .scalar _ _ | .reference _ => []
  | .sequence items => numberedOfItems items
  | .mapping entries => numberedOfEntries entries
  | .marked properties part =>
      (properties.anchor.map fun number =>
        (number, .marked properties part)).toList ++ part.numbered

def numberedOfItems : List Node → List (Nat × Node)
  | [] => []
  | item :: rest => item.numbered ++ numberedOfItems rest

def numberedOfEntries : List (Node × Node) → List (Nat × Node)
  | [] => []
  | (key, value) :: rest =>
      key.numbered ++ value.numbered ++ numberedOfEntries rest

end

end Node

/-- A document: its content, and the parts that numbers stand for. -/
structure Document where
  content : Node
  /-- The numbered parts; the first entry for a number counts. -/
  shared : List (Nat × Node)
deriving Inhabited

namespace Document

/-- The document with some content.  Where parts have the same number, it
stands for the last of them. -/
def ofNode (content : Node) : Document := ⟨content, content.numbered.reverse⟩

/-- What a part stands for: the part with its number, if it is given by one,
or else the part itself. -/
def target (document : Document) (part : Node) : Node :=
  match part with
  | .reference number => (document.shared.lookup number).getD part
  | part => part

end Document

end SchemaAtlas.Yaml
