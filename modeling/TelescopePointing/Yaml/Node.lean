import TelescopePointing.Yaml.Leaf

namespace TelescopePointing.Yaml

/-- A text in a document, with the tag that it may have. -/
structure Leaf where
  text : String
  style : LeafStyle
  tag : Option String

/-- A value of a document. An alias stands for the value that its anchor marks. -/
inductive Node where
  | leaf (l : Leaf)
  | sequence (items : List Node)
  | mapping (entries : List (Node × Node))
  | alias (anchor : Nat)

def Leaf.absent : Leaf := ⟨"", .plain, none⟩

def Node.absent : Node := .leaf .absent

/-- A value with the values that its anchors mark. -/
structure Document where
  root : Node
  anchored : List (Nat × Node)

namespace Document

/-- The value that an alias stands for. Other values stand for themselves. -/
def resolve (d : Document) : Node → Node
  | .alias anchor => (d.anchored.lookup anchor).getD .absent
  | n => n

/-- A value with no alias for some levels. An anchor may enclose its alias, so there need not be a
level without one. -/
def unfold (d : Document) : Nat → Node → Node
  | 0, n => n
  | depth + 1, n =>
    match d.resolve n with
    | .sequence items => .sequence (items.map (d.unfold depth))
    | .mapping entries =>
      .mapping (entries.map fun (key, value) => (d.unfold depth key, d.unfold depth value))
    | n => n

end Document

end TelescopePointing.Yaml
