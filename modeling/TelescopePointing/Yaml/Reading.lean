import TelescopePointing.Decimal.Numeral
import TelescopePointing.Scalar
import TelescopePointing.Yaml.Node

namespace TelescopePointing.Yaml

/-- The tags of the basic kinds of values start in one way. -/
def basicTag (kind : String) : String := "tag:yaml.org,2002:" ++ kind

namespace Leaf

def isPlain (l : Leaf) : Bool := l.style = .plain

/-- Whether a leaf may stand for a value of a basic kind: it is plain, or a literal block of text
with the tag of the kind. -/
def mayBe (kind : String) (l : Leaf) : Bool :=
  l.isPlain || l.style = .literal && l.tag = some (basicTag kind)

/-- Whether the text of a leaf is one of the names of nothing. -/
def isNull (l : Leaf) : Bool := ["~", "null", "Null", "NULL"].contains l.text

def isEmpty (l : Leaf) : Bool := l.isPlain && l.text.isEmpty

/-- The name that a tag gives to a value of a document's own kind. -/
def ownTag? (l : Leaf) : Option String :=
  match l.tag.map String.toList with
  | some ['!'] => some "!"
  | some ('!' :: name) => some (String.ofList name)
  | _ => none

end Leaf

/-- A zero that further digits follow does not start a decimal number. -/
def count? (text : String) : Option Nat :=
  let cs := match text.toList with
    | '+' :: cs => cs
    | cs => cs
  match cs with
  | '0' :: 'x' :: ds => Decimal.wholeNumber? 16 ds
  | '0' :: 'o' :: ds => Decimal.wholeNumber? 8 ds
  | '0' :: 'b' :: ds => Decimal.wholeNumber? 2 ds
  | '0' :: _ :: _ => none
  | ds => Decimal.wholeNumber? 10 ds

variable {α : Type} [Scalar α] [NumberText α]

/-- Numbers that are not finite have spellings of their own. -/
def number? (text : String) : Option α :=
  let signless := if text.startsWith "+" then String.ofList (text.toList.drop 1) else text
  if [".inf", ".Inf", ".INF"].contains signless then NumberText.ofCell? "inf"
  else if ["-.inf", "-.Inf", "-.INF"].contains text then NumberText.ofCell? "-inf"
  else if [".nan", ".NaN", ".NAN"].contains text then NumberText.ofCell? "NaN"
  else if text.startsWith "+" && (signless.startsWith "+" || signless.startsWith "-") then none
  else (NumberText.ofCell? signless).filter fun x => Scalar.isFinite x

namespace Node

def string : Node → Except Fault String
  | leaf l => .ok l.text
  | _ => .error (.mistyped "a string")

/-- A value of a basic kind, as its text is read. -/
def basic {β : Type} (kind wanted : String) (read : String → Option β) : Node → Except Fault β
  | leaf l =>
    match if l.mayBe kind then read l.text else none with
    | some x => .ok x
    | none => .error (.mistyped wanted)
  | _ => .error (.mistyped wanted)

def boolean : Node → Except Fault Bool :=
  basic "bool" "a boolean" fun text =>
    if ["true", "True", "TRUE"].contains text then some true
    else if ["false", "False", "FALSE"].contains text then some false
    else none

/-- Counts have sixty-four bits. -/
def count : Node → Except Fault Nat :=
  basic "int" "a count" fun text => (count? text).filter (· < UInt64.size)

def number : Node → Except Fault α := basic "float" "a number" number?

/-- Whether a value is plainly none: nothing is written, or a name of nothing. With the tag of
nothing it has to be a name. -/
def isNone : Node → Except Fault Bool
  | leaf l =>
    if !l.isPlain then .ok false
    else match l.tag with
      | none => .ok (l.text.isEmpty || l.isNull)
      | some tag =>
        if tag != basicTag "null" then .ok false
        else if l.isNull then .ok true
        else .error (.mistyped "null")
  | _ => .ok false

def optional {β : Type} (read : Node → Except Fault β) (n : Node) : Except Fault (Option β) := do
  if ← n.isNone then return none else return some (← read n)

/-- One of some named values. The name is the text of a leaf or its own tag, with which nothing else
may be written. -/
def choice {β : Type} (values : List (String × β)) : Node → Except Fault β
  | leaf l =>
    let name := match l.ownTag? with
      | some tag => if l.isEmpty || l.isPlain && l.isNull then some tag else none
      | none => some l.text
    match name.bind fun name => values.lookup name with
    | some x => .ok x
    | none => .error (.mistyped "one of the known names")
  | _ => .error (.mistyped "one of the known names")

/-- A record with keys that are strings. Where nothing is written it has no keys. -/
def fields : Node → Except Fault (List (String × Node))
  | mapping entries => entries.mapM fun (key, value) => do return (← key.string, value)
  | leaf l => if l.isEmpty then .ok [] else .error (.mistyped "a mapping")
  | _ => .error (.mistyped "a mapping")

end Node

/-- The value of a key that may occur once, or a default. -/
def readField {β : Type} (fields : List (String × Node)) (key : String) (default : β)
    (read : Node → Except Fault β) : Except Fault β :=
  match fields.filter fun f => f.1 == key with
  | [] => .ok default
  | [(_, n)] => read n
  | _ => .error (.repeated key)

end TelescopePointing.Yaml
