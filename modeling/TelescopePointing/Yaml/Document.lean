import TelescopePointing.Yaml.Node
import TelescopePointing.Yaml.Token

namespace TelescopePointing.Yaml

/-- The tokens that are left of a document, with what has been met before them. -/
structure Composition where
  tokens : List Token
  /-- Shorthands of tags with their expansions. -/
  shorthands : List (String × String)
  /-- Names of anchors with their numbers. -/
  names : List (String × Nat)
  /-- Numbers of anchors with the places in which they stand, from the last. -/
  places : List (Nat × Nat)
  /-- Values by the place of their anchor. -/
  marked : List (Nat × Node)

abbrev Composing := StateT Composition (Except Fault)

namespace Composing

def peek : Composing Token := do
  return (← get).tokens.head?.getD .textEnd

def skip : Composing Unit := modify fun s => { s with tokens := s.tokens.drop 1 }

/-- The number of the anchor that a name was last given to. -/
def anchorNamed (name : String) : Composing Nat := do
  match (← get).names.lookup name with
  | some number => return number
  | none => throw (.unexpected "an alias without an anchor")

/-- Give a name to an anchor and return its place. Its number is the count of names before it, so a
name that is given again can share the number of the next new name, to which it then belongs. -/
def define (name : String) : Composing Nat := do
  let s ← get
  let number := s.names.length
  let place := s.places.length
  set { s with
    names := (name, number) :: s.names.filter fun n => n.1 != name
    places := (number, place) :: s.places }
  return place

def mark (place : Nat) (n : Node) : Composing Unit :=
  modify fun s => { s with marked := (place, n) :: s.marked }

/-- The tag that a text stands for. -/
def expand (t : TagText) : Composing String := do
  if t.shorthand = "" then return t.rest
  match (← get).shorthands.lookup t.shorthand with
  | some expansion => return expansion ++ t.rest
  | none => throw (.unexpected "an undefined shorthand")

def anchor? : Composing (Option String) := do
  match ← peek with
  | .anchor name => skip; return some name
  | _ => return none

def tag? : Composing (Option String) := do
  match ← peek with
  | .tag t => skip; return some (← expand t)
  | _ => return none

def properties : Composing (Option String × Option String) := do
  match ← anchor? with
  | some name => return (some name, ← tag?)
  | none =>
    let tag ← tag?
    return (← anchor?, tag)

mutual

/-- A value. Blocks may start here or not, and the items of a sequence may stand in the column of
the mapping around them or not. The amount of fuel bounds the tokens that are read. -/
def node : Nat → Bool → Bool → Composing Node
  | 0, _, _ => throw .unfinished
  | fuel + 1, block, indentless => do
    match ← peek with
    | .alias name => do
      skip
      return .alias (← anchorNamed name)
    | _ => do
      let (anchor, tag) ← properties
      let place ← anchor.mapM define
      let n ← content fuel block indentless tag (anchor.isSome || tag.isSome)
      match place with
      | some place => mark place n
      | none => pure ()
      return n

/-- A value behind its anchor and tag. It may be left out if there is one of them. -/
def content : Nat → Bool → Bool → Option String → Bool → Composing Node
  | 0, _, _, _, _ => throw .unfinished
  | fuel + 1, block, indentless, tag, optional => do
    match ← peek, block, indentless with
    | .leaf style text, _, _ => do
      skip
      return .leaf ⟨text, style, tag.filter (· != "!")⟩
    | .openSequence, _, _ => do
      skip
      return .sequence (← items fuel true)
    | .openMapping, _, _ => do
      skip
      return .mapping (← entries fuel true)
    | .item, _, true => return .sequence (← indentlessItems fuel)
    | .blockSequence, true, _ => do
      skip
      return .sequence (← blockItems fuel)
    | .blockMapping, true, _ => do
      skip
      return .mapping (← blockEntries fuel)
    | _, _, _ =>
      if optional then return .leaf { Leaf.absent with tag := tag }
      else throw (.unexpected "a mark at the start of a value")

/-- The items behind dashes, up to the end of their block. -/
def blockItems : Nat → Composing (List Node)
  | 0 => throw .unfinished
  | fuel + 1 => do
    match ← peek with
    | .item => do
      skip
      let n ← match ← peek with
        | .item | .blockEnd => pure .absent
        | _ => node fuel true false
      return n :: (← blockItems fuel)
    | .blockEnd => do
      skip
      return []
    | _ => throw (.unexpected "text among items")

/-- The items behind dashes that have no block of their own. -/
def indentlessItems : Nat → Composing (List Node)
  | 0 => throw .unfinished
  | fuel + 1 => do
    match ← peek with
    | .item => do
      skip
      let n ← match ← peek with
        | .item | .key | .value | .blockEnd => pure .absent
        | _ => node fuel true false
      return n :: (← indentlessItems fuel)
    | _ => return []

def blockEntries : Nat → Composing (List (Node × Node))
  | 0 => throw .unfinished
  | fuel + 1 => do
    match ← peek with
    | .key => do
      skip
      let key ← blockPart fuel
      let value ← match ← peek with
        | .value => do
          skip
          blockPart fuel
        | _ => pure .absent
      return (key, value) :: (← blockEntries fuel)
    | .blockEnd => do
      skip
      return []
    | _ => throw (.unexpected "text among entries")

/-- A key or a value of a block, which may be left out. -/
def blockPart : Nat → Composing Node
  | 0 => throw .unfinished
  | fuel + 1 => do
    match ← peek with
    | .key | .value | .blockEnd => return .absent
    | _ => node fuel true true

/-- The items between square brackets. All but the first follow a comma. -/
def items : Nat → Bool → Composing (List Node)
  | 0, _ => throw .unfinished
  | fuel + 1, first => do
    match ← peek, first with
    | .closeSequence, _ => do
      skip
      return []
    | .separator, false => skip
    | _, false => throw (.unexpected "an item without a comma")
    | _, true => pure ()
    match ← peek with
    | .closeSequence => do
      skip
      return []
    | .key => do
      skip
      let pair ← pair fuel
      return .mapping [pair] :: (← items fuel false)
    | _ => do
      let n ← node fuel false false
      return n :: (← items fuel false)

/-- An item that is a key and a value. The mark that follows an absent key is passed over. -/
def pair : Nat → Composing (Node × Node)
  | 0 => throw .unfinished
  | fuel + 1 => do
    let key ← match ← peek with
      | .value | .separator | .closeSequence => do
        skip
        pure .absent
      | _ => node fuel false false
    let value ← match ← peek with
      | .value => do
        skip
        match ← peek with
        | .separator | .closeSequence => pure .absent
        | _ => node fuel false false
      | _ => pure .absent
    return (key, value)

def entries : Nat → Bool → Composing (List (Node × Node))
  | 0, _ => throw .unfinished
  | fuel + 1, first => do
    match ← peek, first with
    | .closeMapping, _ => do
      skip
      return []
    | .separator, false => skip
    | _, false => throw (.unexpected "an entry without a comma")
    | _, true => pure ()
    match ← peek with
    | .closeMapping => do
      skip
      return []
    | .key => do
      skip
      let key ← match ← peek with
        | .value | .separator | .closeMapping => pure .absent
        | _ => node fuel false false
      let value ← match ← peek with
        | .value => do
          skip
          match ← peek with
          | .separator | .closeMapping => pure .absent
          | _ => node fuel false false
        | _ => pure .absent
      return (key, value) :: (← entries fuel false)
    | _ => do
      let key ← node fuel false false
      return (key, .absent) :: (← entries fuel false)

end

/-- The directives before a document. The version is given at most once and every shorthand too. -/
def directives : Nat → Bool → List (String × String) → Composing Unit
  | 0, _, _ => throw .unfinished
  | fuel + 1, versioned, given => do
    match ← peek with
    | .directive (.version major minor) => do
      if versioned then throw (.unexpected "a second version")
      if major != 1 || (minor != 1 && minor != 2) then throw (.unexpected "another version")
      skip
      directives fuel true given
    | .directive (.shorthand mark expansion) => do
      if (given.lookup mark).isSome then throw (.unexpected "a second expansion of a shorthand")
      skip
      directives fuel versioned (given ++ [(mark, expansion)])
    | _ => modify fun s => { s with shorthands := given ++ s.shorthands }

/-- The value of a document behind its opening mark. -/
def body (fuel : Nat) : Composing Node := do
  match ← peek with
  | .directive _ | .documentStart | .documentEnd | .textEnd => return .absent
  | _ => node fuel true false

/-- The value of the document with which a text starts. A text of comments holds nothing. -/
def first (fuel : Nat) : Composing Node := do
  match ← peek with
  | .textEnd => return .absent
  | .directive _ | .documentStart => do
    directives fuel false []
    match ← peek with
    | .documentStart => do
      skip
      body fuel
    | _ => throw (.unexpected "text before the document")
  | _ => node fuel true false

/-- Skip the marks that close a document, behind which nothing may stand. -/
def closing : Nat → Composing Unit
  | 0 => throw .unfinished
  | fuel + 1 => do
    match ← peek with
    | .documentEnd => do
      skip
      closing fuel
    | .textEnd => pure ()
    | _ => throw (.unexpected "text behind the document")

end Composing

/-- The shorthands that need no directive. -/
def standardShorthands : List (String × String) := [("!", "!"), ("!!", "tag:yaml.org,2002:")]

namespace Document

def ofTokens (tokens : List Token) : Except Fault Document := do
  let fuel := 4 * tokens.length + 4
  let composing : Composing Node := do
    let root ← Composing.first fuel
    Composing.closing fuel
    return root
  let (root, s) ← composing.run ⟨tokens, standardShorthands, [], [], []⟩
  let anchored := s.places.filterMap fun (number, place) =>
    (s.marked.lookup place).map fun n => (number, n)
  return ⟨root, anchored⟩

def ofText (text : String) : Except Fault Document := Token.ofText text >>= ofTokens

end Document

end TelescopePointing.Yaml
