import TelescopePointing.Decimal.Numeral
import TelescopePointing.Yaml.Cursor

namespace TelescopePointing.Yaml

/-- A tag as it is written: a shorthand and what follows it. Without a shorthand the rest is the
whole tag. -/
structure TagText where
  shorthand : String
  rest : String

/-- The characters of tags and their expansions. Three more may stand between angle brackets. -/
def isTagChar (bracketed : Bool) (c : Char) : Bool :=
  isNameChar c || [';', '/', '?', ':', '@', '&', '=', '+', '$', '.', '%', '!', '~', '*', '\'', '(',
    ')'].contains c || bracketed && [',', '[', ']'].contains c

/-- The name of an anchor. Behind it stands a blank, a line break or one of some marks. -/
def readName (c : Cursor) : Except Fault (String × Cursor) :=
  let name := c.rest.takeWhile isNameChar
  let after := c.advance name.length
  let marks := ['?', ':', ',', ']', '}', '%', '@', '\x60']
  if name.isEmpty || !(blankNext after.rest || after.nextIs marks.contains) then
    .error (.unexpected "the end of a name")
  else .ok (String.ofList name, after)

/-- The byte that a percent sign and two digits of base sixteen stand for. -/
def escapedByte? : List Char → Option Nat
  | '%' :: a :: b :: _ => Decimal.wholeNumber? 16 [a, b]
  | _ => none

/-- How many bytes a character has, by its first byte. -/
def byteCount? (first : Nat) : Option Nat :=
  if first < 0x80 then some 1
  else if first < 0xC0 then none
  else if first < 0xE0 then some 2
  else if first < 0xF0 then some 3
  else if first < 0xF8 then some 4
  else none

def laterBytes : Nat → List Char → Except Fault (List Nat)
  | 0, _ => .ok []
  | n + 1, cs =>
    match escapedByte? cs with
    | some byte =>
      if 0x80 ≤ byte && byte < 0xC0 then (laterBytes n (cs.drop 3)).map (byte :: ·)
      else .error (.unexpected "an escape in a tag")
    | none => .error (.unexpected "an escape in a tag")

/-- The text that bytes encode, and a mark of replacement if they encode none. -/
def textOfBytes (bytes : List Nat) : List Char :=
  match String.fromUTF8? ⟨(bytes.map Nat.toUInt8).toArray⟩ with
  | some text => text.toList
  | none => ['\uFFFD']

/-- The characters of an escape in a tag, and the length of the escape. -/
def tagEscape (cs : List Char) : Except Fault (List Char × Nat) := do
  let some first := escapedByte? cs | throw (.unexpected "an escape in a tag")
  let some count := byteCount? first | throw (.unexpected "an escape in a tag")
  let later ← laterBytes (count - 1) (cs.drop 3)
  return (textOfBytes (first :: later), 3 * count)

def tagChars (bracketed : Bool) : Nat → Cursor → Except Fault (List Char × Cursor)
  | 0, c => .ok ([], c)
  | fuel + 1, c =>
    match c.rest with
    | [] => .ok ([], c)
    | x :: _ =>
      if x = '%' then do
        let (text, length) ← tagEscape c.rest
        let (more, last) ← tagChars bracketed fuel (c.advance length)
        return (text ++ more, last)
      else if isTagChar bracketed x then do
        let (more, last) ← tagChars bracketed fuel c.next
        return (x :: more, last)
      else .ok ([], c)

def someTagChars (bracketed : Bool) (c : Cursor) : Except Fault (String × Cursor) := do
  let (text, last) ← tagChars bracketed c.rest.length c
  if last.index = c.index then throw (.unexpected "an empty tag")
  return (String.ofList text, last)

/-- The characters of a shorthand: an exclamation mark, a name and a further exclamation mark, of
which the last two may be missing. -/
def shorthandChars : List Char → List Char
  | '!' :: rest =>
    let name := rest.takeWhile isNameChar
    '!' :: name ++ (if (rest.drop name.length).head? = some '!' then ['!'] else [])
  | _ => []

/-- Whether a shorthand has both of its exclamation marks. -/
def isNamedShorthand (cs : List Char) : Bool := 1 < cs.length && cs.getLast? = some '!'

/-- A tag without what has to follow it. A lone exclamation mark is a tag of its own. -/
def readTagText (c : Cursor) : Except Fault (TagText × Cursor) := do
  if c.rest.take 2 = ['!', '<'] then
    let (text, after) ← someTagChars true (c.advance 2)
    if after.nextIs (· = '>') then return (⟨"", text⟩, after.next)
    else throw (.unexpected "a tag without its bracket")
  else
    let mark := shorthandChars c.rest
    let after := c.advance mark.length
    if isNamedShorthand mark then
      let (text, last) ← someTagChars false after
      return (⟨String.ofList mark, text⟩, last)
    else
      let (text, last) ← tagChars false after.rest.length after
      let rest := mark.drop 1 ++ text
      return (if rest.isEmpty then ⟨"", "!"⟩ else ⟨"!", String.ofList rest⟩, last)

/-- A tag, which ends at a blank, or within brackets at a comma. -/
def readTag (flow : Bool) (c : Cursor) : Except Fault (TagText × Cursor) := do
  let (tag, after) ← readTagText c
  if blankNext after.rest || flow && after.nextIs (· = ',') then return (tag, after)
  else throw (.unexpected "the end of a tag")

/-- A line before a document, about the format or about a shorthand. -/
inductive Directive where
  | version (major minor : Nat)
  | shorthand (mark expansion : String)

/-- A number of a version has up to nine digits. -/
def readVersionNumber (c : Cursor) : Except Fault (Nat × Cursor) :=
  let digits := c.rest.takeWhile Char.isDigit
  if digits.isEmpty || 9 < digits.length then .error (.unexpected "a version")
  else .ok (Decimal.digitsValue digits, c.advance digits.length)

def readVersion (c : Cursor) : Except Fault (Directive × Cursor) := do
  let (major, after) ← readVersionNumber c
  if !after.nextIs (· = '.') then throw (.unexpected "a version without a point")
  let (minor, last) ← readVersionNumber after.next
  return (.version major minor, last)

def readShorthand (c : Cursor) : Except Fault (Directive × Cursor) := do
  let mark := shorthandChars c.rest
  let after := c.advance mark.length
  if !(mark = ['!'] || isNamedShorthand mark) || !after.nextIs isSpace then
    throw (.unexpected "a shorthand")
  let (expansion, last) ← someTagChars true (after.skipWhile isSpace)
  if !blankNext last.rest then throw (.unexpected "the end of a shorthand")
  return (.shorthand (String.ofList mark) expansion, last)

/-- Read a directive from its percent sign to the end of its line. -/
def readDirective (c : Cursor) : Except Fault (Directive × Cursor) := do
  let name := c.next.rest.takeWhile isNameChar
  let after := c.next.advance name.length
  if !blankNext after.rest then throw (.unexpected "the end of a directive")
  let value := after.skipWhile isSpace
  let (directive, last) ← match String.ofList name with
    | "YAML" => readVersion value
    | "TAG" => readShorthand value
    | _ => throw (.unexpected "a directive")
  return (directive, ← last.lineEnd)

end TelescopePointing.Yaml
