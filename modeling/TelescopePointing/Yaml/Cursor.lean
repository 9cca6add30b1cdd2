namespace TelescopePointing.Yaml

/-- Why a text is no document, or a document not what was asked for. -/
inductive Fault where
  | tabIndentation
  | unfinished
  | unexpected (what : String)
  | mistyped (wanted : String)
  | repeated (key : String)

def Fault.message : Fault → String
  | tabIndentation => "found a tab character that violates indentation"
  | unfinished => "the document ends within a value"
  | unexpected what => s!"did not expect {what}"
  | mistyped wanted => s!"expected {wanted}"
  | repeated key => s!"duplicate key {key}"

/-- The breaks of lines and paragraphs. All other line breaks of a text are brought to the first. -/
def isBreak (c : Char) : Bool := c = '\n' || c = '\u2028' || c = '\u2029'

def isSpace (c : Char) : Bool := c = ' ' || c = '\t'

/-- The characters of names: letters, digits, hyphen and underscore. -/
def isNameChar (c : Char) : Bool := c.isAlphanum || c = '-' || c = '_'

/-- Whether a blank, a line break or the end is next. -/
def blankNext : List Char → Bool
  | [] => true
  | c :: _ => isSpace c || isBreak c

/-- Line breaks are written in four ways. -/
def unifyBreaks : List Char → List Char
  | '\r' :: '\n' :: cs => '\n' :: unifyBreaks cs
  | '\r' :: cs => '\n' :: unifyBreaks cs
  | '\u0085' :: cs => '\n' :: unifyBreaks cs
  | c :: cs => c :: unifyBreaks cs
  | [] => []

/-- The characters that a document may hold: no controls but tabs and line breaks. -/
def isPrintable (c : Char) : Bool :=
  let n := c.toNat
  c = '\t' || c = '\n' || c = '\r' || (0x20 ≤ n && n ≤ 0x7E) || n == 0x85 ||
    (0xA0 ≤ n && n != 0xFFFE && n != 0xFFFF)

structure Cursor where
  rest : List Char
  /-- The bytes before the place. -/
  index : Nat
  line : Nat
  column : Nat

namespace Cursor

def next (c : Cursor) : Cursor :=
  match c.rest with
  | [] => c
  | x :: rest =>
    let index := c.index + x.utf8Size
    if isBreak x then ⟨rest, index, c.line + 1, 0⟩ else ⟨rest, index, c.line, c.column + 1⟩

def advance (c : Cursor) : Nat → Cursor
  | 0 => c
  | n + 1 => c.next.advance n

def skipWhile (p : Char → Bool) (c : Cursor) : Cursor := c.advance (c.rest.takeWhile p).length

/-- Whether there is a next character, and one of some kind. -/
def nextIs (p : Char → Bool) (c : Cursor) : Bool := c.rest.head?.any p

/-- Whether a line of three marks is next, which begins or ends a document. -/
def atMarker (mark : Char) (c : Cursor) : Bool :=
  c.column = 0 && c.rest.take 3 == [mark, mark, mark] && blankNext (c.rest.drop 3)

def atDocumentMarker (c : Cursor) : Bool := c.atMarker '-' || c.atMarker '.'

def skipComment (c : Cursor) : Cursor :=
  if c.nextIs (· = '#') then c.skipWhile fun x => !isBreak x else c

/-- The place behind the end of a line, on which only blanks and a comment may be left. -/
def lineEnd (c : Cursor) : Except Fault Cursor :=
  let last := (c.skipWhile isSpace).skipComment
  if last.rest.isEmpty || last.nextIs isBreak then .ok last.next
  else .error (.unexpected "text at the end of a line")

/-- The first place of a text. A mark of the byte order takes up a column. -/
def start (text : String) : Cursor :=
  let c : Cursor := ⟨unifyBreaks text.toList, 0, 0, 0⟩
  if c.nextIs (· = '\uFEFF') then c.next else c

end Cursor

end TelescopePointing.Yaml
