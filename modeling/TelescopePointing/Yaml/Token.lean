import TelescopePointing.Yaml.Leaf
import TelescopePointing.Yaml.Tag

namespace TelescopePointing.Yaml

/-- The smallest parts of a document. Blocks are opened and closed by their indentation. -/
inductive Token where
  | directive (d : Directive)
  | documentStart
  | documentEnd
  | textEnd
  | blockSequence
  | blockMapping
  | blockEnd
  | openSequence
  | closeSequence
  | openMapping
  | closeMapping
  | separator
  | item
  | key
  | value
  | alias (name : String)
  | anchor (name : String)
  | tag (text : TagText)
  | leaf (style : LeafStyle) (text : String)

/-- A token that is a key if a colon follows it. -/
structure KeyCandidate where
  /-- Where the token starts. -/
  start : Cursor
  /-- The tokens before it. -/
  position : Nat
  /-- Whether it stands where the block around it has its keys. -/
  required : Bool

/-- A text of which the first tokens have been read. -/
structure Lexing where
  cursor : Cursor
  /-- The tokens so far, from the last to the first. -/
  tokens : List Token
  /-- The columns of the open blocks, from the innermost. -/
  columns : List Nat
  keyAllowed : Bool
  /-- The token that may be a key between the innermost brackets, or outside of all. -/
  candidate : Option KeyCandidate
  /-- The same for the brackets around them. -/
  outer : List (Option KeyCandidate)

namespace Lexing

def start (text : String) : Lexing := ⟨.start text, [], [], true, none, []⟩

def inFlow (s : Lexing) : Bool := !s.outer.isEmpty

/-- The least column of what belongs to the innermost block. -/
def leastColumn (s : Lexing) : Nat := (s.columns.head?.map (· + 1)).getD 0

def emit (t : Token) (s : Lexing) : Lexing := { s with tokens := t :: s.tokens }

/-- Put a token behind a number of others. -/
def insert (position : Nat) (t : Token) (s : Lexing) : Lexing :=
  { s with tokens := s.tokens.insertIdx (s.tokens.length - position) t }

/-- Skip blanks, comments and line breaks. Where a key may stand outside brackets no tab may, and a
new line may start with a key. -/
def skipGap : Nat → Lexing → Lexing
  | 0, s => s
  | fuel + 1, s =>
    let tabs := s.inFlow || !s.keyAllowed
    let c := (s.cursor.skipWhile fun x => x = ' ' || tabs && x = '\t').skipComment
    if c.nextIs isBreak then
      skipGap fuel { s with cursor := c.next, keyAllowed := s.keyAllowed || !s.inFlow }
    else { s with cursor := c }

/-- A key stands on one line and has at most 1024 bytes up to its colon. -/
def isStale (c : Cursor) (k : KeyCandidate) : Bool :=
  k.start.line < c.line || k.start.index + 1024 < c.index

def keepFresh (c : Cursor) : Option KeyCandidate → Except Fault (Option KeyCandidate)
  | some k =>
    if !isStale c k then .ok (some k)
    else if k.required then .error (.unexpected "a line without a key")
    else .ok none
  | none => .ok none

/-- Give up the candidates that can no longer be keys. -/
def dropStale (s : Lexing) : Except Fault Lexing := do
  return { s with
    candidate := ← keepFresh s.cursor s.candidate
    outer := ← s.outer.mapM (keepFresh s.cursor) }

/-- Give up the candidate because another token comes. -/
def dropCandidate (s : Lexing) : Except Fault Lexing :=
  if s.candidate.any (·.required) then .error (.unexpected "a line without a key")
  else .ok { s with candidate := none }

/-- The token that is next may be a key. -/
def saveCandidate (s : Lexing) : Except Fault Lexing := do
  if s.keyAllowed then
    let s ← s.dropCandidate
    let required := !s.inFlow && s.columns.head? = some s.cursor.column
    return { s with candidate := some ⟨s.cursor, s.tokens.length, required⟩ }
  else return s

def closeWhile (p : Nat → Bool) (s : Lexing) : Lexing :=
  if s.inFlow then s
  else
    let closed := s.columns.takeWhile p
    { s with
      tokens := List.replicate closed.length Token.blockEnd ++ s.tokens
      columns := s.columns.dropWhile p }

/-- Whether a block that starts in a column would be a new one. -/
def opensBlock (column : Nat) (s : Lexing) : Bool := !s.inFlow && s.leastColumn ≤ column

/-- Open a block at the next token, unless it belongs to the block around it. -/
def openBlock (t : Token) (s : Lexing) : Lexing :=
  let column := s.cursor.column
  if s.opensBlock column then { s.emit t with columns := column :: s.columns } else s

def take (t : Token) (length : Nat) (s : Lexing) : Lexing :=
  { s.emit t with cursor := s.cursor.advance length }

def takeEnd (s : Lexing) : Except Fault Lexing := do
  return (← (s.closeWhile fun _ => true).dropCandidate).emit .textEnd

def takeDirective (s : Lexing) : Except Fault Lexing := do
  let s ← (s.closeWhile fun _ => true).dropCandidate
  let (directive, last) ← readDirective s.cursor
  return { s.emit (.directive directive) with cursor := last, keyAllowed := false }

def takeMarker (t : Token) (s : Lexing) : Except Fault Lexing := do
  let s ← (s.closeWhile fun _ => true).dropCandidate
  return { s.take t 3 with keyAllowed := false }

def takeOpening (t : Token) (s : Lexing) : Except Fault Lexing := do
  let s ← s.saveCandidate
  return { s.take t 1 with keyAllowed := true, candidate := none, outer := s.candidate :: s.outer }

/-- A closing bracket too many closes nothing. -/
def takeClosing (t : Token) (s : Lexing) : Except Fault Lexing := do
  let s ← s.dropCandidate
  let s := { s.take t 1 with keyAllowed := false }
  match s.outer with
  | [] => return s
  | candidate :: outer => return { s with candidate := candidate, outer := outer }

def takeSeparator (s : Lexing) : Except Fault Lexing := do
  return { (← s.dropCandidate).take .separator 1 with keyAllowed := true }

def takeItem (s : Lexing) : Except Fault Lexing := do
  if !s.inFlow && !s.keyAllowed then throw (.unexpected "an item")
  let s ← (s.openBlock .blockSequence).dropCandidate
  return { s.take .item 1 with keyAllowed := true }

/-- A question mark, which stands before a key of any kind. -/
def takeKey (s : Lexing) : Except Fault Lexing := do
  if !s.inFlow && !s.keyAllowed then throw (.unexpected "a key")
  let s ← (s.openBlock .blockMapping).dropCandidate
  return { s.take .key 1 with keyAllowed := !s.inFlow }

/-- Turn a candidate into a key, which may be the first of its block. -/
def confirm (k : KeyCandidate) (s : Lexing) : Lexing :=
  let s := { s.insert k.position .key with candidate := none, keyAllowed := false }
  let column := k.start.column
  if s.opensBlock column then
    { s.insert k.position .blockMapping with columns := column :: s.columns }
  else s

/-- A colon, before which a key stands or else nothing. -/
def takeValue (s : Lexing) : Except Fault Lexing :=
  match s.candidate with
  | some k => .ok ((s.confirm k).take .value 1)
  | none =>
    if !s.inFlow && !s.keyAllowed then .error (.unexpected "a value")
    else .ok ({ s.openBlock .blockMapping with keyAllowed := !s.inFlow }.take .value 1)

/-- A token that can be the start of a key. -/
def takeNode (read : Cursor → Except Fault (Token × Cursor)) (s : Lexing) :
    Except Fault Lexing := do
  let s ← s.saveCandidate
  let (t, last) ← read s.cursor
  return { s.emit t with cursor := last, keyAllowed := false }

def takePlain (s : Lexing) : Except Fault Lexing := do
  let s ← s.saveCandidate
  let (text, last, broken) ← readPlain s.inFlow s.leastColumn s.cursor
  return { s.emit (.leaf .plain (String.ofList text)) with cursor := last, keyAllowed := broken }

def takeQuoted (quote : Char) (s : Lexing) : Except Fault Lexing :=
  s.takeNode fun c => do
    let (text, last) ← readQuoted quote c
    return (.leaf .quoted (String.ofList text), last)

def takeBlock (style : LeafStyle) (s : Lexing) : Except Fault Lexing := do
  let s ← s.dropCandidate
  let (text, last) ← readBlock (style = .folded) s.leastColumn s.cursor
  return { s.emit (.leaf style (String.ofList text)) with cursor := last, keyAllowed := true }

/-- The marks that no plain leaf starts with. -/
def isIndicator (c : Char) : Bool :=
  isFlowMark c || ['#', '&', '*', '!', '|', '>', '\'', '"', '%', '@', '\x60'].contains c

def startsPlain (x : Char) (rest : List Char) : Bool :=
  if x = '-' then !rest.head?.any isSpace else !isSpace x && !isIndicator x

/-- Take the token that starts with a character. -/
def takeAt (x : Char) (rest : List Char) (s : Lexing) : Except Fault Lexing :=
  let blank := blankNext rest
  let name (token : String → Token) :=
    s.takeNode fun c => do
      let (text, last) ← readName c.next
      return (token text, last)
  match x with
  | '[' => s.takeOpening .openSequence
  | '{' => s.takeOpening .openMapping
  | ']' => s.takeClosing .closeSequence
  | '}' => s.takeClosing .closeMapping
  | ',' => s.takeSeparator
  | '*' => name .alias
  | '&' => name .anchor
  | '!' =>
    s.takeNode fun c => do
      let (text, last) ← readTag s.inFlow c
      return (.tag text, last)
  | '\'' | '"' => s.takeQuoted x
  | _ =>
    if x = '-' && blank then s.takeItem
    else if x = '?' && (s.inFlow || blank) then s.takeKey
    else if x = ':' && (s.inFlow || blank) then s.takeValue
    else if x = '|' && !s.inFlow then s.takeBlock .literal
    else if x = '>' && !s.inFlow then s.takeBlock .folded
    else if startsPlain x rest then s.takePlain
    else .error (.unexpected "the start of a token")

/-- Take the next token, with the ends of blocks that it brings about. -/
def step (s : Lexing) : Except Fault Lexing := do
  let s ← (skipGap (s.cursor.rest.length + 1) s).dropStale
  let c := s.cursor
  let s := s.closeWhile (c.column < ·)
  match c.rest with
  | [] => s.takeEnd
  | x :: rest =>
    if c.column = 0 && x = '%' then s.takeDirective
    else if c.atMarker '-' then s.takeMarker .documentStart
    else if c.atMarker '.' then s.takeMarker .documentEnd
    else s.takeAt x rest

def run : Nat → Lexing → Except Fault (List Token)
  | 0, _ => .error .unfinished
  | fuel + 1, s => do
    let next ← s.step
    match next.tokens with
    | .textEnd :: _ => return next.tokens.reverse
    | _ => run fuel next

end Lexing

def Token.ofText (text : String) : Except Fault (List Token) :=
  if text.toList.all isPrintable then
    let s := Lexing.start text
    s.run (s.cursor.rest.length + 1)
  else .error (.unexpected "a control character")

end TelescopePointing.Yaml
