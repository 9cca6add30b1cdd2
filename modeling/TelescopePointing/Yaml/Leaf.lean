import TelescopePointing.Decimal.Numeral
import TelescopePointing.Yaml.Cursor

namespace TelescopePointing.Yaml

/-- How a leaf of a document is written. -/
inductive LeafStyle where
  | plain
  | quoted
  | literal
  | folded
  deriving DecidableEq

/-- The marks that end a plain leaf within brackets. -/
def isFlowMark (c : Char) : Bool := [',', '[', ']', '{', '}'].contains c

/-- Line breaks between words: the first stands for a space if it is alone, and else for nothing. A
break of another kind stands for itself. -/
def foldBreaks : List Char → List Char
  | ['\n'] => [' ']
  | '\n' :: more => more
  | breaks => breaks

/-- What lies between two words of a leaf. -/
structure Gap where
  /-- The blanks before the first line break. -/
  blanks : List Char := []
  breaks : List Char := []
  /-- Whether a line break was taken away by a backslash before it. -/
  joined : Bool := false

namespace Gap

def broken (g : Gap) : Bool := g.joined || !g.breaks.isEmpty

def text (g : Gap) : List Char :=
  if g.joined then g.breaks else if g.breaks.isEmpty then g.blanks else foldBreaks g.breaks

/-- Read a gap to its end. Blanks at the start of a line do not count, but no tab may stand there
left of a column. -/
def extend (least : Nat) : Nat → Gap → Cursor → Except Fault (Gap × Cursor)
  | 0, g, c => .ok (g, c)
  | fuel + 1, g, c =>
    match c.rest with
    | [] => .ok (g, c)
    | x :: _ =>
      if isBreak x then extend least fuel { g with breaks := g.breaks ++ [x] } c.next
      else if !isSpace x then .ok (g, c)
      else if !g.broken then extend least fuel { g with blanks := g.blanks ++ [x] } c.next
      else if x = '\t' && c.column < least then .error .tabIndentation
      else extend least fuel g c.next

def read (least : Nat) (g : Gap) (c : Cursor) : Except Fault (Gap × Cursor) :=
  extend least c.rest.length g c

end Gap

/-- The characters of a plain leaf up to a blank or what ends the leaf. Within brackets no colon may
touch a mark. -/
def plainWord (flow : Bool) : List Char → Except Fault (List Char)
  | [] => .ok []
  | x :: rest =>
    if isSpace x || isBreak x then .ok []
    else if flow && x = ':' && rest.head?.any (fun y => isFlowMark y || y = '?') then
      .error (.unexpected "a colon before a mark")
    else if x = ':' && blankNext rest || flow && isFlowMark x then .ok []
    else (plainWord flow rest).map (x :: ·)

/-- Read a plain leaf from behind a gap: its text, the place behind it, and whether line breaks came
last. A comment needs a blank before it. Outside brackets the lines of a leaf are indented to some
column at least. -/
def plainFrom (flow : Bool) (least : Nat) : Nat → Gap → Cursor →
    Except Fault (List Char × Cursor × Bool)
  | 0, _, _ => .error .unfinished
  | fuel + 1, g, c => do
    if c.atDocumentMarker || c.nextIs (· = '#') then return ([], c, g.broken)
    let word ← plainWord flow c.rest
    if word.isEmpty then return ([], c, g.broken)
    let (gap, next) ← Gap.read least {} (c.advance word.length)
    let (more, last, broken) ←
      if !flow && next.column < least then pure ([], next, gap.broken)
      else plainFrom flow least fuel gap next
    return (g.text ++ word ++ more, last, broken)

def readPlain (flow : Bool) (least : Nat) (c : Cursor) : Except Fault (List Char × Cursor × Bool) :=
  plainFrom flow least (c.rest.length + 1) {} c

/-- The characters that a letter behind a backslash stands for. -/
def escapes : List (Char × Char) :=
  [('0', '\x00'), ('a', '\x07'), ('b', '\x08'), ('t', '\t'), ('n', '\n'), ('v', '\x0b'),
    ('f', '\x0c'), ('r', '\r'), ('e', '\x1b'), (' ', ' '), ('"', '"'), ('/', '/'), ('\\', '\\'),
    ('N', '\u0085'), ('_', '\u00a0'), ('L', '\u2028'), ('P', '\u2029'), ('\t', '\t')]

/-- The letters before a code of as many digits of base sixteen. -/
def codeLengths : List (Char × Nat) := [('x', 2), ('u', 4), ('U', 8)]

/-- The value of a code of some length at the start of a text. -/
def code? (length : Nat) (cs : List Char) : Option Nat :=
  if length ≤ cs.length then Decimal.wholeNumber? 16 (cs.take length) else none

/-- The character of an escape, and the length of the escape behind its backslash. -/
def escaped : List Char → Except Fault (Char × Nat)
  | [] => .error .unfinished
  | c :: rest =>
    match escapes.lookup c, codeLengths.lookup c with
    | some x, _ => .ok (x, 1)
    | none, some n =>
      match code? n rest with
      | some code =>
        if code.isValidChar then .ok (Char.ofNat code, n + 1)
        else .error (.unexpected "an invalid escape")
      | none => .error (.unexpected "an invalid escape")
    | none, none => .error (.unexpected "an unknown escape")

/-- The characters of a quoted leaf up to a blank, a line break or the closing quote, with the place
behind them, and whether they end with a line break behind a backslash. Two single quotes stand for
one. -/
def quotedWord (quote : Char) : Nat → Cursor → Except Fault (List Char × Cursor × Bool)
  | 0, _ => .error .unfinished
  | fuel + 1, c =>
    let goOn (x : Char) (length : Nat) := do
      let (more, last, joined) ← quotedWord quote fuel (c.advance length)
      return (x :: more, last, joined)
    match c.rest with
    | [] => .ok ([], c, false)
    | x :: rest =>
      if isSpace x || isBreak x then .ok ([], c, false)
      else if x = quote then
        if quote = '\'' && rest.head? = some quote then goOn quote 2 else .ok ([], c, false)
      else if quote = '"' && x = '\\' then
        if rest.head?.any isBreak then .ok ([], c.advance 2, true)
        else do
          let (y, length) ← escaped rest
          goOn y (length + 1)
      else goOn x 1

/-- Read a quoted leaf from behind its opening quote. -/
def quotedFrom (quote : Char) : Nat → Cursor → Except Fault (List Char × Cursor)
  | 0, _ => .error .unfinished
  | fuel + 1, c => do
    if c.atDocumentMarker then throw (.unexpected "the mark of a document within quotes")
    let (word, after, joined) ← quotedWord quote (c.rest.length + 1) c
    if after.nextIs (· = quote) then return (word, after.next)
    if after.rest.isEmpty then throw .unfinished
    let (gap, next) ← Gap.read 0 { joined := joined } after
    let (more, last) ← quotedFrom quote fuel next
    return (word ++ gap.text ++ more, last)

def readQuoted (quote : Char) (c : Cursor) : Except Fault (List Char × Cursor) :=
  quotedFrom quote (c.rest.length + 1) c.next

/-- What becomes of the line breaks at the end of a block of text: none is kept, or one, or all. -/
inductive Chomping where
  | strip
  | clip
  | keep

def Chomping.of? : Char → Option Chomping
  | '-' => some strip
  | '+' => some keep
  | _ => none

/-- The indentation that a digit asks for. It is not zero. -/
def increment? (c : Char) : Except Fault (Option Nat) :=
  if c = '0' then .error (.unexpected "an indentation of zero")
  else .ok (if c.isDigit then some (c.toNat - '0'.toNat) else none)

/-- The marks of a block of text, in either order, and how many they are. -/
def blockMarks : List Char → Except Fault (Chomping × Option Nat × Nat)
  | [] => .ok (.clip, none, 0)
  | x :: rest => do
    let second := rest.head?
    match Chomping.of? x with
    | some k =>
      match ← (second.mapM increment?) with
      | some (some n) => return (k, some n, 2)
      | _ => return (k, none, 1)
    | none =>
      match ← increment? x, second.bind Chomping.of? with
      | some n, some k => return (k, some n, 2)
      | some n, none => return (.clip, some n, 1)
      | none, _ => return (.clip, none, 0)

/-- Skip empty lines and the indentation of the line behind them. An indentation that is not known
has no end. The result is the widest indentation, the line breaks and the place behind them. -/
def blockBreaks (indent : Option Nat) : Nat → Nat → Cursor →
    Except Fault (Nat × List Char × Cursor)
  | 0, widest, c => .ok (widest, [], c)
  | fuel + 1, widest, c =>
    let spaces := (c.rest.takeWhile (· = ' ')).length
    let c := c.advance (match indent with
      | some n => min spaces (n - c.column)
      | none => spaces)
    let widest := max widest c.column
    match c.rest with
    | [] => .ok (widest, [], c)
    | x :: _ =>
      if x = '\t' && indent.all (c.column < ·) then .error .tabIndentation
      else if isBreak x then do
        let (widest, breaks, last) ← blockBreaks indent fuel widest c.next
        return (widest, x :: breaks, last)
      else .ok (widest, [], c)

/-- The lines of a block of text. A line break between two lines that start without a blank is
folded if the block is. The result ends with the break of the last line and those behind it. -/
def blockLines (fold : Bool) (indent : Nat) : Nat → List Char → List Char → Bool → Cursor →
    Except Fault (List Char × List Char × List Char × Cursor)
  | 0, _, _, _, _ => .error .unfinished
  | fuel + 1, lineBreak, breaks, blank, c =>
    if c.column = indent && !c.rest.isEmpty then do
      let blankNow := c.nextIs isSpace
      let joint :=
        if fold && lineBreak = ['\n'] && !blank && !blankNow then
          if breaks.isEmpty then [' '] else breaks
        else lineBreak ++ breaks
      let line := c.rest.takeWhile fun x => !isBreak x
      let after := c.advance line.length
      let (_, nextBreaks, next) ← blockBreaks (some indent) after.rest.length 0 after.next
      let (more, last) ← blockLines fold indent fuel (after.rest.take 1) nextBreaks blankNow next
      return (joint ++ line ++ more, last)
    else .ok ([], lineBreak, breaks, c)

/-- Read a block of text from its opening mark. It is indented further than the block around it. -/
def readBlock (fold : Bool) (least : Nat) (c : Cursor) : Except Fault (List Char × Cursor) := do
  let (chomping, increment, length) ← blockMarks (c.rest.drop 1)
  let first ← (c.advance (length + 1)).lineEnd
  let given := increment.map fun n => least - 1 + n
  let (widest, breaks, next) ← blockBreaks given (first.rest.length + 1) 0 first
  let indent := given.getD (max widest (max least 1))
  let (text, lineBreak, breaks, last) ←
    blockLines fold indent (next.rest.length + 1) [] breaks false next
  let tail := match chomping with
    | .strip => []
    | .clip => lineBreak
    | .keep => lineBreak ++ breaks
  return (text ++ tail, last)

end TelescopePointing.Yaml
