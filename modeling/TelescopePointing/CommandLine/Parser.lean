import TelescopePointing.CommandLine.Arguments

namespace TelescopePointing

variable {α : Type} [Scalar α] [NumberText α]

/-- Why no command line was read: the usage was asked for, or something is wrong with it. -/
inductive UsageStop where
  | help
  | fault
  deriving DecidableEq

inductive OptionAction (α : Type) where
  | flag (set : Arguments α → Arguments α)
  | value (set : String → Arguments α → Option (Arguments α))
  /-- An option with any number of values, which may come again. -/
  | values (add : String → Arguments α → Option (Arguments α))

namespace CommandLine

def readNumber? (text : String) : Option α := NumberText.ofCell? text

def readSigned? (text : String) : Option α :=
  (signedNumber (fun t => match NumberText.ofCell? t with
    | some x => .ok x
    | none => .error "not a number") text).toOption

def readCount? (text : String) : Option Nat := Decimal.readBounded UInt64.size text

def options : List (String × OptionAction α) := [
  ("config", .value fun v a => some { a with config := some v }),
  ("level", .value fun v a => (LogFilter.ofName? v).map fun f => { a with level := f }),
  ("toconsole", .flag fun a => { a with toConsole := true }),
  ("base-path", .value fun v a => some { a with basePath := some v }),
  ("analyzed-positions", .value fun v a => some { a with observationFile := some v }),
  ("strategy", .value fun v a =>
    (Strategy.parse v).toOption.map fun s => { a with strategy := some s }),
  ("model", .value fun v a => some { a with model := some v }),
  ("obs-longitude", .value fun v a => (readSigned? v).map fun x => { a with longitude := some x }),
  ("obs-latitude", .value fun v a => (readSigned? v).map fun x => { a with latitude := some x }),
  ("obs-height", .value fun v a => (readSigned? v).map fun x => { a with height := some x }),
  ("fit-astr", .flag fun a => { a with astrometric := true }),
  ("fit-eq", .flag fun a => { a with equatorialFit := true }),
  ("t-point", .flag fun a => { a with tPoint := true }),
  ("fit-plus-poly", .flag fun a => { a with harmonics := true }),
  ("bins", .value fun v a => (readCount? v).map fun n => { a with bins := some n }),
  ("break-after", .value fun v a => (readCount? v).map fun n => { a with limit := some n }),
  ("threshold", .value fun v a => (readNumber? v).map fun x => { a with threshold := some x }),
  ("refit-subsets", .flag fun a => { a with refitSubsets := true }),
  ("delete", .values fun v a =>
    (readCount? v).map fun n => { a with delete := a.delete ++ [n] })]

/-- A word that starts with a dash and goes on is an option and never a value. -/
def isOptionWord (word : String) : Bool := word.startsWith "-" && word != "-"

/-- The name in an option word, and the value that may be attached to it. -/
def splitWord (word : String) : String × Option String :=
  let body := word.toList.drop 2
  let name := body.takeWhile (· != '=')
  match body.drop name.length with
  | [] => (String.ofList name, none)
  | _ :: value => (String.ofList name, some (String.ofList value))

/-- Where a reader of words stands. -/
inductive Expecting where
  | word
  | value (name : String)
  | more (name : String)

/-- The arguments so far, with the names of the options that may not come again. -/
structure ParserState (α : Type) where
  arguments : Arguments α
  seen : List String
  expecting : Expecting

/-- Read the value of an option. Behind a separate value more of them may follow. -/
def takeValue (s : ParserState α) (name value : String) (more : Bool) :
    Except UsageStop (ParserState α) :=
  match options.lookup name with
  | some (.value set) =>
    if s.seen.contains name then .error .fault
    else match set value s.arguments with
      | some a => .ok ⟨a, name :: s.seen, .word⟩
      | none => .error .fault
  | some (.values add) =>
    match add value s.arguments with
    | some a => .ok ⟨a, s.seen, if more then .more name else .word⟩
    | none => .error .fault
  | _ => .error .fault

def takeOption (s : ParserState α) (word : String) : Except UsageStop (ParserState α) :=
  if word.startsWith "--" then
    let (name, attached) := splitWord word
    match options.lookup name, attached with
    | some (.flag set), none =>
      if s.seen.contains name then .error .fault
      else .ok ⟨set s.arguments, name :: s.seen, .word⟩
    | some (.flag _), some _ => .error .fault
    | some _, some value => takeValue s name value false
    | some _, none => .ok { s with expecting := .value name }
    | none, _ => .error (if word == "--help" then .help else .fault)
  else .error (if word.startsWith "-h" then .help else .fault)

def takeWord (s : ParserState α) (word : String) : Except UsageStop (ParserState α) :=
  match s.expecting with
  | .word => takeOption s word
  | .value name => if isOptionWord word then .error .fault else takeValue s name word true
  | .more name =>
    if isOptionWord word then takeOption { s with expecting := .word } word
    else takeValue s name word true

/-- Read the words of a command line. A double dash ends the options, and nothing may follow it. -/
def parseWords (s : ParserState α) : List String → Except UsageStop (Arguments α)
  | [] =>
    match s.expecting with
    | .value _ => .error .fault
    | _ => .ok s.arguments
  | word :: rest =>
    match s.expecting, word with
    | .value _, "--" => .error .fault
    | _, "--" => if rest.isEmpty then .ok s.arguments else .error .fault
    | _, _ => do parseWords (← takeWord s word) rest

def parse (words : List String) : Except UsageStop (Arguments α) :=
  parseWords ⟨.standard, [], .word⟩ words

end CommandLine

end TelescopePointing
