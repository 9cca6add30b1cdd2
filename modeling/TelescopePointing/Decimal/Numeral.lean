import TelescopePointing.Decimal.Shortest

namespace TelescopePointing.Decimal

inductive Numeral where
  | nan
  | infinite (negative : Bool)
  | finite (negative : Bool) (magnitude : Scaled)

def digitsValue (ds : List Char) : Nat :=
  ds.foldl (fun n c => 10 * n + (c.toNat - '0'.toNat)) 0

/-- The value of a digit in some base, where letters of either case follow nine. -/
def digit? (base : Nat) (c : Char) : Option Nat :=
  let lower := c.toLower
  let n :=
    if lower.isDigit then lower.toNat - '0'.toNat
    else if lower.isAlpha then lower.toNat - 'a'.toNat + 10
    else base
  if n < base then some n else none

/-- A whole number in some base, of at least one digit. -/
def wholeNumber? (base : Nat) (ds : List Char) : Option Nat :=
  if ds.isEmpty then none
  else (ds.mapM (digit? base)).map fun ns => ns.foldl (fun n d => base * n + d) 0

/-- The exponent part of a numeral: nothing, or a mark, an optional sign and at least one digit. -/
def exponentPart? : List Char → Option Int
  | [] => some 0
  | c :: rest =>
    if c = 'e' ∨ c = 'E' then
      let (negative, ds) := match rest with
        | '-' :: ds => (true, ds)
        | '+' :: ds => (false, ds)
        | ds => (false, ds)
      if ds.isEmpty || !ds.all Char.isDigit then none
      else some (if negative then -(digitsValue ds : Int) else digitsValue ds)
    else none

/-- Digits with an optional point among, before or after them, then an optional exponent. -/
def scaled? (cs : List Char) : Option Scaled :=
  let whole := cs.takeWhile Char.isDigit
  let rest := cs.dropWhile Char.isDigit
  let (part, rest) := match rest with
    | '.' :: tail => (tail.takeWhile Char.isDigit, tail.dropWhile Char.isDigit)
    | _ => ([], rest)
  if whole.isEmpty && part.isEmpty then none
  else (exponentPart? rest).map fun e => ⟨digitsValue (whole ++ part), e - part.length⟩

def unsigned? (negative : Bool) (cs : List Char) : Option Numeral :=
  match String.ofList (cs.map Char.toLower) with
  | "inf" | "infinity" => some (.infinite negative)
  | "nan" => some .nan
  | _ => (scaled? cs).map (.finite negative)

/-- A numeral has an optional sign. -/
def Numeral.ofChars? : List Char → Option Numeral
  | '-' :: cs => unsigned? true cs
  | '+' :: cs => unsigned? false cs
  | cs => unsigned? false cs

/-- The nearest binary number. Exponents far outside its range are settled by the count of digits,
before any power is formed. -/
def Scaled.toFloat (s : Scaled) : Float :=
  let lead : Int := digitCount s.digits + s.exponent
  if s.digits = 0 || lead < -400 then 0.0
  else if 400 < lead then 1.0 / 0.0
  else Float.ofScientific s.digits (s.exponent < 0) s.exponent.natAbs

def Numeral.toFloat : Numeral → Float
  | .nan => 0.0 / 0.0
  | .infinite negative => if negative then -1.0 / 0.0 else 1.0 / 0.0
  | .finite negative s => if negative then -s.toFloat else s.toFloat

inductive NumeralFault where
  | empty
  | invalid

def NumeralFault.message : NumeralFault → String
  | .empty => "cannot parse float from empty string"
  | .invalid => "invalid float literal"

def readFloat (text : String) : Except NumeralFault Float :=
  if text.isEmpty then .error .empty
  else match Numeral.ofChars? text.toList with
    | some n => .ok n.toFloat
    | none => .error .invalid

/-- A whole number below a bound: an optional plus sign and decimal digits. -/
def readBounded (bound : Nat) (text : String) : Option Nat :=
  let ds := match text.toList with
    | '+' :: ds => ds
    | ds => ds
  if ds.isEmpty || !ds.all Char.isDigit then none
  else if digitsValue ds < bound then some (digitsValue ds) else none

end TelescopePointing.Decimal
