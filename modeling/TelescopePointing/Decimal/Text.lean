import TelescopePointing.Decimal.Numeral

namespace TelescopePointing.Decimal

open Binary64

/-- The texts of the numbers that have no digits, else a sign before the text of the magnitude. -/
def signed (x : Float) (text : Magnitude → String) : String :=
  if x.isNaN then "NaN"
  else
    let body := if x.isInf then "inf" else text (magnitude x)
    if isNegative x then "-" ++ body else body

/-- Digits with their point after the first `k` of them, zeros filling either gap. -/
def pointAt (ds : List Char) (k : Int) : List Char :=
  if k ≤ 0 then '0' :: '.' :: zeros (-k).toNat ++ ds
  else if (ds.length : Int) ≤ k then ds ++ zeros (k - ds.length).toNat
  else ds.take k.toNat ++ '.' :: ds.drop k.toNat

/-- All digits are written out, however large or small the number is. -/
def Scaled.plain (s : Scaled) : String :=
  let ds := Nat.toDigits 10 s.digits
  String.ofList (pointAt ds (ds.length + s.exponent))

/-- The form kept in table cells: up to sixteen digits before the point and four zeros after it are
written out, a whole number keeps one zero after the point, and other numbers get an exponent. -/
def Scaled.cell (s : Scaled) : String :=
  let ds := Nat.toDigits 10 s.digits
  let k : Int := ds.length + s.exponent
  if (ds.length : Int) ≤ k && k ≤ 16 then String.ofList (pointAt ds k ++ ['.', '0'])
  else if -5 < k && k ≤ 16 then String.ofList (pointAt ds k)
  else
    let head := if ds.length = 1 then ds else ds.take 1 ++ '.' :: ds.drop 1
    String.ofList head ++ "e" ++ toString (k - 1)

instance : NumberText Float where
  plain x := signed x fun m => if m.mantissa = 0 then "0" else (shortest m).plain
  fixed places x := signed x fun m => fixedPlaces places m.numerator m.denominator
  cell x := signed x fun m => if m.mantissa = 0 then "0.0" else (shortest m).cell
  ofCell? text := (readFloat text).toOption

end TelescopePointing.Decimal
