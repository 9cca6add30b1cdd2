namespace TelescopePointing.Decimal

/-- The quotient of two whole numbers rounded to the nearest one, a half to the even neighbour. -/
def roundDiv (num den : Nat) : Nat :=
  let q := num / den
  let r := num % den
  if 2 * r < den then q else if den < 2 * r then q + 1 else q + q % 2

def digitCount (n : Nat) : Nat := (Nat.toDigits 10 n).length

/-- The exponent of the leading decimal digit of a positive ratio: the counts of digits leave two
candidates, and one comparison picks between them. -/
def leadingExponent (num den : Nat) : Int :=
  let k : Int := digitCount num - digitCount den
  if Nat.pow 10 k.toNat * den ≤ num * Nat.pow 10 (-k).toNat then k else k - 1

def zeros (n : Nat) : List Char := List.replicate n '0'

/-- The digits of a number, filled up with zeros on the left. -/
def padded (width n : Nat) : List Char :=
  let ds := Nat.toDigits 10 n
  zeros (width - ds.length) ++ ds

/-- A ratio with a given count of digits after the point. -/
def fixedPlaces (places num den : Nat) : String :=
  let ds := padded (places + 1) (roundDiv (num * Nat.pow 10 places) den)
  let whole := ds.take (ds.length - places)
  if places = 0 then String.ofList whole
  else String.ofList (whole ++ '.' :: ds.drop (ds.length - places))

end TelescopePointing.Decimal
