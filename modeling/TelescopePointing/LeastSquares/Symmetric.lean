import TelescopePointing.Scalar

namespace TelescopePointing

variable {α : Type} [Scalar α]

namespace Scalar

def dot (xs ys : List α) : α := sum (List.zipWith (· * ·) xs ys)

/-- Add every eight numbers of a list to eight lanes, and return the lanes with what is left. -/
def laneSums (lanes : List α) : List α → List α × List α
  | a :: b :: c :: d :: e :: f :: g :: h :: rest =>
    laneSums (List.zipWith (· + ·) lanes [a, b, c, d, e, f, g, h]) rest
  | rest => (lanes, rest)

/-- The sum of a list by lanes: the lanes are paired four apart and added before the numbers that
fill no lane. -/
def laneSum (xs : List α) : α :=
  let (lanes, rest) := laneSums (List.replicate 8 0.0) xs
  rest.foldl (· + ·) (sum (List.zipWith (· + ·) (lanes.take 4) (lanes.drop 4)))

/-- The inner product of two vectors by lanes, which is how long vectors are summed. -/
def laneDot (xs ys : List α) : α := laneSum (List.zipWith (· * ·) xs ys)

def normSquared (xs : List α) : α := laneDot xs xs

def norm (xs : List α) : α := sqrt (normSquared xs)

/-- The largest number of a list by pairwise comparison from its head, zero for an empty list. -/
def largest : List α → α
  | [] => 0.0
  | x :: xs => xs.foldl (fun a b => if b ≤ a then a else b) x

end Scalar

/-- The columns of a symmetric matrix, each from the diagonal down. -/
inductive LowerColumns (α : Type) where
  | empty
  | column (diagonal : α) (below : List α) (rest : LowerColumns α)

namespace LowerColumns

/-- The products of every two of a list of vectors. -/
def gram : List (List α) → LowerColumns α
  | [] => empty
  | c :: cs => column (Scalar.dot c c) (cs.map fun d => Scalar.dot d c) (gram cs)

def diagonal : LowerColumns α → List α
  | empty => []
  | column d _ rest => d :: rest.diagonal

def addDiagonal : LowerColumns α → List α → LowerColumns α
  | column d below rest, x :: xs => column (d + x) below (rest.addDiagonal xs)
  | m, _ => m

/-- Subtract the products of every two entries of a vector. -/
def subtractSquare : LowerColumns α → List α → LowerColumns α
  | column d below rest, x :: xs =>
    column (d - x * x) (List.zipWith (fun b y => b - y * x) below xs) (rest.subtractSquare xs)
  | m, _ => m

def size : LowerColumns α → Nat
  | empty => 0
  | column _ _ rest => rest.size + 1

theorem size_subtractSquare (m : LowerColumns α) (xs : List α) :
    (m.subtractSquare xs).size = m.size := by
  fun_induction subtractSquare m xs <;> simp_all [size]

/-- The lower triangular factor whose product with its transpose is the matrix, if every pivot is
positive. -/
def cholesky? (m : LowerColumns α) : Option (LowerColumns α) :=
  match m with
  | empty => some empty
  | column d below rest =>
    if 0.0 < d then
      let root := Scalar.sqrt d
      let scaled := below.map (· / root)
      (cholesky? (rest.subtractSquare scaled)).map (column root scaled)
    else none
termination_by m.size
decreasing_by simp [size, size_subtractSquare]

def forward : LowerColumns α → List α → List α
  | column d below rest, y :: ys =>
    let x := y / d
    x :: rest.forward (List.zipWith (fun z b => z - x * b) ys below)
  | _, _ => []

def backward : LowerColumns α → List α → List α
  | column d below rest, y :: ys =>
    let xs := rest.backward ys
    (y - Scalar.laneDot below xs) / d :: xs
  | _, _ => []

def solveFactored (factor : LowerColumns α) (ys : List α) : List α :=
  factor.backward (factor.forward ys)

end LowerColumns

end TelescopePointing
