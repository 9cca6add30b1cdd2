import TelescopePointing.Error
import TelescopePointing.Scalar

namespace TelescopePointing

variable {α : Type} [Scalar α]

/-- Counts of values in bins of one width, with the centres of the bins. -/
structure Histogram (α : Type) where
  centres : List α
  counts : List α
  width : α

namespace Histogram

/-- The bin of a value. The largest value belongs to the last bin. -/
def bin (low width : α) (bins : Nat) (v : α) : Nat :=
  min (Scalar.toNat ((v - low) / width)) (bins - 1)

def noBins : PointingError := .invalidConfiguration "projection histogram needs at least one bin"

def ofValues (values : List α) (low high : α) (bins : Nat) : Except PointingError (Histogram α) :=
  if bins = 0 then .error noBins
  else
    let width := (high - low) / Scalar.ofNat bins
    let taken := values.map (bin low width bins)
    .ok
      { centres := (List.range bins).map fun i => low + (Scalar.ofNat i + 0.5) * width
        counts := (List.range bins).map fun i => Scalar.ofNat (taken.count i)
        width := width }

def weightedSum (h : Histogram α) (weight : α → α) : α :=
  Scalar.sum (List.zipWith (fun x n => weight x * n) h.centres h.counts)

/-- The spread of the centres about their mean, weighted by the counts. -/
def weightedRms (h : Histogram α) : α :=
  let total := Scalar.sum h.counts
  if total == 0.0 then 0.0
  else
    let mean := h.weightedSum id / total
    Scalar.sqrt (h.weightedSum (fun x => Scalar.square (x - mean)) / total)

def peak (h : Histogram α) : α := h.counts.foldl Scalar.max 0.0

end Histogram

end TelescopePointing
