import CallWatch.Binary64.Basic

/-! Nearest-rank order statistics.
The rank of a quantile is the ceiling of its rounded product with the number of samples,
held between the first and the last sample; there is no interpolation.
-/

namespace CallWatch.Percentile

def greatestRank : Nat := greatestWord 64

/-- The rank, from one, of a quantile among `n` samples. -/
def rank (quantile : Binary64) (n : Nat) : Nat :=
  max 1 (min n (Binary64.ceilNat greatestRank (quantile.mul (Binary64.ofNat n))))

/-- The sample of an ascending list at the rank of a quantile; zero if there is none. -/
def nearestRank (sorted : List Binary64) (quantile : Binary64) : Binary64 :=
  match sorted[rank quantile sorted.length - 1]? with
  | some sample => sample
  | none => Binary64.zero false

def reported : Binary64 :=
  Binary64.ofRatio false 95 100

def p95 (samples : List Binary64) : Binary64 :=
  nearestRank (Binary64.ascending samples) reported

end CallWatch.Percentile
