/-!
# Runs of characters that change case alike

The letters of a script mostly change case by one common distance.  A `CaseRun` is such a run:
the code points `first`, `first + step`, … up to `last`, each with its counterpart `shift` away.
A case table is a list of runs, and `CaseRun.lookup` reads it.
-/

namespace DefaultCredentials.Text

/-- A run of code points, `step` apart, whose counterparts lie `shift` away. -/
structure CaseRun where
  first : Nat
  last : Nat
  step : Nat
  shift : Int
  deriving Repr, DecidableEq

namespace CaseRun

/-- Whether a code point belongs to the run. -/
def holds (r : CaseRun) (n : Nat) : Bool :=
  r.first ≤ n && n ≤ r.last && (n - r.first) % r.step == 0

/-- The counterpart of a code point in a table of runs, if a run holds it. -/
def lookup (table : List CaseRun) (n : Nat) : Option Nat :=
  (table.find? (·.holds n)).map fun r => ((n : Int) + r.shift).toNat

theorem lookup_eq_none_iff {table : List CaseRun} {n : Nat} :
    lookup table n = none ↔ ∀ r ∈ table, r.holds n = false := by
  simp [lookup]

end CaseRun
end DefaultCredentials.Text
