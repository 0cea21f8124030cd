/-!
# Runs of code points

A class of characters as an ascending list of runs. A run names the characters from its first to
its last at a fixed distance. Because the list is ascending, a search ends at the first run that
starts beyond the character.
-/

set_option autoImplicit false

namespace EntityAtlas.Text

/-- The code points `first`, `first + step`, …, `last`. -/
structure Run where
  first : Nat
  last : Nat
  step : Nat

/-- Whether a code point lies in one of the runs of an ascending list. -/
def inRuns (code : Nat) : List Run → Bool
  | [] => false
  | run :: rest =>
    if code < run.first then false
    else if code ≤ run.last then (code - run.first) % run.step == 0 || inRuns code rest
    else inRuns code rest

/-- A code point on the first run of a list lies in one of its runs. -/
theorem inRuns_cons {code : Nat} {run : Run} (low : run.first ≤ code) (high : code ≤ run.last)
    (aligned : (code - run.first) % run.step = 0) (rest : List Run) :
    inRuns code (run :: rest) = true := by
  simp [inRuns, Nat.not_lt.mpr low, high, aligned]

/-- A code point between two neighbouring runs at the front of a list lies in none. -/
theorem inRuns_eq_false_of_lt {code : Nat} {run next : Run} (above : run.last < code)
    (below : code < next.first) (rest : List Run) :
    inRuns code (run :: next :: rest) = false := by
  simp [inRuns, Nat.not_le.mpr above, below]

end EntityAtlas.Text
