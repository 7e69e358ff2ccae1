/-!
# Sets of characters

A property of characters is a union of ranges of code points. It is kept as the
ascending list of the code points where membership changes: the first boundary
opens a range, the second closes it, and so on. A code point belongs to the set
exactly when it has passed an odd number of boundaries.
-/

namespace SqlDiagnosis.Text

/-- A set of code points, given by the points where membership changes, in
ascending order. -/
structure RangeSet where
  bounds : List Nat

/-- Whether `n` has passed an odd number of the boundaries. -/
def passedOdd : List Nat → Nat → Bool
  | [], _ => false
  | b :: rest, n => if b ≤ n then !passedOdd rest n else false

/-- Membership of a character. -/
def RangeSet.contains (s : RangeSet) (c : Char) : Bool :=
  passedOdd s.bounds c.toNat

@[simp] theorem passedOdd_nil (n : Nat) : passedOdd [] n = false := rfl

theorem passedOdd_cons_of_lt {b n : Nat} (rest : List Nat) (h : n < b) :
    passedOdd (b :: rest) n = false := by
  simp [passedOdd, Nat.not_le.mpr h]

theorem passedOdd_cons_of_le {b n : Nat} (rest : List Nat) (h : b ≤ n) :
    passedOdd (b :: rest) n = !passedOdd rest n := by
  simp [passedOdd, h]

end SqlDiagnosis.Text
