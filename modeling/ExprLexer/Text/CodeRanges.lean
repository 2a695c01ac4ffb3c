/-!
# Code point ranges

A character property given as closed ranges of code points. Membership asks whether some range
holds the code point, so the order of the ranges does not matter to it.
-/

namespace ExprLexer.Text

/-- A set of code points, as closed ranges `(lo, hi)`. -/
structure CodeRanges where
  ranges : Array (Nat × Nat)

/-- Whether some range holds `n`. -/
def CodeRanges.contains (t : CodeRanges) (n : Nat) : Bool :=
  t.ranges.any fun r => r.1 ≤ n && n ≤ r.2

theorem CodeRanges.contains_iff {t : CodeRanges} {n : Nat} :
    t.contains n = true ↔ ∃ r ∈ t.ranges, r.1 ≤ n ∧ n ≤ r.2 := by
  rw [CodeRanges.contains, Array.any_eq_true']
  simp

end ExprLexer.Text
