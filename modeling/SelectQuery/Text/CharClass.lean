/-!
# Classes of characters

A class of characters is a list of closed ranges of code points, and a character belongs to it when
one of the ranges holds its code point. The classes of this library are the properties of Unicode
17; widths, which belong to terminals, follow Unicode 15.1.
-/

namespace SelectQuery.Text

/-- A set of characters, given by closed ranges of code points. -/
structure CharClass where
  ranges : List (Nat × Nat)

namespace CharClass

/-- Whether one of the ranges holds the code point `n`. -/
def holds (k : CharClass) (n : Nat) : Bool :=
  k.ranges.any fun r => r.1.ble n && n.ble r.2

/-- Whether the character belongs to the class. -/
def contains (k : CharClass) (c : Char) : Bool :=
  k.holds c.toNat

theorem holds_eq_true_iff {k : CharClass} {n : Nat} :
    k.holds n = true ↔ ∃ r ∈ k.ranges, r.1 ≤ n ∧ n ≤ r.2 := by
  simp [holds]

theorem contains_eq_true_iff {k : CharClass} {c : Char} :
    k.contains c = true ↔ ∃ r ∈ k.ranges, r.1 ≤ c.toNat ∧ c.toNat ≤ r.2 :=
  holds_eq_true_iff

end CharClass

end SelectQuery.Text
