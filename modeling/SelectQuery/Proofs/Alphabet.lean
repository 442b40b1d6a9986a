import SelectQuery.Text.Blank
import SelectQuery.Text.Letter
import SelectQuery.Text.LowerCase

/-!
# The characters that decide where tokens begin

A token is recognised by its first character, so the classes of first characters must not overlap: a
character of a word is not blank, and a letter is neither a quote nor a digit. A word is taken to
small letters before it becomes a name, so small letters must be at rest: the small form of a small
form is itself, and the small form of a letter is a letter. All of this is read off the tables once.
To compare two of them in one step each is taken as the number whose bits are its code points.
-/

namespace SelectQuery.Text

/-! ## Tables as numbers -/

/-- The number whose bits are those of `f a` for all `a` of the list. -/
def bitsOf {α : Type} (f : α → Nat) (l : List α) : Nat :=
  l.foldr (fun a bits => f a ||| bits) 0

theorem testBit_bitsOf {α : Type} {f : α → Nat} {l : List α} {n : Nat} :
    (bitsOf f l).testBit n = l.any fun a => (f a).testBit n := by
  induction l with
  | nil => simp [bitsOf]
  | cons a l ih =>
    rw [List.any_cons, ← ih]
    exact Nat.testBit_or _ _ n

/-- The number with the bits `0`, `step`, and so on up to `count * step`. -/
def everyBit (step : Nat) : Nat → Nat
  | 0 => 1
  | count + 1 => everyBit step count <<< step ||| 1

theorem testBit_everyBit {step count i : Nat} (within : i ≤ count) :
    (everyBit step count).testBit (i * step) = true := by
  induction count generalizing i with
  | zero =>
    obtain rfl : i = 0 := by omega
    simp [everyBit]
  | succ count ih =>
    cases i with
    | zero => simp [everyBit]
    | succ i =>
      have before := ih (Nat.le_of_succ_le_succ within)
      simp [everyBit, Nat.testBit_shiftLeft, Nat.succ_mul, before]

namespace CharClass

/-- The code points of the class. -/
def bits (k : CharClass) : Nat :=
  bitsOf (fun r => (1 <<< (r.2 + 1 - r.1) - 1) <<< r.1) k.ranges

theorem testBit_bits {k : CharClass} {n : Nat} : k.bits.testBit n = k.holds n := by
  rw [bits, testBit_bitsOf, holds]
  congr 1
  funext r
  rw [Nat.testBit_shiftLeft, Nat.one_shiftLeft, Nat.testBit_two_pow_sub_one, Bool.eq_iff_iff]
  simp only [Bool.and_eq_true, decide_eq_true_eq, Nat.ble_eq]
  omega

theorem contains_eq_false_of_apart {k l : CharClass} {c : Char} (apart : k.bits &&& l.bits = 0)
    (member : k.contains c = true) : l.contains c = false := by
  have both : (k.bits &&& l.bits).testBit c.toNat = false := by rw [apart, Nat.zero_testBit]
  rw [Nat.testBit_and, testBit_bits, testBit_bits] at both
  rw [contains] at member ⊢
  rwa [member, Bool.true_and] at both

end CharClass

private theorem apart_blanks_letters : blanks.bits &&& letters.bits = 0 := by decide +kernel

private theorem apart_blanks_numerals : blanks.bits &&& numerals.bits = 0 := by decide +kernel

/-- A blank does not go on a word. -/
theorem isWordChar_eq_false_of_isBlank {c : Char} (blank : isBlank c = true) :
    isWordChar c = false := by
  have noLetter : isLetter c = false :=
    CharClass.contains_eq_false_of_apart apart_blanks_letters blank
  have noNumeral : isNumeral c = false :=
    CharClass.contains_eq_false_of_apart apart_blanks_numerals blank
  have noUnderscore : c ≠ '_' := by
    rintro rfl
    exact absurd blank (by decide)
  simp [isWordChar, isAlphanumeric, noLetter, noNumeral, noUnderscore]

/-- A character that can go on a word is not blank. -/
theorem isBlank_eq_false_of_isWordChar {c : Char} (member : isWordChar c = true) :
    isBlank c = false := by
  rw [Bool.eq_false_iff]
  intro blank
  rw [isWordChar_eq_false_of_isBlank blank] at member
  cases member

theorem isWordChar_of_isDigit {c : Char} (digit : c.isDigit = true) : isWordChar c = true := by
  simp [isWordChar, isAlphanumeric, isNumeral_of_isDigit digit]

/-- No letter stands before `A`. -/
theorem le_toNat_of_isLetter {c : Char} (letter : isLetter c = true) : 0x41 ≤ c.toNat := by
  have low : ∀ r ∈ letters.ranges, 0x41 ≤ r.1 := by decide +kernel
  obtain ⟨r, member, above, -⟩ := CharClass.contains_eq_true_iff.mp letter
  exact Nat.le_trans (low r member) above

/-- A digit is not a letter. -/
theorem isDigit_eq_false_of_isLetter {c : Char} (letter : isLetter c = true) :
    c.isDigit = false := by
  have above := le_toNat_of_isLetter letter
  rw [Bool.eq_false_iff]
  intro digit
  simp only [Char.isDigit, Bool.and_eq_true, decide_eq_true_eq, ge_iff_le] at digit
  have below : c.toNat ≤ 0x39 := digit.2
  omega

theorem ne_quote_of_isLetter {c : Char} (letter : isLetter c = true) : c ≠ '\x27' := by
  rintro rfl
  exact absurd (le_toNat_of_isLetter letter) (by decide)

/-! ## Small letters -/

namespace CaseRun

/-- The capitals of the run. -/
def capitals (r : CaseRun) : Nat :=
  everyBit r.step ((r.last - r.first) / r.step) <<< r.first

/-- The small forms of the capitals of the run. -/
def smalls (r : CaseRun) : Nat :=
  everyBit r.step ((r.last - r.first) / r.step) <<< r.small

theorem testBit_of_lower? {r : CaseRun} {n m : Nat} (found : r.lower? n = some m) :
    r.capitals.testBit n = true ∧ r.smalls.testBit m = true := by
  obtain ⟨⟨above, below, step⟩, rfl⟩ := lower?_eq_some_iff.mp found
  have exact : (n - r.first) / r.step * r.step = n - r.first :=
    Nat.div_mul_cancel (Nat.dvd_of_mod_eq_zero step)
  have bit : (everyBit r.step ((r.last - r.first) / r.step)).testBit (n - r.first) = true := by
    rw [← exact]
    exact testBit_everyBit (Nat.div_le_div_right (by omega))
  constructor
  · simp [capitals, Nat.testBit_shiftLeft, above, bit]
  · simp [smalls, Nat.testBit_shiftLeft, bit]

end CaseRun

private theorem apart_capitals_smalls :
    bitsOf CaseRun.capitals caseRuns &&& bitsOf CaseRun.smalls caseRuns = 0 := by
  decide +kernel

theorem testBit_caseRuns {r : CaseRun} {n m : Nat} (member : r ∈ caseRuns)
    (found : r.lower? n = some m) : (bitsOf CaseRun.capitals caseRuns).testBit n = true ∧
      (bitsOf CaseRun.smalls caseRuns).testBit m = true := by
  obtain ⟨capital, small⟩ := CaseRun.testBit_of_lower? found
  rw [testBit_bitsOf, testBit_bitsOf]
  exact ⟨List.any_eq_true.mpr ⟨r, member, capital⟩, List.any_eq_true.mpr ⟨r, member, small⟩⟩

/-- No small form is a capital. -/
theorem lower?_eq_none_of_lower? {r q : CaseRun} {n m : Nat} (member : r ∈ caseRuns)
    (found : r.lower? n = some m) (other : q ∈ caseRuns) : q.lower? m = none := by
  refine Option.eq_none_iff_forall_ne_some.mpr fun k again => ?_
  have small := (testBit_caseRuns member found).2
  have capital := (testBit_caseRuns other again).1
  have both := congrArg (Nat.testBit · m) apart_capitals_smalls
  simp only [Nat.testBit_and, capital, small, Nat.zero_testBit] at both
  cases both

/-- A code point is no capital, or a run gives its small form. -/
theorem lowerCode_cases (n : Nat) :
    ((∀ r ∈ caseRuns, r.lower? n = none) ∧ lowerCode n = n) ∨
      ∃ r ∈ caseRuns, r.lower? n = some (lowerCode n) := by
  cases found : caseRuns.findSome? (·.lower? n) with
  | none =>
    refine Or.inl ⟨List.findSome?_eq_none_iff.mp found, ?_⟩
    rw [lowerCode, found, Option.getD_none]
  | some m =>
    obtain ⟨r, member, value⟩ := List.exists_of_findSome?_eq_some found
    refine Or.inr ⟨r, member, ?_⟩
    rw [lowerCode, found, Option.getD_some]
    exact value

theorem lowerCode_lowerCode (n : Nat) : lowerCode (lowerCode n) = lowerCode n := by
  rcases lowerCode_cases n with ⟨-, same⟩ | ⟨r, member, found⟩
  · rw [same, same]
  · have rest : caseRuns.findSome? (·.lower? (lowerCode n)) = none :=
      List.findSome?_eq_none_iff.mpr fun q other =>
        lower?_eq_none_of_lower? member found other
    rw [lowerCode, rest, Option.getD_none]

private theorem smalls_and_letters :
    bitsOf CaseRun.smalls caseRuns &&& letters.bits = bitsOf CaseRun.smalls caseRuns := by
  decide +kernel

private theorem isValidChar_of_caseRuns : ∀ r ∈ caseRuns,
    r.small + (r.last - r.first) < 0xD800 ∨
      0xE000 ≤ r.small ∧ r.small + (r.last - r.first) < 0x110000 := by
  decide +kernel

/-- The small form of a code point is itself or a letter. -/
theorem lowerCode_eq_or_holds (n : Nat) :
    lowerCode n = n ∨ letters.holds (lowerCode n) = true ∧ (lowerCode n).isValidChar := by
  rcases lowerCode_cases n with ⟨-, same⟩ | ⟨r, member, found⟩
  · exact Or.inl same
  · obtain ⟨⟨above, below, -⟩, value⟩ := CaseRun.lower?_eq_some_iff.mp found
    have small := (testBit_caseRuns member found).2
    rw [← smalls_and_letters, Nat.testBit_and, CharClass.testBit_bits, Bool.and_eq_true] at small
    refine Or.inr ⟨small.2, ?_⟩
    have valid := isValidChar_of_caseRuns r member
    unfold Nat.isValidChar
    omega

theorem toNat_lower (c : Char) : (lower c).toNat = lowerCode c.toNat := by
  have valid : (lowerCode c.toNat).isValidChar := by
    rcases lowerCode_eq_or_holds c.toNat with same | ⟨-, valid⟩
    · rw [same]
      exact c.valid
    · exact valid
  rw [lower, Char.ofNat, dif_pos valid]
  rfl

/-- The small form of a small form is itself. -/
theorem lower_lower (c : Char) : lower (lower c) = lower c := by
  rw [lower, toNat_lower, lowerCode_lowerCode, lower]

/-- The small form of a character is itself or a letter. -/
theorem lower_eq_or_isLetter (c : Char) : lower c = c ∨ isLetter (lower c) = true := by
  rcases lowerCode_eq_or_holds c.toNat with same | ⟨letter, -⟩
  · left
    rw [lower, same, Char.ofNat_toNat]
  · right
    rw [isLetter, CharClass.contains, toNat_lower]
    exact letter

/-- The small form of a letter is a letter. -/
theorem isLetter_lower {c : Char} (letter : isLetter c = true) : isLetter (lower c) = true := by
  rcases lower_eq_or_isLetter c with same | small
  · rwa [same]
  · exact small

/-- The small form of a character that can go on a word can go on a word. -/
theorem isWordChar_lower {c : Char} (member : isWordChar c = true) :
    isWordChar (lower c) = true := by
  rcases lower_eq_or_isLetter c with same | small
  · rwa [same]
  · exact isWordChar_of_isLetter small

end SelectQuery.Text
