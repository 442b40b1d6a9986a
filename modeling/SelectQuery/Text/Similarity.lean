/-!
# Similar words

How much alike two words are, between not at all and the same (the Jaro similarity), and which word
of a list is meant by one that is not in it.
-/

namespace SelectQuery.Text

/-- How far from its own place a character is looked for in the other word. -/
def matchRange (a b : List Char) : Nat :=
  max a.length b.length / 2 - 1

/-- The characters of a word, from place `i` on, that are matched in the word `b`, each with its
    place there: the first in range with the same character that is not taken yet. -/
def matched (range : Nat) (b : List Char) (i : Nat) (taken : List Nat) :
    List Char → List (Char × Nat)
  | [] => []
  | c :: a =>
    match b.zipIdx.find? fun (d, j) => d = c && i ≤ j + range && j ≤ i + range && j ∉ taken with
    | none => matched range b (i + 1) taken a
    | some (_, j) => (c, j) :: matched range b (i + 1) (j :: taken) a

/-- How many pairs of characters at the same place differ. -/
def differences (a b : List Char) : Nat :=
  ((a.zip b).filter fun (c, d) => c != d).length

/-- How much alike two words are: the mean of the parts of both words that are matched and of the
    part of the matched characters that stand in the same order in both. -/
def similarity (a b : List Char) : Rat :=
  let pairs := matched (matchRange a b) b 0 [] a
  if pairs = [] then 0
  else
    let ordered := (b.zipIdx.filter fun (_, j) => j ∈ pairs.map (·.2)).map (·.1)
    let moved := differences (pairs.map (·.1)) ordered / 2
    let m : Rat := pairs.length
    (m / a.length + m / b.length + (m - moved) / m) / 3

/-- How much like the given word another has to be to be meant by it: as much as the best so far,
    and seven tenths if there is none. -/
def neededLikeness (word : String) : Option String → Rat
  | none => 7 / 10
  | some best => similarity word.toList best.toList

/-- The better of the best so far and another word. -/
def closer (word : String) (best : Option String) (other : String) : Option String :=
  if neededLikeness word best ≤ similarity word.toList other.toList then some other else best

/-- The word of the list that is most like the given one, if any is enough like it; of several, the
    last. -/
def closest? (word : String) (words : List String) : Option String :=
  words.foldl (closer word) none

end SelectQuery.Text
