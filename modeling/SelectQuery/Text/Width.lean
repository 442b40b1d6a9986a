/-!
# Width on a terminal

How many columns of a terminal a text takes, where `charWidth` says how many a character takes.
-/

namespace SelectQuery.Text

variable (charWidth : Char → Nat)

/-- The columns that the text takes. -/
def width (cs : List Char) : Nat :=
  cs.foldr (fun c columns => charWidth c + columns) 0

@[simp] theorem width_nil : width charWidth [] = 0 := rfl

@[simp] theorem width_cons (c : Char) (cs : List Char) :
    width charWidth (c :: cs) = charWidth c + width charWidth cs := rfl

@[simp] theorem width_append (cs ds : List Char) :
    width charWidth (cs ++ ds) = width charWidth cs + width charWidth ds := by
  induction cs with
  | nil => simp
  | cons c cs ih => simp [ih, Nat.add_assoc]

@[simp] theorem width_replicate (n : Nat) (c : Char) :
    width charWidth (List.replicate n c) = n * charWidth c := by
  induction n with
  | zero => simp
  | succ n ih => rw [List.replicate_succ, width_cons, ih, Nat.succ_mul, Nat.add_comm]

/-- The text followed by as many spaces as bring it to the width. -/
def padTo (columns : Nat) (cs : List Char) : List Char :=
  cs ++ List.replicate (columns - width charWidth cs) ' '

end SelectQuery.Text
