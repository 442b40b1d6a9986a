import Mathlib.Data.PFun
import SelectQuery.Span

/-!
# Checked operations

A word holds a number of 64 bits. A machine that works on words traps where a sum does not fit into
one, where a difference would be negative, and where an index or a slice lies outside of its list.
A loop of such a machine may also never end. `Checked` is for runs that can do all of this; a run
that is `pure` ends, traps nowhere, and gives its value.
-/

namespace SelectQuery

/-- Why a run was broken off. -/
inductive Trap where
  | outOfBounds
  | overflow
  | underflow
  deriving DecidableEq, Repr

/-- A run that gives a value or is broken off. One that never ends is `none`. -/
abbrev Checked (α : Type) : Type :=
  ExceptT Trap Option α

namespace Checked

variable {α σ : Type}

/-- The sum of two words. -/
def add (a b : Nat) : Checked Nat :=
  if a + b < Span.wordCount then pure (a + b) else throw .overflow

/-- The difference of two words. -/
def sub (a b : Nat) : Checked Nat :=
  if b ≤ a then pure (a - b) else throw .underflow

/-- The item of a list at an index. -/
def index (items : List α) (i : Nat) : Checked α :=
  match items[i]? with
  | some a => pure a
  | none => throw .outOfBounds

/-- The items of a list from the index `start` up to the index `stop`, which is not among them. -/
def slice (items : List α) (start stop : Nat) : Checked (List α) :=
  if start ≤ stop ∧ stop ≤ items.length then pure (items.extract start stop)
  else throw .outOfBounds

/-- A round as a step of a loop, which a value on the left ends, and a trap too. -/
def step (round : σ → Checked (α ⊕ σ)) : σ →. Except Trap α ⊕ σ :=
  fun s => Part.ofOption ((round s).run.map fun
    | .ok (.inl a) => .inl (.ok a)
    | .ok (.inr s) => .inr s
    | .error trap => .inl (.error trap))

open Classical in
/-- Makes rounds, each from the state that the one before leaves on the right, until one ends the
    loop. -/
noncomputable def loop (round : σ → Checked (α ⊕ σ)) (s : σ) : Checked α :=
  ExceptT.mk ((step round).fix s).toOption

theorem add_eq_pure {a b : Nat} (fits : a + b < Span.wordCount) : add a b = pure (a + b) :=
  if_pos fits

theorem sub_eq_pure {a b : Nat} (ordered : b ≤ a) : sub a b = pure (a - b) :=
  if_pos ordered

/-- What stands behind an index tells that the index is in the list, and what stands behind the next
    one. -/
theorem drop_eq_cons {items rest : List α} {a : α} {i : Nat} (here : items.drop i = a :: rest) :
    i < items.length ∧ items.drop (i + 1) = rest := by
  constructor
  · apply Nat.lt_of_not_le
    intro beyond
    rw [List.drop_eq_nil_of_le beyond] at here
    cases here
  · rw [← List.drop_drop, here]
    rfl

theorem index_eq_pure {items rest : List α} {i : Nat} {a : α} (here : items.drop i = a :: rest) :
    index items i = pure a := by
  have item : items[i]? = some a := by
    rw [← List.head?_drop, here]
    rfl
  rw [index, item]

/-- A slice consists of the items that stand behind its start, as many as it is long. -/
theorem slice_eq_pure {items part rest : List α} {start : Nat}
    (here : items.drop start = part ++ rest) (within : start ≤ items.length) :
    slice items start (start + part.length) = pure part := by
  have long : items.length - start = part.length + rest.length := by
    rw [← List.length_drop, here, List.length_append]
  rw [slice, if_pos ⟨Nat.le_add_right _ _, by omega⟩, List.extract_eq_take_drop, here]
  simp

/-- A loop ends with the value that a round gives. -/
theorem loop_of_inl {round : σ → Checked (α ⊕ σ)} {s : σ} {a : α}
    (ends : round s = pure (.inl a)) : loop round s = pure a := by
  have last : .inl (.ok a) ∈ step round s := by
    rw [step, ends]
    exact Part.mem_some _
  classical
  exact Part.toOption_eq_some_iff.mpr (PFun.fix_stop last)

/-- A loop goes on from the state that a round leaves. -/
theorem loop_of_inr {round : σ → Checked (α ⊕ σ)} {s s' : σ} (goesOn : round s = pure (.inr s')) :
    loop round s = loop round s' := by
  have onward : .inr s' ∈ step round s := by
    rw [step, goesOn]
    exact Part.mem_some _
  rw [loop, loop, PFun.fix_fwd_eq onward]

end Checked

end SelectQuery
