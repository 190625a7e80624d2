import Mathlib.Data.List.Perm.Basic
import Mathlib.Data.List.Sort
import Mathlib.Tactic.Common

/-!
# Counting joins

A join asks for several keys at once and is over when it has counted as
many arrivals. What arrived and what is still awaited are together the
keys it asked for, whatever the order (`Awaits`); so the count is reached
exactly when nothing is awaited any more, and it is reached once.
-/

namespace Volleyer

variable {κ : Type*} {keys arrived awaited : List κ} {k : κ}

/-- **A join under way**: what arrived and what is awaited are the keys it
asked for. -/
def Awaits (keys arrived awaited : List κ) : Prop :=
  (arrived ++ awaited).Perm keys

namespace Awaits

/-- A join begins with everything awaited. -/
theorem start (keys : List κ) : Awaits keys [] keys := .refl keys

/-- One of the awaited keys arrives. -/
theorem arrive {awaited' : List κ} (h : Awaits keys arrived awaited)
    (hk : awaited.Perm (k :: awaited')) : Awaits keys (k :: arrived) awaited' :=
  ((List.perm_middle.symm.trans (hk.symm.append_left arrived))).trans h

/-- The order of what arrived and of what is awaited does not matter. -/
theorem perm {arrived' awaited' : List κ} (h : Awaits keys arrived awaited)
    (harrived : arrived'.Perm arrived) (hawaited : awaited'.Perm awaited) :
    Awaits keys arrived' awaited' :=
  (harrived.append hawaited).trans h

theorem length_add (h : Awaits keys arrived awaited) :
    arrived.length + awaited.length = keys.length := by
  rw [← List.length_append]
  exact h.length_eq

/-- **The count is reached when nothing is awaited**, and not before. -/
theorem length_eq_iff (h : Awaits keys arrived awaited) :
    arrived.length = keys.length ↔ awaited = [] := by
  have hlength := h.length_add
  rw [← List.length_eq_zero_iff]
  omega

/-- What arrived is what was asked for. -/
theorem perm_keys (h : Awaits keys arrived []) : arrived.Perm keys := by
  have hperm : (arrived ++ []).Perm keys := h
  rwa [List.append_nil] at hperm

/-- A key that is awaited has not arrived. -/
theorem not_mem_arrived (h : Awaits keys arrived awaited) (hkeys : keys.Nodup)
    (hk : k ∈ awaited) : k ∉ arrived := fun hk' =>
  (List.nodup_append.1 (h.nodup_iff.2 hkeys)).2.2 k hk' k hk rfl

/-- **Sorting what arrived** puts it in the order of the keys. -/
theorem insertionSort_eq {n : ℕ} {arrived : List ℕ} (h : Awaits (List.range n) arrived []) :
    arrived.insertionSort (· ≤ ·) = List.range n :=
  ((arrived.perm_insertionSort (· ≤ ·)).trans h.perm_keys).eq_of_pairwise'
    (arrived.pairwise_insertionSort (· ≤ ·)) List.pairwise_le_range

end Awaits

end Volleyer
