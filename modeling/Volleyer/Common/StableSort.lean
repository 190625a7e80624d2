import Mathlib.Data.List.Sort
import Mathlib.Order.Basic

/-!
# What a stable sort forgets

A stable sort by a key leaves the elements of one key in the order in
which they came (`filter_insertionSort`), and nothing else of that order.
So two lists sort to the same one exactly when they agree on every key
(`insertionSort_eq_iff`).
-/

namespace Volleyer

variable {α κ : Type*} [LinearOrder κ] {key : α → κ}

local instance totalKey : Std.Total fun a b : α => key a ≤ key b :=
  ⟨fun a b => le_total (key a) (key b)⟩

local instance transKey : IsTrans α fun a b : α => key a ≤ key b := ⟨fun _ _ _ => le_trans⟩

/-- **A sort by a key keeps the elements of one key in their order.** -/
theorem filter_insertionSort (l : List α) (k : κ) :
    (l.insertionSort fun a b => key a ≤ key b).filter (fun a => decide (key a = k)) =
      l.filter fun a => decide (key a = k) := by
  have hkey : (l.filter fun a => decide (key a = k)).Pairwise fun a b => key a ≤ key b := by
    refine List.pairwise_of_forall_mem_list fun a ha b hb => ?_
    rw [List.mem_filter, decide_eq_true_eq] at ha hb
    rw [ha.2, hb.2]
  have hsub := List.sublist_insertionSort hkey List.filter_sublist
  have hfilter := hsub.filter fun a => decide (key a = k)
  rw [List.filter_filter] at hfilter
  simp only [Bool.and_self] at hfilter
  refine (hfilter.eq_of_length ?_).symm
  exact (((l.perm_insertionSort _).filter _).length_eq).symm

/-- Lists that agree on every key have the same elements. -/
theorem mem_iff_of_filter_eq {l l' : List α}
    (h : ∀ k, (l.filter fun a => decide (key a = k)) = l'.filter fun a => decide (key a = k))
    (a : α) : a ∈ l ↔ a ∈ l' := by
  have hmem := congrArg (a ∈ ·) (h (key a))
  simpa using hmem

/-- Two lists in the order of the key that agree on every key are one. -/
theorem eq_of_filter_eq {l l' : List α} (hl : l.Pairwise fun a b => key a ≤ key b)
    (hl' : l'.Pairwise fun a b => key a ≤ key b)
    (h : ∀ k, (l.filter fun a => decide (key a = k)) = l'.filter fun a => decide (key a = k)) :
    l = l' := by
  induction l generalizing l' with
  | nil =>
    refine (List.eq_nil_iff_forall_not_mem.2 fun a ha => ?_).symm
    exact List.not_mem_nil ((mem_iff_of_filter_eq h a).2 ha)
  | cons a l ih =>
    cases l' with
    | nil => exact absurd ((mem_iff_of_filter_eq h a).1 List.mem_cons_self) List.not_mem_nil
    | cons b l' =>
      obtain ⟨hfirst, hrest⟩ := List.pairwise_cons.1 hl
      obtain ⟨hfirst', hrest'⟩ := List.pairwise_cons.1 hl'
      -- both heads have the least key
      have hba : key b ≤ key a := by
        rcases List.mem_cons.1 ((mem_iff_of_filter_eq h a).1 List.mem_cons_self) with hab | ha
        · rw [hab]
        · exact hfirst' a ha
      have hab : key a ≤ key b := by
        rcases List.mem_cons.1 ((mem_iff_of_filter_eq h b).2 List.mem_cons_self) with hba | hb
        · rw [hba]
        · exact hfirst b hb
      have hkey : key b = key a := le_antisymm hba hab
      have hhead := h (key a)
      rw [List.filter_cons_of_pos (by simp), List.filter_cons_of_pos (by simp [hkey])] at hhead
      obtain ⟨rfl, -⟩ := List.cons.inj hhead
      have htail : ∀ k, (l.filter fun a => decide (key a = k)) =
          l'.filter fun a => decide (key a = k) := fun k => by
        have hk := h k
        by_cases hak : key a = k
        · rw [List.filter_cons_of_pos (by simp [hak]), List.filter_cons_of_pos (by simp [hak])] at hk
          exact (List.cons.inj hk).2
        · rwa [List.filter_cons_of_neg (by simp [hak]),
            List.filter_cons_of_neg (by simp [hak])] at hk
      rw [ih hrest hrest' htail]

/-- **Two lists sort to the same one exactly when they agree on every
key.** -/
theorem insertionSort_eq_iff {l l' : List α} :
    (l.insertionSort fun a b => key a ≤ key b) = (l'.insertionSort fun a b => key a ≤ key b) ↔
      ∀ k, (l.filter fun a => decide (key a = k)) = l'.filter fun a => decide (key a = k) := by
  constructor
  · intro h k
    rw [← filter_insertionSort l k, h, filter_insertionSort]
  · intro h
    refine eq_of_filter_eq (l.pairwise_insertionSort _) (l'.pairwise_insertionSort _) fun k => ?_
    rw [filter_insertionSort, filter_insertionSort, h]

end Volleyer
