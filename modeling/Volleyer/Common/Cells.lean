import Mathlib.Data.Set.Lattice
import Mathlib.Logic.Function.Basic
import Mathlib.Order.CompletePartialOrder
import Mathlib.Tactic.Common

/-!
# Changes of separate cells

A state made of cells, one under each key. A change works on `K` when it
leaves the cells outside `K` alone, and what it leaves in those of `K` is
told by those of `K`. Changes that work on separate cells commute
(`WorksOn.comm`), and so does one with any number of others
(`WorksOn.foldl_comm`).
-/

namespace Volleyer

variable {Key : Type*} {Cell : Key → Type*}

/-- **A change works on `K`.** -/
structure WorksOn (K : Set Key) (f : (∀ k, Cell k) → ∀ k, Cell k) : Prop where
  keeps : ∀ v {k}, k ∉ K → f v k = v k
  reads : ∀ {v v'}, (∀ k ∈ K, v k = v' k) → ∀ k ∈ K, f v k = f v' k

/-- The change of one cell. -/
def changeCell [DecidableEq Key] (k : Key) (F : Cell k → Cell k) (v : ∀ k, Cell k) : ∀ k, Cell k :=
  Function.update v k (F (v k))

section

variable [DecidableEq Key] {k k' : Key}

@[simp] theorem changeCell_self (F : Cell k → Cell k) (v : ∀ k, Cell k) :
    changeCell k F v k = F (v k) :=
  Function.update_self k _ v

theorem changeCell_of_ne (h : k' ≠ k) (F : Cell k → Cell k) (v : ∀ k, Cell k) :
    changeCell k F v k' = v k' :=
  Function.update_of_ne h _ v

/-- A change that finds its cell as it would leave it is none. -/
theorem changeCell_eq_self {F : Cell k → Cell k} {v : ∀ k, Cell k} (h : F (v k) = v k) :
    changeCell k F v = v := by
  rw [changeCell, h, Function.update_eq_self]

/-- Two changes of one cell are one. -/
theorem changeCell_changeCell (F G : Cell k → Cell k) (v : ∀ k, Cell k) :
    changeCell k G (changeCell k F v) = changeCell k (fun x => G (F x)) v := by
  rw [changeCell, changeCell_self, changeCell, changeCell, Function.update_idem]

theorem worksOn_changeCell (F : Cell k → Cell k) : WorksOn {k} (changeCell k F) where
  keeps v {k'} h := changeCell_of_ne h F v
  reads {v v'} h k' hk' := by
    obtain rfl : k' = k := hk'
    rw [changeCell_self, changeCell_self, h k' rfl]

end

namespace WorksOn

variable {K L : Set Key} {f g : (∀ k, Cell k) → ∀ k, Cell k}

/-- A change that works on some cells works on more. -/
theorem mono (h : WorksOn K f) (hKL : K ⊆ L) : WorksOn L f where
  keeps v {k} hk := h.keeps v fun hK => hk (hKL hK)
  reads {v v'} hv k hk := by
    by_cases hK : k ∈ K
    · exact h.reads (fun k' hk' => hv k' (hKL hk')) k hK
    · rw [h.keeps v hK, h.keeps v' hK, hv k hk]

protected theorem id : WorksOn K (fun v : ∀ k, Cell k => v) where
  keeps _ _ _ := rfl
  reads hv k hk := hv k hk

/-- One change after the other. -/
theorem comp (hg : WorksOn K g) (hf : WorksOn K f) : WorksOn K fun v => g (f v) where
  keeps v _ hk := (hg.keeps (f v) hk).trans (hf.keeps v hk)
  reads hv := hg.reads (hf.reads hv)

/-- A change that is made where the cells of `K` ask for it. -/
theorem ite {P : (∀ k, Cell k) → Prop} [DecidablePred P]
    (hP : ∀ {v v'}, (∀ k ∈ K, v k = v' k) → (P v ↔ P v')) (hf : WorksOn K f) (hg : WorksOn K g) :
    WorksOn K fun v => if P v then f v else g v where
  keeps v {k} hk := by
    split
    · exact hf.keeps v hk
    · exact hg.keeps v hk
  reads {v v'} hv k hk := by
    have hiff := hP hv
    by_cases hPv : P v
    · rw [if_pos hPv, if_pos (hiff.1 hPv)]
      exact hf.reads hv k hk
    · rw [if_neg hPv, if_neg fun h => hPv (hiff.2 h)]
      exact hg.reads hv k hk

/-- **Changes of separate cells commute.** -/
theorem comm (hf : WorksOn K f) (hg : WorksOn L g) (h : Disjoint K L) (v : ∀ k, Cell k) :
    g (f v) = f (g v) := by
  have hdisjoint := Set.disjoint_left.1 h
  funext k
  by_cases hK : k ∈ K
  · -- the other change leaves all that `f` reads
    rw [hg.keeps _ (hdisjoint hK)]
    exact hf.reads (fun k' hk' => (hg.keeps v (hdisjoint hk')).symm) k hK
  · rw [hf.keeps _ hK]
    by_cases hL : k ∈ L
    · exact hg.reads (fun k' hk' => hf.keeps v fun hK' => hdisjoint hK' hk') k hL
    · rw [hg.keeps _ hL, hg.keeps _ hL, hf.keeps _ hK]

variable {ι : Type*} {F : (∀ k, Cell k) → ι → ∀ k, Cell k} {Ks : ι → Set Key} {l : List ι}

/-- What none of many changes works on stays. -/
theorem foldl_keeps (hF : ∀ i, WorksOn (Ks i) fun v => F v i) {k : Key} (hk : ∀ i ∈ l, k ∉ Ks i)
    (v : ∀ k, Cell k) : l.foldl F v k = v k := by
  induction l generalizing v with
  | nil => rfl
  | cons i l ih =>
    rw [List.foldl_cons, ih fun j hj => hk j (List.mem_cons_of_mem i hj)]
    exact (hF i).keeps v (hk i List.mem_cons_self)

/-- **And a change of other cells may come before them or after.** -/
theorem foldl_comm (hF : ∀ i, WorksOn (Ks i) fun v => F v i) (hg : WorksOn K g)
    (h : ∀ i ∈ l, Disjoint K (Ks i)) (v : ∀ k, Cell k) : l.foldl F (g v) = g (l.foldl F v) := by
  induction l generalizing v with
  | nil => rfl
  | cons i l ih =>
    rw [List.foldl_cons, List.foldl_cons, hg.comm (hF i) (h i List.mem_cons_self)]
    exact ih (fun j hj => h j (List.mem_cons_of_mem i hj)) (F v i)

end WorksOn

end Volleyer
