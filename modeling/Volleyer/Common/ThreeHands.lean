import Mathlib.Algebra.BigOperators.Fin
import Mathlib.Algebra.BigOperators.Ring.Finset
import Mathlib.Algebra.Order.BigOperators.Group.Finset
import Mathlib.Data.Fintype.Perm
import Mathlib.Data.Int.ModEq
import Mathlib.Tactic.Linarith
import Mathlib.Tactic.LinearCombination
import Mathlib.Tactic.Ring

/-!
# Three hands

Places are dealt to three hands of one size, and each of two kinds of
places evenly. A value stands at every place, and values may change
places within a kind. `Stuck d` says that however they do, two hands stay
at least `d` apart.

A swap of two places of a kind moves their difference from one share to
the other (`share_swap`), and leaves what is stuck stuck. Where values
lie between `0` and `d`, what is stuck can be brought into an arrangement
with two hands exactly `d` apart (`exists_tight`): of all arrangements,
one with the least sum of squares.
-/

namespace Volleyer

open Finset

/-- **Three hands** of one size, with each kind dealt evenly. -/
structure Hands (ι : Type*) [Fintype ι] where
  hand : ι → Fin 3
  kind : ι → Bool
  size : ℕ
  card_hand : ∀ k, #{i | hand i = k} = size
  card_kind_le : ∀ γ k j, #{i | hand i = k ∧ kind i = γ} ≤ #{i | hand i = j ∧ kind i = γ} + 1

namespace Hands

variable {ι : Type*} [Fintype ι] (h : Hands ι)

/-- What the values of a hand come to. -/
def share (x : ι → ℤ) (k : Fin 3) : ℤ := ∑ i with h.hand i = k, x i

/-- The places of a kind in a hand. -/
def count (k : Fin 3) (γ : Bool) : ℕ := #{i | h.hand i = k ∧ h.kind i = γ}

/-- The values change places within their kind. -/
def Keeps (σ : Equiv.Perm ι) : Prop := ∀ i, h.kind (σ i) = h.kind i

/-- **However the values change places, two hands are `d` apart.** -/
def Stuck (d : ℤ) (x : ι → ℤ) : Prop :=
  ∀ σ, h.Keeps σ → ∃ k j, d ≤ h.share (x ∘ σ) k - h.share (x ∘ σ) j

variable {h} {x y : ι → ℤ} {d : ℤ} {a b c k : Fin 3} {i j : ι} {γ : Bool}

/-! ## Counts -/

theorem count_le (γ : Bool) (k j : Fin 3) : h.count k γ ≤ h.count j γ + 1 :=
  h.card_kind_le γ k j

theorem count_pos (hi : h.hand i = k) (hγ : h.kind i = γ) : 1 ≤ h.count k γ :=
  Finset.card_pos.2 ⟨i, Finset.mem_filter.2 ⟨Finset.mem_univ i, hi, hγ⟩⟩

theorem exists_of_count_pos (hpos : 1 ≤ h.count k γ) : ∃ i, h.hand i = k ∧ h.kind i = γ := by
  obtain ⟨i, hi⟩ := Finset.card_pos.1 hpos
  exact ⟨i, (Finset.mem_filter.1 hi).2⟩

theorem two_le_count (hi : h.hand i = k) (hj : h.hand j = k) (hiγ : h.kind i = γ)
    (hjγ : h.kind j = γ) (hij : i ≠ j) : 2 ≤ h.count k γ :=
  Finset.one_lt_card.2 ⟨i, Finset.mem_filter.2 ⟨Finset.mem_univ i, hi, hiγ⟩, j,
    Finset.mem_filter.2 ⟨Finset.mem_univ j, hj, hjγ⟩, hij⟩

/-- Two places of a kind in one hand: the kind is in every hand. -/
theorem exists_of_two (hi : h.hand i = k) (hj : h.hand j = k) (hiγ : h.kind i = γ)
    (hjγ : h.kind j = γ) (hij : i ≠ j) (k' : Fin 3) : ∃ z, h.hand z = k' ∧ h.kind z = γ := by
  have htwo := two_le_count hi hj hiγ hjγ hij
  have hle := h.count_le γ k k'
  exact exists_of_count_pos (by omega)

/-- Where one hand has a place, each has. -/
theorem exists_hand (h : Hands ι) (i : ι) (k : Fin 3) : ∃ z, h.hand z = k := by
  have hcard := (h.card_hand k).trans (h.card_hand (h.hand i)).symm
  have hpos : 0 < #{z | h.hand z = h.hand i} :=
    Finset.card_pos.2 ⟨i, Finset.mem_filter.2 ⟨Finset.mem_univ i, rfl⟩⟩
  rw [← hcard] at hpos
  obtain ⟨z, hz⟩ := Finset.card_pos.1 hpos
  exact ⟨z, (Finset.mem_filter.1 hz).2⟩

/-! ## Shares -/

theorem share_le_share (hle : ∀ i, h.hand i = k → x i ≤ y i) : h.share x k ≤ h.share y k :=
  Finset.sum_le_sum fun i hi => hle i (Finset.mem_filter.1 hi).2

/-- A value for each kind comes to its counts. -/
theorem share_kind (v : Bool → ℤ) (k : Fin 3) :
    h.share (fun i => v (h.kind i)) k = h.count k true * v true + h.count k false * v false := by
  have hkind : ∀ γ, ∑ i ∈ {i | h.hand i = k} with h.kind i = γ, v (h.kind i) = h.count k γ * v γ := by
    intro γ
    rw [Finset.sum_congr rfl fun i hi => congrArg v (Finset.mem_filter.1 hi).2, Finset.sum_const,
      Finset.filter_filter, nsmul_eq_mul]
    rfl
  rw [share, ← Finset.sum_fiberwise _ h.kind, Fintype.sum_bool, hkind, hkind]

theorem count_add_count (k : Fin 3) : h.count k true + h.count k false = h.size := by
  have hone := h.share_kind (fun _ => 1) k
  rw [share, Finset.sum_const, h.card_hand, nsmul_eq_mul, mul_one, mul_one, mul_one] at hone
  exact_mod_cast hone.symm

/-- Where one share is at most another place by place, and they agree,
so do the places. -/
theorem eq_of_share_le (hle : ∀ i, h.hand i = k → x i ≤ y i) (heq : h.share y k ≤ h.share x k)
    (hi : h.hand i = k) : x i = y i :=
  (Finset.sum_eq_sum_iff_of_le fun i hi => hle i (Finset.mem_filter.1 hi).2).1
    (le_antisymm (share_le_share hle) heq) i (Finset.mem_filter.2 ⟨Finset.mem_univ i, hi⟩)

/-! ## The threshold between two hands -/

/-- Where no value of one hand exceeds a value of another of its kind, a
threshold for each kind lies between them. -/
theorem exists_threshold (hd : 0 ≤ d) (hx : ∀ i, 0 ≤ x i ∧ x i ≤ d)
    (hle : ∀ i j, h.hand i = a → h.hand j = c → h.kind i = h.kind j → x i ≤ x j) :
    ∃ v : Bool → ℤ, (∀ γ, 0 ≤ v γ ∧ v γ ≤ d) ∧ (∀ i, h.hand i = a → x i ≤ v (h.kind i)) ∧
      ∀ j, h.hand j = c → v (h.kind j) ≤ x j := by
  have hkind : ∀ γ, ∃ v, (0 ≤ v ∧ v ≤ d) ∧ (∀ i, h.hand i = a → h.kind i = γ → x i ≤ v) ∧
      ∀ j, h.hand j = c → h.kind j = γ → v ≤ x j := by
    intro γ
    rcases Finset.eq_empty_or_nonempty ({i | h.hand i = a ∧ h.kind i = γ} : Finset ι) with he | hne
    · refine ⟨0, ⟨le_rfl, hd⟩, fun i hi hiγ => ?_, fun j _ _ => (hx j).1⟩
      have hmem : i ∈ ({i | h.hand i = a ∧ h.kind i = γ} : Finset ι) :=
        Finset.mem_filter.2 ⟨Finset.mem_univ i, hi, hiγ⟩
      rw [he] at hmem
      exact absurd hmem (Finset.notMem_empty i)
    · obtain ⟨i, hi, hmax⟩ := Finset.exists_max_image _ x hne
      obtain ⟨-, hia, hiγ⟩ := Finset.mem_filter.1 hi
      refine ⟨x i, hx i, fun i' hi' hiγ' => ?_, fun j hj hjγ => ?_⟩
      · exact hmax i' (Finset.mem_filter.2 ⟨Finset.mem_univ i', hi', hiγ'⟩)
      · exact hle i j hia hj (hiγ.trans hjγ.symm)
  choose v hv ha hc using hkind
  exact ⟨v, hv, fun i hi => ha _ i hi rfl, fun j hj => hc _ j hj rfl⟩

/-- What a value for each kind leaves between two shares. -/
theorem share_kind_sub (v : Bool → ℤ) (a c : Fin 3) :
    h.share (fun i => v (h.kind i)) a - h.share (fun i => v (h.kind i)) c =
      (h.count a true - h.count c true : ℤ) * (v true - v false) := by
  have hsa := h.count_add_count a
  have hsc := h.count_add_count c
  have hfalse : (h.count a false : ℤ) - h.count c false = -(h.count a true - h.count c true) := by
    omega
  rw [share_kind, share_kind]
  linear_combination v false * hfalse

/-- Two counts of a kind differ by at most one. -/
theorem count_sub (γ : Bool) (a c : Fin 3) :
    (h.count a γ : ℤ) - h.count c γ = -1 ∨ (h.count a γ : ℤ) - h.count c γ = 0 ∨
      (h.count a γ : ℤ) - h.count c γ = 1 := by
  have hac := h.count_le γ a c
  have hca := h.count_le γ c a
  omega

/-- So it is what the two values are apart, or nothing. -/
theorem share_kind_cases (v : Bool → ℤ) (a c : Fin 3) :
    ∃ e, (e = v false - v true ∨ e = 0 ∨ e = v true - v false) ∧
      h.share (fun i => v (h.kind i)) a - h.share (fun i => v (h.kind i)) c = e := by
  refine ⟨_, ?_, h.share_kind_sub v a c⟩
  rcases h.count_sub true a c with hcount | hcount | hcount <;> rw [hcount] <;> omega

/-- The same of one value at a kind and another at the other. -/
theorem share_level_cases (γ : Bool) (u w : ℤ) (a c : Fin 3) :
    ∃ e, (e = w - u ∨ e = 0 ∨ e = u - w) ∧
      h.share (fun i => if h.kind i = γ then u else w) a -
        h.share (fun i => if h.kind i = γ then u else w) c = e := by
  obtain ⟨e, he, hsub⟩ := h.share_kind_cases (fun γ' => if γ' = γ then u else w) a c
  refine ⟨e, ?_, hsub⟩
  cases γ
  · rcases he with he | he | he
    · exact Or.inr (Or.inr he)
    · exact Or.inr (Or.inl he)
    · exact Or.inl he
  · exact he

/-! ## Three that differ -/

theorem eq_of_three (hab : a ≠ b) (hbc : b ≠ c) (hac : a ≠ c) (k : Fin 3) :
    k = a ∨ k = b ∨ k = c := by
  have hall : ∀ a b c k : Fin 3, a ≠ b → b ≠ c → a ≠ c → k = a ∨ k = b ∨ k = c := by decide
  exact hall a b c k hab hbc hac

theorem sum_three {M : Type*} [AddCommMonoid M] (f : Fin 3 → M) (hab : a ≠ b) (hbc : b ≠ c)
    (hac : a ≠ c) : ∑ k, f k = f a + f b + f c := by
  have huniv : (Finset.univ : Finset (Fin 3)) = {a, b, c} := by
    ext k
    have hk := eq_of_three hab hbc hac k
    simpa using hk
  rw [huniv, Finset.sum_insert (by simp [hab, hac]), Finset.sum_pair hbc, add_assoc]

/-! ## Stuck values -/

theorem Stuck.comp (hs : h.Stuck d x) {σ : Equiv.Perm ι} (hσ : h.Keeps σ) : h.Stuck d (x ∘ σ) := by
  intro τ hτ
  have hkeeps : h.Keeps (σ * τ) := fun i => (hσ (τ i)).trans (hτ i)
  exact hs (σ * τ) hkeeps

/-- Two of the three hands are apart. -/
theorem Stuck.apart (hs : h.Stuck d x) (hab : a ≠ b) (hbc : b ≠ c) (hac : a ≠ c) :
    d ≤ h.share x a - h.share x b ∨ d ≤ h.share x b - h.share x a ∨
      d ≤ h.share x a - h.share x c ∨ d ≤ h.share x c - h.share x a ∨
      d ≤ h.share x b - h.share x c ∨ d ≤ h.share x c - h.share x b := by
  obtain ⟨k, j, hkj⟩ := hs (Equiv.refl ι) fun _ => rfl
  rw [Equiv.coe_refl, Function.comp_id] at hkj
  rcases eq_of_three hab hbc hac k with rfl | rfl | rfl <;>
    rcases eq_of_three hab hbc hac j with rfl | rfl | rfl <;> omega

/-! ## Swaps -/

variable [DecidableEq ι]

theorem share_update (v : ℤ) :
    h.share (Function.update x i v) k = h.share x k + if h.hand i = k then v - x i else 0 := by
  unfold share
  split
  · rename_i hi
    have hmem : i ∈ ({i | h.hand i = k} : Finset ι) := Finset.mem_filter.2 ⟨Finset.mem_univ i, hi⟩
    rw [Finset.sum_update_of_mem hmem, Finset.sum_eq_add_sum_sdiff_singleton_of_mem hmem x]
    ring
  · rename_i hi
    have hmem : i ∉ ({i | h.hand i = k} : Finset ι) := fun hmem => hi (Finset.mem_filter.1 hmem).2
    rw [Finset.sum_update_of_notMem hmem, add_zero]

/-- Where one place of a hand gains and the others do not lose, the share
gains. -/
theorem share_add_le {e : ℤ} (hi : h.hand i = k) (hgain : x i + e ≤ y i)
    (hle : ∀ j, h.hand j = k → j ≠ i → x j ≤ y j) : h.share x k + e ≤ h.share y k := by
  have hupdate : h.share (Function.update x i (x i + e)) k ≤ h.share y k := by
    refine share_le_share fun j hj => ?_
    rcases eq_or_ne j i with rfl | hne
    · rw [Function.update_self]
      exact hgain
    · rw [Function.update_of_ne hne]
      exact hle j hj hne
  rw [share_update, if_pos hi] at hupdate
  omega

/-- **A swap between two hands** moves the difference. -/
theorem share_swap (hi : h.hand i = a) (hj : h.hand j = b) (hab : a ≠ b) :
    h.share (x ∘ Equiv.swap i j) a = h.share x a - (x i - x j) ∧
      h.share (x ∘ Equiv.swap i j) b = h.share x b + (x i - x j) ∧
      ∀ c, a ≠ c → b ≠ c → h.share (x ∘ Equiv.swap i j) c = h.share x c := by
  have hij : i ≠ j := fun hij => hab (by rw [← hi, ← hj, hij])
  have hupdate : ∀ k, h.share (x ∘ Equiv.swap i j) k =
      h.share x k + (if b = k then x i - x j else 0) + if a = k then x j - x i else 0 := by
    intro k
    rw [Equiv.comp_swap_eq_update, share_update, share_update, hi, hj,
      Function.update_of_ne hij]
  refine ⟨?_, ?_, fun c hac hbc => ?_⟩
  · rw [hupdate, if_neg hab.symm, if_pos rfl]
    ring
  · rw [hupdate, if_pos rfl, if_neg hab]
    ring
  · rw [hupdate, if_neg hbc, if_neg hac]
    ring

theorem keeps_swap (hkind : h.kind i = h.kind j) : h.Keeps (Equiv.swap i j) := by
  intro k
  rw [Equiv.swap_apply_def]
  split
  · rename_i hk
    rw [hk, hkind]
  · split
    · rename_i hk
      rw [hk, hkind]
    · rfl

theorem Stuck.swap (hs : h.Stuck d x) (hkind : h.kind i = h.kind j) :
    h.Stuck d (x ∘ Equiv.swap i j) :=
  hs.comp (keeps_swap hkind)

/-- After a swap, too, two of the three hands are apart. -/
theorem Stuck.swap_apart (hs : h.Stuck d x) (hi : h.hand i = a) (hj : h.hand j = b)
    (hkind : h.kind i = h.kind j) (hab : a ≠ b) (hbc : b ≠ c) (hac : a ≠ c) :
    (d ≤ h.share x a - h.share x b - 2 * (x i - x j) ∨
      d ≤ h.share x b - h.share x a + 2 * (x i - x j)) ∨
    (d ≤ h.share x a - h.share x c - (x i - x j) ∨
      d ≤ h.share x c - h.share x a + (x i - x j)) ∨
    (d ≤ h.share x b - h.share x c + (x i - x j) ∨
      d ≤ h.share x c - h.share x b - (x i - x j)) := by
  obtain ⟨ha, hb, hc⟩ := share_swap (x := x) hi hj hab
  have hapart := (hs.swap hkind).apart hab hbc hac
  rw [ha, hb, hc c hac hbc] at hapart
  omega

/-! ## Tight arrangements -/

/-- **A tight arrangement** of what is stuck: the first of its hands is
exactly `d` ahead of the last, the other one is `β` ahead. -/
structure Tight (h : Hands ι) (d : ℤ) (x : ι → ℤ) (a b c : Fin 3) (β : ℤ) : Prop where
  stuck : h.Stuck d x
  pos : 0 < d
  range : ∀ i, 0 ≤ x i ∧ x i ≤ d
  ab : a ≠ b
  bc : b ≠ c
  ac : a ≠ c
  top : h.share x a = h.share x c + d
  mid : h.share x b = h.share x c + β
  mid_range : 0 ≤ β ∧ β ≤ d

/-- The sum of the squares of the shares. -/
def potential (h : Hands ι) (x : ι → ℤ) : ℤ := ∑ k, h.share x k ^ 2

/-- Of three hands, those that are farthest apart and the one between. -/
theorem exists_extremes (f : Fin 3 → ℤ) :
    ∃ a b c, a ≠ b ∧ b ≠ c ∧ a ≠ c ∧ f b ≤ f a ∧ f c ≤ f b := by
  rcases le_total (f 0) (f 1) with h01 | h01 <;> rcases le_total (f 1) (f 2) with h12 | h12 <;>
    rcases le_total (f 0) (f 2) with h02 | h02
  · exact ⟨2, 1, 0, by decide, by decide, by decide, h12, h01⟩
  · exact ⟨2, 1, 0, by decide, by decide, by decide, h12, h01⟩
  · exact ⟨1, 2, 0, by decide, by decide, by decide, h12, h02⟩
  · exact ⟨1, 0, 2, by decide, by decide, by decide, h01, h02⟩
  · exact ⟨2, 0, 1, by decide, by decide, by decide, h02, h01⟩
  · exact ⟨0, 2, 1, by decide, by decide, by decide, h02, h12⟩
  · exact ⟨0, 1, 2, by decide, by decide, by decide, h01, h12⟩
  · exact ⟨0, 1, 2, by decide, by decide, by decide, h01, h12⟩

/-- In an arrangement of least potential, a difference between the hands
that are farthest apart is none, or all there is. -/
theorem sub_of_potential_le (hab : a ≠ b) (hbc : b ≠ c) (hac : a ≠ c) (hi : h.hand i = a)
    (hj : h.hand j = c) (hmin : h.potential x ≤ h.potential (x ∘ Equiv.swap i j)) :
    x i ≤ x j ∨ h.share x a - h.share x c ≤ x i - x j := by
  obtain ⟨ha, hc, hb⟩ := share_swap (x := x) hi hj hac
  rw [potential, potential, sum_three _ hab hbc hac, sum_three _ hab hbc hac, ha, hc,
    hb b hab hbc.symm] at hmin
  by_contra hnot
  obtain ⟨hpos, hlt⟩ := not_or.1 hnot
  have hprod : 0 < (x i - x j) * (h.share x a - h.share x c - (x i - x j)) :=
    mul_pos (by omega) (by omega)
  linarith

/-- **What is stuck has a tight arrangement**, that of least potential. -/
theorem exists_tight (hs : h.Stuck d x) (hd : 0 < d) (hx : ∀ i, 0 ≤ x i ∧ x i ≤ d) :
    ∃ σ, h.Keeps σ ∧ ∃ a b c β, h.Tight d (x ∘ σ) a b c β := by
  classical
  have hid : Equiv.refl ι ∈ ({σ | h.Keeps σ} : Finset (Equiv.Perm ι)) :=
    Finset.mem_filter.2 ⟨Finset.mem_univ _, fun _ => rfl⟩
  obtain ⟨σ, hσ, hmin⟩ := Finset.exists_min_image ({σ | h.Keeps σ} : Finset (Equiv.Perm ι))
    (fun σ => h.potential (x ∘ σ)) ⟨_, hid⟩
  have hkeeps : h.Keeps σ := (Finset.mem_filter.1 hσ).2
  have hstuck : h.Stuck d (x ∘ σ) := hs.comp hkeeps
  have hrange : ∀ i, 0 ≤ (x ∘ σ) i ∧ (x ∘ σ) i ≤ d := fun i => hx (σ i)
  obtain ⟨a, b, c, hab, hbc, hac, hba, hcb⟩ := exists_extremes (h.share (x ∘ σ))
  have hapart := hstuck.apart hab hbc hac
  -- no difference of a kind lies strictly between nothing and what the hands are apart
  have hsub : ∀ i j, h.hand i = a → h.hand j = c → h.kind i = h.kind j →
      (x ∘ σ) i ≤ (x ∘ σ) j ∨
        h.share (x ∘ σ) a - h.share (x ∘ σ) c ≤ (x ∘ σ) i - (x ∘ σ) j := by
    intro i j hi hj hkind
    refine sub_of_potential_le hab hbc hac hi hj (hmin (σ * Equiv.swap i j) ?_)
    refine Finset.mem_filter.2 ⟨Finset.mem_univ _, fun k => ?_⟩
    exact (hkeeps _).trans (keeps_swap hkind k)
  have hle : h.share (x ∘ σ) a - h.share (x ∘ σ) c ≤ d := by
    by_contra hgt
    obtain ⟨v, hv, hva, hvc⟩ := exists_threshold hd.le hrange fun i j hi hj hkind => by
      have hij := hsub i j hi hj hkind
      have hri := hrange i
      have hrj := hrange j
      omega
    obtain ⟨e, he, hthreshold⟩ := h.share_kind_cases v a c
    have hxa := share_le_share hva
    have hxc := share_le_share hvc
    have htrue := hv true
    have hfalse := hv false
    omega
  exact ⟨σ, hkeeps, a, b, c, h.share (x ∘ σ) b - h.share (x ∘ σ) c,
    ⟨hstuck, hd, hrange, hab, hbc, hac, by omega, by omega, by omega⟩⟩

end Hands

end Volleyer
