import Mathlib.Algebra.BigOperators.Fin
import Mathlib.Algebra.BigOperators.Group.Finset.Piecewise
import Mathlib.Algebra.Order.BigOperators.Group.List
import Mathlib.Data.Int.CardIntervalMod
import Mathlib.Tactic.Linarith

/-!
# Dealing a list round

A list is dealt to `n` hands in turn, the first entry to the hand an
offset names. Together the hands are the list (`sum_hand`), and two of
them differ by at most one in size (`length_hand_le`). Of a list in
order, each value is dealt as a block of its own, so two hands differ by
at most one in every value too (`countP_hand_le`). Dealt in rows of three, an
ascending list leaves three sums that ascend by no more than its range
(`sum_hand_rows`).
-/

namespace Volleyer

variable {α β : Type*}

/-- **A hand** of those dealt to `n` in turn, the first entry to hand
`o % n`. -/
def hand (n k : ℕ) : ℕ → List α → List α
  | _, [] => []
  | o, x :: xs => if o % n = k then x :: hand n k (o + 1) xs else hand n k (o + 1) xs

variable {n k j o : ℕ} {xs ys : List α}

@[simp] theorem hand_nil : hand n k o ([] : List α) = [] := rfl

theorem hand_cons (x : α) :
    hand n k o (x :: xs) = if o % n = k then x :: hand n k (o + 1) xs else hand n k (o + 1) xs :=
  rfl

/-- What comes later is dealt from where the first part ended. -/
theorem hand_append : hand n k o (xs ++ ys) = hand n k o xs ++ hand n k (o + xs.length) ys := by
  induction xs generalizing o with
  | nil => rfl
  | cons x xs ih =>
    have hlength : o + (x :: xs).length = o + 1 + xs.length := by
      rw [List.length_cons]
      omega
    rw [hlength, List.cons_append, hand_cons, hand_cons]
    split
    · rw [ih, List.cons_append]
    · exact ih

theorem hand_sublist : (hand n k o xs).Sublist xs := by
  induction xs generalizing o with
  | nil => exact List.Sublist.refl _
  | cons x xs ih =>
    rw [hand_cons]
    split
    · exact ih.cons_cons x
    · exact ih.cons x

theorem map_hand (f : α → β) : (hand n k o xs).map f = hand n k o (xs.map f) := by
  induction xs generalizing o with
  | nil => rfl
  | cons x xs ih =>
    rw [List.map_cons, hand_cons, hand_cons]
    split
    · rw [List.map_cons, ih]
    · exact ih

/-- Whole rows before the first entry change nothing. -/
theorem hand_add_mul (m : ℕ) : hand n k (o + n * m) xs = hand n k o xs := by
  induction xs generalizing o with
  | nil => rfl
  | cons x xs ih =>
    have hnext : o + n * m + 1 = o + 1 + n * m := by omega
    rw [hand_cons, hand_cons, Nat.add_mul_mod_self_left, hnext, ih]

/-- Blocks of whole rows are dealt each for itself. -/
theorem hand_flatMap {gs : List β} {f : β → List α} (h : ∀ g ∈ gs, n ∣ (f g).length) :
    hand n k o (gs.flatMap f) = gs.flatMap fun g => hand n k o (f g) := by
  induction gs with
  | nil => rfl
  | cons g gs ih =>
    obtain ⟨m, hm⟩ := h g List.mem_cons_self
    rw [List.flatMap_cons, List.flatMap_cons, hand_append, hm, hand_add_mul,
      ih fun g' hg' => h g' (List.mem_cons_of_mem g hg')]

/-- **Together the hands are the list.** -/
theorem sum_hand (hn : 0 < n) :
    ∑ k ∈ Finset.range n, (hand n k o xs : Multiset α) = (xs : Multiset α) := by
  induction xs generalizing o with
  | nil => exact Finset.sum_eq_zero fun k _ => rfl
  | cons x xs ih =>
    have hcons : ∀ k, (hand n k o (x :: xs) : Multiset α) =
        (if o % n = k then {x} else 0) + (hand n k (o + 1) xs : Multiset α) := by
      intro k
      rw [hand_cons]
      split
      · rfl
      · rw [zero_add]
    have hmem : o % n ∈ Finset.range n := Finset.mem_range.2 (Nat.mod_lt o hn)
    rw [Finset.sum_congr rfl fun k _ => hcons k, Finset.sum_add_distrib, ih,
      Finset.sum_ite_eq, if_pos hmem]
    rfl

/-! ## Sizes -/

/-- A hand has an entry for each turn that is its own. -/
theorem length_hand_add_count :
    (hand n k o xs).length + Nat.count (· % n = k) o = Nat.count (· % n = k) (o + xs.length) := by
  induction xs generalizing o with
  | nil => rw [hand_nil, List.length_nil, Nat.zero_add, Nat.add_zero]
  | cons x xs ih =>
    have hnext := ih (o := o + 1)
    have hlength : o + 1 + xs.length = o + (x :: xs).length := by
      rw [List.length_cons]
      omega
    rw [hlength, Nat.count_succ] at hnext
    rw [hand_cons]
    split
    · rename_i ho
      rw [if_pos ho] at hnext
      rw [List.length_cons]
      omega
    · rename_i ho
      rw [if_neg ho] at hnext
      exact hnext

/-- The turns of a hand among the first ones. -/
theorem count_mod_eq (hk : k < n) (b : ℕ) :
    Nat.count (· % n = k) b = b / n + if k < b % n then 1 else 0 := by
  have hn : 0 < n := by omega
  have hcount := Nat.count_modEq_card b hn k
  rw [Nat.mod_eq_of_lt hk] at hcount
  rw [← hcount]
  congr 1
  funext i
  rw [Nat.ModEq, Nat.mod_eq_of_lt hk]

/-- **Two hands differ by at most one in size.** -/
theorem length_hand_le (hk : k < n) (hj : j < n) :
    (hand n k o xs).length ≤ (hand n j o xs).length + 1 := by
  have hlk : (hand n k o xs).length + _ = Nat.count _ (o + xs.length) := length_hand_add_count
  have hlj : (hand n j o xs).length + _ = Nat.count _ (o + xs.length) := length_hand_add_count
  rw [count_mod_eq hk, count_mod_eq hk] at hlk
  rw [count_mod_eq hj, count_mod_eq hj] at hlj
  split_ifs at hlk hlj <;> omega

/-- Whole rows leave hands of one size. -/
theorem length_hand_of_dvd (hk : k < n) {m : ℕ} (h : xs.length = n * m) :
    (hand n k 0 xs).length = m := by
  have hn : 0 < n := by omega
  have hlength : (hand n k 0 xs).length + _ = Nat.count _ (0 + xs.length) := length_hand_add_count
  rw [Nat.zero_add, h, Nat.count_zero, count_mod_eq hk, Nat.mul_mod_right,
    Nat.mul_div_cancel_left m hn, if_neg (by omega)] at hlength
  omega

/-! ## A list in order -/

section Order

variable [LinearOrder β] {f : α → β}

/-- A list in order is what is less, what is equal and what is greater. -/
theorem eq_lt_append_eq_append_gt (h : xs.Pairwise fun a b => f a ≤ f b) (v : β) :
    xs.filter (f · < v) ++ (xs.filter (f · = v) ++ xs.filter (v < f ·)) = xs := by
  induction xs with
  | nil => rfl
  | cons x xs ih =>
    obtain ⟨hx, hxs⟩ := List.pairwise_cons.1 h
    rcases lt_trichotomy (f x) v with hlt | heq | hgt
    · rw [List.filter_cons_of_pos (by simpa using hlt), List.filter_cons_of_neg (by simpa using hlt.ne),
        List.filter_cons_of_neg (by simpa using hlt.le), List.cons_append, ih hxs]
    · have hnone : xs.filter (f · < v) = [] := by
        rw [List.filter_eq_nil_iff]
        intro y hy
        simpa [← heq] using hx y hy
      have hrest := ih hxs
      rw [hnone, List.nil_append] at hrest
      rw [List.filter_cons_of_neg (by simpa using heq.ge), hnone,
        List.filter_cons_of_pos (by simpa using heq), List.filter_cons_of_neg (by simpa using heq.le),
        List.nil_append, List.cons_append, hrest]
    · have hnone : ∀ y ∈ xs, v < f y := fun y hy => hgt.trans_le (hx y hy)
      have hlt : (x :: xs).filter (f · < v) = [] := by
        rw [List.filter_eq_nil_iff]
        intro y hy
        rcases List.mem_cons.1 hy with rfl | hy
        · simpa using hgt.le
        · simpa using (hnone y hy).le
      have heq : (x :: xs).filter (f · = v) = [] := by
        rw [List.filter_eq_nil_iff]
        intro y hy
        rcases List.mem_cons.1 hy with rfl | hy
        · simpa using hgt.ne'
        · simpa using (hnone y hy).ne'
      have hall : (x :: xs).filter (v < f ·) = x :: xs := by
        rw [List.filter_eq_self]
        intro y hy
        rcases List.mem_cons.1 hy with rfl | hy
        · simpa using hgt
        · simpa using hnone y hy
      rw [hlt, heq, hall, List.nil_append, List.nil_append]

/-- Of a list in order, a hand's share of a value is its hand of that
value's block. -/
theorem countP_hand (h : xs.Pairwise fun a b => f a ≤ f b) (v : β) :
    (hand n k o xs).countP (f · = v) =
      (hand n k (o + (xs.filter (f · < v)).length) (xs.filter (f · = v))).length := by
  have hlt : (hand n k o (xs.filter (f · < v))).countP (f · = v) = 0 := by
    rw [List.countP_eq_zero]
    intro a ha
    have hav := (List.mem_filter.1 (hand_sublist.mem ha)).2
    simpa using (by simpa using hav : f a < v).ne
  have hgt : ∀ o', (hand n k o' (xs.filter (v < f ·))).countP (f · = v) = 0 := by
    intro o'
    rw [List.countP_eq_zero]
    intro a ha
    have hav := (List.mem_filter.1 (hand_sublist.mem ha)).2
    simpa using (by simpa using hav : v < f a).ne'
  have heq : ∀ o', (hand n k o' (xs.filter (f · = v))).countP (f · = v) =
      (hand n k o' (xs.filter (f · = v))).length := by
    intro o'
    rw [List.countP_eq_length]
    intro a ha
    exact (List.mem_filter.1 (hand_sublist.mem ha)).2
  have hsplit := congrArg (fun l => (hand n k o l).countP (f · = v)) (eq_lt_append_eq_append_gt h v)
  rw [← hsplit, hand_append, hand_append, List.countP_append, List.countP_append, hlt, heq, hgt,
    Nat.zero_add, Nat.add_zero]

/-- **Two hands of a list in order differ by at most one in every
value.** -/
theorem countP_hand_le (h : xs.Pairwise fun a b => f a ≤ f b) (hk : k < n) (hj : j < n) (v : β) :
    (hand n k o xs).countP (f · = v) ≤ (hand n j o xs).countP (f · = v) + 1 := by
  rw [countP_hand h, countP_hand h]
  exact length_hand_le hk hj

end Order

/-! ## Grouping -/

/-- A list is, group by group, what has each of the values. -/
theorem flatMap_filter_perm [DecidableEq β] {f : α → β} {gs : List β} (hgs : gs.Nodup)
    (h : ∀ x ∈ xs, f x ∈ gs) : (gs.flatMap fun g => xs.filter (f · = g)).Perm xs := by
  induction gs generalizing xs with
  | nil =>
    have hnil : xs = [] := List.eq_nil_iff_forall_not_mem.2 fun x hx => List.not_mem_nil (h x hx)
    rw [hnil]
    exact List.Perm.refl _
  | cons g gs ih =>
    obtain ⟨hg, hgs⟩ := List.nodup_cons.1 hgs
    -- the rest of the values group what is left
    have hrest : ∀ x ∈ xs.filter (fun x => !decide (f x = g)), f x ∈ gs := by
      intro x hx
      obtain ⟨hmem, hne⟩ := List.mem_filter.1 hx
      exact (List.mem_cons.1 (h x hmem)).resolve_left (by simpa using hne)
    have hsame : (gs.flatMap fun g' => (xs.filter fun x => !decide (f x = g)).filter (f · = g')) =
        gs.flatMap fun g' => xs.filter (f · = g') := by
      refine List.flatMap_congr fun g' hg' => ?_
      rw [List.filter_filter]
      refine List.filter_congr fun x _ => ?_
      have hne : g' ≠ g := fun heq => hg (heq ▸ hg')
      by_cases hx : f x = g' <;> simp [hx, hne]
    rw [List.flatMap_cons, ← hsame]
    exact ((ih hgs hrest).append_left _).trans (List.filter_append_perm _ xs)

/-! ## Places -/

/-- What a hand comes to is what its places come to. -/
theorem sum_map_hand_ofFn {M : Type*} [AddCommMonoid M] {m : ℕ} (g : Fin m → α) (f : α → M) :
    ((hand n k o (List.ofFn g)).map f).sum = ∑ i with (o + (i : Fin m).val) % n = k, f (g i) := by
  induction m generalizing o with
  | zero =>
    rw [List.ofFn_zero, hand_nil, Finset.univ_eq_empty, Finset.filter_empty, Finset.sum_empty]
    rfl
  | succ m ih =>
    have hsucc : ∀ i : Fin m, o + (i.succ : ℕ) = o + 1 + i := by
      intro i
      rw [Fin.val_succ]
      omega
    have hrest := ih (o := o + 1) fun i => g i.succ
    rw [Finset.sum_filter] at hrest
    rw [List.ofFn_succ, hand_cons, Finset.sum_filter, Fin.sum_univ_succ, Fin.val_zero]
    simp only [hsucc, Nat.add_zero]
    rw [← hrest]
    split
    · rw [List.map_cons, List.sum_cons]
    · rw [zero_add]

/-- And how many entries it has of a sort, how many places. -/
theorem countP_hand_ofFn {m : ℕ} (g : Fin m → α) (p : α → Bool) :
    (hand n k o (List.ofFn g)).countP p =
      (Finset.univ.filter fun i : Fin m => (o + i.val) % n = k ∧ p (g i) = true).card := by
  have hsum : ∀ ys : List α, ys.countP p = (ys.map fun y => if p y = true then 1 else 0).sum := by
    intro ys
    induction ys with
    | nil => rfl
    | cons y ys ih => rw [List.countP_cons, List.map_cons, List.sum_cons, ih, Nat.add_comm]
  rw [hsum, sum_map_hand_ofFn, ← Finset.sum_filter, Finset.filter_filter, Finset.card_eq_sum_ones]

/-! ## Rows of three -/

theorem hand_row (a b c : α) (xs : List α) :
    hand 3 0 0 (a :: b :: c :: xs) = a :: hand 3 0 0 xs ∧
      hand 3 1 0 (a :: b :: c :: xs) = b :: hand 3 1 0 xs ∧
      hand 3 2 0 (a :: b :: c :: xs) = c :: hand 3 2 0 xs := by
  have hshift : ∀ k, hand 3 k 3 xs = hand 3 k 0 xs := fun k => hand_add_mul (o := 0) 1
  refine ⟨?_, ?_, ?_⟩
  · exact congrArg (a :: ·) (hshift 0)
  · exact congrArg (b :: ·) (hshift 1)
  · exact congrArg (c :: ·) (hshift 2)

/-- **Rows of an ascending list.** Row by row the three hands ascend, and
what the last is ahead of the first telescopes. -/
theorem sum_hand_rows : ∀ {xs : List ℤ} {lo hi : ℤ}, xs.Pairwise (· ≤ ·) → 3 ∣ xs.length →
    lo ≤ hi → (∀ x ∈ xs, lo ≤ x ∧ x ≤ hi) →
    (hand 3 0 0 xs).sum ≤ (hand 3 1 0 xs).sum ∧ (hand 3 1 0 xs).sum ≤ (hand 3 2 0 xs).sum ∧
      (hand 3 2 0 xs).sum - (hand 3 0 0 xs).sum ≤ hi - lo
  | [], lo, hi, _, _, hle, _ => by
    rw [hand_nil, hand_nil, hand_nil, List.sum_nil]
    omega
  | [_], _, _, _, hlength, _, _ => by
    rw [List.length_singleton] at hlength
    omega
  | [_, _], _, _, _, hlength, _, _ => by
    rw [List.length_cons, List.length_singleton] at hlength
    omega
  | a :: b :: c :: xs, lo, hi, hasc, hlength, _, hrange => by
    obtain ⟨ha, hasc⟩ := List.pairwise_cons.1 hasc
    obtain ⟨hb, hasc⟩ := List.pairwise_cons.1 hasc
    obtain ⟨hc, hasc⟩ := List.pairwise_cons.1 hasc
    have hab := ha b List.mem_cons_self
    have hbc := hb c List.mem_cons_self
    have hlo := (hrange a List.mem_cons_self).1
    have hmem : ∀ x ∈ xs, x ∈ a :: b :: c :: xs := fun x hx =>
      List.mem_cons_of_mem a (List.mem_cons_of_mem b (List.mem_cons_of_mem c hx))
    have hhi := (hrange c (List.mem_cons_of_mem a (List.mem_cons_of_mem b List.mem_cons_self))).2
    have hrows : 3 ∣ xs.length := by
      rw [List.length_cons, List.length_cons, List.length_cons] at hlength
      omega
    obtain ⟨h01, h12, h20⟩ := sum_hand_rows hasc hrows hhi fun x hx =>
      ⟨hc x hx, (hrange x (hmem x hx)).2⟩
    obtain ⟨h0, h1, h2⟩ := hand_row a b c xs
    rw [h0, h1, h2, List.sum_cons, List.sum_cons, List.sum_cons]
    omega

end Volleyer
