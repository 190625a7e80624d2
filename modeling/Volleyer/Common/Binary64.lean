import Mathlib.Algebra.Order.Floor.Ring
import Mathlib.Data.Int.Log
import Mathlib.Data.Rat.Floor
import Mathlib.Tactic.Linarith
import Mathlib.Tactic.NormNum
import Mathlib.Tactic.Positivity
import Mathlib.Tactic.Ring

/-!
# Rounding to binary64

What an operation of binary64 answers is the number with a significand of
53 bits that is nearest to the exact result, and of two that are as near
the one with the even significand. Numbers are rationals here, and their
exponents are not bounded: there is no overflow, no subnormal and no
signed zero.

A number below a power of two is rounded by less than a part of that power
(`abs_rounded_sub_le`), a sum of several by as many such parts
(`abs_foldl_rounded_sub_le`), and one that has a significand of 53 bits is
not rounded at all (`rounded_mul_zpow`). What is rounded up to a power of
two is at most half way to the number before it away
(`rounded_lt_zpow_iff`).
-/

namespace Volleyer

namespace Binary64

/-- **The nearest integer**, and of two that are as near the even one. -/
def nearest (q : ℚ) : ℤ :=
  if Int.fract q < 1 / 2 ∨ Int.fract q = 1 / 2 ∧ ⌊q⌋ % 2 = 0 then ⌊q⌋ else ⌊q⌋ + 1

/-- How far two neighbours are apart, around `x`. -/
def ulp (x : ℚ) : ℚ := 2 ^ (Int.log 2 |x| - 52)

/-- **The number of binary64 for an exact result.** -/
def rounded (x : ℚ) : ℚ := nearest (x / ulp x) * ulp x

theorem ulp_pos (x : ℚ) : 0 < ulp x := zpow_pos two_pos _

theorem abs_nearest_sub_le (q : ℚ) : |(nearest q : ℚ) - q| ≤ 1 / 2 := by
  have hfract := Int.floor_add_fract q
  have hnonneg := Int.fract_nonneg q
  have hlt := Int.fract_lt_one q
  unfold nearest
  rw [abs_le]
  split
  · rename_i hlow
    have hhalf : Int.fract q ≤ 1 / 2 := hlow.elim le_of_lt fun h => h.1.le
    constructor <;> linarith
  · rename_i hhigh
    have hhalf : 1 / 2 ≤ Int.fract q := not_lt.1 fun h => hhigh (Or.inl h)
    push_cast
    constructor <;> linarith

@[simp] theorem nearest_intCast (n : ℤ) : nearest n = n := by
  unfold nearest
  rw [if_pos (Or.inl (by rw [Int.fract_intCast]; norm_num)), Int.floor_intCast]

/-- **Below an even number** is what is more than a half below it: at the
half the even one is taken. -/
theorem nearest_lt_iff {q : ℚ} {n : ℤ} (hn : n % 2 = 0) : nearest q < n ↔ q < n - 1 / 2 := by
  have hfract := Int.floor_add_fract q
  have hnonneg := Int.fract_nonneg q
  have hlt := Int.fract_lt_one q
  constructor
  · intro h
    unfold nearest at h
    rcases lt_or_ge ⌊q⌋ (n - 1) with hfar | hnear
    · have hcast : (⌊q⌋ : ℚ) ≤ n - 2 := by exact_mod_cast (show ⌊q⌋ ≤ n - 2 by omega)
      linarith
    · split at h
      · -- the number below `n` is odd
        rename_i hlow
        have hfloor : ⌊q⌋ = n - 1 := by omega
        have hless : Int.fract q < 1 / 2 := hlow.resolve_right fun heven => by omega
        have hcast : (⌊q⌋ : ℚ) = n - 1 := by exact_mod_cast hfloor
        linarith
      · omega
  · intro h
    have hfloor : ⌊q⌋ < n := by
      have hcast : (⌊q⌋ : ℚ) < n := by linarith
      exact_mod_cast hcast
    unfold nearest
    split
    · exact hfloor
    · rename_i hhigh
      have hne : ⌊q⌋ ≠ n - 1 := fun heq => by
        have hcast : (⌊q⌋ : ℚ) = n - 1 := by exact_mod_cast heq
        exact hhigh (Or.inl (by linarith))
      omega

theorem nearest_neg (q : ℚ) : nearest (-q) = -nearest q := by
  rcases eq_or_ne (Int.fract q) 0 with hzero | hne
  · obtain ⟨n, rfl⟩ : ∃ n : ℤ, (n : ℚ) = q := ⟨⌊q⌋, by linarith [Int.floor_add_fract q]⟩
    rw [← Int.cast_neg, nearest_intCast, nearest_intCast]
  · have hfract : Int.fract (-q) = 1 - Int.fract q := Int.fract_neg hne
    have hfloor : ⌊-q⌋ = -⌊q⌋ - 1 := by
      have hcast : (⌊-q⌋ : ℚ) = -⌊q⌋ - 1 := by
        linarith [Int.floor_add_fract q, Int.floor_add_fract (-q)]
      exact_mod_cast hcast
    unfold nearest
    rw [hfract, hfloor]
    split_ifs with hneg hpos hpos
    · rcases hneg with hneg | ⟨hneg, heven⟩ <;> rcases hpos with hpos | ⟨hpos, heven'⟩
      · linarith
      · linarith
      · linarith
      · omega
    · omega
    · omega
    · obtain ⟨hneg, heven⟩ := not_or.1 hneg
      obtain ⟨hpos, heven'⟩ := not_or.1 hpos
      have hhalf : Int.fract q = 1 / 2 := by linarith
      have hodd : ⌊q⌋ % 2 ≠ 0 := fun h => heven' ⟨hhalf, h⟩
      exact absurd ⟨by linarith, by omega⟩ heven

theorem nearest_nonneg {q : ℚ} (h : 0 ≤ q) : 0 ≤ nearest q := by
  have hfloor := Int.floor_nonneg.2 h
  unfold nearest
  split <;> omega

/-- What is rounded is at most half way to a neighbour. -/
theorem abs_rounded_sub_le_ulp (x : ℚ) : |rounded x - x| ≤ ulp x / 2 := by
  have hpos := ulp_pos x
  have hsub : rounded x - x = ((nearest (x / ulp x) : ℚ) - x / ulp x) * ulp x := by
    rw [rounded, sub_mul, div_mul_cancel₀ _ hpos.ne']
  rw [hsub, abs_mul, abs_of_pos hpos]
  calc |(nearest (x / ulp x) : ℚ) - x / ulp x| * ulp x
      ≤ 1 / 2 * ulp x := mul_le_mul_of_nonneg_right (abs_nearest_sub_le _) hpos.le
    _ = ulp x / 2 := by ring

@[simp] theorem rounded_zero : rounded 0 = 0 := by
  rw [rounded, zero_div]
  have hzero : nearest 0 = 0 := nearest_intCast 0
  rw [hzero, Int.cast_zero, zero_mul]

/-- **The error** of a result below `2 ^ k`. -/
theorem abs_rounded_sub_le {x : ℚ} {k : ℤ} (h : |x| < 2 ^ k) : |rounded x - x| ≤ 2 ^ (k - 54) := by
  rcases eq_or_ne x 0 with rfl | hx
  · rw [rounded_zero, sub_zero, abs_zero]
    exact (zpow_pos two_pos _).le
  have hlog : Int.log 2 |x| < k := by
    have hle := Int.zpow_log_le_self (b := 2) (by norm_num) (abs_pos.2 hx)
    exact (zpow_lt_zpow_iff_right₀ (by norm_num : (1 : ℚ) < 2)).1 (by exact_mod_cast hle.trans_lt h)
  calc |rounded x - x| ≤ ulp x / 2 := abs_rounded_sub_le_ulp x
    _ = 2 ^ (Int.log 2 |x| - 53) := by
        rw [ulp, show Int.log 2 |x| - 53 = Int.log 2 |x| - 52 - 1 by ring,
          zpow_sub_one₀ two_ne_zero, div_eq_mul_inv]
    _ ≤ 2 ^ (k - 54) := zpow_le_zpow_right₀ (by norm_num) (by omega)

/-- **What has a significand of 53 bits is not rounded.** -/
theorem rounded_mul_zpow {m k : ℤ} (h : |m| < 2 ^ 53) : rounded (m * 2 ^ k) = m * 2 ^ k := by
  rcases eq_or_ne m 0 with rfl | hm
  · rw [Int.cast_zero, zero_mul, rounded_zero]
  set x : ℚ := m * 2 ^ k with hx
  have hx0 : x ≠ 0 := mul_ne_zero (Int.cast_ne_zero.2 hm) (zpow_ne_zero _ two_ne_zero)
  have hlog : Int.log 2 |x| < k + 53 := by
    have hle := Int.zpow_log_le_self (b := 2) (by norm_num) (abs_pos.2 hx0)
    have hlt : |x| < 2 ^ (k + 53) := by
      have hcast : |(m : ℚ)| < 2 ^ (53 : ℤ) := by exact_mod_cast h
      have hpow : (0 : ℚ) < 2 ^ k := zpow_pos two_pos k
      rw [hx, abs_mul, abs_of_pos hpow, add_comm k, zpow_add₀ two_ne_zero]
      exact mul_lt_mul_of_pos_right hcast (zpow_pos two_pos k)
    exact (zpow_lt_zpow_iff_right₀ (by norm_num : (1 : ℚ) < 2)).1
      (by exact_mod_cast hle.trans_lt hlt)
  -- around `x` the neighbours are apart by a power of two that divides it
  obtain ⟨j, hj⟩ := Int.eq_ofNat_of_zero_le (a := k - (Int.log 2 |x| - 52)) (by omega)
  have hdiv : x / ulp x = ((m * 2 ^ j : ℤ) : ℚ) := by
    have hpow : (2 : ℚ) ^ k = 2 ^ j * ulp x := by
      rw [ulp, ← zpow_natCast, ← zpow_add₀ two_ne_zero]
      congr 1
      omega
    rw [div_eq_iff (ulp_pos x).ne', Int.cast_mul, Int.cast_pow, Int.cast_ofNat, mul_assoc, ← hpow]
  rw [rounded, hdiv, nearest_intCast, ← hdiv, div_mul_cancel₀ _ (ulp_pos x).ne']

/-- An integer that is not too large is not rounded. -/
theorem rounded_intCast {m : ℤ} (h : |m| < 2 ^ 53) : rounded m = m := by
  have hround := rounded_mul_zpow (k := 0) h
  rwa [zpow_zero, mul_one] at hround

/-- **Rounding keeps the sign.** -/
theorem abs_rounded (x : ℚ) : |rounded x| = rounded |x| := by
  have hnonneg : ∀ y : ℚ, 0 ≤ y → 0 ≤ rounded y := fun y hy =>
    mul_nonneg (Int.cast_nonneg (nearest_nonneg (div_nonneg hy (ulp_pos y).le))) (ulp_pos y).le
  rcases le_total 0 x with hx | hx
  · rw [abs_of_nonneg hx, abs_of_nonneg (hnonneg x hx)]
  · have hneg : rounded (-x) = -rounded x := by
      have hulp : ulp (-x) = ulp x := by rw [ulp, abs_neg, ← ulp]
      rw [rounded, hulp, neg_div, nearest_neg, Int.cast_neg, neg_mul, ← rounded]
    rw [abs_of_nonpos hx, ← abs_of_nonneg (hnonneg (-x) (by linarith)), hneg, abs_neg]

theorem ulp_eq {x : ℚ} {k : ℤ} (h : 2 ^ k ≤ x) (h' : x < 2 ^ (k + 1)) : ulp x = 2 ^ (k - 52) := by
  have hpos : 0 < x := (zpow_pos two_pos k).trans_le h
  have hlow : k ≤ Int.log 2 x := (Int.zpow_le_iff_le_log (by norm_num) hpos).1 (by exact_mod_cast h)
  have hhigh : Int.log 2 x < k + 1 :=
    (Int.lt_zpow_iff_log_lt (by norm_num) hpos).1 (by exact_mod_cast h')
  rw [ulp, abs_of_pos hpos, show Int.log 2 x = k by omega]

/-- **Rounded to less than a power of two** is what is more than half way
to the number before it away. -/
theorem rounded_lt_zpow_iff {x : ℚ} {k : ℤ} (h : 2 ^ (k - 1) ≤ x) (h' : x < 2 ^ (k + 1)) :
    rounded x < 2 ^ k ↔ x < 2 ^ k - 2 ^ (k - 54) := by
  rcases lt_or_ge x (2 ^ k) with hlt | hge
  · have hulp : ulp x = 2 ^ (k - 53) := by
      rw [ulp_eq h (by rwa [sub_add_cancel]), show k - 1 - 52 = k - 53 by ring]
    have hpow : (2 : ℚ) ^ k = (2 ^ 53 : ℤ) * ulp x := by
      rw [hulp, Int.cast_pow, Int.cast_ofNat, ← zpow_natCast, ← zpow_add₀ two_ne_zero]
      congr 1
      norm_num
    have hhalf : (2 : ℚ) ^ (k - 54) = 1 / 2 * ulp x := by
      rw [hulp, show k - 54 = k - 53 - 1 by ring, zpow_sub_one₀ two_ne_zero]
      ring
    rw [hhalf, hpow, rounded, mul_lt_mul_iff_left₀ (ulp_pos x), Int.cast_lt,
      nearest_lt_iff (by norm_num), ← sub_mul, div_lt_iff₀ (ulp_pos x)]
  · have hpow : (2 : ℚ) ^ k = (2 ^ 52 : ℤ) * ulp x := by
      rw [ulp_eq hge h', Int.cast_pow, Int.cast_ofNat, ← zpow_natCast, ← zpow_add₀ two_ne_zero]
      congr 1
      norm_num
    have hpos : (0 : ℚ) < 2 ^ (k - 54) := zpow_pos two_pos _
    refine iff_of_false (fun hround => ?_) (by linarith)
    rw [hpow, rounded, mul_lt_mul_iff_left₀ (ulp_pos x), Int.cast_lt,
      nearest_lt_iff (by norm_num), div_lt_iff₀ (ulp_pos x), sub_mul, ← hpow] at hround
    have hulp := ulp_pos x
    linarith

variable {α : Type*} {f g : α → ℚ} {xs : List α} {k : ℤ} {δ b : ℚ}

/-- **An operation on rounded numbers.** -/
theorem abs_rounded_sub_le_of_abs_sub_le {x y : ℚ} (hxy : |y - x| ≤ δ) (hy : |y| < 2 ^ k) :
    |rounded y - x| ≤ δ + 2 ^ (k - 54) := by
  calc |rounded y - x| = |(rounded y - y) + (y - x)| := by rw [sub_add_sub_cancel]
    _ ≤ |rounded y - y| + |y - x| := abs_add_le _ _
    _ ≤ δ + 2 ^ (k - 54) := by
        have herror := abs_rounded_sub_le hy
        linarith

/-- A sum of small numbers. -/
theorem abs_sum_map_le (hg : ∀ x ∈ xs, |g x| ≤ b) : |(xs.map g).sum| ≤ xs.length * b := by
  induction xs with
  | nil => simp
  | cons x xs ih =>
    obtain ⟨hx, hxs⟩ := List.forall_mem_cons.1 hg
    rw [List.map_cons, List.sum_cons, List.length_cons]
    push_cast
    calc |g x + (xs.map g).sum| ≤ |g x| + |(xs.map g).sum| := abs_add_le _ _
      _ ≤ b + xs.length * b := add_le_add hx (ih hxs)
      _ = (xs.length + 1) * b := by ring

/-- **A sum of rounded numbers**, rounded at each one. -/
theorem abs_foldl_rounded_sub_le (hf : ∀ x ∈ xs, |f x - g x| ≤ δ) (hg : ∀ x ∈ xs, |g x| ≤ b)
    (hδ : 0 ≤ δ) (hb : 0 ≤ b) (hlength : (xs.length + 1) * (b + δ + 2 ^ (k - 54)) < 2 ^ k) :
    |xs.foldl (fun sum x => rounded (sum + f x)) 0 - (xs.map g).sum| ≤
      xs.length * (δ + 2 ^ (k - 54)) := by
  have hε : (0 : ℚ) < 2 ^ (k - 54) := zpow_pos two_pos _
  induction xs using List.reverseRecOn with
  | nil => simp
  | append_singleton xs x ih =>
    obtain ⟨hfxs, hfx⟩ := List.forall_mem_append.1 hf
    obtain ⟨hgxs, hgx⟩ := List.forall_mem_append.1 hg
    replace hfx := hfx x List.mem_cons_self
    replace hgx := hgx x List.mem_cons_self
    rw [List.length_append, List.length_singleton] at hlength ⊢
    rw [List.foldl_append, List.foldl_cons, List.foldl_nil, List.map_append, List.sum_append,
      List.map_singleton, List.sum_singleton]
    push_cast at hlength ⊢
    have hsum := abs_sum_map_le hgxs
    have hrest := ih hfxs hgxs (by nlinarith)
    set s := xs.foldl (fun sum x => rounded (sum + f x)) 0
    set e := (xs.map g).sum
    -- the exact sum is small, so the one that is rounded is
    have hdiff : |s + f x - (e + g x)| ≤ xs.length * (δ + 2 ^ (k - 54)) + δ := by
      rw [add_sub_add_comm]
      exact (abs_add_le _ _).trans (add_le_add hrest hfx)
    have hsmall : |s + f x| < 2 ^ k := by
      have htriangle := abs_sub_abs_le_abs_sub (s + f x) (e + g x)
      have hexact := abs_add_le e (g x)
      have hnonneg : (0 : ℚ) ≤ xs.length := Nat.cast_nonneg _
      nlinarith
    calc |rounded (s + f x) - (e + g x)|
        ≤ xs.length * (δ + 2 ^ (k - 54)) + δ + 2 ^ (k - 54) :=
          abs_rounded_sub_le_of_abs_sub_le hdiff hsmall
      _ = (xs.length + 1) * (δ + 2 ^ (k - 54)) := by ring

end Binary64

end Volleyer
