import Mathlib.Algebra.BigOperators.ModEq
import Volleyer.Common.ThreeHands

/-!
# Tight arrangements

In a tight arrangement of stuck values nothing can be swapped to bring
the hands closer, so the differences within a kind are few
(`Tight.outer`, `Tight.lower`, `Tight.upper`), and a swap by such a
difference only exchanges the roles of two hands. It follows that the
values of a kind in the two outer hands agree modulo `d`
(`Tight.congr_outer`), and the kinds too where the two hands differ in
their counts (`Tight.congr_kinds`).
-/

namespace Volleyer.Hands

variable {ι : Type*} [Fintype ι] [DecidableEq ι] {h : Hands ι} {x : ι → ℤ} {d β : ℤ}
  {a b c k : Fin 3} {i j p q : ι} {γ : Bool} {v : Bool → ℤ}

namespace Tight

omit [DecidableEq ι] in
/-- Every place is in one of the three hands. -/
theorem hand_cases (t : h.Tight d x a b c β) (i : ι) :
    h.hand i = a ∨ h.hand i = b ∨ h.hand i = c :=
  eq_of_three t.ab t.bc t.ac _

omit [DecidableEq ι] in
theorem hand_outer (t : h.Tight d x a b c β) (hi : h.hand i ≠ b) : h.hand i = a ∨ h.hand i = c := by
  rcases t.hand_cases i with ha | hb | hc
  · exact Or.inl ha
  · exact absurd hb hi
  · exact Or.inr hc

/-! ## The three differences -/

/-- Between the outer hands a value is ahead by nothing, or by `d`. -/
theorem outer (t : h.Tight d x a b c β) (hi : h.hand i = a) (hj : h.hand j = c)
    (hkind : h.kind i = h.kind j) : x i ≤ x j ∨ x i = d ∧ x j = 0 := by
  have hapart := t.stuck.swap_apart hi hj hkind t.ac t.bc.symm t.ab
  have htop := t.top
  have hmid := t.mid
  have hβ := t.mid_range
  have hi := t.range i
  have hj := t.range j
  omega

/-- Between the middle and the last hand a value is ahead by nothing, or
by `β` at least. -/
theorem lower (t : h.Tight d x a b c β) (hi : h.hand i = b) (hj : h.hand j = c)
    (hkind : h.kind i = h.kind j) : x i ≤ x j ∨ β ≤ x i - x j := by
  have hapart := t.stuck.swap_apart hi hj hkind t.bc t.ac.symm t.ab.symm
  have htop := t.top
  have hmid := t.mid
  have hβ := t.mid_range
  have hi := t.range i
  have hj := t.range j
  omega

/-- Between the first and the middle hand a value is ahead by nothing, or
by `d - β` at least. -/
theorem upper (t : h.Tight d x a b c β) (hi : h.hand i = a) (hj : h.hand j = b)
    (hkind : h.kind i = h.kind j) : x i ≤ x j ∨ d - β ≤ x i - x j := by
  have hapart := t.stuck.swap_apart hi hj hkind t.ab t.bc t.ac
  have htop := t.top
  have hmid := t.mid
  have hβ := t.mid_range
  have hi := t.range i
  have hj := t.range j
  omega

/-! ## Exchanging roles -/

/-- A swap by `d` turns the outer hands round. -/
theorem turn (t : h.Tight d x a b c β) (hi : h.hand i = a) (hj : h.hand j = c)
    (hkind : h.kind i = h.kind j) (hd : x i = d) (h0 : x j = 0) :
    h.Tight d (x ∘ Equiv.swap i j) c b a β := by
  obtain ⟨ha, hc, hb⟩ := share_swap (x := x) hi hj t.ac
  have hb := hb b t.ab t.bc.symm
  have htop := t.top
  have hmid := t.mid
  exact ⟨t.stuck.swap hkind, t.pos, fun k => t.range _, t.bc.symm, t.ab.symm, t.ac.symm,
    by omega, by omega, t.mid_range⟩

/-- A swap by `β` exchanges the two lower hands. -/
theorem swap_lower (t : h.Tight d x a b c β) (hi : h.hand i = b) (hj : h.hand j = c)
    (hkind : h.kind i = h.kind j) (hβ : x i - x j = β) :
    h.Tight d (x ∘ Equiv.swap i j) a c b β := by
  obtain ⟨hb, hc, ha⟩ := share_swap (x := x) hi hj t.bc
  have ha := ha a t.ab.symm t.ac.symm
  have htop := t.top
  have hmid := t.mid
  exact ⟨t.stuck.swap hkind, t.pos, fun k => t.range _, t.ac, t.bc.symm, t.ab,
    by omega, by omega, t.mid_range⟩

/-- A swap by `d - β` exchanges the two upper hands. -/
theorem swap_upper (t : h.Tight d x a b c β) (hi : h.hand i = a) (hj : h.hand j = b)
    (hkind : h.kind i = h.kind j) (hβ : x i - x j = d - β) :
    h.Tight d (x ∘ Equiv.swap i j) b a c β := by
  obtain ⟨ha, hb, hc⟩ := share_swap (x := x) hi hj t.ab
  have hc := hc c t.ac t.bc
  have htop := t.top
  have hmid := t.mid
  exact ⟨t.stuck.swap hkind, t.pos, fun k => t.range _, t.ab.symm, t.ac, t.bc,
    by omega, by omega, t.mid_range⟩

end Tight

/-! ## Turning the values upside down -/

omit [DecidableEq ι] in
theorem share_dual : h.share (fun i => d - x i) k = h.size * d - h.share x k := by
  rw [share, Finset.sum_sub_distrib, Finset.sum_const, h.card_hand, nsmul_eq_mul]
  rfl

omit [DecidableEq ι] in
theorem Stuck.dual (hs : h.Stuck d x) : h.Stuck d fun i => d - x i := by
  intro σ hσ
  obtain ⟨k, j, hkj⟩ := hs σ hσ
  refine ⟨j, k, ?_⟩
  have hj : h.share ((fun i => d - x i) ∘ σ) j = h.size * d - h.share (x ∘ σ) j := share_dual
  have hk : h.share ((fun i => d - x i) ∘ σ) k = h.size * d - h.share (x ∘ σ) k := share_dual
  omega

omit [DecidableEq ι] in
/-- **Upside down** the first hand is the last. -/
theorem Tight.dual (t : h.Tight d x a b c β) : h.Tight d (fun i => d - x i) c b a (d - β) := by
  have htop := t.top
  have hmid := t.mid
  have hβ := t.mid_range
  have hrange := t.range
  have hshare : ∀ k, h.share (fun i => d - x i) k = h.size * d - h.share x k := fun k => share_dual
  refine ⟨t.stuck.dual, t.pos, fun i => ?_, t.bc.symm, t.ab.symm, t.ac.symm, ?_, ?_, ?_⟩
  · have hi := hrange i
    omega
  · rw [hshare, hshare]
    omega
  · rw [hshare, hshare]
    omega
  · omega

/-! ## A pair, or two levels -/

/-- A pair of one kind, `d` in the first hand and `0` in the last. -/
structure Pair (h : Hands ι) (d : ℤ) (x : ι → ℤ) (a c : Fin 3) (i j : ι) : Prop where
  top : h.hand i = a
  bottom : h.hand j = c
  kind : h.kind i = h.kind j
  full : x i = d
  zero : x j = 0

/-- The outer hands hold `d` at one kind and `0` at the other, and the
first one holds one more of the first. -/
structure Levels (h : Hands ι) (d : ℤ) (x : ι → ℤ) (a c : Fin 3) (γ : Bool) : Prop where
  count : h.count a γ = h.count c γ + 1
  level : ∀ i, h.hand i = a ∨ h.hand i = c → x i = if h.kind i = γ then d else 0

/-- **What keeps the outer hands `d` apart** is a pair, or two levels. -/
theorem Tight.pair_or_levels (t : h.Tight d x a b c β) :
    (∃ i j, h.Pair d x a c i j) ∨ ∃ γ, h.Levels d x a c γ := by
  by_cases hpair : ∃ i j, h.Pair d x a c i j
  · exact Or.inl hpair
  right
  obtain ⟨v, hv, hva, hvc⟩ := exists_threshold t.pos.le t.range fun i j hi hj hkind =>
    (t.outer hi hj hkind).resolve_right fun hij => hpair ⟨i, j, hi, hj, hkind, hij.1, hij.2⟩
  have hxa := share_le_share hva
  have hxc := share_le_share hvc
  have hsub := h.share_kind_sub v a c
  have htop := t.top
  have hpos := t.pos
  have htrue := hv true
  have hfalse := hv false
  have hsa := h.count_add_count a
  have hsc := h.count_add_count c
  -- the counts differ, and the thresholds are the two ends of the range
  have hends : (v true = d ∧ v false = 0 ∧ h.count a true = h.count c true + 1) ∨
      (v true = 0 ∧ v false = d ∧ h.count a false = h.count c false + 1) := by
    rcases h.count_sub true a c with hcount | hcount | hcount <;> rw [hcount] at hsub <;> omega
  have hshares : h.share (fun i => v (h.kind i)) a - h.share (fun i => v (h.kind i)) c = d := by
    rcases hends with ⟨h1, h0, hcount⟩ | ⟨h0, h1, hcount⟩
    · rw [hsub, h1, h0, hcount]
      push_cast
      ring
    · have hsize : (h.count a true : ℤ) - h.count c true = -1 := by omega
      rw [hsub, h1, h0, hsize]
      ring
  have heq : ∀ i, h.hand i = a ∨ h.hand i = c → x i = v (h.kind i) := by
    rintro i (hi | hi)
    · exact eq_of_share_le hva (by omega) hi
    · exact (eq_of_share_le hvc (by omega) hi).symm
  rcases hends with ⟨h1, h0, hcount⟩ | ⟨h0, h1, hcount⟩
  · refine ⟨true, hcount, fun i hi => ?_⟩
    rw [heq i hi]
    cases h.kind i
    · exact h0
    · exact h1
  · refine ⟨false, hcount, fun i hi => ?_⟩
    rw [heq i hi]
    cases h.kind i
    · exact h1
    · exact h0

/-! ## Congruences -/

theorem comp_swap_of_kind (hpq : h.kind p = h.kind q) (hi : h.kind i ≠ h.kind p) :
    (x ∘ Equiv.swap p q) i = x i := by
  have hip : i ≠ p := fun heq => hi (by rw [heq])
  have hiq : i ≠ q := fun heq => hi (by rw [heq, hpq])
  rw [Function.comp_apply, Equiv.swap_apply_of_ne_of_ne hip hiq]

theorem Tight.turn_pair (t : h.Tight d x a b c β) (hp : h.Pair d x a c p q) :
    h.Tight d (x ∘ Equiv.swap p q) c b a β :=
  t.turn hp.top hp.bottom hp.kind hp.full hp.zero

/-- The pair, turned round. -/
theorem Pair.turned (hp : h.Pair d x a c p q) : h.Pair d (x ∘ Equiv.swap p q) c a q p where
  top := hp.bottom
  bottom := hp.top
  kind := hp.kind.symm
  full := by rw [Function.comp_apply, Equiv.swap_apply_right, hp.full]
  zero := by rw [Function.comp_apply, Equiv.swap_apply_left, hp.zero]

/-- The outer hands have nothing but `0` and `d` at the kind of a pair. -/
theorem Tight.ends (t : h.Tight d x a b c β) (hp : h.Pair d x a c p q) (hi : h.hand i ≠ b)
    (hkind : h.kind i = h.kind p) : x i = 0 ∨ x i = d := by
  have hfull := hp.full
  have hzero := hp.zero
  have hrange := t.range i
  rcases t.hand_outer hi with hi | hi
  · have houter := t.outer hi hp.bottom (hkind.trans hp.kind)
    omega
  · have houter := t.outer hp.top hi hkind.symm
    omega

/-- At the other kind they agree, or have `0` and `d` too. -/
theorem Tight.cross (t : h.Tight d x a b c β) (hp : h.Pair d x a c p q) (hi : h.hand i = a)
    (hj : h.hand j = c) (hkind : h.kind i = h.kind j) (hne : h.kind i ≠ h.kind p) :
    x i = x j ∨ x i = d ∧ x j = 0 ∨ x i = 0 ∧ x j = d := by
  have houter := t.outer hi hj hkind
  have hturned := (t.turn_pair hp).outer hj hi hkind.symm
  rw [comp_swap_of_kind hp.kind hne, comp_swap_of_kind hp.kind (hkind ▸ hne)] at hturned
  omega

theorem modEq_of_ends {u w : ℤ} (hu : u = 0 ∨ u = d) (hw : w = 0 ∨ w = d) : u ≡ w [ZMOD d] := by
  have hzero : ∀ u, u = 0 ∨ u = d → u ≡ 0 [ZMOD d] := by
    rintro u (rfl | rfl)
    · rfl
    · exact Int.modEq_zero_iff_dvd.2 dvd_rfl
  exact (hzero u hu).trans (hzero w hw).symm

theorem Tight.congr_cross (t : h.Tight d x a b c β) (hp : h.Pair d x a c p q) (hi : h.hand i = a)
    (hj : h.hand j = c) (hkind : h.kind i = h.kind j) (hne : h.kind i ≠ h.kind p) :
    x i ≡ x j [ZMOD d] := by
  rcases t.cross hp hi hj hkind hne with heq | hij | hij
  · rw [heq]
  · exact modEq_of_ends (Or.inr hij.1) (Or.inl hij.2)
  · exact modEq_of_ends (Or.inl hij.1) (Or.inr hij.2)

/-- **Within a kind the outer hands agree** modulo `d`. -/
theorem Tight.congr_outer (t : h.Tight d x a b c β) (hi : h.hand i ≠ b) (hj : h.hand j ≠ b)
    (hkind : h.kind i = h.kind j) : x i ≡ x j [ZMOD d] := by
  rcases t.pair_or_levels with ⟨p, q, hp⟩ | ⟨γ, hγ⟩
  · by_cases hk : h.kind i = h.kind p
    · exact modEq_of_ends (t.ends hp hi hk) (t.ends hp hj (hkind ▸ hk))
    rcases eq_or_ne i j with rfl | hij
    · rfl
    -- two places of one hand agree with a third, in the other hand
    rcases t.hand_outer hi with hi | hi <;> rcases t.hand_outer hj with hj | hj
    · obtain ⟨z, hz, hzi⟩ := exists_of_two hi hj rfl hkind.symm hij c
      exact (t.congr_cross hp hi hz hzi.symm hk).trans
        (t.congr_cross hp hj hz (hkind.symm.trans hzi.symm) (hkind ▸ hk)).symm
    · exact t.congr_cross hp hi hj hkind hk
    · exact (t.congr_cross hp hj hi hkind.symm (hkind ▸ hk)).symm
    · obtain ⟨z, hz, hzi⟩ := exists_of_two hi hj rfl hkind.symm hij a
      have hzp : h.kind z ≠ h.kind p := hzi ▸ hk
      exact (t.congr_cross hp hz hi hzi hzp).symm.trans
        (t.congr_cross hp hz hj (hzi.trans hkind) hzp)
  · rw [hγ.level i (t.hand_outer hi), hγ.level j (t.hand_outer hj), hkind]

omit [DecidableEq ι] in
theorem share_modEq {y : ι → ℤ} (hxy : ∀ i, h.hand i = k → x i ≡ y i [ZMOD d]) :
    h.share x k ≡ h.share y k [ZMOD d] :=
  Int.ModEq.sum fun i hi => hxy i (Finset.mem_filter.1 hi).2

omit [DecidableEq ι] in
/-- **The kinds agree too** where the outer hands differ in their counts. -/
theorem Tight.congr_kinds (t : h.Tight d x a b c β)
    (hv : ∀ i, h.hand i ≠ b → x i ≡ v (h.kind i) [ZMOD d])
    (hne : h.count a true ≠ h.count c true) : v true ≡ v false [ZMOD d] := by
  have ha : h.share x a ≡ h.share (fun i => v (h.kind i)) a [ZMOD d] :=
    share_modEq fun i hi => hv i (hi ▸ t.ab)
  have hc : h.share x c ≡ h.share (fun i => v (h.kind i)) c [ZMOD d] :=
    share_modEq fun i hi => hv i (hi ▸ t.bc.symm)
  have hsub := ha.sub hc
  have hdiff : h.share x a - h.share x c = d := by
    have htop := t.top
    omega
  rw [hdiff, h.share_kind_sub] at hsub
  have hdvd : d ∣ (h.count a true - h.count c true : ℤ) * (v true - v false) :=
    Int.modEq_zero_iff_dvd.1 (hsub.symm.trans (Int.modEq_zero_iff_dvd.2 dvd_rfl))
  have hcount : (h.count a true : ℤ) - h.count c true = -1 ∨
      (h.count a true : ℤ) - h.count c true = 1 := by
    have hcases := h.count_sub true a c
    omega
  refine (Int.modEq_iff_dvd.2 ?_).symm
  rcases hcount with hcount | hcount <;> rw [hcount] at hdvd
  · rwa [neg_one_mul, dvd_neg] at hdvd
  · rwa [one_mul] at hdvd

/-- **The values of the outer hands, by their kinds.** A kind that the
outer hands do not have takes the value of the other. -/
theorem Tight.exists_fit (t : h.Tight d x a b c β) :
    ∃ v : Bool → ℤ, (∀ i, h.hand i ≠ b → x i ≡ v (h.kind i) [ZMOD d]) ∧
      ((∃ γ, ∀ i, h.hand i ≠ b → h.kind i ≠ γ) → v true = v false) := by
  by_cases hall : ∃ γ, ∀ i, h.hand i ≠ b → h.kind i ≠ γ
  · obtain ⟨γ, hγ⟩ := hall
    by_cases hsome : ∃ z, h.hand z ≠ b
    · obtain ⟨z, hz⟩ := hsome
      refine ⟨fun _ => x z, fun i hi => t.congr_outer hi hz ?_, fun _ => rfl⟩
      rw [Bool.eq_not_of_ne (hγ i hi), Bool.eq_not_of_ne (hγ z hz)]
    · exact ⟨fun _ => 0, fun i hi => absurd ⟨i, hi⟩ hsome, fun _ => rfl⟩
  · have hplace : ∀ γ, ∃ z, h.hand z ≠ b ∧ h.kind z = γ := by
      intro γ
      by_contra hnone
      exact hall ⟨γ, fun i hi hiγ => hnone ⟨i, hi, hiγ⟩⟩
    choose z hz hzγ using hplace
    exact ⟨fun γ => x (z γ), fun i hi => t.congr_outer hi (hz _) (hzγ _).symm,
      fun hex => absurd hex hall⟩

end Volleyer.Hands
