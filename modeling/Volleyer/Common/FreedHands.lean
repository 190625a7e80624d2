import Volleyer.Common.TightHands

/-!
# Freeing a value

The values of the outer hands agree modulo `d` within a kind. A value of
the middle hand that does not agree with them can be swapped out of it by
a difference that leaves the arrangement tight (`Tight.freed`): otherwise
two swaps together would bring the hands closer, or the middle hand would
come to too much. With the value gone, the rest of the middle hand is in
an outer one, and agrees.
-/

namespace Volleyer.Hands

variable {ι : Type*} [Fintype ι] [DecidableEq ι] {h : Hands ι} {x : ι → ℤ} {d β : ℤ}
  {a b c f k : Fin 3} {i j p q z i₀ : ι} {γ : Bool}

/-- **A value of a hand is freed** where a tight arrangement has it in
the middle, another hand, and the rest of its hand in place. -/
def Freed (h : Hands ι) (d : ℤ) (x : ι → ℤ) (b : Fin 3) (i₀ : ι) : Prop :=
  ∃ σ : Equiv.Perm ι, h.Keeps σ ∧ (∀ i, h.hand i = b → i ≠ i₀ → σ i = i) ∧ h.hand (σ i₀) ≠ b ∧
    ∃ a' f c' β', f ≠ b ∧ h.hand (σ.symm i₀) = f ∧ h.Tight d (x ∘ σ) a' f c' β'

namespace Freed

theorem of_swap (hz : h.hand z = f) (hfb : f ≠ b)
    (hkind : h.kind i₀ = h.kind z) (t : h.Tight d (x ∘ Equiv.swap i₀ z) a f c β) :
    h.Freed d x b i₀ := by
  refine ⟨Equiv.swap i₀ z, keeps_swap hkind, fun i hib hne => ?_, ?_, a, f, c, β, hfb, ?_, t⟩
  · have hiz : i ≠ z := fun heq => hfb (by rw [← hz, ← heq, hib])
    exact Equiv.swap_apply_of_ne_of_ne hne hiz
  · rw [Equiv.swap_apply_left, hz]
    exact hfb
  · rw [Equiv.symm_swap, Equiv.swap_apply_left, hz]

/-- What can be freed after a swap of the other hands can be freed. -/
theorem of_comp_swap (hi : h.hand i₀ = b) (hp : h.hand p ≠ b) (hq : h.hand q ≠ b)
    (hkind : h.kind p = h.kind q) (hfreed : h.Freed d (x ∘ Equiv.swap p q) b i₀) :
    h.Freed d x b i₀ := by
  obtain ⟨σ, hσ, hfix, hout, a', f, c', β', hfb, hf, t⟩ := hfreed
  have hmid : ∀ i, h.hand i = b → Equiv.swap p q i = i := by
    intro i hib
    have hip : i ≠ p := fun heq => hp (heq ▸ hib)
    have hiq : i ≠ q := fun heq => hq (heq ▸ hib)
    exact Equiv.swap_apply_of_ne_of_ne hip hiq
  refine ⟨Equiv.swap p q * σ, fun i => ?_, fun i hib hne => ?_, ?_, a', f, c', β', hfb, ?_, t⟩
  · exact (keeps_swap hkind (σ i)).trans (hσ i)
  · rw [Equiv.Perm.mul_apply, hfix i hib hne, hmid i hib]
  · rw [Equiv.Perm.mul_apply, Equiv.swap_apply_def]
    split
    · exact hq
    · split
      · exact hp
      · exact hout
  · have hsymm : (Equiv.swap p q * σ).symm i₀ = σ.symm (Equiv.swap p q i₀) := rfl
    rw [hsymm, hmid i₀ hi, hf]

omit [DecidableEq ι] in
theorem of_dual (hfreed : h.Freed d (fun i => d - x i) b i₀) : h.Freed d x b i₀ := by
  obtain ⟨σ, hσ, hfix, hout, a', f, c', β', hfb, hf, t⟩ := hfreed
  refine ⟨σ, hσ, hfix, hout, c', f, a', d - β', hfb, hf, ?_⟩
  have hdual : (fun i => d - ((fun i => d - x i) ∘ σ) i) = x ∘ σ := by
    funext i
    show d - (d - x (σ i)) = x (σ i)
    omega
  rw [← hdual]
  exact t.dual

end Freed

/-! ## Beside a pair of its kind -/

/-- Beside a pair of its kind a value of the middle hand is `0`, `d`
or `β`. -/
theorem Tight.mid_of_pair (t : h.Tight d x a b c β) (hp : h.Pair d x a c p q) (hi : h.hand i = b)
    (hkind : h.kind i = h.kind p) : x i = 0 ∨ x i = d ∨ x i = β := by
  have hlower := t.lower hi hp.bottom (hkind.trans hp.kind)
  have hupper := t.upper hp.top hi hkind.symm
  have hfull := hp.full
  have hzero := hp.zero
  have hrange := t.range i
  omega

theorem Tight.freed_of_pair (t : h.Tight d x a b c β) (hp : h.Pair d x a c p q)
    (hi : h.hand i₀ = b) (hkind : h.kind i₀ = h.kind p) (h0 : x i₀ ≠ 0) (hd : x i₀ ≠ d) :
    h.Freed d x b i₀ := by
  have hzero := hp.zero
  have hmid := t.mid_of_pair hp hi hkind
  have hkq := hkind.trans hp.kind
  exact .of_swap hp.bottom t.bc.symm hkq (t.swap_lower hi hp.bottom hkq (by omega))

/-! ## Beside a pair of the other kind -/

section OtherKind

variable (t : h.Tight d x a b c β) (hp : h.Pair d x a c p q) (hi : h.hand i₀ = b)
  (hk : h.kind i₀ ≠ h.kind p)

include t hp hi hk

/-- A value ahead by more than `β` leaves the middle hand nothing but `d`
at the kind of the pair: two swaps would bring the hands closer. -/
theorem Tight.mid_full (hz : h.hand z = c) (hzk : h.kind z = h.kind i₀)
    (hβ : β < x i₀ - x z) (hd : x i₀ - x z < d) (hib : h.hand i = b)
    (hik : h.kind i = h.kind p) : x i = d := by
  by_contra hne
  have hmid := t.mid_of_pair hp hib hik
  obtain ⟨hb, hc, ha⟩ := share_swap (x := x) hi hz t.bc
  have ha := ha a t.ab.symm t.ac.symm
  obtain ⟨ha', hb', hc'⟩ := share_swap (x := x ∘ Equiv.swap i₀ z) hp.top hib t.ab
  have hc' := hc' c t.ac t.bc
  have hxp : (x ∘ Equiv.swap i₀ z) p = d := by
    rw [comp_swap_of_kind hzk.symm hk.symm, hp.full]
  have hxi : (x ∘ Equiv.swap i₀ z) i = x i := comp_swap_of_kind hzk.symm (hik ▸ hk.symm)
  have hapart := ((t.stuck.swap hzk.symm).swap hik.symm).apart t.ab t.bc t.ac
  have htop := t.top
  have hmid' := t.mid
  have hrange := t.mid_range
  omega

/-- Above what is constant in the outer hands, with the last hand at hand. -/
theorem Tight.freed_above (hz : h.hand z = c) (hzk : h.kind z = h.kind i₀)
    (hconst : ∀ i, h.hand i ≠ b → h.kind i = h.kind i₀ → x i = x z) (hlt : x z < x i₀)
    (hd : x i₀ - x z ≠ d) : h.Freed d x b i₀ := by
  have hri := t.range i₀
  have hrz := t.range z
  have hlower := t.lower hi hz hzk.symm
  by_cases hexact : x i₀ - x z = β
  · exact .of_swap hz t.bc.symm hzk.symm (t.swap_lower hi hz hzk.symm hexact)
  exfalso
  -- the middle hand has `d` at the one kind, and no less than the constant at the other
  have hfull : ∀ i, h.hand i = b → h.kind i = h.kind p → x i = d := fun i hib hik =>
    t.mid_full hp hi hk hz hzk (by omega) (by omega) hib hik
  have hge : ∀ i, h.hand i = b → h.kind i = h.kind i₀ → x z ≤ x i := by
    intro i hib hik
    by_contra hless
    have hne : i ≠ i₀ := by
      rintro rfl
      omega
    obtain ⟨z', hz', hzk'⟩ := exists_of_two hib hi hik rfl hne a
    have hxz' := hconst z' (hz' ▸ t.ab) hzk'
    have hupper := t.upper hz' hib (hzk'.trans hik.symm)
    have hrange := t.range i
    omega
  have hother : ∀ i, h.kind i ≠ h.kind p → h.kind i = h.kind i₀ := fun i hne => by
    rw [Bool.eq_not_of_ne hne, Bool.eq_not_of_ne hk]
  -- so it comes to too much
  have hb : h.share (fun i => if h.kind i = h.kind p then d else x z) b + (x i₀ - x z) ≤
      h.share x b := by
    refine share_add_le hi ?_ fun i hib _ => ?_
    · rw [if_neg hk]
      omega
    · split
      · rename_i hik
        exact (hfull i hib hik).ge
      · rename_i hik
        exact hge i hib (hother i hik)
  have hc : h.share x c + d ≤ h.share (fun i => if h.kind i = h.kind p then d else x z) c := by
    refine share_add_le hp.bottom ?_ fun i hic _ => ?_
    · rw [if_pos hp.kind.symm, hp.zero, zero_add]
    · split
      · exact (t.range i).2
      · rename_i hik
        exact (hconst i (hic ▸ t.bc.symm) (hother i hik)).le
  obtain ⟨e, he, hlevels⟩ := h.share_level_cases (h.kind p) d (x z) b c
  have hmid := t.mid
  omega

/-- Above what is constant in the outer hands: where only the first hand
has the kind, the outer hands are turned. -/
theorem Tight.freed_of_lt (hz : h.hand z ≠ b) (hzk : h.kind z = h.kind i₀)
    (hconst : ∀ i, h.hand i ≠ b → h.kind i = h.kind i₀ → x i = x z) (hlt : x z < x i₀)
    (hd : x i₀ - x z ≠ d) : h.Freed d x b i₀ := by
  rcases t.hand_outer hz with hza | hzc
  · have hpb : h.hand p ≠ b := hp.top ▸ t.ab
    have hqb : h.hand q ≠ b := hp.bottom ▸ t.bc.symm
    have hsame : ∀ i, h.kind i = h.kind i₀ → (x ∘ Equiv.swap p q) i = x i := fun i hik =>
      comp_swap_of_kind hp.kind (hik ▸ hk)
    refine .of_comp_swap hi hpb hqb hp.kind ((t.turn_pair hp).freed_above hp.turned hi
      (hp.kind ▸ hk) hza hzk (fun i hib hik => ?_) ?_ ?_)
    · rw [hsame i hik, hsame z hzk]
      exact hconst i hib hik
    · rw [hsame z hzk, hsame i₀ rfl]
      exact hlt
    · rw [hsame z hzk, hsame i₀ rfl]
      exact hd
  · exact t.freed_above hp hi hk hzc hzk hconst hlt hd

/-- Beside what is constant in the outer hands, on either side of it. -/
theorem Tight.freed_of_const (hz : h.hand z ≠ b) (hzk : h.kind z = h.kind i₀)
    (hconst : ∀ i, h.hand i ≠ b → h.kind i = h.kind i₀ → x i = x z)
    (hne : ¬x i₀ ≡ x z [ZMOD d]) : h.Freed d x b i₀ := by
  have hapart : ∀ u w : ℤ, ¬u ≡ w [ZMOD d] → u ≠ w ∧ u - w ≠ d ∧ w - u ≠ d := by
    intro u w huw
    refine ⟨fun heq => huw (heq ▸ rfl), fun heq => huw ?_, fun heq => huw ?_⟩
    · exact (Int.modEq_iff_dvd.2 (heq ▸ dvd_rfl)).symm
    · exact Int.modEq_iff_dvd.2 (heq ▸ dvd_rfl)
  obtain ⟨heq, hd, hd'⟩ := hapart _ _ hne
  rcases lt_or_gt_of_ne heq with hlt | hgt
  · have hpdual : h.Pair d (fun i => d - x i) c a q p := by
      refine ⟨hp.bottom, hp.top, hp.kind.symm, ?_, ?_⟩
      · rw [hp.zero, sub_zero]
      · rw [hp.full, sub_self]
    refine .of_dual (t.dual.freed_of_lt hpdual hi (hp.kind ▸ hk) hz hzk (fun i hib hik => ?_) ?_ ?_)
    · rw [hconst i hib hik]
    · omega
    · omega
  · exact t.freed_of_lt hp hi hk hz hzk hconst hgt hd

end OtherKind

/-! ## Beside two levels -/

omit [DecidableEq ι] in
theorem Levels.dual (hγ : h.Levels d x a c γ) : h.Levels d (fun i => d - x i) c a !γ where
  count := by
    have hsa := h.count_add_count a
    have hsc := h.count_add_count c
    have hcount := hγ.count
    cases γ
    · rw [Bool.not_false]
      omega
    · rw [Bool.not_true]
      omega
  level i hi := by
    rw [hγ.level i hi.symm]
    cases γ <;> cases h.kind i <;> simp

theorem Tight.freed_of_level (t : h.Tight d x a b c β) (hγ : h.Levels d x a c γ)
    (hi : h.hand i₀ = b) (hk : h.kind i₀ = γ) (h0 : x i₀ ≠ 0) (hd : x i₀ ≠ d) :
    h.Freed d x b i₀ := by
  have hrange := t.range i₀
  have hcount := hγ.count
  obtain ⟨p, hp, hpγ⟩ : ∃ p, h.hand p = a ∧ h.kind p = γ := exists_of_count_pos (by omega)
  have hxp : x p = d := by rw [hγ.level p (Or.inl hp), if_pos hpγ]
  have hpk : h.kind p = h.kind i₀ := hpγ.trans hk.symm
  have hupper := t.upper hp hi hpk
  by_cases hexact : x p - x i₀ = d - β
  · have hswap := t.swap_upper hp hi hpk hexact
    rw [Equiv.swap_comm] at hswap
    exact .of_swap hp t.ab hpk.symm hswap
  exfalso
  obtain ⟨q, hq, hqγ⟩ : ∃ q, h.hand q = c ∧ h.kind q = !γ := by
    have hdual := hγ.dual.count
    exact exists_of_count_pos (by omega)
  have hqne : h.kind q ≠ γ := by
    rw [hqγ]
    exact Bool.not_ne_self γ
  have hxq : x q = 0 := by rw [hγ.level q (Or.inr hq), if_neg hqne]
  -- the middle hand has `0` at the other kind: two swaps would bring the hands closer
  have hnone : ∀ i, h.hand i = b → h.kind i ≠ γ → x i = 0 := by
    intro i hib hik
    by_contra hne
    have hiq : h.kind i = h.kind q := by rw [hqγ, Bool.eq_not_of_ne hik]
    have hlower := t.lower hib hq hiq
    have hri := t.range i
    obtain ⟨ha, hb, hc⟩ := share_swap (x := x) hp hi t.ab
    have hc := hc c t.ac t.bc
    obtain ⟨hb', hc', ha'⟩ := share_swap (x := x ∘ Equiv.swap p i₀) hib hq t.bc
    have ha' := ha' a t.ab.symm t.ac.symm
    have hyi : (x ∘ Equiv.swap p i₀) i = x i := comp_swap_of_kind hpk (hpγ ▸ hik)
    have hyq : (x ∘ Equiv.swap p i₀) q = 0 := by
      rw [comp_swap_of_kind hpk (hpγ ▸ hqne), hxq]
    have hapart := ((t.stuck.swap hpk).swap hiq).apart t.ab t.bc t.ac
    have htop := t.top
    have hmid := t.mid
    have hβ := t.mid_range
    omega
  -- so it comes to too little
  have hb : h.share x b + (d - x i₀) ≤ h.share (fun i => if h.kind i = γ then d else 0) b := by
    refine share_add_le hi ?_ fun i hib _ => ?_
    · rw [if_pos hk]
      omega
    · split
      · exact (t.range i).2
      · rename_i hik
        exact (hnone i hib hik).le
  have hc : h.share (fun i => if h.kind i = γ then d else 0) c ≤ h.share x c :=
    share_le_share fun i hic => (hγ.level i (Or.inr hic)).ge
  obtain ⟨e, he, hlevels⟩ := h.share_level_cases γ d 0 b c
  have hmid := t.mid
  omega

/-! ## Every other value -/

omit [DecidableEq ι] in
theorem not_ends {u w : ℤ} (hne : ¬u ≡ w [ZMOD d]) (hw : w = 0 ∨ w = d) : u ≠ 0 ∧ u ≠ d :=
  ⟨fun hu => hne (modEq_of_ends (Or.inl hu) hw), fun hu => hne (modEq_of_ends (Or.inr hu) hw)⟩

/-- **A value that does not agree is freed.** -/
theorem Tight.freed (t : h.Tight d x a b c β) (hi : h.hand i₀ = b) (hz : h.hand z ≠ b)
    (hzk : h.kind z = h.kind i₀) (hne : ¬x i₀ ≡ x z [ZMOD d]) : h.Freed d x b i₀ := by
  rcases t.pair_or_levels with ⟨p, q, hp⟩ | ⟨γ, hγ⟩
  · by_cases hk : h.kind i₀ = h.kind p
    · obtain ⟨h0, hd⟩ := not_ends hne (t.ends hp hz (hzk.trans hk))
      exact t.freed_of_pair hp hi hk h0 hd
    by_cases hcross : ∃ i j, h.hand i = a ∧ h.hand j = c ∧ h.kind i = h.kind i₀ ∧
        h.kind j = h.kind i₀ ∧ x i ≠ x j
    · -- the kind has a pair of its own, this way round or the other
      obtain ⟨i, j, hia, hjc, hik, hjk, hij⟩ := hcross
      have hkij : h.kind i = h.kind j := hik.trans hjk.symm
      rcases t.cross hp hia hjc hkij (hik ▸ hk) with heq | ⟨hfull, hzero⟩ | ⟨hzero, hfull⟩
      · exact absurd heq hij
      · have hown : h.Pair d x a c i j := ⟨hia, hjc, hkij, hfull, hzero⟩
        obtain ⟨h0, hd⟩ := not_ends hne (t.ends hown hz (hzk.trans hik.symm))
        exact t.freed_of_pair hown hi hik.symm h0 hd
      · have hsame : ∀ i, h.kind i = h.kind i₀ → (x ∘ Equiv.swap p q) i = x i := fun i hik =>
          comp_swap_of_kind hp.kind (hik ▸ hk)
        have hown : h.Pair d (x ∘ Equiv.swap p q) c a j i :=
          ⟨hjc, hia, hkij.symm, (hsame j hjk).trans hfull, (hsame i hik).trans hzero⟩
        have hends := (t.turn_pair hp).ends hown hz (hzk.trans hjk.symm)
        rw [hsame z hzk] at hends
        obtain ⟨h0, hd⟩ := not_ends hne hends
        refine .of_comp_swap hi (hp.top ▸ t.ab) (hp.bottom ▸ t.bc.symm) hp.kind
          ((t.turn_pair hp).freed_of_pair hown hi hjk.symm ?_ ?_)
        · rwa [hsame i₀ rfl]
        · rwa [hsame i₀ rfl]
    · have heq : ∀ i j, h.hand i = a → h.hand j = c → h.kind i = h.kind i₀ →
          h.kind j = h.kind i₀ → x i = x j := by
        intro i j hia hjc hik hjk
        by_contra hij
        exact hcross ⟨i, j, hia, hjc, hik, hjk, hij⟩
      refine t.freed_of_const hp hi hk hz hzk (fun i hib hik => ?_) hne
      rcases eq_or_ne i z with rfl | hiz
      · rfl
      rcases t.hand_outer hib with hia | hic <;> rcases t.hand_outer hz with hza | hzc
      · obtain ⟨w, hw, hwk⟩ := exists_of_two hia hza hik hzk hiz c
        rw [heq i w hia hw hik hwk, heq z w hza hw hzk hwk]
      · exact heq i z hia hzc hik hzk
      · exact (heq z i hza hic hzk hik).symm
      · obtain ⟨w, hw, hwk⟩ := exists_of_two hic hzc hik hzk hiz a
        rw [← heq w i hw hic hwk hik, heq w z hw hzc hwk hzk]
  · have hends : x z = 0 ∨ x z = d := by
      rw [hγ.level z (t.hand_outer hz)]
      split
      · exact Or.inr rfl
      · exact Or.inl rfl
    obtain ⟨h0, hd⟩ := not_ends hne hends
    by_cases hk : h.kind i₀ = γ
    · exact t.freed_of_level hγ hi hk h0 hd
    · refine .of_dual (t.dual.freed_of_level hγ.dual hi (Bool.eq_not_of_ne hk) ?_ ?_) <;> omega

end Volleyer.Hands
