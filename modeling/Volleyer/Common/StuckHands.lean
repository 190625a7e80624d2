import Volleyer.Common.FreedHands

/-!
# What is stuck nearly agrees

Values between `0` and `d` that are stuck agree modulo `d` within each
kind, but for one of them, or but for two kinds that do not agree and
cannot be dealt to every hand alike (`NearlyFits`). The sum of all is
then between `d` and `2 * d` modulo `3 * d`, beside what three hands of
agreeing values come to (`Stuck.nearlyFits`).
-/

namespace Volleyer.Hands

open Finset

variable {ι : Type*} [Fintype ι] {h : Hands ι} {x : ι → ℤ} {d β : ℤ} {a b c k : Fin 3}
  {i j z i₀ : ι} {γ : Bool} {v : Bool → ℤ}

/-- The places of a kind. -/
def total (h : Hands ι) (γ : Bool) : ℕ := #{i | h.kind i = γ}

/-- **Values that nearly agree**: all with those of their kind, or all but
one where the kinds agree too, or are dealt to every hand alike. -/
def NearlyFits (h : Hands ι) (d : ℤ) (x : ι → ℤ) (v : Bool → ℤ) : Prop :=
  (∀ i, x i ≡ v (h.kind i) [ZMOD d]) ∨
    (v true ≡ v false [ZMOD d] ∨ ∀ k j, h.count k true = h.count j true) ∧
      ∃ i₀, ∀ i, i ≠ i₀ → x i ≡ v (h.kind i) [ZMOD d]

/-- What nearly agrees does so in any arrangement. -/
theorem NearlyFits.of_comp {σ : Equiv.Perm ι} (hσ : h.Keeps σ) (hfits : h.NearlyFits d (x ∘ σ) v) :
    h.NearlyFits d x v := by
  have hback : ∀ i, (x ∘ σ) (σ.symm i) ≡ v (h.kind (σ.symm i)) [ZMOD d] →
      x i ≡ v (h.kind i) [ZMOD d] := by
    intro i hi
    have hkind := hσ (σ.symm i)
    rw [Equiv.apply_symm_apply] at hkind
    rwa [Function.comp_apply, Equiv.apply_symm_apply, ← hkind] at hi
  rcases hfits with hall | ⟨halike, i₀, hone⟩
  · exact Or.inl fun i => hback i (hall _)
  · refine Or.inr ⟨halike, σ i₀, fun i hne => hback i (hone _ fun heq => hne ?_)⟩
    rw [← heq, Equiv.apply_symm_apply]

theorem total_eq (hab : a ≠ b) (hbc : b ≠ c) (hac : a ≠ c) (γ : Bool) :
    h.total γ = h.count a γ + h.count b γ + h.count c γ := by
  have hcount : ∀ k, #{i ∈ ({i | h.kind i = γ} : Finset ι) | h.hand i = k} = h.count k γ := by
    intro k
    rw [Finset.filter_filter]
    exact congrArg Finset.card (Finset.filter_congr fun i _ => and_comm)
  rw [total, Finset.card_eq_sum_card_fiberwise fun i _ => Finset.mem_coe.2 (Finset.mem_univ (h.hand i)),
    sum_three _ hab hbc hac, hcount, hcount, hcount]

theorem sum_eq (hab : a ≠ b) (hbc : b ≠ c) (hac : a ≠ c) :
    ∑ i, x i = h.share x a + h.share x b + h.share x c := by
  rw [← sum_three (h.share x) hab hbc hac]
  exact (Finset.sum_fiberwise Finset.univ h.hand x).symm

theorem count_true_ne {k j : Fin 3} (hne : h.count k γ ≠ h.count j γ) :
    h.count k true ≠ h.count j true := by
  have hk := h.count_add_count k
  have hj := h.count_add_count j
  cases γ
  · omega
  · exact hne

variable [DecidableEq ι]

/-- Where the middle hand agrees with the outer ones wherever they have a
kind, the values nearly agree. -/
theorem Tight.nearlyFits_of_agree (t : h.Tight d x a b c β)
    (hagree : ∀ i z, h.hand i = b → h.hand z ≠ b → h.kind z = h.kind i → x i ≡ x z [ZMOD d]) :
    ∃ v, h.NearlyFits d x v ∧ ∀ i, h.hand i ≠ b → x i ≡ v (h.kind i) [ZMOD d] := by
  obtain ⟨v, hv, habsent⟩ := t.exists_fit
  refine ⟨v, ?_, hv⟩
  have hfit : ∀ i z, h.hand z ≠ b → h.kind z = h.kind i → x i ≡ v (h.kind i) [ZMOD d] := by
    intro i z hz hzk
    by_cases hib : h.hand i = b
    · exact (hagree i z hib hz hzk).trans (hzk ▸ hv z hz)
    · exact hv i hib
  by_cases hall : ∃ γ, ∀ i, h.hand i ≠ b → h.kind i ≠ γ
  · -- of a kind that the outer hands do not have there is one at most
    have heq : v true = v false := habsent hall
    obtain ⟨γ, hγ⟩ := hall
    have hother : ∀ i, h.kind i ≠ γ → x i ≡ v (h.kind i) [ZMOD d] := by
      intro i hiγ
      obtain ⟨z, hz⟩ := h.exists_hand i a
      have hzb : h.hand z ≠ b := hz ▸ t.ab
      refine hfit i z hzb ?_
      rw [Bool.eq_not_of_ne (hγ z hzb), Bool.eq_not_of_ne hiγ]
    by_cases hsome : ∃ i₀, h.kind i₀ = γ
    · obtain ⟨i₀, hi₀⟩ := hsome
      have hmid : ∀ i, h.kind i = γ → h.hand i = b := fun i hi => by
        by_contra hib
        exact hγ i hib hi
      refine Or.inr ⟨Or.inl (heq ▸ rfl), i₀, fun i hne => hother i fun hi => ?_⟩
      obtain ⟨z, hz, hzγ⟩ := exists_of_two (hmid i hi) (hmid i₀ hi₀) hi hi₀ hne a
      exact hγ z (hz ▸ t.ab) hzγ
    · exact Or.inl fun i => hother i fun hi => hsome ⟨i, hi⟩
  · left
    intro i
    by_contra hnot
    exact hall ⟨h.kind i, fun z hz hzk => hnot (hfit i z hz hzk)⟩

/-! ## Where a value is freed -/

theorem modEq_kinds (hv : v true ≡ v false [ZMOD d]) (γ γ' : Bool) : v γ ≡ v γ' [ZMOD d] := by
  cases γ <;> cases γ'
  · rfl
  · exact hv.symm
  · exact hv
  · rfl

omit [DecidableEq ι] in
/-- Hands that differ in their counts are outer ones where the third is in
the middle. -/
theorem Tight.count_ne (t : h.Tight d x a b c β) {e f : Fin 3} (he : e ≠ b) (hf : f ≠ b)
    (hne : h.count e γ ≠ h.count f γ) : h.count a true ≠ h.count c true := by
  have hpair : ∀ a b c e f : Fin 3, a ≠ b → b ≠ c → a ≠ c → e ≠ b → f ≠ b → e ≠ f →
      e = a ∧ f = c ∨ e = c ∧ f = a := by decide
  have hef : e ≠ f := fun heq => hne (by rw [heq])
  rcases hpair a b c e f t.ab t.bc t.ac he hf hef with ⟨rfl, rfl⟩ | ⟨rfl, rfl⟩
  · exact count_true_ne hne
  · exact (count_true_ne hne).symm

theorem exists_third : ∀ b f : Fin 3, ∃ e, e ≠ b ∧ e ≠ f := by decide

variable {σ : Equiv.Perm ι} {a' f c' : Fin 3} {β' : ℤ}

omit [DecidableEq ι] in
/-- Only the freed value comes from the middle hand to the new one. -/
theorem hand_ne_of_fix (hfix : ∀ i, h.hand i = b → i ≠ i₀ → σ i = i)
    (hf : h.hand (σ.symm i₀) = f) (hib : h.hand i ≠ b) (hif : h.hand i ≠ f) :
    h.hand (σ i) ≠ b := by
  intro hσi
  by_cases heq : σ i = i₀
  · exact hif (by rw [← hf, ← heq, Equiv.symm_apply_apply])
  · exact hib (σ.injective (hfix (σ i) hσi heq) ▸ hσi)

omit [DecidableEq ι] in
/-- Where the third hand does not have a kind that the new middle hand
has, the kinds agree, before and after. -/
theorem Tight.modEq_of_count_eq_zero (t : h.Tight d x a b c β) (t' : h.Tight d (x ∘ σ) a' f c' β')
    (hfb : f ≠ b) {e : Fin 3} (heb : e ≠ b) (hef : e ≠ f) {w : Bool → ℤ}
    (hw : ∀ i, h.hand i ≠ b → x i ≡ w (h.kind i) [ZMOD d])
    (hv : ∀ i, h.hand i ≠ f → (x ∘ σ) i ≡ v (h.kind i) [ZMOD d])
    (habsent : (∃ γ, ∀ i, h.hand i ≠ f → h.kind i ≠ γ) → v true = v false)
    (he0 : h.count e γ = 0) (hf1 : 1 ≤ h.count f γ) :
    w true ≡ w false [ZMOD d] ∧ v true ≡ v false [ZMOD d] := by
  refine ⟨t.congr_kinds hw (t.count_ne (γ := γ) heb hfb (by omega)), ?_⟩
  by_cases hb0 : h.count b γ = 0
  · have hnone : ∃ γ, ∀ i, h.hand i ≠ f → h.kind i ≠ γ := by
      refine ⟨γ, fun i hif hiγ => ?_⟩
      rcases eq_of_three hfb.symm hef.symm heb.symm (h.hand i) with hib | hif' | hie
      · have hpos := count_pos hib hiγ
        omega
      · exact hif hif'
      · have hpos := count_pos hie hiγ
        omega
    rw [habsent hnone]
  · exact t'.congr_kinds hv (t'.count_ne (γ := γ) hfb.symm hef (by omega))

/-- **Where a value is freed, all others agree.** -/
theorem Tight.modEq_of_freed (t : h.Tight d x a b c β) (t' : h.Tight d (x ∘ σ) a' f c' β')
    (hσ : h.Keeps σ) (hfix : ∀ i, h.hand i = b → i ≠ i₀ → σ i = i) (hout : h.hand (σ i₀) ≠ b)
    (hfb : f ≠ b) (hf : h.hand (σ.symm i₀) = f) (hi₀ : h.hand i₀ = b)
    (hv : ∀ i, h.hand i ≠ f → (x ∘ σ) i ≡ v (h.kind i) [ZMOD d])
    (habsent : (∃ γ, ∀ i, h.hand i ≠ f → h.kind i ≠ γ) → v true = v false) (hne : i ≠ i₀) :
    x i ≡ v (h.kind i) [ZMOD d] := by
  have hki : h.kind (σ.symm i) = h.kind i := by
    have hkind := hσ (σ.symm i)
    rwa [Equiv.apply_symm_apply, eq_comm] at hkind
  by_cases hif : h.hand (σ.symm i) = f
  · -- what was swapped into the new middle hand was in an outer one before
    have hib : h.hand i ≠ b := by
      intro hib
      have hsymm : σ.symm i = i := by rw [Equiv.symm_apply_eq, hfix i hib hne]
      rw [hsymm, hib] at hif
      exact hfb hif.symm
    by_cases hplace : ∃ z, h.hand z ≠ f ∧ h.hand (σ z) ≠ b ∧ h.kind z = h.kind i
    · obtain ⟨z, hzf, hσz, hzk⟩ := hplace
      have hvz := hv z hzf
      rw [hzk] at hvz
      exact (t.congr_outer hib hσz (hzk.symm.trans (hσ z).symm)).trans hvz
    · obtain ⟨w, hw, -⟩ := t.exists_fit
      obtain ⟨e, heb, hef⟩ := exists_third b f
      have he0 : h.count e (h.kind i) = 0 := by
        by_contra hpos
        obtain ⟨z, hze, hzk⟩ := exists_of_count_pos (Nat.pos_of_ne_zero hpos)
        exact hplace ⟨z, hze ▸ hef, hand_ne_of_fix hfix hf (hze ▸ heb) (hze ▸ hef), hzk⟩
      obtain ⟨hwkinds, hvkinds⟩ :=
        t.modEq_of_count_eq_zero t' hfb heb hef hw hv habsent he0 (count_pos hif hki)
      calc x i ≡ w (h.kind i) [ZMOD d] := hw i hib
        _ ≡ w (h.kind (σ i₀)) [ZMOD d] := modEq_kinds hwkinds _ _
        _ ≡ x (σ i₀) [ZMOD d] := (hw (σ i₀) hout).symm
        _ ≡ v (h.kind i₀) [ZMOD d] := hv i₀ (hi₀ ▸ hfb.symm)
        _ ≡ v (h.kind i) [ZMOD d] := modEq_kinds hvkinds _ _
  · have hvi := hv (σ.symm i) hif
    rwa [Function.comp_apply, Equiv.apply_symm_apply, hki] at hvi

theorem Tight.nearlyFits_of_freed (t : h.Tight d x a b c β) (hi₀ : h.hand i₀ = b)
    (hfreed : h.Freed d x b i₀) :
    ∃ v, h.NearlyFits d x v ∧ ∀ i, h.hand i ≠ b → x i ≡ v (h.kind i) [ZMOD d] := by
  obtain ⟨σ, hσ, hfix, hout, a', f, c', β', hfb, hf, t'⟩ := hfreed
  obtain ⟨v, hv, habsent⟩ := t'.exists_fit
  have hfit : ∀ i, i ≠ i₀ → x i ≡ v (h.kind i) [ZMOD d] := fun i hne =>
    t.modEq_of_freed t' hσ hfix hout hfb hf hi₀ hv habsent hne
  have hfitb : ∀ i, h.hand i ≠ b → x i ≡ v (h.kind i) [ZMOD d] := fun i hib =>
    hfit i fun heq => hib (heq ▸ hi₀)
  refine ⟨v, Or.inr ⟨?_, i₀, hfit⟩, hfitb⟩
  -- two hands that differ are outer ones before or after
  obtain ⟨e, heb, hef⟩ := exists_third b f
  by_cases hbefore : h.count e true = h.count f true
  · by_cases hafter : h.count b true = h.count e true
    · right
      have hsame : ∀ k, h.count k true = h.count e true := by
        intro k
        rcases eq_of_three hfb.symm hef.symm heb.symm k with rfl | rfl | rfl
        · exact hafter
        · exact hbefore.symm
        · rfl
      exact fun k j => (hsame k).trans (hsame j).symm
    · exact Or.inl (t'.congr_kinds hv (t'.count_ne hfb.symm hef hafter))
  · exact Or.inl (t.congr_kinds hfitb (t.count_ne heb hfb hbefore))

/-- **The values of a tight arrangement nearly agree**, and those of the
outer hands do. -/
theorem Tight.nearlyFits (t : h.Tight d x a b c β) :
    ∃ v, h.NearlyFits d x v ∧ ∀ i, h.hand i ≠ b → x i ≡ v (h.kind i) [ZMOD d] := by
  by_cases hall : ∀ i z, h.hand i = b → h.hand z ≠ b → h.kind z = h.kind i → x i ≡ x z [ZMOD d]
  · exact t.nearlyFits_of_agree hall
  · push Not at hall
    obtain ⟨i₀, z, hi₀, hz, hzk, hne⟩ := hall
    exact t.nearlyFits_of_freed hi₀ (t.freed hi₀ hz hzk hne)

/-! ## The sum -/

/-- The places of a kind that most hands have. -/
def most (h : Hands ι) (γ : Bool) : ℕ := (h.total γ + 1) / 3

omit [DecidableEq ι] in
theorem most_add_most : h.most true + h.most false = h.size := by
  have htrue := h.total_eq (a := 0) (b := 1) (c := 2) (by decide) (by decide) (by decide) true
  have hfalse := h.total_eq (a := 0) (b := 1) (c := 2) (by decide) (by decide) (by decide) false
  have h0 := h.count_add_count 0
  have h1 := h.count_add_count 1
  have h2 := h.count_add_count 2
  unfold most
  omega

omit [DecidableEq ι] in
/-- Two hands with as many places of a kind have what most hands have. -/
theorem count_eq_most (hab : a ≠ b) (hbc : b ≠ c) (hac : a ≠ c)
    (heq : h.count a true = h.count c true) : h.count c true = h.most true := by
  have htotal := h.total_eq hab hbc hac true
  have hbc := h.count_le true b c
  have hcb := h.count_le true c b
  unfold most
  omega

omit [DecidableEq ι] in
/-- The last hand comes to what agreeing values come to in most hands. -/
theorem Tight.share_modEq (t : h.Tight d x a b c β)
    (hv : ∀ i, h.hand i ≠ b → x i ≡ v (h.kind i) [ZMOD d]) :
    h.share x c ≡ h.most true * v true + h.most false * v false [ZMOD d] := by
  have hshare : h.share x c ≡ h.share (fun i => v (h.kind i)) c [ZMOD d] :=
    Hands.share_modEq fun i hi => hv i (hi ▸ t.bc.symm)
  refine hshare.trans ?_
  rw [h.share_kind]
  by_cases hcount : h.count c true = h.most true
  · have hfalse : h.count c false = h.most false := by
      have hsize := h.count_add_count c
      have hmost := h.most_add_most
      omega
    rw [hcount, hfalse]
  · have hkinds := t.congr_kinds hv fun heq => hcount (count_eq_most t.ab t.bc t.ac heq)
    have halike : ∀ m n : ℕ, (m * v true + n * v false : ℤ) ≡ (m + n : ℕ) * v false [ZMOD d] := by
      intro m n
      rw [Nat.cast_add, add_mul]
      exact (hkinds.mul_left m).add_right _
    refine (halike _ _).trans ?_
    rw [h.count_add_count, ← h.most_add_most]
    exact (halike _ _).symm

/-- **What is stuck nearly agrees**, and its sum is between `d` and
`2 * d` beside what agreeing values come to. -/
theorem Stuck.nearlyFits (hs : h.Stuck d x) (hd : 0 < d) (hx : ∀ i, 0 ≤ x i ∧ x i ≤ d) :
    ∃ v, h.NearlyFits d x v ∧
      d ≤ (∑ i, x i - 3 * (h.most true * v true + h.most false * v false)) % (3 * d) ∧
      (∑ i, x i - 3 * (h.most true * v true + h.most false * v false)) % (3 * d) ≤ 2 * d := by
  obtain ⟨σ, hσ, a, b, c, β, t⟩ := exists_tight hs hd hx
  obtain ⟨v, hfits, hv⟩ := t.nearlyFits
  refine ⟨v, hfits.of_comp hσ, ?_⟩
  obtain ⟨e, he⟩ := Int.modEq_iff_dvd.1 (t.share_modEq hv).symm
  have hsum : ∑ i, x i = h.share (x ∘ σ) a + h.share (x ∘ σ) b + h.share (x ∘ σ) c := by
    rw [← h.sum_eq t.ab t.bc t.ac]
    exact (Equiv.sum_comp σ x).symm
  have htop := t.top
  have hmid := t.mid
  have hβ := t.mid_range
  have hrem : ∑ i, x i - 3 * (h.most true * v true + h.most false * v false) =
      d + β + 3 * d * e := by
    rw [hsum]
    linear_combination 3 * he + htop + hmid
  rw [hrem, Int.add_mul_emod_self_left, Int.emod_eq_of_lt (by omega) (by omega)]
  omega

end Volleyer.Hands
