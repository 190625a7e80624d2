import Mathlib.Data.List.FinRange
import Volleyer.Common.StuckHands
import Volleyer.Team.Doomed

/-!
# When the loop can stop

Eighteen players in the order of gender stand at eighteen places of three
hands. Values that change places within a gender are what other shuffles
deal, so where no shuffle is close the totals are stuck
(`stuck_of_not_close`), and stuck totals are those of doomed players. The
others have a close shuffle, and no others (`exists_close_iff`).
-/

namespace Volleyer

variable {players xs : List User}

/-- **Eighteen players in line**, the men first. -/
structure Lined (xs : List User) : Prop where
  length : xs.length = 18
  sorted : xs.Pairwise fun a b => a.gender ≤ b.gender
  gender : ∀ p ∈ xs, p.gender = 0 ∨ p.gender = 1

namespace Lined

/-- The sort of a kind. -/
theorem kind_iff (hx : Lined xs) (i : Fin xs.length) (γ : Bool) :
    decide ((xs.get i).gender = 1) = γ ↔ (xs.get i).gender = if γ then 1 else 0 := by
  have hi := hx.gender _ (xs.get_mem i)
  cases γ
  · rw [decide_eq_false_iff_not]
    constructor
    · exact fun hne => hi.resolve_right hne
    · intro h0 h1
      rw [h1] at h0
      cases h0
  · exact decide_eq_true_iff

/-- The places of a sort in a hand. -/
theorem card_places (xs : List User) (k : Fin 3) (p : User → Bool) :
    (Finset.univ.filter fun i : Fin xs.length => Fin.ofNat 3 i.val = k ∧ p (xs.get i) = true).card =
      (team k xs).countP p := by
  have hcount := countP_hand_ofFn (n := 3) (k := k) (o := 0) xs.get p
  rw [List.ofFn_get] at hcount
  rw [team, hcount]
  congr 1
  refine Finset.filter_congr fun i _ => and_congr_left fun _ => ?_
  rw [Fin.ext_iff, Fin.val_ofNat, Nat.zero_add]

/-- The places of a gender in a hand. -/
theorem card_gender (hx : Lined xs) (k : Fin 3) (γ : Bool) :
    (Finset.univ.filter fun i : Fin xs.length => Fin.ofNat 3 i.val = k ∧
      decide ((xs.get i).gender = 1) = γ).card =
      (team k xs).countP (·.gender = if γ then 1 else 0) := by
  rw [← card_places]
  congr 1
  refine Finset.filter_congr fun i _ => and_congr_right fun _ => ?_
  rw [hx.kind_iff, decide_eq_true_iff]

/-- **The places of players in line**: turn by turn, and by gender. -/
def places (hx : Lined xs) : Hands (Fin xs.length) where
  hand i := Fin.ofNat 3 i.val
  kind i := decide ((xs.get i).gender = 1)
  size := 6
  card_hand k := by
    have hcard := card_places xs k fun _ => true
    rw [List.countP_true] at hcard
    simp only [and_true] at hcard
    rw [hcard]
    exact length_hand_of_dvd k.isLt (by rw [hx.length])
  card_kind_le γ k j := by
    rw [hx.card_gender, hx.card_gender]
    exact countP_hand_le hx.sorted k.isLt j.isLt _

/-- What stands at the places. -/
def totals (_ : Lined xs) (i : Fin xs.length) : ℤ := levelTotal (xs.get i)

/-- A share is what a team comes to. -/
theorem share_eq (hx : Lined xs) (σ : Equiv.Perm (Fin xs.length)) (k : Fin 3) :
    hx.places.share (hx.totals ∘ σ) k = teamTotal (team k (List.ofFn (xs.get ∘ σ))) := by
  rw [teamTotal, team, sum_map_hand_ofFn]
  refine Finset.sum_congr (Finset.filter_congr fun i _ => ?_) fun i _ => rfl
  rw [Nat.zero_add, Fin.ext_iff]
  rfl

/-- The players in other places of their gender are in line. -/
theorem sortByGender_ofFn (hx : Lined xs) {σ : Equiv.Perm (Fin xs.length)}
    (hσ : hx.places.Keeps σ) :
    sortByGender (List.ofFn (xs.get ∘ σ)) = List.ofFn (xs.get ∘ σ) := by
  have hgender : ∀ i, (xs.get (σ i)).gender = (xs.get i).gender := by
    intro i
    have hi := (hx.kind_iff i _).1 rfl
    rw [hi]
    exact (hx.kind_iff (σ i) _).1 (hσ i)
  refine List.Pairwise.insertionSort_eq (List.pairwise_ofFn.2 fun i j hij => ?_)
  rw [Function.comp_apply, Function.comp_apply, hgender, hgender]
  exact List.pairwise_iff_get.1 hx.sorted i j hij

theorem ofFn_perm (σ : Equiv.Perm (Fin xs.length)) : (List.ofFn (xs.get ∘ σ)).Perm xs := by
  have hofFn := σ.ofFn_comp_perm xs.get
  rwa [List.ofFn_get] at hofFn

/-- **Where no shuffle is close the totals are stuck.** -/
theorem stuck_of_not_close (hx : Lined xs) (hxs : xs.Perm players)
    (hnot : ¬∃ shuffled : Shuffled players, Close (sortByGender shuffled.1)) :
    hx.places.Stuck 15 hx.totals := by
  intro σ hσ
  by_contra hclose
  push Not at hclose
  refine hnot ⟨⟨_, (ofFn_perm σ).trans hxs⟩, ?_⟩
  rw [hx.sortByGender_ofFn hσ]
  intro g hg g' hg'
  obtain ⟨k, hk, rfl⟩ := mem_teams.1 hg
  obtain ⟨j, hj, rfl⟩ := mem_teams.1 hg'
  have hlt := hclose ⟨k, hk⟩ ⟨j, hj⟩
  rw [hx.share_eq, hx.share_eq] at hlt
  exact hlt

/-! ## What stuck totals are -/

theorem total_eq (hx : Lined xs) (γ : Bool) :
    hx.places.total γ = xs.countP (·.gender = if γ then 1 else 0) := by
  have hcount : ∀ k : Fin 3, hx.places.count k γ = (team k xs).countP (·.gender = if γ then 1 else 0) :=
    fun k => hx.card_gender k γ
  rw [hx.places.total_eq (a := 0) (b := 1) (c := 2) (by decide) (by decide) (by decide), hcount,
    hcount, hcount]
  exact (countP_teams _ xs).symm

theorem sum_totals (hx : Lined xs) : ∑ i, hx.totals i = teamTotal xs := by
  have hsum : (List.ofFn hx.totals).sum = ∑ i, hx.totals i := List.sum_ofFn
  have hmap : (List.ofFn xs.get).map levelTotal = List.ofFn hx.totals := List.map_ofFn
  rw [List.ofFn_get] at hmap
  rw [← hsum, ← hmap]
  rfl

variable {v : Bool → ℤ}

theorem levelOf_eq (hx : Lined xs) (v : Bool → ℤ) (i : Fin xs.length) :
    levelOf (v false) (v true) (xs.get i) = v (hx.places.kind i) := by
  have hi := (hx.kind_iff i _).1 rfl
  show (if (xs.get i).gender = 0 then v false else v true) = v (decide ((xs.get i).gender = 1))
  rw [hi]
  cases decide ((xs.get i).gender = 1) <;> rfl

/-- Where the totals agree with those of their gender, but for those of a
list, so do the players. -/
theorem exceptions_eq_zero (hx : Lined xs)
    (hfits : ∀ i, hx.totals i ≡ v (hx.places.kind i) [ZMOD 15]) :
    exceptions (v false) (v true) xs = 0 := by
  rw [exceptions, List.countP_eq_zero]
  intro p hp
  obtain ⟨i, rfl⟩ := List.get_of_mem hp
  have hi : levelTotal (xs.get i) % 15 = v (hx.places.kind i) % 15 := hfits i
  rw [hx.levelOf_eq]
  simpa using hi

theorem exceptions_le_one (hx : Lined xs) {i₀ : Fin xs.length}
    (hfits : ∀ i, i ≠ i₀ → hx.totals i ≡ v (hx.places.kind i) [ZMOD 15]) :
    exceptions (v false) (v true) xs ≤ 1 := by
  have hperm := List.getElem_cons_eraseIdx_perm i₀.isLt
  have hrest : exceptions (v false) (v true) (xs.eraseIdx i₀) = 0 := by
    rw [exceptions, List.countP_eq_zero]
    intro p hp
    obtain ⟨i, hi, hne, rfl⟩ := List.mem_eraseIdx_iff_getElem.1 hp
    have hfit : levelTotal (xs.get ⟨i, hi⟩) % 15 = v (hx.places.kind ⟨i, hi⟩) % 15 :=
      hfits ⟨i, hi⟩ fun heq => hne (congrArg Fin.val heq)
    have hlevel := hx.levelOf_eq v ⟨i, hi⟩
    rw [List.get_eq_getElem] at hfit hlevel
    rw [hlevel]
    simpa using hfit
  rw [← exceptions_perm hperm]
  unfold exceptions at hrest ⊢
  rw [List.countP_cons, hrest]
  split <;> omega

theorem doomedAt_of_stuck (hx : Lined xs) (hrange : ∀ p ∈ xs, 0 ≤ levelTotal p ∧ levelTotal p ≤ 15)
    (hstuck : hx.places.Stuck 15 hx.totals) : ∃ v₀ v₁ : ℤ, DoomedAt v₀ v₁ xs := by
  obtain ⟨v, hfits, hleast, hmost⟩ :=
    hstuck.nearlyFits (by omega) fun i => hrange _ (xs.get_mem i)
  have hteams : mostTeams (v false) (v true) xs =
      hx.places.most true * v true + hx.places.most false * v false := by
    unfold mostTeams Hands.most
    rw [hx.total_eq, hx.total_eq]
    exact add_comm _ _
  rw [hx.sum_totals, ← hteams] at hleast hmost
  refine ⟨v false, v true, ?_, hleast, hmost⟩
  rcases hfits with hall | ⟨halike, i₀, hone⟩
  · exact Or.inl (hx.exceptions_eq_zero hall)
  refine Or.inr ⟨hx.exceptions_le_one hone, ?_⟩
  rcases halike with hsame | hcount
  · exact Or.inl hsame.symm
  · right
    have hwomen := hx.total_eq true
    have hsum := hx.places.total_eq (a := 0) (b := 1) (c := 2) (by decide) (by decide) (by decide) true
    have h01 := hcount 0 1
    have h02 := hcount 0 2
    have hall := men_add_women hx.gender
    have hlength := hx.length
    have hsame : hx.places.total true = women xs := hwomen
    omega

end Lined

/-! ## The players as they come -/

theorem DoomedAt.perm {v₀ v₁ : ℤ} {ys : List User} (hd : DoomedAt v₀ v₁ xs) (h : xs.Perm ys) :
    DoomedAt v₀ v₁ ys := by
  obtain ⟨hnearly, hleast, hmost⟩ := hd
  have hwomen : women xs = women ys := h.countP_eq _
  have hteams : mostTeams v₀ v₁ xs = mostTeams v₀ v₁ ys := by
    unfold mostTeams
    rw [men_perm h, hwomen]
  rw [exceptions_perm h, men_perm h] at hnearly
  rw [teamTotal_perm h, hteams] at hleast hmost
  exact ⟨hnearly, hleast, hmost⟩

/-- The totals count modulo `15`. -/
theorem DoomedAt.doomed {v₀ v₁ : ℤ} (hd : DoomedAt v₀ v₁ players) : Doomed players := by
  have hfin : ∀ v : ℤ, ∃ w : Fin 15, (w : ℤ) = v % 15 := fun v =>
    ⟨⟨(v % 15).toNat, by omega⟩, by show ((v % 15).toNat : ℤ) = v % 15; omega⟩
  obtain ⟨w₀, hw₀⟩ := hfin v₀
  obtain ⟨w₁, hw₁⟩ := hfin v₁
  have hlevel : ∀ p, levelOf w₀ w₁ p % 15 = levelOf v₀ v₁ p % 15 := by
    intro p
    unfold levelOf
    split
    · rw [hw₀, Int.emod_emod]
    · rw [hw₁, Int.emod_emod]
  have hexceptions : exceptions w₀ w₁ players = exceptions v₀ v₁ players := by
    unfold exceptions
    simp only [hlevel]
  have hteams : (teamTotal players - 3 * mostTeams w₀ w₁ players) % 45 =
      (teamTotal players - 3 * mostTeams v₀ v₁ players) % 45 := by
    have h₀ := Int.emod_add_mul_ediv v₀ 15
    have h₁ := Int.emod_add_mul_ediv v₁ 15
    have hdiff : teamTotal players - 3 * mostTeams w₀ w₁ players =
        teamTotal players - 3 * mostTeams v₀ v₁ players +
          45 * (((men players + 1) / 3 : ℕ) * (v₀ / 15) +
            ((women players + 1) / 3 : ℕ) * (v₁ / 15)) := by
      unfold mostTeams
      rw [hw₀, hw₁]
      linear_combination (-3 * ((men players + 1) / 3 : ℕ) : ℤ) * h₀ -
        (3 * ((women players + 1) / 3 : ℕ) : ℤ) * h₁
    rw [hdiff, Int.add_mul_emod_self_left]
  obtain ⟨hnearly, hleast, hmost⟩ := hd
  refine ⟨w₀, w₁, ?_, ?_, ?_⟩
  · rw [hexceptions, hw₀, hw₁, Int.emod_emod, Int.emod_emod]
    exact hnearly
  · rw [hteams]
    exact hleast
  · rw [hteams]
    exact hmost

theorem levelTotal_range {p : User} (h : p.level.Within 3) :
    0 ≤ levelTotal p ∧ levelTotal p ≤ 15 := by
  rw [LevelRange.within_iff] at h
  unfold levelTotal
  omega

theorem lined_sortByGender (h18 : players.length = 18)
    (hgender : ∀ p ∈ players, p.gender = 0 ∨ p.gender = 1) : Lined (sortByGender players) where
  length := (perm_sortByGender players).length_eq.trans h18
  sorted := pairwise_sortByGender players
  gender p hp := hgender p ((perm_sortByGender players).mem_iff.1 hp)

/-- **Some shuffle is close** for eighteen men and women with levels from
`0` to `3` exactly where they are not doomed. -/
theorem exists_close_iff (h18 : players.length = 18)
    (hgender : ∀ p ∈ players, p.gender = 0 ∨ p.gender = 1)
    (hlevel : ∀ p ∈ players, p.level.Within 3) :
    (∃ shuffled : Shuffled players, Close (sortByGender shuffled.1)) ↔ ¬Doomed players := by
  constructor
  · rintro ⟨shuffled, hclose⟩ hdoomed
    exact not_close_of_doomed h18 hgender hdoomed shuffled.2 hclose
  · intro hdoomed
    by_contra hnot
    have hperm := perm_sortByGender players
    have hx := lined_sortByGender h18 hgender
    have hrange : ∀ p ∈ sortByGender players, 0 ≤ levelTotal p ∧ levelTotal p ≤ 15 := fun p hp =>
      levelTotal_range (hlevel p (hperm.mem_iff.1 hp))
    obtain ⟨v₀, v₁, hd⟩ := hx.doomedAt_of_stuck hrange (hx.stuck_of_not_close hperm hnot)
    exact hdoomed (hd.perm hperm).doomed

/-- **Half a level can always be met**, if not always undercut: the loop
would stop for all of them if it let the teams be half a level apart, as
the test of the function does. -/
theorem exists_maxAveDiff_le (h18 : players.length = 18)
    (hgender : ∀ p ∈ players, p.gender = 0 ∨ p.gender = 1)
    (hlevel : ∀ p ∈ players, p.level.Within 3) :
    ∃ shuffled : Shuffled players,
      maxAveDiff (deal (sortByGender shuffled.1)).levelSum ≤ 1 / 2 := by
  by_cases hclose : ∃ shuffled : Shuffled players, Close (sortByGender shuffled.1)
  · obtain ⟨shuffled, hclose⟩ := hclose
    exact ⟨shuffled, (maxAveDiff_lt_iff.2 hclose).le⟩
  · have hperm := perm_sortByGender players
    have hx := lined_sortByGender h18 hgender
    obtain ⟨σ, hσ, a, b, c, β, t⟩ := Hands.exists_tight (hx.stuck_of_not_close hperm hclose)
      (by omega) fun i => levelTotal_range (hlevel _ (hperm.mem_iff.1 (List.get_mem _ i)))
    refine ⟨⟨_, (Lined.ofFn_perm σ).trans hperm⟩, maxAveDiff_le ?_⟩
    rw [hx.sortByGender_ofFn hσ]
    have hshare : ∀ k, hx.places.share (hx.totals ∘ σ) c ≤ hx.places.share (hx.totals ∘ σ) k ∧
        hx.places.share (hx.totals ∘ σ) k ≤ hx.places.share (hx.totals ∘ σ) c + 15 := by
      intro k
      have htop := t.top
      have hmid := t.mid
      have hβ := t.mid_range
      rcases Hands.eq_of_three t.ab t.bc t.ac k with rfl | rfl | rfl <;> omega
    intro g hg g' hg'
    obtain ⟨k, hk, rfl⟩ := mem_teams.1 hg
    obtain ⟨j, hj, rfl⟩ := mem_teams.1 hg'
    have hteam : ∀ k (hk : k < 3), hx.places.share (hx.totals ∘ σ) ⟨k, hk⟩ =
        teamTotal (team k (List.ofFn ((sortByGender players).get ∘ σ))) := fun k hk =>
      hx.share_eq σ ⟨k, hk⟩
    have hk' := hshare ⟨k, hk⟩
    have hj' := hshare ⟨j, hj⟩
    rw [hteam k hk] at hk'
    rw [hteam j hj] at hj'
    omega

end Volleyer
