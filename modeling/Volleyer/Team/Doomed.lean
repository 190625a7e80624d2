import Mathlib.Data.Int.ModEq
import Volleyer.Model.Choices
import Volleyer.Team.Close

/-!
# Players no shuffle can split

The total of five levels from `0` to `3` is at most `15`, and so is what
two teams may not be apart. Where the totals of the men are all the same
modulo `15`, and those of the women, two teams of any deal come to the
same modulo `15`: less than `15` apart they come to the same, and what
all the players come to modulo `45` says how far the third is. One player
may have another total, or the men and the women be dealt unevenly, and
two teams are left that agree. `Doomed` is exactly that; no shuffle of
doomed players is close (`not_close_of_doomed`).
-/

namespace Volleyer

variable {players xs ys : List User} {v₀ v₁ : ℤ}

/-- What a player's total should be, by gender. -/
def levelOf (v₀ v₁ : ℤ) (player : User) : ℤ := if player.gender = 0 then v₀ else v₁

/-- The players whose total is another, modulo `15`. -/
def exceptions (v₀ v₁ : ℤ) (players : List User) : ℕ :=
  players.countP fun p => levelTotal p % 15 ≠ levelOf v₀ v₁ p % 15

def men (players : List User) : ℕ := players.countP (·.gender = 0)

def women (players : List User) : ℕ := players.countP (·.gender = 1)

/-- What most teams come to, modulo `15`. -/
def mostTeams (v₀ v₁ : ℤ) (players : List User) : ℤ :=
  ((men players + 1) / 3 : ℕ) * v₀ + ((women players + 1) / 3 : ℕ) * v₁

/-- **Players with two totals, one for each gender**, modulo `15`, but for
one of them where the totals are the same or the men make three equal
parts; and all together they are a third of the way round. -/
structure DoomedAt (v₀ v₁ : ℤ) (players : List User) : Prop where
  nearly : exceptions v₀ v₁ players = 0 ∨
    exceptions v₀ v₁ players ≤ 1 ∧ (v₀ % 15 = v₁ % 15 ∨ men players % 3 = 0)
  least : 15 ≤ (teamTotal players - 3 * mostTeams v₀ v₁ players) % 45
  most : (teamTotal players - 3 * mostTeams v₀ v₁ players) % 45 ≤ 30

/-- **Doomed players**, for some totals from `0` to `14`. -/
def Doomed (players : List User) : Prop := ∃ v₀ v₁ : Fin 15, DoomedAt v₀ v₁ players

instance (v₀ v₁ : ℤ) (players : List User) : Decidable (DoomedAt v₀ v₁ players) :=
  decidable_of_iff (_ ∧ _ ∧ _) ⟨fun h => ⟨h.1, h.2.1, h.2.2⟩, fun h => ⟨h.nearly, h.least, h.most⟩⟩

instance : DecidablePred Doomed := fun players =>
  inferInstanceAs (Decidable (∃ v₀ v₁ : Fin 15, DoomedAt v₀ v₁ players))

theorem exceptions_perm (h : xs.Perm ys) : exceptions v₀ v₁ xs = exceptions v₀ v₁ ys := h.countP_eq _

theorem men_perm (h : xs.Perm ys) : men xs = men ys := h.countP_eq _

theorem teamTotal_perm (h : xs.Perm ys) : teamTotal xs = teamTotal ys := (h.map _).sum_eq

theorem men_add_women (h : ∀ p ∈ xs, p.gender = 0 ∨ p.gender = 1) :
    men xs + women xs = xs.length := by
  induction xs with
  | nil => rfl
  | cons p xs ih =>
    have hrest := ih fun p' hp' => h p' (List.mem_cons_of_mem p hp')
    unfold men women at hrest ⊢
    rw [List.countP_cons, List.countP_cons, List.length_cons]
    rcases h p List.mem_cons_self with hp | hp
    · simp only [hp, decide_true, if_true, zero_ne_one, decide_false, Bool.false_eq_true, if_false]
      omega
    · simp only [hp, decide_true, if_true, one_ne_zero, decide_false, Bool.false_eq_true, if_false]
      omega

/-- **A team of players who agree** comes to what its men and its women
come to. -/
theorem teamTotal_modEq (h : ∀ p ∈ xs, p.gender = 0 ∨ p.gender = 1) (hodd : exceptions v₀ v₁ xs = 0) :
    teamTotal xs ≡ men xs * v₀ + women xs * v₁ [ZMOD 15] := by
  induction xs with
  | nil =>
    have hnone : teamTotal [] = 0 := rfl
    have hmen : men [] = 0 := rfl
    have hwomen : women [] = 0 := rfl
    rw [hnone, hmen, hwomen, Nat.cast_zero, zero_mul, zero_mul, add_zero]
  | cons p xs ih =>
    have hall := List.countP_eq_zero.1 hodd
    have hp : levelTotal p % 15 = levelOf v₀ v₁ p % 15 := by
      simpa using hall p List.mem_cons_self
    have hrest := ih (fun p' hp' => h p' (List.mem_cons_of_mem p hp'))
      (List.countP_eq_zero.2 fun p' hp' => hall p' (List.mem_cons_of_mem p hp'))
    have htotal : teamTotal (p :: xs) = levelTotal p + teamTotal xs := List.sum_cons
    have hcount : (men (p :: xs) * v₀ + women (p :: xs) * v₁ : ℤ) =
        levelOf v₀ v₁ p + (men xs * v₀ + women xs * v₁) := by
      unfold men women levelOf
      rw [List.countP_cons, List.countP_cons]
      rcases h p List.mem_cons_self with hp | hp
      · simp only [hp, decide_true, if_true, zero_ne_one, decide_false, Bool.false_eq_true, if_false]
        push_cast
        ring
      · simp only [hp, decide_true, if_true, one_ne_zero, decide_false, Bool.false_eq_true, if_false]
        push_cast
        ring
    rw [htotal, hcount]
    exact Int.ModEq.add hp hrest

/-! ## The three teams -/

/-- Three teams have the players of a sort. -/
theorem countP_teams (p : User → Bool) (xs : List User) :
    xs.countP p = (team 0 xs).countP p + (team 1 xs).countP p + (team 2 xs).countP p := by
  rw [← (flatten_teams xs).countP_eq, teams, List.flatten_cons, List.flatten_cons,
    List.flatten_cons, List.flatten_nil, List.append_nil, List.countP_append, List.countP_append,
    Nat.add_assoc]

theorem teamTotal_teams (xs : List User) :
    teamTotal xs = teamTotal (team 0 xs) + teamTotal (team 1 xs) + teamTotal (team 2 xs) := by
  rw [← teamTotal_perm (flatten_teams xs), teams, List.flatten_cons, List.flatten_cons,
    List.flatten_cons, List.flatten_nil, List.append_nil, teamTotal_append, teamTotal_append,
    add_assoc]

/-- Of eighteen players a team without an exception comes to what most
teams do, where it has as many men, or the totals are the same. -/
theorem teamTotal_team_modEq (h18 : players.length = 18)
    (hgender : ∀ p ∈ players, p.gender = 0 ∨ p.gender = 1)
    (hxs : ∀ p ∈ xs, p.gender = 0 ∨ p.gender = 1) (h6 : xs.length = 6)
    (hnone : exceptions v₀ v₁ xs = 0)
    (hmen : men xs = (men players + 1) / 3 ∨ v₀ % 15 = v₁ % 15) :
    teamTotal xs % 15 = mostTeams v₀ v₁ players % 15 := by
  have hall := men_add_women hgender
  have hsix := men_add_women hxs
  refine (teamTotal_modEq hxs hnone).trans ?_
  unfold mostTeams
  rcases hmen with hmen | hsame
  · have hwomen : women xs = (women players + 1) / 3 := by omega
    rw [hmen, hwomen]
  · have halike : ∀ m n : ℕ, (m * v₀ + n * v₁ : ℤ) ≡ (m + n : ℕ) * v₁ [ZMOD 15] := by
      intro m n
      rw [Nat.cast_add, add_mul]
      exact (Int.ModEq.mul_left m hsame).add_right _
    have hsum : men xs + women xs = (men players + 1) / 3 + (women players + 1) / 3 := by omega
    refine (halike _ _).trans ?_
    rw [hsum]
    exact (halike _ _).symm

/-- Of three two are left where no two fail. -/
theorem two_of_three {p : ℕ → Prop} (h : ∀ k < 3, ∀ j < 3, k ≠ j → p k ∨ p j) :
    ∃ k < 3, ∃ j < 3, k ≠ j ∧ p k ∧ p j := by
  rcases h 0 (by omega) 1 (by omega) (by omega) with h0 | h1
  · rcases h 1 (by omega) 2 (by omega) (by omega) with h1 | h2
    · exact ⟨0, by omega, 1, by omega, by omega, h0, h1⟩
    · exact ⟨0, by omega, 2, by omega, by omega, h0, h2⟩
  · rcases h 0 (by omega) 2 (by omega) (by omega) with h0 | h2
    · exact ⟨0, by omega, 1, by omega, by omega, h0, h1⟩
    · exact ⟨1, by omega, 2, by omega, by omega, h1, h2⟩

/-- Two of three and the third, `3 - k - j`, are all of them. -/
theorem sum_third {M : Type*} [AddCommMonoid M] (f : ℕ → M) {k j : ℕ} (hk : k < 3) (hj : j < 3)
    (hkj : k ≠ j) : f 0 + f 1 + f 2 = f k + f j + f (3 - k - j) := by
  have hcases : k = 0 ∧ j = 1 ∨ k = 1 ∧ j = 0 ∨ k = 0 ∧ j = 2 ∨ k = 2 ∧ j = 0 ∨
      k = 1 ∧ j = 2 ∨ k = 2 ∧ j = 1 := by omega
  rcases hcases with ⟨rfl, rfl⟩ | ⟨rfl, rfl⟩ | ⟨rfl, rfl⟩ | ⟨rfl, rfl⟩ | ⟨rfl, rfl⟩ | ⟨rfl, rfl⟩ <;>
    simp only [Nat.reduceSub] <;> abel

section Deal

variable (h18 : players.length = 18) (hgender : ∀ p ∈ players, p.gender = 0 ∨ p.gender = 1)
  (hxs : xs.Perm players) {k j : ℕ} (hk : k < 3) (hj : j < 3) (hkj : k ≠ j)

include h18 hgender hxs hk

theorem teamTotal_deal_modEq (hnone : exceptions v₀ v₁ (team k (sortByGender xs)) = 0)
    (hmen : men (team k (sortByGender xs)) = (men players + 1) / 3 ∨ v₀ % 15 = v₁ % 15) :
    teamTotal (team k (sortByGender xs)) % 15 = mostTeams v₀ v₁ players % 15 := by
  have hperm : (sortByGender xs).Perm players := (perm_sortByGender xs).trans hxs
  have hlength : (sortByGender xs).length = 3 * 6 := by rw [hperm.length_eq, h18]
  have hteam : ∀ p ∈ team k (sortByGender xs), p.gender = 0 ∨ p.gender = 1 := fun p hp =>
    hgender p (hperm.mem_iff.1 (hand_sublist.mem hp))
  exact teamTotal_team_modEq h18 hgender hteam
    (length_of_mem_teams hlength (mem_teams.2 ⟨k, hk, rfl⟩)) hnone hmen

include hj hkj

/-- **Of two teams one agrees with most.** -/
theorem DoomedAt.agree_or (hd : DoomedAt v₀ v₁ players) :
    teamTotal (team k (sortByGender xs)) % 15 = mostTeams v₀ v₁ players % 15 ∨
      teamTotal (team j (sortByGender xs)) % 15 = mostTeams v₀ v₁ players % 15 := by
  have hperm : (sortByGender xs).Perm players := (perm_sortByGender xs).trans hxs
  have hl : 3 - k - j < 3 := by omega
  have hexceptions : exceptions v₀ v₁ players = _ :=
    ((exceptions_perm hperm).symm.trans (countP_teams _ _)).trans
      (sum_third (fun k => exceptions v₀ v₁ (team k (sortByGender xs))) hk hj hkj)
  have hmen : men players = _ :=
    ((men_perm hperm).symm.trans (countP_teams _ _)).trans
      (sum_third (fun k => men (team k (sortByGender xs))) hk hj hkj)
  have hle : ∀ k < 3, ∀ j < 3,
      men (team k (sortByGender xs)) ≤ men (team j (sortByGender xs)) + 1 := fun k hk j hj =>
    (fairSplit_teams hxs).genders 0 _ (mem_teams.2 ⟨k, hk, rfl⟩) _ (mem_teams.2 ⟨j, hj, rfl⟩)
  by_contra hnot
  obtain ⟨hnk, hnj⟩ := not_or.1 hnot
  have hbad : ∀ k < 3, teamTotal (team k (sortByGender xs)) % 15 ≠ mostTeams v₀ v₁ players % 15 →
      ¬(exceptions v₀ v₁ (team k (sortByGender xs)) = 0 ∧
        (men (team k (sortByGender xs)) = (men players + 1) / 3 ∨ (v₀ : ℤ) % 15 = v₁ % 15)) :=
    fun k hk hne hgood => hne (teamTotal_deal_modEq h18 hgender hxs hk hgood.1 hgood.2)
  -- of three teams one has the exception, and one another number of men than the two
  have hbadk := hbad k hk hnk
  have hbadj := hbad j hj hnj
  have hnearly := hd.nearly
  have hkj := hle k hk j hj
  have hjk := hle j hj k hk
  have hkl := hle k hk _ hl
  have hlk := hle _ hl k hk
  have hjl := hle j hj _ hl
  have hlj := hle _ hl j hj
  omega

end Deal

/-- **No deal of doomed players is close.** Two teams come to the same
modulo `15`, so they come to the same, and the third is too far off. -/
theorem not_close_of_doomed (h18 : players.length = 18)
    (hgender : ∀ p ∈ players, p.gender = 0 ∨ p.gender = 1) (hdoomed : Doomed players)
    (hxs : xs.Perm players) : ¬Close (sortByGender xs) := by
  intro hclose
  obtain ⟨v₀, v₁, hd⟩ := hdoomed
  obtain ⟨k, hk, j, hj, hkj, hrk, hrj⟩ := two_of_three fun k hk j hj hkj =>
    hd.agree_or h18 hgender hxs hk hj hkj
  have hperm : (sortByGender xs).Perm players := (perm_sortByGender xs).trans hxs
  have hl : 3 - k - j < 3 := by omega
  have htotal := ((teamTotal_perm hperm).symm.trans (teamTotal_teams _)).trans
    (sum_third (fun k => teamTotal (team k (sortByGender xs))) hk hj hkj)
  have hapart : ∀ k < 3, ∀ j < 3,
      teamTotal (team k (sortByGender xs)) - teamTotal (team j (sortByGender xs)) < 15 :=
    fun k hk j hj => hclose _ (mem_teams.2 ⟨k, hk, rfl⟩) _ (mem_teams.2 ⟨j, hj, rfl⟩)
  have hkj := hapart k hk j hj
  have hjk := hapart j hj k hk
  have hkl := hapart k hk _ hl
  have hlk := hapart _ hl k hk
  have hleast := hd.least
  have hmost := hd.most
  omega

end Volleyer
