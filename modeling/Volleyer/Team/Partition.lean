import Mathlib.Order.Bounds.Basic
import Volleyer.Team.Model

/-!
# A split is fair

Whatever the shuffles return and however often the loop goes round, what
it leaves when it returns is a deal of a list in order of gender
(`exists_of_returned`): three teams of the same players, level in size
and in every gender, with averages less than half a level apart. Eighteen
players fill the labels.
-/

namespace Volleyer

variable {players : List User} {shuffles : List (Shuffled players)} {c : RandomTeamViewController}
  {d : ℚ}

/-- The three teams of a deal. -/
def teams (shuffledPlayers : List User) : List (List User) :=
  [team 0 shuffledPlayers, team 1 shuffledPlayers, team 2 shuffledPlayers]

/-- What the players of a team come to, of six. -/
def groupAve (group : List User) : ℚ := sumAve group / 6

/-- **A fair split**: everyone is in one of three teams, and two teams
differ by at most one in size and in every gender. -/
structure FairSplit (players : List User) (groups : List (List User)) : Prop where
  three : groups.length = 3
  perm : groups.flatten.Perm players
  sizes : ∀ g ∈ groups, ∀ g' ∈ groups, g.length ≤ g'.length + 1
  genders : ∀ v, ∀ g ∈ groups, ∀ g' ∈ groups,
    g.countP (·.gender = v) ≤ g'.countP (·.gender = v) + 1

theorem mem_teams {g xs : List User} : g ∈ teams xs ↔ ∃ k < 3, g = team k xs := by
  constructor
  · intro h
    rcases List.mem_cons.1 h with rfl | h
    · exact ⟨0, by omega, rfl⟩
    rcases List.mem_cons.1 h with rfl | h
    · exact ⟨1, by omega, rfl⟩
    rw [List.mem_singleton.1 h]
    exact ⟨2, by omega, rfl⟩
  · rintro ⟨k, hk, rfl⟩
    have hturn : k = 0 ∨ k = 1 ∨ k = 2 := by omega
    rcases hturn with rfl | rfl | rfl
    · exact List.mem_cons_self
    · exact List.mem_cons_of_mem _ List.mem_cons_self
    · exact List.mem_cons_of_mem _ (List.mem_cons_of_mem _ List.mem_cons_self)

theorem flatten_teams (xs : List User) : (teams xs).flatten.Perm xs := by
  have hsum : ∑ k ∈ Finset.range 3, (hand 3 k 0 xs : Multiset User) = xs := sum_hand (by omega)
  rw [Finset.sum_range_succ, Finset.sum_range_succ, Finset.sum_range_one, Multiset.coe_add,
    Multiset.coe_add, Multiset.coe_eq_coe, List.append_assoc] at hsum
  rw [teams, List.flatten_cons, List.flatten_cons, List.flatten_cons, List.flatten_nil,
    List.append_nil]
  exact hsum

/-- **A deal in the order of gender is fair.** -/
theorem fairSplit_teams {xs : List User} (h : xs.Perm players) :
    FairSplit players (teams (sortByGender xs)) where
  three := rfl
  perm := (flatten_teams _).trans ((perm_sortByGender xs).trans h)
  sizes g hg g' hg' := by
    obtain ⟨k, hk, rfl⟩ := mem_teams.1 hg
    obtain ⟨j, hj, rfl⟩ := mem_teams.1 hg'
    exact length_hand_le hk hj
  genders v g hg g' hg' := by
    obtain ⟨k, hk, rfl⟩ := mem_teams.1 hg
    obtain ⟨j, hj, rfl⟩ := mem_teams.1 hg'
    exact countP_hand_le (pairwise_sortByGender xs) hk hj v

/-- Three times as many players make three teams of one size. -/
theorem length_of_mem_teams {g xs : List User} {m : ℕ} (hxs : xs.length = 3 * m)
    (hg : g ∈ teams xs) : g.length = m := by
  obtain ⟨k, hk, rfl⟩ := mem_teams.1 hg
  exact length_hand_of_dvd hk hxs

/-! ## The difference -/

theorem maxAveDiff_eq (xs : List User) :
    maxAveDiff (deal xs).levelSum =
      max (max |groupAve (team 0 xs) - groupAve (team 1 xs)|
        |groupAve (team 2 xs) - groupAve (team 1 xs)|)
        |groupAve (team 0 xs) - groupAve (team 2 xs)| := by
  rw [deal_eq]
  rfl

/-- **The difference is the greatest** between the averages of two teams. -/
theorem isGreatest_maxAveDiff (xs : List User) :
    IsGreatest {x | ∃ g ∈ teams xs, ∃ g' ∈ teams xs, x = |groupAve g - groupAve g'|}
      (maxAveDiff (deal xs).levelSum) := by
  rw [maxAveDiff_eq]
  have h0 : team 0 xs ∈ teams xs := mem_teams.2 ⟨0, by omega, rfl⟩
  have h1 : team 1 xs ∈ teams xs := mem_teams.2 ⟨1, by omega, rfl⟩
  have h2 : team 2 xs ∈ teams xs := mem_teams.2 ⟨2, by omega, rfl⟩
  constructor
  · rcases max_choice (max |groupAve (team 0 xs) - groupAve (team 1 xs)|
        |groupAve (team 2 xs) - groupAve (team 1 xs)|)
        |groupAve (team 0 xs) - groupAve (team 2 xs)| with h | h
    · rw [h]
      rcases max_choice |groupAve (team 0 xs) - groupAve (team 1 xs)|
        |groupAve (team 2 xs) - groupAve (team 1 xs)| with h | h
      · exact ⟨_, h0, _, h1, h⟩
      · exact ⟨_, h2, _, h1, h⟩
    · exact ⟨_, h0, _, h2, h⟩
  · rintro x ⟨g, hg, g', hg', rfl⟩
    obtain ⟨k, hk, rfl⟩ := mem_teams.1 hg
    obtain ⟨j, hj, rfl⟩ := mem_teams.1 hg'
    rw [le_max_iff, le_max_iff]
    have hself : ∀ i, |groupAve (team i xs) - groupAve (team i xs)| ≤
        |groupAve (team 0 xs) - groupAve (team 2 xs)| := fun i => by
      rw [sub_self, abs_zero]
      exact abs_nonneg _
    -- two different teams are one of the three pairs, in one order or the other
    have hk : k = 0 ∨ k = 1 ∨ k = 2 := by omega
    have hj : j = 0 ∨ j = 1 ∨ j = 2 := by omega
    rcases hk with rfl | rfl | rfl <;> rcases hj with rfl | rfl | rfl
    · exact Or.inr (hself 0)
    · exact Or.inl (Or.inl le_rfl)
    · exact Or.inr le_rfl
    · exact Or.inl (Or.inl (abs_sub_comm _ _).le)
    · exact Or.inr (hself 1)
    · exact Or.inl (Or.inr (abs_sub_comm _ _).le)
    · exact Or.inr (abs_sub_comm _ _).le
    · exact Or.inl (Or.inr le_rfl)
    · exact Or.inr (hself 2)

/-! ## The loop -/

/-- **What the loop leaves when it returns**: the teams of one of the
shuffles, in the order of gender, and their difference. -/
theorem exists_of_returned
    (h : (calculateMaxAverageLevelDifference players shuffles c).2 = some d) :
    ∃ shuffled ∈ shuffles,
      (calculateMaxAverageLevelDifference players shuffles c).1.shuffledplayerUsers =
        teams (sortByGender shuffled.1) ∧
      d = maxAveDiff (deal (sortByGender shuffled.1)).levelSum ∧ d < 1 / 2 := by
  induction shuffles generalizing c with
  | nil => cases h
  | cons shuffled rest ih =>
    rw [calculateMaxAverageLevelDifference] at h ⊢
    by_cases hclose : maxAveDiff (deal (sortByGender shuffled.1)).levelSum < 1 / 2
    · rw [if_pos hclose] at h ⊢
      obtain rfl : maxAveDiff (deal (sortByGender shuffled.1)).levelSum = d :=
        Option.some.inj h
      refine ⟨shuffled, List.mem_cons_self, ?_, rfl, hclose⟩
      rw [deal_eq]
      rfl
    · rw [if_neg hclose] at h ⊢
      obtain ⟨shuffled', hmem, hleft⟩ := ih h
      exact ⟨shuffled', List.mem_cons_of_mem shuffled hmem, hleft⟩

/-- Eighteen players are in three teams of six when the loop returns. -/
theorem length_of_returned
    (h : (calculateMaxAverageLevelDifference players shuffles c).2 = some d)
    (h18 : players.length = 18) :
    (calculateMaxAverageLevelDifference players shuffles c).1.shuffledplayerUsers.length = 3 ∧
      ∀ g ∈ (calculateMaxAverageLevelDifference players shuffles c).1.shuffledplayerUsers,
        g.length = 6 := by
  obtain ⟨shuffled, -, hgroups, -⟩ := exists_of_returned h
  have hlength : (sortByGender shuffled.1).length = 3 * 6 := by
    rw [(perm_sortByGender shuffled.1).length_eq, shuffled.2.length_eq, h18]
  rw [hgroups]
  exact ⟨rfl, fun g hg => length_of_mem_teams hlength hg⟩

/-- **Fair teams, every time.** Three teams of all the players, level in
size and gender, the largest difference of their averages is what is
returned and is less than half a level, and eighteen players are each in
one of the eighteen labels. -/
theorem calculateMaxAverageLevelDifference_fair
    (h : (calculateMaxAverageLevelDifference players shuffles c).2 = some d) :
    let groups :=
      (calculateMaxAverageLevelDifference players shuffles c).1.shuffledplayerUsers
    FairSplit players groups ∧
      IsGreatest {x | ∃ g ∈ groups, ∃ g' ∈ groups, x = |groupAve g - groupAve g'|} d ∧
      d < 1 / 2 ∧
      (players.length = 18 → ∃ labels, putNameIntoLabels groups = some labels ∧
        labels = groups.map (·.map nameLabel) ∧ labels.length = 3 ∧
        (∀ row ∈ labels, row.length = 6) ∧
        (labels.flatten.map Label.text).Perm (players.map fun p => "  " ++ p.name ++ "  ")) := by
  intro groups
  obtain ⟨shuffled, -, hgroups, rfl, hclose⟩ := exists_of_returned h
  have hfair : FairSplit players groups := by
    rw [show groups = _ from hgroups]
    exact fairSplit_teams shuffled.2
  refine ⟨hfair, ?_, hclose, fun h18 => ?_⟩
  · rw [show groups = _ from hgroups]
    exact isGreatest_maxAveDiff _
  · obtain ⟨hthree, hsix⟩ := length_of_returned h h18
    refine ⟨_, putNameIntoLabels_eq hthree hsix, rfl, ?_, ?_, ?_⟩
    · rw [List.length_map]
      exact hthree
    · intro row hrow
      obtain ⟨g, hg, rfl⟩ := List.mem_map.1 hrow
      rw [List.length_map]
      exact hsix g hg
    · rw [← List.map_flatten, List.map_map]
      exact hfair.perm.map _

/-! The loop goes round twice over eighteen players, of whom three have
the lowest level: the first shuffle puts the three in one team. -/

def playerOf (name : String) (gender level : ℤ) : User where
  id := name
  email := name
  name := name
  gender := gender
  level := ⟨level, level, level, level, level⟩

def eighteen : List User :=
  (List.replicate 3 [playerOf "Liam" 0 3, playerOf "Noah" 0 0, playerOf "Noah" 0 0]).flatten ++
    List.replicate 9 (playerOf "Doris" 1 1)

def eighteenInOrder : Shuffled eighteen where
  val := List.replicate 3 (playerOf "Liam" 0 3) ++ List.replicate 6 (playerOf "Noah" 0 0) ++
    List.replicate 9 (playerOf "Doris" 1 1)
  property := by decide +kernel

theorem calculateMaxAverageLevelDifference_fair_eighteen :
    let groups := (calculateMaxAverageLevelDifference eighteen
      [⟨eighteen, List.Perm.refl _⟩, eighteenInOrder] {}).1.shuffledplayerUsers
    FairSplit eighteen groups ∧
      IsGreatest {x | ∃ g ∈ groups, ∃ g' ∈ groups, x = |groupAve g - groupAve g'|} 0 ∧
      ∃ labels, putNameIntoLabels groups = some labels ∧
        (labels.flatten.map Label.text).Perm (eighteen.map fun p => "  " ++ p.name ++ "  ") := by
  have hreturns : (calculateMaxAverageLevelDifference eighteen
      [⟨eighteen, List.Perm.refl _⟩, eighteenInOrder] {}).2 = some 0 := by decide +kernel
  obtain ⟨hfair, hgreatest, -, hlabels⟩ := calculateMaxAverageLevelDifference_fair hreturns
  obtain ⟨labels, hput, -, -, -, htexts⟩ := hlabels rfl
  exact ⟨hfair, hgreatest, labels, hput, htexts⟩

end Volleyer
