import Mathlib.Algebra.Order.Group.Int
import Mathlib.Data.List.Dedup
import Mathlib.Tactic.FieldSimp
import Mathlib.Tactic.Ring
import Volleyer.Team.Partition

/-!
# When the loop can return

The test of a deal is about integers: the totals of two teams are less
than fifteen apart (`exits_iff`). Where every gender has three times as
many players and the totals within the genders are close together, one
shuffle passes it: gender by gender, in ascending order of the totals,
so that the teams are dealt in rows of three (`exists_exits_of_close`).
-/

namespace Volleyer

variable {players xs : List User}

/-- The total of five levels. -/
def levelTotal (player : User) : ℤ :=
  player.level.setBall + player.level.block + player.level.dig + player.level.spike +
    player.level.sum

/-- The total of a team. -/
def teamTotal (group : List User) : ℤ := (group.map levelTotal).sum

theorem playerAve_eq (player : User) : playerAve player = (levelTotal player : ℚ) / 5 := by
  unfold playerAve levelTotal
  push_cast
  rfl

theorem sumAve_eq (group : List User) : sumAve group = (teamTotal group : ℚ) / 5 := by
  induction group with
  | nil =>
    have htotal : teamTotal [] = 0 := rfl
    rw [sumAve_nil, htotal, Int.cast_zero, zero_div]
  | cons p group ih =>
    have hsum : sumAve (p :: group) = playerAve p + sumAve group := List.sum_cons
    have htotal : teamTotal (p :: group) = levelTotal p + teamTotal group := List.sum_cons
    rw [hsum, htotal, ih, playerAve_eq]
    push_cast
    ring

theorem teamTotal_append (xs ys : List User) :
    teamTotal (xs ++ ys) = teamTotal xs + teamTotal ys := by
  rw [teamTotal, List.map_append, List.sum_append]
  rfl

theorem teamTotal_flatMap (vs : List ℤ) (f : ℤ → List User) :
    teamTotal (vs.flatMap f) = (vs.map fun v => teamTotal (f v)).sum := by
  induction vs with
  | nil => rfl
  | cons v vs ih => rw [List.flatMap_cons, teamTotal_append, ih, List.map_cons, List.sum_cons]

theorem groupAve_eq (group : List User) : groupAve group = (teamTotal group : ℚ) / 30 := by
  rw [groupAve, sumAve_eq]
  ring

/-- **Teams less than half a level apart**, in totals. -/
def Close (shuffledPlayers : List User) : Prop :=
  ∀ g ∈ teams shuffledPlayers, ∀ g' ∈ teams shuffledPlayers, teamTotal g - teamTotal g' < 15

theorem groupAve_sub (g g' : List User) :
    groupAve g - groupAve g' = ((teamTotal g - teamTotal g' : ℤ) : ℚ) / 30 := by
  rw [groupAve_eq, groupAve_eq]
  push_cast
  ring

theorem groupAve_sub_lt_iff (g g' : List User) :
    groupAve g - groupAve g' < 1 / 2 ↔ teamTotal g - teamTotal g' < 15 := by
  have hhalf : (1 / 2 : ℚ) = ((15 : ℤ) : ℚ) / 30 := by norm_num
  rw [groupAve_sub, hhalf, div_lt_div_iff_of_pos_right (by norm_num), Int.cast_lt]

theorem groupAve_sub_le_iff (g g' : List User) :
    groupAve g - groupAve g' ≤ 1 / 2 ↔ teamTotal g - teamTotal g' ≤ 15 := by
  have hhalf : (1 / 2 : ℚ) = ((15 : ℤ) : ℚ) / 30 := by norm_num
  rw [groupAve_sub, hhalf, div_le_div_iff_of_pos_right (by norm_num), Int.cast_le]

theorem maxAveDiff_lt_iff : maxAveDiff (deal xs).levelSum < 1 / 2 ↔ Close xs := by
  obtain ⟨hmem, hbound⟩ := isGreatest_maxAveDiff xs
  constructor
  · intro hlt g hg g' hg'
    have hle : groupAve g - groupAve g' ≤ maxAveDiff (deal xs).levelSum :=
      (le_abs_self _).trans (hbound ⟨g, hg, g', hg', rfl⟩)
    exact (groupAve_sub_lt_iff g g').1 (hle.trans_lt hlt)
  · intro hclose
    obtain ⟨g, hg, g', hg', heq⟩ := hmem
    rw [heq, abs_lt]
    constructor
    · have hlt := (groupAve_sub_lt_iff g' g).2 (hclose g' hg' g hg)
      linarith
    · exact (groupAve_sub_lt_iff g g').2 (hclose g hg g' hg')

/-- Teams that are fifteen apart at most are half a level apart at most. -/
theorem maxAveDiff_le (h : ∀ g ∈ teams xs, ∀ g' ∈ teams xs, teamTotal g - teamTotal g' ≤ 15) :
    maxAveDiff (deal xs).levelSum ≤ 1 / 2 := by
  obtain ⟨⟨g, hg, g', hg', heq⟩, -⟩ := isGreatest_maxAveDiff xs
  rw [heq, abs_le]
  constructor
  · have hle := (groupAve_sub_le_iff g' g).2 (h g' hg' g hg)
    linarith
  · exact (groupAve_sub_le_iff g g').2 (h g hg g' hg')

/-- **The loop exits** at a shuffle, whatever the page. -/
def Exits (shuffled : Shuffled players) : Prop :=
  ∀ c, (calculateMaxAverageLevelDifference players [shuffled] c).2.isSome

theorem exits_iff {shuffled : Shuffled players} :
    Exits shuffled ↔ Close (sortByGender shuffled.1) := by
  rw [← maxAveDiff_lt_iff]
  unfold Exits
  simp only [calculateMaxAverageLevelDifference]
  constructor
  · intro h
    by_contra hnot
    have hsome := h {}
    rw [if_neg hnot] at hsome
    cases hsome
  · intro h c
    rw [if_pos h]
    rfl

/-! ## Gender by gender, in ascending order -/

/-- The players of a gender, in ascending order of the totals. -/
def block (players : List User) (v : ℤ) : List User :=
  (players.filter (·.gender = v)).insertionSort fun a b => levelTotal a ≤ levelTotal b

/-- The genders present, each once and in order. -/
def genders (players : List User) : List ℤ := (players.map User.gender).dedup.insertionSort (· ≤ ·)

/-- The totals of a gender. -/
def totalsOf (players : List User) (v : ℤ) : List ℤ :=
  (players.filter (·.gender = v)).map levelTotal

/-- The largest total of a gender less the smallest. -/
def totalRange (players : List User) (v : ℤ) : ℤ :=
  (totalsOf players v).max?.getD 0 - (totalsOf players v).min?.getD 0

theorem genders_perm : (genders players).Perm (players.map User.gender).dedup :=
  List.perm_insertionSort _ _

theorem nodup_genders : (genders players).Nodup :=
  genders_perm.nodup_iff.2 (List.nodup_dedup _)

theorem mem_genders {v : ℤ} : v ∈ genders players ↔ v ∈ players.map User.gender := by
  rw [genders_perm.mem_iff, List.mem_dedup]

theorem block_perm (v : ℤ) : (block players v).Perm (players.filter (·.gender = v)) :=
  List.perm_insertionSort _ _

theorem gender_of_mem_block {v : ℤ} {p : User} (h : p ∈ block players v) : p.gender = v := by
  have hmem := (List.mem_filter.1 ((block_perm v).mem_iff.1 h)).2
  simpa using hmem

theorem blocks_perm : ((genders players).flatMap (block players)).Perm players := by
  have hblocks : ((genders players).flatMap (block players)).Perm
      ((genders players).flatMap fun v => players.filter (·.gender = v)) :=
    List.Perm.flatMap_left _ fun v _ => block_perm v
  exact hblocks.trans (flatMap_filter_perm nodup_genders fun p hp =>
    mem_genders.2 (List.mem_map_of_mem hp))

/-- The blocks are in the order of gender already. -/
theorem sortByGender_blocks :
    sortByGender ((genders players).flatMap (block players)) =
      (genders players).flatMap (block players) := by
  refine List.Pairwise.insertionSort_eq (List.pairwise_flatMap.2 ⟨?_, ?_⟩)
  · intro v _
    refine List.pairwise_of_forall_mem_list fun a ha b hb => ?_
    rw [gender_of_mem_block ha, gender_of_mem_block hb]
  · have hasc : (genders players).Pairwise (· ≤ ·) := List.pairwise_insertionSort _ _
    refine hasc.imp fun {v w} hle a ha b hb => ?_
    rw [gender_of_mem_block ha, gender_of_mem_block hb]
    exact hle

/-- **A gender dealt in rows.** -/
theorem block_rows {v : ℤ} (hv : v ∈ genders players)
    (h3 : 3 ∣ players.countP (·.gender = v)) :
    teamTotal (hand 3 0 0 (block players v)) ≤ teamTotal (hand 3 1 0 (block players v)) ∧
      teamTotal (hand 3 1 0 (block players v)) ≤ teamTotal (hand 3 2 0 (block players v)) ∧
      teamTotal (hand 3 2 0 (block players v)) ≤
        totalRange players v + teamTotal (hand 3 0 0 (block players v)) := by
  have hperm : ((block players v).map levelTotal).Perm (totalsOf players v) := (block_perm v).map _
  have hasc : ((block players v).map levelTotal).Pairwise (· ≤ ·) := by
    rw [List.pairwise_map]
    exact List.pairwise_insertionSort _ _
  have hlength : 3 ∣ ((block players v).map levelTotal).length := by
    rw [List.length_map, (block_perm v).length_eq, ← List.countP_eq_length_filter]
    exact h3
  have hrange : ∀ t ∈ (block players v).map levelTotal,
      (totalsOf players v).min?.getD 0 ≤ t ∧ t ≤ (totalsOf players v).max?.getD 0 := by
    intro t ht
    have hmem := hperm.mem_iff.1 ht
    have hne : totalsOf players v ≠ [] := List.ne_nil_of_mem hmem
    rw [List.min?_eq_some_min hne, List.max?_eq_some_max hne]
    exact ⟨List.min_le_of_mem hmem, List.le_max_of_mem hmem⟩
  have hle : (totalsOf players v).min?.getD 0 ≤ (totalsOf players v).max?.getD 0 := by
    obtain ⟨p, hp, rfl⟩ := List.mem_map.1 (mem_genders.1 hv)
    have hmem : levelTotal p ∈ totalsOf players p.gender :=
      List.mem_map_of_mem (List.mem_filter.2 ⟨hp, by simp⟩)
    obtain ⟨hlo, hhi⟩ := hrange _ (hperm.mem_iff.2 hmem)
    exact hlo.trans hhi
  obtain ⟨h01, h12, h20⟩ := sum_hand_rows hasc hlength hle hrange
  rw [← map_hand, ← map_hand] at h01 h12 h20
  refine ⟨h01, h12, ?_⟩
  unfold totalRange teamTotal
  omega

/-- **One order of close levels passes the test**: the blocks one after
the other. The ranges of the genders bound what the teams are apart. -/
theorem close_blocks (h3 : ∀ v ∈ genders players, 3 ∣ players.countP (·.gender = v))
    (h : ((genders players).map (totalRange players)).sum < 15) :
    Close ((genders players).flatMap (block players)) := by
  have hdvd : ∀ v ∈ genders players, 3 ∣ (block players v).length := by
    intro v hv
    rw [(block_perm v).length_eq, ← List.countP_eq_length_filter]
    exact h3 v hv
  have htotal : ∀ k, teamTotal (team k ((genders players).flatMap (block players))) =
      ((genders players).map fun v => teamTotal (hand 3 k 0 (block players v))).sum := by
    intro k
    rw [team, hand_flatMap hdvd, teamTotal_flatMap]
  have h01 := List.sum_le_sum fun v hv => (block_rows hv (h3 v hv)).1
  have h12 := List.sum_le_sum fun v hv => (block_rows hv (h3 v hv)).2.1
  have h20 := List.sum_le_sum fun v hv => (block_rows hv (h3 v hv)).2.2
  rw [← htotal, ← htotal] at h01 h12
  rw [List.sum_map_add, ← htotal, ← htotal] at h20
  intro g hg g' hg'
  obtain ⟨k, hk, rfl⟩ := mem_teams.1 hg
  obtain ⟨j, hj, rfl⟩ := mem_teams.1 hg'
  have hk : k = 0 ∨ k = 1 ∨ k = 2 := by omega
  have hj : j = 0 ∨ j = 1 ∨ j = 2 := by omega
  rcases hk with rfl | rfl | rfl <;> rcases hj with rfl | rfl | rfl <;> omega

/-- **Close levels can be split.** Where each gender has three times as
many players and the ranges of the totals within the genders come to less
than fifteen, the loop exits at some shuffle. -/
theorem exists_exits_of_close
    (h3 : ∀ v ∈ (players.map User.gender).toFinset, 3 ∣ players.countP (·.gender = v))
    (h : ∑ v ∈ (players.map User.gender).toFinset, totalRange players v < 15) :
    ∃ shuffled : Shuffled players, Exits shuffled := by
  have hgenders : (genders players).toFinset = (players.map User.gender).toFinset := by
    ext v
    rw [List.mem_toFinset, List.mem_toFinset, mem_genders]
  rw [← hgenders, List.sum_toFinset _ nodup_genders] at h
  refine ⟨⟨_, blocks_perm⟩, exits_iff.2 ?_⟩
  rw [sortByGender_blocks]
  exact close_blocks (fun v hv => h3 v (List.mem_toFinset.2 (mem_genders.1 hv))) h

/-- Three players of one gender a level apart from each other, and three
of another gender at one level. -/
def sixClose : List User :=
  [playerOf "Liam" 0 3, playerOf "Doris" 1 2, playerOf "Noah" 0 1, playerOf "Harper" 1 2,
    playerOf "Alex" 0 2, playerOf "Emma" 1 2]

theorem exists_exits_of_close_six : ∃ shuffled : Shuffled sixClose, Exits shuffled :=
  exists_exits_of_close (by decide) (by decide)

end Volleyer
