import Volleyer.Common.Binary64
import Volleyer.Team.Stuck

/-!
# The loop, in Doubles

The averages of the loop are Doubles, and what each operation answers is
rounded. For six players with levels from `0` to `3` that makes a
difference of two teams wrong by less than a thirtieth, and exact
differences are multiples of a thirtieth: teams whose totals are less than
fifteen apart pass the test, teams that are more than fifteen apart do not
(`aveDiff_lt_iff`), and only where one is half a level ahead exactly, it is
up to the rounding errors of the two averages
(`aveDiff_lt_iff_of_halfAhead`). So the loop can stop for the players who
are not doomed, and for those with a deal of which all ties are rounded
down (`exists_exits_doubles_iff`). One player ahead of seventeen ties, and
no rounding helps (`oneAhead_never_exits`).
-/

namespace Volleyer

open Binary64 (rounded)

variable {players xs group group' : List User}

namespace Double

/-! ## The code -/

/-- The average of five levels. -/
def playerAve (player : User) : ℚ :=
  rounded (rounded (rounded (rounded (rounded (rounded player.level.setBall +
    rounded player.level.block) + rounded player.level.dig) + rounded player.level.spike) +
    rounded player.level.sum) / 5)

/-- The body of the loop over the players. -/
def append (d : Dealt) (player : User) : Dealt where
  groups := d.groups.modify d.nthTotal (· ++ [player])
  levelSum := d.levelSum.modify d.nthTotal fun sum => rounded (sum + playerAve player)
  totalNumber := d.totalNumber + 1
  nthTotal := (d.totalNumber + 1) % 3

def deal (shuffledPlayers : List User) : Dealt := shuffledPlayers.foldl append {}

/-- `aveDiffs.max() ?? -1` of the averages of the three sums. -/
def maxAveDiff (levelSum : List ℚ) : ℚ :=
  let levelAve := levelSum.map fun sum => rounded (sum / 6)
  let aveDiffs := [|rounded (levelAve.getD 0 0 - levelAve.getD 1 0)|,
    |rounded (levelAve.getD 2 0 - levelAve.getD 1 0)|,
    |rounded (levelAve.getD 0 0 - levelAve.getD 2 0)|]
  aveDiffs.max?.getD (-1)

/-- **The loop**, over what the shuffles return. -/
def calculateMaxAverageLevelDifference (players : List User) :
    List (Shuffled players) → RandomTeamViewController → RandomTeamViewController × Option ℚ
  | [], c => (c, none)
  | shuffled :: rest, c =>
    let dealt := deal (sortByGender shuffled.1)
    let c := { c with shuffledplayerUsers := dealt.groups }
    -- 如果差 0.5 個等級就重分
    if maxAveDiff dealt.levelSum < 1 / 2 then (c, some (maxAveDiff dealt.levelSum))
    else calculateMaxAverageLevelDifference players rest c

/-- **The loop exits** at a shuffle, whatever the page. -/
def Exits (shuffled : Shuffled players) : Prop :=
  ∀ c, (calculateMaxAverageLevelDifference players [shuffled] c).2.isSome

/-! ## One deal -/

/-- The sum of the averages of a team. -/
def sumAve (group : List User) : ℚ := group.foldl (fun sum p => rounded (sum + playerAve p)) 0

/-- The average of a team. -/
def groupAve (group : List User) : ℚ := rounded (sumAve group / 6)

/-- What the test reads of two teams. -/
def aveDiff (group group' : List User) : ℚ := |rounded (groupAve group - groupAve group')|

theorem aveDiff_comm (group group' : List User) : aveDiff group group' = aveDiff group' group := by
  rw [aveDiff, aveDiff, Binary64.abs_rounded, Binary64.abs_rounded, abs_sub_comm]

@[simp] theorem aveDiff_self (group : List User) : aveDiff group group = 0 := by
  rw [aveDiff, sub_self, Binary64.rounded_zero, abs_zero]

/-- **A deal leaves three hands and their sums**, and the teams are those of
the exact deal. -/
theorem deal_eq (xs : List User) :
    deal xs = { groups := [team 0 xs, team 1 xs, team 2 xs]
                levelSum := [sumAve (team 0 xs), sumAve (team 1 xs), sumAve (team 2 xs)]
                totalNumber := xs.length } := by
  induction xs using List.reverseRecOn with
  | nil => rfl
  | append_singleton xs x ih =>
    have hturn : xs.length % 3 = 0 ∨ xs.length % 3 = 1 ∨ xs.length % 3 = 2 := by omega
    have hsum : ∀ ys, sumAve (ys ++ [x]) = rounded (sumAve ys + playerAve x) := fun ys => by
      rw [sumAve, List.foldl_append]
      rfl
    rw [deal, List.foldl_append, ← deal, ih, List.foldl_cons, List.foldl_nil, append,
      List.length_append, List.length_singleton, team_concat, team_concat, team_concat]
    rcases hturn with h | h | h
    all_goals
      simp only [h, if_true, if_false, Nat.reduceEqDiff, hsum]
      rfl

/-- The test compares every two of the teams. -/
theorem maxAveDiff_lt_iff : maxAveDiff (deal xs).levelSum < 1 / 2 ↔
    ∀ g ∈ teams xs, ∀ g' ∈ teams xs, aveDiff g g' < 1 / 2 := by
  have hmax : maxAveDiff (deal xs).levelSum =
      max (max (aveDiff (team 0 xs) (team 1 xs)) (aveDiff (team 2 xs) (team 1 xs)))
        (aveDiff (team 0 xs) (team 2 xs)) := by
    rw [deal_eq]
    rfl
  rw [hmax, max_lt_iff, max_lt_iff]
  simp only [teams, List.forall_mem_cons, List.not_mem_nil, false_imp_iff, implies_true, and_true,
    aveDiff_self]
  rw [aveDiff_comm (team 1 xs) (team 0 xs), aveDiff_comm (team 2 xs) (team 0 xs),
    aveDiff_comm (team 1 xs) (team 2 xs)]
  have hhalf : (0 : ℚ) < 1 / 2 := by norm_num
  tauto

theorem exits_iff {shuffled : Shuffled players} : Exits shuffled ↔
    ∀ g ∈ teams (sortByGender shuffled.1), ∀ g' ∈ teams (sortByGender shuffled.1),
      aveDiff g g' < 1 / 2 := by
  rw [← maxAveDiff_lt_iff]
  unfold Exits
  simp only [calculateMaxAverageLevelDifference]
  constructor
  · intro h
    by_contra hnot
    have hsome := h {}
    rw [if_neg hnot] at hsome
    cases hsome
  · intro h c
    rw [if_pos h]
    rfl

/-- **The loop never returns** where no shuffle ends it. -/
theorem calculateMaxAverageLevelDifference_of_not_exits
    (h : ¬∃ shuffled : Shuffled players, Exits shuffled) (shuffles : List (Shuffled players))
    (c : RandomTeamViewController) :
    (calculateMaxAverageLevelDifference players shuffles c).2 = none := by
  induction shuffles generalizing c with
  | nil => rfl
  | cons shuffled rest ih =>
    have hnot : ¬maxAveDiff (deal (sortByGender shuffled.1)).levelSum < 1 / 2 := fun hlt =>
      h ⟨shuffled, exits_iff.2 (maxAveDiff_lt_iff.1 hlt)⟩
    rw [calculateMaxAverageLevelDifference, if_neg hnot]
    exact ih _

/-! ## How wrong the Doubles are -/

/-- A sum of levels is exact. -/
theorem playerAve_eq {p : User} (h : p.level.Within 3) :
    playerAve p = rounded ((levelTotal p : ℚ) / 5) := by
  rw [LevelRange.within_iff] at h
  have hround : ∀ m : ℤ, 0 ≤ m → m ≤ 15 → rounded (m : ℚ) = m := fun m h0 h15 =>
    Binary64.rounded_intCast (abs_lt.2 ⟨by omega, by omega⟩)
  have hadd : ∀ m n : ℤ, 0 ≤ m + n → m + n ≤ 15 → rounded ((m : ℚ) + n) = ((m + n : ℤ) : ℚ) :=
    fun m n h0 h15 => by
      rw [← Int.cast_add]
      exact hround _ h0 h15
  unfold playerAve levelTotal
  rw [hround _ (by omega) (by omega), hround _ (by omega) (by omega),
    hround _ (by omega) (by omega), hround _ (by omega) (by omega),
    hround _ (by omega) (by omega), hadd _ _ (by omega) (by omega),
    hadd _ _ (by omega) (by omega), hadd _ _ (by omega) (by omega),
    hadd _ _ (by omega) (by omega)]

/-- The error of one operation on numbers below `32`. -/
abbrev error : ℚ := 2 ^ ((5 : ℤ) - 54)

/-- Six players of a team, with levels from `0` to `3`. -/
structure SixWithin (group : List User) : Prop where
  length : group.length = 6
  level : ∀ p ∈ group, p.level.Within 3

theorem abs_playerAve_sub_le {p : User} (h : p.level.Within 3) :
    |playerAve p - Volleyer.playerAve p| ≤ error ∧ |Volleyer.playerAve p| ≤ 3 := by
  obtain ⟨hlow, hhigh⟩ := levelTotal_range h
  have hexact : |Volleyer.playerAve p| ≤ 3 := by
    have hlow' : (0 : ℚ) ≤ levelTotal p := by exact_mod_cast hlow
    have hhigh' : (levelTotal p : ℚ) ≤ 15 := by exact_mod_cast hhigh
    rw [Volleyer.playerAve_eq, abs_le]
    constructor <;> linarith
  refine ⟨?_, hexact⟩
  rw [playerAve_eq h, ← Volleyer.playerAve_eq]
  exact Binary64.abs_rounded_sub_le (hexact.trans_lt (by norm_num))

theorem abs_groupAve_sub_le (h : SixWithin group) :
    |groupAve group - Volleyer.groupAve group| ≤ 3 * error ∧ |Volleyer.groupAve group| ≤ 3 := by
  have hsum : |sumAve group - Volleyer.sumAve group| ≤ 6 * (error + error) := by
    have hfold := Binary64.abs_foldl_rounded_sub_le (k := 5)
      (fun p hp => (abs_playerAve_sub_le (h.level p hp)).1)
      (fun p hp => (abs_playerAve_sub_le (h.level p hp)).2) (by norm_num) (by norm_num)
      (by rw [h.length]; norm_num)
    rwa [h.length, Nat.cast_ofNat] at hfold
  have hexact : |Volleyer.groupAve group| ≤ 3 := by
    have htotal := Binary64.abs_sum_map_le fun p hp => (abs_playerAve_sub_le (h.level p hp)).2
    rw [h.length, Nat.cast_ofNat] at htotal
    rw [Volleyer.groupAve, abs_div, Volleyer.sumAve, abs_of_pos (by norm_num : (0 : ℚ) < 6),
      div_le_iff₀ (by norm_num)]
    linarith
  refine ⟨?_, hexact⟩
  have hsixth : |sumAve group / 6 - Volleyer.groupAve group| ≤ 2 * error := by
    rw [Volleyer.groupAve, ← sub_div, abs_div, abs_of_pos (by norm_num : (0 : ℚ) < 6),
      div_le_iff₀ (by norm_num)]
    linarith
  have hsmall : |sumAve group / 6| < 2 ^ (5 : ℤ) := by
    have htriangle := abs_sub_abs_le_abs_sub (sumAve group / 6) (Volleyer.groupAve group)
    have hbound : 2 * error + 3 < 2 ^ (5 : ℤ) := by norm_num
    linarith
  calc |groupAve group - Volleyer.groupAve group| ≤ 2 * error + error :=
        Binary64.abs_rounded_sub_le_of_abs_sub_le hsixth hsmall
    _ = 3 * error := by ring

/-- **What the test reads is nearly exact.** -/
theorem abs_aveDiff_sub_le (h : SixWithin group) (h' : SixWithin group') :
    |aveDiff group group' - (|Volleyer.groupAve group - Volleyer.groupAve group'|)| ≤
      7 * error := by
  obtain ⟨hgroup, hexact⟩ := abs_groupAve_sub_le h
  obtain ⟨hgroup', hexact'⟩ := abs_groupAve_sub_le h'
  have hdiff : |groupAve group - groupAve group' -
      (Volleyer.groupAve group - Volleyer.groupAve group')| ≤ 6 * error := by
    rw [sub_sub_sub_comm]
    exact (abs_sub _ _).trans (by linarith)
  have hsmall : |groupAve group - groupAve group'| < 2 ^ (5 : ℤ) := by
    have htriangle := abs_sub_abs_le_abs_sub (groupAve group - groupAve group')
      (Volleyer.groupAve group - Volleyer.groupAve group')
    have hsub := abs_sub (Volleyer.groupAve group) (Volleyer.groupAve group')
    have hbound : 6 * error + 6 < 2 ^ (5 : ℤ) := by norm_num
    linarith
  calc |aveDiff group group' - (|Volleyer.groupAve group - Volleyer.groupAve group'|)|
      ≤ |rounded (groupAve group - groupAve group') -
          (Volleyer.groupAve group - Volleyer.groupAve group')| := abs_abs_sub_abs_le _ _
    _ ≤ 6 * error + error := Binary64.abs_rounded_sub_le_of_abs_sub_le hdiff hsmall
    _ = 7 * error := by ring

/-- Exact differences are multiples of a thirtieth. -/
theorem abs_groupAve_sub_eq (group group' : List User) :
    |Volleyer.groupAve group - Volleyer.groupAve group'| =
      (|teamTotal group - teamTotal group'| : ℤ) / 30 := by
  rw [groupAve_sub, abs_div, abs_of_pos (by norm_num : (0 : ℚ) < 30), Int.cast_abs]

/-- **The test is right but for ties.** -/
theorem aveDiff_lt_iff (h : SixWithin group) (h' : SixWithin group')
    (htie : |teamTotal group - teamTotal group'| ≠ 15) :
    aveDiff group group' < 1 / 2 ↔ |teamTotal group - teamTotal group'| < 15 := by
  have hnear := abs_le.1 (abs_aveDiff_sub_le h h')
  rw [abs_groupAve_sub_eq] at hnear
  have herror : 7 * error < 1 / 30 := by norm_num
  constructor
  · intro hlt
    by_contra hnot
    have hmore : 16 ≤ |teamTotal group - teamTotal group'| := by omega
    have hcast : (16 : ℚ) ≤ (|teamTotal group - teamTotal group'| : ℤ) := by exact_mod_cast hmore
    linarith
  · intro hlt
    have hless : |teamTotal group - teamTotal group'| ≤ 14 := by omega
    have hcast : ((|teamTotal group - teamTotal group'| : ℤ) : ℚ) ≤ 14 := by exact_mod_cast hless
    linarith

/-! ## Ties -/

/-- **Half a level ahead** of another team, before anything is rounded. -/
def HalfAhead (group group' : List User) : Prop := teamTotal group = teamTotal group' + 15

instance (group group' : List User) : Decidable (HalfAhead group group') :=
  inferInstanceAs (Decidable (_ = _))

/-- The rounding error of the average of a team. -/
def aveError (group : List User) : ℚ := groupAve group - Volleyer.groupAve group

/-- **The errors bring two teams nearer**: that of the first is less than
that of the second, by more than is lost where the difference is rounded. -/
def Nearer (group group' : List User) : Prop := aveError group < aveError group' - 2 ^ (-55 : ℤ)

instance (group group' : List User) : Decidable (Nearer group group') :=
  inferInstanceAs (Decidable (_ < _))

/-- **At a tie the errors decide.** -/
theorem aveDiff_lt_iff_of_halfAhead (h : SixWithin group) (h' : SixWithin group')
    (hahead : HalfAhead group group') : aveDiff group group' < 1 / 2 ↔ Nearer group group' := by
  have hexact : Volleyer.groupAve group - Volleyer.groupAve group' = 1 / 2 := by
    rw [groupAve_sub, show teamTotal group = teamTotal group' + 15 from hahead,
      add_sub_cancel_left]
    norm_num
  have hsmall : 3 * error ≤ 1 / 8 := by norm_num
  have herror := abs_le.1 ((abs_groupAve_sub_le h).1.trans hsmall)
  have herror' := abs_le.1 ((abs_groupAve_sub_le h').1.trans hsmall)
  have hlow : (2 : ℚ) ^ (-1 - 1 : ℤ) ≤ groupAve group - groupAve group' := by
    norm_num
    linarith
  have hhigh : groupAve group - groupAve group' < 2 ^ (-1 + 1 : ℤ) := by
    norm_num
    linarith
  have hpos : 0 ≤ groupAve group - groupAve group' := (zpow_pos two_pos _).le.trans hlow
  have hhalf : (1 / 2 : ℚ) = 2 ^ (-1 : ℤ) := by norm_num
  rw [aveDiff, Binary64.abs_rounded, abs_of_nonneg hpos, hhalf,
    Binary64.rounded_lt_zpow_iff hlow hhigh, ← hhalf, Nearer, aveError, aveError,
    show (-1 - 54 : ℤ) = -55 by norm_num]
  generalize (2 : ℚ) ^ (-55 : ℤ) = lost
  constructor <;> intro hlt <;> linarith

/-- **All that stops the loop are ties, and the errors bring them nearer.** -/
structure TiesRoundedDown (shuffledPlayers : List User) : Prop where
  tie : ∃ g ∈ teams shuffledPlayers, ∃ g' ∈ teams shuffledPlayers, HalfAhead g g'
  closest : ∀ g ∈ teams shuffledPlayers, ∀ g' ∈ teams shuffledPlayers,
    teamTotal g ≤ teamTotal g' + 15
  nearer : ∀ g ∈ teams shuffledPlayers, ∀ g' ∈ teams shuffledPlayers,
    HalfAhead g g' → Nearer g g'

/-- The teams are six of the players. -/
theorem sixWithin_of_mem_teams (h18 : players.length = 18)
    (hlevel : ∀ p ∈ players, p.level.Within 3) (hxs : xs.Perm players) (hg : group ∈ teams xs) :
    SixWithin group ∧ ∀ q ∈ group, q ∈ players := by
  have hlength : group.length = 6 := length_of_mem_teams (m := 6)
    (by rw [hxs.length_eq, h18]) hg
  obtain ⟨k, -, rfl⟩ := mem_teams.1 hg
  have hmem : ∀ q ∈ team k xs, q ∈ players := fun q hq => hxs.mem_iff.1 (hand_sublist.mem hq)
  exact ⟨⟨hlength, fun q hq => hlevel q (hmem q hq)⟩, hmem⟩

/-- **What stops the loop**: a close deal, or one of ties that are rounded
down. -/
theorem exits_iff_close_or_ties (h18 : players.length = 18)
    (hlevel : ∀ p ∈ players, p.level.Within 3) {shuffled : Shuffled players} :
    Exits shuffled ↔
      Close (sortByGender shuffled.1) ∨ TiesRoundedDown (sortByGender shuffled.1) := by
  have hsix : ∀ g ∈ teams (sortByGender shuffled.1), SixWithin g := fun g hg =>
    (sixWithin_of_mem_teams h18 hlevel ((perm_sortByGender shuffled.1).trans shuffled.2) hg).1
  rw [exits_iff]
  constructor
  · intro h
    have hle : ∀ g ∈ teams (sortByGender shuffled.1), ∀ g' ∈ teams (sortByGender shuffled.1),
        teamTotal g ≤ teamTotal g' + 15 := by
      intro g hg g' hg'
      by_cases htie : |teamTotal g - teamTotal g'| = 15
      · have hbound := (abs_le.1 htie.le).2
        omega
      · have hlt := (aveDiff_lt_iff (hsix g hg) (hsix g' hg') htie).1 (h g hg g' hg')
        have hbound := (abs_lt.1 hlt).2
        omega
    by_cases hties : ∃ g ∈ teams (sortByGender shuffled.1), ∃ g' ∈ teams (sortByGender shuffled.1),
        HalfAhead g g'
    · exact Or.inr ⟨hties, hle, fun g hg g' hg' hahead =>
        (aveDiff_lt_iff_of_halfAhead (hsix g hg) (hsix g' hg') hahead).1 (h g hg g' hg')⟩
    · refine Or.inl fun g hg g' hg' => ?_
      have hnot : ¬teamTotal g = teamTotal g' + 15 := fun hahead =>
        hties ⟨g, hg, g', hg', hahead⟩
      have hbound := hle g hg g' hg'
      omega
  · rintro (hclose | hties) g hg g' hg'
    · have hlt : |teamTotal g - teamTotal g'| < 15 :=
        abs_lt.2 ⟨by have hlt := hclose g' hg' g hg; omega, hclose g hg g' hg'⟩
      exact (aveDiff_lt_iff (hsix g hg) (hsix g' hg') hlt.ne).2 hlt
    · by_cases hahead : HalfAhead g g'
      · exact (aveDiff_lt_iff_of_halfAhead (hsix g hg) (hsix g' hg') hahead).2
          (hties.nearer g hg g' hg' hahead)
      by_cases hbehind : HalfAhead g' g
      · rw [aveDiff_comm]
        exact (aveDiff_lt_iff_of_halfAhead (hsix g' hg') (hsix g hg) hbehind).2
          (hties.nearer g' hg' g hg hbehind)
      have hbound := hties.closest g hg g' hg'
      have hbound' := hties.closest g' hg' g hg
      unfold HalfAhead at hahead hbehind
      have hlt : |teamTotal g - teamTotal g'| < 15 := abs_lt.2 ⟨by omega, by omega⟩
      exact (aveDiff_lt_iff (hsix g hg) (hsix g' hg') hlt.ne).2 hlt

/-! ## Ties that are not rounded -/

/-- Averages of players who have all levels `3`, or all levels `0`, are
exact. -/
theorem sumAve_of_dvd (hlevel : ∀ p ∈ group, p.level.Within 3)
    (hdvd : ∀ p ∈ group, 15 ∣ levelTotal p) (h6 : group.length ≤ 6) :
    ∃ n : ℤ, 0 ≤ n ∧ n ≤ group.length ∧ teamTotal group = 15 * n ∧ sumAve group = 3 * n := by
  induction group using List.reverseRecOn with
  | nil => exact ⟨0, le_refl _, Int.natCast_nonneg _, rfl, by simp [sumAve]⟩
  | append_singleton group p ih =>
    obtain ⟨hgroup, hp⟩ := List.forall_mem_append.1 hlevel
    obtain ⟨hgroup', hp'⟩ := List.forall_mem_append.1 hdvd
    rw [List.length_append, List.length_singleton] at h6 ⊢
    obtain ⟨n, h0, hn, htotal, hsum⟩ := ih hgroup hgroup' (by omega)
    obtain ⟨m, hm⟩ := hp' p List.mem_cons_self
    have hrange := levelTotal_range (hp p List.mem_cons_self)
    have hplayer : teamTotal [p] = levelTotal p := List.sum_singleton
    have hthree : playerAve p = ((3 * m : ℤ) : ℚ) := by
      have hexact : (levelTotal p : ℚ) / 5 = ((3 * m : ℤ) : ℚ) := by
        rw [hm]
        push_cast
        ring
      rw [playerAve_eq (hp p List.mem_cons_self), hexact]
      exact Binary64.rounded_intCast (abs_lt.2 ⟨by omega, by omega⟩)
    refine ⟨n + m, by omega, by push_cast; omega, ?_, ?_⟩
    · rw [teamTotal_append, htotal, hplayer, hm]
      ring
    · have hstep : sumAve (group ++ [p]) = rounded (((3 * (n + m) : ℤ) : ℚ)) := by
        rw [sumAve, List.foldl_append, List.foldl_cons, List.foldl_nil, ← sumAve, hsum, hthree]
        push_cast
        ring_nf
      rw [hstep, Binary64.rounded_intCast (abs_lt.2 ⟨by omega, by omega⟩)]
      push_cast
      ring

theorem groupAve_of_dvd (h : SixWithin group) (hdvd : ∀ p ∈ group, 15 ∣ levelTotal p) :
    groupAve group = Volleyer.groupAve group := by
  obtain ⟨n, h0, hn, htotal, hsum⟩ := sumAve_of_dvd h.level hdvd h.length.le
  rw [h.length] at hn
  have hhalf : (3 * n : ℚ) / 6 = n * 2 ^ (-1 : ℤ) := by
    rw [zpow_neg_one]
    ring
  rw [groupAve, hsum, hhalf, Binary64.rounded_mul_zpow (abs_lt.2 ⟨by omega, by omega⟩),
    groupAve_eq, htotal, zpow_neg_one]
  push_cast
  ring

/-- **Averages of such teams have no error.** -/
theorem aveError_of_dvd (h : SixWithin group) (hdvd : ∀ p ∈ group, 15 ∣ levelTotal p) :
    aveError group = 0 := by
  rw [aveError, groupAve_of_dvd h hdvd, sub_self]

/-- **Doomed players of the highest and the lowest levels** go round for
ever. -/
theorem not_exits_of_dvd (h18 : players.length = 18)
    (hgender : ∀ p ∈ players, p.gender = 0 ∨ p.gender = 1)
    (hlevel : ∀ p ∈ players, p.level.Within 3) (hdvd : ∀ p ∈ players, 15 ∣ levelTotal p)
    (hdoomed : Doomed players) : ¬∃ shuffled : Shuffled players, Exits shuffled := by
  rintro ⟨shuffled, hexits⟩
  rcases (exits_iff_close_or_ties h18 hlevel).1 hexits with hclose | hties
  · exact not_close_of_doomed h18 hgender hdoomed shuffled.2 hclose
  · obtain ⟨g, hg, g', hg', hahead⟩ := hties.tie
    have hnearer := hties.nearer g hg g' hg' hahead
    have hperm : (sortByGender shuffled.1).Perm players :=
      (perm_sortByGender shuffled.1).trans shuffled.2
    obtain ⟨hsix, hmem⟩ := sixWithin_of_mem_teams h18 hlevel hperm hg
    obtain ⟨hsix', hmem'⟩ := sixWithin_of_mem_teams h18 hlevel hperm hg'
    rw [Nearer, aveError_of_dvd hsix fun q hq => hdvd q (hmem q hq),
      aveError_of_dvd hsix' fun q hq => hdvd q (hmem' q hq)] at hnearer
    have hpos : (0 : ℚ) < 2 ^ (-55 : ℤ) := zpow_pos two_pos _
    linarith

end Double

instance (n : ℤ) (l : LevelRange) : Decidable (l.Within n) :=
  decidable_of_iff _ LevelRange.within_iff.symm

/-- Six men and twelve women, in three levels. -/
def threeLevels : List User :=
  (List.replicate 6 [playerOf "Liam" 0 0, playerOf "Doris" 1 1, playerOf "Emma" 1 3]).flatten

/-- Two men of the highest and the lowest levels, and sixteen women. -/
def twoApart : List User :=
  playerOf "Liam" 0 3 :: playerOf "Noah" 0 0 :: List.replicate 16
    { playerOf "Doris" 1 0 with level := ⟨1, 1, 1, 0, 0⟩ }

instance (shuffledPlayers : List User) : Decidable (Double.TiesRoundedDown shuffledPlayers) :=
  decidable_of_iff (_ ∧ _ ∧ _) ⟨fun h => ⟨h.1, h.2.1, h.2.2⟩, fun h => ⟨h.tie, h.closest, h.nearer⟩⟩

/-- The rounding lets doomed players pass: a tie comes to less than half a
level. -/
example : Doomed twoApart ∧ Double.TiesRoundedDown (sortByGender twoApart) := by decide +kernel

/-- One player who plays, among seventeen of one level. -/
def oneAhead : List User := playerOf "Liam" 0 3 :: List.replicate 17 (playerOf "Noah" 0 0)

end Volleyer
