import Mathlib.Data.Rat.Lemmas
import Mathlib.Algebra.Order.Field.Rat
import Volleyer.Common.Deal
import Volleyer.Model.Gender

/-!
# Splitting the players into three teams

`RandomTeamViewController` shuffles the users it is given, sorts them by
gender, deals them to three teams in turn, and does so again until the
averages of the teams are less than half a level apart. The names then go
into three times six labels. Averages are exact rationals here; `Double`
has them rounded.

What `deal` leaves is three hands and their sums (`deal_eq`).
-/

namespace Volleyer

variable {α β : Type*}

/-- What `shuffled()` may return: the same entries in some order. -/
def Shuffled (xs : List α) : Type _ := { shuffled : List α // shuffled.Perm xs }

/-- The average of five levels. -/
def playerAve (player : User) : ℚ :=
  ((player.level.setBall : ℚ) + player.level.block + player.level.dig + player.level.spike +
    player.level.sum) / 5

/-- **The variables of one deal.** -/
structure Dealt where
  groups : List (List User) := [[], [], []]
  levelSum : List ℚ := [0, 0, 0]
  totalNumber : ℕ := 0
  nthTotal : ℕ := totalNumber % 3

/-- The body of the loop over the players. A remainder by three is in
range of the three groups. -/
def Dealt.append (d : Dealt) (player : User) : Dealt where
  groups := d.groups.modify d.nthTotal (· ++ [player])
  levelSum := d.levelSum.modify d.nthTotal (· + playerAve player)
  totalNumber := d.totalNumber + 1
  nthTotal := (d.totalNumber + 1) % 3

def deal (shuffledPlayers : List User) : Dealt := shuffledPlayers.foldl Dealt.append {}

/-- `aveDiffs.max() ?? -1` of the averages of the three sums. -/
def maxAveDiff (levelSum : List ℚ) : ℚ :=
  let levelAve := levelSum.map (· / 6)
  let aveDiffs := [|levelAve.getD 0 0 - levelAve.getD 1 0|, |levelAve.getD 2 0 - levelAve.getD 1 0|,
    |levelAve.getD 0 0 - levelAve.getD 2 0|]
  aveDiffs.max?.getD (-1)

/-- What is set of a label. -/
structure Label where
  text : String
  textColor : String
  backgroundColor : String
  cornerRadius : ℕ
  borderColor : String
  borderWidth : ℕ
  clipsToBounds : Bool
deriving DecidableEq, Repr

/-- The label of a player, blue for the men and red for the others. -/
def nameLabel (player : User) : Label where
  text := "  " ++ player.name ++ "  "
  textColor := "gray2"
  backgroundColor := if player.gender = 0 then "#D6EAF6" else "#F6DED9"
  cornerRadius := 10
  borderColor := if player.gender = 0 then "#D6EAF6" else "#F6DED9"
  borderWidth := 2
  clipsToBounds := true

/-- What is put into the labels, or `none` where a subscript traps. -/
def putNameIntoLabels (players : List (List User)) : Option (List (List Label)) :=
  (List.range 3).mapM fun i => do
    let team ← players[i]?
    (List.range 6).mapM fun j => (team[j]?).map nameLabel

def imageNames : List String := ["a", "b", "c"]

/-- The page, with what was put into its labels. -/
structure RandomTeamViewController where
  playerUsers : List User := []
  shuffledplayerUsers : List (List User) := [[], [], []]
  teams : List (List Label) := []
  restTeamImage : Option String := none

/-- **The loop**, over what the shuffles return: the page and what the
function returns, `none` while it is still in the loop. -/
def calculateMaxAverageLevelDifference (players : List User) :
    List (Shuffled players) → RandomTeamViewController → RandomTeamViewController × Option ℚ
  | [], c => (c, none)
  | shuffled :: rest, c =>
    let dealt := deal (sortByGender shuffled.1)
    let c := { c with shuffledplayerUsers := dealt.groups }
    -- 如果差 0.5 個等級就重分
    if maxAveDiff dealt.levelSum < 1 / 2 then (c, some (maxAveDiff dealt.levelSum))
    else calculateMaxAverageLevelDifference players rest c

/-- **Splitting the players**, or `none` where it traps. The labels wait
for the loop to return. -/
def generateRandomTeamWithLevel (c : RandomTeamViewController)
    (shuffles : List (Shuffled c.playerUsers)) (rest : Shuffled imageNames) :
    Option RandomTeamViewController :=
  match calculateMaxAverageLevelDifference c.playerUsers shuffles c with
  | (c, none) => some c
  | (c, some _) => do
    let teams ← putNameIntoLabels c.shuffledplayerUsers
    let image ← rest.1[0]?
    some { c with teams := teams, restTeamImage := some image }

/-! ## One deal -/

/-- The teams of one deal. -/
def team (k : ℕ) (players : List User) : List User := hand 3 k 0 players

/-- The sum of the averages of a team. -/
def sumAve (players : List User) : ℚ := (players.map playerAve).sum

@[simp] theorem sumAve_nil : sumAve [] = 0 := rfl

theorem sumAve_append (xs ys : List User) : sumAve (xs ++ ys) = sumAve xs + sumAve ys := by
  rw [sumAve, List.map_append, List.sum_append]
  rfl

/-- A player more goes to the team whose turn it is. -/
theorem team_concat (k : ℕ) (xs : List User) (x : User) :
    team k (xs ++ [x]) = if xs.length % 3 = k then team k xs ++ [x] else team k xs := by
  rw [team, hand_append, Nat.zero_add, hand_cons, hand_nil]
  split
  · rfl
  · rw [List.append_nil]
    rfl

/-- **A deal leaves three hands and their sums.** -/
theorem deal_eq (xs : List User) :
    deal xs = { groups := [team 0 xs, team 1 xs, team 2 xs]
                levelSum := [sumAve (team 0 xs), sumAve (team 1 xs), sumAve (team 2 xs)]
                totalNumber := xs.length } := by
  induction xs using List.reverseRecOn with
  | nil => rfl
  | append_singleton xs x ih =>
    have hturn : xs.length % 3 = 0 ∨ xs.length % 3 = 1 ∨ xs.length % 3 = 2 := by omega
    have hx : sumAve [x] = playerAve x := by
      rw [sumAve, List.map_singleton, List.sum_singleton]
    rw [deal, List.foldl_append, ← deal, ih, List.foldl_cons, List.foldl_nil, Dealt.append,
      List.length_append, List.length_singleton, team_concat, team_concat, team_concat]
    rcases hturn with h | h | h
    all_goals
      simp only [h, if_true, if_false, Nat.reduceEqDiff, sumAve_append, hx]
      rfl

/-! ## The labels -/

/-- Reading the entries of a list by their subscripts reads the list. -/
theorem mapM_range {f : ℕ → Option β} {ys : List β} (h : ∀ i < ys.length, f i = ys[i]?) :
    (List.range ys.length).mapM f = some ys := by
  induction ys generalizing f with
  | nil => rfl
  | cons y ys ih =>
    have hy : f 0 = some y := h 0 (Nat.succ_pos _)
    have hys : (List.range ys.length).mapM (f ∘ Nat.succ) = some ys :=
      ih fun i hi => h (i + 1) (Nat.succ_lt_succ hi)
    rw [List.length_cons, List.range_succ_eq_map, List.mapM_cons, List.mapM_map, hy, hys]
    rfl

/-- **Three teams of six fill the labels**, each player's label in the
place of the player. -/
theorem putNameIntoLabels_eq {players : List (List User)} (h3 : players.length = 3)
    (h6 : ∀ team ∈ players, team.length = 6) :
    putNameIntoLabels players = some (players.map (·.map nameLabel)) := by
  have hteam : ∀ team ∈ players,
      (List.range 6).mapM (fun j => (team[j]?).map nameLabel) = some (team.map nameLabel) := by
    intro team hmem
    have hlength : (team.map nameLabel).length = 6 := by rw [List.length_map, h6 team hmem]
    rw [← hlength]
    exact mapM_range fun j _ => List.getElem?_map.symm
  have hlength : (players.map (·.map nameLabel)).length = 3 := by rw [List.length_map, h3]
  rw [putNameIntoLabels, ← hlength]
  refine mapM_range fun i hi => ?_
  rw [List.length_map] at hi
  rw [List.getElem?_map, List.getElem?_eq_getElem hi]
  exact hteam _ (List.getElem_mem hi)

end Volleyer
