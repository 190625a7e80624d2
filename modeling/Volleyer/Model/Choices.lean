import Volleyer.Model.Documents

/-!
# The tables the forms choose from

What a form lets one choose is stored as an index, and read back as a
subscript of the table, which traps where the index is out of range.
`LevelRange.Within` is the range of five levels at once.
-/

namespace Volleyer

def playTypes : List String := ["女網女排", "女網混排", "男網男排", "男網混排"]

def levelList : List String := ["S", "A", "B", "C", "無"]

def genderList : List String := ["男", "女"]

/-- `xs[i]`, or `none` where the program traps. -/
def subscript {α : Type} (xs : List α) (i : ℤ) : Option α :=
  if 0 ≤ i then xs[i.toNat]? else none

theorem isSome_subscript_iff {α : Type} {xs : List α} {i : ℤ} :
    (subscript xs i).isSome ↔ 0 ≤ i ∧ i < xs.length := by
  unfold subscript
  split
  · rw [Option.isSome_iff_ne_none, Ne, List.getElem?_eq_none_iff]
    constructor <;> intro h <;> omega
  · constructor
    · intro h
      cases h
    · intro h
      omega

/-- The types of a play, and the genders, by their indices. -/
theorem isSome_playTypes_iff {type : ℤ} :
    (subscript playTypes type).isSome ↔ 0 ≤ type ∧ type ≤ 3 := by
  have hlength : playTypes.length = 4 := rfl
  rw [isSome_subscript_iff, hlength]
  omega

theorem isSome_genderList_iff {gender : ℤ} :
    (subscript genderList gender).isSome ↔ 0 ≤ gender ∧ gender ≤ 1 := by
  have hlength : genderList.length = 2 := rfl
  rw [isSome_subscript_iff, hlength]
  omega

/-- `xs.firstIndex(of: x) ?? 0` -/
def firstIndexOrZero (xs : List String) (x : String) : ℤ := ((xs.idxOf? x).getD 0 : ℕ)

/-- What is found is in a table, and what is not counts as its first entry. -/
theorem firstIndexOrZero_range {xs : List String} (x : String) (h : xs ≠ []) :
    0 ≤ firstIndexOrZero xs x ∧ firstIndexOrZero xs x < xs.length := by
  have hlength := List.length_pos_iff.2 h
  unfold firstIndexOrZero
  cases hi : xs.idxOf? x with
  | none =>
    rw [Option.getD_none]
    omega
  | some i =>
    have hlt : i < xs.length := (List.findIdx?_eq_some_iff_getElem.1 hi).1
    rw [Option.getD_some]
    omega

/-- An entry of a table is what its index is a subscript of. -/
theorem subscript_firstIndexOrZero {xs : List String} {x : String} (h : x ∈ xs) :
    subscript xs (firstIndexOrZero xs x) = some x := by
  unfold firstIndexOrZero
  cases hi : xs.idxOf? x with
  | none => exact absurd h (List.idxOf?_eq_none_iff.1 hi)
  | some i =>
    obtain ⟨hlt, hx, -⟩ := List.findIdx?_eq_some_iff_getElem.1 hi
    show subscript xs (i : ℤ) = some x
    unfold subscript
    rw [if_pos (by omega), Int.toNat_natCast, List.getElem?_eq_getElem hlt, beq_iff_eq.1 hx]

theorem subscript_map {α β : Type} (f : α → β) (xs : List α) (i : ℤ) :
    subscript (xs.map f) i = (subscript xs i).map f := by
  unfold subscript
  split
  · exact List.getElem?_map
  · rfl

/-! ## Levels -/

/-- The five rows of checkboxes. -/
inductive Level
  | setBall | block | dig | spike | sum
deriving DecidableEq, Repr

namespace LevelRange

/-- The level of a row. -/
def row (l : LevelRange) : Level → ℤ
  | .setBall => l.setBall
  | .block => l.block
  | .dig => l.dig
  | .spike => l.spike
  | .sum => l.sum

/-- The levels with another one in a row. -/
def set (l : LevelRange) (level : Level) (tag : ℤ) : LevelRange :=
  match level with
  | .setBall => { l with setBall := tag }
  | .block => { l with block := tag }
  | .dig => { l with dig := tag }
  | .spike => { l with spike := tag }
  | .sum => { l with sum := tag }

/-- **Five levels from `0` to `n`.** -/
def Within (n : ℤ) (l : LevelRange) : Prop := ∀ level, 0 ≤ l.row level ∧ l.row level ≤ n

theorem row_set (l : LevelRange) (level level' : Level) (tag : ℤ) :
    (l.set level tag).row level' = if level' = level then tag else l.row level' := by
  cases level <;> cases level' <;> rfl

theorem set_row (l : LevelRange) (level : Level) : l.set level (l.row level) = l := by
  cases level <;> rfl

variable {n m : ℤ} {l : LevelRange}

/-- Row by row. -/
theorem within_iff : l.Within n ↔ (0 ≤ l.setBall ∧ l.setBall ≤ n) ∧ (0 ≤ l.block ∧ l.block ≤ n) ∧
    (0 ≤ l.dig ∧ l.dig ≤ n) ∧ (0 ≤ l.spike ∧ l.spike ≤ n) ∧ (0 ≤ l.sum ∧ l.sum ≤ n) := by
  constructor
  · exact fun h => ⟨h .setBall, h .block, h .dig, h .spike, h .sum⟩
  · rintro ⟨hset, hblock, hdig, hspike, hsum⟩ (_ | _ | _ | _ | _)
    · exact hset
    · exact hblock
    · exact hdig
    · exact hspike
    · exact hsum

theorem Within.mono (h : l.Within n) (hnm : n ≤ m) : l.Within m := fun level => by
  have hlevel := h level
  omega

theorem Within.set (h : l.Within n) (level : Level) {tag : ℤ} (h0 : 0 ≤ tag) (hn : tag ≤ n) :
    (l.set level tag).Within n := fun level' => by
  rw [row_set]
  split
  · exact ⟨h0, hn⟩
  · exact h level'

/-- Levels are read back as they were written. -/
@[simp] theorem decodeLevelRange_value (l : LevelRange) :
    decodeLevelRange l.value.asIntDict = l := rfl

end LevelRange

/-- The tags of a row of checkboxes. -/
def createCheckboxes (n : ℕ) : List ℤ := (List.range n).map Int.ofNat

/-- A checkbox of a row has a tag in range. -/
theorem tag_range {n : ℕ} {i tag : ℤ} (h : subscript (createCheckboxes n) i = some tag) :
    tag = i ∧ 0 ≤ tag ∧ tag < n := by
  unfold subscript createCheckboxes at h
  split at h
  · rename_i hi
    rw [List.getElem?_map, Option.map_eq_some_iff] at h
    obtain ⟨j, hj, rfl⟩ := h
    obtain ⟨hlt, hj⟩ := List.getElem?_eq_some_iff.1 hj
    rw [List.getElem_range] at hj
    rw [List.length_range] at hlt
    rw [Int.ofNat_eq_natCast]
    omega
  · cases h

@[simp] theorem length_createCheckboxes (n : ℕ) : (createCheckboxes n).length = n := by
  rw [createCheckboxes, List.length_map, List.length_range]

/-- And a tag in range is one of a checkbox. -/
theorem subscript_createCheckboxes {n : ℕ} {i : ℤ} (h : 0 ≤ i ∧ i < n) :
    subscript (createCheckboxes n) i = some i := by
  have hsome : (subscript (createCheckboxes n) i).isSome := by
    rw [isSome_subscript_iff, length_createCheckboxes]
    exact h
  obtain ⟨tag, htag⟩ := Option.isSome_iff_exists.1 hsome
  obtain ⟨rfl, -⟩ := tag_range htag
  exact htag

/-- **Five subscripts of rows of checkboxes** are in range together. -/
theorem isSome_checkboxes_iff {n : ℕ} {l : LevelRange} :
    (∀ level, (subscript (createCheckboxes (n + 1)) (l.row level)).isSome) ↔ l.Within n := by
  refine forall_congr' fun level => ?_
  rw [isSome_subscript_iff, length_createCheckboxes]
  omega

/-- **A form that ticks five rows**, one after the other, opens exactly where
the levels are in range. -/
theorem isSome_tickRows_iff {α : Type} {n : ℕ} {l : LevelRange} (form : ℤ → ℤ → ℤ → ℤ → ℤ → α) :
    (do
      let setBall ← subscript (createCheckboxes (n + 1)) l.setBall
      let block ← subscript (createCheckboxes (n + 1)) l.block
      let dig ← subscript (createCheckboxes (n + 1)) l.dig
      let spike ← subscript (createCheckboxes (n + 1)) l.spike
      let sum ← subscript (createCheckboxes (n + 1)) l.sum
      return form setBall block dig spike sum : Option α).isSome ↔ l.Within n := by
  rw [← isSome_checkboxes_iff]
  simp only [Option.isSome_iff_exists, Option.bind_eq_bind, Option.bind_eq_some_iff,
    Option.pure_def, Option.some.injEq]
  constructor
  · rintro ⟨_, t₁, h₁, t₂, h₂, t₃, h₃, t₄, h₄, t₅, h₅, -⟩ level
    cases level with
    | setBall => exact ⟨t₁, h₁⟩
    | block => exact ⟨t₂, h₂⟩
    | dig => exact ⟨t₃, h₃⟩
    | spike => exact ⟨t₄, h₄⟩
    | sum => exact ⟨t₅, h₅⟩
  · intro htags
    obtain ⟨t₁, h₁⟩ := htags .setBall
    obtain ⟨t₂, h₂⟩ := htags .block
    obtain ⟨t₃, h₃⟩ := htags .dig
    obtain ⟨t₄, h₄⟩ := htags .spike
    obtain ⟨t₅, h₅⟩ := htags .sum
    exact ⟨_, t₁, h₁, t₂, h₂, t₃, h₃, t₄, h₄, t₅, h₅, rfl⟩

end Volleyer
