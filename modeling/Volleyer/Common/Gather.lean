import Mathlib.Data.List.Induction
import Mathlib.Tactic.Common

/-!
# Gathering answers

A gatherer reads several things at once and collects what it finds in an
array. Each callback that found something compares the length of the
array with the number of reads, and hands the array over where they
agree; one that failed may report the error. What a gatherer has handed
over depends on its answers alone (`foldl_receive`): the array exactly
when everything it asked for has been found, and an error for each
failure.
-/

namespace Volleyer

variable {α : Type*}

/-- **What a read answers**: what was found, that there is nothing, or an
error. -/
inductive Fetched (α : Type*)
  | found (a : α)
  | missing
  | failed

namespace Fetched

/-- What was found, if anything was. -/
def record : Fetched α → Option α
  | found a => some a
  | _ => none

/-- Whether the read failed. -/
def isFailed : Fetched α → Bool
  | failed => true
  | _ => false

/-- A read that does not fail. -/
def ofOption : Option α → Fetched α
  | some a => found a
  | none => missing

end Fetched

/-- **The variables of a gatherer**: the array, and what was handed over,
`none` for an error. -/
structure Gather (α : Type*) where
  array : List α := []
  handed : List (Option (List α)) := []

namespace Gather

/-- The lists handed over. -/
def lists (g : Gather α) : List (List α) := g.handed.filterMap id

/-- The number of errors handed over. -/
def errors (g : Gather α) : ℕ := g.handed.countP Option.isNone

/-- What a gatherer handed over is lists and errors. -/
theorem length_handed (g : Gather α) : g.handed.length = g.lists.length + g.errors := by
  unfold lists errors
  induction g.handed with
  | nil => rfl
  | cons o os ih =>
    cases o with
    | none =>
      rw [List.filterMap_cons_none rfl, List.countP_cons_of_pos rfl, List.length_cons, ih]
      omega
    | some l =>
      have hlist : (some l :: os).filterMap id = l :: os.filterMap id := List.filterMap_cons_some rfl
      rw [hlist, List.countP_cons_of_neg (by simp), List.length_cons, List.length_cons, ih]
      omega

/-- **One callback**, of a gatherer of `count` reads that puts its array
in order by `finish` and reports errors if `reports`. -/
def receive (finish : List α → List α) (reports : Bool) (count : ℕ) (g : Gather α) :
    Fetched α → Gather α
  | .found a =>
      let array := g.array ++ [a]
      if array.length = count then
        { array := finish array, handed := g.handed ++ [some (finish array)] }
      else { g with array := array }
  | .missing => g
  | .failed => if reports then { g with handed := g.handed ++ [none] } else g

variable {finish : List α → List α} {reports : Bool} {count : ℕ} {g : Gather α}
variable {o : Fetched α} {os : List (Fetched α)}

/-- What was found among some answers. -/
def records (os : List (Fetched α)) : List α := os.filterMap Fetched.record

theorem length_records_le (os : List (Fetched α)) : (records os).length ≤ os.length :=
  List.length_filterMap_le ..

theorem records_append (os os' : List (Fetched α)) :
    records (os ++ os') = records os ++ records os' := List.filterMap_append

/-- As much was found as was answered if each answer found something. -/
theorem length_records_eq_iff :
    (records os).length = os.length ↔ ∀ o ∈ os, o.record.isSome := by
  unfold records
  rw [List.filterMap_length_eq_length]

/-- An answer that found nothing leaves the array, and hands over no
list. -/
theorem receive_of_record_eq_none (h : o.record = none) :
    (receive finish reports count g o).array = g.array ∧
      (receive finish reports count g o).lists = g.lists := by
  cases o with
  | found a => cases h
  | missing => exact ⟨rfl, rfl⟩
  | failed =>
    simp only [receive]
    split
    · have happend : (g.handed ++ [none]).filterMap id = g.lists ++ [] := List.filterMap_append
      exact ⟨rfl, happend.trans (List.append_nil _)⟩
    · exact ⟨rfl, rfl⟩

/-- The last thing to be found completes the array, which is handed
over. -/
theorem receive_of_length_eq {a : α} (h : (g.array ++ [a]).length = count) :
    (receive finish reports count g (.found a)).array = finish (g.array ++ [a]) ∧
      (receive finish reports count g (.found a)).lists = g.lists ++ [finish (g.array ++ [a])] := by
  unfold receive
  simp only [if_pos h]
  exact ⟨trivial, List.filterMap_append⟩

/-- What is found before is appended. -/
theorem receive_of_length_ne {a : α} (h : (g.array ++ [a]).length ≠ count) :
    (receive finish reports count g (.found a)).array = g.array ++ [a] ∧
      (receive finish reports count g (.found a)).lists = g.lists := by
  unfold receive
  simp only [if_neg h]
  exact ⟨trivial, rfl⟩

/-- **Each failure is reported**, where failures are. -/
theorem errors_foldl_receive :
    (os.foldl (receive finish reports count) g).errors =
      g.errors + if reports then os.countP Fetched.isFailed else 0 := by
  induction os generalizing g with
  | nil => simp
  | cons o os ih =>
    have hstep : (receive finish reports count g o).errors =
        g.errors + if reports ∧ o.isFailed then 1 else 0 := by
      unfold receive errors
      cases o with
      | missing => simp [Fetched.isFailed]
      | failed => cases reports <;> simp [Fetched.isFailed]
      | found a =>
        dsimp only
        split <;> simp [Fetched.isFailed]
    rw [List.foldl_cons, ih, hstep, List.countP_cons, Nat.add_assoc]
    cases reports <;> simp [Nat.add_comm]

/-- **What a gatherer hands over.** As long as no more was answered than
asked for, the array is what was found; it was handed over once if that is
everything, and otherwise not at all. -/
theorem foldl_receive (h : os.length ≤ count) :
    (os.foldl (receive finish reports count) {}).array =
        (if 0 < count ∧ (records os).length = count then finish (records os) else records os) ∧
      (os.foldl (receive finish reports count) {}).lists =
        if 0 < count ∧ (records os).length = count then [finish (records os)] else [] := by
  induction os using List.reverseRecOn with
  | nil =>
    have hnot : ¬(0 < count ∧ (records ([] : List (Fetched α))).length = count) := by
      rintro ⟨hpos, hlength⟩
      exact absurd hlength (Nat.ne_of_lt hpos)
    rw [if_neg hnot, if_neg hnot]
    exact ⟨rfl, rfl⟩
  | append_singleton os o ih =>
    rw [List.length_append, List.length_singleton] at h
    obtain ⟨harray, hlists⟩ := ih (by omega)
    -- before its last answer the gatherer had not found everything
    have hle := length_records_le os
    have hnot : ¬(0 < count ∧ (records os).length = count) := by omega
    rw [if_neg hnot] at harray hlists
    rw [List.foldl_append, List.foldl_cons, List.foldl_nil, records_append]
    generalize os.foldl (receive finish reports count) {} = g at harray hlists
    cases hrecord : o.record with
    | none =>
      have hlast : records [o] = [] := List.filterMap_cons_none hrecord
      obtain ⟨harray', hlists'⟩ := receive_of_record_eq_none hrecord
      rw [hlast, List.append_nil, if_neg hnot, if_neg hnot, harray', hlists']
      exact ⟨harray, hlists⟩
    | some a =>
      obtain rfl : o = .found a := by
        cases o with
        | found b => exact congrArg Fetched.found (Option.some.inj hrecord)
        | missing => cases hrecord
        | failed => cases hrecord
      have hlast : records [Fetched.found a] = [a] := rfl
      have hlength : (records os ++ [a]).length = (records os).length + 1 := by simp
      rw [hlast]
      by_cases hfull : (records os ++ [a]).length = count
      · have hpos : 0 < count := by omega
        obtain ⟨harray', hlists'⟩ := receive_of_length_eq (harray ▸ hfull)
        rw [if_pos ⟨hpos, hfull⟩, if_pos ⟨hpos, hfull⟩, harray', hlists', harray, hlists]
        exact ⟨rfl, rfl⟩
      · obtain ⟨harray', hlists'⟩ := receive_of_length_ne (harray ▸ hfull)
        rw [if_neg fun h => hfull h.2, if_neg fun h => hfull h.2, harray', hlists', harray]
        exact ⟨rfl, hlists⟩

end Gather

end Volleyer
