import Volleyer.Notify.Model

/-!
# The new-request test — the dates it is defined for

The callback of `listenPlayRequests` narrows the launch date to an `Int32`
before it compares it with the second a request was created in. The
narrowing traps outside of the range, which ends in January 2038, and it
drops the fraction of a second towards 1970. So the test is the one it
reads as (`notifies_iff`) for the launch dates in between, and one request
with a date is enough to tell the others apart.
-/

namespace Volleyer

namespace DocumentChange

/-- **An added request of a later second than the launch.** -/
def IsNew (launch : Date) (diff : DocumentChange) : Prop :=
  diff.type = .added ∧ ∃ time ∈ diff.createTime, launch.seconds < time.seconds

instance (launch : Date) (diff : DocumentChange) : Decidable (diff.IsNew launch) :=
  inferInstanceAs (Decidable (_ ∧ _))

/-- **The test is defined on a change, and right**: it is not reached, or
the launch date can be narrowed, and the request is not of the very second
a fraction before 1970 is narrowed to. -/
def Tested (launch : Date) (diff : DocumentChange) : Prop :=
  diff.type = .added → ∀ time ∈ diff.createTime,
    launch.FitsInt32 ∧ (launch.int64 = launch.seconds ∨ time.seconds ≠ launch.int64)

end DocumentChange

/-- The launch date `scene(_:willConnectTo:options:)` keeps. -/
def SceneDelegate.scene (now : Date) : Option Date := some now

namespace RequestDataManager

/-- **The callback of the listener on received requests**: the ids it
raises notifications with, in order. A trap ends the process. -/
def receivedCallback (launchAppDate : Option Date) : List DocumentChange → Option (List String)
  | [] => some []
  | diff :: documentChanges =>
      (notifyChange launchAppDate diff).bind fun raised =>
        (receivedCallback launchAppDate documentChanges).map (raised ++ ·)

end RequestDataManager

open RequestDataManager

variable {launch : Date} {diff : DocumentChange} {changes : List DocumentChange}

/-! ## The narrowing -/

theorem int32_of_fits (h : launch.FitsInt32) :
    ∃ launchSecond, launch.int32 = some launchSecond ∧ launchSecond.toInt = launch.int64 :=
  ⟨_, if_pos h, Int32.toInt_ofInt_of_le h.1 h.2⟩

/-- The narrowed second is the date's own, or the next one. -/
theorem int64_cases (date : Date) : date.int64 = date.seconds ∨ date.int64 = date.seconds + 1 := by
  unfold Timestamp.int64
  split
  · exact Or.inr rfl
  · exact Or.inl rfl

/-! ## One change -/

/-- **What the callback takes for a later second than the launch's**: the
launch date can be narrowed, to an earlier one. -/
def Timestamp.SeenBefore (launch time : Timestamp) : Prop :=
  launch.FitsInt32 ∧ launch.int64 < time.seconds

instance (launch time : Timestamp) : Decidable (launch.SeenBefore time) :=
  inferInstanceAs (Decidable (_ ∧ _))

/-- **A trap** is of a launch date that does not fit. -/
theorem exists_not_fits_of_trap {launchAppDate : Option Date}
    (h : notifyChange launchAppDate diff = none) :
    ∃ launch, launchAppDate = some launch ∧ ¬launch.FitsInt32 := by
  unfold notifyChange at h
  split at h
  · split at h
    · rename_i launchTime firebaseTime htime
      refine ⟨launchTime, rfl, fun hfits => ?_⟩
      obtain ⟨launchSecond, hnarrow, -⟩ := int32_of_fits hfits
      rw [hnarrow] at h
      cases h
    · cases h
  all_goals cases h

/-- The ids that are to be raised for a change. -/
def DocumentChange.toRaise (launch : Date) (diff : DocumentChange) : List String :=
  if diff.IsNew launch then [diff.senderId] else []

/-- A change of another type, or without a date, is passed over. -/
theorem notifyChange_of_untested (h : diff.type = .added → diff.createTime = none) :
    notifyChange (SceneDelegate.scene launch) diff = some [] ∧ diff.toRaise launch = [] := by
  constructor
  · unfold notifyChange SceneDelegate.scene
    cases htype : diff.type with
    | added => simp only [h htype]
    | modified | removed => rfl
  · refine if_neg ?_
    rintro ⟨htype, time, htime, -⟩
    rw [h htype] at htime
    cases htime

/-- The test of an added request, which traps where the launch date does
not fit. -/
theorem notifyChange_of_added {time : Timestamp} (htype : diff.type = .added)
    (htime : diff.createTime = some time) :
    notifyChange (SceneDelegate.scene launch) diff =
      if launch.FitsInt32 then some (if launch.int64 < time.seconds then [diff.senderId] else [])
      else none := by
  simp only [notifyChange, SceneDelegate.scene, htype, htime]
  by_cases hfits : launch.FitsInt32
  · obtain ⟨launchSecond, hnarrow, hsecond⟩ := int32_of_fits hfits
    rw [hnarrow, Option.map_some, hsecond, if_pos hfits]
  · have hnone : launch.int32 = none := if_neg hfits
    rw [hnone, Option.map_none, if_neg hfits]

theorem toRaise_of_added {time : Timestamp} (htype : diff.type = .added)
    (htime : diff.createTime = some time) :
    diff.toRaise launch = if launch.seconds < time.seconds then [diff.senderId] else [] := by
  have hnew : diff.IsNew launch ↔ launch.seconds < time.seconds := by
    simp only [DocumentChange.IsNew, htype, htime, true_and, Option.mem_some_iff, exists_eq_left']
  simp only [DocumentChange.toRaise, hnew]

/-- **Nothing is raised beyond what is to be.** -/
theorem notifyChange_sublist {raised : List String}
    (h : notifyChange (SceneDelegate.scene launch) diff = some raised) :
    raised.Sublist (diff.toRaise launch) := by
  by_cases hadded : diff.type = .added ∧ diff.createTime ≠ none
  · obtain ⟨time, htime⟩ := Option.ne_none_iff_exists'.1 hadded.2
    rw [notifyChange_of_added hadded.1 htime] at h
    obtain ⟨-, heq⟩ := Option.ite_none_right_eq_some.1 h
    obtain rfl := Option.some.inj heq
    rw [toRaise_of_added hadded.1 htime]
    have hle : launch.seconds ≤ launch.int64 := by
      rcases int64_cases launch with hsame | hnext <;> omega
    by_cases hlater : launch.int64 < time.seconds
    · rw [if_pos hlater, if_pos (by omega)]
    · rw [if_neg hlater]
      exact List.nil_sublist _
  · have huntested : diff.type = .added → diff.createTime = none := fun htype => by
      by_contra hne
      exact hadded ⟨htype, hne⟩
    rw [(notifyChange_of_untested huntested).1] at h
    obtain rfl := Option.some.inj h
    exact List.nil_sublist _

/-- **What is raised for a change is what is to be**, exactly where the test
is defined on it and right. -/
theorem notifyChange_eq_iff :
    notifyChange (SceneDelegate.scene launch) diff = some (diff.toRaise launch) ↔
      diff.Tested launch := by
  by_cases hadded : diff.type = .added ∧ diff.createTime ≠ none
  · obtain ⟨time, htime⟩ := Option.ne_none_iff_exists'.1 hadded.2
    have htested : diff.Tested launch ↔ launch.FitsInt32 ∧
        (launch.int64 = launch.seconds ∨ time.seconds ≠ launch.int64) := by
      simp only [DocumentChange.Tested, hadded.1, htime, Option.mem_some_iff, forall_eq',
        forall_const]
    rw [notifyChange_of_added hadded.1 htime, toRaise_of_added hadded.1 htime, htested]
    by_cases hfits : launch.FitsInt32
    · rw [if_pos hfits, Option.some.injEq, and_iff_right hfits]
      rcases int64_cases launch with hsame | hnext
      · rw [hsame]
        exact iff_of_true rfl (Or.inl rfl)
      · -- the two tests part at the second that is narrowed to
        by_cases hlater : launch.int64 < time.seconds
        · rw [if_pos hlater, if_pos (by omega)]
          exact iff_of_true rfl (Or.inr (by omega))
        · by_cases hnew : launch.seconds < time.seconds
          · rw [if_neg hlater, if_pos hnew]
            refine iff_of_false (List.cons_ne_nil _ _).symm ?_
            omega
          · rw [if_neg hlater, if_neg hnew]
            exact iff_of_true rfl (Or.inr (by omega))
    · rw [if_neg hfits]
      exact iff_of_false (Option.some_ne_none _).symm fun h => hfits h.1
  · have huntested : diff.type = .added → diff.createTime = none := fun htype => by
      by_contra hne
      exact hadded ⟨htype, hne⟩
    have hpassed : notifyChange (SceneDelegate.scene launch) diff = some [] ∧
        diff.toRaise launch = [] := notifyChange_of_untested huntested
    refine iff_of_true (by rw [hpassed.1, hpassed.2]) fun htype time htime => ?_
    rw [huntested htype] at htime
    cases htime

/-! ## A snapshot -/

/-- Of a snapshot, too, nothing is raised beyond what is to be. -/
theorem receivedCallback_sublist {raised : List String}
    (h : receivedCallback (SceneDelegate.scene launch) changes = some raised) :
    raised.Sublist (changes.flatMap fun diff => diff.toRaise launch) := by
  induction changes generalizing raised with
  | nil =>
    obtain rfl := Option.some.inj h
    exact List.Sublist.refl _
  | cons diff changes ih =>
    obtain ⟨first, hfirst, hrest⟩ := Option.bind_eq_some_iff.1 h
    obtain ⟨rest, hcallback, rfl⟩ := Option.map_eq_some_iff.1 hrest
    rw [List.flatMap_cons]
    exact (notifyChange_sublist hfirst).append (ih hcallback)

/-- **Who is notified**: the senders of the new requests, in order. -/
theorem flatMap_toRaise (launch : Date) (changes : List DocumentChange) :
    (changes.flatMap fun diff => diff.toRaise launch) =
      (changes.filter (·.IsNew launch)).map DocumentChange.senderId := by
  induction changes with
  | nil => rfl
  | cons diff changes ih =>
    rw [List.flatMap_cons, List.filter_cons, ih]
    by_cases hnew : diff.IsNew launch
    · simp [DocumentChange.toRaise, hnew]
    · simp [DocumentChange.toRaise, hnew]

/-- **The new-request test is defined, and right**, on a launch date and a
snapshot exactly where it is on every change of it. -/
theorem notifies_iff :
    receivedCallback (SceneDelegate.scene launch) changes =
        some ((changes.filter (·.IsNew launch)).map DocumentChange.senderId) ↔
      ∀ diff ∈ changes, diff.Tested launch := by
  rw [← flatMap_toRaise]
  induction changes with
  | nil => exact iff_of_true rfl fun _ hdiff => absurd hdiff List.not_mem_nil
  | cons diff changes ih =>
    rw [List.forall_mem_cons, ← ih, ← notifyChange_eq_iff, List.flatMap_cons]
    constructor
    · intro h
      obtain ⟨first, hfirst, hrest⟩ := Option.bind_eq_some_iff.1 h
      obtain ⟨rest, hcallback, happend⟩ := Option.map_eq_some_iff.1 hrest
      -- neither part is longer than it is to be, so both are as long
      have hfirstle := (notifyChange_sublist hfirst).length_le
      have hrestle := (receivedCallback_sublist hcallback).length_le
      have hlength := congrArg List.length happend
      simp only [List.length_append] at hlength
      obtain ⟨rfl, rfl⟩ := List.append_inj happend (by omega)
      exact ⟨hfirst, hcallback⟩
    · rintro ⟨hfirst, hrest⟩
      rw [receivedCallback, hfirst, Option.bind_some, hrest, Option.map_some]

/-- **The first second out of range**, on the 19th of January 2038: the
callback traps at the first request that comes in. -/
theorem notifies_fails : ¬∀ (launch : Date) (changes : List DocumentChange),
    receivedCallback (SceneDelegate.scene launch) changes =
      some ((changes.filter (·.IsNew launch)).map DocumentChange.senderId) := by
  intro h
  have htrap : receivedCallback (SceneDelegate.scene ⟨2147483648, 0⟩)
      [⟨.added, "r", Doc.setData [(.createTime, .timestamp ⟨2147483649, 0⟩)]⟩] = none := rfl
  have hraised := h ⟨2147483648, 0⟩
    [⟨.added, "r", Doc.setData [(.createTime, .timestamp ⟨2147483649, 0⟩)]⟩]
  rw [htrap] at hraised
  cases hraised

end Volleyer
