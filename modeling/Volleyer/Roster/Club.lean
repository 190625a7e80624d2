import Mathlib.Data.List.Nodup
import Mathlib.Logic.Function.Basic
import Mathlib.Tactic.Common

/-!
# The club

What the roster is for, with nothing of how it is stored. A club knows
who found each play, who applied to join which, and the applications it
has seated, in their order; each of these is kept once. Who plays is
read off: the finder of a play, then the senders of its seated
applications (`roster`).

A `Club` carries what makes it one. `step` is what its members do; an
operation that is not enabled has no successor.
-/

namespace Volleyer

/-- What became of an application. -/
inductive Standing
  | waiting
  | seated
  | declined
  | withdrawn
deriving DecidableEq, Repr

/-- Somebody applies to join a play. -/
structure Application (Member Game : Type*) where
  sender : Member
  play : Game
  standing : Standing

/-- **A club.** Nobody applies to a play that is not there or to their own,
or twice to one; the seats are the applications that stand seated. -/
structure Club (Member Game Id : Type*) where
  finder : Game → Option Member
  application : Id → Option (Application Member Game)
  seats : List Id
  applies : ∀ i a, application i = some a → ∃ f, finder a.play = some f ∧ a.sender ≠ f
  once : ∀ i j a b, application i = some a → application j = some b → a.sender = b.sender →
    a.play = b.play → i = j
  nodup : seats.Nodup
  seated : ∀ i, i ∈ seats ↔ ∃ a, application i = some a ∧ a.standing = .seated

/-- What the members do. -/
inductive ClubOp (Member Game Id : Type*)
  | post (p : Game) (f : Member)
  | close (p : Game)
  | apply (i : Id) (u : Member) (p : Game)
  | seat (i : Id)
  | decline (i : Id)
  | withdraw (i : Id)

namespace Club

variable {Member Game Id : Type*} [DecidableEq Game] [DecidableEq Id]

/-- The club nobody has used. -/
def empty : Club Member Game Id where
  finder _ := none
  application _ := none
  seats := []
  applies i a h := by cases h
  once i j a b h := by cases h
  nodup := List.nodup_nil
  seated i := by simp

variable (C : Club Member Game Id) {p q : Game} {i j : Id} {f u : Member}

/-! ## Who plays -/

/-- The member an application brings into a play. -/
def seatIn (p : Game) (i : Id) : Option Member :=
  (C.application i).bind fun a => if a.play = p then some a.sender else none

/-- **The roster**: the finder, then the members seated, as they were. -/
def roster (p : Game) : Option (List Member) :=
  (C.finder p).map fun f => f :: C.seats.filterMap (C.seatIn p)

/-- A member plays where the roster says so. -/
def Plays (u : Member) (p : Game) : Prop := ∃ r, C.roster p = some r ∧ u ∈ r

omit [DecidableEq Id] in
theorem seatIn_eq_some : C.seatIn p i = some u ↔
    ∃ a, C.application i = some a ∧ a.play = p ∧ a.sender = u := by
  simp only [seatIn, Option.bind_eq_some_iff, Option.ite_none_right_eq_some, Option.some.injEq]

omit [DecidableEq Id] in
/-- **Nobody is in a roster twice.** -/
theorem nodup_roster {r : List Member} (h : C.roster p = some r) : r.Nodup := by
  obtain ⟨f, hf, rfl⟩ := Option.map_eq_some_iff.1 h
  refine List.nodup_cons.2 ⟨fun hmem => ?_, ?_⟩
  · -- the finder sent no application
    obtain ⟨i, -, hi⟩ := List.mem_filterMap.1 hmem
    obtain ⟨a, ha, rfl, hs⟩ := C.seatIn_eq_some.1 hi
    obtain ⟨g, hg, hne⟩ := C.applies i a ha
    rw [hf, Option.some.injEq] at hg
    exact hne (hs.trans hg)
  · refine List.Nodup.filterMap (fun i j v hi hj => ?_) C.nodup
    obtain ⟨a, ha, hap, has⟩ := C.seatIn_eq_some.1 hi
    obtain ⟨b, hb, hbp, hbs⟩ := C.seatIn_eq_some.1 hj
    exact C.once i j a b ha hb (has.trans hbs.symm) (hap.trans hbp.symm)

omit [DecidableEq Id] in
/-- **A member plays** as the finder, or by an application that stands
seated. -/
theorem plays_iff : C.Plays u p ↔ C.finder p = some u ∨
    ∃ i a, C.application i = some a ∧ a.standing = .seated ∧ a.sender = u ∧ a.play = p := by
  constructor
  · rintro ⟨r, hr, hu⟩
    obtain ⟨f, hf, rfl⟩ := Option.map_eq_some_iff.1 hr
    rcases List.mem_cons.1 hu with rfl | hu
    · exact .inl hf
    · obtain ⟨i, hi, hui⟩ := List.mem_filterMap.1 hu
      obtain ⟨a, ha, hap, has⟩ := C.seatIn_eq_some.1 hui
      obtain ⟨b, hb, hst⟩ := (C.seated i).1 hi
      obtain rfl := Option.some.inj (ha.symm.trans hb)
      exact .inr ⟨i, a, ha, hst, has, hap⟩
  · rintro (hf | ⟨i, a, ha, hst, rfl, rfl⟩)
    · exact ⟨_, by rw [roster, hf, Option.map_some], List.mem_cons_self⟩
    · obtain ⟨f, hf, -⟩ := C.applies i a ha
      refine ⟨_, by rw [roster, hf, Option.map_some], List.mem_cons_of_mem _ ?_⟩
      exact List.mem_filterMap.2 ⟨i, (C.seated i).2 ⟨a, ha, hst⟩, C.seatIn_eq_some.2 ⟨a, ha, rfl, rfl⟩⟩

/-! ## What the members do -/

/-- A play is posted. -/
def post (p : Game) (f : Member) (h : C.finder p = none) : Club Member Game Id where
  finder := Function.update C.finder p (some f)
  application := C.application
  seats := C.seats
  applies i a ha := by
    obtain ⟨g, hg, hne⟩ := C.applies i a ha
    have hp : a.play ≠ p := fun e => by rw [e, h] at hg; cases hg
    exact ⟨g, by rw [Function.update_of_ne hp, hg], hne⟩
  once := C.once
  nodup := C.nodup
  seated := C.seated

/-- A play is closed, and what was sent for it goes. -/
def close (p : Game) : Club Member Game Id where
  finder := Function.update C.finder p none
  application i := (C.application i).filter fun a => a.play ≠ p
  seats := C.seats.filter fun i => (C.seatIn p i).isNone
  applies i a ha := by
    obtain ⟨ha, hp⟩ := Option.filter_eq_some_iff.1 ha
    rw [Function.update_of_ne (by simpa using hp)]
    exact C.applies i a ha
  once i j a b ha hb :=
    C.once i j a b (Option.filter_eq_some_iff.1 ha).1 (Option.filter_eq_some_iff.1 hb).1
  nodup := C.nodup.filter _
  seated i := by
    rw [List.mem_filter, C.seated, Option.isNone_iff_eq_none, seatIn]
    constructor
    · rintro ⟨⟨a, ha, hst⟩, hnone⟩
      rw [ha, Option.bind_some, ite_eq_right_iff] at hnone
      refine ⟨a, Option.filter_eq_some_iff.2 ⟨ha, ?_⟩, hst⟩
      exact decide_eq_true fun hp => by cases hnone hp
    · rintro ⟨a, ha, hst⟩
      obtain ⟨ha, hp⟩ := Option.filter_eq_some_iff.1 ha
      exact ⟨⟨a, ha, hst⟩, by rw [ha, Option.bind_some, if_neg (by simpa using hp)]⟩

omit [DecidableEq Game] in
/-- What is judged is the application that was there. -/
theorem exists_of_judged {n : Standing} {b : Application Member Game}
    (h : Function.update C.application i
      ((C.application i).map fun a => { a with standing := n }) j = some b) :
    ∃ a, C.application j = some a ∧ b.sender = a.sender ∧ b.play = a.play := by
  by_cases hj : j = i
  · subst hj
    rw [Function.update_self] at h
    obtain ⟨a, ha, rfl⟩ := Option.map_eq_some_iff.1 h
    exact ⟨a, ha, rfl, rfl⟩
  · rw [Function.update_of_ne hj] at h
    exact ⟨b, h, rfl, rfl⟩

/-- Somebody applies, who is not the finder and has not applied. -/
def enter (i : Id) (u : Member) (p : Game) (hi : C.application i = none)
    (hp : ∃ f, C.finder p = some f ∧ u ≠ f)
    (h : ∀ j b, C.application j = some b → b.sender = u → b.play ≠ p) : Club Member Game Id where
  finder := C.finder
  application := Function.update C.application i (some ⟨u, p, .waiting⟩)
  seats := C.seats
  applies j a ha := by
    by_cases hj : j = i
    · subst hj
      rw [Function.update_self, Option.some.injEq] at ha
      exact ha ▸ hp
    · rw [Function.update_of_ne hj] at ha
      exact C.applies j a ha
  once j k a b ha hb hs hpl := by
    by_cases hj : j = i <;> by_cases hk : k = i
    · rw [hj, hk]
    · subst hj
      rw [Function.update_self, Option.some.injEq] at ha
      rw [Function.update_of_ne hk] at hb
      subst ha
      exact absurd hpl.symm (h k b hb hs.symm)
    · subst hk
      rw [Function.update_self, Option.some.injEq] at hb
      rw [Function.update_of_ne hj] at ha
      subst hb
      exact absurd hpl (h j a ha hs)
    · rw [Function.update_of_ne hj] at ha
      rw [Function.update_of_ne hk] at hb
      exact C.once j k a b ha hb hs hpl
  nodup := C.nodup
  seated j := by
    rw [C.seated]
    by_cases hj : j = i
    · subst hj
      rw [Function.update_self, hi]
      simp
    · rw [Function.update_of_ne hj]

/-- An application is judged: it leaves its seat, and gets one where it
is seated. -/
def judge (i : Id) (n : Standing) : Club Member Game Id where
  finder := C.finder
  application := Function.update C.application i
    ((C.application i).map fun a => { a with standing := n })
  seats := C.seats.erase i ++ if n = .seated ∧ (C.application i).isSome then [i] else []
  applies j b hb := by
    obtain ⟨a, ha, hs, hp⟩ := C.exists_of_judged hb
    rw [hs, hp]
    exact C.applies j a ha
  once j k b c hb hc hs hp := by
    obtain ⟨a, ha, has, hap⟩ := C.exists_of_judged hb
    obtain ⟨d, hd, hds, hdp⟩ := C.exists_of_judged hc
    exact C.once j k a d ha hd (by rw [← has, ← hds, hs]) (by rw [← hap, ← hdp, hp])
  nodup := by
    have hi := C.nodup.not_mem_erase (a := i)
    split
    · rw [← List.concat_eq_append]
      exact (C.nodup.erase i).concat hi
    · rw [List.append_nil]
      exact C.nodup.erase i
  seated j := by
    by_cases hj : j = i
    · subst hj
      have hnot := C.nodup.not_mem_erase (a := j)
      rw [Function.update_self, List.mem_append, or_iff_right hnot]
      cases C.application j with
      | none => simp
      | some a => by_cases hn : n = .seated <;> simp [hn]
    · rw [Function.update_of_ne hj, ← C.seated, List.mem_append, List.mem_erase_of_ne hj]
      refine or_iff_left fun h => ?_
      split at h
      · exact hj (List.mem_singleton.1 h)
      · cases h

open Classical in
/-- **What the members do**, where it is enabled. A second application of
one member to one play changes nothing. -/
noncomputable def step : ClubOp Member Game Id → Option (Club Member Game Id)
  | .post p f => if h : C.finder p = none then some (C.post p f h) else none
  | .close p => if (C.finder p).isSome then some (C.close p) else none
  | .apply i u p =>
      if h : C.application i = none ∧ ∃ f, C.finder p = some f ∧ u ≠ f then
        some (if hnew : ∀ j b, C.application j = some b → b.sender = u → b.play ≠ p then
          C.enter i u p h.1 h.2 hnew else C)
      else none
  | .seat i =>
      if (C.application i).map (·.standing) = some .waiting then some (C.judge i .seated) else none
  | .decline i =>
      if (C.application i).map (·.standing) = some .waiting then some (C.judge i .declined)
      else none
  | .withdraw i =>
      if ∃ a, C.application i = some a ∧ a.standing ≠ .withdrawn then
        some (C.judge i .withdrawn)
      else none

end Club

end Volleyer
