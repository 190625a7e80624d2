import Mathlib.Data.List.Nodup
import Mathlib.Data.List.Perm.Basic
import Mathlib.Tactic.Common

/-!
# Lines

People wait at several places, each at one of them at most, first come
first served. A line is who waits and where, in the order in which they
lined up; the queue of a place is read off it. Nobody is in two queues by
construction: lining up while waiting does nothing.
-/

namespace Volleyer

/-- **A line**: who waits and where, in the order they lined up. -/
abbrev Line (U K : Type*) := List (U × K)

/-- What people do. -/
inductive Tap (U K : Type*)
  | lineUp (u : U) (k : K)
  | cancel (u : U)

namespace Line

variable {U K : Type*} [DecidableEq U] [DecidableEq K] {l : Line U K} {u v : U} {k k' : K}

/-- Those who wait. -/
def users (l : Line U K) : List U := l.map Prod.fst

/-- Those who wait at a place, in order. -/
def queue (l : Line U K) (k : K) : List U := users (l.filter fun e => e.2 = k)

/-- One lines up at a place, unless one waits already. -/
def lineUp (l : Line U K) (u : U) (k : K) : Line U K :=
  if u ∈ l.users then l else l ++ [(u, k)]

/-- One leaves. -/
def cancel (l : Line U K) (u : U) : Line U K := l.filter fun e => e.1 ≠ u

def tap (l : Line U K) : Tap U K → Line U K
  | .lineUp u k => l.lineUp u k
  | .cancel u => l.cancel u

/-- **The line after some taps**, nobody waiting at first. -/
def ofTaps (taps : List (Tap U K)) : Line U K := taps.foldl tap []

omit [DecidableEq K] in
theorem ofTaps_append (taps taps' : List (Tap U K)) :
    ofTaps (taps ++ taps') = taps'.foldl tap (ofTaps taps) :=
  List.foldl_append

omit [DecidableEq U] [DecidableEq K] in
theorem mem_users : u ∈ l.users ↔ ∃ k, (u, k) ∈ l := by
  simp [users]

omit [DecidableEq U] in
theorem mem_queue : u ∈ l.queue k ↔ (u, k) ∈ l := by
  simp [queue, users]

omit [DecidableEq U] in
theorem nodup_queue (h : l.users.Nodup) (k : K) : (l.queue k).Nodup :=
  h.sublist (List.filter_sublist.map Prod.fst)

omit [DecidableEq U] [DecidableEq K] in
/-- One waits at one place. -/
theorem place_unique (h : l.users.Nodup) (hk : (u, k) ∈ l) (hk' : (u, k') ∈ l) : k = k' := by
  have heq : (u, k) = (u, k') := List.inj_on_of_nodup_map h hk hk' rfl
  exact (Prod.mk.inj heq).2

omit [DecidableEq U] in
/-- **The queues together are those who wait**, where every place someone
waits at is counted once. -/
theorem perm_flatMap_queue {ks : List K} (h : l.users.Nodup) (hks : ks.Nodup)
    (hplace : ∀ {u k}, (u, k) ∈ l → k ∈ ks) : (ks.flatMap l.queue).Perm l.users := by
  refine (List.perm_ext_iff_of_nodup (List.nodup_flatMap.2 ⟨fun k _ => nodup_queue h k, ?_⟩) h).2
    fun u => ?_
  · refine hks.imp fun {k k'} hne u hu hu' => hne ?_
    exact place_unique h (mem_queue.1 hu) (mem_queue.1 hu')
  · simp only [List.mem_flatMap, mem_queue, mem_users]
    exact ⟨fun ⟨k, _, hk⟩ => ⟨k, hk⟩, fun ⟨k, hk⟩ => ⟨k, hplace hk, hk⟩⟩

/-! ## One tap -/

omit [DecidableEq K] in
theorem lineUp_of_mem (h : u ∈ l.users) : l.lineUp u k = l := if_pos h

omit [DecidableEq K] in
theorem lineUp_of_not_mem (h : u ∉ l.users) : l.lineUp u k = l ++ [(u, k)] := if_neg h

omit [DecidableEq U] in
/-- Who comes stands behind those who are there. -/
theorem queue_append (l : Line U K) (u : U) (k k' : K) :
    Line.queue (l ++ [(u, k)]) k' = if k' = k then l.queue k' ++ [u] else l.queue k' := by
  rw [queue, queue, users, users, List.filter_append, List.map_append]
  by_cases hk : k' = k
  · simp [hk]
  · have hne : ¬k = k' := fun h => hk h.symm
    simp [hk, hne]

omit [DecidableEq U] [DecidableEq K] in
theorem mem_users_append {k : K} : v ∈ Line.users (l ++ [(u, k)]) ↔ v ∈ l.users ∨ v = u := by
  rw [users, List.map_append, List.mem_append]
  exact or_congr_right List.mem_singleton

omit [DecidableEq U] [DecidableEq K] in
theorem nodup_append (h : l.users.Nodup) (hu : u ∉ l.users) (k : K) :
    (Line.users (l ++ [(u, k)])).Nodup := by
  rw [users, List.map_append, List.nodup_append]
  refine ⟨h, List.nodup_singleton _, fun v hv w hw => ?_⟩
  obtain rfl := List.mem_singleton.1 hw
  rintro rfl
  exact hu hv

omit [DecidableEq K] in
theorem mem_cancel {e : U × K} : e ∈ l.cancel u ↔ e ∈ l ∧ e.1 ≠ u := by
  simp [cancel]

omit [DecidableEq K] in
theorem nodup_cancel (h : l.users.Nodup) (u : U) : (l.cancel u).users.Nodup :=
  h.sublist (List.filter_sublist.map Prod.fst)

omit [DecidableEq K] in
theorem mem_users_cancel : v ∈ (l.cancel u).users ↔ v ∈ l.users ∧ v ≠ u := by
  simp only [mem_users, mem_cancel, exists_and_right]

/-- Who leaves is taken out of their queue, and the others keep their
order. -/
theorem queue_cancel (h : l.users.Nodup) (hu : (u, k) ∈ l) (k' : K) :
    (l.cancel u).queue k' = if k' = k then (l.queue k').erase u else l.queue k' := by
  have hfilter : (l.cancel u).queue k' = (l.queue k').filter (· ≠ u) := by
    rw [queue, queue, users, users, cancel, List.filter_map, List.filter_filter, List.filter_filter]
    congr 1
    exact List.filter_congr fun e _ => Bool.and_comm _ _
  rw [hfilter]
  by_cases hk : k' = k
  · rw [if_pos hk, (nodup_queue h k').erase_eq_filter]
    exact List.filter_congr fun v _ => by rw [Bool.eq_iff_iff, decide_eq_true_iff, bne_iff_ne]
  · rw [if_neg hk]
    refine List.filter_eq_self.2 fun v hv => decide_eq_true ?_
    rintro rfl
    exact hk (place_unique h (mem_queue.1 hv) hu)

end Line

end Volleyer
