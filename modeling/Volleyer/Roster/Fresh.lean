import Volleyer.Roster.Effects

/-!
# The roster — ids are handed out once

`document()` answers an id that was never handed out. So the id of a
document still to be created is in flight once, and no state of the run
so far stores a document under it: what `setData` creates never replaces
a document.
-/

namespace Volleyer

variable {s : Server} {i : String}

/-- The id a task is going to create a document under. -/
def Task.newId : Task → Option String
  | .setPlay documentID _ _ => some documentID
  | .querySameRequest documentID _ _ _ => some documentID
  | .setRequest documentID _ => some documentID
  | _ => none

/-- Something is stored under an id. -/
def Server.Stores (s : Server) (i : String) : Prop :=
  (s.plays.get i).isSome ∨ (s.requests.get i).isSome

/-- **Ids are handed out once.** -/
structure Fresh (c : Config Server Task) : Prop where
  nodup : (c.pending.filterMap Task.newId).Nodup
  known : ∀ i ∈ c.pending.filterMap Task.newId, i ∈ c.state.allocated
  unused : ∀ i ∈ c.pending.filterMap Task.newId, ∀ s ∈ c.seen, ¬s.Stores i
  stored : ∀ s ∈ c.seen, ∀ i, s.Stores i → i ∈ c.state.allocated

/-- No task hands out an id. -/
theorem answer_allocated (s : Server) (t : Task) (r : Reply) :
    (answer s t r).1.allocated = s.allocated := by
  cases r with
  | failed => rfl
  | ok =>
    cases t with
    | querySameRequest i data play me => rw [answer_ok, answerOk_querySameRequest]
    | updateStatus request status =>
      rw [answer_ok, answerOk_updateStatus]
      rfl
    | cancelStatus request =>
      rw [answer_ok, answerOk_cancelStatus]
      rfl
    | _ => rfl

/-- **What an answer stores**: documents that were there, and the one the
task creates. -/
theorem stores_of_answer {t : Task} {r : Reply} (h : (answer s t r).1.Stores i) :
    s.Stores i ∨ t.newId = some i := by
  rcases h with h | h
  · rcases answer_plays s t r with hp | ⟨j, data, f, rfl, hp⟩ | ⟨p, data, -, hp⟩ | ⟨p, -, hp⟩ <;>
      rw [hp] at h
    · exact Or.inl (Or.inl h)
    · rw [Collection.get_set] at h
      split at h
      · rename_i hij
        exact Or.inr (congrArg some hij.symm)
      · exact Or.inl (Or.inl h)
    · rw [Collection.get_modify] at h
      split at h
      · rename_i hip
        rw [Option.isSome_map] at h
        exact Or.inl (Or.inl (hip ▸ h))
      · exact Or.inl (Or.inl h)
    · rw [Collection.get_delete] at h
      split at h
      · cases h
      · exact Or.inl (Or.inl h)
  · rcases answer_requests s t r with hr | ⟨j, data, rfl, hr⟩ | ⟨request, n, -, -, -, hr⟩ |
      ⟨j, -, hr⟩ <;> rw [hr] at h
    · exact Or.inl (Or.inr h)
    · rw [Collection.get_set] at h
      split at h
      · rename_i hij
        exact Or.inr (congrArg some hij.symm)
      · exact Or.inl (Or.inr h)
    · rw [Server.get_requests_updateRequest] at h
      split at h
      · rename_i hir
        rw [Option.isSome_map] at h
        exact Or.inl (Or.inr (hir ▸ h))
      · exact Or.inl (Or.inr h)
    · rw [Collection.get_delete] at h
      split at h
      · cases h
      · exact Or.inl (Or.inr h)

/-- The only task that passes its id on is the query of `saveRequest`,
which stores nothing. -/
theorem newId_of_answer (s : Server) (t : Task) (r : Reply) :
    (answer s t r).2.filterMap Task.newId = [] ∨
      ∃ i, t.newId = some i ∧ (answer s t r).1 = s ∧
        (answer s t r).2.filterMap Task.newId = [i] := by
  by_cases hq : ∃ i data play me, t = .querySameRequest i data play me
  · obtain ⟨i, data, play, me, rfl⟩ := hq
    cases r with
    | failed => exact Or.inl rfl
    | ok =>
      rw [answer_ok, answerOk_querySameRequest]
      split
      · exact Or.inr ⟨i, rfl, rfl, rfl⟩
      · exact Or.inl rfl
  · refine Or.inl (List.filterMap_eq_nil_iff.2 fun t' ht' => ?_)
    rcases mem_answer ht' with ⟨i, data, play, me, rfl, -⟩ | ⟨_, _, _, rfl⟩ | ⟨_, _, rfl⟩ |
      ⟨_, _, _, rfl⟩ | ⟨_, _, rfl⟩ | ⟨_, _, -, rfl⟩
    · exact absurd ⟨i, data, play, me, rfl⟩ hq
    all_goals rfl

/-- **A call takes at most one id**, and one that is new. -/
theorem newId_of_issue {a : Call} {s' : Server} {ts : List Task} (h : issue s a = some (s', ts)) :
    (ts.filterMap Task.newId = [] ∧ s' = s) ∨
      ∃ i, i ∉ s.allocated ∧ ts.filterMap Task.newId = [i] ∧
        s' = { s with allocated := i :: s.allocated } := by
  cases a with
  | savePlay play i now =>
    obtain ⟨hi, rfl, rfl⟩ := allocate_eq_some.1 h
    exact Or.inr ⟨i, hi, rfl, rfl⟩
  | saveRequest play players me i now =>
    obtain ⟨hi, rfl, rfl⟩ := allocate_eq_some.1 h
    exact Or.inr ⟨i, hi, rfl, rfl⟩
  | deletePlay play =>
    obtain ⟨rfl, rfl⟩ := Prod.mk.inj (Option.some.inj h)
    refine Or.inl ⟨?_, rfl⟩
    rw [deletePlay_eq, List.filterMap_cons_none (by rfl), List.filterMap_append,
      List.filterMap_map]
    simp [Task.newId, Function.comp_def]
  | _ =>
    obtain ⟨rfl, rfl⟩ := Prod.mk.inj (Option.some.inj h)
    exact Or.inl ⟨rfl, rfl⟩

namespace Fresh

variable {c c' : Config Server Task} {e : Event Call Reply}

/-- Nothing is in flight and every stored document has its id. -/
theorem start (h : ∀ i, s.Stores i → i ∈ s.allocated) : Fresh (Config.start s) where
  nodup := List.nodup_nil
  known := by simp
  unused := by simp
  stored s' hs' := by
    obtain rfl := List.mem_singleton.1 hs'
    exact h

/-- **A step hands out no id twice.** -/
theorem step (h : Fresh c) (hs : roster.step c e = some c') : Fresh c' := by
  rcases Machine.step_cases hs with ⟨a, s', ts, -, hi, rfl⟩ | ⟨k, r, t, -, ht, rfl⟩
  · rcases newId_of_issue hi with ⟨hts, rfl⟩ | ⟨i, hi', hts, rfl⟩
    · constructor
      · simpa [hts] using h.nodup
      · simpa [hts] using h.known
      · simpa [hts, Config.seen] using h.unused
      · simpa [Config.seen] using h.stored
    · have hstores : ∀ s ∈ c.seen, ¬s.Stores i := fun s hs his => hi' (h.stored s hs i his)
      refine ⟨?_, fun j hj => ?_, fun j hj s hs => ?_, fun s hs j hj => ?_⟩
      · rw [List.filterMap_append, hts, List.nodup_append]
        refine ⟨h.nodup, List.nodup_singleton i, fun j hj k hk => ?_⟩
        obtain rfl := List.mem_singleton.1 hk
        exact fun hjk : j = k => hi' (hjk ▸ h.known j hj)
      · rw [List.filterMap_append, hts, List.mem_append] at hj
        rcases hj with hj | hj
        · exact List.mem_cons_of_mem _ (h.known j hj)
        · exact List.mem_singleton.1 hj ▸ List.mem_cons_self
      · have hs' : ∃ s' ∈ c.seen, s.Stores j ↔ s'.Stores j := by
          rcases List.mem_cons.1 hs with rfl | hs
          · exact ⟨c.state, List.mem_cons_self, Iff.rfl⟩
          · exact ⟨s, hs, Iff.rfl⟩
        obtain ⟨s', hs', hiff⟩ := hs'
        rw [hiff]
        rw [List.filterMap_append, hts, List.mem_append] at hj
        rcases hj with hj | hj
        · exact h.unused j hj s' hs'
        · exact List.mem_singleton.1 hj ▸ hstores s' hs'
      · refine List.mem_cons_of_mem _ ?_
        rcases List.mem_cons.1 hs with rfl | hs
        · exact h.stored c.state List.mem_cons_self j hj
        · exact h.stored s hs j hj
  · rw [roster_answer]
    have hperm : (c.pending.filterMap Task.newId).Perm
        ((t :: c.pending.eraseIdx k).filterMap Task.newId) :=
      (Machine.perm_cons_eraseIdx ht).filterMap _
    have hnodup := hperm.nodup_iff.1 h.nodup
    have hmem : ∀ {j}, j ∈ (t :: c.pending.eraseIdx k).filterMap Task.newId →
        j ∈ c.pending.filterMap Task.newId := hperm.mem_iff.2
    have hrest : ∀ {j}, j ∈ (c.pending.eraseIdx k).filterMap Task.newId →
        j ∈ (t :: c.pending.eraseIdx k).filterMap Task.newId := by
      intro j hj
      obtain ⟨t', ht', hj⟩ := List.mem_filterMap.1 hj
      exact List.mem_filterMap.2 ⟨t', List.mem_cons_of_mem _ ht', hj⟩
    have hstored : ∀ s ∈ (answer c.state t r).1 :: c.seen, ∀ j, s.Stores j →
        j ∈ (answer c.state t r).1.allocated := by
      intro s hs j hj
      rw [answer_allocated]
      rcases List.mem_cons.1 hs with rfl | hs
      · rcases stores_of_answer hj with hj | hj
        · exact h.stored c.state List.mem_cons_self j hj
        · exact h.known j (List.mem_filterMap.2 ⟨t, List.mem_of_getElem? ht, hj⟩)
      · exact h.stored s hs j hj
    rcases newId_of_answer c.state t r with hnil | ⟨i, hti, hst, hone⟩
    · -- what is answered may store its id, which nothing in flight has any more
      refine ⟨?_, fun j hj => ?_, fun j hj s hs => ?_, hstored⟩
      · rw [List.filterMap_append, hnil, List.append_nil]
        exact hnodup.sublist ((List.sublist_cons_self t _).filterMap _)
      · rw [List.filterMap_append, hnil, List.append_nil] at hj
        rw [answer_allocated]
        exact h.known j (hmem (hrest hj))
      · rw [List.filterMap_append, hnil, List.append_nil] at hj
        rcases List.mem_cons.1 hs with rfl | hs
        · intro hj'
          rcases stores_of_answer hj' with hj' | hj'
          · exact h.unused j (hmem (hrest hj)) c.state List.mem_cons_self hj'
          · rw [List.filterMap_cons_some hj', List.nodup_cons] at hnodup
            exact hnodup.1 hj
        · exact h.unused j (hmem (hrest hj)) s hs
    · -- the query hands its id to the write it issues and stores nothing
      have hsame : ∀ {j}, j ∈ (c.pending.eraseIdx k ++ (answer c.state t r).2).filterMap
          Task.newId → j ∈ c.pending.filterMap Task.newId := by
        intro j hj
        rw [List.filterMap_append, hone, List.mem_append, List.mem_singleton] at hj
        refine hmem ?_
        rw [List.filterMap_cons_some hti, List.mem_cons]
        exact hj.symm
      refine ⟨?_, fun j hj => ?_, fun j hj s hs => ?_, hstored⟩
      · rw [List.filterMap_append, hone]
        rw [List.filterMap_cons_some hti] at hnodup
        exact (List.perm_append_singleton _ _).nodup_iff.2 hnodup
      · rw [answer_allocated]
        exact h.known j (hsame hj)
      · have hs' : s ∈ c.seen := by
          rcases List.mem_cons.1 hs with rfl | hs
          · rw [hst]
            exact List.mem_cons_self
          · exact hs
        exact h.unused j (hsame hj) s hs'

end Fresh

/-- **In every run ids are handed out once.** -/
theorem fresh_of_run {ok : Config Server Task → Event Call Reply → Prop} {s₀ : Server}
    {evs : List (Event Call Reply)} {c : Config Server Task}
    (h₀ : ∀ i, s₀.Stores i → i ∈ s₀.allocated) (hrun : roster.Run ok (Config.start s₀) evs c) :
    Fresh c :=
  hrun.invariant (Fresh.start h₀) fun _ _ _ h _ hs => h.step hs

end Volleyer
