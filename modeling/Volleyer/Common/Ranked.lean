import Mathlib.Logic.Hydra
import Volleyer.Common.Tagged

/-!
# Callbacks come to an end

A callback puts as many requests in flight as the answer it got asks for,
so how many answers a call takes is not read off the program. That it
takes finitely many is: where every task is ranked above those it puts in
flight, each answer replaces a head of a hydra by any number of smaller
ones (`Ranked.wellFounded`). So what is in flight can be answered to the
end (`Ranked.exists_run`), and a run that does not end calls again and
again (`Ranked.exists_call`). The ranks also bound how many callbacks can
follow each other, each on the answer to the one before
(`Ranked.length_le_of_isChain`).
-/

namespace Volleyer

variable {State Call Task Reply : Type*}

/-- **Every task is ranked above what it puts in flight**, however it is
answered. -/
def Ranked (M : Machine State Call Task Reply) (rank : Task → ℕ) : Prop :=
  ∀ s t r, ∀ t' ∈ (M.answer s t r).2, rank t' < rank t

/-- The policy under which what is in flight is answered by `reply`, and
nothing is called. -/
def OnlyAnswers (reply : Task → Reply) (c : Config State Task) (e : Event Call Reply) : Prop :=
  ∃ i t, c.pending[i]? = some t ∧ e = .answer i (reply t)

namespace Machine

variable (M : Machine State Call Task Reply)

/-- An answer leads from `c` to `c'`. -/
def Answers (c' c : Config State Task) : Prop := ∃ i r, M.step c (.answer i r) = some c'

/-- A task, answered somehow in some state, puts another one in flight. -/
def Spawns (t t' : Task) : Prop := ∃ s r, t' ∈ (M.answer s t r).2

/-- **A machine whose callbacks come to an end**, no more than `k` of them
one after the other. -/
structure Terminates (k : ℕ) : Prop where
  /-- no chain of tasks, each put in flight by the one before, is longer -/
  chain : ∀ l : List Task, l.IsChain M.Spawns → l.length ≤ k
  /-- no run of answers is without an end -/
  wellFounded : WellFounded M.Answers
  /-- what is in flight can be answered to the end, whatever it is answered -/
  finishes : ∀ (reply : Task → Reply) (c : Config State Task),
    ∃ evs c', M.Run (OnlyAnswers reply) c evs c' ∧ c'.pending = []
  /-- a run that does not end calls again and again -/
  calls : ∀ (c : ℕ → Config State Task) (e : ℕ → Event Call Reply),
    (∀ n, M.step (c n) (e n) = some (c (n + 1))) → ∀ n, ∃ m, n ≤ m ∧ ∃ a, e m = .call a

end Machine

namespace Ranked

variable {M : Machine State Call Task Reply} {rank : Task → ℕ}

/-- **No run of answers is without an end.** -/
theorem wellFounded (h : Ranked M rank) : WellFounded M.Answers := by
  have hheads : WellFounded (Relation.CutExpand fun t' t : Task => rank t' < rank t) :=
    (InvImage.wf rank wellFounded_lt).cutExpand
  refine Subrelation.wf ?_ (InvImage.wf (fun c : Config State Task => (c.pending : Multiset Task))
    hheads)
  rintro c' c ⟨i, r, hs⟩
  obtain ⟨t, ht, rfl⟩ := Machine.step_answer.1 hs
  refine ⟨((M.answer c.state t r).2 : Multiset Task), t, h c.state t r, ?_⟩
  have hperm : c.pending.Perm (t :: c.pending.eraseIdx i) := Machine.perm_cons_eraseIdx ht
  have herase : (c.pending : Multiset Task) = {t} + (c.pending.eraseIdx i : Multiset Task) :=
    Multiset.coe_eq_coe.2 hperm
  show ((c.pending.eraseIdx i ++ (M.answer c.state t r).2 : List Task) : Multiset Task) + {t} =
    (c.pending : Multiset Task) + ((M.answer c.state t r).2 : Multiset Task)
  rw [herase, ← Multiset.coe_add, add_comm, ← add_assoc]

/-- **What is in flight can be answered to the end**, whatever each task is
answered. -/
theorem exists_run (h : Ranked M rank) (reply : Task → Reply) (c : Config State Task) :
    ∃ evs c', M.Run (OnlyAnswers reply) c evs c' ∧ c'.pending = [] := by
  induction c using h.wellFounded.induction with
  | _ c ih =>
    cases hp : c.pending with
    | nil => exact ⟨[], c, .nil, hp⟩
    | cons t rest =>
      have ht : c.pending[0]? = some t := by rw [hp, List.getElem?_cons_zero]
      have hs : M.step c (.answer 0 (reply t)) = some _ := Machine.step_answer.2 ⟨t, ht, rfl⟩
      obtain ⟨evs, c', hrun, hdone⟩ := ih _ ⟨0, reply t, hs⟩
      exact ⟨[.answer 0 (reply t)] ++ evs, c',
        (Machine.Run.snoc .nil ⟨0, t, ht, rfl⟩ hs).append hrun, hdone⟩

/-- The calls the tasks come from change nothing. -/
theorem tagged (h : Ranked M rank) : Ranked M.tagged fun x => rank x.2 := by
  intro s x r y hy
  obtain ⟨t, ht, rfl⟩ := List.mem_map.1 hy
  exact h s x.2 r t ht

/-- **A run that does not end calls again and again.** -/
theorem exists_call (h : Ranked M rank) {c : ℕ → Config State Task} {e : ℕ → Event Call Reply}
    (hs : ∀ n, M.step (c n) (e n) = some (c (n + 1))) (n : ℕ) :
    ∃ m, n ≤ m ∧ ∃ a, e m = .call a := by
  by_contra hnone
  have hanswers : ∀ k, M.Answers (c (n + (k + 1))) (c (n + k)) := by
    intro k
    cases he : e (n + k) with
    | call a => exact absurd ⟨n + k, Nat.le_add_right n k, a, he⟩ hnone
    | answer i r => exact ⟨i, r, he ▸ hs (n + k)⟩
  exact (wellFounded_iff_isEmpty_descending_chain.1 h.wellFounded).false
    ⟨fun k => c (n + k), hanswers⟩

/-- **A chain of tasks is no longer than the rank of its first.** -/
theorem length_le_of_isChain (h : Ranked M rank) {t : Task} {l : List Task}
    (hl : (t :: l).IsChain M.Spawns) : l.length ≤ rank t := by
  induction l generalizing t with
  | nil => exact Nat.zero_le _
  | cons u l ih =>
    obtain ⟨⟨s, r, hu⟩, hrest⟩ := List.isChain_cons_cons.1 hl
    have hlt := h s t r u hu
    have hle := ih hrest
    rw [List.length_cons]
    omega

/-- **Ranked machines come to an end.** -/
theorem terminates (h : Ranked M rank) {k : ℕ} (hk : ∀ t, rank t < k) : M.Terminates k where
  chain l hl := by
    cases l with
    | nil => exact Nat.zero_le k
    | cons t l => exact Nat.succ_le_of_lt ((h.length_le_of_isChain hl).trans_lt (hk t))
  wellFounded := h.wellFounded
  finishes := h.exists_run
  calls _ _ hs := h.exists_call hs

/-- Where a chain reaches the bound, it is the least one. -/
theorem terminates_iff (h : Ranked M rank) {k : ℕ} (hk : ∀ t, rank t < k) {l : List Task}
    (hl : l.IsChain M.Spawns) (hlength : l.length = k) (n : ℕ) : M.Terminates n ↔ k ≤ n :=
  ⟨fun hn => hlength ▸ hn.chain l hl, fun hn => h.terminates fun t => (hk t).trans_le hn⟩

end Ranked

end Volleyer
