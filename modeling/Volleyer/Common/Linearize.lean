import Volleyer.Common.Ranked
import Volleyer.Common.Refines

/-!
# Operations that overlap

Operations that work on different things may be under way together. Then
each ends with what it would have done alone, and a run in which they
overlap leads where the same calls lead one at a time, in the order in
which they were made (`SettlesAs.exists_serial`).

Where states are compared by what they answer, and not by how they hold
it, the order of two writes shows in the state and not in its `view`, so
it is the view that settles. What is in flight settles in it as in
`Settles`, at the configurations a run reaches (`Good`).
-/

namespace Volleyer

variable {State Call Task Reply View : Type*}

/-- **What is in flight, played out** in the view. -/
def Config.settledView (view : State → View) (effect : View → Task → View)
    (c : Config State Task) : View :=
  c.pending.foldl effect (view c.state)

/-- **What settling asks of a machine** of which only a view is compared.
`effect` is unfolded by one answer, tasks in `Ind` commute, and what a
task spawns is independent of whatever the task was. -/
structure SettlesAs (M : Machine State Call Task Reply) (reply : Task → Reply)
    (Good : Config State Task → Prop) (view : State → View) (effect : View → Task → View)
    (Ind : Task → Task → Prop) : Prop where
  symm : ∀ {t u}, Ind t u → Ind u t
  comm : ∀ {t u}, Ind t u → ∀ v, effect (effect v t) u = effect (effect v u) t
  unfold : ∀ {c t}, Good c → t ∈ c.pending → effect (view c.state) t =
    (M.answer c.state t (reply t)).2.foldl effect (view (M.answer c.state t (reply t)).1)
  spawn : ∀ {c t}, Good c → t ∈ c.pending → (M.answer c.state t (reply t)).2.Pairwise Ind
  inherit : ∀ {c t t' u}, Good c → t ∈ c.pending → Ind t u →
    t' ∈ (M.answer c.state t (reply t)).2 → Ind t' u

namespace SettlesAs

variable {M : Machine State Call Task Reply} {reply : Task → Reply}
variable {Good : Config State Task → Prop} {view : State → View} {effect : View → Task → View}
variable {Ind : Task → Task → Prop} {rank : Task → ℕ}
variable {ok serial : Config State Task → Event Call Reply → Prop}
variable {c₀ c c' b : Config State Task} {l l' : List Task} {evs evs' : List (Event Call Reply)}

/-- Independent tasks may be played out in any order. -/
theorem foldl_perm (h : SettlesAs M reply Good view effect Ind) (hp : l.Pairwise Ind)
    (hl : l.Perm l') (v : View) : l.foldl effect v = l'.foldl effect v := by
  have : Std.Symm Ind := ⟨fun _ _ => h.symm⟩
  refine hl.foldl_eq' (fun t ht u hu v => ?_) v
  by_cases htu : t = u
  · rw [htu]
  · exact h.comm (hp.forall ht hu htu) v

/-- **An answer keeps the settled view**, and leaves independent tasks in
flight. -/
theorem settledView_answer (h : SettlesAs M reply Good view effect Ind) {i : ℕ} {r : Reply}
    (hg : Good c) (hp : c.pending.Pairwise Ind) (hr : ∀ t, c.pending[i]? = some t → r = reply t)
    (hs : M.step c (.answer i r) = some c') :
    c'.settledView view effect = c.settledView view effect ∧ c'.pending.Pairwise Ind := by
  obtain ⟨t, ht, rfl⟩ := Machine.step_answer.1 hs
  obtain rfl := hr t ht
  have hmem : t ∈ c.pending := List.mem_of_getElem? ht
  have hperm : c.pending.Perm (t :: c.pending.eraseIdx i) := Machine.perm_cons_eraseIdx ht
  obtain ⟨hind, hrest⟩ := List.pairwise_cons.1 ((hperm.pairwise_iff h.symm).1 hp)
  have hnew : (c.pending.eraseIdx i ++ (M.answer c.state t (reply t)).2).Pairwise Ind := by
    refine List.pairwise_append.2 ⟨hrest, h.spawn hg hmem, fun u hu t' ht' => ?_⟩
    exact h.symm (h.inherit hg hmem (hind u hu) ht')
  refine ⟨?_, hnew⟩
  calc
    (c.pending.eraseIdx i ++ (M.answer c.state t (reply t)).2).foldl effect
        (view (M.answer c.state t (reply t)).1)
      = ((M.answer c.state t (reply t)).2 ++ c.pending.eraseIdx i).foldl effect
          (view (M.answer c.state t (reply t)).1) := h.foldl_perm hnew List.perm_append_comm _
    _ = (c.pending.eraseIdx i).foldl effect (effect (view c.state) t) := by
        rw [List.foldl_append, ← h.unfold hg hmem]
    _ = (t :: c.pending.eraseIdx i).foldl effect (view c.state) := rfl
    _ = c.pending.foldl effect (view c.state) := (h.foldl_perm hp hperm _).symm

/-- **Answers alone keep the settled view.** -/
theorem settledView_run (h : SettlesAs M reply Good view effect Ind)
    (hgood : ∀ {evs c'}, M.Run (OnlyAnswers reply) c evs c' → Good c')
    (hp : c.pending.Pairwise Ind) (hrun : M.Run (OnlyAnswers reply) c evs c') :
    c'.settledView view effect = c.settledView view effect := by
  have hinv : c'.settledView view effect = c.settledView view effect ∧ c'.pending.Pairwise Ind := by
    induction hrun with
    | nil => exact ⟨rfl, hp⟩
    | @snoc evs c' e c'' hr he hs ih =>
      obtain ⟨i, t, ht, rfl⟩ := he
      obtain ⟨hview, hpair⟩ := h.settledView_answer (hgood hr) ih.2 (fun u hu => by
        rw [ht, Option.some.injEq] at hu
        rw [hu]) hs
      exact ⟨hview.trans ih.1, hpair⟩
  exact hinv.1

/-- A run of answers calls nothing. -/
theorem callsIn_of_answers (hrun : M.Run (OnlyAnswers reply) c evs c') :
    callsIn evs = [] := by
  induction hrun with
  | nil => rfl
  | @snoc evs c' e c'' _ he _ ih =>
    obtain ⟨i, t, -, rfl⟩ := he
    rw [callsIn_answer, ih]

/-- **Operations that overlap are operations one at a time.** Let `ok` be
a policy under which a call may be made where it is independent of what
is in flight, and can be made as well where that is played out. A run of
it, and the calls of it one at a time in their order, each played out,
lead to the same view. -/
theorem exists_serial (h : SettlesAs M reply Good view effect Ind) (hrank : Ranked M rank)
    (hgood : ∀ {evs c}, M.Run ok c₀ evs c → Good c)
    (hserial : ∀ {evs c}, M.Run serial c₀ evs c → Good c) (hp₀ : c₀.pending = [])
    (hreply : ∀ {c i r}, ok c (.answer i r) → ∀ t, c.pending[i]? = some t → r = reply t)
    (hanswer : ∀ {c i t}, c.pending[i]? = some t → serial c (.answer i (reply t)))
    (hcall : ∀ {evs c evs' b a s ts}, M.Run ok c₀ evs c → M.Run serial c₀ evs' b →
      ok c (.call a) → b.pending = [] → view b.state = c.settledView view effect →
      M.issue c.state a = some (s, ts) → serial b (.call a) ∧ ts.Pairwise Ind ∧
        (∀ t ∈ c.pending, ∀ t' ∈ ts, Ind t t') ∧ ∃ s', M.issue b.state a = some (s', ts) ∧
          view s' = c.pending.foldl effect (view s))
    (hrun : M.Run ok c₀ evs c) :
    ∃ evs' b, M.Run serial c₀ evs' b ∧ b.pending = [] ∧ callsIn evs' = callsIn evs ∧
      view b.state = c.settledView view effect := by
  have hinv : (∃ evs' b, M.Run serial c₀ evs' b ∧ b.pending = [] ∧
      callsIn evs' = callsIn evs ∧ view b.state = c.settledView view effect) ∧
      c.pending.Pairwise Ind := by
    induction hrun with
    | nil =>
      refine ⟨⟨[], c₀, .nil, hp₀, rfl, ?_⟩, by rw [hp₀]; exact List.Pairwise.nil⟩
      rw [Config.settledView, hp₀, List.foldl_nil]
    | @snoc evs c e c' hr he hs ih =>
      obtain ⟨⟨evs', b, hb, hquiet, hcalls, hview⟩, hp⟩ := ih
      cases e with
      | answer i r =>
        obtain ⟨hview', hp'⟩ := h.settledView_answer (hgood hr) hp (hreply he) hs
        exact ⟨⟨evs', b, hb, hquiet, by rw [callsIn_answer, hcalls], hview.trans hview'.symm⟩, hp'⟩
      | call a =>
        obtain ⟨s, ts, hi, rfl⟩ := Machine.step_call.1 hs
        obtain ⟨hok, hts, hind, s', hi', hs'⟩ := hcall hr hb he hquiet hview hi
        -- the call, and then answers until nothing is in flight
        have hb₁ := hb.snoc hok (Machine.step_call.2 ⟨s', ts, hi', rfl⟩)
        obtain ⟨evs₂, b₂, hanswers, hdone⟩ :=
          hrank.exists_run reply ⟨s', b.seen, b.pending ++ ts⟩
        have hmore : ∀ {evs c'}, M.Run (OnlyAnswers reply) ⟨s', b.seen, b.pending ++ ts⟩
            evs c' → M.Run serial c₀ (evs' ++ [.call a] ++ evs) c' := by
          intro evs c' hr'
          refine hb₁.append (hr'.mono fun c e he => ?_)
          obtain ⟨i, t, ht, rfl⟩ := he
          exact hanswer ht
        have hpair : (b.pending ++ ts).Pairwise Ind := by
          rwa [hquiet, List.nil_append]
        have hsettled := h.settledView_run (fun hr' => hserial (hmore hr')) hpair hanswers
        refine ⟨⟨_, b₂, hmore hanswers, hdone, ?_, ?_⟩, ?_⟩
        · have hnil : callsIn evs₂ = [] := callsIn_of_answers hanswers
          rw [callsIn_append, hnil, List.append_nil, callsIn_call, callsIn_call, hcalls]
        · rw [Config.settledView, hdone, List.foldl_nil] at hsettled
          rw [hsettled, Config.settledView, hquiet, List.nil_append, hs', ← List.foldl_append]
          rfl
        · exact List.pairwise_append.2 ⟨hp, hts, hind⟩
  exact hinv.1

end SettlesAs

end Volleyer
