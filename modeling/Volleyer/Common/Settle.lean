import Volleyer.Common.Machine
import Mathlib.Data.List.Pairwise

/-!
# Settling

When the tasks in flight do not interfere, the order in which they are
answered does not matter: each ends with what it would have done alone.
`effect s t` is what a task does to `s` when it and everything it spawns
run alone to the end, and `settled` is a configuration with every task in
flight played out that way. No answer changes it
(`Settles.settled_answer`), so the state of a configuration with nothing
in flight is the settled state of the one it came from, whatever the
order was.
-/

namespace Volleyer

variable {State Call Task Reply : Type*}

namespace Config

/-- **The settled state**: the tasks in flight played out in turn. -/
def settled (effect : State → Task → State) (c : Config State Task) : State :=
  c.pending.foldl effect c.state

theorem settled_of_pending_nil {effect : State → Task → State} {c : Config State Task}
    (h : c.pending = []) : c.settled effect = c.state := by
  rw [settled, h, List.foldl_nil]

end Config

/-- **What settling asks of a machine** whose tasks are answered by
`reply`. `effect` is unfolded by one answer, tasks in `Ind` commute, and
what a task spawns is independent of whatever the task was. `Good` is a
claim about states that the answers keep. -/
structure Settles (M : Machine State Call Task Reply) (reply : Task → Reply) (Good : State → Prop)
    (effect : State → Task → State) (Ind : Task → Task → Prop) : Prop where
  symm : ∀ {t u}, Ind t u → Ind u t
  comm : ∀ {t u}, Ind t u → ∀ s, effect (effect s t) u = effect (effect s u) t
  unfold : ∀ {s t}, Good s →
    effect s t = (M.answer s t (reply t)).2.foldl effect (M.answer s t (reply t)).1
  good : ∀ {s t}, Good s → Good (M.answer s t (reply t)).1
  spawn : ∀ {s}, Good s → ∀ t, (M.answer s t (reply t)).2.Pairwise Ind
  inherit : ∀ {s t t' u}, Good s → Ind t u → t' ∈ (M.answer s t (reply t)).2 → Ind t' u

/-- **What settling asks for the tasks of `On` alone**, which spawn no
others. -/
structure SettlesOn (M : Machine State Call Task Reply) (reply : Task → Reply)
    (Good : State → Prop) (On : Task → Prop) (effect : State → Task → State)
    (Ind : Task → Task → Prop) : Prop where
  symm : ∀ {t u}, Ind t u → Ind u t
  comm : ∀ {t u}, Ind t u → ∀ s, effect (effect s t) u = effect (effect s u) t
  unfold : ∀ {s t}, Good s → On t →
    effect s t = (M.answer s t (reply t)).2.foldl effect (M.answer s t (reply t)).1
  good : ∀ {s t}, Good s → On t → Good (M.answer s t (reply t)).1
  on : ∀ {s t}, Good s → On t → ∀ t' ∈ (M.answer s t (reply t)).2, On t'
  spawn : ∀ {s t}, Good s → On t → (M.answer s t (reply t)).2.Pairwise Ind
  inherit : ∀ {s t t' u}, Good s → On t → Ind t u → t' ∈ (M.answer s t (reply t)).2 → Ind t' u

namespace SettlesOn

variable {M : Machine State Call Task Reply} {reply : Task → Reply} {Good : State → Prop}
variable {On : Task → Prop} {effect : State → Task → State} {Ind : Task → Task → Prop}
variable {c₀ c c' : Config State Task} {l l' : List Task}

/-- Independent tasks may be played out in any order. -/
theorem foldl_perm (h : SettlesOn M reply Good On effect Ind) (hp : l.Pairwise Ind)
    (hl : l.Perm l') (s : State) : l.foldl effect s = l'.foldl effect s := by
  have : Std.Symm Ind := ⟨fun _ _ => h.symm⟩
  refine hl.foldl_eq' (fun t ht u hu s => ?_) s
  by_cases htu : t = u
  · rw [htu]
  · exact (h.comm (hp.forall ht hu htu) s)

/-- **An answer keeps the settled state**, and leaves independent tasks
in flight. -/
theorem settled_answer (h : SettlesOn M reply Good On effect Ind) {i : ℕ} {r : Reply}
    (hg : Good c.state) (ho : ∀ t ∈ c.pending, On t) (hp : c.pending.Pairwise Ind)
    (hr : ∀ t, c.pending[i]? = some t → r = reply t) (hs : M.step c (.answer i r) = some c') :
    c'.settled effect = c.settled effect ∧ Good c'.state ∧ (∀ t ∈ c'.pending, On t) ∧
      c'.pending.Pairwise Ind := by
  obtain ⟨t, ht, rfl⟩ := Machine.step_answer.1 hs
  obtain rfl := hr t ht
  have hton : On t := ho t (List.mem_of_getElem? ht)
  have hperm : c.pending.Perm (t :: c.pending.eraseIdx i) := Machine.perm_cons_eraseIdx ht
  have hcons : (t :: c.pending.eraseIdx i).Pairwise Ind :=
    (hperm.pairwise_iff h.symm).1 hp
  obtain ⟨hind, hrest⟩ := List.pairwise_cons.1 hcons
  have hnew : (c.pending.eraseIdx i ++ (M.answer c.state t (reply t)).2).Pairwise Ind := by
    refine List.pairwise_append.2 ⟨hrest, h.spawn hg hton, fun u hu t' ht' => ?_⟩
    exact h.symm (h.inherit hg hton (hind u hu) ht')
  refine ⟨?_, h.good hg hton, fun t' ht' => ?_, hnew⟩
  · calc
      (c.pending.eraseIdx i ++ (M.answer c.state t (reply t)).2).foldl effect
          (M.answer c.state t (reply t)).1
        = ((M.answer c.state t (reply t)).2 ++ c.pending.eraseIdx i).foldl effect
            (M.answer c.state t (reply t)).1 := h.foldl_perm hnew List.perm_append_comm _
      _ = (c.pending.eraseIdx i).foldl effect (effect c.state t) := by
          rw [List.foldl_append, ← h.unfold hg hton]
      _ = (t :: c.pending.eraseIdx i).foldl effect c.state := rfl
      _ = c.pending.foldl effect c.state := (h.foldl_perm hp hperm _).symm
  · rcases Machine.mem_eraseIdx_append ht' with ht' | ht'
    · exact ho t' ht'
    · exact h.on hg hton t' ht'

/-- The policy under which what is in flight is answered by `reply`, and
nothing is called. -/
def Answers (reply : Task → Reply) (c : Config State Task) : Event Call Reply → Prop
  | .call _ => False
  | .answer i r => ∀ t, c.pending[i]? = some t → r = reply t

/-- With nothing in flight there is nothing to answer. -/
theorem run_nil {evs : List (Event Call Reply)} (hrun : M.Run (Answers reply) c₀ evs c)
    (h₀ : c₀.pending = []) : evs = [] ∧ c = c₀ := by
  cases evs with
  | nil => exact ⟨rfl, hrun.unique (.nil : M.Run (Answers reply) c₀ [] c₀)⟩
  | cons e evs =>
    obtain ⟨c₁, hok, hs, -⟩ := hrun.cons_inv
    cases e with
    | call a => exact hok.elim
    | answer i r =>
      obtain ⟨t, ht, -⟩ := Machine.step_answer.1 hs
      rw [h₀, List.getElem?_nil] at ht
      cases ht

/-- **One task in flight is answered first**, and what it starts next. -/
theorem run_singleton {s : State} {past : List State} {t : Task}
    {evs : List (Event Call Reply)}
    (hrun : M.Run (Answers reply) ⟨s, past, [t]⟩ evs c) (hdone : c.pending = []) :
    ∃ evs', evs = .answer 0 (reply t) :: evs' ∧ M.Run (Answers reply)
      ⟨(M.answer s t (reply t)).1, s :: past, (M.answer s t (reply t)).2⟩ evs' c := by
  cases evs with
  | nil =>
    obtain rfl := hrun.unique (.nil : M.Run (Answers reply) ⟨s, past, [t]⟩ [] ⟨s, past, [t]⟩)
    cases hdone
  | cons e evs =>
    obtain ⟨c₁, hok, hs, hrest⟩ := hrun.cons_inv
    cases e with
    | call a => exact hok.elim
    | answer i r =>
      obtain ⟨u, hu, rfl⟩ := Machine.step_answer.1 hs
      obtain ⟨hi, hu'⟩ := List.getElem?_eq_some_iff.1 hu
      obtain rfl : i = 0 := Nat.lt_one_iff.1 hi
      obtain rfl : t = u := hu'
      obtain rfl := hok t rfl
      exact ⟨evs, rfl, hrest⟩

/-- **Played out, in any order.** A run that answers independent tasks to
the last of them ends in the settled state it began with. -/
theorem state_of_run (h : SettlesOn M reply Good On effect Ind) {evs : List (Event Call Reply)}
    (hrun : M.Run (Answers reply) c₀ evs c) (hg : Good c₀.state) (ho : ∀ t ∈ c₀.pending, On t)
    (hp : c₀.pending.Pairwise Ind) (hdone : c.pending = []) : c.state = c₀.settled effect := by
  have hinv := hrun.invariant (I := fun c => c.settled effect = c₀.settled effect ∧
    Good c.state ∧ (∀ t ∈ c.pending, On t) ∧ c.pending.Pairwise Ind) ⟨rfl, hg, ho, hp⟩ ?_
  · rw [← hinv.1, Config.settled_of_pending_nil hdone]
  · rintro c e c' ⟨hsettled, hg, ho, hp⟩ hok hs
    cases e with
    | call a => exact hok.elim
    | answer i r =>
      obtain ⟨h1, h2⟩ := h.settled_answer hg ho hp hok hs
      exact ⟨h1.trans hsettled, h2⟩

end SettlesOn

namespace Settles

variable {M : Machine State Call Task Reply} {reply : Task → Reply} {Good : State → Prop}
variable {effect : State → Task → State} {Ind : Task → Task → Prop}
variable {c c' : Config State Task}

/-- What settles at all settles on every set of tasks. -/
theorem settlesOn (h : Settles M reply Good effect Ind) :
    SettlesOn M reply Good (fun _ => True) effect Ind where
  symm := h.symm
  comm := h.comm
  unfold hg _ := h.unfold hg
  good hg _ := h.good hg
  on _ _ _ _ := trivial
  spawn hg _ := h.spawn hg _
  inherit hg _ := h.inherit hg

/-- **An answer keeps the settled state**, and leaves independent tasks
in flight. -/
theorem settled_answer (h : Settles M reply Good effect Ind) {i : ℕ} {r : Reply}
    (hg : Good c.state) (hp : c.pending.Pairwise Ind)
    (hr : ∀ t, c.pending[i]? = some t → r = reply t) (hs : M.step c (.answer i r) = some c') :
    c'.settled effect = c.settled effect ∧ Good c'.state ∧ c'.pending.Pairwise Ind := by
  obtain ⟨h1, h2, -, h3⟩ := h.settlesOn.settled_answer hg (fun _ _ => trivial) hp hr hs
  exact ⟨h1, h2, h3⟩

/-- **Calls taken one at a time.** If the answers are `reply`, every call
is made with nothing in flight, and it puts independent tasks in flight,
then an invariant of the settled state that each call keeps holds
throughout, whatever the order of the answers. -/
theorem serial (h : Settles M reply Good effect Ind)
    {ok : Config State Task → Event Call Reply → Prop} {c₀ : Config State Task}
    {evs : List (Event Call Reply)} {I : List (Event Call Reply) → State → Prop}
    (hrun : M.Run ok c₀ evs c) (hp₀ : c₀.pending = []) (hg₀ : Good c₀.state)
    (h₀ : I [] c₀.state)
    (hquiet : ∀ c a, ok c (.call a) → c.pending = [])
    (hreply : ∀ c i r, ok c (.answer i r) → ∀ t, c.pending[i]? = some t → r = reply t)
    (hI : ∀ evs i r s, I evs s → I (evs ++ [.answer i r]) s)
    (hcall : ∀ evs c a s ts, M.Run ok c₀ evs c → c.pending = [] → Good c.state →
      I evs c.state → ok c (.call a) → M.issue c.state a = some (s, ts) →
      Good s ∧ ts.Pairwise Ind ∧ I (evs ++ [.call a]) (ts.foldl effect s)) :
    I evs (c.settled effect) ∧ Good c.state ∧ c.pending.Pairwise Ind := by
  induction hrun with
  | nil => exact ⟨by rw [Config.settled_of_pending_nil hp₀]; exact h₀, hg₀, by simp [hp₀]⟩
  | @snoc evs c e c' hr he hs ih =>
    obtain ⟨hi, hg, hp⟩ := ih
    cases e with
    | call a =>
      obtain ⟨s, ts, hiss, rfl⟩ := Machine.step_call.1 hs
      have hnil : c.pending = [] := hquiet c a he
      rw [Config.settled_of_pending_nil hnil] at hi
      obtain ⟨h1, h2, h3⟩ := hcall evs c a s ts hr hnil hg hi he hiss
      simp only [Config.settled, hnil, List.nil_append]
      exact ⟨h3, h1, h2⟩
    | answer i r =>
      obtain ⟨h1, h2, h3⟩ := h.settled_answer hg hp (hreply _ _ _ he) hs
      exact ⟨by rw [h1]; exact hI _ _ _ _ hi, h2, h3⟩

end Settles

end Volleyer
