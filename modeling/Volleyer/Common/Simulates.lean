import Volleyer.Common.Writes

/-!
# Simulation

A machine over another one issues the other's calls and calls of its own,
and leaves the tasks to it: a screen over the operations its buttons
start. `f a` is the call of the lower machine a call makes, if it makes
one. Where each step keeps a relation between the two states, a run of
the upper machine is a run of the lower one by the calls it makes
(`Simulates.run`), with the same tasks in flight.
-/

namespace Volleyer

variable {State State' Call Call' Task Reply : Type*}

/-- The event of the lower machine an event is. -/
def Event.lower (f : Call' → Option Call) : Event Call' Reply → Option (Event Call Reply)
  | .call a => (f a).map .call
  | .answer i r => some (.answer i r)

/-- Where every call makes itself, every event is itself. -/
@[simp] theorem Event.lower_some (e : Event Call Reply) : e.lower some = some e := by
  cases e with
  | call a => rfl
  | answer i r => rfl

/-- **A machine over another one**: the steps `ok'` admits keep `R`, and
the tasks in flight are the same. -/
structure Simulates (M' : Machine State' Call' Task Reply) (M : Machine State Call Task Reply)
    (ok' : Config State' Task → Event Call' Reply → Prop) (R : State' → State → Prop)
    (f : Call' → Option Call) : Prop where
  call : ∀ {c' s a b s₁' ts}, ok' c' (.call a) → R c'.state s → f a = some b →
    M'.issue c'.state a = some (s₁', ts) → ∃ s₁, M.issue s b = some (s₁, ts) ∧ R s₁' s₁
  silent : ∀ {c' s a s₁' ts}, ok' c' (.call a) → R c'.state s → f a = none →
    M'.issue c'.state a = some (s₁', ts) → R s₁' s ∧ ts = []
  answer : ∀ {c' s i r t}, ok' c' (.answer i r) → c'.pending[i]? = some t → R c'.state s →
    (M.answer s t r).2 = (M'.answer c'.state t r).2 ∧
      R (M'.answer c'.state t r).1 (M.answer s t r).1

namespace Simulates

variable {M' : Machine State' Call' Task Reply} {M : Machine State Call Task Reply}
variable {R : State' → State → Prop} {f : Call' → Option Call}
variable {ok' : Config State' Task → Event Call' Reply → Prop}
variable {ok : Config State Task → Event Call Reply → Prop}

/-- **A run of the upper machine is a run of the lower one.** -/
theorem run (h : Simulates M' M ok' R f) {c₀' c' : Config State' Task} {c₀ : Config State Task}
    {evs : List (Event Call' Reply)} (hR₀ : R c₀'.state c₀.state)
    (hp₀ : c₀.pending = c₀'.pending)
    (hok : ∀ {c' c'' c e' e}, ok' c' e' → M'.step c' e' = some c'' → R c'.state c.state →
      c.pending = c'.pending → e'.lower f = some e → ok c e)
    (hrun : M'.Run ok' c₀' evs c') :
    ∃ c, M.Run ok c₀ (evs.filterMap (Event.lower f)) c ∧ R c'.state c.state ∧
      c.pending = c'.pending := by
  induction hrun with
  | nil => exact ⟨c₀, .nil, hR₀, hp₀⟩
  | @snoc evs c' e' c'' _ he' hs ih =>
    obtain ⟨c, hr, hR, hp⟩ := ih
    rw [List.filterMap_append]
    rcases Machine.step_cases hs with ⟨a, s, ts, rfl, hi, rfl⟩ | ⟨i, r, t, rfl, ht, rfl⟩
    · cases hfa : f a with
      | none =>
        obtain ⟨hR', rfl⟩ := h.silent he' hR hfa hi
        have hlow : Event.lower f (.call a : Event Call' Reply) = none := by
          rw [Event.lower, hfa, Option.map_none]
        rw [List.filterMap_cons_none hlow, List.filterMap_nil, List.append_nil, List.append_nil]
        exact ⟨c, hr, hR', hp⟩
      | some b =>
        obtain ⟨s₁, hi', hR'⟩ := h.call he' hR hfa hi
        have hlow : Event.lower f (.call a : Event Call' Reply) = some (.call b) := by
          rw [Event.lower, hfa, Option.map_some]
        rw [List.filterMap_cons_some hlow, List.filterMap_nil]
        refine ⟨_, .snoc hr (hok he' hs hR hp hlow) (Machine.step_call.2 ⟨s₁, ts, hi', rfl⟩), hR',
          ?_⟩
        rw [hp]
    · obtain ⟨hts, hR'⟩ := h.answer he' ht hR
      refine ⟨_, .snoc hr (hok he' hs hR hp rfl) (Machine.step_answer.2 ⟨t, hp ▸ ht, rfl⟩),
        hR', ?_⟩
      rw [hp, hts]

/-- **Its answers are the answers of the lower machine**, where the state
of the lower one is a part of its own. -/
theorem answered_eq {part : State' → State}
    (h : Simulates M' M ok' (fun s' s => part s' = s) f) {c₀' c' : Config State' Task}
    {c₀ : Config State Task} {evs : List (Event Call' Reply)} (hR₀ : part c₀'.state = c₀.state)
    (hp₀ : c₀.pending = c₀'.pending) (hrun : M'.Run ok' c₀' evs c') :
    M.answered c₀ (evs.filterMap (Event.lower f)) =
      (M'.answered c₀' evs).map fun x => (part x.1, x.2) := by
  have hany : ∀ {c' c'' c e' e}, ok' c' e' → M'.step c' e' = some c'' → part c'.state = c.state →
      c.pending = c'.pending → e'.lower f = some e →
      (fun (_ : Config State Task) (_ : Event Call Reply) => True) c e :=
    fun _ _ _ _ _ => trivial
  induction hrun with
  | nil => rfl
  | @snoc evs c' e' c'' hr he' hs ih =>
    obtain ⟨c, hrun, hstate, hpending⟩ := h.run hR₀ hp₀ hany hr
    obtain ⟨c₂, hrun₂, -⟩ := h.run hR₀ hp₀ hany (hr.snoc he' hs)
    rw [hr.answered_snoc hs, List.map_append, ← ih]
    rw [List.filterMap_append] at hrun₂ ⊢
    cases hlow : e'.lower f with
    | none =>
      rw [List.filterMap_cons_none hlow, List.filterMap_nil, List.append_nil]
      cases e' with
      | call a => exact (List.append_nil _).symm
      | answer i r => cases hlow
    | some e =>
      rw [List.filterMap_cons_some hlow, List.filterMap_nil] at hrun₂ ⊢
      obtain ⟨c₁, hrun₁, -, hstep⟩ := hrun₂.snoc_inv
      obtain rfl := hrun₁.unique hrun
      rw [hrun₁.answered_snoc hstep]
      congr 1
      cases e' with
      | call a =>
        obtain ⟨b, -, rfl⟩ := Option.map_eq_some_iff.1 hlow
        rfl
      | answer i r =>
        obtain rfl := Option.some.inj hlow
        simp only [Config.answered, hpending, ← hstate]
        cases c'.pending[i]? with
        | none => rfl
        | some t => rfl

/-- **Two runs side by side**: the same state, the same states so far, and
the same tasks in flight, as far as the lower machine reaches. -/
structure Beneath (part : State' → State) (c' : Config State' Task) (c : Config State Task) :
    Prop where
  state : part c'.state = c.state
  seen : ∀ s, s ∈ c.seen ↔ s ∈ c'.seen.map part
  pending : c.pending = c'.pending

/-- One more state on both sides. -/
theorem Beneath.snoc {part : State' → State} {c' : Config State' Task} {c : Config State Task}
    (h : Beneath part c' c) (s' : State') {ts ts' : List Task} (hts : ts = ts') :
    Beneath part ⟨s', c'.seen, ts'⟩ ⟨part s', c.seen, ts⟩ where
  state := rfl
  seen s := by
    show s ∈ part s' :: c.seen ↔ s ∈ part s' :: c'.seen.map part
    rw [List.mem_cons, List.mem_cons, h.seen s]
  pending := hts

/-- **A run of the upper machine is a run of the lower one** whose policy
looks at the states so far. -/
theorem run_beneath {part : State' → State}
    (h : Simulates M' M ok' (fun s' s => part s' = s) f) {s₀' : State'}
    {c' : Config State' Task} {evs : List (Event Call' Reply)}
    (hok : ∀ {c' c'' c e' e}, ok' c' e' → M'.step c' e' = some c'' → Beneath part c' c →
      e'.lower f = some e → ok c e)
    (hrun : M'.Run ok' (Config.start s₀') evs c') :
    ∃ c, M.Run ok (Config.start (part s₀')) (evs.filterMap (Event.lower f)) c ∧
      Beneath part c' c := by
  induction hrun with
  | nil => exact ⟨_, .nil, rfl, fun _ => Iff.rfl, rfl⟩
  | @snoc evs c' e' c'' _ he' hs ih =>
    obtain ⟨c, hr, hbeneath⟩ := ih
    rw [List.filterMap_append]
    rcases Machine.step_cases hs with ⟨a, s, ts, rfl, hi, rfl⟩ | ⟨i, r, t, rfl, ht, rfl⟩
    · cases hfa : f a with
      | none =>
        obtain ⟨hpart, rfl⟩ := h.silent he' hbeneath.state hfa hi
        have hlow : Event.lower f (.call a : Event Call' Reply) = none := by
          rw [Event.lower, hfa, Option.map_none]
        rw [List.filterMap_cons_none hlow, List.filterMap_nil, List.append_nil, List.append_nil]
        -- the state below is the same, and was there before
        refine ⟨c, hr, hpart, fun s₁ => ?_, hbeneath.pending⟩
        show s₁ ∈ c.seen ↔ s₁ ∈ part s :: c'.seen.map part
        rw [List.mem_cons, ← hbeneath.seen s₁, hpart]
        exact ⟨Or.inr, fun hs₁ => hs₁.elim (fun heq => heq ▸ List.mem_cons_self) id⟩
      | some b =>
        obtain ⟨s₁, hi', rfl⟩ := h.call he' hbeneath.state hfa hi
        have hlow : Event.lower f (.call a : Event Call' Reply) = some (.call b) := by
          rw [Event.lower, hfa, Option.map_some]
        rw [List.filterMap_cons_some hlow, List.filterMap_nil]
        refine ⟨_, .snoc hr (hok he' hs hbeneath hlow) (Machine.step_call.2 ⟨_, ts, hi', rfl⟩),
          hbeneath.snoc s ?_⟩
        rw [hbeneath.pending]
    · obtain ⟨hts, hpart⟩ := h.answer he' ht hbeneath.state
      refine ⟨_, .snoc hr (hok he' hs hbeneath rfl)
        (Machine.step_answer.2 ⟨t, hbeneath.pending ▸ ht, rfl⟩), ?_⟩
      rw [← hpart]
      refine hbeneath.snoc _ ?_
      rw [hbeneath.pending, hts]

end Simulates

end Volleyer
