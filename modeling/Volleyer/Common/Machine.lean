import Mathlib.Data.List.Induction
import Mathlib.Data.List.Perm.Basic
import Mathlib.Tactic.Common

/-!
# Machines of callbacks

A client of a remote store issues a request and leaves; the rest of its
program is a callback, run when the answer arrives. What is in flight is
therefore a list of tasks, each holding what its callback captured, and
an interleaving is an order in which the tasks are answered. `Machine`
fixes what a call issues and what an answered task does; `Run` is every
order of calls and answers that a policy `ok` admits.

`past` records every state a run has left behind. A caller that acts on
a value it loaded earlier acts on a state of `c.seen`.
-/

namespace Volleyer

/-- **A machine**: the tasks a call puts in flight, and what a task does
to the state when it is answered. A call may be refused. -/
structure Machine (State Call Task Reply : Type*) where
  issue : State → Call → Option (State × List Task)
  answer : State → Task → Reply → State × List Task

/-- The current state, the states before it (latest first), and the
tasks in flight. -/
structure Config (State Task : Type*) where
  state : State
  past : List State
  pending : List Task

/-- A call is issued, or the `i`-th task in flight is answered. -/
inductive Event (Call Reply : Type*)
  | call (a : Call)
  | answer (i : ℕ) (r : Reply)
deriving DecidableEq

variable {State Call Task Reply : Type*}

namespace Config

/-- The configuration a run starts in. -/
def start (s : State) : Config State Task := ⟨s, [], []⟩

/-- Every state of the run so far. -/
def seen (c : Config State Task) : List State := c.state :: c.past

@[simp] theorem start_state (s : State) : (start s : Config State Task).state = s := rfl

@[simp] theorem start_past (s : State) : (start s : Config State Task).past = [] := rfl

@[simp] theorem start_pending (s : State) : (start s : Config State Task).pending = [] := rfl

theorem mem_seen {c : Config State Task} {s : State} : s ∈ c.seen ↔ s = c.state ∨ s ∈ c.past :=
  List.mem_cons

end Config

namespace Machine

variable (M : Machine State Call Task Reply)

/-- One event of a run. -/
def step (c : Config State Task) : Event Call Reply → Option (Config State Task)
  | .call a => (M.issue c.state a).map fun p => ⟨p.1, c.seen, c.pending ++ p.2⟩
  | .answer i r => c.pending[i]?.map fun t =>
      ⟨(M.answer c.state t r).1, c.seen, c.pending.eraseIdx i ++ (M.answer c.state t r).2⟩

/-- The policy that admits the calls of `P`, and every answer. -/
def Calls (P : Call → Prop) (_ : Config State Task) (e : Event Call Reply) : Prop :=
  ∀ a, e = .call a → P a

/-- Where a list of events leads, if each can happen. -/
def exec (c : Config State Task) : List (Event Call Reply) → Option (Config State Task)
  | [] => some c
  | e :: es => (M.step c e).bind fun c' => exec c' es

/-- Every event of a list is admitted where it happens. -/
def Admits (ok : Config State Task → Event Call Reply → Prop) (c : Config State Task) :
    List (Event Call Reply) → Prop
  | [] => True
  | e :: es => ok c e ∧ match M.step c e with
    | some c' => Admits ok c' es
    | none => True

/-- **The runs of a policy**: the sequences of events, each admitted by
`ok` where it happens, with the configuration they lead to. -/
inductive Run (ok : Config State Task → Event Call Reply → Prop) (c₀ : Config State Task) :
    List (Event Call Reply) → Config State Task → Prop
  | nil : Run ok c₀ [] c₀
  | snoc {evs c e c'} : Run ok c₀ evs c → ok c e → M.step c e = some c' →
      Run ok c₀ (evs ++ [e]) c'

variable {M} {ok : Config State Task → Event Call Reply → Prop}
variable {c₀ c c' : Config State Task} {e : Event Call Reply} {evs : List (Event Call Reply)}

/-- What a call does to a configuration. -/
theorem step_call {a : Call} :
    M.step c (.call a) = some c' ↔
      ∃ s ts, M.issue c.state a = some (s, ts) ∧ c' = ⟨s, c.seen, c.pending ++ ts⟩ := by
  simp only [step, Option.map_eq_some_iff, Prod.exists]
  exact exists_congr fun s => exists_congr fun ts => and_congr_right fun _ => eq_comm

/-- What an answer does to a configuration. -/
theorem step_answer {i : ℕ} {r : Reply} :
    M.step c (.answer i r) = some c' ↔
      ∃ t, c.pending[i]? = some t ∧
        c' = ⟨(M.answer c.state t r).1, c.seen,
          c.pending.eraseIdx i ++ (M.answer c.state t r).2⟩ := by
  simp only [step, Option.map_eq_some_iff]
  exact exists_congr fun t => and_congr_right fun _ => eq_comm

/-- A policy on the calls alone is a claim about the events alone. -/
theorem admits_calls {P : Call → Prop} (h : ∀ a, .call a ∈ evs → P a) :
    M.Admits (Calls P) c evs := by
  induction evs generalizing c with
  | nil => trivial
  | cons e es ih =>
    refine ⟨?_, ?_⟩
    · rintro a rfl
      exact h a List.mem_cons_self
    · cases M.step c e with
      | none => trivial
      | some c' => exact ih fun a ha => h a (List.mem_cons_of_mem _ ha)

/-- A policy that admits everything. -/
theorem admits_of_forall (h : ∀ c e, ok c e) : M.Admits ok c evs := by
  induction evs generalizing c with
  | nil => trivial
  | cons e es ih =>
    refine ⟨h c e, ?_⟩
    cases M.step c e with
    | none => trivial
    | some c' => exact ih

/-- **A step is a call or an answer.** -/
theorem step_cases (h : M.step c e = some c') :
    (∃ a s ts, e = .call a ∧ M.issue c.state a = some (s, ts) ∧
      c' = ⟨s, c.seen, c.pending ++ ts⟩) ∨
    (∃ i r t, e = .answer i r ∧ c.pending[i]? = some t ∧
      c' = ⟨(M.answer c.state t r).1, c.seen,
        c.pending.eraseIdx i ++ (M.answer c.state t r).2⟩) := by
  cases e with
  | call a =>
    obtain ⟨s, ts, hi, hc⟩ := step_call.1 h
    exact Or.inl ⟨a, s, ts, rfl, hi, hc⟩
  | answer i r =>
    obtain ⟨t, ht, hc⟩ := step_answer.1 h
    exact Or.inr ⟨i, r, t, rfl, ht, hc⟩

/-- With nothing in flight there is nothing to answer. -/
theorem exec_idle {s : State} {past : List State} {replies : List Reply}
    (h : M.exec ⟨s, past, []⟩ (replies.map (.answer 0)) = some c) :
    replies = [] ∧ c = ⟨s, past, []⟩ := by
  cases replies with
  | nil => exact ⟨rfl, (Option.some.inj h).symm⟩
  | cons r rest => cases h

/-- **A lone task is answered**, and what it puts in flight goes on. -/
theorem exec_lone {s : State} {past : List State} {t : Task} {replies : List Reply}
    (h : M.exec ⟨s, past, [t]⟩ (replies.map (.answer 0)) = some c) (hdone : c.pending = []) :
    ∃ r rest, replies = r :: rest ∧
      M.exec ⟨(M.answer s t r).1, s :: past, (M.answer s t r).2⟩ (rest.map (.answer 0)) =
        some c := by
  cases replies with
  | nil =>
    obtain rfl := Option.some.inj h
    cases hdone
  | cons r rest => exact ⟨r, rest, rfl, h⟩

/-- A step adds the state it leaves to the past. -/
theorem step_past (h : M.step c e = some c') : c'.past = c.seen := by
  rcases step_cases h with ⟨_, _, _, _, _, rfl⟩ | ⟨_, _, _, _, _, rfl⟩ <;> rfl

/-- The tasks in flight are a permutation of an answered one and the
others. -/
theorem perm_cons_eraseIdx {l : List Task} {i : ℕ} {t : Task} (h : l[i]? = some t) :
    l.Perm (t :: l.eraseIdx i) := by
  obtain ⟨hi, rfl⟩ := List.getElem?_eq_some_iff.1 h
  exact (List.getElem_cons_eraseIdx_perm hi).symm

/-- A task that is not the answered one stays in flight. -/
theorem mem_eraseIdx_of_ne {l : List Task} {i : ℕ} {t t' : Task} (h : l[i]? = some t) (h' : t' ∈ l)
    (hne : t' ≠ t) : t' ∈ l.eraseIdx i :=
  (List.mem_cons.1 ((perm_cons_eraseIdx h).mem_iff.1 h')).resolve_left hne

/-- What is in flight after an answer was so before, or comes of it. -/
theorem mem_eraseIdx_append {l ts : List Task} {i : ℕ} {t : Task} (h : t ∈ l.eraseIdx i ++ ts) :
    t ∈ l ∨ t ∈ ts :=
  (List.mem_append.1 h).imp_left List.mem_of_mem_eraseIdx

namespace Run

/-- The events of a run determine where it leads. -/
theorem unique {ok' : Config State Task → Event Call Reply → Prop} (h : M.Run ok c₀ evs c)
    (h' : M.Run ok' c₀ evs c') : c = c' := by
  induction h generalizing c' with
  | nil =>
    generalize hl : ([] : List (Event Call Reply)) = l at h'
    cases h' with
    | nil => rfl
    | snoc _ _ _ => simp at hl
  | @snoc evs c₁ e c₂ _ _ hs ih =>
    generalize hl : evs ++ [e] = l at h'
    cases h' with
    | nil => simp at hl
    | @snoc evs' c₁' e' _ hr' _ hs' =>
      obtain ⟨rfl, rfl⟩ := List.append_singleton_inj.1 hl
      rw [ih hr', hs'] at hs
      exact (Option.some.inj hs).symm

/-- Runs compose. -/
theorem append {evs' : List (Event Call Reply)} (h : M.Run ok c₀ evs c)
    (h' : M.Run ok c evs' c') : M.Run ok c₀ (evs ++ evs') c' := by
  induction h' with
  | nil => rwa [List.append_nil]
  | snoc _ he hs ih =>
    rw [← List.append_assoc]
    exact .snoc ih he hs

/-- **A run, played out.** -/
theorem of_exec (hok : M.Admits ok c evs) (h : M.exec c evs = some c') : M.Run ok c evs c' := by
  induction evs generalizing c with
  | nil =>
    obtain rfl := Option.some.inj h
    exact .nil
  | cons e es ih =>
    obtain ⟨he, hrest⟩ := hok
    obtain ⟨c₁, hs, h₁⟩ := Option.bind_eq_some_iff.1 h
    rw [hs] at hrest
    exact (Run.snoc .nil he hs).append (ih hrest h₁)

/-- A run of a policy is a run of a weaker one. -/
theorem mono {ok' : Config State Task → Event Call Reply → Prop}
    (hok : ∀ c e, ok c e → ok' c e) (h : M.Run ok c₀ evs c) : M.Run ok' c₀ evs c := by
  induction h with
  | nil => exact .nil
  | snoc _ he hs ih => exact .snoc ih (hok _ _ he) hs

/-- The last event of a run. -/
theorem snoc_inv (h : M.Run ok c₀ (evs ++ [e]) c') :
    ∃ c, M.Run ok c₀ evs c ∧ ok c e ∧ M.step c e = some c' := by
  generalize hl : evs ++ [e] = l at h
  cases h with
  | nil => simp at hl
  | @snoc evs' c₁ e' _ hr he hs =>
    obtain ⟨rfl, rfl⟩ := List.append_singleton_inj.1 hl
    exact ⟨c₁, hr, he, hs⟩

/-- A run is a run of its first events and then one of the others. -/
theorem split {evs' : List (Event Call Reply)} (h : M.Run ok c₀ (evs ++ evs') c') :
    ∃ c, M.Run ok c₀ evs c ∧ M.Run ok c evs' c' := by
  induction evs' using List.reverseRecOn generalizing c' with
  | nil => exact ⟨c', by rwa [List.append_nil] at h, .nil⟩
  | append_singleton evs' e ih =>
    rw [← List.append_assoc] at h
    obtain ⟨c₁, hr, he, hs⟩ := h.snoc_inv
    obtain ⟨c, h₁, h₂⟩ := ih hr
    exact ⟨c, h₁, h₂.snoc he hs⟩

/-- A run of two policies at once: every event meets the second one
exactly when the run is one of it. -/
theorem and_iff {ok' : Config State Task → Event Call Reply → Prop} :
    M.Run (fun c e => ok c e ∧ ok' c e) c₀ evs c ↔ M.Run ok c₀ evs c ∧ M.Run ok' c₀ evs c := by
  constructor
  · exact fun h => ⟨h.mono fun _ _ => And.left, h.mono fun _ _ => And.right⟩
  · rintro ⟨h, h'⟩
    induction h with
    | nil => exact .nil
    | snoc hr he hs ih =>
      obtain ⟨c₁, hr', he', _⟩ := h'.snoc_inv
      obtain rfl := hr.unique hr'
      exact .snoc (ih hr') ⟨he, he'⟩ hs

/-- A run of each policy of a family is a run of all of them. -/
theorem forall_iff {ι : Type*} {oks : ι → Config State Task → Event Call Reply → Prop}
    (h : M.Run ok c₀ evs c) :
    M.Run (fun c e => ∀ j, oks j c e) c₀ evs c ↔ ∀ j, M.Run (oks j) c₀ evs c := by
  refine ⟨fun h' j => h'.mono fun _ _ ho => ho j, fun h' => ?_⟩
  induction h with
  | nil => exact .nil
  | @snoc evs c e c' hr _ hs ih =>
    have hlast : ∀ j, M.Run (oks j) c₀ evs c ∧ oks j c e := fun j => by
      obtain ⟨c₁, hr₁, he₁, -⟩ := (h' j).snoc_inv
      obtain rfl := hr₁.unique hr
      exact ⟨hr₁, he₁⟩
    exact .snoc (ih fun j => (hlast j).1) (fun j => (hlast j).2) hs

/-- The first event of a run. -/
theorem cons_inv (h : M.Run ok c₀ (e :: evs) c') :
    ∃ c, ok c₀ e ∧ M.step c₀ e = some c ∧ M.Run ok c evs c' := by
  have happend : M.Run ok c₀ ([e] ++ evs) c' := h
  obtain ⟨c, hfirst, hrest⟩ := happend.split
  have hsnoc : M.Run ok c₀ ([] ++ [e]) c := hfirst
  obtain ⟨c₁, hnil, he, hs⟩ := hsnoc.snoc_inv
  obtain rfl := hnil.unique (.nil : M.Run ok c₀ [] c₀)
  exact ⟨c, he, hs, hrest⟩

/-- What holds wherever a run leads may be assumed where an event is
admitted. -/
theorem strengthen {P : Config State Task → Prop} (h : M.Run ok c₀ evs c)
    (hP : ∀ evs c, M.Run ok c₀ evs c → P c) : M.Run (fun c e => ok c e ∧ P c) c₀ evs c := by
  induction h with
  | nil => exact .nil
  | snoc hr he hs ih => exact .snoc ih ⟨he, hP _ _ hr⟩ hs

/-- Two policies that agree wherever a run leads admit it alike. -/
theorem policy_iff {ok₁ ok₂ : Config State Task → Event Call Reply → Prop}
    (h : M.Run ok c₀ evs c)
    (hP : ∀ {evs c}, M.Run ok c₀ evs c → ∀ e, ok₁ c e ↔ ok₂ c e) :
    M.Run ok₁ c₀ evs c ↔ M.Run ok₂ c₀ evs c := by
  constructor
  · intro h₁
    have hboth := (and_iff.2 ⟨h, h₁⟩).strengthen (P := fun c => ∀ e, ok₁ c e ↔ ok₂ c e)
      fun _ _ hr => hP (hr.mono fun _ _ h => h.1)
    exact hboth.mono fun _ e h => (h.2 e).1 h.1.2
  · intro h₂
    have hboth := (and_iff.2 ⟨h, h₂⟩).strengthen (P := fun c => ∀ e, ok₁ c e ↔ ok₂ c e)
      fun _ _ hr => hP (hr.mono fun _ _ h => h.1)
    exact hboth.mono fun _ e h => (h.2 e).2 h.1.2

/-- **A claim about every step of a run** is a policy of it, where each step
meets the claim exactly when the policy admits it. -/
theorem forall_steps_iff {ok' : Config State Task → Event Call Reply → Prop}
    {P : Event Call Reply → Config State Task → Prop} (h : M.Run ok c₀ evs c)
    (hP : ∀ {pre c e c'}, M.Run ok c₀ pre c → M.step c e = some c' → (P e c' ↔ ok' c e)) :
    (∀ pre e c', pre ++ [e] <+: evs → M.Run ok c₀ (pre ++ [e]) c' → P e c') ↔
      M.Run ok' c₀ evs c := by
  induction h with
  | nil =>
    refine iff_of_true (fun pre e c' hpre _ => ?_) .nil
    simpa using hpre.length_le
  | @snoc evs c e c' hr he hs ih =>
    constructor
    · intro hall
      have hbefore := ih.1 fun pre e₁ c₁ hpre hr₁ =>
        hall pre e₁ c₁ (hpre.trans (List.prefix_append _ _)) hr₁
      exact .snoc hbefore ((hP hr hs).1 (hall evs e c' List.prefix_rfl (hr.snoc he hs))) hs
    · intro hok pre e₁ c₁ hpre hr₁
      obtain ⟨c₂, hok₂, he₂, -⟩ := hok.snoc_inv
      obtain rfl := hr.unique hok₂
      rcases List.prefix_concat_iff.1 hpre with heq | hpre'
      · obtain ⟨rfl, rfl⟩ := List.append_singleton_inj.1 heq
        obtain rfl := (hr.snoc he hs).unique hr₁
        exact (hP hr hs).2 he₂
      · exact ih.2 hok₂ pre e₁ c₁ hpre' hr₁

/-- **The invariant rule.** What holds at the start and is kept by every
admitted step holds wherever a run leads. -/
theorem invariant {I : Config State Task → Prop} (h : M.Run ok c₀ evs c) (h₀ : I c₀)
    (hs : ∀ c e c', I c → ok c e → M.step c e = some c' → I c') : I c := by
  induction h with
  | nil => exact h₀
  | snoc _ he hstep ih => exact hs _ _ _ ih he hstep

/-- What holds wherever a run leads holds of every state on the way. -/
theorem forall_seen_of_runs {P : State → Prop} (h : M.Run ok c₀ evs c) (h₀ : ∀ s ∈ c₀.past, P s)
    (hP : ∀ evs c, M.Run ok c₀ evs c → P c.state) : ∀ s ∈ c.seen, P s := by
  induction h with
  | nil =>
    intro s hs
    rcases Config.mem_seen.1 hs with rfl | hs
    · exact hP _ _ .nil
    · exact h₀ s hs
  | snoc hr he hstep ih =>
    intro s hs
    rcases Config.mem_seen.1 hs with rfl | hs
    · exact hP _ _ (.snoc hr he hstep)
    · exact ih s (step_past hstep ▸ hs)

/-- **The rule for tasks in flight.** `I` is a claim about the states of
the run so far and `J` one about a task in flight. A step keeps `I`,
establishes `J` of what it puts in flight, and keeps it of every other
task: no task has to know what the others are. -/
theorem forall_pending {I : State → List State → Prop} {J : State → List State → Task → Prop}
    (h : M.Run ok c₀ evs c) (hI₀ : I c₀.state c₀.past)
    (hJ₀ : ∀ t ∈ c₀.pending, J c₀.state c₀.past t)
    (hcall : ∀ (c : Config State Task) (a : Call) (s : State) (ts : List Task),
      I c.state c.past → ok c (.call a) → M.issue c.state a = some (s, ts) →
      I s c.seen ∧ (∀ t ∈ ts, J s c.seen t) ∧ ∀ t, J c.state c.past t → J s c.seen t)
    (hanswer : ∀ (c : Config State Task) (i : ℕ) (r : Reply) (t : Task),
      I c.state c.past → J c.state c.past t → ok c (.answer i r) → c.pending[i]? = some t →
      I (M.answer c.state t r).1 c.seen ∧
        (∀ t' ∈ (M.answer c.state t r).2, J (M.answer c.state t r).1 c.seen t') ∧
        ∀ t', J c.state c.past t' → J (M.answer c.state t r).1 c.seen t') :
    I c.state c.past ∧ ∀ t ∈ c.pending, J c.state c.past t := by
  refine h.invariant (I := fun c => I c.state c.past ∧ ∀ t ∈ c.pending, J c.state c.past t)
    ⟨hI₀, hJ₀⟩ ?_
  rintro c e c' ⟨hI, hJ⟩ he hs
  rcases step_cases hs with ⟨a, s, ts, rfl, hi, rfl⟩ | ⟨i, r, t, rfl, ht, rfl⟩
  · obtain ⟨h1, h2, h3⟩ := hcall c a s ts hI he hi
    refine ⟨h1, fun t ht => ?_⟩
    rcases List.mem_append.1 ht with ht | ht
    · exact h3 t (hJ t ht)
    · exact h2 t ht
  · obtain ⟨h1, h2, h3⟩ := hanswer c i r t hI (hJ t (List.mem_of_getElem? ht)) he ht
    refine ⟨h1, fun t' ht' => ?_⟩
    rcases Machine.mem_eraseIdx_append ht' with ht' | ht'
    · exact h3 t' (hJ t' ht')
    · exact h2 t' ht'

/-- A claim about single tasks that what a call issues meets, and what
such a task spawns, holds of every task in flight. -/
theorem forall_tasks {J : Task → Prop} (h : M.Run ok c₀ evs c) (hJ₀ : ∀ t ∈ c₀.pending, J t)
    (hcall : ∀ {c a s ts}, ok c (.call a) → M.issue c.state a = some (s, ts) → ∀ t ∈ ts, J t)
    (hanswer : ∀ {c i r t}, J t → ok c (.answer i r) → c.pending[i]? = some t →
      ∀ t' ∈ (M.answer c.state t r).2, J t') : ∀ t ∈ c.pending, J t :=
  (h.forall_pending (I := fun _ _ => True) (J := fun _ _ t => J t) trivial hJ₀
    (fun _ _ _ _ _ ho hi => ⟨trivial, hcall ho hi, fun _ ht => ht⟩)
    fun _ _ _ _ _ ht ho hp => ⟨trivial, hanswer ht ho hp, fun _ ht' => ht'⟩).2

/-- What a policy asks of a call, whatever the configuration, holds of
every call of a run. -/
theorem forall_calls {P : Call → Prop} (h : M.Run ok c₀ evs c)
    (hP : ∀ c a, ok c (.call a) → P a) : ∀ a, .call a ∈ evs → P a := by
  induction h with
  | nil => exact fun a ha => absurd ha List.not_mem_nil
  | snoc _ he _ ih =>
    intro a ha
    rcases List.mem_append.1 ha with ha | ha
    · exact ih a ha
    · obtain rfl := List.mem_singleton.1 ha
      exact hP _ a he

/-- And what holds of every call of a run, its policy may ask. -/
theorem calls {P : Call → Prop} (h : M.Run ok c₀ evs c) (hP : ∀ a, .call a ∈ evs → P a) :
    M.Run (Calls P) c₀ evs c := by
  induction h with
  | nil => exact .nil
  | snoc _ _ hs ih =>
    refine .snoc (ih fun a ha => hP a (List.mem_append_left _ ha)) ?_ hs
    rintro a rfl
    exact hP a (List.mem_append_right _ (List.mem_singleton_self _))

/-- A claim about single states that every step keeps holds of every
state of the run. -/
theorem forall_seen {P : State → Prop} (h : M.Run ok c₀ evs c) (h₀ : ∀ s ∈ c₀.seen, P s)
    (hs : ∀ c e c', P c.state → ok c e → M.step c e = some c' → P c'.state) :
    ∀ s ∈ c.seen, P s := by
  refine h.invariant (I := fun c => ∀ s ∈ c.seen, P s) h₀ fun c e c' hc he hstep s hs' => ?_
  rw [Config.mem_seen, step_past hstep] at hs'
  rcases hs' with rfl | hs'
  · exact hs c e c' (hc _ (List.mem_cons_self)) he hstep
  · exact hc s hs'

end Run

end Machine

end Volleyer
