import Volleyer.Common.Machine

/-!
# Projections

A machine that runs another one beside things of its own: some of its
tasks are the other's (`task`), a part of its state is the other's
(`part`), and each of its steps is an answer of the other, a call of it,
or nothing. Then what is known of the other's runs is known of that part
(`Projects.run`).
-/

namespace Volleyer

variable {State State' Call Call' Task Task' Reply : Type*}

/-! ## Selected tasks in flight -/

section

variable {l : List Task'} {i : ℕ} {t : Task'} {u : Task} {task : Task' → Option Task}

/-- A task that is not selected leaves the selection as it is. -/
theorem filterMap_eraseIdx_of_none (hl : l[i]? = some t) (ht : task t = none) :
    (l.eraseIdx i).filterMap task = l.filterMap task := by
  induction l generalizing i with
  | nil => rfl
  | cons a l ih =>
    cases i with
    | zero =>
      obtain rfl := Option.some.inj hl
      rw [List.eraseIdx_cons_zero, List.filterMap_cons_none ht]
    | succ i =>
      rw [List.eraseIdx_cons_succ, List.filterMap_cons, List.filterMap_cons, ih hl]

/-- A selected task has its place in the selection: after the selected ones
before it. -/
theorem filterMap_eraseIdx_of_some (hl : l[i]? = some t) (ht : task t = some u) :
    (l.filterMap task)[((l.take i).filterMap task).length]? = some u ∧
      (l.eraseIdx i).filterMap task =
        (l.filterMap task).eraseIdx ((l.take i).filterMap task).length := by
  induction l generalizing i with
  | nil => cases hl
  | cons a l ih =>
    cases i with
    | zero =>
      obtain rfl := Option.some.inj hl
      rw [List.take_zero, List.filterMap_nil, List.length_nil, List.filterMap_cons_some ht]
      exact ⟨rfl, rfl⟩
    | succ i =>
      obtain ⟨hj, heq⟩ := ih hl
      rw [List.take_succ_cons, List.eraseIdx_cons_succ]
      cases ha : task a with
      | none =>
        rw [List.filterMap_cons_none ha, List.filterMap_cons_none ha, List.filterMap_cons_none ha]
        exact ⟨hj, heq⟩
      | some b =>
        rw [List.filterMap_cons_some ha, List.filterMap_cons_some ha, List.filterMap_cons_some ha,
          List.length_cons, List.eraseIdx_cons_succ, heq]
        exact ⟨hj, rfl⟩

/-- Where at most one task is selected, a selected one is all there is. -/
theorem filterMap_eq_singleton (task : Task' → Option Task) (h : (l.filterMap task).length ≤ 1)
    (hl : l[i]? = some t) (ht : task t = some u) :
    l.filterMap task = [u] ∧ (l.eraseIdx i).filterMap task = [] := by
  obtain ⟨hj, herase⟩ := filterMap_eraseIdx_of_some hl ht
  generalize ((l.take i).filterMap task).length = j at hj herase
  have hlt := (List.getElem?_eq_some_iff.1 hj).1
  obtain ⟨v, hv⟩ := List.length_eq_one_iff.1 (Nat.le_antisymm h (Nat.lt_of_le_of_lt j.zero_le hlt))
  rw [hv] at hj herase
  obtain rfl : j = 0 := by
    rw [hv] at hlt
    exact Nat.lt_one_iff.1 hlt
  obtain rfl := Option.some.inj hj
  exact ⟨hv, herase⟩

/-- An entry replaced by one that reads the same. -/
theorem map_set_of_eq {α β : Type*} {l : List α} {f : α → β} {a b : α} {k : ℕ} (ha : l[k]? = some a)
    (hf : f b = f a) : (l.set k b).map f = l.map f := by
  obtain ⟨hlt, rfl⟩ := List.getElem?_eq_some_iff.1 ha
  have hlt' : k < (l.map f).length := by rwa [List.length_map]
  have hget : f l[k] = (l.map f)[k] := (List.getElem_map f).symm
  rw [List.map_set, hf, hget, List.set_getElem_self]

end

/-- **A configuration over another one**: the part of the state, and the
selected tasks. -/
structure Over (part : State' → State) (task : Task' → Option Task) (c' : Config State' Task')
    (c : Config State Task) : Prop where
  state : c.state = part c'.state
  pending : c.pending = c'.pending.filterMap task

/-- What a step does to the part beside an answer: a call, or nothing. -/
def Issues (M : Machine State Call Task Reply)
    (ok : Config State Task → Event Call Reply → Prop) (c : Config State Task) (s : State)
    (ts : List Task) : Prop :=
  s = c.state ∧ ts = [] ∨ ∃ b, ok c (.call b) ∧ M.issue c.state b = some (s, ts)

/-- **A machine that runs another one**, in the runs of two policies. -/
structure Projects (M' : Machine State' Call' Task' Reply) (M : Machine State Call Task Reply)
    (part : State' → State) (task : Task' → Option Task)
    (ok' : Config State' Task' → Event Call' Reply → Prop)
    (ok : Config State Task → Event Call Reply → Prop) : Prop where
  call : ∀ {c' c a s' ts'}, Over part task c' c → ok' c' (.call a) →
    M'.issue c'.state a = some (s', ts') → Issues M ok c (part s') (ts'.filterMap task)
  other : ∀ {c' c i r t}, Over part task c' c → ok' c' (.answer i r) →
    c'.pending[i]? = some t → task t = none →
    Issues M ok c (part (M'.answer c'.state t r).1) ((M'.answer c'.state t r).2.filterMap task)
  answer : ∀ {c' c i j r t u}, Over part task c' c → ok' c' (.answer i r) →
    c'.pending[i]? = some t → task t = some u → c.pending[j]? = some u →
    ok c (.answer j r) ∧ M.answer c.state u r =
      (part (M'.answer c'.state t r).1, (M'.answer c'.state t r).2.filterMap task)

namespace Projects

variable {M' : Machine State' Call' Task' Reply} {M : Machine State Call Task Reply}
variable {part : State' → State} {task : Task' → Option Task}
variable {ok' : Config State' Task' → Event Call' Reply → Prop}
variable {ok : Config State Task → Event Call Reply → Prop}
variable {c c₀ : Config State Task} {c' c₀' c'' : Config State' Task'}

/-- A call of the part, or nothing, is a run of it. -/
theorem run_of_issues {s : State} {ts : List Task} (h : Issues M ok c s ts) :
    ∃ evs past, M.Run ok c evs ⟨s, past, c.pending ++ ts⟩ := by
  rcases h with ⟨rfl, rfl⟩ | ⟨b, hok, hi⟩
  · refine ⟨[], c.past, ?_⟩
    rw [List.append_nil]
    exact .nil
  · exact ⟨[] ++ [.call b], c.seen, .snoc .nil hok (Machine.step_call.2 ⟨s, ts, hi, rfl⟩)⟩

/-- **One step.** -/
theorem step (h : Projects M' M part task ok' ok) {e : Event Call' Reply}
    (hover : Over part task c' c) (he : ok' c' e) (hs : M'.step c' e = some c'') :
    ∃ evs c₁, M.Run ok c evs c₁ ∧ Over part task c'' c₁ := by
  rcases Machine.step_cases hs with ⟨a, s', ts', rfl, hi, rfl⟩ | ⟨i, r, t, rfl, ht, rfl⟩
  · obtain ⟨evs, past, hrun⟩ := run_of_issues (h.call hover he hi)
    refine ⟨evs, _, hrun, rfl, ?_⟩
    rw [hover.pending, List.filterMap_append]
  · cases htask : task t with
    | none =>
      obtain ⟨evs, past, hrun⟩ := run_of_issues (h.other hover he ht htask)
      refine ⟨evs, _, hrun, rfl, ?_⟩
      rw [hover.pending, List.filterMap_append, filterMap_eraseIdx_of_none ht htask]
    | some u =>
      obtain ⟨hj, herase⟩ := filterMap_eraseIdx_of_some ht htask
      rw [← hover.pending] at hj herase
      obtain ⟨hok, hanswer⟩ := h.answer hover he ht htask hj
      refine ⟨[] ++ [.answer _ r], _, .snoc .nil hok (Machine.step_answer.2 ⟨u, hj, rfl⟩), ?_, ?_⟩
      · rw [hanswer]
      · rw [hanswer, List.filterMap_append, herase]

/-- **A run of the machine is a run of the part.** -/
theorem run (h : Projects M' M part task ok' ok) {evs' : List (Event Call' Reply)}
    (h₀ : Over part task c₀' c₀) (hrun : M'.Run ok' c₀' evs' c') :
    ∃ evs c, M.Run ok c₀ evs c ∧ Over part task c' c := by
  induction hrun with
  | nil => exact ⟨[], c₀, .nil, h₀⟩
  | snoc _ he hs ih =>
    obtain ⟨evs, c, hr, hover⟩ := ih
    obtain ⟨evs₁, c₁, hr₁, hover₁⟩ := h.step hover he hs
    exact ⟨evs ++ evs₁, c₁, hr.append hr₁, hover₁⟩

end Projects

end Volleyer
