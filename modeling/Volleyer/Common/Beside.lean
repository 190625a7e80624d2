import Volleyer.Common.Projects
import Volleyer.Common.Refines
import Volleyer.Common.Tagged

/-!
# Machines side by side

A machine that holds another one beside things of its own, where the two
work on one state. Some of its calls are the other's (`call`), and so are
some of its tasks (`task`). Each of them does to the other's state what it
does there, and the rest leaves it, both up to `R`. Then every run of the
machine is a run of the other one: of the calls that are its own, and with
the tasks in flight that are (`Holds.run`).

Where two machines are held, and each leaves the other's state, neither
can tell that the other one is there.
-/

namespace Volleyer

variable {State State' Call Call' Task Task' Reply : Type*}

/-- **A machine that holds another one**, in the runs of `ok'` and up to
`R`. -/
structure Holds (M' : Machine State' Call' Task' Reply) (M : Machine State Call Task Reply)
    (ok' : Config State' Task' → Event Call' Reply → Prop) (R : State' → State → Prop)
    (call : Call' → Option Call) (task : Task' → Option Task) : Prop where
  issue : ∀ {c' s a b s₁' ts'}, ok' c' (.call a) → R c'.state s → call a = some b →
    M'.issue c'.state a = some (s₁', ts') →
    ∃ s₁, M.issue s b = some (s₁, ts'.filterMap task) ∧ R s₁' s₁
  beside : ∀ {c' s a s₁' ts'}, ok' c' (.call a) → R c'.state s → call a = none →
    M'.issue c'.state a = some (s₁', ts') → ts'.filterMap task = [] ∧ R s₁' s
  answer : ∀ {c' s i r t u}, ok' c' (.answer i r) → c'.pending[i]? = some t → R c'.state s →
    task t = some u → (M.answer s u r).2 = (M'.answer c'.state t r).2.filterMap task ∧
      R (M'.answer c'.state t r).1 (M.answer s u r).1
  other : ∀ {c' s i r t}, ok' c' (.answer i r) → c'.pending[i]? = some t → R c'.state s →
    task t = none → (M'.answer c'.state t r).2.filterMap task = [] ∧
      R (M'.answer c'.state t r).1 s

/-- **A configuration that holds another one**: the states are related, and
the tasks in flight there are those in flight here that are its own. -/
structure HoldsAt (R : State' → State → Prop) (task : Task' → Option Task)
    (c' : Config State' Task') (c : Config State Task) : Prop where
  state : R c'.state c.state
  pending : c.pending = c'.pending.filterMap task

namespace Holds

variable {M' : Machine State' Call' Task' Reply} {M : Machine State Call Task Reply}
variable {R : State' → State → Prop} {call : Call' → Option Call} {task : Task' → Option Task}
variable {ok' : Config State' Task' → Event Call' Reply → Prop}
variable {ok : Config State Task → Event Call Reply → Prop}
variable {c₀ : Config State Task} {c₀' c' : Config State' Task'} {evs' : List (Event Call' Reply)}

/-- **A run of the machine is a run of the one it holds**, of the calls of
its own. -/
theorem run (h : Holds M' M ok' R call task) (h₀ : HoldsAt R task c₀' c₀)
    (hcall : ∀ {c' c a b}, ok' c' (.call a) → HoldsAt R task c' c → call a = some b →
      ok c (.call b))
    (hanswer : ∀ {c' c i j r t u}, ok' c' (.answer i r) → HoldsAt R task c' c →
      c'.pending[i]? = some t → task t = some u → c.pending[j]? = some u → ok c (.answer j r))
    (hrun : M'.Run ok' c₀' evs' c') :
    ∃ evs c, M.Run ok c₀ evs c ∧ HoldsAt R task c' c ∧
      callsIn evs = (callsIn evs').filterMap call := by
  induction hrun with
  | nil => exact ⟨[], c₀, .nil, h₀, rfl⟩
  | @snoc evs' c' e' c'' _ he hs ih =>
    obtain ⟨evs, c, hr, hat, hcalls⟩ := ih
    rcases Machine.step_cases hs with ⟨a, s', ts', rfl, hi, rfl⟩ | ⟨i, r, t, rfl, ht, rfl⟩
    · rw [callsIn_call, List.filterMap_append]
      cases hb : call a with
      | none =>
        obtain ⟨hnil, hR⟩ := h.beside he hat.state hb hi
        refine ⟨evs, c, hr, ⟨hR, ?_⟩, ?_⟩
        · rw [List.filterMap_append, hnil, List.append_nil, hat.pending]
        · rw [hcalls, List.filterMap_cons_none hb, List.filterMap_nil, List.append_nil]
      | some b =>
        obtain ⟨s, hi', hR⟩ := h.issue he hat.state hb hi
        refine ⟨evs ++ [.call b], _, hr.snoc (hcall he hat hb)
          (Machine.step_call.2 ⟨s, _, hi', rfl⟩), ⟨hR, ?_⟩, ?_⟩
        · rw [List.filterMap_append, hat.pending]
        · rw [callsIn_call, hcalls, List.filterMap_cons_some hb, List.filterMap_nil]
    · rw [callsIn_answer]
      cases hu : task t with
      | none =>
        obtain ⟨hnil, hR⟩ := h.other he ht hat.state hu
        refine ⟨evs, c, hr, ⟨hR, ?_⟩, hcalls⟩
        rw [List.filterMap_append, hnil, List.append_nil, filterMap_eraseIdx_of_none ht hu,
          hat.pending]
      | some u =>
        obtain ⟨hj, herase⟩ := filterMap_eraseIdx_of_some ht hu
        rw [← hat.pending] at hj herase
        obtain ⟨hts, hR⟩ := h.answer he ht hat.state hu
        refine ⟨evs ++ [.answer _ r], _, hr.snoc (hanswer he hat ht hu hj)
          (Machine.step_answer.2 ⟨u, hj, rfl⟩), ⟨hR, ?_⟩, ?_⟩
        · rw [List.filterMap_append, herase, hts]
        · rw [callsIn_answer, hcalls]

end Holds

/-! ## With the calls beside the tasks -/

section

variable {M' : Machine State' Call' Task' Reply} {M : Machine State Call Task Reply}
variable {R : State' → State → Prop} {call : Call' → Option Call} {task : Task' → Option Task}
variable {ok' : Config State' Task' → Event Call' Reply → Prop}

theorem getElem?_untag {c : Config State' (Call' × Task')} {i : ℕ} {x : Call' × Task'}
    (h : c.pending[i]? = some x) : c.untag.pending[i]? = some x.2 := by
  rw [Config.untag, List.getElem?_map, h, Option.map_some]

/-- A task of a call is the other machine's where both are. -/
def taggedTask (call : Call' → Option Call) (task : Task' → Option Task) (x : Call' × Task') :
    Option (Call × Task) :=
  (call x.1).bind fun b => (task x.2).map (b, ·)

theorem taggedTask_eq_some {x : Call' × Task'} {y : Call × Task} :
    taggedTask call task x = some y ↔ call x.1 = some y.1 ∧ task x.2 = some y.2 := by
  simp only [taggedTask, Option.bind_eq_some_iff, Option.map_eq_some_iff, Prod.ext_iff]
  constructor
  · rintro ⟨b, hb, u, hu, rfl, rfl⟩
    exact ⟨hb, hu⟩
  · rintro ⟨hb, hu⟩
    exact ⟨y.1, hb, y.2, hu, rfl, rfl⟩

theorem taggedTask_eq_none {x : Call' × Task'} (h : task x.2 = none) :
    taggedTask call task x = none :=
  Option.eq_none_iff_forall_ne_some.2 fun y hy => by
    rw [(taggedTask_eq_some.1 hy).2] at h
    cases h

theorem filterMap_taggedTask {a : Call'} {b : Call} (h : call a = some b) (ts : List Task') :
    (ts.map (a, ·)).filterMap (taggedTask call task) = (ts.filterMap task).map (b, ·) := by
  rw [List.filterMap_map, List.map_filterMap]
  refine List.filterMap_congr fun t _ => ?_
  simp only [Function.comp_apply, taggedTask, h, Option.bind_some]

theorem filterMap_taggedTask_of_none {a : Call'} (h : call a = none) (ts : List Task') :
    (ts.map (a, ·)).filterMap (taggedTask call task) = [] := by
  rw [List.filterMap_map]
  refine List.filterMap_eq_nil_iff.2 fun t _ => ?_
  simp only [Function.comp_apply, taggedTask, h, Option.bind_none]

/-- **The tagged machine holds the tagged one**, where every task in flight
is of a call of the same machine. -/
theorem Holds.tagged (h : Holds M' M ok' R call task)
    {ok₁ : Config State' (Call' × Task') → Event Call' Reply → Prop}
    (hok : ∀ {c e}, ok₁ c e → ok' c.untag e)
    (hsame : ∀ {c e}, ok₁ c e → ∀ x ∈ c.pending, call x.1 = none → task x.2 = none) :
    Holds M'.tagged M.tagged ok₁ R call (taggedTask call task) where
  issue {c' s a b s₁' ts'} he hR hb hi := by
    obtain ⟨⟨s₂, ts₂⟩, hi₂, heq⟩ := Option.map_eq_some_iff.1 hi
    obtain ⟨rfl, rfl⟩ := Prod.mk.inj heq
    have he' : ok' c'.untag (.call a) := hok he
    obtain ⟨s₁, hi₁, hR₁⟩ := h.issue he' hR hb hi₂
    refine ⟨s₁, Option.map_eq_some_iff.2 ⟨_, hi₁, ?_⟩, hR₁⟩
    rw [filterMap_taggedTask hb]
  beside {c' s a s₁' ts'} he hR hb hi := by
    obtain ⟨⟨s₂, ts₂⟩, hi₂, heq⟩ := Option.map_eq_some_iff.1 hi
    obtain ⟨rfl, rfl⟩ := Prod.mk.inj heq
    have he' : ok' c'.untag (.call a) := hok he
    exact ⟨filterMap_taggedTask_of_none hb ts₂, (h.beside he' hR hb hi₂).2⟩
  answer {c' s i r x y} he hx hR hy := by
    obtain ⟨hb, hu⟩ := taggedTask_eq_some.1 hy
    obtain ⟨hts, hR₁⟩ := h.answer (hok he) (getElem?_untag hx) hR hu
    refine ⟨?_, hR₁⟩
    show (M.answer s y.2 r).2.map (y.1, ·) = _
    rw [hts]
    exact (filterMap_taggedTask hb _).symm
  other {c' s i r x} he hx hR hy := by
    have hnone : task x.2 = none := by
      cases hb : call x.1 with
      | none => exact hsame he x (List.mem_of_getElem? hx) hb
      | some b => rwa [taggedTask, hb, Option.bind_some, Option.map_eq_none_iff] at hy
    obtain ⟨hts, hR₁⟩ := h.other (hok he) (getElem?_untag hx) hR hnone
    refine ⟨?_, hR₁⟩
    show ((M'.answer c'.state x.2 r).2.map (x.1, ·)).filterMap _ = []
    cases hb : call x.1 with
    | none => exact filterMap_taggedTask_of_none hb _
    | some b => exact (filterMap_taggedTask hb _).trans (congrArg (List.map _) hts)

end

end Volleyer
