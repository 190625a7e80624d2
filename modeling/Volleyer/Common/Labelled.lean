import Volleyer.Common.Projects
import Volleyer.Common.Writes

/-!
# Runs without some operations

The calls of a machine that meet `mine` are labelled, and so is every task
they lead to (`Machine.labelled`). A run without them is the events that
are left, with the places of the answered tasks among the tasks that are
left (`Machine.without`). Where the labelled tasks do nothing `R` sees, the
two runs stay related by `R` (`Unnoticed.run`): what is not labelled goes on as
if nothing labelled had happened.
-/

namespace Volleyer

variable {State Call Task Reply : Type*}

/-- A task that is not labelled. -/
def unlabelled : Bool × Task → Option Task
  | (true, _) => none
  | (false, t) => some t

namespace Machine

variable (M : Machine State Call Task Reply) (mine : State → Call → Bool)

/-- **The machine with its tasks labelled** by the calls they come from. -/
def labelled : Machine State Call (Bool × Task) Reply where
  issue s a := (M.issue s a).map fun p => (p.1, p.2.map fun t => (mine s a, t))
  answer s t r := ((M.answer s t.2 r).1, (M.answer s t.2 r).2.map fun u => (t.1, u))

/-- What is left of an event. -/
def kept (c : Config State (Bool × Task)) : Event Call Reply → List (Event Call Reply)
  | .call a => if mine c.state a then [] else [.call a]
  | .answer i r => match c.pending[i]? with
    | some (false, _) => [.answer ((c.pending.take i).filterMap unlabelled).length r]
    | _ => []

/-- **The events without the labelled operations.** -/
def without (c : Config State (Bool × Task)) (evs : List (Event Call Reply)) :
    List (Event Call Reply) :=
  (M.labelled mine).observed (kept mine) c evs

variable {M mine} {ok : Config State Task → Event Call Reply → Prop}
variable {c : Config State Task} {evs : List (Event Call Reply)}

/-- **Labels change nothing**: every run has its labelled one. -/
theorem Run.labelled (mine : State → Call → Bool) (c₀ : Config State (Bool × Task))
    (h : M.Run ok ⟨c₀.state, c₀.past, c₀.pending.map Prod.snd⟩ evs c) :
    ∃ c', (M.labelled mine).Run
        (fun c e => ok ⟨c.state, c.past, c.pending.map Prod.snd⟩ e) c₀ evs c' ∧
      c = ⟨c'.state, c'.past, c'.pending.map Prod.snd⟩ := by
  induction h with
  | nil => exact ⟨c₀, .nil, rfl⟩
  | snoc _ he hs ih =>
    obtain ⟨c', hr, rfl⟩ := ih
    rcases step_cases hs with ⟨a, s, ts, rfl, hi, rfl⟩ | ⟨i, r, t, rfl, ht, rfl⟩
    · refine ⟨_, .snoc hr he (step_call.2 ⟨s, ts.map fun t => (mine c'.state a, t), ?_, rfl⟩), ?_⟩
      · exact Option.map_eq_some_iff.2 ⟨_, hi, rfl⟩
      · simp [Config.seen, Function.comp_def]
    · have ht' : (c'.pending.map Prod.snd)[i]? = some t := ht
      rw [List.getElem?_map] at ht'
      obtain ⟨x, hx, rfl⟩ := Option.map_eq_some_iff.1 ht'
      refine ⟨_, .snoc hr he (step_answer.2 ⟨x, hx, rfl⟩), ?_⟩
      simp [Config.seen, Machine.labelled, Function.comp_def, List.eraseIdx_map]

end Machine

/-- **What is labelled does nothing `R` sees**, where the answers to labelled
tasks are admitted by `ok`. `Own` holds of the labelled tasks in flight
and `Other` of the others. -/
structure Unnoticed (M : Machine State Call Task Reply) (mine : State → Call → Bool)
    (ok : Config State (Bool × Task) → Event Call Reply → Prop) (R : State → State → Prop)
    (Own Other : Task → Prop) : Prop where
  call : ∀ {s s' a s₁ ts}, mine s a = false → R s s' → M.issue s a = some (s₁, ts) →
    (∃ s₁', M.issue s' a = some (s₁', ts) ∧ R s₁ s₁') ∧ ∀ t ∈ ts, Other t
  ownCall : ∀ {s s' a s₁ ts}, mine s a = true → R s s' → M.issue s a = some (s₁, ts) →
    R s₁ s' ∧ ∀ t ∈ ts, Own t
  answer : ∀ {s s' t} (r), Other t → R s s' →
    R (M.answer s t r).1 (M.answer s' t r).1 ∧ (M.answer s' t r).2 = (M.answer s t r).2 ∧
      ∀ t' ∈ (M.answer s t r).2, Other t'
  ownAnswer : ∀ {c s' i r t}, ok c (.answer i r) → c.pending[i]? = some (true, t) → Own t →
    R c.state s' → R (M.answer c.state t r).1 s' ∧ ∀ t' ∈ (M.answer c.state t r).2, Own t'

namespace Unnoticed

variable {M : Machine State Call Task Reply} {mine : State → Call → Bool}
variable {ok : Config State (Bool × Task) → Event Call Reply → Prop}
variable {R : State → State → Prop} {Own Other : Task → Prop}
variable {c c₀ c₁ : Config State (Bool × Task)} {c' : Config State Task}
variable {e : Event Call Reply} {evs : List (Event Call Reply)}

/-- **A configuration beside one of the run without.** -/
structure Beside (R : State → State → Prop) (Own Other : Task → Prop)
    (c : Config State (Bool × Task)) (c' : Config State Task) : Prop where
  state : R c.state c'.state
  pending : c'.pending = c.pending.filterMap unlabelled
  own : ∀ t, (true, t) ∈ c.pending → Own t
  other : ∀ t, (false, t) ∈ c.pending → Other t

theorem filterMap_unlabelled_false (ts : List Task) :
    (ts.map fun t => (false, t)).filterMap unlabelled = ts := by
  rw [List.filterMap_map]
  exact List.filterMap_some

theorem filterMap_unlabelled_true (ts : List Task) :
    (ts.map fun t => (true, t)).filterMap unlabelled = [] := by
  rw [List.filterMap_map]
  exact List.filterMap_eq_nil_iff.2 fun _ _ => rfl

/-- New tasks of a label. -/
theorem Beside.append {b : Bool} {past : List State} {past' : List State} {s s' : State}
    {l : List (Bool × Task)} {l' ts : List Task}
    (h : Beside R Own Other ⟨s, past, l⟩ ⟨s', past', l'⟩)
    (hts : ∀ t ∈ ts, if b then Own t else Other t) :
    Beside R Own Other ⟨s, past, l ++ ts.map fun t => (b, t)⟩
      ⟨s', past', l' ++ if b then [] else ts⟩ where
  state := h.state
  pending := by
    have hl : l' = l.filterMap unlabelled := h.pending
    rw [List.filterMap_append, hl]
    cases b with
    | true => rw [filterMap_unlabelled_true, if_pos rfl]
    | false => rw [filterMap_unlabelled_false, if_neg Bool.false_ne_true]
  own t ht := by
    rcases List.mem_append.1 ht with ht | ht
    · exact h.own t ht
    · obtain ⟨u, hu, heq⟩ := List.mem_map.1 ht
      obtain ⟨rfl, rfl⟩ := Prod.mk.inj heq
      exact hts u hu
  other t ht := by
    rcases List.mem_append.1 ht with ht | ht
    · exact h.other t ht
    · obtain ⟨u, hu, heq⟩ := List.mem_map.1 ht
      obtain ⟨rfl, rfl⟩ := Prod.mk.inj heq
      exact hts u hu

/-- **One step**: what is left of the event leads on beside it. -/
theorem step (h : Unnoticed M mine ok R Own Other) (hb : Beside R Own Other c c') (he : ok c e)
    (hs : (M.labelled mine).step c e = some c₁) :
    ∃ c₁', M.Run (fun _ _ => True) c' (Machine.kept mine c e) c₁' ∧
      Beside R Own Other c₁ c₁' := by
  rcases Machine.step_cases hs with ⟨a, s, ts, rfl, hi, rfl⟩ | ⟨i, r, ⟨b, t⟩, rfl, ht, rfl⟩
  · obtain ⟨⟨s₁, ts₁⟩, hissue, heq⟩ := Option.map_eq_some_iff.1 hi
    obtain ⟨rfl, rfl⟩ := Prod.mk.inj heq
    cases hmine : mine c.state a with
    | true =>
      -- left out of the run beside, which stays where it is
      obtain ⟨hR, hown⟩ := h.ownCall hmine hb.state hissue
      have hkept : Machine.kept mine c (.call a : Event Call Reply) = [] := if_pos hmine
      rw [hkept]
      have hnext : Beside R Own Other ⟨s₁, c.seen, c.pending⟩ c' := { hb with state := hR }
      have happend := hnext.append (b := true) hown
      rw [if_pos rfl, List.append_nil] at happend
      exact ⟨c', .nil, happend⟩
    | false =>
      obtain ⟨⟨s₁', hissue', hR⟩, hother⟩ := h.call hmine hb.state hissue
      have hkept : Machine.kept mine c (.call a : Event Call Reply) = [.call a] :=
        if_neg (by rw [hmine]; exact Bool.false_ne_true)
      rw [hkept]
      have hnext : Beside R Own Other ⟨s₁, c.seen, c.pending⟩ ⟨s₁', c'.seen, c'.pending⟩ :=
        { hb with state := hR }
      exact ⟨_, .snoc .nil trivial (Machine.step_call.2 ⟨s₁', ts₁, hissue', rfl⟩),
        hnext.append (b := false) hother⟩
  · have hmem := List.mem_of_getElem? ht
    cases b with
    | true =>
      obtain ⟨hR, hown⟩ := h.ownAnswer he ht (hb.own t hmem) hb.state
      have hkept : Machine.kept mine c (.answer i r : Event Call Reply) = [] := by
        simp only [Machine.kept, ht]
      rw [hkept]
      have hnext : Beside R Own Other
          ⟨(M.answer c.state t r).1, c.seen, c.pending.eraseIdx i⟩ c' :=
        { state := hR
          pending := by rw [hb.pending, filterMap_eraseIdx_of_none ht rfl]
          own := fun t' ht' => hb.own t' (List.mem_of_mem_eraseIdx ht')
          other := fun t' ht' => hb.other t' (List.mem_of_mem_eraseIdx ht') }
      have happend := hnext.append (b := true) hown
      rw [if_pos rfl, List.append_nil] at happend
      exact ⟨c', .nil, happend⟩
    | false =>
      -- the answered task stands in the run beside after the unlabelled ones before it
      obtain ⟨hR, hts, hother⟩ := h.answer r (hb.other t hmem) hb.state
      have hselected : unlabelled (false, t) = some t := rfl
      obtain ⟨hj, herase⟩ := filterMap_eraseIdx_of_some ht hselected
      rw [← hb.pending] at hj herase
      have hkept : Machine.kept mine c (.answer i r : Event Call Reply) =
          [.answer ((c.pending.take i).filterMap unlabelled).length r] := by
        simp only [Machine.kept, ht]
      rw [hkept]
      refine ⟨_, .snoc .nil trivial (Machine.step_answer.2 ⟨t, hj, rfl⟩), ?_⟩
      rw [hts, ← herase]
      have hnext : Beside R Own Other
          ⟨(M.answer c.state t r).1, c.seen, c.pending.eraseIdx i⟩
          ⟨(M.answer c'.state t r).1, c'.seen, (c.pending.eraseIdx i).filterMap unlabelled⟩ :=
        { state := hR
          pending := rfl
          own := fun t' ht' => hb.own t' (List.mem_of_mem_eraseIdx ht')
          other := fun t' ht' => hb.other t' (List.mem_of_mem_eraseIdx ht') }
      exact hnext.append (b := false) hother

/-- **The run without the labelled operations** stays beside the run. -/
theorem run (h : Unnoticed M mine ok R Own Other) (hb : Beside R Own Other c₀ c')
    (hrun : (M.labelled mine).Run ok c₀ evs c) :
    ∃ c₁', M.Run (fun _ _ => True) c' (M.without mine c₀ evs) c₁' ∧
      Beside R Own Other c c₁' := by
  induction hrun with
  | nil => exact ⟨c', .nil, hb⟩
  | snoc hr he hs ih =>
    obtain ⟨c₁, hr₁, hb₁⟩ := ih
    obtain ⟨c₂, hr₂, hb₂⟩ := h.step hb₁ he hs
    refine ⟨c₂, ?_, hb₂⟩
    rw [Machine.without, hr.observed_snoc (Machine.kept mine) hs]
    exact hr₁.append hr₂

end Unnoticed

end Volleyer
