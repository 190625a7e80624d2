import Volleyer.Common.Machine

/-!
# The last write

What a run answered, in order, and the fields of a document that some
answers write and nothing else changes. Such a field is what the last of
its writes left, or what it started with (`Run.last_write`).
-/

namespace Volleyer

variable {State Call Task Reply : Type*}

/-- What an event answers, with the state it answers it in. -/
def Config.answered (c : Config State Task) : Event Call Reply → List (State × Task × Reply)
  | .call _ => []
  | .answer i r => (c.pending[i]?.map fun t => (c.state, t, r)).toList

namespace Machine

variable (M : Machine State Call Task Reply)

/-- **What a list of events shows**, in order: `obs` is what an event shows
where it happens. -/
def observed {α : Type*} (obs : Config State Task → Event Call Reply → List α)
    (c : Config State Task) : List (Event Call Reply) → List α
  | [] => []
  | e :: es => obs c e ++ match M.step c e with
    | some c' => observed obs c' es
    | none => []

/-- **What a list of events answers**, in order. -/
def answered (c : Config State Task) : List (Event Call Reply) → List (State × Task × Reply)
  | [] => []
  | e :: es => c.answered e ++ match M.step c e with
    | some c' => answered c' es
    | none => []

variable {M} {ok : Config State Task → Event Call Reply → Prop}
variable {c₀ c c' : Config State Task} {e : Event Call Reply} {evs : List (Event Call Reply)}

theorem answered_eq (c : Config State Task) (evs : List (Event Call Reply)) :
    M.answered c evs = M.observed Config.answered c evs := by
  induction evs generalizing c with
  | nil => rfl
  | cons e es ih =>
    rw [answered, observed]
    cases M.step c e with
    | none => rfl
    | some c' => simp only [ih]

namespace Run

/-- What a run shows, and then what the events after it do. -/
theorem observed_append {α : Type*} (obs : Config State Task → Event Call Reply → List α)
    (h : M.Run ok c₀ evs c) (evs' : List (Event Call Reply)) :
    M.observed obs c₀ (evs ++ evs') = M.observed obs c₀ evs ++ M.observed obs c evs' := by
  induction h generalizing evs' with
  | nil => simp only [List.nil_append, observed]
  | @snoc evs c e c' _ _ hs ih =>
    have hlast : M.observed obs c [e] = obs c e := by
      simp only [observed, hs, List.append_nil]
    rw [List.append_assoc, List.singleton_append, ih, ih [e], hlast, List.append_assoc, observed,
      hs]

theorem observed_snoc {α : Type*} (obs : Config State Task → Event Call Reply → List α)
    (h : M.Run ok c₀ evs c) (hs : M.step c e = some c') :
    M.observed obs c₀ (evs ++ [e]) = M.observed obs c₀ evs ++ obs c e := by
  rw [h.observed_append obs]
  simp only [observed, hs, List.append_nil]

/-- What a run shows, some event of it shows where it happens. -/
theorem mem_observed {α : Type*} {obs : Config State Task → Event Call Reply → List α} {x : α}
    (h : M.Run ok c₀ evs c) (hx : x ∈ M.observed obs c₀ evs) :
    ∃ pre e c', pre ++ [e] <+: evs ∧ M.Run ok c₀ pre c' ∧ x ∈ obs c' e := by
  induction h with
  | nil => exact absurd hx List.not_mem_nil
  | @snoc evs c e c' hr _ hs ih =>
    rw [hr.observed_snoc obs hs] at hx
    rcases List.mem_append.1 hx with hx | hx
    · obtain ⟨pre, e₁, c₁, hpre, hr₁, hx₁⟩ := ih hx
      exact ⟨pre, e₁, c₁, hpre.trans (List.prefix_append _ _), hr₁, hx₁⟩
    · exact ⟨evs, e, c, List.prefix_rfl, hr, hx⟩

/-- **All a run shows** meets a claim exactly when each event shows what
meets it. -/
theorem forall_observed_iff {α : Type*} {obs : Config State Task → Event Call Reply → List α}
    {P : α → Prop} (h : M.Run ok c₀ evs c) :
    (∀ x ∈ M.observed obs c₀ evs, P x) ↔ M.Run (fun c e => ∀ x ∈ obs c e, P x) c₀ evs c := by
  induction h with
  | nil => exact iff_of_true (fun x hx => absurd hx List.not_mem_nil) .nil
  | @snoc evs c e c' hr _ hs ih =>
    rw [hr.observed_snoc obs hs]
    constructor
    · intro hall
      exact .snoc (ih.1 fun x hx => hall x (List.mem_append_left _ hx))
        (fun x hx => hall x (List.mem_append_right _ hx)) hs
    · intro hP x hx
      obtain ⟨c₁, hr₁, he, -⟩ := hP.snoc_inv
      obtain rfl := hr.unique hr₁
      rcases List.mem_append.1 hx with hx | hx
      · exact ih.2 hr₁ x hx
      · exact he x hx

theorem answered_snoc (h : M.Run ok c₀ evs c) (hs : M.step c e = some c') :
    M.answered c₀ (evs ++ [e]) = M.answered c₀ evs ++ c.answered e := by
  rw [answered_eq, answered_eq, h.observed_snoc Config.answered hs]

/-- Every answer of a run was admitted where it was given. -/
theorem forall_answered_ok {P : State × Task × Reply → Prop} (h : M.Run ok c₀ evs c)
    (hP : ∀ {c i r t}, ok c (.answer i r) → c.pending[i]? = some t → P (c.state, t, r)) :
    ∀ x ∈ M.answered c₀ evs, P x := by
  induction h with
  | nil => exact fun x hx => absurd hx List.not_mem_nil
  | @snoc evs c e c' hr he hs ih =>
    intro x hx
    rw [hr.answered_snoc hs] at hx
    rcases List.mem_append.1 hx with hx | hx
    · exact ih x hx
    · cases e with
      | call a => cases hx
      | answer i r =>
        obtain ⟨t, ht, rfl⟩ := Option.map_eq_some_iff.1 (Option.mem_toList.1 hx)
        exact hP he ht

/-- What holds of every task in flight holds of every answered one. -/
theorem forall_answered {J : Task → Prop} (h : M.Run ok c₀ evs c)
    (hJ : ∀ evs c, M.Run ok c₀ evs c → ∀ t ∈ c.pending, J t) :
    ∀ x ∈ M.answered c₀ evs, J x.2.1 := by
  induction h with
  | nil => exact fun x hx => absurd hx List.not_mem_nil
  | @snoc evs c e c' hr _ hs ih =>
    intro x hx
    rw [hr.answered_snoc hs] at hx
    rcases List.mem_append.1 hx with hx | hx
    · exact ih x hx
    · cases e with
      | call a => cases hx
      | answer i r =>
        obtain ⟨t, ht, rfl⟩ := Option.map_eq_some_iff.1 (Option.mem_toList.1 hx)
        exact hJ evs c hr t (List.mem_of_getElem? ht)

/-- **The last write.** `write` is what an answer writes to the fields `F`
of a document, if it writes: where every answer leaves in them what it
writes, or what it found, a run leaves what the last write wrote. -/
theorem last_write {Field α : Type*} {F : List Field}
    {write : State × Task × Reply → Option (Field → α)} {d₀ : Field → α}
    (doc : State → Option (Field → α)) (h : M.Run ok c₀ evs c) (h₀ : doc c₀.state = some d₀)
    (hcall : ∀ {c : Config State Task} {a s ts}, ok c (.call a) →
      M.issue c.state a = some (s, ts) → doc s = doc c.state)
    (hanswer : ∀ {c : Config State Task} {i r t d}, ok c (.answer i r) →
      c.pending[i]? = some t → doc c.state = some d →
      ∃ d', doc (M.answer c.state t r).1 = some d' ∧
        ∀ f ∈ F, d' f = (write (c.state, t, r)).getD d f) :
    ∃ d, doc c.state = some d ∧
      ∀ f ∈ F, d f = ((M.answered c₀ evs).filterMap write).getLast?.getD d₀ f := by
  induction h with
  | nil => exact ⟨d₀, h₀, fun f _ => rfl⟩
  | @snoc evs c e c' hr he hs ih =>
    obtain ⟨d, hd, hlast⟩ := ih
    rw [hr.answered_snoc hs, List.filterMap_append, List.getLast?_append]
    rcases step_cases hs with ⟨a, s, ts, rfl, hi, rfl⟩ | ⟨i, r, t, rfl, ht, rfl⟩
    · refine ⟨d, (hcall he hi).trans hd, fun f hf => ?_⟩
      simpa only [Config.answered, List.filterMap_nil, List.getLast?_nil, Option.none_or] using
        hlast f hf
    · obtain ⟨d', hd', hstep⟩ := hanswer he ht hd
      refine ⟨d', hd', fun f hf => ?_⟩
      rw [hstep f hf]
      simp only [Config.answered, ht, Option.map_some, Option.toList_some]
      cases hw : write (c.state, t, r) with
      | none => simpa [hw] using hlast f hf
      | some v => simp [hw]

end Run

end Machine

end Volleyer
