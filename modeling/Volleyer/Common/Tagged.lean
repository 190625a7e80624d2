import Volleyer.Common.Machine

/-!
# Tasks and the calls they come from

A task in flight may be carried together with a note: one that the call
makes which starts it, and each answer brings up to date for what it puts
in flight (`Machine.noting`). The notes change nothing, so each run has its
noted one. The call itself is such a note (`Machine.tagged`): a step of the
tagged machine says whose it is (`Config.origin`).
-/

namespace Volleyer

variable {State Call Task Reply ν : Type*}

namespace Config

/-- The configuration without the notes. -/
def untag (c : Config State (ν × Task)) : Config State Task :=
  ⟨c.state, c.past, c.pending.map Prod.snd⟩

/-- The call an event is part of. -/
def origin (c : Config State (Call × Task)) : Event Call Reply → Option Call
  | .call a => some a
  | .answer i _ => (c.pending[i]?).map Prod.fst

end Config

namespace Machine

variable (M : Machine State Call Task Reply)

/-- **The machine with each task beside a note**: `first` of the call, `next`
after an answer. -/
def noting (first : State → Call → ν) (next : State → ν → ν) :
    Machine State Call (ν × Task) Reply where
  issue s a := (M.issue s a).map fun p => (p.1, p.2.map (first s a, ·))
  answer s t r := ((M.answer s t.2 r).1, (M.answer s t.2 r).2.map (next s t.1, ·))

/-- **The machine with each task beside the call it comes from.** -/
def tagged : Machine State Call (Call × Task) Reply where
  issue s a := (M.issue s a).map fun p => (p.1, p.2.map (a, ·))
  answer s t r := ((M.answer s t.2 r).1, (M.answer s t.2 r).2.map (t.1, ·))

theorem tagged_eq : M.tagged = M.noting (fun _ a => a) fun _ a => a := rfl

variable {M} {first : State → Call → ν} {next : State → ν → ν}
variable {ok : Config State Task → Event Call Reply → Prop}
variable {c c' c₀ : Config State (ν × Task)} {c₁ : Config State Task}
variable {e : Event Call Reply} {evs : List (Event Call Reply)}

/-- A step without the notes is a step. -/
theorem step_untag (h : (M.noting first next).step c e = some c') :
    M.step c.untag e = some c'.untag := by
  rcases step_cases h with ⟨a, s, ts, rfl, hi, rfl⟩ | ⟨i, r, t, rfl, ht, rfl⟩
  · obtain ⟨⟨s₁, ts₁⟩, hissue, heq⟩ := Option.map_eq_some_iff.1 hi
    obtain ⟨rfl, rfl⟩ := Prod.mk.inj heq
    refine step_call.2 ⟨s₁, ts₁, hissue, ?_⟩
    simp [Config.untag, Config.seen, Function.comp_def]
  · refine step_answer.2 ⟨t.2, ?_, ?_⟩
    · rw [Config.untag, List.getElem?_map, ht, Option.map_some]
    · simp [Config.untag, Config.seen, noting, Function.comp_def, List.eraseIdx_map]

/-- And a step has its noted one. -/
theorem exists_step_noting (h : M.step c.untag e = some c₁) :
    ∃ c', (M.noting first next).step c e = some c' ∧ c₁ = c'.untag := by
  rcases step_cases h with ⟨a, s, ts, rfl, hi, rfl⟩ | ⟨i, r, t, rfl, ht, rfl⟩
  · refine ⟨_, step_call.2 ⟨s, ts.map (first c.state a, ·), ?_, rfl⟩, ?_⟩
    · exact Option.map_eq_some_iff.2 ⟨_, hi, rfl⟩
    · simp [Config.untag, Config.seen, Function.comp_def]
  · rw [Config.untag, List.getElem?_map] at ht
    obtain ⟨x, hx, rfl⟩ := Option.map_eq_some_iff.1 ht
    refine ⟨_, step_answer.2 ⟨x, hx, rfl⟩, ?_⟩
    simp [Config.untag, Config.seen, noting, Function.comp_def, List.eraseIdx_map]

namespace Run

/-- **Every run has its noted one.** -/
theorem noting (first : State → Call → ν) (next : State → ν → ν)
    (h : M.Run ok c₀.untag evs c₁) :
    ∃ c', (M.noting first next).Run (fun c e => ok c.untag e) c₀ evs c' ∧ c₁ = c'.untag := by
  generalize hstart : c₀.untag = c at h
  induction h with
  | nil => exact ⟨c₀, .nil, hstart.symm⟩
  | snoc _ he hs ih =>
    obtain ⟨c', hr, rfl⟩ := ih
    obtain ⟨c'', hs', rfl⟩ := exists_step_noting hs
    exact ⟨c'', .snoc hr he hs', rfl⟩

/-- **And its tagged one.** -/
theorem tagged {c₀ : Config State (Call × Task)} (h : M.Run ok c₀.untag evs c₁) :
    ∃ c', M.tagged.Run (fun c e => ok c.untag e) c₀ evs c' ∧ c₁ = c'.untag :=
  Run.noting (fun _ a => a) (fun _ a => a) h

/-- A tagged run without the calls is a run. -/
theorem untag {c₀ c : Config State (Call × Task)}
    (h : M.tagged.Run (fun c e => ok c.untag e) c₀ evs c) : M.Run ok c₀.untag evs c.untag := by
  induction h with
  | nil => exact .nil
  | snoc _ he hs ih => exact .snoc ih he (step_untag (M.tagged_eq ▸ hs))

end Run

end Machine

end Volleyer
