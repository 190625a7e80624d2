import Volleyer.Common.Settle

/-!
# Refinement

A specification has no callbacks: an operation is enabled or it is not,
and is over at once. A machine that settles refines one when each call,
its callbacks played out, does what its operation does; a call without an
operation changes nothing the specification sees. Then a run of calls
taken one at a time, answered in any order, leads where its operations
lead (`Settles.refines`).
-/

namespace Volleyer

variable {State Call Task Reply Abs Op : Type*}

/-- The operation an event starts, if it starts one. -/
def Event.op (op : Call → Option Op) : Event Call Reply → Option Op
  | .call a => op a
  | .answer _ _ => none

/-- The calls of a run, in their order. -/
def callsIn (evs : List (Event Call Reply)) : List Call := evs.filterMap (Event.op some)

section

variable (evs evs' : List (Event Call Reply))

theorem callsIn_append : callsIn (evs ++ evs') = callsIn evs ++ callsIn evs' :=
  List.filterMap_append

@[simp] theorem callsIn_call (a : Call) : callsIn (evs ++ [.call a]) = callsIn evs ++ [a] :=
  callsIn_append evs [.call a]

@[simp] theorem callsIn_answer (i : ℕ) (r : Reply) : callsIn (evs ++ [.answer i r]) = callsIn evs :=
  (callsIn_append evs [.answer i r]).trans (List.append_nil _)

/-- **Where each call waits for the one before to be over**, the first calls
of a run that is over are those of a run that is over. -/
theorem Machine.Run.exists_quiet {M : Machine State Call Task Reply}
    {ok : Config State Task → Event Call Reply → Prop} {c₀ c : Config State Task}
    {evs : List (Event Call Reply)} {calls : List Call} (hrun : M.Run ok c₀ evs c)
    (hquiet : ∀ c a, ok c (.call a) → c.pending = []) (hdone : c.pending = [])
    (h : calls <+: callsIn evs) :
    ∃ evs₁ c₁, evs₁ <+: evs ∧ M.Run ok c₀ evs₁ c₁ ∧ c₁.pending = [] ∧ callsIn evs₁ = calls := by
  have hbefore : calls = callsIn evs ∨ ∃ evs₁ c₁, evs₁ <+: evs ∧ M.Run ok c₀ evs₁ c₁ ∧
      c₁.pending = [] ∧ callsIn evs₁ = calls := by
    clear hdone
    induction hrun with
    | nil => exact Or.inl (List.prefix_nil.1 h)
    | @snoc evs c e c' hr he hs ih =>
      have hlonger : (∃ evs₁ c₁, evs₁ <+: evs ∧ M.Run ok c₀ evs₁ c₁ ∧ c₁.pending = [] ∧
          callsIn evs₁ = calls) → ∃ evs₁ c₁, evs₁ <+: evs ++ [e] ∧ M.Run ok c₀ evs₁ c₁ ∧
          c₁.pending = [] ∧ callsIn evs₁ = calls := by
        rintro ⟨evs₁, c₁, hpre, hrest⟩
        exact ⟨evs₁, c₁, hpre.trans (List.prefix_append _ _), hrest⟩
      cases e with
      | call a =>
        rw [callsIn_call] at h ⊢
        rcases List.prefix_concat_iff.1 h with heq | hpre
        · exact Or.inl heq
        · -- the run before the call was over
          refine Or.inr (hlonger ((ih hpre).elim (fun heq => ?_) id))
          exact ⟨evs, c, List.prefix_rfl, hr, hquiet c a he, heq.symm⟩
      | answer i r =>
        rw [callsIn_answer] at h ⊢
        exact (ih h).imp_right hlonger
  exact hbefore.elim (fun heq => ⟨evs, c, List.prefix_rfl, hrun, hdone, heq.symm⟩) id

/-- The operations of a run are those of its calls. -/
theorem filterMap_callsIn (op : Call → Option Op) :
    (callsIn evs).filterMap op = evs.filterMap (Event.op op) := by
  rw [callsIn, List.filterMap_filterMap]
  congr 1
  funext e
  cases e <;> rfl

end

/-- Where an operation, or none, leads the specification. -/
def optStep (step : Abs → Op → Option Abs) (b : Abs) : Option Op → Option Abs
  | some o => step b o
  | none => some b

/-- One more event runs its operation. -/
theorem foldlM_filterMap_snoc {step : Abs → Op → Option Abs} {op : Call → Option Op} {b₀ b : Abs}
    {evs : List (Event Call Reply)} (e : Event Call Reply)
    (h : (evs.filterMap (Event.op op)).foldlM step b₀ = some b) :
    ((evs ++ [e]).filterMap (Event.op op)).foldlM step b₀ = optStep step b (e.op op) := by
  rw [List.filterMap_append, List.foldlM_append, h]
  show (List.filterMap (Event.op op) [e]).foldlM step b = _
  cases he : e.op op with
  | none =>
    rw [List.filterMap_cons_none he]
    rfl
  | some o =>
    rw [List.filterMap_cons_some he, List.filterMap_nil, List.foldlM_cons]
    exact bind_pure (step b o)

/-- **A machine that settles refines a specification.** If the answers are
`reply`, every call is made with nothing in flight, and each keeps `R`
when its operation is run beside it, then the operations of a run are
enabled one after the other and `R` holds of where they lead. -/
theorem Settles.refines {M : Machine State Call Task Reply} {reply : Task → Reply}
    {Good : State → Prop} {effect : State → Task → State} {Ind : Task → Task → Prop}
    (h : Settles M reply Good effect Ind) {step : Abs → Op → Option Abs} {op : Call → Option Op}
    {R : State → Abs → Prop} {ok : Config State Task → Event Call Reply → Prop}
    {c₀ c : Config State Task} {b₀ : Abs} {evs : List (Event Call Reply)}
    (hrun : M.Run ok c₀ evs c) (hp₀ : c₀.pending = []) (hg₀ : Good c₀.state)
    (h₀ : R c₀.state b₀) (hquiet : ∀ c a, ok c (.call a) → c.pending = [])
    (hreply : ∀ c i r, ok c (.answer i r) → ∀ t, c.pending[i]? = some t → r = reply t)
    (hcall : ∀ c a s ts b, Good c.state → R c.state b → ok c (.call a) →
      M.issue c.state a = some (s, ts) → Good s ∧ ts.Pairwise Ind ∧
        ∃ b', optStep step b (op a) = some b' ∧ R (ts.foldl effect s) b') :
    ∃ b, (evs.filterMap (Event.op op)).foldlM step b₀ = some b ∧ R (c.settled effect) b := by
  refine (h.serial
    (I := fun evs s => ∃ b, (evs.filterMap (Event.op op)).foldlM step b₀ = some b ∧ R s b)
    hrun hp₀ hg₀ ⟨b₀, rfl, h₀⟩ hquiet hreply ?_ ?_).1
  · rintro evs i r s ⟨b, hb, hR⟩
    exact ⟨b, foldlM_filterMap_snoc (.answer i r) hb, hR⟩
  · rintro evs c a s ts - - hg ⟨b, hb, hR⟩ hok hi
    obtain ⟨hg', hind, b', hstep, hR'⟩ := hcall c a s ts b hg hR hok hi
    exact ⟨hg', hind, b', (foldlM_filterMap_snoc (.call a) hb).trans hstep, hR'⟩

end Volleyer
