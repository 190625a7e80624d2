import Volleyer.LineUp.CancelPlay

/-!
# Lining up — the controls and the courts

A delivery that lists the user clears the flag, keeps the court and puts
the button up; one that does not changes none of the three. So what the
screen says after a delivery is what the delivery says exactly where it
lists the user, or the button was down before it: a line-up that ended on
another device is never noticed.
-/

namespace Volleyer

variable {firebaseId : Option String} {s : PlayOneScreen}
variable {evs : List (Event PlayOneScreenCall Empty)} {c : Config PlayOneScreen Empty}

namespace PlayOneScreen

/-- The user is one of the finders of a delivered court. -/
def Listed (firebaseId : Option String) (s : PlayOneScreen) : Prop :=
  ∃ playOne ∈ s.delivered, playOne.Lists firebaseId

/-- **The controls follow the courts** that were last delivered. -/
structure ControlsFollow (firebaseId : Option String) (s : PlayOneScreen) : Prop where
  canAddPlay : s.page.canAddPlay = true ↔ ¬s.Listed firebaseId
  button : s.page.rightBarButtonItem = true ↔ s.Listed firebaseId
  courtIAdded : s.Listed firebaseId →
    ∃ court, s.page.courtIAdded = some court ∧ s.WaitsAt firebaseId court

/-- **One delivery.** The controls follow it where it lists the user, or the
button is down. -/
theorem controlsFollow_didget_iff (hl : s.Linked) (playOne : List PlayOne) :
    (s.didget firebaseId playOne).ControlsFollow firebaseId ↔
      (s.page.rightBarButtonItem = true → ∃ p ∈ playOne, p.Lists firebaseId) := by
  rcases s.page.didget_cases firebaseId playOne with ⟨p, hp, hlists, hdidget⟩ | ⟨hnone, hdidget⟩
  · have hlisted : (s.didget firebaseId playOne).Listed firebaseId := ⟨p, hp, hlists⟩
    have hpage : (s.didget firebaseId playOne).page =
        ({ s.page with playOneData := Page.sortByOrder playOne }).queued p.court := hdidget
    refine iff_of_true ⟨?_, ?_, fun _ => ⟨p.court, ?_, p, hp, rfl, hlists⟩⟩
      fun _ => ⟨p, hp, hlists⟩
    · rw [hpage]
      exact iff_of_false Bool.false_ne_true (not_not_intro hlisted)
    · rw [hpage]
      exact iff_of_true rfl hlisted
    · rw [hpage]
      rfl
  · have hunlisted : ¬(s.didget firebaseId playOne).Listed firebaseId := by
      rintro ⟨p, hp, hlists⟩
      exact hnone p hp hlists
    have hpage : (s.didget firebaseId playOne).page =
        { s.page with playOneData := Page.sortByOrder playOne } := hdidget
    constructor
    · intro hfollow hbutton
      have hthere : (s.didget firebaseId playOne).page.rightBarButtonItem = true := by
        rw [hpage]
        exact hbutton
      exact absurd (hfollow.button.1 hthere) hunlisted
    · intro hlists
      have hdown : ¬s.page.rightBarButtonItem = true := by
        intro hbutton
        obtain ⟨p, hp, hp'⟩ := hlists hbutton
        exact hnone p hp hp'
      -- where the button is down, the flag is up
      have hcan : s.page.canAddPlay = true := by
        by_contra hnot
        exact hdown (hl.button (Bool.not_eq_true _ ▸ hnot))
      refine ⟨?_, ?_, fun hlisted => absurd hlisted hunlisted⟩
      · rw [hpage]
        exact iff_of_true hcan hunlisted
      · rw [hpage]
        exact iff_of_false hdown hunlisted

end PlayOneScreen

/-- Every delivery under the button lists the user. -/
def ListsUnderButton (firebaseId : Option String) (c : Config PlayOneScreen Empty)
    (e : Event PlayOneScreenCall Empty) : Prop :=
  ∀ playOne, e = .call (.didget playOne) → c.state.page.rightBarButtonItem = true →
    ∃ p ∈ playOne, p.Lists firebaseId

/-- **The controls follow the courts, over a run.** They do after every
delivery exactly where every delivery under the button lists the user. -/
theorem controlsFollow_run_iff
    (h : (playOneScreen firebaseId).Run (fun _ _ => True) (.start {}) evs c) :
    (∀ pre playOne c', pre ++ [.call (.didget playOne)] <+: evs →
        (playOneScreen firebaseId).Run (fun _ _ => True) (.start {})
          (pre ++ [.call (.didget playOne)]) c' → c'.state.ControlsFollow firebaseId) ↔
      (playOneScreen firebaseId).Run (ListsUnderButton firebaseId) (.start {}) evs c := by
  rw [← h.forall_steps_iff (P := fun e c' => ∀ playOne, e = .call (.didget playOne) →
    c'.state.ControlsFollow firebaseId) ?_]
  · constructor
    · rintro hall pre e c' hpre hrun playOne rfl
      exact hall pre playOne c' hpre hrun
    · intro hall pre playOne c' hpre hrun
      exact hall pre _ c' hpre hrun playOne rfl
  · intro pre c e c' hrun hstep
    have hl := linked_of_run hrun
    obtain ⟨a, rfl, -, -, rfl⟩ := step_playOneScreen hstep
    refine forall_congr' fun playOne => imp_congr_right fun heq => ?_
    obtain rfl := Event.call.inj heq
    exact PlayOneScreen.controlsFollow_didget_iff hl playOne

namespace Sample

/-- The user waits at a court, and has left it on another device when the
courts are delivered again. -/
def leftElsewhere : List (Event PlayOneScreenCall Empty) :=
  [.call (.didget [courtOf (decodeUser "u" fun _ => none)]), .call (.didget [⟨"A", [], 1⟩])]

end Sample

/-- Its button stays over a court nobody waits at. -/
theorem controlsFollow_fails : ¬∀ (firebaseId : Option String)
    (evs : List (Event PlayOneScreenCall Empty)) (c : Config PlayOneScreen Empty),
    (playOneScreen firebaseId).Run (fun _ _ => True) (.start {}) evs c →
    ∀ pre playOne c', pre ++ [.call (.didget playOne)] <+: evs →
      (playOneScreen firebaseId).Run (fun _ _ => True) (.start {})
        (pre ++ [.call (.didget playOne)]) c' → c'.state.ControlsFollow firebaseId := by
  intro h
  obtain ⟨c, hrun, hbutton, hdelivered⟩ : ∃ c, (playOneScreen (some "u")).Run (fun _ _ => True)
      (.start {}) Sample.leftElsewhere c ∧ c.state.page.rightBarButtonItem = true ∧
      c.state.delivered = [⟨"A", [], 1⟩] :=
    ⟨_, .of_exec ⟨trivial, trivial, trivial⟩ rfl, rfl, rfl⟩
  have hfollow := h _ _ c hrun [.call (.didget [Sample.courtOf (decodeUser "u" fun _ => none)])]
    [⟨"A", [], 1⟩] c List.prefix_rfl hrun
  obtain ⟨playOne, hmem, finder, hfinder, -⟩ := hfollow.button.1 hbutton
  rw [hdelivered] at hmem
  obtain rfl := List.mem_singleton.1 hmem
  cases hfinder

theorem controlsFollow_cancelDelivered : ∃ c,
    (playOneScreen (some "u")).Run (fun _ _ => True) (.start {}) Sample.cancelDelivered c ∧
    ∀ pre playOne c', pre ++ [.call (.didget playOne)] <+: Sample.cancelDelivered →
      (playOneScreen (some "u")).Run (fun _ _ => True) (.start {})
        (pre ++ [.call (.didget playOne)]) c' → c'.state.ControlsFollow (some "u") := by
  have hlists : (playOneScreen (some "u")).Admits (ListsUnderButton (some "u")) (.start {})
      Sample.cancelDelivered := by
    refine ⟨?_, ?_, ?_, trivial⟩ <;> intro playOne heq
    · obtain rfl := PlayOneScreenCall.didget.inj (Event.call.inj heq)
      exact fun _ => ⟨_, List.mem_cons_self, _, List.mem_cons_self, rfl⟩
    · cases heq
    · cases heq
  obtain ⟨c, hrun⟩ : ∃ c, (playOneScreen (some "u")).Run (ListsUnderButton (some "u")) (.start {})
      Sample.cancelDelivered c := ⟨_, .of_exec hlists rfl⟩
  have hany : (playOneScreen (some "u")).Run (fun _ _ => True) (.start {})
      Sample.cancelDelivered c := hrun.mono fun _ _ _ => trivial
  exact ⟨c, hany, (controlsFollow_run_iff hany).2 hrun⟩

end Volleyer
