import Volleyer.Roster.Decisions

/-!
# The roster — acceptances and cancellations that overlap

Any number of acceptances and cancellations may be under way at once,
among requests sent, denied and withdrawn and plays changed. Nobody gets
a second place and nobody is touched whom no decision is about; those
decided about are where they were put exactly when every write lands on
the list its read saw (`asDecided_iff`).
-/

namespace Volleyer

variable {s s₀ : Server} {D : List (Decision × PlayRequest)}
variable {evs : List (Event Call Reply)}

/-! ## What is claimed -/

/-- **A decision has something to do**: who is accepted is not in the play,
who cancels is, by both lists. -/
def StillOpen (s : Server) (x : Decision × PlayRequest) : Prop :=
  (x.1 = .accept ↔ x.2.requestSenderId ∉ (s.playerInfo x.2.playId).getD []) ∧
    (x.1 = .accept ↔ x.2.playId ∉ (s.myPlayList x.2.requestSenderId).getD [])

/-- **As decided**: who was accepted is in the play, who cancelled is not,
by both lists. -/
def AsDecided (D : List (Decision × PlayRequest)) (s : Server) : Prop :=
  ∀ x ∈ D, (x.1 = .accept ↔ x.2.requestSenderId ∈ (s.playerInfo x.2.playId).getD []) ∧
    (x.1 = .accept ↔ x.2.playId ∈ (s.myPlayList x.2.requestSenderId).getD [])

/-- **The others stay**: where no decision is about a player and a play,
both lists say of them what they said. -/
def OthersKept (D : List (Decision × PlayRequest)) (s₀ s : Server) : Prop :=
  ∀ p v, (∀ x ∈ D, (x.2.playId, x.2.requestSenderId) ≠ (p, v)) →
    (v ∈ (s.playerInfo p).getD [] ↔ v ∈ (s₀.playerInfo p).getD []) ∧
      (p ∈ (s.myPlayList v).getD [] ↔ p ∈ (s₀.myPlayList v).getD [])

/-- **A write lands on the list its read saw**: what it writes is the edit
its call decided on, made on the list that is there. -/
def WritesDecision (c : Config Server (Call × Task)) : Event Call Reply → Prop
  | .call _ => True
  | .answer i _ => ∀ a t, c.pending[i]? = some (a, t) → match t with
    | .setPlayerInfo p l => ∃ d q, a.decides = some (d, q) ∧
        d.edit.callback q.requestSenderId ((c.state.playerInfo p).getD []) = some l
    | .setMyPlayList u l => ∃ d q, a.decides = some (d, q) ∧
        d.edit.callback q.playId ((c.state.myPlayList u).getD []) = some l
    | _ => True

/-! ## What is asked for -/

/-- **Open decisions about different players and plays** ask a register
for edits of different members, each with something to do. -/
theorem fit_register (hpairs : (D.map fun x => (x.2.playId, x.2.requestSenderId)).Nodup)
    (hopen : ∀ x ∈ D, StillOpen s x) (reg : Register) :
    ((D.filterMap reg.decision).map Prod.snd).Nodup ∧ ∀ y ∈ D.filterMap reg.decision,
      Members.Changes (fun y : Decision × String => y.1 = .accept) Prod.snd (reg.value s) y := by
  constructor
  · have hasked : (D.filterMap reg.decision).map Prod.snd = (D.map Prod.snd).filterMap reg.ask := by
      rw [List.map_filterMap, List.filterMap_map]
      refine List.filterMap_congr fun x _ => ?_
      show ((reg.ask x.2).map (x.1, ·)).map Prod.snd = reg.ask x.2
      rw [Option.map_map]
      exact Option.map_id'
    rw [hasked]
    refine nodup_ask ?_ reg
    rw [List.map_map]
    exact hpairs
  · intro y hy
    obtain ⟨x, hx, hdecision⟩ := List.mem_filterMap.1 hy
    rcases Register.decision_eq_some.1 hdecision with ⟨rfl, rfl⟩ | ⟨rfl, rfl⟩
    · exact (hopen x hx).1
    · exact (hopen x hx).2

/-- As decided, register by register. -/
theorem asDecided_iff_registers : AsDecided D s ↔ ∀ reg : Register,
    ∀ y ∈ D.filterMap reg.decision,
      ¬Members.Changes (fun y : Decision × String => y.1 = .accept) Prod.snd (reg.value s) y := by
  have hdone : ∀ (y : Decision × String) (l : List String),
      ¬Members.Changes (fun y : Decision × String => y.1 = .accept) Prod.snd l y ↔
        (y.1 = .accept ↔ y.2 ∈ l) := by
    intro y l
    rw [Members.Changes]
    tauto
  constructor
  · intro h reg y hy
    obtain ⟨x, hx, hdecision⟩ := List.mem_filterMap.1 hy
    rw [hdone]
    rcases Register.decision_eq_some.1 hdecision with ⟨rfl, rfl⟩ | ⟨rfl, rfl⟩
    · exact (h x hx).1
    · exact (h x hx).2
  · intro h x hx
    have hat : ∀ (reg : Register) (y : Decision × String), reg.decision x = some y →
        (y.1 = .accept ↔ y.2 ∈ reg.value s) :=
      fun reg y hy => (hdone _ _).1 (h reg y (List.mem_filterMap.2 ⟨x, hx, hy⟩))
    exact ⟨hat _ _ (Register.decision_eq_some.2 (Or.inl ⟨rfl, rfl⟩)),
      hat _ _ (Register.decision_eq_some.2 (Or.inr ⟨rfl, rfl⟩))⟩

/-- A write lands on what its read saw where it does so on its register. -/
theorem writesDecision_iff {c : Config Server (Call × Task)} {e : Event Call Reply}
    (htasks : ∀ x ∈ c.pending, Decides D x) :
    WritesDecision c e ↔ ∀ reg : Register, Edits.LandsOnRead reg.value makeDecision
      reg.owesDecision (fun x => reg.writes x.2) c e := by
  cases e with
  | call a => exact iff_of_true trivial fun _ => trivial
  | answer i r =>
    constructor
    · rintro h reg ⟨a, t⟩ l ht hl
      obtain ⟨d, q, hdecides, -, hwrite⟩ := (htasks _ (List.mem_of_getElem? ht)).of_write hl
      rcases hwrite with ⟨rfl, rfl, howes⟩ | ⟨rfl, rfl, howes⟩
      all_goals
        refine ⟨_, howes, ?_⟩
        obtain ⟨d', q', hdecides', hmade⟩ := h a _ ht
        obtain ⟨rfl, rfl⟩ := Prod.mk.inj (Option.some.inj (hdecides.symm.trans hdecides'))
        rw [d.callback_eq] at hmade
        exact (Option.some.inj hmade).symm
    · intro h a t ht
      cases t with
      | setPlayerInfo p l =>
        have hl : (Register.roster p).writes (.setPlayerInfo p l) = some l := if_pos rfl
        obtain ⟨x, hx, hmade⟩ := h (.roster p) (a, .setPlayerInfo p l) l ht hl
        obtain ⟨d, q, hdecides, -, ⟨-, -, howes⟩ | ⟨hreg, -⟩⟩ :=
          (htasks _ (List.mem_of_getElem? ht)).of_write hl
        · obtain rfl := Option.some.inj (howes.symm.trans hx)
          refine ⟨d, q, hdecides, ?_⟩
          rw [d.callback_eq, hmade]
          rfl
        · cases hreg
      | setMyPlayList u l =>
        have hl : (Register.list u).writes (.setMyPlayList u l) = some l := if_pos rfl
        obtain ⟨x, hx, hmade⟩ := h (.list u) (a, .setMyPlayList u l) l ht hl
        obtain ⟨d, q, hdecides, -, ⟨hreg, -⟩ | ⟨-, -, howes⟩⟩ :=
          (htasks _ (List.mem_of_getElem? ht)).of_write hl
        · cases hreg
        · obtain rfl := Option.some.inj (howes.symm.trans hx)
          refine ⟨d, q, hdecides, ?_⟩
          rw [d.callback_eq, hmade]
          rfl
      | _ => trivial

/-! ## Runs -/

/-- The runs with the calls of their tasks, whose decisions are those of
the events. -/
abbrev DecidingRun (s₀ : Server) (evs : List (Event Call Reply))
    (c : Config Server (Call × Task)) : Prop :=
  roster.tagged.Run (fun c e => Deciding c.untag e ∧
    Machine.Calls (fun a => ∀ x, a.decides = some x → x ∈ decisions evs) c e) (Config.start s₀)
    evs c

/-- **What a run leaves in a register** is what some of the decisions about
it make of what it held. -/
theorem register_of_run {c : Config Server (Call × Task)}
    (hready : Ready ((decisions evs).map Prod.snd) s₀) (hrun : DecidingRun s₀ evs c)
    (reg : Register) : ∃ w, reg.value c.state = Edits.chain makeDecision (reg.value s₀) w ∧
      w.Subperm ((decisions evs).filterMap reg.decision) := by
  obtain ⟨⟨w, hw, hsub⟩, -⟩ := (edits_register (decisions evs) reg).fromAsked_of_run
    (calls_decisions (decisions evs) reg) rfl hready hrun
  rw [asked_decides] at hsub
  exact ⟨w, hw, (List.sublist_append_left _ _).subperm.trans hsub⟩

/-- **Nobody has two places.** -/
theorem noDuplicates_of_deciding {c : Config Server (Call × Task)}
    (hready : Ready ((decisions evs).map Prod.snd) s₀)
    (hpairs : ((decisions evs).map fun x => (x.2.playId, x.2.requestSenderId)).Nodup)
    (hopen : ∀ x ∈ decisions evs, StillOpen s₀ x) (hnodup : NoDuplicates s₀)
    (hrun : DecidingRun s₀ evs c) : NoDuplicates c.state := by
  refine noDuplicates_iff.2 fun reg => ?_
  obtain ⟨hdistinct, hchanges⟩ := fit_register hpairs hopen reg
  obtain ⟨w, hw, w', hperm, hsublist⟩ := register_of_run hready hrun reg
  have hmem : ∀ y ∈ w, y ∈ (decisions evs).filterMap reg.decision := fun y hy =>
    hsublist.subset (hperm.mem_iff.2 hy)
  have hmembers : (w.map Prod.snd).Nodup :=
    (hperm.map Prod.snd).nodup_iff.1 (hdistinct.sublist (hsublist.map _))
  rw [hw]
  exact (members_makeDecision.chain_of_nodup (noDuplicates_iff.1 hnodup reg) hmembers
    fun y hy => hchanges y (hmem y hy)).1

/-- **Nobody is touched whom no decision is about.** -/
theorem othersKept_of_deciding {c : Config Server (Call × Task)}
    (hready : Ready ((decisions evs).map Prod.snd) s₀) (hrun : DecidingRun s₀ evs c) :
    OthersKept (decisions evs) s₀ c.state := by
  intro p v hothers
  have hkept : ∀ (reg : Register) u, (∀ x ∈ decisions evs, ∀ y, reg.decision x = some y →
      y.2 ≠ u) → (u ∈ reg.value c.state ↔ u ∈ reg.value s₀) := by
    intro reg u hnone
    obtain ⟨w, hw, hsub⟩ := register_of_run hready hrun reg
    rw [hw]
    refine members_makeDecision.mem_chain_of_not_mem fun hu => ?_
    obtain ⟨y, hy, rfl⟩ := List.mem_map.1 hu
    obtain ⟨x, hx, hdecision⟩ := List.mem_filterMap.1 (hsub.subset hy)
    exact hnone x hx y hdecision rfl
  refine ⟨hkept (.roster p) v fun x hx y hy => ?_, hkept (.list v) p fun x hx y hy => ?_⟩
  · obtain ⟨hp, rfl⟩ | ⟨hreg, -⟩ := Register.decision_eq_some.1 hy
    · exact fun hv => hothers x hx (Prod.ext (Register.roster.inj hp).symm hv)
    · cases hreg
  · obtain ⟨hreg, -⟩ | ⟨hu, rfl⟩ := Register.decision_eq_some.1 hy
    · cases hreg
    · exact fun hp => hothers x hx (Prod.ext hp (Register.list.inj hu).symm)

/-- **A register has all decisions about it made** exactly when every write
of it landed on what its read saw. -/
theorem register_complete_iff {c : Config Server (Call × Task)}
    (hready : Ready ((decisions evs).map Prod.snd) s₀)
    (hpairs : ((decisions evs).map fun x => (x.2.playId, x.2.requestSenderId)).Nodup)
    (hopen : ∀ x ∈ decisions evs, StillOpen s₀ x) (hnodup : NoDuplicates s₀)
    (hrun : DecidingRun s₀ evs c) (hdone : c.pending = []) (reg : Register) :
    (∀ y ∈ (decisions evs).filterMap reg.decision,
        ¬Members.Changes (fun y : Decision × String => y.1 = .accept) Prod.snd
          (reg.value c.state) y) ↔
      roster.tagged.Run (Edits.LandsOnRead reg.value makeDecision reg.owesDecision
        fun x => reg.writes x.2) (Config.start s₀) evs c := by
  obtain ⟨hdistinct, hchanges⟩ := fit_register hpairs hopen reg
  refine (edits_register (decisions evs) reg).complete_iff (sure_decisions _ reg)
    (calls_decisions _ reg) rfl hready hrun hdone (P := fun l =>
      ∀ y ∈ (decisions evs).filterMap reg.decision,
        ¬Members.Changes (fun y : Decision × String => y.1 = .accept) Prod.snd l y)
    (fun w hw => ?_) fun w hw => ?_
  · rw [asked_decides] at hw
    have hall := members_makeDecision.chain_of_nodup (noDuplicates_iff.1 hnodup reg)
      ((hw.map Prod.snd).nodup_iff.2 hdistinct) fun y hy => hchanges y (hw.mem_iff.1 hy)
    exact fun y hy => hall.2 y (hw.mem_iff.2 hy)
  · rw [asked_decides]
    exact members_makeDecision.length_le_of_chain hdistinct hchanges hw

/-- **Acceptances and cancellations that overlap.** Requests for different
players and plays are accepted and cancelled, each once, and others sent,
denied and withdrawn and plays changed meanwhile; the callbacks run in any
order and nothing fails. At any time nobody has two places, and nobody is
touched whom no decision is about. When all callbacks have run, everybody
is where they were put exactly when every write landed on the list its
read saw. -/
theorem asDecided_iff {c : Config Server Task}
    (hready : Ready ((decisions evs).map Prod.snd) s₀)
    (hpairs : ((decisions evs).map fun x => (x.2.playId, x.2.requestSenderId)).Nodup)
    (hopen : ∀ x ∈ decisions evs, StillOpen s₀ x) (hnodup : NoDuplicates s₀)
    (hrun : roster.Run Deciding (Config.start s₀) evs c) :
    NoDuplicates c.state ∧ OthersKept (decisions evs) s₀ c.state ∧
      (c.pending = [] → (AsDecided (decisions evs) c.state ↔
        ∃ c', roster.tagged.Run WritesDecision (Config.start s₀) evs c')) := by
  obtain ⟨c', htagged, rfl⟩ : ∃ c' : Config Server (Call × Task),
      roster.tagged.Run (fun c e => Deciding c.untag e) (Config.start s₀) evs c' ∧ c = c'.untag :=
    Machine.Run.tagged hrun
  have hdeciding : DecidingRun s₀ evs c' := Machine.Run.and_iff.2 ⟨htagged,
    htagged.calls fun a ha x hx => List.mem_filterMap.2 ⟨_, ha, hx⟩⟩
  refine ⟨noDuplicates_of_deciding hready hpairs hopen hnodup hdeciding,
    othersKept_of_deciding hready hdeciding, fun hdone => ?_⟩
  have hpendingNil : c'.pending = [] := List.map_eq_nil_iff.1 hdone
  have hwrites : (∃ c'', roster.tagged.Run WritesDecision (Config.start s₀) evs c'') ↔
      ∀ reg : Register, roster.tagged.Run (Edits.LandsOnRead reg.value makeDecision
        reg.owesDecision fun x => reg.writes x.2) (Config.start s₀) evs c' := by
    rw [← hdeciding.forall_iff, ← hdeciding.policy_iff fun hr _ => writesDecision_iff
      ((edits_register _ (.roster "")).good_of_run (calls_decisions _ _) rfl hready hr).2]
    constructor
    · rintro ⟨c'', h⟩
      obtain rfl := htagged.unique h
      exact h
    · exact fun h => ⟨_, h⟩
  rw [hwrites, asDecided_iff_registers]
  exact forall_congr' (register_complete_iff hready hpairs hopen hnodup hdeciding hpendingNil)

namespace Sample

/-- A play of `"f"` that `"u"` is in and `"v"` asks for. -/
def oneInOneOut : Server :=
  store (users [("f", ["p"]), ("u", ["p"]), ("v", [])] (by simp))
    (plays [play "p" ["f", "u"]] (by simp))
    (requests [request "r" "u" "p" 99, request "q" "v" "p" 0] (by simp [request]))

/-- `"u"` cancels while `"v"` is accepted: both write their status, then the
roster is read and written by the one and by the other, and the two lists
are. -/
def cancelAndAccept : List (Event Call Reply) :=
  [.call (.cancelRequest (request "r" "u" "p" 99)),
    .call (.updateRequest (request "q" "v" "p" 0) 99), .answer 0 .ok, .answer 0 .ok, .answer 1 .ok,
    .answer 3 .ok, .answer 2 .ok, .answer 2 .ok, .answer 0 .ok, .answer 0 .ok, .answer 0 .ok,
    .answer 0 .ok]

theorem noDuplicates_oneInOneOut : NoDuplicates oneInOneOut := by
  constructor
  · intro p l hl
    obtain ⟨d, hd, hl⟩ := Option.bind_eq_some_iff.1 hl
    obtain ⟨q, hq, he⟩ := List.mem_map.1 (Collection.get_eq_some_iff.1 hd)
    obtain rfl := List.mem_singleton.1 hq
    obtain ⟨rfl, rfl⟩ := Prod.mk.inj he
    obtain rfl : ["f", "u"] = l := Option.some.inj hl
    decide
  · intro u l hl
    obtain ⟨d, hd, hl⟩ := Option.bind_eq_some_iff.1 hl
    obtain ⟨xs, hxs, rfl⟩ := get_users (by simp) hd
    obtain rfl : xs = l := Option.some.inj ((Value.asStrings_strings xs).symm.trans hl)
    simp only [List.mem_cons, Prod.mk.injEq, List.not_mem_nil, or_false] at hxs
    rcases hxs with ⟨-, rfl⟩ | ⟨-, rfl⟩ | ⟨-, rfl⟩ <;> simp

end Sample

/-- One leaves and one comes, both in the end. -/
theorem asDecided_cancelAndAccept : ∃ c, roster.exec (Config.start Sample.oneInOneOut)
    Sample.cancelAndAccept = some c ∧ c.state.playerInfo "p" = some ["f", "v"] ∧
      AsDecided (decisions Sample.cancelAndAccept) c.state := by
  have hrun : roster.Run Deciding (Config.start Sample.oneInOneOut) Sample.cancelAndAccept _ :=
    .of_exec ⟨⟨by simp, by simp⟩, ⟨by simp, by simp⟩, rfl, rfl, rfl, rfl, rfl, rfl, rfl, rfl, rfl,
      rfl, trivial⟩ rfl
  have hready : Ready ((decisions Sample.cancelAndAccept).map Prod.snd) Sample.oneInOneOut :=
    { keyed := Sample.usersKeyed (by simp) rfl
      request := by decide
      roster := by decide
      list := by decide }
  refine ⟨_, rfl, rfl, ((asDecided_iff hready (by decide) ?_ Sample.noDuplicates_oneInOneOut
    hrun).2.2 rfl).2 ⟨_, .of_exec
      ⟨trivial, trivial, ?_, ?_, ?_, ?_, ?_, ?_, ?_, ?_, ?_, ?_, trivial⟩ rfl⟩⟩
  · unfold StillOpen
    decide
  all_goals
    rintro a t ⟨⟩
    first
    | trivial
    | exact ⟨_, _, rfl, rfl⟩

end Volleyer
