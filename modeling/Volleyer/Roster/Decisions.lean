import Volleyer.Common.Members
import Volleyer.Common.Tagged
import Volleyer.Roster.Failure
import Volleyer.Roster.Overlap

/-!
# The roster — decisions on both lists

An acceptance appends to a roster and a list, a cancellation of an
accepted request takes off them, and each does so by a read and a later
write of the whole list. The task that writes does not say which of the
two it does; its call does, so the runs are taken with the calls of their
tasks. While requests are sent, answered and cancelled and plays are
changed, every register is a list edited by reading and writing back
(`edits_register`).
-/

namespace Volleyer

deriving instance DecidableEq for Decision

variable {s s₀ : Server} {D : List (Decision × PlayRequest)} {d : Decision} {q : PlayRequest}
variable {a : Call} {t : Task} {reg : Register}

/-! ## The decisions of a run -/

/-- What a call decides: it accepts a request, or cancels an accepted
one. -/
def Call.decides : Call → Option (Decision × PlayRequest)
  | .updateRequest request status => if status = 99 then some (.accept, request) else none
  | .cancelRequest request => if request.status = 99 then some (.cancel, request) else none
  | _ => none

/-- The decisions of a run, in the order of the calls. -/
def decisions (evs : List (Event Call Reply)) : List (Decision × PlayRequest) :=
  Edits.asked Call.decides evs

/-- Requests are sent, answered and cancelled, plays are changed, and
nothing fails. -/
def Deciding (_ : Config Server Task) : Event Call Reply → Prop
  | .call a => (∀ play i now, a ≠ .savePlay play i now) ∧ ∀ play, a ≠ .deletePlay play
  | .answer _ r => r = .ok

/-! ## The edits of a register -/

/-- A decision about a member, made on a list. -/
def makeDecision (x : Decision × String) (l : List String) : List String :=
  (x.1.edit.callback x.2 l).getD l

theorem members_makeDecision : Members makeDecision (fun x => x.1 = .accept) Prod.snd where
  append {x} hx l := by
    obtain ⟨d, u⟩ := x
    obtain rfl : d = .accept := hx
    rfl
  erase {x} hx l := by
    obtain ⟨d, u⟩ := x
    cases d with
    | accept => exact absurd rfl hx
    | cancel => rw [makeDecision, Decision.edit, ListEdit.callback_remove, Option.getD_some]

/-- What a decision about a request does to a register. -/
def Register.decision (reg : Register) (x : Decision × PlayRequest) : Option (Decision × String) :=
  (reg.ask x.2).map (x.1, ·)

/-- What a call asks of a register. -/
def Register.decides (reg : Register) (a : Call) : Option (Decision × String) :=
  a.decides.bind reg.decision

/-- Whether a task leads to a write of a register, if its call asks for
one. -/
def Register.leads : Register → Task → Bool
  | _, .updateStatus _ _ => true
  | _, .cancelStatus _ => true
  | roster p, .getPlay _ _ playId => playId = p
  | roster p, .setPlayerInfo playId _ => playId = p
  | list u, .getUsers _ _ userId => userId = u
  | list u, .setMyPlayList userId _ => userId = u
  | _, _ => false

/-- What a task is still to do to a register. -/
def Register.owesDecision (reg : Register) (t : Call × Task) : Option (Decision × String) :=
  if reg.leads t.2 then reg.decides t.1 else none

/-- What a run asks of a register is what its decisions do. -/
theorem asked_decides (reg : Register) (evs : List (Event Call Reply)) :
    Edits.asked reg.decides evs = (decisions evs).filterMap reg.decision := by
  rw [decisions, Edits.asked, Edits.asked, List.filterMap_filterMap]
  refine List.filterMap_congr fun e _ => ?_
  cases e <;> rfl

/-- **Each decision is about two registers.** -/
theorem Register.decision_eq_some {x : Decision × PlayRequest} {y : Decision × String} :
    reg.decision x = some y ↔
      reg = .roster x.2.playId ∧ y = (x.1, x.2.requestSenderId) ∨
        reg = .list x.2.requestSenderId ∧ y = (x.1, x.2.playId) := by
  simp only [decision, Option.map_eq_some_iff, Register.ask_eq_some]
  constructor
  · rintro ⟨z, ⟨hreg, rfl⟩ | ⟨hreg, rfl⟩, rfl⟩
    · exact Or.inl ⟨hreg, rfl⟩
    · exact Or.inr ⟨hreg, rfl⟩
  · rintro (⟨hreg, rfl⟩ | ⟨hreg, rfl⟩)
    · exact ⟨_, Or.inl ⟨hreg, rfl⟩, rfl⟩
    · exact ⟨_, Or.inr ⟨hreg, rfl⟩, rfl⟩

/-! ## The tasks of decisions -/

/-- The request a decision puts in flight. -/
def Decision.task (q : PlayRequest) : Decision → Task
  | .accept => .updateStatus q 99
  | .cancel => .cancelStatus q

/-- A task that leads to no list. -/
def Task.Unlisted : Task → Prop
  | .updateStatus _ n => n ≠ 99
  | .cancelStatus request => request.status ≠ 99
  | .updatePlay _ data => data.lookup .playerInfo = none
  | .querySameRequest _ _ _ _ => True
  | .setRequest _ _ => True
  | _ => False

/-- **A task in flight**, with the call it comes from: one on the way to a
list the call is to change, or one to no list. -/
inductive Decides (D : List (Decision × PlayRequest)) : Call × Task → Prop
  | status {a : Call} {d : Decision} {q : PlayRequest} :
      a.decides = some (d, q) → (d, q) ∈ D → Decides D (a, d.task q)
  | getUsers {a : Call} {d : Decision} {q : PlayRequest} :
      a.decides = some (d, q) → (d, q) ∈ D →
      Decides D (a, .getUsers d.edit q.playId q.requestSenderId)
  | setMyPlayList {a : Call} {d : Decision} {q : PlayRequest} (l : List String) :
      a.decides = some (d, q) → (d, q) ∈ D →
      Decides D (a, .setMyPlayList q.requestSenderId l)
  | getPlay {a : Call} {d : Decision} {q : PlayRequest} :
      a.decides = some (d, q) → (d, q) ∈ D →
      Decides D (a, .getPlay d.edit q.requestSenderId q.playId)
  | setPlayerInfo {a : Call} {d : Decision} {q : PlayRequest} (l : List String) :
      a.decides = some (d, q) → (d, q) ∈ D →
      Decides D (a, .setPlayerInfo q.playId l)
  | unlisted {a : Call} {t : Task} :
      a.decides = none → t.Unlisted → Decides D (a, t)

theorem Call.decides_eq_some :
    a.decides = some (d, q) ↔ a = d.call q ∧ (d = .cancel → q.status = 99) := by
  cases a <;> cases d <;> simp [Call.decides, Decision.call, and_comm]
  rintro rfl
  rfl

namespace Ready

variable {R : List PlayRequest}

/-- A write of a status. -/
theorem updateRequest (h : Ready R s) (r : String) (n : ℤ) :
    Ready R (s.updateRequest r [(.status, .int n)]) where
  keyed := h.keyed
  request q hq := by
    rw [Server.get_requests_updateRequest]
    split
    · rename_i hr
      rw [Option.isSome_map, ← hr]
      exact h.request q hq
    · exact h.request q hq
  roster := h.roster
  list := h.list

/-- A write of a list of plays. -/
theorem updateUser (h : Ready R s) (u : String) (l : List String) :
    Ready R (s.updateUser u [(.myPlayList, .strings l)]) where
  keyed := h.keyed.updateUser rfl
  request := h.request
  roster := h.roster
  list q hq := by
    rw [Server.myPlayList_updateUser]
    split
    · rename_i hu
      obtain ⟨l', hl'⟩ := Option.isSome_iff_exists.1 (h.list q hq)
      obtain ⟨d, hd, -⟩ := Option.bind_eq_some_iff.1 hl'
      rw [← hu, hd]
      rfl
    · exact h.list q hq

/-- A write of a roster. -/
theorem updatePlay (h : Ready R s) (p : String) (l : List String) :
    Ready R (s.updatePlay p [(.playerInfo, .strings l)]) where
  keyed := h.keyed
  request := h.request
  roster q hq := by
    rw [Server.playerInfo_updatePlay]
    split
    · rename_i hp
      obtain ⟨l', hl'⟩ := Option.isSome_iff_exists.1 (h.roster q hq)
      obtain ⟨d, hd, -⟩ := Option.bind_eq_some_iff.1 hl'
      rw [← hp, hd]
      rfl
    · exact h.roster q hq
  list := h.list

/-- What a task that leads to no list leaves. -/
theorem unlisted (h : Ready R s) (ht : t.Unlisted) :
    Ready R (answerOk s t).1 ∧ (∀ reg : Register, reg.value (answerOk s t).1 = reg.value s) ∧
      ∀ t' ∈ (answerOk s t).2, t'.Unlisted := by
  cases t with
  | updateStatus request n =>
    rw [answerOk_updateStatus, if_neg fun hn => ht hn.2]
    refine ⟨h.updateRequest _ _, fun reg => ?_, fun _ ht => absurd ht List.not_mem_nil⟩
    cases reg <;> rfl
  | cancelStatus request =>
    rw [answerOk_cancelStatus, if_neg fun hn => ht hn.2]
    refine ⟨h.updateRequest _ _, fun reg => ?_, fun _ ht => absurd ht List.not_mem_nil⟩
    cases reg <;> rfl
  | updatePlay p data =>
    have hroster : ∀ q, (answerOk s (.updatePlay p data)).1.playerInfo q = s.playerInfo q := by
      intro q
      simp only [answerOk, Server.playerInfo, Server.updatePlay, Collection.get_modify]
      split
      · rename_i hq
        rw [hq]
        cases s.plays.get p with
        | none => rfl
        | some d =>
          show (d.updateData data).strings .playerInfo = d.strings .playerInfo
          rw [Doc.strings, Doc.strings, Doc.updateData_of_lookup_eq_none ht]
      · rfl
    refine ⟨⟨h.keyed, h.request, fun q hq => ?_, h.list⟩, fun reg => ?_,
      fun _ ht => absurd ht List.not_mem_nil⟩
    · rw [hroster]
      exact h.roster q hq
    · cases reg with
      | roster q => rw [Register.value, Register.value, hroster]
      | list u => rfl
  | querySameRequest i data play me =>
    rw [answerOk_querySameRequest]
    refine ⟨h, fun reg => rfl, fun t' ht' => ?_⟩
    dsimp only at ht'
    split at ht'
    · obtain rfl := List.mem_singleton.1 ht'
      exact trivial
    · cases ht'
  | setRequest i data =>
    refine ⟨⟨h.keyed, fun q hq => ?_, h.roster, h.list⟩, fun reg => ?_,
      fun _ ht => absurd ht List.not_mem_nil⟩
    · rw [answerOk, Collection.get_set]
      split
      · rfl
      · exact h.request q hq
    · cases reg <;> rfl
  | setPlay | deletePlay | getUsers | setMyPlayList | getPlay | setPlayerInfo | queryRequests
  | deleteRequest => exact ht.elim

/-- A decision on a stored request goes on to the two lists. -/
theorem answer_task (h : Ready (D.map Prod.snd) s) (ha : a.decides = some (d, q))
    (hD : (d, q) ∈ D) :
    answerOk s (d.task q) = (s.updateRequest q.id [(.status, .int d.status)],
      [.getUsers d.edit q.playId q.requestSenderId,
        .getPlay d.edit q.requestSenderId q.playId]) := by
  have hstored := h.request q (List.mem_map_of_mem hD)
  cases d with
  | accept =>
    show answerOk s (.updateStatus q 99) = _
    rw [answerOk_updateStatus, if_pos ⟨hstored, rfl⟩]
    rfl
  | cancel =>
    have hstatus := (Call.decides_eq_some.1 ha).2 rfl
    show answerOk s (.cancelStatus q) = _
    rw [answerOk_cancelStatus, if_pos ⟨hstored, hstatus⟩]
    rfl

/-- The read of a list of plays puts the write in flight. -/
theorem answer_getUsers (h : Ready (D.map Prod.snd) s) (hD : (d, q) ∈ D) :
    answerOk s (.getUsers d.edit q.playId q.requestSenderId) =
      (s, [.setMyPlayList q.requestSenderId
        (makeDecision (d, q.playId) ((s.myPlayList q.requestSenderId).getD []))]) := by
  obtain ⟨l, hl⟩ := Option.isSome_iff_exists.1 (h.list q (List.mem_map_of_mem hD))
  rw [answerOk_getUsers (h.keyed.keyedAt _), hl, Option.bind_some, d.callback_eq, Option.getD_some]
  rfl

/-- The read of a roster does too. -/
theorem answer_getPlay (h : Ready (D.map Prod.snd) s) (hD : (d, q) ∈ D) :
    answerOk s (.getPlay d.edit q.requestSenderId q.playId) =
      (s, [.setPlayerInfo q.playId
        (makeDecision (d, q.requestSenderId) ((s.playerInfo q.playId).getD []))]) := by
  obtain ⟨l, hl⟩ := Option.isSome_iff_exists.1 (h.roster q (List.mem_map_of_mem hD))
  rw [answerOk_getPlay, hl, Option.bind_some, d.callback_eq, Option.getD_some]
  rfl

end Ready

/-! ## Every register is edited by reading and writing back -/

/-- What a task owes, by the decision of its call. -/
theorem Register.owesDecision_eq (reg : Register) (ha : a.decides = some (d, q)) :
    reg.owesDecision (a, t) = if reg.leads t then reg.decision (d, q) else none := by
  simp only [owesDecision, decides, ha, Option.bind_some]

theorem Register.owesDecision_of_none (reg : Register) (ha : a.decides = none) :
    reg.owesDecision (a, t) = none := by
  simp only [owesDecision, decides, ha, Option.bind_none, ite_self]

/-- The write of a list of plays owes its decision. -/
theorem owesDecision_setMyPlayList (ha : a.decides = some (d, q)) (l : List String) :
    (Register.list q.requestSenderId).owesDecision (a, .setMyPlayList q.requestSenderId l) =
      some (d, q.playId) := by
  have hleads : (Register.list q.requestSenderId).leads
      (.setMyPlayList q.requestSenderId l) = true := decide_eq_true rfl
  rw [Register.owesDecision_eq _ ha, if_pos hleads, Register.decision, Register.ask, if_pos rfl,
    Option.map_some]

/-- And the write of a roster its. -/
theorem owesDecision_setPlayerInfo (ha : a.decides = some (d, q)) (l : List String) :
    (Register.roster q.playId).owesDecision (a, .setPlayerInfo q.playId l) =
      some (d, q.requestSenderId) := by
  have hleads : (Register.roster q.playId).leads (.setPlayerInfo q.playId l) = true :=
    decide_eq_true rfl
  rw [Register.owesDecision_eq _ ha, if_pos hleads, Register.decision, Register.ask, if_pos rfl,
    Option.map_some]

/-- A write leads to the one register it writes. -/
theorem Register.leads_eq_isSome_writes (reg : Register) (u : String) (l : List String) :
    reg.leads (.setMyPlayList u l) = (reg.writes (.setMyPlayList u l)).isSome ∧
      reg.leads (.setPlayerInfo u l) = (reg.writes (.setPlayerInfo u l)).isSome := by
  cases reg with
  | roster p => by_cases hp : u = p <;> simp [leads, writes, hp]
  | list v => by_cases hv : u = v <;> simp [leads, writes, hv]

/-- The two reads of a decision owe what it owed. -/
theorem filterMap_owes_reads (reg : Register) (ha : a.decides = some (d, q)) :
    [(a, Task.getUsers d.edit q.playId q.requestSenderId),
      (a, .getPlay d.edit q.requestSenderId q.playId)].filterMap reg.owesDecision =
      (reg.decision (d, q)).toList := by
  have howes : ∀ t, reg.owesDecision (a, t) = if reg.leads t then reg.decision (d, q) else none :=
    fun t => reg.owesDecision_eq ha
  simp only [List.filterMap_cons, List.filterMap_nil, howes]
  cases reg with
  | roster p =>
    by_cases hp : q.playId = p <;> simp [Register.leads, Register.decision, Register.ask, hp]
  | list u =>
    by_cases hu : q.requestSenderId = u <;>
      simp [Register.leads, Register.decision, Register.ask, hu]

/-- A read owes what the write it puts in flight owes. -/
theorem filterMap_owes_write {t' : Task} (reg : Register) (hlead : reg.leads t' = reg.leads t) :
    [(a, t')].filterMap reg.owesDecision = (reg.owesDecision (a, t)).toList := by
  rw [List.filterMap_cons, List.filterMap_nil, Register.owesDecision, Register.owesDecision, hlead]
  cases (if reg.leads t then reg.decides a else none) <;> rfl

/-- **What an answer puts in flight** owes what the task owed, or the task
was a write. -/
theorem filterMap_owes_answer (h : Ready (D.map Prod.snd) s) (ht : Decides D (a, t))
    (hw : reg.writes t = none) :
    ((answerOk s t).2.map (a, ·)).filterMap reg.owesDecision = (reg.owesDecision (a, t)).toList := by
  cases ht with
  | @status a d q ha hD =>
    rw [h.answer_task ha hD]
    show [(a, Task.getUsers _ _ _), (a, .getPlay _ _ _)].filterMap reg.owesDecision = _
    have hleads : reg.leads (d.task q) = true := by cases d <;> cases reg <;> rfl
    rw [filterMap_owes_reads reg ha, reg.owesDecision_eq ha, if_pos hleads]
  | getUsers ha hD =>
    rw [h.answer_getUsers hD]
    exact filterMap_owes_write reg (by cases reg <;> rfl)
  | getPlay ha hD =>
    rw [h.answer_getPlay hD]
    exact filterMap_owes_write reg (by cases reg <;> rfl)
  | setMyPlayList l ha hD =>
    -- a write of this register is no read, so it is of another one
    rw [reg.owesDecision_eq ha, (reg.leads_eq_isSome_writes _ l).1, hw]
    rfl
  | setPlayerInfo l ha hD =>
    rw [reg.owesDecision_eq ha, (reg.leads_eq_isSome_writes _ l).2, hw]
    rfl
  | unlisted ha hunlisted =>
    rw [reg.owesDecision_of_none ha, Option.toList_none]
    refine List.filterMap_eq_nil_iff.2 fun x hx => ?_
    obtain ⟨t', -, rfl⟩ := List.mem_map.1 hx
    exact reg.owesDecision_of_none ha

/-- **What an answer leaves**, whatever was answered. -/
theorem Decides.answer (h : Ready (D.map Prod.snd) s) (ht : Decides D (a, t)) :
    Ready (D.map Prod.snd) (answerOk s t).1 ∧
      ∀ t' ∈ (answerOk s t).2, Decides D (a, t') := by
  cases ht with
  | status ha hD =>
    rw [h.answer_task ha hD]
    refine ⟨h.updateRequest _ _, fun t' ht' => ?_⟩
    rcases List.mem_pair.1 ht' with rfl | rfl
    · exact .getUsers ha hD
    · exact .getPlay ha hD
  | getUsers ha hD =>
    rw [h.answer_getUsers hD]
    refine ⟨h, fun t' ht' => ?_⟩
    obtain rfl := List.mem_singleton.1 ht'
    exact .setMyPlayList _ ha hD
  | getPlay ha hD =>
    rw [h.answer_getPlay hD]
    refine ⟨h, fun t' ht' => ?_⟩
    obtain rfl := List.mem_singleton.1 ht'
    exact .setPlayerInfo _ ha hD
  | setMyPlayList l ha hD => exact ⟨h.updateUser _ l, fun _ ht => absurd ht List.not_mem_nil⟩
  | setPlayerInfo l ha hD => exact ⟨h.updatePlay _ l, fun _ ht => absurd ht List.not_mem_nil⟩
  | unlisted ha hunlisted =>
    obtain ⟨hready, -, hts⟩ := h.unlisted hunlisted
    exact ⟨hready, fun t' ht' => .unlisted ha (hts t' ht')⟩

/-- A read leaves the registers as they are. -/
theorem value_answer_read (h : Ready (D.map Prod.snd) s) (ht : Decides D (a, t))
    (hw : reg.writes t = none) : reg.value (answerOk s t).1 = reg.value s := by
  cases ht with
  | status ha hD =>
    rw [h.answer_task ha hD]
    cases reg <;> rfl
  | getUsers ha hD => rw [h.answer_getUsers hD]
  | getPlay ha hD => rw [h.answer_getPlay hD]
  | setMyPlayList l ha hD =>
    cases reg with
    | roster p => rfl
    | list u =>
      rw [answerOk, Register.value, Register.value, Server.myPlayList_updateUser,
        if_neg fun hu => by simp [Register.writes, hu] at hw]
  | setPlayerInfo l ha hD =>
    cases reg with
    | roster p =>
      rw [answerOk, Register.value, Register.value, Server.playerInfo_updatePlay,
        if_neg fun hp => by simp [Register.writes, hp] at hw]
    | list u => rfl
  | unlisted ha hunlisted => exact (h.unlisted hunlisted).2.1 reg

/-- **A write in flight is of what its read saw.** -/
theorem exists_makeDecision {t' : Task} {l : List String} (h : Ready (D.map Prod.snd) s)
    (ht : Decides D (a, t)) (ht' : t' ∈ (answerOk s t).2) (hl : reg.writes t' = some l) :
    ∃ x, reg.owesDecision (a, t') = some x ∧ l = makeDecision x (reg.value s) := by
  cases ht with
  | status ha hD =>
    rw [h.answer_task ha hD] at ht'
    rcases List.mem_pair.1 ht' with rfl | rfl <;> cases reg <;> cases hl
  | getUsers ha hD =>
    rw [h.answer_getUsers hD] at ht'
    obtain rfl := List.mem_singleton.1 ht'
    cases reg with
    | roster p => cases hl
    | list u =>
      obtain ⟨rfl, hl'⟩ := Option.ite_none_right_eq_some.1 hl
      obtain rfl := Option.some.inj hl'
      exact ⟨_, owesDecision_setMyPlayList ha _, rfl⟩
  | getPlay ha hD =>
    rw [h.answer_getPlay hD] at ht'
    obtain rfl := List.mem_singleton.1 ht'
    cases reg with
    | list u => cases hl
    | roster p =>
      obtain ⟨rfl, hl'⟩ := Option.ite_none_right_eq_some.1 hl
      obtain rfl := Option.some.inj hl'
      exact ⟨_, owesDecision_setPlayerInfo ha _, rfl⟩
  | setMyPlayList l ha hD => cases ht'
  | setPlayerInfo l ha hD => cases ht'
  | unlisted ha hunlisted =>
    have hunlisted' := (h.unlisted hunlisted).2.2 t' ht'
    rcases Register.writes_eq_some.1 hl with ⟨p, -, rfl⟩ | ⟨u, -, rfl⟩ <;> exact hunlisted'.elim

/-- **A write in flight** is of one of the two lists its call decides
about, and owes the decision. -/
theorem Decides.of_write {l : List String} (ht : Decides D (a, t)) (hl : reg.writes t = some l) :
    ∃ d q, a.decides = some (d, q) ∧ (d, q) ∈ D ∧
      (reg = .roster q.playId ∧ t = .setPlayerInfo q.playId l ∧
          reg.owesDecision (a, t) = some (d, q.requestSenderId) ∨
        reg = .list q.requestSenderId ∧ t = .setMyPlayList q.requestSenderId l ∧
          reg.owesDecision (a, t) = some (d, q.playId)) := by
  cases ht with
  | @status a d q => cases d <;> cases reg <;> cases hl
  | getUsers | getPlay => cases reg <;> cases hl
  | setMyPlayList l' ha hD =>
    obtain ⟨p, -, hp⟩ | ⟨u, rfl, hu⟩ := Register.writes_eq_some.1 hl
    · cases hp
    · obtain ⟨rfl, rfl⟩ := Task.setMyPlayList.inj hu
      exact ⟨_, _, ha, hD, Or.inr ⟨rfl, rfl, owesDecision_setMyPlayList ha l'⟩⟩
  | setPlayerInfo l' ha hD =>
    obtain ⟨p, rfl, hp⟩ | ⟨u, -, hu⟩ := Register.writes_eq_some.1 hl
    · obtain ⟨rfl, rfl⟩ := Task.setPlayerInfo.inj hp
      exact ⟨_, _, ha, hD, Or.inl ⟨rfl, rfl, owesDecision_setPlayerInfo ha l'⟩⟩
    · cases hu
  | unlisted ha hunlisted =>
    rcases Register.writes_eq_some.1 hl with ⟨p, -, rfl⟩ | ⟨u, -, rfl⟩ <;> exact hunlisted.elim

/-- **A write** stores its list, and puts nothing in flight. -/
theorem value_answer_write {l : List String} (h : Ready (D.map Prod.snd) s)
    (ht : Decides D (a, t)) (hl : reg.writes t = some l) :
    reg.value (answerOk s t).1 = l ∧ (answerOk s t).2 = [] := by
  obtain ⟨d, q, -, hD, ⟨rfl, rfl, -⟩ | ⟨rfl, rfl, -⟩⟩ := ht.of_write hl
  · obtain ⟨l₀, hl₀⟩ := Option.isSome_iff_exists.1 (h.roster q (List.mem_map_of_mem hD))
    obtain ⟨b, hb, -⟩ := Option.bind_eq_some_iff.1 hl₀
    rw [answerOk, Register.value, Server.playerInfo_updatePlay, if_pos rfl, hb]
    exact ⟨rfl, rfl⟩
  · obtain ⟨l₀, hl₀⟩ := Option.isSome_iff_exists.1 (h.list q (List.mem_map_of_mem hD))
    obtain ⟨b, hb, -⟩ := Option.bind_eq_some_iff.1 hl₀
    rw [answerOk, Register.value, Server.myPlayList_updateUser, if_pos rfl, hb]
    exact ⟨rfl, rfl⟩

/-- **Every register is edited by reading and writing back.** -/
theorem edits_register (D : List (Decision × PlayRequest)) (reg : Register) :
    Edits roster.tagged .ok (Ready (D.map Prod.snd)) (Decides D) reg.value makeDecision
      reg.owesDecision (fun x => reg.writes x.2) where
  good {s x} h ht := by
    obtain ⟨a, t⟩ := x
    refine ⟨(ht.answer h).1, fun x hx => ?_⟩
    obtain ⟨t', ht', rfl⟩ := List.mem_map.1 hx
    exact (ht.answer h).2 t' ht'
  debt {x l} ht hl := by
    obtain ⟨d, q, -, -, ⟨-, -, howes⟩ | ⟨-, -, howes⟩⟩ := ht.of_write hl
    · exact ⟨_, howes⟩
    · exact ⟨_, howes⟩
  read {s x} h ht hw := by
    obtain ⟨a, t⟩ := x
    refine ⟨value_answer_read h ht hw, ?_, fun x hx l hl => ?_⟩
    · exact (filterMap_owes_answer h ht hw).symm ▸ List.Sublist.refl _
    · obtain ⟨t', ht', rfl⟩ := List.mem_map.1 hx
      exact exists_makeDecision h ht ht' hl
  write {s x l} h ht hl := by
    obtain ⟨a, t⟩ := x
    obtain ⟨hv, hts⟩ := value_answer_write h ht hl
    have hnil : (roster.tagged.answer s (a, t) .ok).2 = [] := by
      show (answerOk s t).2.map (a, ·) = []
      rw [hts, List.map_nil]
    rw [hnil]
    exact ⟨Or.inl hv, rfl, fun _ ht => absurd ht List.not_mem_nil⟩

/-- No debt lapses, and every write is made. -/
theorem sure_decisions (D : List (Decision × PlayRequest)) (reg : Register) :
    Edits.Sure roster.tagged .ok (Ready (D.map Prod.snd)) (Decides D) reg.value
      reg.owesDecision (fun x => reg.writes x.2) where
  pass h ht hw := filterMap_owes_answer h ht hw
  land h ht hl := (value_answer_write h ht hl).1

/-- **What a call issues**: the request of its decision, or one to no list. -/
theorem issue_deciding {s' : Server} {ts : List Task} (hi : issue s a = some (s', ts))
    (hsave : ∀ play i now, a ≠ .savePlay play i now) (hdelete : ∀ play, a ≠ .deletePlay play) :
    (s'.users = s.users ∧ s'.plays = s.plays ∧ s'.requests = s.requests) ∧
      ∃ t, ts = [t] ∧ (a.decides = none → t.Unlisted) ∧
        ∀ d q, a.decides = some (d, q) → t = d.task q := by
  refine ⟨?_, ?_⟩
  · exact issue_eq hi
  cases a with
  | savePlay play i now => exact absurd rfl (hsave play i now)
  | deletePlay play => exact absurd rfl (hdelete play)
  | updatePlay play =>
    obtain ⟨-, rfl⟩ := Prod.mk.inj (Option.some.inj hi)
    exact ⟨_, rfl, fun _ => rfl, fun _ _ h => by cases h⟩
  | saveRequest play players me i now =>
    obtain ⟨-, -, rfl⟩ := allocate_eq_some.1 hi
    exact ⟨_, rfl, fun _ => trivial, fun _ _ h => by cases h⟩
  | updateRequest request n =>
    obtain ⟨-, rfl⟩ := Prod.mk.inj (Option.some.inj hi)
    refine ⟨_, rfl, fun hnone => ?_, fun d q hdecides => ?_⟩
    · intro hn
      rw [Call.decides, if_pos hn] at hnone
      cases hnone
    · obtain ⟨rfl, h⟩ := Option.ite_none_right_eq_some.1 hdecides
      obtain ⟨rfl, rfl⟩ := Prod.mk.inj (Option.some.inj h)
      rfl
  | cancelRequest request =>
    obtain ⟨-, rfl⟩ := Prod.mk.inj (Option.some.inj hi)
    refine ⟨_, rfl, fun hnone => ?_, fun d q hdecides => ?_⟩
    · intro hn
      rw [Call.decides, if_pos hn] at hnone
      cases hnone
    · obtain ⟨-, h⟩ := Option.ite_none_right_eq_some.1 hdecides
      obtain ⟨rfl, rfl⟩ := Prod.mk.inj (Option.some.inj h)
      rfl

/-- The calls edit nothing themselves. -/
theorem calls_decisions (D : List (Decision × PlayRequest)) (reg : Register) :
    Edits.Calls roster.tagged .ok (Ready (D.map Prod.snd)) (Decides D) reg.value
      reg.owesDecision (fun x => reg.writes x.2) reg.decides
      fun c e => Deciding c.untag e ∧
        Machine.Calls (fun a => ∀ x, a.decides = some x → x ∈ D) c e where
  reply h := h.1
  call {c a s ts} hok h hi := by
    obtain ⟨⟨hsave, hdelete⟩, hD⟩ := hok
    obtain ⟨⟨s', ts'⟩, hissue, heq⟩ := Option.map_eq_some_iff.1 hi
    obtain ⟨rfl, rfl⟩ := Prod.mk.inj heq
    obtain ⟨⟨husers, hplays, hrequests⟩, t, rfl, hunlisted, htask⟩ :=
      issue_deciding hissue hsave hdelete
    have hready : Ready (D.map Prod.snd) s' := by
      refine ⟨?_, ?_, ?_, ?_⟩
      · simpa only [Server.UsersKeyed, husers] using h.keyed
      · simpa only [hrequests] using h.request
      · simpa only [Server.playerInfo, hplays] using h.roster
      · simpa only [Server.myPlayList, husers] using h.list
    have hvalue : reg.value s' = reg.value c.state := by
      cases reg <;> simp only [Register.value, Server.playerInfo, Server.myPlayList, husers, hplays]
    refine ⟨hready, hvalue, ?_⟩
    rw [List.map_singleton, List.filterMap_cons, List.filterMap_nil]
    cases hdecides : a.decides with
    | none =>
      have ht := hunlisted hdecides
      rw [reg.owesDecision_of_none hdecides, Register.decides, hdecides]
      refine ⟨rfl, fun x hx => ?_⟩
      obtain rfl := List.mem_singleton.1 hx
      refine ⟨.unlisted hdecides ht, Option.eq_none_iff_forall_ne_some.2 fun l hl => ?_⟩
      rcases Register.writes_eq_some.1 hl with ⟨p, -, rfl⟩ | ⟨u, -, rfl⟩ <;> exact ht.elim
    | some x =>
      obtain ⟨d, q⟩ := x
      obtain rfl := htask d q hdecides
      have hleads : reg.leads (d.task q) = true := by cases d <;> cases reg <;> rfl
      rw [reg.owesDecision_eq hdecides, if_pos hleads, Register.decides, hdecides]
      refine ⟨?_, fun x hx => ?_⟩
      · show _ = (reg.decision (d, q)).toList
        cases reg.decision (d, q) <;> rfl
      · obtain rfl := List.mem_singleton.1 hx
        refine ⟨.status hdecides (hD a rfl _ hdecides), ?_⟩
        cases d <;> cases reg <;> rfl

end Volleyer
