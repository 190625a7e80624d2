import Volleyer.App.Owners

/-!
# The app — a roster is what its members agreed to

A play stands under the finder whose device posted it. Everybody else in
its roster asked for it on a device of their own, and was accepted on one
of the finder (`consent_of_run`): what a list may lose when writes
overlap or fail, it gains nobody by it.
-/

namespace Volleyer

variable {texts : Texts} {account : ℕ → String} {hist : List Server} {u p f r : String}
variable {s₀ s : Server} {c : Config App Task} {evs : List (Event AppCall Reply)}

/-! ## Who did what -/

/-- A device of `u` made this call of a manager. -/
def DidCall (account : ℕ → String) (evs : List (Event AppCall Reply)) (u : String) (b : Call) :
    Prop :=
  ∃ a : AppCall, .call a ∈ evs ∧ account a.device = u ∧ a.operation account = some b

/-- `f` posted the play. -/
def PostedPlay (account : ℕ → String) (evs : List (Event AppCall Reply)) (p f : String) : Prop :=
  ∃ play now, DidCall account evs f (.savePlay play p now) ∧ play.finderId = f

/-- `u` asked for the play, by the request `r`. -/
def AskedFor (account : ℕ → String) (evs : List (Event AppCall Reply)) (r p u : String) : Prop :=
  ∃ play players now, DidCall account evs u (.saveRequest play players (some u) r now) ∧ play.id = p

/-- `f` gave the request a status. -/
def DecidedOn (account : ℕ → String) (evs : List (Event AppCall Reply)) (r f : String) (n : ℤ) :
    Prop :=
  ∃ request, DidCall account evs f (.updateRequest request n) ∧ request.id = r

/-- `u` withdrew the request. -/
def Withdrew (account : ℕ → String) (evs : List (Event AppCall Reply)) (r u : String) : Prop :=
  ∃ request, DidCall account evs u (.cancelRequest request) ∧ request.id = r

/-- The screens give a request two statuses: accepted, or denied. -/
theorem eq_of_operation {a : AppCall} {request : PlayRequest} {n : ℤ}
    (h : a.operation account = some (.updateRequest request n)) : n = 99 ∨ n = 1 := by
  obtain ⟨device, tab, e⟩ := a
  cases e with
  | acceptRequest cell captured =>
    obtain ⟨r, -, heq⟩ := Option.map_eq_some_iff.1 h
    exact Or.inl (Call.updateRequest.inj heq).2.symm
  | denyRequest cell captured =>
    obtain ⟨r, -, heq⟩ := Option.map_eq_some_iff.1 h
    exact Or.inr (Call.updateRequest.inj heq).2.symm
  | cancelRequest thisRequest =>
    obtain ⟨r, -, heq⟩ := Option.map_eq_some_iff.1 h
    cases heq
  | establish e save i now => rcases save with _ | _ | _ <;> cases h
  | _ => cases h

namespace Accounted

/-- **A play** was posted by its finder. -/
theorem postedPlay (h : Accounted account evs hist) (hf : PublishedBy hist p f) :
    PostedPlay account evs p f := by
  obtain ⟨s, hs, hfinder⟩ := hf
  obtain ⟨play, now, ⟨a, ha, hop, hme⟩, hplay⟩ := (h.made s hs).play p f hfinder
  exact ⟨play, now, ⟨a, ha, hme.symm.trans hplay, hop⟩, hplay⟩

/-- **A request** was sent by its sender for a play of its receiver, and
decided on by the latter or withdrawn by the former. -/
theorem request_cases (h : Accounted account evs hist) (hs : s ∈ hist) {d : Doc PlayRequestTitle}
    (hd : s.requests.get r = some d) : ∃ u p f,
      d.string .requestSenderId = some u ∧ d.string .playId = some p ∧
      d.string .requestReceiverId = some f ∧ PublishedBy hist p f ∧ u ≠ f ∧
      AskedFor account evs r p u ∧ ∀ n, d.int .status = some n → n = 0 ∨
        (n = 99 ∨ n = 1) ∧ DecidedOn account evs r f n ∨ n = -1 ∧ Withdrew account evs r u := by
  obtain ⟨play, players, me, now, a, ha, hop, hme, hsender, hplay, hreceiver, hpublished, hne⟩ :=
    h.request hs hd
  refine ⟨me, play.id, play.finderId, hsender, hplay, hreceiver, hpublished, hne,
    ⟨play, players, now, ⟨a, ha, hme, hop⟩, rfl⟩, fun n hn => ?_⟩
  have hsent : Sent hist r me play.id := ⟨s, hs, d, hd, hsender, hplay⟩
  have hstatus : s.status r = some n := by rw [Server.status, hd, Option.bind_some, hn]
  rcases (h.made s hs).status r n hstatus with h0 | ⟨request, hcall, rfl⟩ |
    ⟨rfl, request, hcall, rfl⟩
  · exact Or.inl h0
  · obtain ⟨a', ha', hop', hloaded, hreceived⟩ := hcall
    -- the value it was decided on may be old, its receiver is not
    have hfinder : play.finderId = request.requestReceverId :=
      h.receiver ⟨s, hs, d, hd, hreceiver⟩ (h.loaded hloaded).2.1
    refine Or.inr (Or.inl ⟨eq_of_operation hop', request, ⟨a', ha', ?_, hop'⟩, rfl⟩)
    rw [hfinder, hreceived]
  · obtain ⟨a', ha', hop', hloaded, hmine⟩ := hcall
    obtain ⟨hu, -⟩ := h.traced.sent _ _ _ _ _ hsent (h.loaded hloaded).1
    refine Or.inr (Or.inr ⟨rfl, request, ⟨a', ha', ?_, hop'⟩, rfl⟩)
    rw [hu, hmine]

/-- **Who was accepted** asked, and the finder accepted. -/
theorem consent (h : Accounted account evs hist) (hf : PublishedBy hist p f)
    (hacc : AcceptedInto hist p u) :
    ∃ r, AskedFor account evs r p u ∧ DecidedOn account evs r f 99 := by
  obtain ⟨s, hs, r, hseat⟩ := hacc
  obtain ⟨d, hd, hplay, hstatus, hsender⟩ := Server.seat_eq_some.1 hseat
  obtain ⟨u', p', f', hu', hp', -, hf', -, hasked, hdecided⟩ := h.request_cases hs hd
  obtain rfl := Option.some.inj (hsender.symm.trans hu')
  obtain rfl := Option.some.inj (hplay.symm.trans hp')
  obtain rfl := h.traced.finder _ _ _ hf hf'
  refine ⟨r, hasked, ?_⟩
  rcases hdecided 99 hstatus with h0 | ⟨-, hdecided⟩ | ⟨hneg, -⟩
  · cases h0
  · exact hdecided
  · cases hneg

/-- **Nobody but its receiver** decides on a request. -/
theorem decidedOn_eq (h : Accounted account evs hist)
    (hcalls : ∀ v b, DidCall account evs v b → Entitled hist v b) (hr : ReceivedBy hist r f)
    {v : String} {n : ℤ} (hdecided : DecidedOn account evs r v n) : v = f := by
  obtain ⟨request, hcall, rfl⟩ := hdecided
  obtain ⟨hloaded, hreceived⟩ := hcalls v _ hcall
  rw [← hreceived]
  exact h.receiver (h.loaded hloaded).2.1 hr

/-- **Nobody but its sender** withdraws one. -/
theorem withdrew_eq (h : Accounted account evs hist)
    (hcalls : ∀ v b, DidCall account evs v b → Entitled hist v b) (hr : Sent hist r u p)
    {v : String} (hwithdrew : Withdrew account evs r v) : v = u := by
  obtain ⟨request, hcall, rfl⟩ := hwithdrew
  obtain ⟨hloaded, hmine⟩ := hcalls v _ hcall
  rw [← hmine]
  exact (h.traced.sent _ _ _ _ _ (h.loaded hloaded).1 hr).1

end Accounted

/-- **A roster is what its members agreed to.** Any number of devices,
signed in as any accounts, open and leave their screens in any order, are
delivered values of any age, and any request of a manager may fail. From
users with empty lists, no plays and no requests: every stored play was
posted by its finder, who is first in its roster, and everybody else in
it asked for it and was accepted by the finder; every play in a user's
list was posted by the user, or asked for and accepted; and every stored
request was sent by its sender for a play of its receiver, accepted or
denied by nobody but the receiver and withdrawn by nobody but the sender. -/
theorem consent_of_run (hopens : s₀.Opens) (hrun : AppRun texts account s₀ evs c) :
    (∀ p d, c.state.server.plays.get p = some d → ∃ f rest, d.string .finderId = some f ∧
      d.strings .playerInfo = some (f :: rest) ∧ PostedPlay account evs p f ∧
      ∀ v ∈ rest, ∃ r, AskedFor account evs r p v ∧ DecidedOn account evs r f 99) ∧
    (∀ u d l, c.state.server.users.get u = some d → d.strings .myPlayList = some l →
      ∀ p ∈ l, PostedPlay account evs p u ∨ ∃ f r, PostedPlay account evs p f ∧
        AskedFor account evs r p u ∧ DecidedOn account evs r f 99) ∧
    ∀ r d, c.state.server.requests.get r = some d → ∃ u p f,
      d.string .requestSenderId = some u ∧ d.string .playId = some p ∧
      d.string .requestReceiverId = some f ∧ PostedPlay account evs p f ∧ u ≠ f ∧
      AskedFor account evs r p u ∧ (∀ n, d.int .status = some n → n = 0 ∨
        (n = 99 ∨ n = 1) ∧ DecidedOn account evs r f n ∨ n = -1 ∧ Withdrew account evs r u) ∧
      (∀ v n, DecidedOn account evs r v n → v = f) ∧
      ∀ v, Withdrew account evs r v → v = u := by
  obtain ⟨hist, h, hmem⟩ := accounted_of_run hopens hrun
  have hcalls : ∀ v b, DidCall account evs v b → Entitled hist v b := by
    rintro v b ⟨a, ha, rfl, hop⟩
    exact (entitled_of_run hrun a ha b hop).mono fun s hs => (hmem s).2 hs
  have hnow : c.state.server ∈ hist := (hmem _).2 (List.mem_map_of_mem List.mem_cons_self)
  refine ⟨fun p d hd => ?_, fun u d l hd hl p hp => ?_, fun r d hd => ?_⟩
  · obtain ⟨f, l, hf, hl, f', rest, rfl, hf', -, hrest⟩ := h.traced.plays _ hnow p d hd
    have hpublished : PublishedBy hist p f := ⟨_, hnow, by
      rw [Server.finderId, hd, Option.bind_some, hf]⟩
    obtain rfl := h.traced.finder p f f' hpublished hf'
    exact ⟨f, rest, hf, hl, h.postedPlay hf', fun v hv => h.consent hf' (hrest v hv)⟩
  · have hgranted : Granted hist p u :=
      h.traced.lists _ hnow u l (by rw [Server.myPlayList, hd, Option.bind_some, hl]) p hp
    rcases hgranted with hposted | ⟨s, hs, r, hseat⟩
    · exact Or.inl (h.postedPlay hposted)
    · obtain ⟨d', hd', hplay, -, -⟩ := Server.seat_eq_some.1 hseat
      obtain ⟨-, p', f, -, hp', -, hf, -⟩ := h.request_cases hs hd'
      obtain rfl := Option.some.inj (hplay.symm.trans hp')
      obtain ⟨r', hasked, hdecided⟩ := h.consent hf ⟨s, hs, r, hseat⟩
      exact Or.inr ⟨f, r', h.postedPlay hf, hasked, hdecided⟩
  · obtain ⟨u, p, f, hu, hp, hf, hpublished, hne, hasked, hstatus⟩ := h.request_cases hnow hd
    exact ⟨u, p, f, hu, hp, hf, h.postedPlay hpublished, hne, hasked, hstatus,
      fun v n => h.decidedOn_eq hcalls ⟨_, hnow, d, hd, hf⟩,
      fun v => h.withdrew_eq hcalls ⟨_, hnow, d, hd, hu, hp⟩⟩

namespace Sample

/-- The answers to the acceptance. -/
def answers : List (Event AppCall Reply) :=
  [.answer 0 .ok, .answer 0 .ok, .answer 0 .ok, .answer 0 .ok, .answer 0 .ok]

/-- The player is seated. -/
def seated : Config App Task := after (after asked (receive ++ [.call acceptGym])) answers

theorem run_seated : AppRun clockTexts twoDevices twoUsers
    (meet ++ [.call acceptGym] ++ answers) seated :=
  run_meet.append (.of_exec ⟨trivial, trivial, trivial, trivial, trivial, trivial⟩ rfl)

end Sample

/-- The player is in the roster, asked for the play and was accepted. -/
theorem consent_seated : ∃ evs,
    AppRun Sample.clockTexts Sample.twoDevices Sample.twoUsers evs Sample.seated ∧
    Sample.seated.pending = [] ∧
    Sample.seated.state.server.playerInfo "p" = some ["f", "u"] ∧
    ∃ r, AskedFor Sample.twoDevices evs r "p" "u" ∧
      DecidedOn Sample.twoDevices evs r "f" 99 := by
  obtain ⟨hplays, -, -⟩ := consent_of_run Sample.opens_twoUsers Sample.run_seated
  obtain ⟨f, rest, hf, hl, -, hrest⟩ := hplays "p" _ rfl
  obtain rfl : f = "f" := (Option.some.inj hf).symm
  have hroster : some ["f", "u"] = some ("f" :: rest) := hl
  obtain ⟨-, rfl⟩ := List.cons.inj (Option.some.inj hroster)
  exact ⟨_, Sample.run_seated, rfl, rfl, hrest "u" List.mem_cons_self⟩

end Volleyer
