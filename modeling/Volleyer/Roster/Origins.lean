import Volleyer.Roster.Provenance

/-!
# The roster — which calls a document comes from

`Traced` says which documents account for a list, here the calls account
for the documents. A document is created by one call and rewritten by others, long after.
`Made P s` says that calls of `P` account for what `s` stores: the finder
of a play is the one it was saved with, a request is as it was sent, and
its status is pending or was decided by a call. It holds of every state
of every run whose calls are in `P` (`made_of_run`), whatever overlaps
and whatever fails.
-/

namespace Volleyer

variable {P : Call → Prop} {s : Server}

/-- A call gave the request this status. -/
def GaveStatus (P : Call → Prop) (r : String) (n : ℤ) : Prop :=
  (∃ request, P (.updateRequest request n) ∧ request.id = r) ∨
    n = -1 ∧ ∃ request, P (.cancelRequest request) ∧ request.id = r

/-- **Calls account for what is stored.** -/
structure Made (P : Call → Prop) (s : Server) : Prop where
  play : ∀ p f, s.finderId p = some f → ∃ play now, P (.savePlay play p now) ∧ play.finderId = f
  request : ∀ r d, s.requests.get r = some d → ∃ play players me now,
    P (.saveRequest play players me r now) ∧ d.string .requestSenderId = me ∧
      d.string .playId = some play.id ∧ d.string .requestReceiverId = some play.finderId
  status : ∀ r n, s.status r = some n → n = 0 ∨ GaveStatus P r n

/-- **And for what a task in flight creates, or decides.** -/
def Task.Made (P : Call → Prop) : Task → Prop
  | .setPlay documentID data _ => ∃ play now, P (.savePlay play documentID now) ∧
      data = FinderDataManager.savePlayData play documentID now
  | .updatePlay _ data => ∃ play, data = FinderDataManager.updatePlayData play
  | .querySameRequest documentID data _ _ | .setRequest documentID data =>
      ∃ play players me now, P (.saveRequest play players me documentID now) ∧
        data = RequestDataManager.saveRequestData play me now
  | .updateStatus request status => P (.updateRequest request status)
  | .cancelStatus request => P (.cancelRequest request)
  | _ => True

/-- What a call puts in flight, it accounts for. -/
theorem Task.made_of_issue {a : Call} {s' : Server} {ts : List Task} (ha : P a)
    (hi : issue s a = some (s', ts)) : ∀ t ∈ ts, t.Made P := by
  intro t ht
  cases a with
  | savePlay play i now =>
    obtain ⟨-, -, rfl⟩ := allocate_eq_some.1 hi
    obtain rfl := List.mem_singleton.1 ht
    exact ⟨play, now, ha, rfl⟩
  | saveRequest play players me i now =>
    obtain ⟨-, -, rfl⟩ := allocate_eq_some.1 hi
    obtain rfl := List.mem_singleton.1 ht
    exact ⟨play, players, me, now, ha, rfl⟩
  | updatePlay play =>
    obtain ⟨-, rfl⟩ := Prod.mk.inj (Option.some.inj hi)
    obtain rfl := List.mem_singleton.1 ht
    exact ⟨play, rfl⟩
  | updateRequest request n =>
    obtain ⟨-, rfl⟩ := Prod.mk.inj (Option.some.inj hi)
    obtain rfl := List.mem_singleton.1 ht
    exact ha
  | cancelRequest request =>
    obtain ⟨-, rfl⟩ := Prod.mk.inj (Option.some.inj hi)
    obtain rfl := List.mem_singleton.1 ht
    exact ha
  | deletePlay play =>
    obtain ⟨-, rfl⟩ := Prod.mk.inj (Option.some.inj hi)
    rw [deletePlay_eq, List.mem_cons, List.mem_append, List.mem_singleton] at ht
    rcases ht with rfl | ht | rfl
    · trivial
    · obtain ⟨u, -, rfl⟩ := List.mem_map.1 ht
      trivial
    · trivial

/-- And what it goes on to. -/
theorem Task.made_of_answer {t t' : Task} {r : Reply} (ht : t.Made P)
    (ht' : t' ∈ (answer s t r).2) : t'.Made P := by
  rcases mem_answer ht' with ⟨i, data, play, me, rfl, rfl⟩ | ⟨e, p, u, rfl⟩ | ⟨u, l, rfl⟩ |
    ⟨e, u, p, rfl⟩ | ⟨p, l, rfl⟩ | ⟨p, i, -, rfl⟩
  · exact ht
  all_goals trivial

namespace Made

/-- A state that stores the same. -/
theorem of_eq (h : Made P s) {s' : Server} (hp : s'.plays = s.plays)
    (hr : s'.requests = s.requests) : Made P s' where
  play p f hf := h.play p f (by rwa [Server.finderId, ← hp])
  request r d hd := h.request r d (hr ▸ hd)
  status r n hn := h.status r n (by rwa [Server.status, ← hr])

/-- What an answer leaves of the finders. -/
theorem play_answer (h : Made P s) {t : Task} (ht : t.Made P) (r : Reply) {p f : String}
    (hf : (answer s t r).1.finderId p = some f) :
    ∃ play now, P (.savePlay play p now) ∧ play.finderId = f := by
  rcases answer_plays s t r with hp | ⟨i, data, g, rfl, hp⟩ | ⟨q, data, hdata, hp⟩ | ⟨q, -, hp⟩ <;>
    rw [Server.finderId, hp] at hf
  · exact h.play p f hf
  · obtain ⟨play, now, hcall, rfl⟩ := ht
    rw [Collection.get_set] at hf
    split at hf
    · rename_i hpi
      subst hpi
      exact ⟨play, now, hcall, Option.some.inj hf⟩
    · exact h.play p f hf
  · -- neither write of fields names the finder
    have hnone : data.lookup .finderId = none := by
      rcases hdata with rfl | ⟨l, -, rfl⟩
      · obtain ⟨play, rfl⟩ := ht
        rfl
      · rfl
    refine h.play p f ?_
    rw [Collection.get_modify] at hf
    rw [Server.finderId]
    split at hf
    · rename_i hpq
      subst hpq
      obtain ⟨d, hd, hdf⟩ := Option.bind_eq_some_iff.1 hf
      obtain ⟨b, hb, rfl⟩ := Option.map_eq_some_iff.1 hd
      rw [hb, Option.bind_some, ← hdf, Doc.string, Doc.string, Doc.updateData_of_lookup_eq_none hnone]
    · exact hf
  · refine h.play p f ?_
    rw [Collection.get_delete] at hf
    split at hf
    · cases hf
    · exact hf

/-- **What an answer leaves of a request**: it is as it was sent, and calls
decide it. -/
theorem requests_answer (h : Made P s) {t : Task} (ht : t.Made P) (r : Reply) {i : String}
    {d : Doc PlayRequestTitle} (hd : (answer s t r).1.requests.get i = some d) :
    (∃ play players me now, P (.saveRequest play players me i now) ∧
      d.string .requestSenderId = me ∧ d.string .playId = some play.id ∧
      d.string .requestReceiverId = some play.finderId) ∧
    ∀ n, d.int .status = some n → n = 0 ∨ GaveStatus P i n := by
  have hold : ∀ {b}, s.requests.get i = some b → ∀ n, b.int .status = some n →
      n = 0 ∨ GaveStatus P i n := fun hb n hn =>
    h.status i n (by rw [Server.status, hb, Option.bind_some, hn])
  rcases answer_requests s t r with hr | ⟨j, data, rfl, hr⟩ | ⟨request, n, hreq, -, -, hr⟩ |
    ⟨j, -, hr⟩ <;> rw [hr] at hd
  · exact ⟨h.request i d hd, hold hd⟩
  · obtain ⟨play, players, me, now, hcall, rfl⟩ := ht
    rw [Collection.get_set] at hd
    split at hd
    · rename_i hij
      subst hij
      obtain rfl := Option.some.inj hd
      refine ⟨⟨play, players, me, now, hcall, ?_, rfl, rfl⟩, fun n hn => .inl ?_⟩
      · cases me <;> rfl
      · exact (Option.some.inj hn).symm
    · exact ⟨h.request i d hd, hold hd⟩
  · rw [Server.get_requests_updateRequest] at hd
    split at hd
    · rename_i hir
      obtain ⟨b, hb, rfl⟩ := Option.map_eq_some_iff.1 hd
      obtain ⟨play, players, me, now, hcall, hsender, hplay, hreceiver⟩ := h.request _ b hb
      refine ⟨⟨play, players, me, now, hir ▸ hcall, by simpa using hsender, by simpa using hplay,
        by simpa using hreceiver⟩, fun m hm => .inr ?_⟩
      obtain rfl : n = m := by simpa using hm
      rcases hreq with rfl | ⟨rfl, rfl⟩
      · exact .inl ⟨request, ht, hir.symm⟩
      · exact .inr ⟨rfl, request, ht, hir.symm⟩
    · exact ⟨h.request i d hd, hold hd⟩
  · rw [Collection.get_delete] at hd
    split at hd
    · cases hd
    · exact ⟨h.request i d hd, hold hd⟩

/-- **An answer keeps what the calls account for.** -/
theorem answer (h : Made P s) {t : Task} (ht : t.Made P) (r : Reply) :
    Made P (Volleyer.answer s t r).1 where
  play _ _ hf := h.play_answer ht r hf
  request _ _ hd := (h.requests_answer ht r hd).1
  status i n hn := by
    obtain ⟨d, hd, hdn⟩ := Option.bind_eq_some_iff.1 hn
    exact (h.requests_answer ht r hd).2 n hdn

/-- A store with no play and no request. -/
theorem empty (hplays : ∀ p, s.plays.get p = none) (hrequests : ∀ r, s.requests.get r = none) :
    Made P s where
  play p f hf := by rw [Server.finderId, hplays] at hf; cases hf
  request r d hd := by rw [hrequests] at hd; cases hd
  status r n hn := by rw [Server.status, hrequests] at hn; cases hn

end Made

/-- **Every document comes from calls.** -/
theorem made_of_run {s₀ : Server} {evs : List (Event Call Reply)} {c : Config Server Task}
    (hplays : ∀ p, s₀.plays.get p = none) (hrequests : ∀ r, s₀.requests.get r = none)
    (hrun : roster.Run (Machine.Calls P) (Config.start s₀) evs c) : ∀ s ∈ c.seen, Made P s := by
  have hinv := hrun.forall_pending (I := fun s past => ∀ s' ∈ s :: past, Made P s')
    (J := fun _ _ t => t.Made P)
    (by simpa using Made.empty hplays hrequests) (by simp)
    (fun c a s ts hI hok hi => by
      obtain ⟨-, hp, hr⟩ := issue_eq hi
      have hnew := (hI c.state List.mem_cons_self).of_eq hp hr
      exact ⟨List.forall_mem_cons.2 ⟨hnew, hI⟩, Task.made_of_issue (hok a rfl) hi,
        fun _ ht => ht⟩)
    (fun c i r t hI ht _ _ =>
      ⟨List.forall_mem_cons.2 ⟨(hI c.state List.mem_cons_self).answer ht r, hI⟩,
        fun _ ht' => Task.made_of_answer ht ht', fun _ ht' => ht'⟩)
  exact hinv.1

/-- **The states of a run account for every list**, and for what is in
flight, whatever the clients call and whatever fails. -/
theorem tracing_of_run {s₀ : Server} {evs : List (Event Call Reply)} {c : Config Server Task}
    (hkeyed : s₀.UsersKeyed)
    (hlists : ∀ u d, s₀.users.get u = some d → d.strings .myPlayList = some [])
    (hplays : ∀ p, s₀.plays.get p = none) (hrequests : ∀ r, s₀.requests.get r = none)
    (hrun : roster.Run Clients (Config.start s₀) evs c) :
    Fresh c ∧ c.state.UsersKeyed ∧ Traced c.seen ∧ ∀ t ∈ c.pending, t.Traced c.seen := by
  have hstores : ∀ i, s₀.Stores i → i ∈ s₀.allocated := by
    rintro i (hi | hi)
    · simp [hplays] at hi
    · simp [hrequests] at hi
  have hinv := (hrun.strengthen fun _ _ h => fresh_of_run hstores h).forall_pending
    (I := fun s past => Traced (s :: past) ∧ s.UsersKeyed)
    (J := fun s past t => t.Traced (s :: past))
    ⟨Traced.empty hlists hplays hrequests, hkeyed⟩ (by simp)
    (fun c a s ts hI hok hi => by
      obtain ⟨htraced, htasks⟩ := hI.1.issue List.mem_cons_self hok.1 hi
      exact ⟨⟨htraced, hI.2.issue hi⟩, htasks, fun t ht => ht.cons s⟩)
    (fun c i r t hI ht hok hti => by
      obtain ⟨htraced, htasks⟩ : Traced ((answer c.state t r).1 :: c.seen) ∧
          ∀ t' ∈ (answer c.state t r).2, t'.Traced ((answer c.state t r).1 :: c.seen) := by
        cases r with
        | failed => exact ⟨hI.1.cons_same List.mem_cons_self rfl rfl rfl, by simp⟩
        | ok =>
          -- what is created is new, as ids are handed out once
          refine hI.1.answerOk List.mem_cons_self hI.2 ht fun i hi => hok.2.unused i ?_
          exact List.mem_filterMap.2 ⟨t, List.mem_of_getElem? hti, hi⟩
      exact ⟨⟨htraced, hI.2.answer t r⟩, htasks, fun t' ht' => ht'.cons _⟩)
  exact ⟨fresh_of_run hstores hrun, hinv.1.2, hinv.1.1, hinv.2⟩

theorem traced_of_run {s₀ : Server} {evs : List (Event Call Reply)} {c : Config Server Task}
    (hkeyed : s₀.UsersKeyed)
    (hlists : ∀ u d, s₀.users.get u = some d → d.strings .myPlayList = some [])
    (hplays : ∀ p, s₀.plays.get p = none) (hrequests : ∀ r, s₀.requests.get r = none)
    (hrun : roster.Run Clients (Config.start s₀) evs c) : Traced c.seen :=
  (tracing_of_run hkeyed hlists hplays hrequests hrun).2.2.1

end Volleyer
