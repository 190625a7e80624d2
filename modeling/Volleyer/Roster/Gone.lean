import Volleyer.Common.Tagged
import Volleyer.Roster.Delete

/-!
# The roster — what is deleted stays deleted

The writes of the two collections are of three kinds: one creation under
an id never used before, updates of documents that are there, and
removals. So an id that stored a document once and stores none now is
never written to again, whatever was in flight when it was deleted. And
each write is of a document the operation behind it names, which the
calls carried beside the tasks make sayable (`NamesOnly`).
-/

namespace Volleyer

variable {s : Server} {t t' : Task} {r : Reply} {p i : String}

/-! ## What a task writes -/

/-- The play a task writes to, or a task it puts in flight. -/
def Task.playId : Task → Option String
  | .setPlay documentID _ _ => some documentID
  | .updatePlay documentID _ => some documentID
  | .deletePlay documentID => some documentID
  | .updateStatus request _ => some request.playId
  | .cancelStatus request => some request.playId
  | .getPlay _ _ playId => some playId
  | .setPlayerInfo documentID _ => some documentID
  | _ => none

/-- The request a task writes to, or a task it puts in flight, but for
those a query finds. -/
def Task.requestId : Task → Option String
  | .querySameRequest documentID _ _ _ => some documentID
  | .setRequest documentID _ => some documentID
  | .updateStatus request _ => some request.id
  | .cancelStatus request => some request.id
  | .deleteRequest documentID => some documentID
  | _ => none

/-- The play an operation may write to. -/
def Call.playId : Call → Option String
  | .savePlay _ documentID _ => some documentID
  | .updatePlay play => some play.id
  | .deletePlay play => some play.id
  | .saveRequest .. => none
  | .updateRequest request _ => some request.playId
  | .cancelRequest request => some request.playId

/-- The request an operation may write to, but for those of the play it
deletes. -/
def Call.requestId : Call → Option String
  | .saveRequest _ _ _ documentID _ => some documentID
  | .updateRequest request _ => some request.id
  | .cancelRequest request => some request.id
  | _ => none

/-- **A task writes to one play.** -/
theorem playId_of_plays_ne (h : (answer s t r).1.plays.get p ≠ s.plays.get p) :
    t.playId = some p := by
  rcases answer_plays s t r with hp | ⟨j, data, f, rfl, hp⟩ | ⟨q, data, ht, hp⟩ | ⟨q, rfl, hp⟩ <;>
    rw [hp] at h
  · exact absurd rfl h
  · have hpj : p = j := not_imp_comm.1 (Collection.get_set_of_ne _ _) h
    exact congrArg some hpj.symm
  · have hpq : p = q := not_imp_comm.1 (Collection.get_modify_of_ne _ _) h
    rcases ht with rfl | ⟨l, rfl, -⟩ <;> exact congrArg some hpq.symm
  · have hpq : p = q := not_imp_comm.1 (Collection.get_delete_of_ne _) h
    exact congrArg some hpq.symm

/-- **A task writes to one request.** -/
theorem requestId_of_requests_ne (h : (answer s t r).1.requests.get i ≠ s.requests.get i) :
    t.requestId = some i := by
  rcases answer_requests s t r with hq | ⟨j, data, rfl, hq⟩ | ⟨request, n, ht, -, -, hq⟩ |
    ⟨j, rfl, hq⟩ <;> rw [hq] at h
  · exact absurd rfl h
  · have hij : i = j := not_imp_comm.1 (Collection.get_set_of_ne _ _) h
    exact congrArg some hij.symm
  · have hir : i = request.id := not_imp_comm.1 (Collection.get_modify_of_ne _ _) h
    rcases ht with rfl | ⟨rfl, -⟩ <;> exact congrArg some hir.symm
  · have hij : i = j := not_imp_comm.1 (Collection.get_delete_of_ne _) h
    exact congrArg some hij.symm

/-- What is put in flight writes to the same play. -/
theorem playId_of_mem_answer (h : t' ∈ (answer s t r).2) (hp : t'.playId = some p) :
    t.playId = some p := by
  cases r with
  | failed => cases h
  | ok =>
    cases t with
    | setPlay j data f =>
      obtain rfl := List.mem_singleton.1 h
      cases hp
    | querySameRequest j data play me =>
      rw [answer_ok, answerOk_querySameRequest] at h
      split at h
      · obtain rfl := List.mem_singleton.1 h
        cases hp
      · cases h
    | updateStatus request n =>
      rw [answer_ok, answerOk_updateStatus] at h
      split at h
      · rcases List.mem_pair.1 h with rfl | rfl
        · cases hp
        · exact hp
      · cases h
    | cancelStatus request =>
      rw [answer_ok, answerOk_cancelStatus] at h
      split at h
      · rcases List.mem_pair.1 h with rfl | rfl
        · cases hp
        · exact hp
      · cases h
    | getUsers e q u =>
      obtain ⟨d, -, hd⟩ := List.mem_filterMap.1 h
      obtain ⟨l, -, rfl⟩ := Option.map_eq_some_iff.1 hd
      cases hp
    | getPlay e u q =>
      obtain ⟨l, -, rfl⟩ := List.mem_map.1 h
      exact hp
    | queryRequests q =>
      obtain ⟨d, -, rfl⟩ := List.mem_map.1 h
      cases hp
    | _ => cases h

/-- What is put in flight writes to the same request, or removes one a
query found. -/
theorem requestId_of_mem_answer (h : t' ∈ (answer s t r).2) (hi : t'.requestId = some i) :
    t.requestId = some i ∨ t' = .deleteRequest i := by
  rcases mem_answer h with ⟨j, data, play, me, rfl, rfl⟩ | ⟨_, _, _, rfl⟩ | ⟨_, _, rfl⟩ |
    ⟨_, _, _, rfl⟩ | ⟨_, _, rfl⟩ | ⟨_, j, -, rfl⟩
  · exact Or.inl hi
  · cases hi
  · cases hi
  · cases hi
  · cases hi
  · obtain rfl := Option.some.inj hi
    exact Or.inr rfl

/-! ## Whose write it is -/

/-- **A task names what its operation names**: the operation's play, the
operation's request, and where the operation deletes a play, a request
that was stored and, while it is, is one of that play. -/
structure NamesOnly (s : Server) (hist : List Server) (a : Call) (t : Task) : Prop where
  play : ∀ {p}, t.playId = some p → a.playId = some p
  request : ∀ {i}, t.requestId = some i → a.requestId = some i ∨ t = .deleteRequest i
  query : ∀ {q}, t = .queryRequests q → ∃ play, a = .deletePlay play ∧ play.id = q
  removal : ∀ {i}, t = .deleteRequest i → ∃ play, a = .deletePlay play ∧
    (∃ s' ∈ s :: hist, s'.Stores i) ∧
    ∀ d, s.requests.get i = some d → d.string .playId = some play.id

/-- What an operation puts in flight names what the operation does. -/
theorem namesOnly_of_issue {a : Call} {s' : Server} {ts : List Task} {hist : List Server}
    (h : issue s a = some (s', ts)) (ht : t ∈ ts) : NamesOnly s' hist a t := by
  cases a with
  | savePlay play j now =>
    obtain ⟨-, -, rfl⟩ := allocate_eq_some.1 h
    obtain rfl := List.mem_singleton.1 ht
    exact ⟨id, nofun, nofun, nofun⟩
  | saveRequest play players me j now =>
    obtain ⟨-, -, rfl⟩ := allocate_eq_some.1 h
    obtain rfl := List.mem_singleton.1 ht
    exact ⟨nofun, Or.inl, nofun, nofun⟩
  | updatePlay play =>
    obtain ⟨-, rfl⟩ := Prod.mk.inj (Option.some.inj h)
    obtain rfl := List.mem_singleton.1 ht
    exact ⟨id, nofun, nofun, nofun⟩
  | updateRequest request n =>
    obtain ⟨-, rfl⟩ := Prod.mk.inj (Option.some.inj h)
    obtain rfl := List.mem_singleton.1 ht
    exact ⟨id, Or.inl, nofun, nofun⟩
  | cancelRequest request =>
    obtain ⟨-, rfl⟩ := Prod.mk.inj (Option.some.inj h)
    obtain rfl := List.mem_singleton.1 ht
    exact ⟨id, Or.inl, nofun, nofun⟩
  | deletePlay play =>
    obtain ⟨-, rfl⟩ := Prod.mk.inj (Option.some.inj h)
    rw [deletePlay_eq] at ht
    rcases List.mem_cons.1 ht with rfl | ht
    · exact ⟨id, nofun, nofun, nofun⟩
    · rcases List.mem_append.1 ht with ht | ht
      · obtain ⟨u, -, rfl⟩ := List.mem_map.1 ht
        exact ⟨nofun, nofun, nofun, nofun⟩
      · obtain rfl := List.mem_singleton.1 ht
        refine ⟨nofun, nofun, fun {q} hq => ⟨play, rfl, ?_⟩, nofun⟩
        exact Task.queryRequests.inj hq

namespace NamesOnly

variable {hist : List Server} {a : Call}

/-- And so does what an answered task puts in flight. -/
theorem of_answer (h : NamesOnly s hist a t) (ht' : t' ∈ (answer s t r).2) :
    NamesOnly (answer s t r).1 (s :: hist) a t' where
  play hp := h.play (playId_of_mem_answer ht' hp)
  request {i} hi := by
    rcases requestId_of_mem_answer ht' hi with hti | rfl
    · rcases h.request hti with ha | rfl
      · exact Or.inl ha
      · cases r <;> cases ht'
    · exact Or.inr rfl
  query {q} hq := absurd (hq ▸ ht') (queryRequests_not_mem_answer q)
  removal {i} hi := by
    subst hi
    -- what the query finds is stored and of its play, and the query writes nothing
    obtain ⟨q, d, rfl, hd, hq⟩ := deleteRequest_mem_answer ht'
    obtain ⟨play, rfl, rfl⟩ := h.query rfl
    have hsame : (answer s (.queryRequests play.id) r).1 = s := by cases r <;> rfl
    refine ⟨play, rfl, ⟨s, List.mem_cons_of_mem _ List.mem_cons_self, Or.inr ?_⟩, fun d' hd' => ?_⟩
    · rw [hd, Option.isSome_some]
    · rw [hsame, hd] at hd'
      exact Option.some.inj hd' ▸ hq

/-- **Where ids are handed out once, a task names what it did** after any
other write: a request that was stored is not created again, and no write
makes it one of another play. -/
theorem mono {s' : Server} (h : NamesOnly s hist a t)
    (hkeep : ∀ i d', (∃ s₁ ∈ s :: hist, s₁.Stores i) → s'.requests.get i = some d' →
      ∃ d, s.requests.get i = some d ∧ d.string .playId = d'.string .playId) :
    NamesOnly s' (s :: hist) a t where
  play := h.play
  request := h.request
  query := h.query
  removal {i} hi := by
    obtain ⟨play, ha, hstored, hplay⟩ := h.removal hi
    obtain ⟨s₁, hs₁, hi₁⟩ := hstored
    refine ⟨play, ha, ⟨s₁, List.mem_cons_of_mem _ hs₁, hi₁⟩, fun d' hd' => ?_⟩
    obtain ⟨d, hd, hsame⟩ := hkeep i d' ⟨s₁, hs₁, hi₁⟩ hd'
    exact hsame ▸ hplay d hd

end NamesOnly

/-- What is in flight with the id of a stored document creates nothing
under it. -/
theorem Fresh.newId_ne {c : Config Server Task} {n : ℕ} (h : Fresh c) (hn : c.pending[n]? = some t)
    {s' : Server} (hs' : s' ∈ c.seen) (hi : s'.Stores i) : t.newId ≠ some i := fun ht =>
  h.unused i (List.mem_filterMap.2 ⟨t, List.mem_of_getElem? hn, ht⟩) s' hs' hi

/-- **In every run a task names what its operation names.** -/
theorem namesOnly_of_run {ok : Config Server Task → Event Call Reply → Prop} {s₀ : Server}
    {evs : List (Event Call Reply)} {c : Config Server (Call × Task)}
    (h₀ : ∀ i, s₀.Stores i → i ∈ s₀.allocated)
    (hrun : roster.tagged.Run (fun c e => ok c.untag e) (Config.start s₀) evs c) :
    ∀ x ∈ c.pending, NamesOnly c.state c.past x.1 x.2 := by
  have hfresh : ∀ evs c, roster.tagged.Run (fun c e => ok c.untag e) (Config.start s₀) evs c →
      Fresh c.untag := fun evs c hr => fresh_of_run h₀ hr.untag
  refine ((hrun.strengthen hfresh).forall_pending (I := fun _ _ => True)
    (J := fun s hist x => NamesOnly s hist x.1 x.2) trivial ?_ ?_ ?_).2
  · exact fun x hx => absurd hx List.not_mem_nil
  · rintro c a s ts - - hi
    obtain ⟨⟨s', ts'⟩, hissue, heq⟩ := Option.map_eq_some_iff.1 hi
    obtain ⟨rfl, rfl⟩ := Prod.mk.inj heq
    have hrequests := (issue_eq hissue).2.2
    refine ⟨trivial, fun x hx => ?_, fun x hx => ?_⟩
    · obtain ⟨t, ht, rfl⟩ := List.mem_map.1 hx
      exact namesOnly_of_issue hissue ht
    · refine hx.mono fun i d' _ hd' => ⟨d', ?_, rfl⟩
      rw [← hrequests]
      exact hd'
  · rintro c n r ⟨a, t⟩ - hx ⟨-, hf⟩ hn
    have hn' : c.untag.pending[n]? = some t := by
      rw [Config.untag, List.getElem?_map, hn, Option.map_some]
    refine ⟨trivial, fun x hx' => ?_, fun x hx' => ?_⟩
    · obtain ⟨t', ht', rfl⟩ := List.mem_map.1 hx'
      exact hx.of_answer ht'
    · refine hx'.mono fun i d' hstored hd' => ?_
      obtain ⟨s₁, hs₁, hi₁⟩ := hstored
      have hset : ∀ data, t ≠ .setRequest i data := by
        rintro data rfl
        exact hf.newId_ne hn' hs₁ hi₁ rfl
      exact playId_of_answer hset hd'

/-! ## What is deleted -/

/-- A play that is not stored is stored after an answer only if the task
creates it. -/
theorem newId_of_plays {d : Doc PlayTitle} (hp : s.plays.get p = none)
    (h : (answer s t r).1.plays.get p = some d) : t.newId = some p := by
  rcases answer_plays s t r with hs | ⟨j, data, f, rfl, hs⟩ | ⟨q, data, -, hs⟩ | ⟨q, -, hs⟩
  · rw [hs, hp] at h
    cases h
  · have hpj : p = j := by
      refine not_imp_comm.1 (Collection.get_set_of_ne s.plays (Doc.setData data)) ?_
      rw [← hs, h, hp]
      exact Option.some_ne_none d
    exact congrArg some hpj.symm
  · rw [hs, Collection.get_modify] at h
    split at h
    · rename_i hpq
      rw [← hpq, hp] at h
      cases h
    · rw [hp] at h
      cases h
  · rw [hs, Collection.get_delete] at h
    split at h
    · cases h
    · rw [hp] at h
      cases h

/-- The same of a request. -/
theorem newId_of_requests {d : Doc PlayRequestTitle} (hi : s.requests.get i = none)
    (h : (answer s t r).1.requests.get i = some d) : t.newId = some i := by
  by_contra hnew
  have hset : ∀ data, t ≠ .setRequest i data := by
    rintro data rfl
    exact hnew rfl
  obtain ⟨b, hb, -⟩ := playId_of_answer hset h
  rw [hi] at hb
  cases hb

/-- **An id that was used stays free of documents** once it is: `f`
reads the document of one collection under it. -/
theorem read_eq_none_of_run {α : Type} {f : Server → Option α}
    (hissue : ∀ {s a s' ts}, issue s a = some (s', ts) → f s' = f s)
    (hcreate : ∀ {s t r d}, f s = none → f (answer s t r).1 = some d → t.newId = some i)
    {ok : Config Server Task → Event Call Reply → Prop} {evs : List (Event Call Reply)}
    {c c' : Config Server Task} (hfresh : Fresh c) (hstored : ∃ s ∈ c.seen, s.Stores i)
    (hgone : f c.state = none) (hrun : roster.Run ok c evs c') : f c'.state = none := by
  have hinv := hrun.invariant
    (I := fun c => Fresh c ∧ (∃ s ∈ c.seen, s.Stores i) ∧ f c.state = none)
    ⟨hfresh, hstored, hgone⟩ ?_
  · exact hinv.2.2
  · rintro c e c' ⟨hf, ⟨s, hs, hi⟩, hnone⟩ - hstep
    have hseen : s ∈ c'.seen := by
      rw [Config.mem_seen, Machine.step_past hstep]
      exact Or.inr hs
    refine ⟨hf.step hstep, ⟨s, hseen, hi⟩, ?_⟩
    rcases Machine.step_cases hstep with ⟨a, s', ts, rfl, hissued, rfl⟩ | ⟨n, r, t, rfl, hn, rfl⟩
    · exact (hissue hissued).trans hnone
    · rw [Option.eq_none_iff_forall_ne_some]
      exact fun d hd => hf.newId_ne hn hs hi (hcreate hnone hd)

/-- **What is deleted stays deleted, and nobody writes beside it.** In
every run of any operations on values of any age: a play or request that
was stored and is not stored any more is not stored after any further
events; and with each task beside the operation it comes from, a step
changes no play but the one its operation names, and no request but the
one it names and, where it deletes a play, those of that play. -/
theorem deleted_not_recreated {ok : Config Server Task → Event Call Reply → Prop} {s₀ : Server}
    {evs : List (Event Call Reply)} {c : Config Server Task}
    (h₀ : ∀ i, s₀.Stores i → i ∈ s₀.allocated) (hrun : roster.Run ok (Config.start s₀) evs c) :
    (∀ evs' c', roster.Run (fun _ _ => True) c evs' c' →
      (∀ p, (∃ s ∈ c.seen, (s.plays.get p).isSome) → c.state.plays.get p = none →
        c'.state.plays.get p = none) ∧
      ∀ i, (∃ s ∈ c.seen, (s.requests.get i).isSome) → c.state.requests.get i = none →
        c'.state.requests.get i = none) ∧
    ∃ c₁, roster.tagged.Run (fun c e => ok c.untag e) (Config.start s₀) evs c₁ ∧ c = c₁.untag ∧
      ∀ e c₂, roster.tagged.step c₁ e = some c₂ →
        (∀ p, c₂.state.plays.get p ≠ c₁.state.plays.get p →
          ∃ a, c₁.origin e = some a ∧ a.playId = some p) ∧
        ∀ i, c₂.state.requests.get i ≠ c₁.state.requests.get i →
          ∃ a, c₁.origin e = some a ∧ (a.requestId = some i ∨
            ∃ play d, a = .deletePlay play ∧ c₁.state.requests.get i = some d ∧
              d.string .playId = some play.id) := by
  refine ⟨fun evs' c' hrun' => ⟨fun p hstored hgone => ?_, fun i hstored hgone => ?_⟩, ?_⟩
  · obtain ⟨s, hs, hp⟩ := hstored
    refine read_eq_none_of_run (f := fun s => s.plays.get p) ?_ newId_of_plays
      (fresh_of_run h₀ hrun) ⟨s, hs, Or.inl hp⟩ hgone hrun'
    intro s a s' ts h
    rw [(issue_eq h).2.1]
  · obtain ⟨s, hs, hi⟩ := hstored
    refine read_eq_none_of_run (f := fun s => s.requests.get i) ?_ newId_of_requests
      (fresh_of_run h₀ hrun) ⟨s, hs, Or.inr hi⟩ hgone hrun'
    intro s a s' ts h
    rw [(issue_eq h).2.2]
  · have hlift : ∃ c₁, roster.tagged.Run (fun c e => ok c.untag e) (Config.start s₀) evs c₁ ∧
        c = c₁.untag := Machine.Run.tagged hrun
    obtain ⟨c₁, hrun₁, rfl⟩ := hlift
    refine ⟨c₁, hrun₁, rfl, fun e c₂ hs => ?_⟩
    rcases Machine.step_cases hs with ⟨a, s, ts, rfl, hi, rfl⟩ | ⟨n, r, ⟨a, t⟩, rfl, hn, rfl⟩
    · obtain ⟨⟨s', ts'⟩, hissue, heq⟩ := Option.map_eq_some_iff.1 hi
      obtain ⟨rfl, rfl⟩ := Prod.mk.inj heq
      obtain ⟨-, hplays, hrequests⟩ := issue_eq hissue
      exact ⟨fun p hp => absurd (by rw [hplays]) hp, fun i hi => absurd (by rw [hrequests]) hi⟩
    · have horigin : c₁.origin (.answer n r : Event Call Reply) = some a := by
        rw [Config.origin, hn, Option.map_some]
      have hnames := namesOnly_of_run h₀ hrun₁ _ (List.mem_of_getElem? hn)
      refine ⟨fun p hp => ⟨a, horigin, hnames.play (playId_of_plays_ne hp)⟩, fun i hi => ?_⟩
      refine ⟨a, horigin, ?_⟩
      rcases hnames.request (requestId_of_requests_ne hi) with ha | hdelete
      · exact Or.inl ha
      · -- a removal changes what is stored, and that is of the play
        obtain ⟨play, ha, -, hplay⟩ := hnames.removal hdelete
        cases hd : c₁.state.requests.get i with
        | some d => exact Or.inr ⟨play, d, ha, rfl, hplay d hd⟩
        | none =>
          have hnew : t.newId ≠ some i := by
            have ht : t = .deleteRequest i := hdelete
            intro hnew
            rw [ht] at hnew
            cases hnew
          rw [hd, Option.ne_none_iff_exists'] at hi
          obtain ⟨d, hd'⟩ := hi
          exact absurd (newId_of_requests hd hd') hnew

namespace Sample

/-- A request is accepted, and the play deleted while its roster is about
to be written. -/
def deletingAccepted : List (Event Call Reply) :=
  [.call (.updateRequest (request "r" "u" "p" 0) 99), .answer 0 .ok, .answer 1 .ok,
    .call (.deletePlay (play "p" ["f"])), .answer 2 .ok]

end Sample

/-- The roster is written to a play that is gone: it does not come back. -/
theorem deleted_not_recreated_accepting : ∃ c c',
    roster.Run (fun _ _ => True) (Config.start (Sample.oneRequest 0)) Sample.deletingAccepted c ∧
    c.pending[1]? = some (.setPlayerInfo "p" ["f", "u"]) ∧
    roster.Run (fun _ _ => True) c [.answer 1 .ok] c' ∧ c'.state.plays.get "p" = none := by
  have hbefore : roster.Run (fun _ _ => True) (Config.start (Sample.oneRequest 0))
      Sample.deletingAccepted _ :=
    .of_exec ⟨trivial, trivial, trivial, trivial, trivial, trivial⟩ rfl
  obtain ⟨hgone, -⟩ := deleted_not_recreated Sample.mem_allocated_store hbefore
  refine ⟨_, _, hbefore, rfl, .of_exec ⟨trivial, trivial⟩ rfl, ?_⟩
  exact (hgone [.answer 1 .ok] _ (.of_exec ⟨trivial, trivial⟩ rfl)).1 "p"
    ⟨Sample.oneRequest 0, by simp [Config.seen], rfl⟩ rfl

end Volleyer
