import Volleyer.Common.Distinct
import Volleyer.Roster.Sample

/-!
# One request for a player and a play

`saveRequest` asks for the requests of the play, and creates its own in a
later step where none of them is of the same sender to the same receiver.
The requests of a player for a play stay one where no request is let
through while another one of that player for that play is on its way
(`oneRequest_of_run`). Two taps before the first query's answer is written
are two requests (`not_oneRequest`).
-/

namespace Volleyer

/-- Who sends a request, and for which play. -/
def Doc.senderAndPlay (d : Doc PlayRequestTitle) : Option (String × String) :=
  (d.string .requestSenderId).bind fun sender => (d.string .playId).map fun play => (sender, play)

/-- Who sends the request stored under an id, and for which play. -/
def Server.senderAndPlay (s : Server) (documentID : String) : Option (String × String) :=
  (s.requests.get documentID).bind Doc.senderAndPlay

/-- The request a task is about to create. -/
def Task.creates : Task → Option (String × String × String)
  | .setRequest documentID data => (Doc.setData data).senderAndPlay.map fun k => (documentID, k)
  | _ => none

/-- **No two requests** of one sender for one play. -/
def OneRequest (s : Server) : Prop :=
  ∀ i j k, s.senderAndPlay i = some k → s.senderAndPlay j = some k → i = j

/-- **Requests are let through alone**: when the query of `saveRequest` lets
a request through, no request of the sender for the play is on its way, and
none is stored to another receiver, which the query passes over. -/
def CreatesAlone (c : Config Server Task) : Event Call Reply → Prop
  | .answer n .ok => ∀ documentID data play sender,
      c.pending[n]? = some (.querySameRequest documentID data play (some sender)) →
      RequestDataManager.canSendRequest play (some sender)
        ((c.state.requestsOfPlay play.id).map Prod.snd) = true →
      (∀ t ∈ c.pending, ∀ i, t.creates ≠ some (i, sender, play.id)) ∧
      ∀ i d, c.state.requests.get i = some d → d.senderAndPlay = some (sender, play.id) →
        d.string .requestReceiverId = some play.finderId
  | _ => True

variable {s s₀ : Server} {c : Config Server Task} {evs : List (Event Call Reply)}

@[simp] theorem senderAndPlay_saveRequestData (play : Play) (me : Option String) (now : Date) :
    (Doc.setData (RequestDataManager.saveRequestData play me now)).senderAndPlay =
      me.map fun sender => (sender, play.id) := by
  cases me with
  | none => rfl
  | some sender => rfl

theorem senderAndPlay_eq_some {d : Doc PlayRequestTitle} {sender play : String} :
    d.senderAndPlay = some (sender, play) ↔
      d.string .requestSenderId = some sender ∧ d.string .playId = some play := by
  simp only [Doc.senderAndPlay, Option.bind_eq_some_iff, Option.map_eq_some_iff, Prod.mk.injEq]
  constructor
  · rintro ⟨u, hu, p, hp, rfl, rfl⟩
    exact ⟨hu, hp⟩
  · rintro ⟨hu, hp⟩
    exact ⟨sender, hu, play, hp, rfl, rfl⟩

/-- A status says nothing of the sender or the play. -/
@[simp] theorem senderAndPlay_updateRequest (r i : String) (n : ℤ) :
    (s.updateRequest r [(.status, .int n)]).senderAndPlay i = s.senderAndPlay i := by
  have hdoc : ∀ d : Doc PlayRequestTitle,
      (d.updateData [(.status, .int n)]).senderAndPlay = d.senderAndPlay := fun d => by
    simp [Doc.senderAndPlay, Doc.string_updateData]
  rw [Server.senderAndPlay, Server.senderAndPlay, Server.get_requests_updateRequest]
  by_cases hi : i = r
  · subst hi
    rw [if_pos rfl, Option.bind_map]
    exact congrArg _ (funext hdoc)
  · rw [if_neg hi]

/-- **An answer adds no request but the one its task creates.** -/
theorem senderAndPlay_answer {t : Task} {r : Reply} {i : String} {k : String × String}
    (h : (answer s t r).1.senderAndPlay i = some k) :
    s.senderAndPlay i = some k ∨ t.creates = some (i, k) := by
  rcases answer_requests s t r with hr | ⟨j, data, rfl, hr⟩ | ⟨request, n, -, -, -, hr⟩ |
    ⟨j, -, hr⟩
  · left
    rwa [Server.senderAndPlay, hr] at h
  · rw [Server.senderAndPlay, hr, Collection.get_set] at h
    split at h
    · rename_i hij
      right
      rw [Option.bind_some] at h
      rw [Task.creates, h, hij]
      rfl
    · exact Or.inl h
  · left
    rw [Server.senderAndPlay, hr] at h
    exact (senderAndPlay_updateRequest request.id i n).symm.trans h
  · left
    rw [Server.senderAndPlay, hr, Collection.get_delete] at h
    split at h
    · cases h
    · exact h

/-- What a query that lets a request through has seen. -/
theorem receiver_of_canSendRequest {play : Play} {sender i : String} {d : Doc PlayRequestTitle}
    (h : RequestDataManager.canSendRequest play (some sender)
      ((s.requestsOfPlay play.id).map Prod.snd) = true)
    (hd : s.requests.get i = some d) (hk : d.senderAndPlay = some (sender, play.id)) :
    d.string .requestReceiverId ≠ some play.finderId := by
  obtain ⟨hsender, hplay⟩ := senderAndPlay_eq_some.1 hk
  have hmem : (i, d) ∈ s.requestsOfPlay play.id :=
    Collection.mem_query.2 ⟨hd, by simp [hplay]⟩
  have hone := List.all_eq_true.1 h d (List.mem_map_of_mem hmem)
  intro hreceiver
  simp [hsender, hreceiver] at hone

/-- The query of `saveRequest` carries what `saveRequest` stores. -/
def Task.Sends : Task → Prop
  | .querySameRequest _ data play me => ∃ now, data = RequestDataManager.saveRequestData play me now
  | _ => True

/-- What a call puts in flight creates no request yet. -/
theorem issue_sends {a : Call} {s' : Server} {ts : List Task} (hi : issue s a = some (s', ts)) :
    ∀ t ∈ ts, t.Sends ∧ t.creates = none := by
  intro t ht
  cases a with
  | savePlay play i now =>
    obtain ⟨-, rfl, rfl⟩ := allocate_eq_some.1 hi
    obtain rfl := List.mem_singleton.1 ht
    exact ⟨trivial, rfl⟩
  | saveRequest play players me i now =>
    obtain ⟨-, rfl, rfl⟩ := allocate_eq_some.1 hi
    obtain rfl := List.mem_singleton.1 ht
    exact ⟨⟨now, rfl⟩, rfl⟩
  | deletePlay play =>
    obtain ⟨rfl, rfl⟩ := Prod.mk.inj (Option.some.inj hi)
    rw [deletePlay_eq] at ht
    rcases List.mem_cons.1 ht with rfl | ht
    · exact ⟨trivial, rfl⟩
    · rcases List.mem_append.1 ht with ht | ht
      · obtain ⟨u, -, rfl⟩ := List.mem_map.1 ht
        exact ⟨trivial, rfl⟩
      · obtain rfl := List.mem_singleton.1 ht
        exact ⟨trivial, rfl⟩
  | updatePlay | updateRequest | cancelRequest =>
    obtain ⟨rfl, rfl⟩ := Prod.mk.inj (Option.some.inj hi)
    obtain rfl := List.mem_singleton.1 ht
    exact ⟨trivial, rfl⟩

theorem sends_of_run {ok : Config Server Task → Event Call Reply → Prop}
    (h : roster.Run ok (Config.start s₀) evs c) : ∀ t ∈ c.pending, t.Sends := by
  refine h.forall_tasks (fun t ht => absurd ht List.not_mem_nil)
    (fun _ hi t ht => (issue_sends hi t ht).1) fun _ _ _ t ht => ?_
  rcases mem_answer ht with ⟨_, _, _, _, _, rfl⟩ | ⟨_, _, _, rfl⟩ | ⟨_, _, rfl⟩ |
    ⟨_, _, _, rfl⟩ | ⟨_, _, rfl⟩ | ⟨_, _, _, rfl⟩ <;> trivial

/-- **The requests name who sends them for what**, and a request that is
let through alone names what is free. -/
theorem names_roster : Names Server.senderAndPlay Task.creates roster
    (fun c e => CreatesAlone c e ∧ ∀ t ∈ c.pending, t.Sends) where
  call {c a s ts} _ hi := by
    refine ⟨fun {i k} hk => ?_, .of_none fun t ht => (issue_sends hi t ht).2⟩
    rwa [Server.senderAndPlay, (issue_eq hi).2.2] at hk
  answer {c n r t} hok ht := by
    obtain ⟨halone, hsends⟩ := hok
    refine ⟨senderAndPlay_answer, ?_⟩
    by_cases hquery : ∃ i data play me, t = .querySameRequest i data play me
    · obtain ⟨documentID, data, play, me, rfl⟩ := hquery
      cases r with
      | failed => exact .of_none fun _ ht' => absurd ht' List.not_mem_nil
      | ok =>
        obtain ⟨now, rfl⟩ := hsends _ (List.mem_of_getElem? ht)
        rw [roster_answer, answer_ok, answerOk_querySameRequest]
        split
        · rename_i hcan
          refine .singleton fun {i k} hn => ?_
          obtain ⟨k', hk', heq⟩ := Option.map_eq_some_iff.1 hn
          obtain ⟨rfl, rfl⟩ := Prod.mk.inj heq
          rw [senderAndPlay_saveRequestData] at hk'
          obtain ⟨sender, rfl, rfl⟩ := Option.map_eq_some_iff.1 hk'
          obtain ⟨hflight, hstored⟩ := halone _ _ _ _ ht hcan
          rintro (⟨j, -, hj⟩ | ⟨t', ht', j, -, hj⟩)
          · obtain ⟨d, hd, hk⟩ := Option.bind_eq_some_iff.1 hj
            exact receiver_of_canSendRequest hcan hd hk (hstored j d hd hk)
          · exact hflight t' ht' j hj
        · exact .of_none fun _ ht' => absurd ht' List.not_mem_nil
    · refine .of_none fun t' ht' => ?_
      rcases mem_answer ht' with ⟨i, data, play, me, rfl, -⟩ | ⟨_, _, _, rfl⟩ | ⟨_, _, rfl⟩ |
        ⟨_, _, _, rfl⟩ | ⟨_, _, rfl⟩ | ⟨_, _, -, rfl⟩
      · exact absurd ⟨i, data, play, me, rfl⟩ hquery
      all_goals rfl

/-- **One request for a player and a play.** Where requests are let through
alone, no state of a run holds two of one sender for one play. -/
theorem oneRequest_of_run (h₀ : OneRequest s₀)
    (hrun : roster.Run CreatesAlone (Config.start s₀) evs c) : ∀ s ∈ c.seen, OneRequest s := by
  have hsends := hrun.strengthen fun _ _ hr => sends_of_run hr
  exact names_roster.forall_seen hsends (h₀ _ _ _)

namespace Sample

/-- `"u"` asks twice to join the play `"p"`. -/
def askTwice : List (Event Call Reply) :=
  [.call (.saveRequest (play "p" ["f"]) [] (some "u") "r" ⟨0, 0⟩),
    .call (.saveRequest (play "p" ["f"]) [] (some "u") "q" ⟨0, 0⟩)]

/-- The first request is created, and accepted, before the second query is
answered. -/
def createFirst : List (Event Call Reply) :=
  askTwice ++ [.answer 0 .ok, .answer 1 .ok, .call (.updateRequest (request "r" "u" "p" 0) 99),
    .answer 1 .ok, .answer 0 .ok]

/-- Both queries are answered before either request is created. -/
def queryBoth : List (Event Call Reply) :=
  askTwice ++ [.answer 0 .ok, .answer 0 .ok, .answer 0 .ok, .answer 0 .ok]

/-- No request, and so no two. -/
theorem oneRequest_onePlay : OneRequest onePlay := by
  intro i j k h
  cases h

end Sample

theorem oneRequest_createFirst : ∃ c,
    roster.Run CreatesAlone (Config.start Sample.onePlay) Sample.createFirst c ∧
      ∀ s ∈ c.seen, OneRequest s := by
  have hrun : roster.Run CreatesAlone (Config.start Sample.onePlay) Sample.createFirst _ :=
    .of_exec ⟨trivial, trivial, ?_, ?_, trivial, ?_, ?_, trivial⟩ rfl
  · exact ⟨_, hrun, oneRequest_of_run Sample.oneRequest_onePlay hrun⟩
  -- the first query, its request, the acceptance, and the second query
  · rintro _ _ _ _ ⟨⟩ -
    refine ⟨fun t ht i => ?_, fun _ _ hd => nomatch hd⟩
    rcases List.mem_pair.1 ht with rfl | rfl <;> exact nofun
  · exact fun _ _ _ _ ht => nomatch ht
  · exact fun _ _ _ _ ht => nomatch ht
  · rintro _ _ _ _ ⟨⟩ hcan
    exact absurd hcan (by decide)

/-- **Two requests that are let through together are both stored.** -/
theorem not_oneRequest : ¬∀ (s₀ : Server) (evs : List (Event Call Reply))
    (c : Config Server Task), OneRequest s₀ →
    roster.Run (fun _ _ => True) (Config.start s₀) evs c → ∀ s ∈ c.seen, OneRequest s := by
  intro h
  have hrun : roster.Run (fun _ _ => True) (Config.start Sample.onePlay) Sample.queryBoth _ :=
    .of_exec ⟨trivial, trivial, trivial, trivial, trivial, trivial, trivial⟩ rfl
  have htwice := h _ _ _ Sample.oneRequest_onePlay hrun _ List.mem_cons_self "r" "q" ("u", "p")
    rfl rfl
  exact absurd htwice (by decide)

end Volleyer
