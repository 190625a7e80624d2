import Volleyer.Roster.Sample
import Volleyer.Screen.Received

/-!
# Stored requests — what is sent, and what arrives

`saveRequest` makes a list of dictionaries of the players it is handed, and
stores an empty one. `getPlayRequests` reads every document of the
collection, on any device, and sorts what it decodes into a received and a
sent list. So a request arrives, once and in the right list of either
device, but as one without players.
-/

namespace Volleyer

open RequestDataManager

variable {s : Server} {play : Play} {players : List Player} {sender i : String} {now : Date}
variable {me : Option String} {clock : String → Date} {c : Config Server Task}
variable {documents : List (String × Doc PlayRequestTitle)}

/-! ## The two lists of a device -/

namespace RequestDataManager

/-- The body of the loop of `getPlayRequests`; `none` is a trap. -/
def appendRequest (me : Option String) (clock : String → Date)
    (arrays : List PlayRequest × List PlayRequest) (document : String × Doc PlayRequestTitle) :
    Option (List PlayRequest × List PlayRequest) :=
  match document.2.stringDicts .requestPlayerList with
  | none => some arrays
  | some _ =>
      (decodePlayRequest document.1 document.2 (clock document.1)).map fun aPlayRequest =>
        if some aPlayRequest.requestReceverId = me then (arrays.1 ++ [aPlayRequest], arrays.2)
        else if some aPlayRequest.requestSenderId = me then (arrays.1, arrays.2 ++ [aPlayRequest])
        else arrays

/-- The order of a sort by `$0.createTime < $1.createTime`. -/
def SentBy (a b : PlayRequest) : Prop := ¬b.createTime.before a.createTime

instance (a b : PlayRequest) : Decidable (SentBy a b) := inferInstanceAs (Decidable ¬_)

/-- **`getPlayRequests`** on the device of `me`: the received requests and
the sent ones. `clock` is the `Date()` of a missing time. -/
def getPlayRequests (me : Option String) (clock : String → Date)
    (documents : List (String × Doc PlayRequestTitle)) :
    Option (List PlayRequest × List PlayRequest) :=
  (documents.foldlM (appendRequest me clock) ([], [])).map fun arrays =>
    (arrays.1.insertionSort SentBy, arrays.2.insertionSort SentBy)

end RequestDataManager

/-- **A document `getPlayRequests` traps on**: a player of it has no name or
no gender to unwrap. -/
def Doc.Traps (d : Doc PlayRequestTitle) : Prop :=
  ∃ players, d.stringDicts .requestPlayerList = some players ∧
    ∃ player ∈ players, player.lookup "Name" = none ∨ player.lookup "Gender" = none

theorem mapM_eq_none_iff {α β : Type*} {f : α → Option β} {l : List α} :
    l.mapM f = none ↔ ∃ a ∈ l, f a = none := by
  induction l with
  | nil => simp
  | cons a l ih =>
    rw [List.mapM_cons]
    cases h : f a with
    | none => simp [h]
    | some b =>
      cases hl : l.mapM f with
      | none => simpa [h, hl] using ih.1 hl
      | some bs =>
        have hnot : ¬∃ a ∈ l, f a = none := fun hex => by
          rw [ih.2 hex] at hl
          cases hl
        simpa [h, hl] using hnot

theorem decodePlayRequestWith_eq_none_iff {player : List (String × String) → Option Player}
    {d : Doc PlayRequestTitle} {dicts : List (List (String × String))}
    (h : d.stringDicts .requestPlayerList = some dicts) :
    decodePlayRequestWith player i d now = none ↔ ∃ p ∈ dicts, player p = none := by
  rw [← mapM_eq_none_iff]
  unfold decodePlayRequestWith
  simp only [h, Option.bind_eq_bind, Option.bind_some, Option.pure_def, Option.bind_eq_none_iff,
    reduceCtorEq, imp_false]
  rw [Option.eq_none_iff_forall_ne_some]

/-- Where there is a list of players, nothing but a trap stops the
decoder. -/
theorem decodePlayRequest_eq_none_iff {d : Doc PlayRequestTitle}
    {dicts : List (List (String × String))}
    (h : d.stringDicts .requestPlayerList = some dicts) :
    decodePlayRequest i d now = none ↔ d.Traps := by
  have htraps : d.Traps ↔ ∃ player ∈ dicts,
      player.lookup "Name" = none ∨ player.lookup "Gender" = none := by
    simp only [Doc.Traps, h, Option.some.injEq, exists_eq_left']
  rw [htraps, decodePlayRequest, decodePlayRequestWith_eq_none_iff h]
  refine exists_congr fun player => and_congr_right fun _ => ?_
  cases player.lookup "Name" <;> cases player.lookup "Gender" <;> simp

/-! ## What the loop collects -/

/-- The requests a device decodes, in the order of the documents. -/
def decodedRequests (clock : String → Date) (documents : List (String × Doc PlayRequestTitle)) :
    List PlayRequest :=
  documents.filterMap fun document =>
    decodePlayRequest document.1 document.2 (clock document.1)

/-- The first list a request may go to. -/
def PlayRequest.ReceivedBy (r : PlayRequest) (me : Option String) : Prop :=
  some r.requestReceverId = me

/-- The second one, if the first does not take it. -/
def PlayRequest.SentFrom (r : PlayRequest) (me : Option String) : Prop :=
  ¬r.ReceivedBy me ∧ some r.requestSenderId = me

instance (r : PlayRequest) : Decidable (r.ReceivedBy me) := inferInstanceAs (Decidable (_ = _))

instance (r : PlayRequest) : Decidable (r.SentFrom me) := inferInstanceAs (Decidable (_ ∧ _))

/-- A trap ends the loop. -/
theorem appendRequest_eq_none_iff {arrays : List PlayRequest × List PlayRequest}
    {document : String × Doc PlayRequestTitle} :
    appendRequest me clock arrays document = none ↔ document.2.Traps := by
  unfold appendRequest
  cases h : document.2.stringDicts .requestPlayerList with
  | none =>
    refine iff_of_false (Option.some_ne_none _) ?_
    rintro ⟨dicts, hdicts, -⟩
    rw [h] at hdicts
    cases hdicts
  | some dicts => rw [Option.map_eq_none_iff, decodePlayRequest_eq_none_iff h]

/-- What a document adds to the two lists. -/
theorem appendRequest_of_not_traps {document : String × Doc PlayRequestTitle}
    (h : ¬document.2.Traps) (received sent : List PlayRequest) :
    appendRequest me clock (received, sent) document =
      some (received ++ (decodedRequests clock [document]).filter (·.ReceivedBy me),
        sent ++ (decodedRequests clock [document]).filter (·.SentFrom me)) := by
  unfold appendRequest decodedRequests
  cases hdicts : document.2.stringDicts .requestPlayerList with
  | none =>
    have hnone : decodePlayRequest document.1 document.2 (clock document.1) = none := by
      simp only [decodePlayRequest, decodePlayRequestWith, hdicts, Option.bind_eq_bind,
        Option.bind_none]
    simp [hnone]
  | some dicts =>
    cases hdecode : decodePlayRequest document.1 document.2 (clock document.1) with
    | none => exact absurd ((decodePlayRequest_eq_none_iff hdicts).1 hdecode) h
    | some r =>
      by_cases hreceived : some r.requestReceverId = me
      · simp [hdecode, hreceived, PlayRequest.ReceivedBy, PlayRequest.SentFrom]
      · by_cases hsent : some r.requestSenderId = me
        · simp [hdecode, hreceived, hsent, PlayRequest.ReceivedBy, PlayRequest.SentFrom]
        · simp [hdecode, hreceived, hsent, PlayRequest.ReceivedBy, PlayRequest.SentFrom]

theorem decodedRequests_append (clock : String → Date)
    (documents documents' : List (String × Doc PlayRequestTitle)) :
    decodedRequests clock (documents ++ documents') =
      decodedRequests clock documents ++ decodedRequests clock documents' :=
  List.filterMap_append

/-- **The loop**, over documents none of which traps. -/
theorem foldlM_appendRequest (h : ∀ document ∈ documents, ¬document.2.Traps) :
    documents.foldlM (appendRequest me clock) ([], []) =
      some ((decodedRequests clock documents).filter (·.ReceivedBy me),
        (decodedRequests clock documents).filter (·.SentFrom me)) := by
  induction documents using List.reverseRecOn with
  | nil => rfl
  | append_singleton documents document ih =>
    rw [List.foldlM_append, ih fun d hd => h d (List.mem_append_left _ hd), Option.bind_eq_bind,
      Option.bind_some, List.foldlM_cons,
      appendRequest_of_not_traps (h document (List.mem_append_right _ List.mem_cons_self)),
      Option.bind_eq_bind, Option.bind_some, decodedRequests_append, List.filter_append,
      List.filter_append]
    rfl

/-- And over documents one of which does. -/
theorem foldlM_appendRequest_of_traps {document : String × Doc PlayRequestTitle}
    (hmem : document ∈ documents) (htraps : document.2.Traps)
    (arrays : List PlayRequest × List PlayRequest) :
    documents.foldlM (appendRequest me clock) arrays = none := by
  induction documents generalizing arrays with
  | nil => cases hmem
  | cons first documents ih =>
    rw [List.foldlM_cons, Option.bind_eq_bind, Option.bind_eq_none_iff]
    intro arrays' hfirst
    rcases List.mem_cons.1 hmem with rfl | hmem
    · rw [appendRequest_eq_none_iff.2 htraps] at hfirst
      cases hfirst
    · exact ih hmem arrays'

/-- **What a device is delivered**: each request it is a party to, in the
list it belongs to. -/
theorem getPlayRequests_eq_some_iff {arrays : List PlayRequest × List PlayRequest} :
    getPlayRequests me clock documents = some arrays ↔
      (∀ document ∈ documents, ¬document.2.Traps) ∧
        arrays = (((decodedRequests clock documents).filter (·.ReceivedBy me)).insertionSort SentBy,
          ((decodedRequests clock documents).filter (·.SentFrom me)).insertionSort SentBy) := by
  unfold getPlayRequests
  by_cases h : ∀ document ∈ documents, ¬document.2.Traps
  · rw [foldlM_appendRequest h, Option.map_some, Option.some.injEq, and_iff_right h, eq_comm]
  · push Not at h
    obtain ⟨document, hmem, htraps⟩ := h
    rw [foldlM_appendRequest_of_traps hmem htraps]
    exact iff_of_false nofun fun hand => hand.1 document hmem htraps

/-! ## The order of the lists -/

instance : Std.Total SentBy where
  total a b := by
    unfold SentBy Timestamp.before
    omega

instance : IsTrans PlayRequest SentBy where
  trans a b c hab hbc := by
    unfold SentBy Timestamp.before at *
    omega

/-! ## A request of a sender for a play -/

/-- A request of `sender` for the play. -/
def PlayRequest.IsOf (r : PlayRequest) (sender playId : String) : Prop :=
  r.requestSenderId = sender ∧ r.playId = playId

instance (r : PlayRequest) (sender playId : String) : Decidable (r.IsOf sender playId) :=
  inferInstanceAs (Decidable (_ ∧ _))

/-- A document that is read as one. -/
def Doc.IsOf (d : Doc PlayRequestTitle) (sender playId : String) : Prop :=
  (d.string .requestSenderId).getD "no sender id" = sender ∧
    (d.string .playId).getD "no play id" = playId

/-- **The request arrives in a list**: once, as it was sent; the list has
the others it had, and is sorted. -/
structure ArrivesIn (sender : String) (play : Play) (players : List Player)
    (before after : List PlayRequest) : Prop where
  arrived : ∃ request, after.filter (·.IsOf sender play.id) = [request] ∧
    request.requestReceverId = play.finderId ∧ request.status = 0 ∧
    request.requestPlayerList = players
  others : ∀ i, (∃ r ∈ after, ¬r.IsOf sender play.id ∧ r.id = i) ↔ ∃ r ∈ before, r.id = i
  sorted : after.Pairwise SentBy

/-- **A list is as it was**, and sorted. -/
structure Stays (before after : List PlayRequest) : Prop where
  same : ∀ i, (∃ r ∈ after, r.id = i) ↔ ∃ r ∈ before, r.id = i
  sorted : after.Pairwise SentBy

/-- What the device of `me` is delivered in two states of the store,
whatever its clock says. -/
def Delivers (me : String) (s s' : Server)
    (P : List PlayRequest × List PlayRequest → List PlayRequest × List PlayRequest → Prop) :
    Prop :=
  ∀ clock clock', ∃ before after,
    getPlayRequests (some me) clock s.requests.entries = some before ∧
      getPlayRequests (some me) clock' s'.requests.entries = some after ∧ P before after

/-- **A request arrives as it was sent**: in the finder's received list
and in the sender's sent one. -/
def ArrivesAsSent (s s' : Server) (sender : String) (play : Play) (players : List Player) : Prop :=
  Delivers play.finderId s s' (fun before after =>
      ArrivesIn sender play players before.1 after.1 ∧ Stays before.2 after.2) ∧
    Delivers sender s s' fun before after =>
      ArrivesIn sender play players before.2 after.2 ∧ Stays before.1 after.1

/-- The call of `saveRequest`, and both its tasks answered. -/
def sending (play : Play) (players : List Player) (sender i : String) (now : Date) :
    List (Event Call Reply) :=
  [.call (.saveRequest play players (some sender) i now), .answer 0 .ok, .answer 0 .ok]

/-! ## What is stored, and how it is read -/

/-- The document `saveRequest` stores, as a device reads it: without
players. -/
def arriving (play : Play) (sender i : String) (now : Date) : PlayRequest where
  requestPlayerList := []
  requestReceverId := play.finderId
  requestSenderId := sender
  playId := play.id
  status := 0
  createTime := now
  id := i

/-- The stored document with its id. -/
def savedRequest (play : Play) (sender i : String) (now : Date) : String × Doc PlayRequestTitle :=
  (i, Doc.setData (saveRequestData play (some sender) now))

theorem decodedRequests_savedRequest :
    decodedRequests clock [savedRequest play sender i now] = [arriving play sender i now] := rfl

theorem not_traps_savedRequest : ¬(savedRequest play sender i now).2.Traps := by
  rintro ⟨players, hplayers, player, hmem, -⟩
  obtain rfl : [] = players := Option.some.inj hplayers
  cases hmem

/-- A missing time is all a clock fills in. -/
theorem decodePlayRequest_clock (d : Doc PlayRequestTitle) (now now' : Date) :
    decodePlayRequest i d now' = (decodePlayRequest i d now).map fun r =>
      { r with createTime := (d.timestamp .createTime).getD now' } := by
  unfold decodePlayRequest decodePlayRequestWith
  cases d.stringDicts .requestPlayerList with
  | none => rfl
  | some dicts =>
    simp only [Option.bind_eq_bind, Option.bind_some, Option.pure_def, Option.map_bind]
    rfl

section Bucket

variable {p : PlayRequest → Prop} [DecidablePred p] {clock' : String → Date}
variable {request : PlayRequest}

/-- One list of a device: the requests that satisfy `p`. -/
def bucket (p : PlayRequest → Prop) [DecidablePred p] (clock : String → Date)
    (documents : List (String × Doc PlayRequestTitle)) : List PlayRequest :=
  ((decodedRequests clock documents).filter p).insertionSort SentBy

theorem mem_bucket :
    request ∈ bucket p clock documents ↔ request ∈ decodedRequests clock documents ∧ p request := by
  rw [bucket, List.mem_insertionSort, List.mem_filter, decide_eq_true_eq]

theorem pairwise_bucket : (bucket p clock documents).Pairwise SentBy :=
  List.pairwise_insertionSort _ _

/-- Which requests are listed does not depend on the clock. -/
theorem exists_mem_bucket_clock (hp : ∀ r t, p r → p { r with createTime := t })
    (h : ∃ r ∈ bucket p clock documents, r.id = i) :
    ∃ r ∈ bucket p clock' documents, r.id = i := by
  obtain ⟨r, hr, hid⟩ := h
  obtain ⟨hdecoded, hpr⟩ := mem_bucket.1 hr
  obtain ⟨document, hmem, hdecode⟩ := List.mem_filterMap.1 hdecoded
  refine ⟨{ r with createTime := _ }, mem_bucket.2 ⟨List.mem_filterMap.2 ⟨document, hmem, ?_⟩,
    hp r ((document.2.timestamp .createTime).getD (clock' document.1)) hpr⟩, hid⟩
  rw [decodePlayRequest_clock document.2 (clock document.1) (clock' document.1), hdecode]
  rfl

/-- The list with one more document. -/
theorem bucket_append_perm :
    (bucket p clock (documents ++ [savedRequest play sender i now])).Perm
      (bucket p clock documents ++ [arriving play sender i now].filter p) := by
  refine (List.perm_insertionSort _ _).trans ?_
  rw [decodedRequests_append, decodedRequests_savedRequest, List.filter_append]
  exact (List.perm_insertionSort _ _).symm.append_right _

/-- A list the request does not go to stays. -/
theorem stays_bucket (hp : ∀ r t, p r → p { r with createTime := t })
    (hnot : ¬p (arriving play sender i now)) :
    Stays (bucket p clock documents)
      (bucket p clock' (documents ++ [savedRequest play sender i now])) where
  same j := by
    have hperm : (bucket p clock' (documents ++ [savedRequest play sender i now])).Perm
        (bucket p clock' documents) := by
      refine bucket_append_perm.trans ?_
      rw [List.filter_cons_of_neg (by simpa using hnot), List.filter_nil, List.append_nil]
    simp only [hperm.mem_iff]
    exact ⟨exists_mem_bucket_clock hp, exists_mem_bucket_clock hp⟩
  sorted := pairwise_bucket

/-- Nothing that is read of the documents is a request of the sender for
the play. -/
theorem not_isOf_of_mem_bucket
    (hnew : ∀ document ∈ documents, ¬document.2.IsOf sender play.id)
    (h : request ∈ bucket p clock documents) : ¬request.IsOf sender play.id := by
  obtain ⟨document, hmem, hdecode⟩ := List.mem_filterMap.1 (mem_bucket.1 h).1
  obtain ⟨-, hsender, -, hplay, -⟩ := decodePlayRequestWith_eq_some hdecode
  intro hof
  exact hnew document hmem ⟨hsender ▸ hof.1, hplay ▸ hof.2⟩

/-- A list the request goes to has it once. -/
theorem arrives_bucket (hp : ∀ r t, p r → p { r with createTime := t })
    (hyes : p (arriving play sender i now))
    (hnew : ∀ document ∈ documents, ¬document.2.IsOf sender play.id) :
    ArrivesIn sender play [] (bucket p clock documents)
      (bucket p clock' (documents ++ [savedRequest play sender i now])) := by
  have hperm : (bucket p clock' (documents ++ [savedRequest play sender i now])).Perm
      (bucket p clock' documents ++ [arriving play sender i now]) := by
    refine bucket_append_perm.trans ?_
    rw [List.filter_cons_of_pos (by simpa using hyes), List.filter_nil]
  have hof : (arriving play sender i now).IsOf sender play.id := ⟨rfl, rfl⟩
  have hold : ∀ r ∈ bucket p clock' documents, ¬r.IsOf sender play.id := fun r hr =>
    not_isOf_of_mem_bucket hnew hr
  refine ⟨⟨arriving play sender i now, ?_, rfl, rfl, rfl⟩, fun j => ?_, pairwise_bucket⟩
  · rw [← List.perm_singleton]
    refine (hperm.filter _).trans ?_
    rw [List.filter_append, List.filter_eq_nil_iff.2 (by simpa using hold), List.nil_append]
    simp [hof]
  · constructor
    · rintro ⟨r, hr, hne, hid⟩
      rcases List.mem_append.1 (hperm.mem_iff.1 hr) with hr | hr
      · exact exists_mem_bucket_clock hp ⟨r, hr, hid⟩
      · obtain rfl := List.mem_singleton.1 hr
        exact absurd hof hne
    · intro hex
      have hex' : ∃ r ∈ bucket p clock' documents, r.id = j := exists_mem_bucket_clock hp hex
      obtain ⟨r, hr, hid⟩ := hex'
      exact ⟨r, hperm.mem_iff.2 (List.mem_append_left _ hr), hold r hr, hid⟩

end Bucket

/-! ## Sending -/

/-- **What a successful `saveRequest` leaves stored**: one more document. -/
theorem entries_of_sending (hids : ∀ j, (s.requests.get j).isSome → j ∈ s.allocated)
    (hnew : ∀ document ∈ s.requests.entries, ¬document.2.IsOf sender play.id)
    (hexec : roster.exec (Config.start s) (sending play players sender i now) = some c) :
    c.state.requests.entries = s.requests.entries ++ [savedRequest play sender i now] := by
  obtain ⟨c₁, hcall, hrest⟩ := Option.bind_eq_some_iff.1 hexec
  obtain ⟨s', ts, hissue, rfl⟩ := Machine.step_call.1 hcall
  obtain ⟨hfresh, rfl, rfl⟩ := allocate_eq_some.1 hissue
  obtain ⟨c₂, hquery, hlast⟩ := Option.bind_eq_some_iff.1 hrest
  obtain ⟨t, ht, rfl⟩ := Machine.step_answer.1 hquery
  obtain rfl := Option.some.inj ht
  have hcan :
      canSendRequest play (some sender) ((s.requestsOfPlay play.id).map Prod.snd) = true := by
    rw [canSendRequest, List.all_eq_true]
    intro d hd
    obtain ⟨document, hquery, rfl⟩ := List.mem_map.1 hd
    obtain ⟨hmem, hplay⟩ := List.mem_filter.1 hquery
    have hsender : document.2.string .requestSenderId ≠ some sender := fun hs =>
      hnew document hmem ⟨by rw [hs, Option.getD_some], by
        rw [beq_iff_eq.1 hplay, Option.getD_some]⟩
    simp [hsender]
  have hanswer : answer { s with allocated := i :: s.allocated }
      (.querySameRequest i (saveRequestData play (some sender) now) play (some sender)) .ok =
      ({ s with allocated := i :: s.allocated },
        [.setRequest i (saveRequestData play (some sender) now)]) := by
    show (if _ then _ else if _ then _ else _) = _
    split
    · rfl
    · exact if_pos hcan
  obtain ⟨c₃, hset, hend⟩ := Option.bind_eq_some_iff.1 hlast
  obtain ⟨t, ht, rfl⟩ := Machine.step_answer.1 hset
  obtain rfl := Option.some.inj hend
  simp only [roster, Config.start, hanswer] at ht ⊢
  obtain rfl := Option.some.inj ht
  have hdelete : (s.requests.delete i).entries = s.requests.entries := by
    refine List.filter_eq_self.2 fun e he => decide_eq_true fun heq => hfresh (hids i ?_)
    exact Collection.isSome_get_iff.2 (heq ▸ List.mem_map_of_mem he)
  exact congrArg (· ++ [savedRequest play sender i now]) hdelete

/-- Nothing traps, before and after, if nothing did before. -/
theorem not_traps_append
    (h : ∀ document ∈ documents, ¬document.2.Traps) :
    ∀ document ∈ documents ++ [savedRequest play sender i now], ¬document.2.Traps := by
  intro document hmem
  rcases List.mem_append.1 hmem with hmem | hmem
  · exact h document hmem
  · obtain rfl := List.mem_singleton.1 hmem
    exact not_traps_savedRequest

/-- **A request arrives as it was sent** exactly where it was sent without
players and no stored request traps. -/
theorem arrivesAsSent_iff (hids : ∀ j, (s.requests.get j).isSome → j ∈ s.allocated)
    (hnew : ∀ document ∈ s.requests.entries, ¬document.2.IsOf sender play.id)
    (hne : sender ≠ play.finderId)
    (hexec : roster.exec (Config.start s) (sending play players sender i now) = some c) :
    ArrivesAsSent s c.state sender play players ↔
      players = [] ∧ ∀ document ∈ s.requests.entries, ¬document.2.Traps := by
  have hentries := entries_of_sending hids hnew hexec
  have hne' : play.finderId ≠ sender := hne.symm
  constructor
  · rintro ⟨hfinder, -⟩
    obtain ⟨before, after, hbefore, hafter, ⟨⟨request, hfilter, -, -, hplayers⟩, -, -⟩, -⟩ :=
      hfinder (fun _ => now) fun _ => now
    obtain ⟨hquiet, -⟩ := getPlayRequests_eq_some_iff.1 hbefore
    obtain ⟨-, rfl⟩ := getPlayRequests_eq_some_iff.1 hafter
    have hrequest : request ∈ [request] := List.mem_singleton_self _
    rw [← hfilter, List.mem_filter, decide_eq_true_eq, List.mem_insertionSort, List.mem_filter,
      hentries, decodedRequests_append, List.mem_append] at hrequest
    obtain ⟨⟨hold | hsaved, -⟩, hof⟩ := hrequest
    · exact absurd hof (not_isOf_of_mem_bucket (p := fun _ => True) hnew
        (mem_bucket.2 ⟨hold, trivial⟩))
    · obtain rfl := List.mem_singleton.1 hsaved
      exact ⟨hplayers.symm, hquiet⟩
  · rintro ⟨rfl, hquiet⟩
    refine ⟨fun clock clock' => ?_, fun clock clock' => ?_⟩
    · refine ⟨_, _, getPlayRequests_eq_some_iff.2 ⟨hquiet, rfl⟩,
        getPlayRequests_eq_some_iff.2 ⟨hentries ▸ not_traps_append hquiet, rfl⟩, ?_⟩
      rw [hentries]
      exact ⟨arrives_bucket (p := (·.ReceivedBy _)) (fun _ _ h => h) rfl hnew,
        stays_bucket (p := (·.SentFrom _)) (fun _ _ h => h) fun h => h.1 rfl⟩
    · refine ⟨_, _, getPlayRequests_eq_some_iff.2 ⟨hquiet, rfl⟩,
        getPlayRequests_eq_some_iff.2 ⟨hentries ▸ not_traps_append hquiet, rfl⟩, ?_⟩
      rw [hentries]
      have hnot : ¬(arriving play sender i now).ReceivedBy (some sender) := fun h =>
        hne' (Option.some.inj h)
      exact ⟨arrives_bucket (p := (·.SentFrom _)) (fun _ _ h => h) ⟨hnot, rfl⟩ hnew,
        stays_bucket (p := (·.ReceivedBy _)) (fun _ _ h => h) hnot⟩

namespace Sample

/-- A player the sender brings. -/
def broughtPlayer : Player := ⟨"v", "男"⟩

end Sample

/-- **A player that was sent does not arrive.** -/
theorem arrivesAsSent_fails : ¬∀ (s : Server) (play : Play) (players : List Player)
    (sender i : String) (now : Date) (c : Config Server Task),
    (∀ j, (s.requests.get j).isSome → j ∈ s.allocated) →
    (∀ document ∈ s.requests.entries, ¬document.2.IsOf sender play.id) →
    sender ≠ play.finderId →
    roster.exec (Config.start s) (sending play players sender i now) = some c →
    ArrivesAsSent s c.state sender play players := by
  intro h
  have harrives := h Sample.onePlay (Sample.play "p" ["f"]) [Sample.broughtPlayer] "u" "r" ⟨0, 0⟩ _
    (fun j hj => nomatch hj) (fun _ hmem => nomatch hmem) (by decide) rfl
  obtain ⟨before, after, -, hafter, ⟨⟨request, hfilter, -, -, hplayers⟩, -, -⟩, -⟩ :=
    harrives.1 (fun _ => ⟨0, 0⟩) fun _ => ⟨0, 0⟩
  obtain rfl : ([arriving (Sample.play "p" ["f"]) "u" "r" ⟨0, 0⟩], []) = after :=
    Option.some.inj hafter
  obtain rfl : arriving (Sample.play "p" ["f"]) "u" "r" ⟨0, 0⟩ = request :=
    List.singleton_inj.1 hfilter
  cases hplayers

/-- A request of another player is stored, and one without players is
sent. -/
theorem arrivesAsSent_onePlay : ∃ c, roster.exec (Config.start (Sample.oneRequest 0))
      (sending (Sample.play "p" ["f"]) [] "v" "q" ⟨1, 0⟩) = some c ∧
    ArrivesAsSent (Sample.oneRequest 0) c.state "v" (Sample.play "p" ["f"]) [] := by
  have hexec : roster.exec (Config.start (Sample.oneRequest 0))
      (sending (Sample.play "p" ["f"]) [] "v" "q" ⟨1, 0⟩) = some _ := rfl
  refine ⟨_, hexec, (arrivesAsSent_iff (fun j hj => ?_) (fun document hmem => ?_) (by decide)
    hexec).2 ⟨rfl, fun document hmem => ?_⟩⟩
  · exact Sample.mem_allocated_store j (Or.inr hj)
  · obtain rfl := List.mem_singleton.1 hmem
    exact fun hof => absurd hof.1 (by decide)
  · obtain rfl := List.mem_singleton.1 hmem
    rintro ⟨players, hplayers, player, hplayer, -⟩
    obtain rfl : [] = players := Option.some.inj hplayers
    cases hplayer

end Volleyer
