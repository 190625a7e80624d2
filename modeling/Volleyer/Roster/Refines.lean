import Volleyer.Common.Refines
import Volleyer.Roster.Club
import Volleyer.Roster.Serial

/-!
# The roster — what the documents are for

The roster machine refines the club: an operation taken alone, on values
that are current, does to the three records what its operation does to
the club, in whatever order its callbacks run. `Mirrors` relates the two
beside the invariant of the serial runs; `Serves` is what it means for
the stored documents, every list of which the club determines.
-/

namespace Volleyer

variable {s s' : Server} {p q u i : String} {accepted : List String}

/-! ## A request as an application -/

/-- The standing of a stored status. -/
def Standing.ofStatus (n : ℤ) : Option Standing :=
  if n = 0 then some .waiting
  else if n = 1 then some .declined
  else if n = 99 then some .seated
  else if n = -1 then some .withdrawn
  else none

theorem Standing.ofStatus_eq_seated {n : ℤ} : ofStatus n = some .seated ↔ n = 99 := by
  unfold ofStatus
  split_ifs <;> simp_all

theorem Standing.ofStatus_eq_withdrawn {n : ℤ} : ofStatus n = some .withdrawn ↔ n = -1 := by
  unfold ofStatus
  split_ifs <;> simp_all

/-- The application a request document is. -/
def application (d : Doc PlayRequestTitle) : Option (Application String String) := do
  let sender ← d.string .requestSenderId
  let play ← d.string .playId
  let standing ← (d.int .status).bind Standing.ofStatus
  return ⟨sender, play, standing⟩

theorem application_eq_some {d : Doc PlayRequestTitle} {a : Application String String} :
    application d = some a ↔ d.string .requestSenderId = some a.sender ∧
      d.string .playId = some a.play ∧ (d.int .status).bind Standing.ofStatus = some a.standing := by
  obtain ⟨v, q, n⟩ := a
  simp only [application, Option.bind_eq_bind, Option.bind_eq_some_iff, Option.pure_def,
    Option.some.injEq, Application.mk.injEq]
  constructor
  · rintro ⟨_, hv, _, hq, _, hn, rfl, rfl, rfl⟩
    exact ⟨hv, hq, hn⟩
  · rintro ⟨hv, hq, hn⟩
    exact ⟨_, hv, _, hq, _, hn, rfl, rfl, rfl⟩

/-- A status written, the rest of the application stays. -/
theorem application_updateData {d : Doc PlayRequestTitle} {a : Application String String} {n : ℤ}
    {m : Standing} (h : application d = some a) (hn : Standing.ofStatus n = some m) :
    application (d.updateData [(.status, .int n)]) = some { a with standing := m } := by
  obtain ⟨hs, hp, -⟩ := application_eq_some.1 h
  exact application_eq_some.2 ⟨by simpa using hs, by simpa using hp, by simpa using hn⟩

/-- The application stored under an id. -/
def Server.application (s : Server) (i : String) : Option (Application String String) :=
  (s.requests.get i).bind Volleyer.application

/-! ## What the documents show of a club -/

/-- **The documents of a club**: its finders, its applications, and its
seats as the acceptances that still stand. A request lists no players. -/
structure Mirrors (accepted : List String) (s : Server) (C : Club String String String) : Prop where
  finder : ∀ p, s.finderId p = C.finder p
  decodes : ∀ i d, s.requests.get i = some d → (application d).isSome
  players : ∀ i d, s.requests.get i = some d → d.stringDicts .requestPlayerList = some []
  application : ∀ i, s.application i = C.application i
  seats : C.seats = accepted.filter fun i => s.status i = some 99

/-- **What a store serves to its readers**: every roster, every user's list
and every request is the club's, the request sent to the finder. -/
structure Serves (s : Server) (C : Club String String String) : Prop where
  plays : ∀ p, (s.plays.get p).isSome ↔ (C.finder p).isSome
  finder : ∀ p, s.finderId p = C.finder p
  roster : ∀ p, s.playerInfo p = C.roster p
  lists : ∀ u d, s.users.get u = some d → ∃ l, d.strings .myPlayList = some l ∧ l.Nodup ∧
    ∀ p, p ∈ l ↔ C.Plays u p
  requests : ∀ i, s.requests.get i = none ↔ C.application i = none
  application : ∀ i, s.application i = C.application i
  receiver : ∀ i d a, s.requests.get i = some d → C.application i = some a →
    d.string .requestReceiverId = C.finder a.play
  players : ∀ i d, s.requests.get i = some d → d.stringDicts .requestPlayerList = some []

/-- The operation of a call. An edit of a play is none of the club's. -/
def clubOp : Call → Option (ClubOp String String String)
  | .savePlay play documentID _ => some (.post documentID play.finderId)
  | .updatePlay _ => none
  | .deletePlay play => some (.close play.id)
  | .saveRequest play _ me documentID _ => me.map (.apply documentID · play.id)
  | .updateRequest request status =>
      some (if status = 99 then .seat request.id else .decline request.id)
  | .cancelRequest request => some (.withdraw request.id)

namespace Mirrors

variable {C : Club String String String}

/-- The document behind an application of the club. -/
theorem exists_doc (h : Mirrors accepted s C) {a : Application String String}
    (ha : C.application i = some a) :
    ∃ d, s.requests.get i = some d ∧ d.string .requestSenderId = some a.sender ∧
      d.string .playId = some a.play ∧ (d.int .status).bind Standing.ofStatus = some a.standing := by
  rw [← h.application, Server.application] at ha
  obtain ⟨d, hd, hda⟩ := Option.bind_eq_some_iff.1 ha
  exact ⟨d, hd, application_eq_some.1 hda⟩

/-- The application of a stored document. -/
theorem exists_application (h : Mirrors accepted s C) {d : Doc PlayRequestTitle}
    (hd : s.requests.get i = some d) :
    ∃ a, C.application i = some a ∧ d.string .requestSenderId = some a.sender ∧
      d.string .playId = some a.play ∧ (d.int .status).bind Standing.ofStatus = some a.standing := by
  obtain ⟨a, ha⟩ := Option.isSome_iff_exists.1 (h.decodes i d hd)
  refine ⟨a, ?_, application_eq_some.1 ha⟩
  rw [← h.application, Server.application, hd, Option.bind_some, ha]

theorem application_eq_none_iff (h : Mirrors accepted s C) :
    s.requests.get i = none ↔ C.application i = none := by
  constructor
  · intro hi
    rw [← h.application, Server.application, hi, Option.bind_none]
  · intro hi
    by_contra hne
    obtain ⟨d, hd⟩ := Option.ne_none_iff_exists'.1 hne
    obtain ⟨a, ha, -⟩ := h.exists_application hd
    rw [hi] at ha
    cases ha

/-- A request seats whom its application would, where it stands accepted. -/
theorem seat_eq (h : Mirrors accepted s C) (p i : String) :
    s.seat p i = if s.status i = some 99 then C.seatIn p i else none := by
  cases hd : s.requests.get i with
  | none => simp [Server.seat, Server.status, hd]
  | some d =>
    obtain ⟨a, ha, hs, hp, -⟩ := h.exists_application hd
    simp only [Server.seat, Server.status, Club.seatIn, hd, ha, hs, hp, Option.bind_some,
      Option.some.injEq]
    split_ifs <;> simp_all

/-- The senders seated are the club's, in its order. -/
theorem senders_eq (h : Mirrors accepted s C) (p : String) :
    accepted.filterMap (s.seat p) = C.seats.filterMap (C.seatIn p) := by
  rw [h.seats, List.filterMap_filter]
  refine List.filterMap_congr fun i _ => ?_
  rw [h.seat_eq]
  simp only [decide_eq_true_eq]

/-- **The rosters and the lists follow.** -/
theorem serves (h : Mirrors accepted s C) (hex : Exact accepted s) : Serves s C := by
  have hplays : ∀ p, (s.plays.get p).isSome ↔ (C.finder p).isSome := by
    intro p
    rw [← h.finder]
    constructor
    · intro hp
      obtain ⟨-, f, hf, -⟩ := hex.plays p hp
      rw [hf]
      rfl
    · intro hp
      obtain ⟨f, hf⟩ := Option.isSome_iff_exists.1 hp
      exact Server.isSome_of_finderId hf
  have hroster : ∀ p, s.playerInfo p = C.roster p := by
    intro p
    rw [Club.roster, ← h.senders_eq, ← h.finder]
    cases hd : s.plays.get p with
    | none => rw [Server.playerInfo, Server.finderId, hd]; rfl
    | some d =>
      obtain ⟨-, f, hf, hr, -⟩ := hex.plays p (by rw [hd]; rfl)
      rw [hf, hr, Option.map_some]
  refine ⟨hplays, h.finder, hroster, fun u d hd => ?_, fun _ => h.application_eq_none_iff,
    h.application, fun i d a hd ha => ?_, h.players⟩
  · obtain ⟨l, hl, hn, hmem⟩ := hex.lists u (by rw [hd]; rfl)
    rw [Server.myPlayList, hd, Option.bind_some] at hl
    refine ⟨l, hl, hn, fun p => ?_⟩
    rw [hmem, hroster]
    rfl
  · obtain ⟨-, v, q, -, hq, g, hg, hfg, -⟩ := hex.requests i d hd
    obtain ⟨b, hb, -, hbp, -⟩ := h.exists_application hd
    obtain rfl := Option.some.inj (ha.symm.trans hb)
    rw [hg, ← h.finder, ← hfg, Option.some.inj (hq.symm.trans hbp)]

/-! ## Each operation does what the club's does -/

/-- A store with the same requests shows the same applications. -/
theorem of_requests (h : Mirrors accepted s C) {C' : Club String String String}
    (hr : s'.requests = s.requests) (hf : ∀ q, s'.finderId q = C'.finder q)
    (ha : C'.application = C.application) (hs : C'.seats = C.seats) : Mirrors accepted s' C' where
  finder := hf
  decodes j d hd := h.decodes j d (hr ▸ hd)
  players j d hd := h.players j d (hr ▸ hd)
  application j := by
    rw [Server.application, hr, ha]
    exact h.application j
  seats := by
    simp only [Server.status, hr, hs]
    exact h.seats

/-- A play deleted with its requests is closed. -/
theorem close (h : Mirrors accepted s C)
    (hf : ∀ q, s'.finderId q = if q = p then none else s.finderId q)
    (hr : s'.requests = s.requests.keep fun e => !(e.2.string .playId == some p)) :
    Mirrors accepted s' (C.close p) := by
  have hget : ∀ j, s'.requests.get j =
      (s.requests.get j).filter fun d => !(d.string .playId == some p) := fun j => by
    rw [hr, Collection.get_keep]
  refine ⟨fun q => ?_, fun j d hd => ?_, fun j d hd => ?_, fun j => ?_, ?_⟩
  · rw [hf, h.finder]
    show _ = Function.update C.finder p none q
    by_cases hq : q = p
    · rw [if_pos hq, hq, Function.update_self]
    · rw [if_neg hq, Function.update_of_ne hq]
  · rw [hget] at hd
    exact h.decodes j d (Option.filter_eq_some_iff.1 hd).1
  · rw [hget] at hd
    exact h.players j d (Option.filter_eq_some_iff.1 hd).1
  · show _ = (C.application j).filter fun a => a.play ≠ p
    rw [Server.application, hget]
    cases hd : s.requests.get j with
    | none => rw [h.application_eq_none_iff.1 hd]; rfl
    | some d =>
      obtain ⟨a, ha, -, hp, -⟩ := h.exists_application hd
      have hda : Volleyer.application d = some a := by
        rw [← ha, ← h.application, Server.application, hd, Option.bind_some]
      by_cases hap : a.play = p
      · simp [ha, hp, hap, Option.filter]
      · simp [ha, hp, hap, hda, Option.filter]
  · show C.seats.filter (fun j => (C.seatIn p j).isNone) = _
    rw [h.seats, List.filter_filter]
    refine List.filter_congr fun j _ => ?_
    rw [Server.status, Server.status, hget, Club.seatIn]
    cases hd : s.requests.get j with
    | none => simp
    | some d =>
      obtain ⟨a, ha, -, hp, -⟩ := h.exists_application hd
      by_cases hap : a.play = p
      · simp [ha, hp, hap, Option.filter]
      · simp [ha, hp, hap, Option.filter]

/-- A request stored under a new id is entered. -/
theorem enter (h : Mirrors accepted s C) {play : Play} {now : Date} (hf : s'.finderId = s.finderId)
    (hr : s'.requests = s.requests.set i
      (Doc.setData (RequestDataManager.saveRequestData play (some u) now)))
    (hacc : i ∉ accepted) (hi : C.application i = none)
    (hp : ∃ f, C.finder play.id = some f ∧ u ≠ f)
    (hnew : ∀ j b, C.application j = some b → b.sender = u → b.play ≠ play.id) :
    Mirrors accepted s' (C.enter i u play.id hi hp hnew) := by
  have hget : ∀ j, s'.requests.get j = if j = i then
      some (Doc.setData (RequestDataManager.saveRequestData play (some u) now))
      else s.requests.get j := fun j => by rw [hr, Collection.get_set]
  refine ⟨fun q => (congrFun hf q).trans (h.finder q), fun j d hd => ?_, fun j d hd => ?_,
    fun j => ?_, ?_⟩
  · rw [hget] at hd
    split at hd
    · obtain rfl := Option.some.inj hd
      rfl
    · exact h.decodes j d hd
  · rw [hget] at hd
    split at hd
    · obtain rfl := Option.some.inj hd
      rfl
    · exact h.players j d hd
  · show _ = Function.update C.application i (some ⟨u, play.id, .waiting⟩) j
    rw [Server.application, hget]
    by_cases hj : j = i
    · rw [if_pos hj, hj, Function.update_self]
      rfl
    · rw [if_neg hj, Function.update_of_ne hj]
      exact h.application j
  · show C.seats = _
    rw [h.seats]
    refine List.filter_congr fun j hj => ?_
    have hji : j ≠ i := fun e => hacc (e ▸ hj)
    rw [Server.status, Server.status, hget, if_neg hji]

/-- A status written is an application judged. -/
theorem judge (h : Mirrors accepted s C) {n : ℤ} {m : Standing} {accepted' : List String}
    (hn : Standing.ofStatus n = some m) (hf : ∀ q, s'.finderId q = s.finderId q)
    (hr : s'.requests = (s.updateRequest i [(.status, .int n)]).requests)
    (hi : (s.requests.get i).isSome) (hnodup : accepted.Nodup)
    (hacc : accepted' = if n = 99 then accepted ++ [i] else accepted)
    (hnew : n = 99 → i ∉ accepted) : Mirrors accepted' s' (C.judge i m) := by
  obtain ⟨d, hd⟩ := Option.isSome_iff_exists.1 hi
  obtain ⟨a, ha, -⟩ := h.exists_application hd
  have hda : Volleyer.application d = some a := by
    rw [← ha, ← h.application, Server.application, hd, Option.bind_some]
  have hget : ∀ j, s'.requests.get j = if j = i then some (d.updateData [(.status, .int n)])
      else s.requests.get j := fun j => by
    rw [hr, Server.get_requests_updateRequest, hd, Option.map_some]
  have hstatus : ∀ j, s'.status j = if j = i then some n else s.status j := fun j => by
    rw [Server.status, hget]
    split
    · simp
    · rfl
  refine ⟨fun q => (hf q).trans (h.finder q), fun j e he => ?_, fun j e he => ?_, fun j => ?_, ?_⟩
  · rw [hget] at he
    split at he
    · obtain rfl := Option.some.inj he
      rw [application_updateData hda hn]
      rfl
    · exact h.decodes j e he
  · rw [hget] at he
    split at he
    · obtain rfl := Option.some.inj he
      rw [Doc.stringDicts, Doc.updateData_singleton_of_ne _ _ (by decide)]
      exact h.players i d hd
    · exact h.players j e he
  · show _ = Function.update C.application i _ j
    rw [Server.application, hget]
    by_cases hj : j = i
    · rw [if_pos hj, hj, Function.update_self, ha, Option.bind_some, Option.map_some,
        application_updateData hda hn]
    · rw [if_neg hj, Function.update_of_ne hj]
      exact h.application j
  · -- the seat is given up, and taken anew by an acceptance
    have hseated : m = .seated ↔ n = 99 := by
      rw [← Standing.ofStatus_eq_seated, hn, Option.some.injEq]
    have herase : (accepted.filter fun j => s.status j = some 99).erase i =
        accepted.filter fun j => decide (s.status j = some 99) && decide (j ≠ i) := by
      rw [(hnodup.filter _).erase_eq_filter, List.filter_filter]
      refine List.filter_congr fun j _ => ?_
      by_cases hj : j = i <;> simp [hj]
    show C.seats.erase i ++ (if m = .seated ∧ (C.application i).isSome then [i] else []) = _
    rw [h.seats, herase, hacc, ha]
    by_cases h99 : n = 99
    · rw [if_pos ⟨hseated.2 h99, rfl⟩, if_pos h99, List.filter_append]
      congr 1
      · refine List.filter_congr fun j hj => ?_
        have hji : j ≠ i := fun e => hnew h99 (e ▸ hj)
        simp [hstatus, hji]
      · simp [hstatus, h99]
    · rw [if_neg fun e => h99 (hseated.1 e.1), if_neg h99, List.append_nil]
      refine List.filter_congr fun j _ => ?_
      by_cases hji : j = i
      · simp [hstatus, hji, h99]
      · simp [hstatus, hji]

/-- The check of `saveRequest` passes where the sender has no application
for the play. -/
theorem canSendRequest_iff (h : Mirrors accepted s C) (hex : Exact accepted s) {play : Play}
    {f : String} (hf : s.finderId play.id = some f) (hplay : play.finderId = f) :
    RequestDataManager.canSendRequest play (some u)
      ((s.requestsOfPlay play.id).map Prod.snd) = true ↔
      ∀ j b, C.application j = some b → b.sender = u → b.play ≠ play.id := by
  simp only [RequestDataManager.canSendRequest, List.all_eq_true, List.mem_map, Prod.exists,
    exists_eq_right, forall_exists_index, Server.requestsOfPlay, Collection.mem_query, beq_iff_eq,
    Bool.not_eq_true', Bool.and_eq_false_iff, beq_eq_false_iff_ne, ne_eq]
  constructor
  · rintro hall j b hb rfl hbp
    obtain ⟨d, hd, hs, hp, -⟩ := h.exists_doc hb
    obtain ⟨-, v, q, -, hq, g, hg, hfg, -⟩ := hex.requests j d hd
    obtain rfl := Option.some.inj (hq.symm.trans (hp.trans (congrArg some hbp)))
    obtain rfl := Option.some.inj (hfg.symm.trans hf)
    rcases hall d j ⟨hd, hq⟩ with hne | hne
    · exact hne hs
    · exact hne (by rw [hg, hplay])
  · rintro hnew d j ⟨hd, hp⟩
    obtain ⟨b, hb, hbs, hbp, -⟩ := h.exists_application hd
    refine .inl fun hs => hnew j b hb ?_ ?_
    · exact Option.some.inj (hbs.symm.trans hs)
    · exact Option.some.inj (hbp.symm.trans hp)

/-- **A call does what its operation does**, its callbacks played out:
`s'` and `ts` are what it leaves and what it puts in flight. -/
def Follows (accepted : List String) (C : Club String String String) (a : Call) (s' : Server)
    (ts : List Task) : Prop :=
  ∃ C', optStep Club.step C (clubOp a) = some C' ∧
    Mirrors (accepted ++ (acceptCall (.call a)).toList) (ts.foldl effect s') C'

variable {play : Play} {now : Date} {request : PlayRequest} {status : ℤ} {ts : List Task}

/-- A play is saved, and posted. -/
theorem follows_savePlay (h : Mirrors accepted s C) (hex : Exact accepted s)
    (hi : issue s (.savePlay play i now) = some (s', ts)) :
    Follows accepted C (.savePlay play i now) s' ts := by
  obtain ⟨hnew, rfl, rfl⟩ := allocate_eq_some.1 hi
  have hnone : C.finder i = none := by
    rw [← h.finder, Server.finderId, hex.get_plays_eq_none hnew, Option.bind_none]
  refine ⟨C.post i play.finderId hnone, dif_pos hnone, ?_⟩
  rw [append_acceptCall rfl]
  refine h.of_requests rfl (fun q => ?_) rfl rfl
  show ((s.plays.set i _).get q).bind _ = Function.update C.finder i (some play.finderId) q
  rw [Collection.get_set]
  by_cases hq : q = i
  · rw [if_pos hq, hq, Function.update_self]
    rfl
  · rw [if_neg hq, Function.update_of_ne hq]
    exact h.finder q

/-- A play is changed, and the club is as it was. -/
theorem follows_updatePlay (h : Mirrors accepted s C)
    (hi : issue s (.updatePlay play) = some (s', ts)) :
    Follows accepted C (.updatePlay play) s' ts := by
  obtain ⟨rfl, rfl⟩ := Prod.mk.inj (Option.some.inj hi)
  refine ⟨C, rfl, ?_⟩
  rw [append_acceptCall rfl]
  refine h.of_requests rfl (fun q => ?_) rfl rfl
  rw [← h.finder]
  show ((s.plays.modify play.id _).get q).bind _ = _
  rw [Collection.get_modify, Server.finderId]
  split
  · rename_i hq
    subst hq
    cases s.plays.get play.id <;> rfl
  · rfl

/-- A play is deleted, and closed. -/
theorem follows_deletePlay (h : Mirrors accepted s C) (hex : Exact accepted s)
    (ha : CurrentCall s (.deletePlay play)) (hi : issue s (.deletePlay play) = some (s', ts)) :
    Follows accepted C (.deletePlay play) s' ts := by
  obtain ⟨rfl, rfl⟩ := Prod.mk.inj (Option.some.inj hi)
  obtain ⟨d, t, hd, -⟩ := ha
  obtain ⟨-, f, hf, -⟩ := hex.plays play.id (by rw [hd]; rfl)
  refine ⟨C.close play.id, if_pos (by rw [← h.finder, hf]; rfl), ?_⟩
  rw [append_acceptCall rfl, foldl_effect_deletePlay]
  refine h.close (fun q => ?_) rfl
  show (Collection.get _ q).bind _ = _
  rw [(foldl_editUser_frame _ play.id _).1, Collection.get_delete]
  split <;> rfl

/-- A request is saved, and entered, where the sender has none for the play. -/
theorem follows_saveRequest (h : Mirrors accepted s C) (hex : Exact accepted s)
    {players : List Player} {me : Option String}
    (ha : CurrentCall s (.saveRequest play players me i now))
    (hi : issue s (.saveRequest play players me i now) = some (s', ts)) :
    Follows accepted C (.saveRequest play players me i now) s' ts := by
  obtain ⟨hnew, rfl, rfl⟩ := allocate_eq_some.1 hi
  obtain ⟨⟨d, t, hd, hdec⟩, u, rfl, hu⟩ := ha
  obtain ⟨-, f, hf, -⟩ := hex.plays play.id (by rw [hd]; rfl)
  have hplay : play.finderId = f := by
    rw [Server.finderId, hd, Option.bind_some] at hf
    rw [← hdec]
    simp only [decodePlay, hf, Option.getD_some]
  have hnone : C.application i = none := by
    rw [← h.application_eq_none_iff, ← Option.not_isSome_iff_eq_none, Option.isSome_iff_exists]
    rintro ⟨e, he⟩
    exact hnew (hex.requests i e he).1
  have henabled : C.application i = none ∧ ∃ f, C.finder play.id = some f ∧ u ≠ f :=
    ⟨hnone, f, by rw [← h.finder, hf], hplay ▸ hu⟩
  refine ⟨_, dif_pos henabled, ?_⟩
  rw [append_acceptCall rfl]
  have hsend := h.canSendRequest_iff (u := u) hex hf hplay
  show Mirrors accepted (effect { s with allocated := i :: s.allocated }
    (.querySameRequest i (RequestDataManager.saveRequestData play (some u) now) play
      (some u))) _
  rw [effect]
  split
  · rename_i hs
    rw [dif_pos (hsend.1 hs)]
    exact h.enter (by rfl) (by rfl) (fun hj => hnew (hex.known i hj).1) _ _ _
  · rename_i hs
    rw [dif_neg fun hn => hs (hsend.2 hn)]
    exact h.of_requests rfl h.finder rfl rfl

/-- A pending request is accepted, and seated, or denied, and declined. -/
theorem follows_updateRequest (h : Mirrors accepted s C) (hex : Exact accepted s)
    (ha : CurrentCall s (.updateRequest request status))
    (hi : issue s (.updateRequest request status) = some (s', ts)) :
    Follows accepted C (.updateRequest request status) s' ts := by
  obtain ⟨rfl, rfl⟩ := Prod.mk.inj (Option.some.inj hi)
  obtain ⟨hcur, h0, hst⟩ := ha
  obtain ⟨d, hd, -⟩ := hcur.exists_doc
  obtain ⟨b, hb, -, -, hbs⟩ := h.exists_application hd
  have hwaiting : (C.application request.id).map (·.standing) = some .waiting := by
    rw [Server.status, hd, Option.bind_some] at h0
    rw [hb, Option.map_some, ← hbs, h0]
    rfl
  have hfresh : request.id ∉ accepted := fun hm => (hex.known _ hm).2 h0
  have hsome : (s.requests.get request.id).isSome := by rw [hd]; rfl
  show ∃ C', _ ∧ Mirrors _ (effect s (.updateStatus request status)) C'
  rcases hst with rfl | rfl
  · refine ⟨_, if_pos hwaiting, ?_⟩
    simp only [effect, hd, if_true]
    have hre := s.reseated request.id 99 .append request.playId request.requestSenderId
    exact h.judge rfl hre.finderId hre.requests hsome hex.nodup rfl fun _ => hfresh
  · refine ⟨_, if_pos hwaiting, ?_⟩
    rw [append_acceptCall rfl]
    simp only [effect, hd]
    exact h.judge rfl (fun _ => rfl) rfl hsome hex.nodup rfl fun e => absurd e (by decide)

/-- A request is cancelled, and withdrawn. -/
theorem follows_cancelRequest (h : Mirrors accepted s C) (hex : Exact accepted s)
    (ha : CurrentCall s (.cancelRequest request))
    (hi : issue s (.cancelRequest request) = some (s', ts)) :
    Follows accepted C (.cancelRequest request) s' ts := by
  obtain ⟨rfl, rfl⟩ := Prod.mk.inj (Option.some.inj hi)
  obtain ⟨hcur, hst⟩ := ha
  obtain ⟨d, hd, -⟩ := hcur.exists_doc
  obtain ⟨b, hb, -, -, hbs⟩ := h.exists_application hd
  have hstanding : ∃ a, C.application request.id = some a ∧ a.standing ≠ .withdrawn := by
    refine ⟨b, hb, fun hw => hst ?_⟩
    rw [hw] at hbs
    obtain ⟨n, hn, hnw⟩ := Option.bind_eq_some_iff.1 hbs
    rw [Server.status, hd, Option.bind_some, hn, Standing.ofStatus_eq_withdrawn.1 hnw]
  have hsome : (s.requests.get request.id).isSome := by rw [hd]; rfl
  refine ⟨_, if_pos hstanding, ?_⟩
  rw [append_acceptCall rfl]
  show Mirrors accepted (effect s (.cancelStatus request)) _
  simp only [effect, hd]
  split
  · have hre := s.reseated request.id (-1) .remove request.playId request.requestSenderId
    exact h.judge rfl hre.finderId hre.requests hsome hex.nodup rfl fun e => absurd e (by decide)
  · exact h.judge rfl (fun _ => rfl) rfl hsome hex.nodup rfl fun e => absurd e (by decide)

/-- **A call on current values does what its operation does.** -/
theorem call (h : Mirrors accepted s C) (hex : Exact accepted s) {a : Call}
    (ha : CurrentCall s a) (hi : issue s a = some (s', ts)) : Follows accepted C a s' ts := by
  cases a with
  | savePlay play i now => exact h.follows_savePlay hex hi
  | updatePlay play => exact h.follows_updatePlay hi
  | deletePlay play => exact h.follows_deletePlay hex ha hi
  | saveRequest play players me i now => exact h.follows_saveRequest hex ha hi
  | updateRequest request status => exact h.follows_updateRequest hex ha hi
  | cancelRequest request => exact h.follows_cancelRequest hex ha hi

/-- An empty store shows the club nobody has used. -/
theorem empty (hplays : ∀ p, s.plays.get p = none) (hrequests : ∀ r, s.requests.get r = none) :
    Mirrors [] s Club.empty where
  finder p := by rw [Server.finderId, hplays, Option.bind_none]; rfl
  decodes i d hd := by rw [hrequests] at hd; cases hd
  players i d hd := by rw [hrequests] at hd; cases hd
  application i := by rw [Server.application, hrequests, Option.bind_none]; rfl
  seats := rfl

end Mirrors

/-! ## Runs -/

/-- What a run of calls taken one at a time leads the club to, and the
callbacks still in flight the store. -/
theorem mirrors_of_serial {s₀ : Server} {evs : List (Event Call Reply)} {c : Config Server Task}
    (hkeyed : s₀.UsersKeyed)
    (hlists : ∀ u d, s₀.users.get u = some d → d.strings .myPlayList = some [])
    (hplays : ∀ p, s₀.plays.get p = none) (hrequests : ∀ r, s₀.requests.get r = none)
    (hrun : roster.Run Serial (Config.start s₀) evs c) :
    ∃ C, (evs.filterMap (Event.op clubOp)).foldlM Club.step Club.empty = some C ∧
      ∃ accepted, Exact accepted (c.settled effect) ∧ Mirrors accepted (c.settled effect) C := by
  refine settles.refines (R := fun s C => ∃ accepted, Exact accepted s ∧ Mirrors accepted s C)
    hrun rfl hkeyed ⟨[], Exact.empty hlists hplays hrequests, Mirrors.empty hplays hrequests⟩
    (fun _ _ h => h.1) (fun _ _ _ h _ _ => h) ?_
  rintro c a s ts C hg ⟨accepted, hex, hmirrors⟩ hok hi
  obtain ⟨hap, hex'⟩ := hex.call hok.2 hi
  obtain ⟨C', hstep, hmirrors'⟩ := hmirrors.call hex hok.2 hi
  exact ⟨hg.issue hi, hap, C', hstep, _, hex', hmirrors'⟩

/-- **The roster refines the club.** From users with empty lists, no plays
and no requests, take any calls one at a time on current values, and
answer what they put in flight in any order. The operations of the calls
are then enabled one after the other, and whenever nothing is in flight
the stored rosters, lists and requests are those of the club they lead
to. -/
theorem serves_of_serial {s₀ : Server} {evs : List (Event Call Reply)} {c : Config Server Task}
    (hkeyed : s₀.UsersKeyed)
    (hlists : ∀ u d, s₀.users.get u = some d → d.strings .myPlayList = some [])
    (hplays : ∀ p, s₀.plays.get p = none) (hrequests : ∀ r, s₀.requests.get r = none)
    (hrun : roster.Run Serial (Config.start s₀) evs c) :
    ∃ C, (evs.filterMap (Event.op clubOp)).foldlM Club.step Club.empty = some C ∧
      (c.pending = [] → Serves c.state C) := by
  obtain ⟨C, hC, accepted, hex, hmirrors⟩ := mirrors_of_serial hkeyed hlists hplays hrequests hrun
  refine ⟨C, hC, fun hdone => ?_⟩
  rw [Config.settled_of_pending_nil hdone] at hex hmirrors
  exact hmirrors.serves hex

/-- A play is published, asked to be joined, joined and left again, the
callbacks of the last two operations out of order. -/
def Sample.leave : List (Event Call Reply) :=
  [.call (.savePlay (Sample.play "" []) "p" ⟨0, 0⟩), .answer 0 .ok, .answer 0 .ok, .answer 0 .ok,
    .call (.saveRequest (Sample.play "p" ["f"]) [] (some "u") "r" ⟨0, 0⟩), .answer 0 .ok,
    .answer 0 .ok, .call (.updateRequest (Sample.request "r" "u" "p" 0) 99), .answer 0 .ok,
    .answer 1 .ok, .answer 0 .ok, .answer 1 .ok, .answer 0 .ok,
    .call (.cancelRequest (Sample.request "r" "u" "p" 99)), .answer 0 .ok, .answer 1 .ok,
    .answer 1 .ok, .answer 0 .ok, .answer 0 .ok]

/-- Where it leads. -/
def Sample.left : Config Server Task :=
  (roster.exec (Config.start Sample.twoUsers) Sample.leave).getD (Config.start Sample.twoUsers)

/-- It is serial. -/
theorem Sample.run_leave :
    roster.Run Serial (Config.start Sample.twoUsers) Sample.leave Sample.left :=
  .of_exec ⟨⟨rfl, trivial⟩, rfl, rfl, rfl, ⟨rfl, ⟨_, ⟨0, 0⟩, rfl, rfl⟩, "u", rfl, by decide⟩,
    rfl, rfl, ⟨rfl, ⟨_, ⟨0, 0⟩, rfl, .inl rfl⟩, rfl, .inl rfl⟩, rfl, rfl, rfl, rfl, rfl,
    ⟨rfl, ⟨_, ⟨0, 0⟩, rfl, .inl rfl⟩, by decide⟩, rfl, rfl, rfl, rfl, rfl, trivial⟩ rfl

/-- It leads the club through its four operations, to a play with its
finder alone. -/
theorem serves_leave : ∃ C,
    roster.exec (Config.start Sample.twoUsers) Sample.leave = some Sample.left ∧
    [ClubOp.post "p" "f", .apply "r" "u" "p", .seat "r", .withdraw "r"].foldlM Club.step
      (Club.empty : Club String String String) = some C ∧
    C.roster "p" = some ["f"] ∧ Serves Sample.left.state C := by
  obtain ⟨C, hC, hserves⟩ := serves_of_serial (Sample.usersKeyed (by decide) rfl)
    (Sample.strings_of_get_users (by decide) rfl (by decide)) (fun _ => rfl) (fun _ => rfl)
    Sample.run_leave
  have h := hserves rfl
  exact ⟨C, rfl, hC, (h.roster "p").symm, h⟩

end Volleyer
