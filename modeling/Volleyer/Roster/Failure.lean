import Volleyer.Roster.Sample
import Volleyer.Roster.Settle

/-!
# The roster — an operation some of whose requests fail

An acceptance or a cancellation writes the status and then edits two
lists, each by a read and a write; whatever fails is printed and left. So
one operation makes up to five Firestore requests, and `Choice` says which
of them fail. The order of the callbacks still does not matter: under any
choice the roster machine settles, and the outcome is read off the choice
(`Decision.state_of_alone`).
-/

namespace Volleyer

variable {s s₀ : Server} {ch : Choice} {request : PlayRequest}

/-- **Which of the requests of an operation fail.** -/
structure Choice where
  status : Reply
  readList : Reply
  writeList : Reply
  readRoster : Reply
  writeRoster : Reply

namespace Choice

/-- The answer to each task under a choice. -/
def reply (ch : Choice) : Task → Reply
  | .updateStatus _ _ => ch.status
  | .cancelStatus _ => ch.status
  | .getUsers _ _ _ => ch.readList
  | .setMyPlayList _ _ => ch.writeList
  | .getPlay _ _ _ => ch.readRoster
  | .setPlayerInfo _ _ => ch.writeRoster
  | _ => .ok

/-- A helper's edit of a user's list under a choice. -/
def editUser (ch : Choice) (s : Server) (e : ListEdit) (playId userId : String) : Server :=
  if ch.readList = .ok ∧ ch.writeList = .ok then s.editUser e playId userId else s

/-- A helper's edit of a roster under a choice. -/
def editPlay (ch : Choice) (s : Server) (e : ListEdit) (userId playId : String) : Server :=
  if ch.readRoster = .ok ∧ ch.writeRoster = .ok then s.editPlay e userId playId else s

/-- A write of a status under a choice, and both edits after it. -/
def settle (ch : Choice) (s : Server) (request : PlayRequest) (status : ℤ) (e : ListEdit) :
    Server :=
  ch.editPlay (ch.editUser (s.updateRequest request.id [(.status, .int status)]) e request.playId
    request.requestSenderId) e request.requestSenderId request.playId

/-- **What a task does alone under a choice**, all of its callbacks
included. -/
def outcome (ch : Choice) (s : Server) : Task → Server
  | .setPlay documentID data finderId =>
      ch.editUser { s with plays := s.plays.set documentID (Doc.setData data) }
        .append documentID finderId
  | .updateStatus request status =>
      if ch.status = .failed ∨ s.requests.get request.id = none then s
      else if status = 99 then ch.settle s request status .append
      else s.updateRequest request.id [(.status, .int status)]
  | .cancelStatus request =>
      if ch.status = .failed ∨ s.requests.get request.id = none then s
      else if request.status = 99 then ch.settle s request (-1) .remove
      else s.updateRequest request.id [(.status, .int (-1))]
  | .getUsers edit playId userId => ch.editUser s edit playId userId
  | .setMyPlayList documentID myPlayList =>
      if ch.writeList = .ok then effect s (.setMyPlayList documentID myPlayList) else s
  | .getPlay edit userId playId => ch.editPlay s edit userId playId
  | .setPlayerInfo documentID playInfo =>
      if ch.writeRoster = .ok then effect s (.setPlayerInfo documentID playInfo) else s
  | t => effect s t

/-- A task on one document does what it would without failures, or
nothing. -/
theorem outcome_of_lane (ch : Choice) {t : Task} {a : Lane} (h : t.lane = some a) :
    (∀ s, ch.outcome s t = effect s t) ∨ ∀ s, ch.outcome s t = s := by
  have hite : ∀ (P : Prop) [Decidable P] (f : Server → Server),
      (∀ s, (if P then f s else s) = f s) ∨ ∀ s, (if P then f s else s) = s := by
    intro P _ f
    by_cases hP : P
    · exact Or.inl fun s => if_pos hP
    · exact Or.inr fun s => if_neg hP
  cases t with
  | getUsers e p u => exact hite _ fun s => s.editUser e p u
  | setMyPlayList u l => exact hite _ fun s => effect s (.setMyPlayList u l)
  | getPlay e u p => exact hite _ fun s => s.editPlay e u p
  | setPlayerInfo p l => exact hite _ fun s => effect s (.setPlayerInfo p l)
  | updatePlay | deletePlay | queryRequests | deleteRequest => exact Or.inl fun _ => rfl
  | setPlay | querySameRequest | setRequest | updateStatus | cancelStatus => cases h

/-- **Tasks that are apart commute under any choice.** -/
theorem outcome_comm {t t' : Task} (h : Apart t t') (s : Server) :
    ch.outcome (ch.outcome s t) t' = ch.outcome (ch.outcome s t') t := by
  have hcomm := effect_comm h s
  obtain ⟨a, b, ha, hb, -⟩ := h
  rcases ch.outcome_of_lane ha with h₁ | h₁ <;> rcases ch.outcome_of_lane hb with h₂ | h₂ <;>
    simp only [h₁, h₂]
  exact hcomm

/-- The write a read puts in flight, under a choice. -/
theorem foldl_outcome_toList {o : Option (List String)} {f : List String → Task} {w : Reply}
    (hf : ∀ s l, ch.outcome s (f l) = if w = .ok then effect s (f l) else s) (s : Server) :
    (o.toList.map f).foldl ch.outcome s =
      if w = .ok then (o.toList.map f).foldl effect s else s := by
  cases o with
  | none => simp
  | some l => exact hf s l

/-- **One answer unfolds an outcome.** -/
theorem outcome_unfold (h : s.UsersKeyed) (t : Task) :
    ch.outcome s t = (answer s t (ch.reply t)).2.foldl ch.outcome (answer s t (ch.reply t)).1 := by
  cases t with
  | setPlay i data f => rfl
  | updateStatus request n =>
    simp only [outcome, reply]
    cases hst : ch.status with
    | failed => rfl
    | ok =>
      cases hd : s.requests.get request.id with
      | none => simp [answerOk, hd]
      | some d =>
        simp only [answer_ok, answerOk, hd, reduceCtorEq, or_self, if_false]
        split <;> rfl
  | cancelStatus request =>
    simp only [outcome, reply]
    cases hst : ch.status with
    | failed => rfl
    | ok =>
      cases hd : s.requests.get request.id with
      | none => simp [answerOk, hd]
      | some d =>
        simp only [answer_ok, answerOk, hd, reduceCtorEq, or_self, if_false]
        split <;> rfl
  | getUsers e p u =>
    simp only [outcome, reply, editUser]
    cases hr : ch.readList with
    | failed => rfl
    | ok =>
      rw [answer_ok, answerOk_getUsers (h.keyedAt u),
        foldl_outcome_toList (w := ch.writeList) fun _ _ => rfl, foldl_effect_setMyPlayList]
      simp
  | setMyPlayList u l =>
    simp only [outcome, reply]
    cases hw : ch.writeList <;> rfl
  | getPlay e u p =>
    simp only [outcome, reply, editPlay]
    cases hr : ch.readRoster with
    | failed => rfl
    | ok =>
      rw [answer_ok, answerOk_getPlay,
        foldl_outcome_toList (w := ch.writeRoster) fun _ _ => rfl, foldl_effect_setPlayerInfo]
      simp
  | setPlayerInfo p l =>
    simp only [outcome, reply]
    cases hw : ch.writeRoster <;> rfl
  | queryRequests p =>
    have hall : ∀ (l : List (String × Doc PlayRequestTitle)) (s : Server),
        (l.map fun d => Task.deleteRequest d.1).foldl ch.outcome s =
          (l.map fun d => Task.deleteRequest d.1).foldl effect s := by
      intro l
      induction l with
      | nil => exact fun _ => rfl
      | cons d l ih => exact fun s => ih _
    have hunfold := effect_unfold (h.keyedFor (.queryRequests p))
    exact hunfold.trans (hall _ _).symm
  | querySameRequest i data play me =>
    have hunfold := effect_unfold (h.keyedFor (.querySameRequest i data play me))
    refine hunfold.trans ?_
    simp only [reply, answer_ok, answerOk_querySameRequest]
    split <;> rfl
  | updatePlay | deletePlay | setRequest | deleteRequest => rfl

/-- **The roster machine settles under any choice.** -/
theorem settles (ch : Choice) : Settles roster ch.reply Server.UsersKeyed ch.outcome Apart where
  symm := Apart.symm
  comm h s := outcome_comm h s
  unfold {_ t} h := outcome_unfold h t
  good {_ t} h := h.answer t _
  spawn {s} h t := by
    rw [roster_answer]
    cases ch.reply t with
    | ok => exact pairwise_answerOk (h.keyedFor t)
    | failed => exact List.Pairwise.nil
  inherit {s t t' u} h htu ht' := by
    obtain ⟨a, b, ha, hb, hab⟩ := htu
    rw [roster_answer] at ht'
    cases hr : ch.reply t with
    | ok =>
      rw [hr] at ht'
      exact ⟨a, b, lane_of_mem_answerOk (h.keyedFor t) ha ht', hb, hab⟩
    | failed =>
      rw [hr] at ht'
      cases ht'

end Choice

/-! ## One decision, alone -/

/-- The two operations that change who plays. -/
inductive Decision
  | accept
  | cancel

namespace Decision

def call (request : PlayRequest) : Decision → Call
  | accept => .updateRequest request 99
  | cancel => .cancelRequest request

/-- The status a decision stores. -/
def status : Decision → ℤ
  | accept => 99
  | cancel => -1

/-- What a decision does to each of the two lists. -/
def edit : Decision → ListEdit
  | accept => .append
  | cancel => .remove

/-- What a decision is taken on: a pending request is accepted, an
accepted one cancelled. -/
def TakenOn (s : Server) (request : PlayRequest) : Decision → Prop
  | accept => s.status request.id = some 0
  | cancel => s.status request.id = some 99 ∧ request.status = 99

end Decision

/-- One operation alone, its requests answered as chosen. -/
def Alone (ch : Choice) (c : Config Server Task) : Event Call Reply → Prop
  | .call _ => c.past = []
  | .answer i r => ∀ t, c.pending[i]? = some t → r = ch.reply t

/-- **What one decision leaves.** Whatever fails and in whatever order the
callbacks run, the store is as before or it has the status and those of
the two edits whose read and write succeeded. -/
theorem Decision.state_of_alone {d : Decision} {evs : List (Event Call Reply)}
    {c : Config Server Task} (hkeyed : s₀.UsersKeyed) (hd : d.TakenOn s₀ request)
    (hrun : roster.Run (Alone ch) (Config.start s₀) (.call (d.call request) :: evs) c)
    (hdone : c.pending = []) :
    c.state = if ch.status = .failed then s₀ else ch.settle s₀ request d.status d.edit := by
  obtain ⟨c₁, -, hstep, hrest⟩ := hrun.cons_inv
  obtain ⟨s, ts, hi, rfl⟩ := Machine.step_call.1 hstep
  have hinv := hrest.invariant
    (I := fun c => c.past ≠ [] ∧ c.settled ch.outcome = ts.foldl ch.outcome s ∧
      c.state.UsersKeyed ∧ c.pending.Pairwise Apart) ?_ ?_
  · obtain ⟨-, hsettled, -, -⟩ := hinv
    rw [Config.settled_of_pending_nil hdone] at hsettled
    rw [hsettled]
    have hstored : s₀.requests.get request.id ≠ none := by
      intro hnone
      have hstatus : s₀.status request.id = none := by
        rw [Server.status, hnone, Option.bind_none]
      cases d with
      | accept => exact absurd (hstatus.symm.trans hd) (by simp)
      | cancel => exact absurd (hstatus.symm.trans hd.1) (by simp)
    cases d with
    | accept =>
      obtain ⟨rfl, rfl⟩ := Prod.mk.inj (Option.some.inj hi)
      simp only [RequestDataManager.updateRequest, List.foldl_cons, List.foldl_nil, Choice.outcome,
        Config.start_state, hstored, or_false, if_true]
      rfl
    | cancel =>
      obtain ⟨rfl, rfl⟩ := Prod.mk.inj (Option.some.inj hi)
      simp only [RequestDataManager.cancelRequest, List.foldl_cons, List.foldl_nil, Choice.outcome,
        Config.start_state, hstored, or_false, hd.2, if_true]
      rfl
  · refine ⟨by simp [Config.seen], ?_, hkeyed.issue hi, ?_⟩
    · rw [Config.settled, Config.start_pending, List.nil_append]
    · cases d <;> obtain ⟨-, rfl⟩ := Prod.mk.inj (Option.some.inj hi) <;>
        simp [RequestDataManager.updateRequest, RequestDataManager.cancelRequest]
  · rintro c e c' ⟨hpast, hsettled, hkeyed, hapart⟩ hok hs
    cases e with
    | call a => exact absurd hok hpast
    | answer i r =>
      obtain ⟨hs₁, hk, hp⟩ := (Choice.settles ch).settled_answer hkeyed hapart hok hs
      exact ⟨by rw [Machine.step_past hs]; simp [Config.seen], hs₁.trans hsettled, hk, hp⟩

/-! ## All or nothing -/

/-- **All or nothing**: the store is as before, or it has the status and
both lists are edited. -/
def AllOrNothing (d : Decision) (request : PlayRequest) (s₀ s : Server) : Prop :=
  s = s₀ ∨ s.status request.id = some d.status ∧
    (∃ l l', s₀.myPlayList request.requestSenderId = some l ∧
      d.edit.callback request.playId l = some l' ∧
      s.myPlayList request.requestSenderId = some l') ∧
    ∃ l l', s₀.playerInfo request.playId = some l ∧
      d.edit.callback request.requestSenderId l = some l' ∧
      s.playerInfo request.playId = some l'

/-- A list is there, and its read and its write succeed or change
nothing. -/
def Covered (d : Decision) (x : String) (read write : Reply) (o : Option (List String)) : Prop :=
  ∃ l, o = some l ∧ (read = .ok ∧ write = .ok ∨ d.edit.callback x l = some l)

/-- A decision writes a list back whatever it reads. -/
theorem Decision.callback_eq (d : Decision) (x : String) (l : List String) :
    d.edit.callback x l = some ((d.edit.callback x l).getD l) := by
  cases d
  · rfl
  · rw [Decision.edit, ListEdit.callback_remove, Option.getD_some]

namespace Choice

variable {e : ListEdit} {n : ℤ}

theorem status_settle (h : (s.requests.get request.id).isSome) :
    (ch.settle s request n e).status request.id = some n := by
  have hstatus : (ch.settle s request n e).status request.id =
      (s.updateRequest request.id [(.status, .int n)]).status request.id := by
    simp only [settle, editPlay, editUser]
    split <;> split <;> rfl
  obtain ⟨d, hd⟩ := Option.isSome_iff_exists.1 h
  rw [hstatus, Server.status_updateRequest, if_pos rfl, hd, Option.map_some]

theorem myPlayList_settle :
    (ch.settle s request n e).myPlayList request.requestSenderId =
      if ch.readList = .ok ∧ ch.writeList = .ok then
        (s.myPlayList request.requestSenderId).map fun l => (e.callback request.playId l).getD l
      else s.myPlayList request.requestSenderId := by
  have huser : (ch.settle s request n e).myPlayList request.requestSenderId =
      (ch.editUser (s.updateRequest request.id [(.status, .int n)]) e request.playId
        request.requestSenderId).myPlayList request.requestSenderId := by
    simp only [settle, editPlay]
    split <;> rfl
  rw [huser, editUser]
  split
  · rw [Server.myPlayList_editUser, if_pos rfl]
    rfl
  · rfl

theorem playerInfo_settle :
    (ch.settle s request n e).playerInfo request.playId =
      if ch.readRoster = .ok ∧ ch.writeRoster = .ok then
        (s.playerInfo request.playId).map fun l => (e.callback request.requestSenderId l).getD l
      else s.playerInfo request.playId := by
  have hplay : (ch.editUser (s.updateRequest request.id [(.status, .int n)]) e request.playId
      request.requestSenderId).playerInfo request.playId = s.playerInfo request.playId := by
    rw [editUser]
    split <;> rfl
  rw [settle, editPlay]
  split
  · rw [Server.playerInfo_editPlay, if_pos rfl, hplay]
  · exact hplay

end Choice

/-- A list after an edit that may have failed is the edited one exactly
when it is covered. -/
theorem exists_edited_iff {d : Decision} {x : String} {read write : Reply}
    {o : Option (List String)} :
    (∃ l l', o = some l ∧ d.edit.callback x l = some l' ∧
      (if read = .ok ∧ write = .ok then o.map fun l => (d.edit.callback x l).getD l else o) =
        some l') ↔ Covered d x read write o := by
  constructor
  · rintro ⟨l, l', rfl, hl', hedit⟩
    refine ⟨l, rfl, ?_⟩
    by_cases hok : read = .ok ∧ write = .ok
    · exact Or.inl hok
    · rw [if_neg hok, Option.some.injEq] at hedit
      exact Or.inr (hedit ▸ hl')
  · rintro ⟨l, rfl, hl⟩
    refine ⟨l, _, rfl, d.callback_eq x l, ?_⟩
    split
    · rfl
    · rename_i hok
      rw [hl.resolve_left hok, Option.getD_some]

/-- **An operation alone.** A pending request is accepted, or an accepted
one cancelled, and any of the requests this makes may fail. If the status
is not written nothing is; if it is, each list is edited exactly when its
own read and write succeed. So it is all or nothing exactly when the
status is not written or both lists are covered. -/
theorem allOrNothing_iff {d : Decision} {evs : List (Event Call Reply)} {c : Config Server Task}
    (hkeyed : s₀.UsersKeyed) (hd : d.TakenOn s₀ request)
    (hrun : roster.Run (Alone ch) (Config.start s₀) (.call (d.call request) :: evs) c)
    (hdone : c.pending = []) :
    (ch.status = .failed → c.state = s₀) ∧
    (ch.status = .ok → c.state.status request.id = some d.status ∧
      c.state.myPlayList request.requestSenderId =
        (if ch.readList = .ok ∧ ch.writeList = .ok then
          (s₀.myPlayList request.requestSenderId).map fun l =>
            (d.edit.callback request.playId l).getD l
        else s₀.myPlayList request.requestSenderId) ∧
      c.state.playerInfo request.playId =
        (if ch.readRoster = .ok ∧ ch.writeRoster = .ok then
          (s₀.playerInfo request.playId).map fun l =>
            (d.edit.callback request.requestSenderId l).getD l
        else s₀.playerInfo request.playId)) ∧
    (AllOrNothing d request s₀ c.state ↔ ch.status = .failed ∨
      Covered d request.playId ch.readList ch.writeList
          (s₀.myPlayList request.requestSenderId) ∧
        Covered d request.requestSenderId ch.readRoster ch.writeRoster
          (s₀.playerInfo request.playId)) := by
  have hstate := Decision.state_of_alone hkeyed hd hrun hdone
  cases hst : ch.status with
  | failed =>
    rw [hst, if_pos rfl] at hstate
    exact ⟨fun _ => hstate, nofun, iff_of_true (Or.inl hstate) (Or.inl rfl)⟩
  | ok =>
    rw [hst, if_neg (by simp)] at hstate
    have hold : ∃ n, s₀.status request.id = some n ∧ n ≠ d.status := by
      cases d with
      | accept => exact ⟨0, hd, by decide⟩
      | cancel => exact ⟨99, hd.1, by decide⟩
    obtain ⟨n, hn, hne⟩ := hold
    have hstored : (s₀.requests.get request.id).isSome := by
      obtain ⟨b, hb, -⟩ := Option.bind_eq_some_iff.1 hn
      rw [hb]
      rfl
    have hstatus : c.state.status request.id = some d.status := by
      rw [hstate, Choice.status_settle hstored]
    have hlist := hstate ▸ Choice.myPlayList_settle
    have hroster := hstate ▸ Choice.playerInfo_settle
    refine ⟨nofun, fun _ => ⟨hstatus, hlist, hroster⟩, ?_⟩
    rw [AllOrNothing, hlist, hroster, exists_edited_iff, exists_edited_iff]
    -- the status tells the store from the one before
    have hchanged : c.state ≠ s₀ := by
      intro heq
      rw [heq, hn, Option.some.injEq] at hstatus
      exact hne hstatus
    simp only [hchanged, hstatus, false_or, true_and, reduceCtorEq]

namespace Sample

/-- Nothing fails but the write of the roster. -/
def rosterFails : Choice := ⟨.ok, .ok, .ok, .ok, .failed⟩

/-- Nothing fails. -/
def nothingFails : Choice := ⟨.ok, .ok, .ok, .ok, .ok⟩

/-- A player who has another play, and an accepted request. -/
def playing : Server :=
  store (users [("f", ["p"]), ("u", ["q", "p"])] (by simp)) (plays [play "p" ["f", "u", "v"]]
    (by simp)) (requests [Sample.request "r" "u" "p" 99] (by simp))

end Sample

/-- A cancellation that takes the play off the player's list, and the player
off the roster. -/
theorem allOrNothing_cancel : ∃ c, roster.exec (Config.start Sample.playing)
    [.call (.cancelRequest (Sample.request "r" "u" "p" 99)), .answer 0 .ok, .answer 0 .ok,
      .answer 0 .ok, .answer 0 .ok, .answer 0 .ok] = some c ∧
    c.state.status "r" = some (-1) ∧ c.state.myPlayList "u" = some ["q"] ∧
    c.state.playerInfo "p" = some ["f", "v"] ∧
    AllOrNothing .cancel (Sample.request "r" "u" "p" 99) Sample.playing c.state := by
  have hrun : roster.Run (Alone Sample.nothingFails) (Config.start Sample.playing)
      (.call (Decision.cancel.call (Sample.request "r" "u" "p" 99)) ::
        [.answer 0 .ok, .answer 0 .ok, .answer 0 .ok, .answer 0 .ok, .answer 0 .ok]) _ :=
    .of_exec ⟨rfl, by rintro t ⟨⟩; rfl, by rintro t ⟨⟩; rfl, by rintro t ⟨⟩; rfl,
      by rintro t ⟨⟩; rfl, by rintro t ⟨⟩; rfl, trivial⟩ rfl
  have htaken : Decision.cancel.TakenOn Sample.playing (Sample.request "r" "u" "p" 99) :=
    ⟨rfl, rfl⟩
  refine ⟨_, rfl, rfl, rfl, rfl, (allOrNothing_iff (Sample.usersKeyed (by simp) rfl) htaken hrun
    rfl).2.2.2 (Or.inr ⟨⟨["q", "p"], rfl, Or.inl ⟨rfl, rfl⟩⟩, ["f", "u", "v"], rfl,
      Or.inl ⟨rfl, rfl⟩⟩)⟩

/-- **One failing write leaves half an acceptance**: the request is
accepted and the play in the sender's list, the sender not in the
roster. -/
theorem not_allOrNothing : ¬∀ (d : Decision) (s₀ : Server) (request : PlayRequest) (ch : Choice)
    (evs : List (Event Call Reply)) (c : Config Server Task), s₀.UsersKeyed →
    d.TakenOn s₀ request →
    roster.Run (Alone ch) (Config.start s₀) (.call (d.call request) :: evs) c → c.pending = [] →
    AllOrNothing d request s₀ c.state := by
  intro h
  have hrun : roster.Run (Alone Sample.rosterFails) (Config.start (Sample.oneRequest 0))
      (.call (Decision.accept.call (Sample.request "r" "u" "p" 0)) ::
        [.answer 0 .ok, .answer 0 .ok, .answer 0 .ok, .answer 0 .ok, .answer 0 .failed]) _ :=
    .of_exec ⟨rfl, by rintro t ⟨⟩; rfl, by rintro t ⟨⟩; rfl, by rintro t ⟨⟩; rfl,
      by rintro t ⟨⟩; rfl, by rintro t ⟨⟩; rfl, trivial⟩ rfl
  have htaken : Decision.accept.TakenOn (Sample.oneRequest 0) (Sample.request "r" "u" "p" 0) := rfl
  have hall := h _ _ _ _ _ _ (Sample.usersKeyed (by simp) rfl) htaken hrun rfl
  rcases hall with hsame | ⟨-, -, l, l', hl, hl', hroster⟩
  · have hstatus : (some 99 : Option ℤ) = some 0 := congrArg (fun s => s.status "r") hsame
    exact absurd hstatus (by decide)
  · obtain rfl : ["f"] = l := Option.some.inj hl
    obtain rfl : ["f", "u"] = l' := Option.some.inj hl'
    have hsame : some ["f"] = some ["f", "u"] := hroster
    exact absurd hsame (by decide)

end Volleyer
