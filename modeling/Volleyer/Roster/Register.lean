import Volleyer.Common.Appends
import Volleyer.Roster.Effects

/-!
# The roster — lists that are appended to

An acceptance appends to two documents, each by a read and a later write
of the whole list: the player to the roster of the play, the play to the
list of the player. A register is one of these lists. While the only calls
are answers to requests, every register is a list appended to by reading and
writing back, so `Appends` says what becomes of it.
-/

namespace Volleyer

variable {s : Server} {t : Task}

/-- The roster of a play, or a user's list of plays. -/
inductive Register
  | roster (p : String)
  | list (u : String)

namespace Register

/-- What a register holds. -/
def value : Register → Server → List String
  | roster p, s => (s.playerInfo p).getD []
  | list u, s => (s.myPlayList u).getD []

/-- What an acceptance of a request appends to a reg. -/
def ask (request : PlayRequest) : Register → Option String
  | roster p => if request.playId = p then some request.requestSenderId else none
  | list u => if request.requestSenderId = u then some request.playId else none

/-- What a task is still to append to a reg. -/
def owes : Register → Task → Option String
  | reg, .updateStatus request status => if status = 99 then reg.ask request else none
  | roster p, .getPlay _ userId playId => if playId = p then some userId else none
  | roster p, .setPlayerInfo playId l => if playId = p then l.getLast? else none
  | list u, .getUsers _ playId userId => if userId = u then some playId else none
  | list u, .setMyPlayList userId l => if userId = u then l.getLast? else none
  | _, _ => none

/-- What a task is going to write to a reg. -/
def writes : Register → Task → Option (List String)
  | roster p, .setPlayerInfo playId l => if playId = p then some l else none
  | list u, .setMyPlayList userId l => if userId = u then some l else none
  | _, _ => none

/-- **An acceptance appends to two registers.** -/
theorem ask_eq_some {reg : Register} {request : PlayRequest} {x : String} :
    reg.ask request = some x ↔
      reg = .roster request.playId ∧ x = request.requestSenderId ∨
        reg = .list request.requestSenderId ∧ x = request.playId := by
  cases reg <;> simp [ask, eq_comm]

/-- A write is to one register. -/
theorem writes_eq_some {reg : Register} {l : List String} :
    reg.writes t = some l ↔ (∃ p, reg = .roster p ∧ t = .setPlayerInfo p l) ∨
      ∃ u, reg = .list u ∧ t = .setMyPlayList u l := by
  cases reg <;> cases t <;> simp [writes, eq_comm]

end Register

/-- The tasks of answers to requests: the lists they edit they append to. -/
def Task.Appending : Task → Prop
  | .updateStatus _ _ => True
  | .getUsers edit _ _ => edit = .append
  | .getPlay edit _ _ => edit = .append
  | .setMyPlayList _ l => l ≠ []
  | .setPlayerInfo _ l => l ≠ []
  | _ => False

/-- The request a call accepts. -/
def acceptOf : Call → Option PlayRequest
  | .updateRequest request status => if status = 99 then some request else none
  | _ => none

/-- An acceptance asks to append to two registers, and no other call to any. -/
def Register.asks (reg : Register) (a : Call) : Option String :=
  (acceptOf a).bind fun q => reg.ask q

/-- The requests a run accepts, in the order of the calls. -/
def accepts (evs : List (Event Call Reply)) : List PlayRequest := Appends.asked acceptOf evs

/-- What a run asks of a register is what its acceptances do. -/
theorem asked_asks (reg : Register) (evs : List (Event Call Reply)) :
    Appends.asked reg.asks evs = (accepts evs).filterMap reg.ask := by
  rw [accepts, Appends.asked, Appends.asked, List.filterMap_filterMap]
  refine List.filterMap_congr fun e _ => ?_
  cases e <;> rfl

/-- Calls of `updateRequest` only, and no answer a failure. -/
def Updating (_ : Config Server Task) : Event Call Reply → Prop
  | .call a => ∃ request status, a = .updateRequest request status
  | .answer _ r => r = .ok

/-- What the answer to a status write issues. -/
theorem updateStatus_issues (s : Server) (request : PlayRequest) (n : ℤ) :
    ((answerOk s (.updateStatus request n)).2 = [] ∨
      n = 99 ∧ (answerOk s (.updateStatus request n)).2 =
        [.getUsers .append request.playId request.requestSenderId,
          .getPlay .append request.requestSenderId request.playId]) ∧
    (answerOk s (.updateStatus request n)).1.users = s.users ∧
    (answerOk s (.updateStatus request n)).1.plays = s.plays := by
  rw [answerOk_updateStatus]
  by_cases hn : (s.requests.get request.id).isSome ∧ n = 99
  · rw [if_pos hn]
    exact ⟨Or.inr ⟨hn.2, rfl⟩, rfl, rfl⟩
  · rw [if_neg hn]
    exact ⟨Or.inl rfl, rfl, rfl⟩

/-- The read of a list to be appended to puts in flight the write of what
it saw and one element more, and nothing where there is no list. -/
theorem mem_append_write {o : Option (List String)} {x : String} {f : List String → Task}
    (ht : t ∈ (o.bind (ListEdit.append.callback x)).toList.map f) :
    ∃ l, o = some l ∧ t = f (l ++ [x]) := by
  obtain ⟨m, hm, rfl⟩ := List.mem_map.1 ht
  obtain ⟨l, hl, hcb⟩ := Option.bind_eq_some_iff.1 (Option.mem_toList.1 hm)
  obtain rfl := Option.some.inj hcb
  exact ⟨l, hl, rfl⟩

/-- **Tasks that append put only such tasks in flight.** -/
theorem Task.Appending.answer (h : s.UsersKeyed) (ht : t.Appending) :
    (answerOk s t).1.UsersKeyed ∧ ∀ t' ∈ (answerOk s t).2, t'.Appending := by
  refine ⟨h.answer t .ok, fun t' ht' => ?_⟩
  cases t with
  | updateStatus request n =>
    obtain ⟨hts | ⟨-, hts⟩, -⟩ := updateStatus_issues s request n <;> rw [hts] at ht'
    · cases ht'
    · rcases List.mem_pair.1 ht' with rfl | rfl <;> rfl
  | getUsers e q v =>
    obtain rfl : e = .append := ht
    rw [answerOk_getUsers (h.keyedAt _)] at ht'
    obtain ⟨l, -, rfl⟩ := mem_append_write ht'
    exact List.append_ne_nil_of_right_ne_nil _ (List.cons_ne_nil _ _)
  | getPlay e v q =>
    obtain rfl : e = .append := ht
    obtain ⟨l, -, rfl⟩ := mem_append_write ht'
    exact List.append_ne_nil_of_right_ne_nil _ (List.cons_ne_nil _ _)
  | setMyPlayList | setPlayerInfo => cases ht'
  | setPlay | updatePlay | deletePlay | querySameRequest | setRequest | cancelStatus | queryRequests
  | deleteRequest => exact ht.elim

/-- A nonempty list written back owes its last element. -/
theorem exists_getLast {l : List String} (h : l ≠ []) :
    ∃ l' x, l = l' ++ [x] ∧ l.getLast? = some x :=
  ⟨l.dropLast, l.getLast h, (List.dropLast_append_getLast h).symm, List.getLast?_eq_some_getLast h⟩

/-- The read of a list to be appended to, in its own register: the debt goes
to the write, or lapses where there is no list. -/
theorem filterMap_append_write {o : Option (List String)} {x : String} {f : List String → Task}
    {owes : Task → Option String} (hf : ∀ l, owes (f (l ++ [x])) = some x) :
    ((o.bind (ListEdit.append.callback x)).toList.map f).filterMap owes =
      (o.map fun _ => x).toList := by
  cases o <;> simp [hf]

/-- And in another register, nothing. -/
theorem filterMap_append_write_of_none {o : Option (List String)} {x : String}
    {f : List String → Task} {owes : Task → Option String} (hf : ∀ l, owes (f l) = none) :
    ((o.bind (ListEdit.append.callback x)).toList.map f).filterMap owes = [] := by
  cases o <;> simp [hf]

/-- A list that may be absent, appended to. -/
theorem sublist_map_toList (o : Option (List String)) (x : String) :
    ((o.map fun _ => x).toList).Sublist (some x).toList := by
  cases o
  · exact List.nil_sublist _
  · exact List.Sublist.refl _

/-- **A status write passes the debt of an acceptance on to the two
reads.** -/
theorem owes_updateStatus (reg : Register) (request : PlayRequest) :
    [Task.getUsers .append request.playId request.requestSenderId,
      .getPlay .append request.requestSenderId request.playId].filterMap reg.owes =
      (reg.ask request).toList := by
  cases reg with
  | roster p =>
    by_cases hp : request.playId = p <;>
      simp [List.filterMap_cons, Register.owes, Register.ask, hp]
  | list u =>
    by_cases hu : request.requestSenderId = u <;>
      simp [List.filterMap_cons, Register.owes, Register.ask, hu]

/-- **Every register is appended to by reading and writing back.** -/
theorem appends_register (reg : Register) :
    Appends roster .ok Server.UsersKeyed Task.Appending reg.value reg.owes reg.writes where
  good h ht := ht.answer h
  debt {t l} ht hl := by
    rcases Register.writes_eq_some.1 hl with ⟨p, rfl, rfl⟩ | ⟨u, rfl, rfl⟩
    all_goals
      simp only [Register.owes, if_true]
      exact exists_getLast ht
  read {s t} h ht hw := by
    rw [roster_answer, answer_ok]
    cases t with
    | updateStatus request n =>
      obtain ⟨hts, hu, hp⟩ := updateStatus_issues s request n
      have hval : reg.value (answerOk s (.updateStatus request n)).1 = reg.value s := by
        cases reg <;> simp only [Register.value, Server.playerInfo, Server.myPlayList, hu, hp]
      refine ⟨hval, ?_, fun t' ht' l hl => ?_⟩
      · rcases hts with hts | ⟨rfl, hts⟩ <;> rw [hts]
        · exact List.nil_sublist _
        · rw [owes_updateStatus, Register.owes, if_pos rfl]
      · rcases hts with hts | ⟨-, hts⟩ <;> rw [hts] at ht'
        · cases ht'
        · rcases List.mem_pair.1 ht' with rfl | rfl <;> cases reg <;> cases hl
    | getUsers e q v =>
      -- the read of a list passes its debt on to the write that follows it
      obtain rfl : e = .append := ht
      rw [answerOk_getUsers (h.keyedAt _)]
      refine ⟨rfl, ?_, fun t' ht' l hl => ?_⟩
      · cases reg with
        | roster p =>
          rw [filterMap_append_write_of_none fun _ => rfl]
          exact List.nil_sublist _
        | list u =>
          by_cases hv : v = u
          · rw [filterMap_append_write fun l => by simp [Register.owes, hv]]
            rw [Register.owes, if_pos hv]
            exact sublist_map_toList _ _
          · rw [filterMap_append_write_of_none fun _ => if_neg hv]
            exact List.nil_sublist _
      · obtain ⟨m, hm, rfl⟩ := mem_append_write ht'
        cases reg with
        | roster p => cases hl
        | list u =>
          obtain ⟨rfl, hl'⟩ := Option.ite_none_right_eq_some.1 hl
          obtain rfl := Option.some.inj hl'
          exact ⟨q, by rw [Register.value, hm, Option.getD_some]⟩
    | getPlay e v q =>
      obtain rfl : e = .append := ht
      rw [answerOk_getPlay]
      refine ⟨rfl, ?_, fun t' ht' l hl => ?_⟩
      · cases reg with
        | list u =>
          rw [filterMap_append_write_of_none fun _ => rfl]
          exact List.nil_sublist _
        | roster p =>
          by_cases hq : q = p
          · rw [filterMap_append_write fun l => by simp [Register.owes, hq]]
            rw [Register.owes, if_pos hq]
            exact sublist_map_toList _ _
          · rw [filterMap_append_write_of_none fun _ => if_neg hq]
            exact List.nil_sublist _
      · obtain ⟨m, hm, rfl⟩ := mem_append_write ht'
        cases reg with
        | list u => cases hl
        | roster p =>
          obtain ⟨rfl, hl'⟩ := Option.ite_none_right_eq_some.1 hl
          obtain rfl := Option.some.inj hl'
          exact ⟨v, by rw [Register.value, hm, Option.getD_some]⟩
    | setMyPlayList v l =>
      -- a write of this register is no read, so it is of another one
      refine ⟨?_, List.nil_sublist _, fun t' ht' => by cases ht'⟩
      cases reg with
      | roster p => rfl
      | list u =>
        have hv : ¬v = u := fun hv => by simp [Register.writes, hv] at hw
        rw [answerOk, Register.value, Register.value, Server.myPlayList_updateUser,
          if_neg fun e => hv e.symm]
    | setPlayerInfo q l =>
      refine ⟨?_, List.nil_sublist _, fun t' ht' => by cases ht'⟩
      cases reg with
      | list u => rfl
      | roster p =>
        have hq : ¬q = p := fun hq => by simp [Register.writes, hq] at hw
        rw [answerOk, Register.value, Register.value, Server.playerInfo_updatePlay,
          if_neg fun e => hq e.symm]
    | setPlay | updatePlay | deletePlay | querySameRequest | setRequest | cancelStatus
    | queryRequests | deleteRequest => exact ht.elim
  write {s t l} h ht hw := by
    rw [roster_answer, answer_ok]
    rcases Register.writes_eq_some.1 hw with ⟨p, rfl, rfl⟩ | ⟨u, rfl, rfl⟩
    · refine ⟨?_, rfl, fun t' ht' => by cases ht'⟩
      rw [answerOk, Register.value, Register.value, Server.playerInfo_updatePlay, if_pos rfl]
      cases hd : s.plays.get p with
      | none => exact Or.inr (by rw [Server.playerInfo, hd]; rfl)
      | some d => exact Or.inl rfl
    · refine ⟨?_, rfl, fun t' ht' => by cases ht'⟩
      rw [answerOk, Register.value, Register.value, Server.myPlayList_updateUser, if_pos rfl]
      cases hd : s.users.get u with
      | none => exact Or.inr (by rw [Server.myPlayList, hd]; rfl)
      | some d => exact Or.inl rfl

/-- The calls of `updateRequest` append nothing themselves. -/
theorem calls_register (reg : Register) :
    Appends.Calls roster .ok Server.UsersKeyed Task.Appending reg.value reg.owes reg.writes
      reg.asks Updating where
  reply h := h
  call {c a s ts} ha h hi := by
    obtain ⟨request, n, rfl⟩ := ha
    obtain ⟨rfl, rfl⟩ := Prod.mk.inj (Option.some.inj hi)
    refine ⟨h, rfl, ?_, fun t ht => ?_⟩
    · have howes : reg.owes (.updateStatus request n) = reg.asks (.updateRequest request n) := by
        by_cases hn : n = 99 <;> cases reg <;> simp [Register.owes, Register.asks, acceptOf, hn]
      rw [← howes]
      cases hx : reg.owes (.updateStatus request n) <;>
        simp [RequestDataManager.updateRequest, hx]
    · obtain rfl := List.mem_singleton.1 ht
      exact ⟨trivial, by cases reg <;> rfl⟩

/-! ## What is asked for -/

/-- What distinct requests ask of one register is distinct. -/
theorem nodup_ask {l : List PlayRequest}
    (h : (l.map fun q => (q.playId, q.requestSenderId)).Nodup) (reg : Register) :
    (l.filterMap reg.ask).Nodup := by
  have hpairs : ∃ f : String × String → Option String,
      (∀ q, reg.ask q = f (q.playId, q.requestSenderId)) ∧ ∀ a b x, x ∈ f a → x ∈ f b → a = b := by
    cases reg with
    | roster p =>
      refine ⟨fun a => if a.1 = p then some a.2 else none, fun q => rfl, fun a b x ha hb => ?_⟩
      rw [Option.mem_def, Option.ite_none_right_eq_some, Option.some.injEq] at ha hb
      exact Prod.ext (ha.1.trans hb.1.symm) (ha.2.trans hb.2.symm)
    | list u =>
      refine ⟨fun a => if a.2 = u then some a.1 else none, fun q => rfl, fun a b x ha hb => ?_⟩
      rw [Option.mem_def, Option.ite_none_right_eq_some, Option.some.injEq] at ha hb
      exact Prod.ext (ha.2.trans hb.2.symm) (ha.1.trans hb.1.symm)
  obtain ⟨f, hf, hinj⟩ := hpairs
  have hmap : l.filterMap reg.ask = (l.map fun q => (q.playId, q.requestSenderId)).filterMap f := by
    rw [List.filterMap_map]
    exact List.filterMap_congr fun q _ => hf q
  rw [hmap]
  exact h.filterMap fun a b x => hinj a b x

/-- An element of a list that may be absent. -/
theorem mem_getD_nil {o : Option (List String)} {x : String} :
    x ∈ o.getD [] ↔ ∃ l, o = some l ∧ x ∈ l := by
  cases o <;> simp

/-- What requests ask of a register is not there, if no sender is in the
play. -/
theorem not_mem_value_of_ask {R : List PlayRequest}
    (hroster : ∀ q ∈ R, q.requestSenderId ∉ (s.playerInfo q.playId).getD [])
    (hlist : ∀ q ∈ R, q.playId ∉ (s.myPlayList q.requestSenderId).getD []) (reg : Register) :
    ∀ x ∈ R.filterMap reg.ask, x ∉ reg.value s := by
  intro x hx
  obtain ⟨q, hq, hask⟩ := List.mem_filterMap.1 hx
  rcases Register.ask_eq_some.1 hask with ⟨rfl, rfl⟩ | ⟨rfl, rfl⟩
  · exact hroster q hq
  · exact hlist q hq

/-- **Nobody has two places**: no roster and no list holds an id twice. -/
def NoDuplicates (s : Server) : Prop :=
  (∀ p l, s.playerInfo p = some l → l.Nodup) ∧ ∀ u l, s.myPlayList u = some l → l.Nodup

theorem noDuplicates_iff : NoDuplicates s ↔ ∀ reg : Register, (reg.value s).Nodup := by
  have hgetD : ∀ o : Option (List String), (o.getD []).Nodup ↔ ∀ l, o = some l → l.Nodup := by
    intro o
    cases o <;> simp
  constructor
  · rintro ⟨hroster, hlist⟩ (p | u)
    · exact (hgetD _).2 (hroster p)
    · exact (hgetD _).2 (hlist u)
  · exact fun h => ⟨fun p => (hgetD _).1 (h (.roster p)), fun u => (hgetD _).1 (h (.list u))⟩

/-- **Acceptances of distinct requests give nobody two places**, however
their reads and writes overlap. -/
theorem noDuplicates_of_updating {s₀ : Server} {evs : List (Event Call Reply)}
    {c : Config Server Task} (hkeyed : s₀.UsersKeyed) (h₀ : NoDuplicates s₀)
    (hrun : roster.Run Updating (Config.start s₀) evs c)
    (hpairs : ((accepts evs).map fun q => (q.playId, q.requestSenderId)).Nodup)
    (hroster : ∀ q ∈ accepts evs, q.requestSenderId ∉ (s₀.playerInfo q.playId).getD [])
    (hlist : ∀ q ∈ accepts evs, q.playId ∉ (s₀.myPlayList q.requestSenderId).getD []) :
    NoDuplicates c.state := by
  refine noDuplicates_iff.2 fun reg => ?_
  have hasked := asked_asks reg evs
  refine (appends_register reg).nodup_of_run (calls_register reg) rfl hkeyed
    (noDuplicates_iff.1 h₀ reg) hrun ?_ ?_
  · rw [hasked]
    exact nodup_ask hpairs reg
  · rw [hasked]
    exact not_mem_value_of_ask hroster hlist reg

end Volleyer
