import Volleyer.Roster.Register
import Volleyer.Roster.Sample

/-!
# The roster — acceptances that overlap

An acceptance appends to two documents, each by a read and a later write
of the whole list. Any number of acceptances may be under way at once.
Nobody who was there before is lost; of the players accepted nobody is
lost exactly when every write lands on the list its read saw. Both are
read off register by register, where `Appends` applies.
-/

namespace Volleyer

variable {s s₀ : Server} {R : List PlayRequest}

/-! ## What is claimed -/

/-- Acceptances only, and no answer a failure. -/
def Accepting (R : List PlayRequest) (_ : Config Server Task) : Event Call Reply → Prop
  | .call a => ∃ request ∈ R, a = .updateRequest request 99
  | .answer _ r => r = .ok

/-- Everything the acceptances work on is stored. -/
structure Ready (R : List PlayRequest) (s : Server) : Prop where
  keyed : s.UsersKeyed
  request : ∀ request ∈ R, (s.requests.get request.id).isSome
  roster : ∀ request ∈ R, (s.playerInfo request.playId).isSome
  list : ∀ request ∈ R, (s.myPlayList request.requestSenderId).isSome

/-- **No accepted player is lost**: each is in the play's roster, and the
play in the player's list. -/
def AllSeated (R : List PlayRequest) (s : Server) : Prop :=
  ∀ request ∈ R, (∃ l, s.playerInfo request.playId = some l ∧ request.requestSenderId ∈ l) ∧
    ∃ l, s.myPlayList request.requestSenderId = some l ∧ request.playId ∈ l

/-- **Nobody who was there before is lost.** -/
def AllKept (s₀ s : Server) : Prop :=
  (∀ p l v, s₀.playerInfo p = some l → v ∈ l → ∃ l', s.playerInfo p = some l' ∧ v ∈ l') ∧
    ∀ v l p, s₀.myPlayList v = some l → p ∈ l → ∃ l', s.myPlayList v = some l' ∧ p ∈ l'

/-- **A write of a list lands on the list its read saw**: it writes what
is stored and one element more. -/
def WritesOnRead (c : Config Server Task) : Event Call Reply → Prop
  | .call _ => True
  | .answer i _ => ∀ t, c.pending[i]? = some t → match t with
    | .setPlayerInfo p l => ∃ x, l = (c.state.playerInfo p).getD [] ++ [x]
    | .setMyPlayList u l => ∃ x, l = (c.state.myPlayList u).getD [] ++ [x]
    | _ => True

/-! ## Registers of acceptances -/

/-- The tasks of acceptances of `R`. -/
def Task.Accepts (R : List PlayRequest) : Task → Prop
  | .updateStatus request status => request ∈ R ∧ status = 99
  | .getUsers edit playId userId => edit = .append ∧
      ∃ request ∈ R, playId = request.playId ∧ userId = request.requestSenderId
  | .getPlay edit userId playId => edit = .append ∧
      ∃ request ∈ R, playId = request.playId ∧ userId = request.requestSenderId
  | .setMyPlayList userId l => l ≠ [] ∧ ∃ request ∈ R, userId = request.requestSenderId
  | .setPlayerInfo playId l => l ≠ [] ∧ ∃ request ∈ R, playId = request.playId
  | _ => False

/-- **What the tasks of acceptances do.** -/
theorem ready_answer (h : Ready R s) {t : Task} (ht : t.Accepts R) :
    Ready R (answerOk s t).1 ∧ ∀ t' ∈ (answerOk s t).2, t'.Accepts R := by
  cases t with
  | updateStatus request n =>
    obtain ⟨hr, rfl⟩ := ht
    obtain ⟨d, hd⟩ := Option.isSome_iff_exists.1 (h.request request hr)
    simp only [answerOk, hd, if_true]
    refine ⟨⟨h.keyed, fun q hq => ?_, h.roster, h.list⟩, fun t' ht' => ?_⟩
    · rw [Server.get_requests_updateRequest]
      split
      · rw [hd]
        rfl
      · exact h.request q hq
    · rcases List.mem_pair.1 ht' with rfl | rfl
      · exact ⟨rfl, request, hr, rfl, rfl⟩
      · exact ⟨rfl, request, hr, rfl, rfl⟩
  | getUsers e q v =>
    obtain ⟨rfl, request, hr, rfl, rfl⟩ := ht
    rw [answerOk_getUsers (h.keyed.keyedAt _)]
    refine ⟨h, fun t' ht' => ?_⟩
    obtain ⟨l, -, rfl⟩ := mem_append_write ht'
    exact ⟨List.append_ne_nil_of_right_ne_nil _ (List.cons_ne_nil _ _), request, hr, rfl⟩
  | getPlay e v q =>
    obtain ⟨rfl, request, hr, rfl, rfl⟩ := ht
    rw [answerOk_getPlay]
    refine ⟨h, fun t' ht' => ?_⟩
    obtain ⟨l, -, rfl⟩ := mem_append_write ht'
    exact ⟨List.append_ne_nil_of_right_ne_nil _ (List.cons_ne_nil _ _), request, hr, rfl⟩
  | setMyPlayList v l =>
    refine ⟨⟨h.keyed.updateUser rfl, h.request, h.roster, fun q hq => ?_⟩, by simp [answerOk]⟩
    rw [answerOk, Server.myPlayList_updateUser]
    split
    · rename_i hv
      obtain ⟨l', hl'⟩ := Option.isSome_iff_exists.1 (h.list q hq)
      obtain ⟨d, hd, -⟩ := Option.bind_eq_some_iff.1 hl'
      rw [← hv, hd]
      rfl
    · exact h.list q hq
  | setPlayerInfo q l =>
    refine ⟨⟨h.keyed, h.request, fun r hr => ?_, h.list⟩, by simp [answerOk]⟩
    rw [answerOk, Server.playerInfo_updatePlay]
    split
    · rename_i hq
      obtain ⟨l', hl'⟩ := Option.isSome_iff_exists.1 (h.roster r hr)
      obtain ⟨d, hd, -⟩ := Option.bind_eq_some_iff.1 hl'
      rw [← hq, hd]
      rfl
    · exact h.roster r hr
  | setPlay | updatePlay | deletePlay | querySameRequest | setRequest | cancelStatus | queryRequests
  | deleteRequest => exact ht.elim

theorem Task.Accepts.appending {t : Task} (ht : t.Accepts R) : t.Appending := by
  cases t with
  | updateStatus => exact trivial
  | getUsers | getPlay => exact ht.1
  | setMyPlayList | setPlayerInfo => exact ht.1
  | setPlay | updatePlay | deletePlay | querySameRequest | setRequest | cancelStatus | queryRequests
  | deleteRequest => exact ht.elim

/-- **Every register of acceptances** is appended to by reading and writing
back. -/
theorem accepts_register (R : List PlayRequest) (reg : Register) :
    Appends roster .ok (Ready R) (Task.Accepts R) reg.value reg.owes reg.writes :=
  (appends_register reg).restrict Ready.keyed Task.Accepts.appending fun h ht => ready_answer h ht

/-- What is stored is found, so no debt of an acceptance lapses and every
write is made. -/
theorem sure_register (R : List PlayRequest) (reg : Register) :
    Appends.Sure roster .ok (Ready R) (Task.Accepts R) reg.value reg.owes reg.writes where
  pass {s t} h ht hw := by
    rw [roster_answer, answer_ok]
    cases t with
    | updateStatus request n =>
      obtain ⟨hr, rfl⟩ := ht
      obtain ⟨d, hd⟩ := Option.isSome_iff_exists.1 (h.request request hr)
      have hts : (answerOk s (.updateStatus request 99)).2 =
          [.getUsers .append request.playId request.requestSenderId,
            .getPlay .append request.requestSenderId request.playId] := by
        simp only [answerOk, hd]
        rfl
      rw [hts, owes_updateStatus, Register.owes, if_pos rfl]
    | getUsers e q v =>
      obtain ⟨rfl, request, hr, rfl, rfl⟩ := ht
      obtain ⟨l, hl⟩ := Option.isSome_iff_exists.1 (h.list request hr)
      rw [answerOk_getUsers (h.keyed.keyedAt _), hl]
      cases reg with
      | roster p => rfl
      | list u => by_cases hu : request.requestSenderId = u <;> simp [Register.owes, hu]
    | getPlay e v q =>
      obtain ⟨rfl, request, hr, rfl, rfl⟩ := ht
      obtain ⟨l, hl⟩ := Option.isSome_iff_exists.1 (h.roster request hr)
      rw [answerOk_getPlay, hl]
      cases reg with
      | roster p => by_cases hp : request.playId = p <;> simp [Register.owes, hp]
      | list u => rfl
    | setMyPlayList v l =>
      cases reg with
      | roster p => rfl
      | list u =>
        have hv : ¬v = u := fun hv => by simp [Register.writes, hv] at hw
        rw [Register.owes, if_neg hv]
        rfl
    | setPlayerInfo q l =>
      cases reg with
      | roster p =>
        have hq : ¬q = p := fun hq => by simp [Register.writes, hq] at hw
        rw [Register.owes, if_neg hq]
        rfl
      | list u => rfl
    | setPlay | updatePlay | deletePlay | querySameRequest | setRequest | cancelStatus
    | queryRequests | deleteRequest => exact ht.elim
  land {s t l} h ht hw := by
    rw [roster_answer, answer_ok]
    rcases Register.writes_eq_some.1 hw with ⟨p, rfl, rfl⟩ | ⟨u, rfl, rfl⟩
    · obtain ⟨-, request, hr, rfl⟩ := ht
      obtain ⟨l', hl'⟩ := Option.isSome_iff_exists.1 (h.roster request hr)
      obtain ⟨d, hd, -⟩ := Option.bind_eq_some_iff.1 hl'
      rw [answerOk, Register.value, Server.playerInfo_updatePlay, if_pos rfl, hd]
      rfl
    · obtain ⟨-, request, hr, rfl⟩ := ht
      obtain ⟨l', hl'⟩ := Option.isSome_iff_exists.1 (h.list request hr)
      obtain ⟨d, hd, -⟩ := Option.bind_eq_some_iff.1 hl'
      rw [answerOk, Register.value, Server.myPlayList_updateUser, if_pos rfl, hd]
      rfl

/-- The calls of acceptances append nothing themselves. -/
theorem calls_accepting (R : List PlayRequest) (reg : Register) :
    Appends.Calls roster .ok (Ready R) (Task.Accepts R) reg.value reg.owes reg.writes
      reg.asks (Accepting R) where
  reply h := h
  call {c a s ts} ha h hi := by
    obtain ⟨request, hr, rfl⟩ := ha
    obtain ⟨-, hval, howes, hts⟩ :=
      (calls_register reg).call (c := c) ⟨request, 99, rfl⟩ h.keyed hi
    obtain ⟨rfl, rfl⟩ := Prod.mk.inj (Option.some.inj hi)
    refine ⟨h, hval, howes, fun t ht => ⟨?_, (hts t ht).2⟩⟩
    obtain rfl := List.mem_singleton.1 ht
    exact ⟨hr, rfl⟩

/-! ## Runs -/

/-- A write that lands on what its read saw does so on the register it is
for. -/
theorem writesOnRead_iff {c : Config Server Task} {e : Event Call Reply} :
    WritesOnRead c e ↔ ∀ reg : Register, Appends.LandsOnRead reg.value reg.writes c e := by
  cases e with
  | call a => exact iff_of_true trivial fun _ => trivial
  | answer i r =>
    constructor
    · intro h reg t l ht hl
      rcases Register.writes_eq_some.1 hl with ⟨p, rfl, rfl⟩ | ⟨u, rfl, rfl⟩
      · exact h _ ht
      · exact h _ ht
    · intro h t ht
      cases t with
      | setPlayerInfo q m => exact h (.roster q) _ m ht (if_pos rfl)
      | setMyPlayList v m => exact h (.list v) _ m ht (if_pos rfl)
      | _ => trivial

/-- **Who is seated, register by register**: each register holds what the
acceptances ask of it. -/
theorem allSeated_iff_registers :
    AllSeated R s ↔ ∀ reg : Register, ∀ x ∈ R.filterMap reg.ask, x ∈ reg.value s := by
  constructor
  · intro h reg x hx
    obtain ⟨q, hq, hask⟩ := List.mem_filterMap.1 hx
    rcases Register.ask_eq_some.1 hask with ⟨rfl, rfl⟩ | ⟨rfl, rfl⟩
    · exact mem_getD_nil.2 (h q hq).1
    · exact mem_getD_nil.2 (h q hq).2
  · intro h q hq
    have hseat : ∀ (reg : Register) x, reg.ask q = some x → x ∈ reg.value s := fun reg x hx =>
      h reg x (List.mem_filterMap.2 ⟨q, hq, hx⟩)
    exact ⟨mem_getD_nil.1 (hseat (.roster _) _ (if_pos rfl)),
      mem_getD_nil.1 (hseat (.list _) _ (if_pos rfl))⟩

/-- **Acceptances that overlap.** Any number of distinct requests, whose
senders are not yet in the plays, are accepted, each once; their
callbacks run in any order and nothing fails. When all have run, nobody
who was there before is lost, and every accepted player is there exactly
when every write landed on the list its read saw. -/
theorem allSeated_iff {evs : List (Event Call Reply)} {c : Config Server Task}
    (hready : Ready R s₀) (hpairs : (R.map fun q => (q.playId, q.requestSenderId)).Nodup)
    (hroster : ∀ q ∈ R, q.requestSenderId ∉ (s₀.playerInfo q.playId).getD [])
    (hlist : ∀ q ∈ R, q.playId ∉ (s₀.myPlayList q.requestSenderId).getD [])
    (hrun : roster.Run (Accepting R) (Config.start s₀) evs c) (hall : (accepts evs).Perm R)
    (hdone : c.pending = []) :
    AllKept s₀ c.state ∧
      (AllSeated R c.state ↔ roster.Run WritesOnRead (Config.start s₀) evs c) := by
  have hkept : ∀ reg : Register, ∀ x ∈ reg.value s₀, x ∈ reg.value c.state := fun reg x hx =>
    (accepts_register R reg).mem_of_mem_start (calls_accepting R reg) rfl hready hrun hx
  have hperm : ∀ reg : Register, (Appends.asked reg.asks evs).Perm (R.filterMap reg.ask) := by
    intro reg
    rw [asked_asks]
    exact hall.filterMap _
  have hnew : ∀ reg : Register, ∀ x ∈ R.filterMap reg.ask, x ∉ reg.value s₀ :=
    fun reg => not_mem_value_of_ask hroster hlist reg
  -- what is asked of a register is there, if nothing was written over
  have hcomplete : ∀ reg : Register, (∀ x ∈ R.filterMap reg.ask, x ∈ reg.value c.state) ↔
      roster.Run (Appends.LandsOnRead reg.value reg.writes) (Config.start s₀) evs c := by
    intro reg
    rw [← (accepts_register R reg).complete_iff (sure_register R reg) (calls_accepting R reg) rfl
      hready hrun hdone ((hperm reg).nodup_iff.2 (nodup_ask hpairs reg))
      fun x hx => hnew reg x ((hperm reg).mem_iff.1 hx)]
    exact forall_congr' fun x => imp_congr_left (hperm reg).mem_iff.symm
  refine ⟨⟨fun p l v hl hv => ?_, fun v l p hl hp => ?_⟩, ?_⟩
  · exact mem_getD_nil.1 (hkept (.roster p) v (mem_getD_nil.2 ⟨l, hl, hv⟩))
  · exact mem_getD_nil.1 (hkept (.list v) p (mem_getD_nil.2 ⟨l, hl, hp⟩))
  · have hwrites : roster.Run WritesOnRead (Config.start s₀) evs c ↔ ∀ reg : Register,
        roster.Run (Appends.LandsOnRead reg.value reg.writes) (Config.start s₀) evs c := by
      rw [← hrun.forall_iff]
      exact ⟨fun h => h.mono fun _ _ => writesOnRead_iff.1,
        fun h => h.mono fun _ _ => writesOnRead_iff.2⟩
    rw [hwrites, allSeated_iff_registers]
    exact forall_congr' hcomplete

namespace Sample

/-- Two requests to be accepted. -/
def both : List PlayRequest := [request "r" "u" "p" 0, request "q" "v" "p" 0]

/-- Both acceptances write their status first; `reads` is the order in
which the two rosters and the two lists are then read and written. -/
def acceptBoth (reads : List (Event Call Reply)) : List (Event Call Reply) :=
  .call (.updateRequest (request "r" "u" "p" 0) 99) ::
    .call (.updateRequest (request "q" "v" "p" 0) 99) :: .answer 0 .ok :: .answer 0 .ok :: reads

theorem ready_both : Ready both twoRequests where
  keyed := usersKeyed (by simp) rfl
  request := by decide
  roster := by decide
  list := by decide

end Sample

/-- Two acceptances under way at once, each write made right after its
read. -/
theorem allSeated_acceptBoth : ∃ c, roster.exec (Config.start Sample.twoRequests)
    (Sample.acceptBoth [.answer 1 .ok, .answer 3 .ok, .answer 2 .ok, .answer 2 .ok, .answer 0 .ok,
      .answer 0 .ok, .answer 0 .ok, .answer 0 .ok]) = some c ∧
    c.state.playerInfo "p" = some ["f", "u", "v"] ∧ AllSeated Sample.both c.state := by
  have hrun : roster.Run (Accepting Sample.both) (Config.start Sample.twoRequests)
      (Sample.acceptBoth [.answer 1 .ok, .answer 3 .ok, .answer 2 .ok, .answer 2 .ok, .answer 0 .ok,
        .answer 0 .ok, .answer 0 .ok, .answer 0 .ok]) _ :=
    .of_exec ⟨⟨_, .head _, rfl⟩, ⟨_, .tail _ (.head _), rfl⟩, rfl, rfl, rfl, rfl, rfl, rfl, rfl,
      rfl, rfl, rfl, trivial⟩ rfl
  refine ⟨_, rfl, rfl, (allSeated_iff Sample.ready_both (by decide) (by decide) (by decide) hrun
    (.refl _) rfl).2.2 (.of_exec ⟨trivial, trivial, ?_, ?_, ?_, ?_, ?_, ?_, ?_, ?_, ?_, ?_, trivial⟩
      rfl)⟩
  all_goals
    rintro t ⟨⟩
    first
    | trivial
    | exact ⟨"u", rfl⟩
    | exact ⟨"v", rfl⟩
    | exact ⟨"p", rfl⟩

/-- **Players are lost where two acceptances overlap on a roster**: both
read it, both write it, and the second write drops the first player. -/
theorem not_allSeated : ¬∀ (s₀ : Server) (R : List PlayRequest) (evs : List (Event Call Reply))
    (c : Config Server Task), Ready R s₀ →
    (R.map fun q => (q.playId, q.requestSenderId)).Nodup →
    (∀ q ∈ R, CurrentRequest s₀ q ∧ s₀.status q.id = some 0) →
    (∀ q ∈ R, q.requestSenderId ∉ (s₀.playerInfo q.playId).getD []) →
    (∀ q ∈ R, q.playId ∉ (s₀.myPlayList q.requestSenderId).getD []) →
    roster.Run (Accepting R) (Config.start s₀) evs c → (accepts evs).Perm R → c.pending = [] →
    AllSeated R c.state ∧ AllKept s₀ c.state := by
  intro h
  have hrun : roster.Run (Accepting Sample.both) (Config.start Sample.twoRequests)
      (Sample.acceptBoth [.answer 1 .ok, .answer 2 .ok, .answer 2 .ok, .answer 2 .ok, .answer 0 .ok,
        .answer 0 .ok, .answer 0 .ok, .answer 0 .ok]) _ :=
    .of_exec ⟨⟨_, .head _, rfl⟩, ⟨_, .tail _ (.head _), rfl⟩, rfl, rfl, rfl, rfl, rfl, rfl, rfl,
      rfl, rfl, rfl, trivial⟩ rfl
  have hcurrent : ∀ q ∈ Sample.both,
      CurrentRequest Sample.twoRequests q ∧ Sample.twoRequests.status q.id = some 0 := by
    intro q hq
    rcases List.mem_pair.1 hq with rfl | rfl
    · exact ⟨⟨_, ⟨0, 0⟩, rfl, .inl rfl⟩, rfl⟩
    · exact ⟨⟨_, ⟨0, 0⟩, rfl, .inl rfl⟩, rfl⟩
  obtain ⟨hall, -⟩ := h _ _ _ _ Sample.ready_both (by decide) hcurrent (by decide) (by decide) hrun
    (.refl _) rfl
  obtain ⟨⟨l, hl, hu⟩, -⟩ := hall _ (.head _)
  obtain rfl : ["f", "v"] = l := Option.some.inj hl
  exact absurd hu (by decide)

end Volleyer
