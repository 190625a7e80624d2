import Volleyer.Courts.Delivery
import Volleyer.LineUp.Overlap
import Volleyer.LineUp.Steps

/-!
# Lining up — a user queues once

`canAddPlay` is what keeps a user from lining up twice, and a delivery is
what sets it: until then a second tap passes. Where no tap passes while
the user is listed or about to be, the entries of the user and the
additions in flight are together at most one (`QueuesAlone`).
-/

namespace Volleyer

/-- How often a user's id occurs over all courts' lists. -/
def PlayOneCourts.listed (s : PlayOneCourts) (u : String) : ℕ :=
  (s.entries.flatMap fun e => finderIds e.2).count u

/-- The same, of the courts the pages see. -/
def PlayOneApp.listed (s : PlayOneApp) (u : String) : ℕ :=
  PlayOneCourts.listed s.courts.playOneCourts u

/-- A request that is to add a user. -/
def CourtEditTask.adds (u : String) : CourtEditTask → Bool
  | .getDocument edit finder _ => edit = .add ∧ finder = u
  | .updateData edit finder _ _ => edit = .add ∧ finder = u

/-- The user a request of an edit is for. -/
def CourtEditTask.finder : CourtEditTask → String
  | .getDocument _ finder _ => finder
  | .updateData _ finder _ _ => finder

/-! ## The lists -/

namespace PlayOneCourts

variable {s : PlayOneCourts} {u : String}

theorem count_userIds_le (court : String) : (s.userIds court).count u ≤ s.listed u := by
  cases h : s.get court with
  | none => simp [userIds, h]
  | some document =>
    have hmem : (court, document) ∈ s.entries := Collection.get_eq_some_iff.1 h
    have hsub : (finderIds document).Sublist (s.entries.flatMap fun e => finderIds e.2) :=
      List.sublist_flatten_of_mem (List.mem_map_of_mem (f := fun e => finderIds e.2) hmem)
    rw [userIds_of_get h]
    exact hsub.count_le u

/-- A write of a list adds what it lists, at most. -/
theorem listed_modify_le (court : String) (ids : List String) :
    listed (s.modify court (·.updateData [(.finderIds, .strings ids)])) u ≤
      s.listed u + ids.count u := by
  obtain ⟨l, hl⟩ := s
  simp only [listed, Collection.modify]
  induction l with
  | nil => exact Nat.zero_le _
  | cons e l ih =>
    rw [List.map_cons, List.nodup_cons] at hl
    rw [List.map_cons, List.flatMap_cons, List.flatMap_cons, List.count_append, List.count_append]
    by_cases hc : e.1 = court
    · -- the one court with the id: the others are left
      have hrest : (l.map fun e' => if e'.1 = court then
          (e'.1, e'.2.updateData [(.finderIds, .strings ids)]) else e') = l := by
        conv_rhs => rw [← List.map_id l]
        refine List.map_congr_left fun e' he' => if_neg ?_
        rintro rfl
        exact hl.1 (hc ▸ List.mem_map_of_mem (f := Prod.fst) he')
      rw [hrest, if_pos hc, finderIds_updateData]
      omega
    · have hle := ih hl.2
      rw [if_neg hc]
      omega

end PlayOneCourts

/-! ## The edits of one user -/

/-- **The user is queued once or about to be.** The requests in flight are
all the user's, a list about to be written has the user's id exactly if
it is to add it, and the entries and the additions are at most one. -/
structure QueuesAlone (u : String) (c : Config PlayOneCourts CourtEditTask) : Prop where
  finder : ∀ t ∈ c.pending, t.finder = u
  write : ∀ {edit finder court userIds}, .updateData edit finder court userIds ∈ c.pending →
    userIds.count u = if edit = .add then 1 else 0
  once : c.state.listed u + c.pending.countP (CourtEditTask.adds u) ≤ 1

/-- The calls are the user's own, and none adds a user who is listed or
about to be. -/
def AddsClear (u : String) (c : Config PlayOneCourts CourtEditTask) :
    Event CourtEditCall Reply → Prop
  | .call (.addFinderOFACourt finder _) =>
      finder = u ∧ c.state.listed u = 0 ∧ ∀ t ∈ c.pending, t.adds u = false
  | .call (.deleteFinderOFACourt finder _) => finder = u
  | .answer _ _ => True

namespace QueuesAlone

variable {u : String} {c c' : Config PlayOneCourts CourtEditTask}
variable {e : Event CourtEditCall Reply}

theorem call (h : QueuesAlone u c) {s : PlayOneCourts} {a : CourtEditCall} {ts : List CourtEditTask}
    (he : AddsClear u c (.call a)) (hi : courtEdits.issue c.state a = some (s, ts)) :
    QueuesAlone u ⟨s, c.seen, c.pending ++ ts⟩ := by
  cases a with
  | addFinderOFACourt finder court =>
    obtain ⟨rfl, rfl⟩ := Prod.mk.inj (Option.some.inj hi)
    obtain ⟨rfl, hlisted, hadds⟩ := he
    refine ⟨fun t ht => ?_, fun ht => ?_, ?_⟩
    · rcases List.mem_append.1 ht with ht | ht
      · exact h.finder t ht
      · rw [List.mem_singleton.1 ht]
        rfl
    · rcases List.mem_append.1 ht with ht | ht
      · exact h.write ht
      · cases List.mem_singleton.1 ht
    · have hnone : c.pending.countP (CourtEditTask.adds finder) = 0 :=
        List.countP_eq_zero.2 fun t ht => by simp [hadds t ht]
      simp [List.countP_append, hnone, hlisted, CourtEditTask.adds]
  | deleteFinderOFACourt finder court =>
    obtain ⟨rfl, rfl⟩ := Prod.mk.inj (Option.some.inj hi)
    obtain rfl : finder = u := he
    refine ⟨fun t ht => ?_, fun ht => ?_, ?_⟩
    · rcases List.mem_append.1 ht with ht | ht
      · exact h.finder t ht
      · rw [List.mem_singleton.1 ht]
        rfl
    · rcases List.mem_append.1 ht with ht | ht
      · exact h.write ht
      · cases List.mem_singleton.1 ht
    · have honce := h.once
      simpa [List.countP_append, CourtEditTask.adds] using honce

/-- A request that is gone and adds nothing any more. -/
theorem erase (h : QueuesAlone u c) {n : ℕ} {t : CourtEditTask} (hn : c.pending[n]? = some t)
    {s : PlayOneCourts} {ts : List CourtEditTask} {past : List PlayOneCourts}
    (hfinder : ∀ t' ∈ ts, t'.finder = u)
    (hwrite : ∀ {edit finder court userIds}, .updateData edit finder court userIds ∈ ts →
      userIds.count u = if edit = .add then 1 else 0)
    (honce : s.listed u + ts.countP (CourtEditTask.adds u) ≤
      c.state.listed u + if t.adds u then 1 else 0) :
    QueuesAlone u ⟨s, past, c.pending.eraseIdx n ++ ts⟩ := by
  refine ⟨fun t' ht' => ?_, fun ht' => ?_, ?_⟩
  · rcases Machine.mem_eraseIdx_append ht' with ht' | ht'
    · exact h.finder t' ht'
    · exact hfinder t' ht'
  · rcases Machine.mem_eraseIdx_append ht' with ht' | ht'
    · exact h.write ht'
    · exact hwrite ht'
  · have hcount := (Machine.perm_cons_eraseIdx hn).countP_eq (CourtEditTask.adds u)
    have hall := h.once
    rw [List.countP_cons] at hcount
    rw [List.countP_append]
    dsimp only
    omega

/-- An answer: a read is followed by a write of the same edit, and a write
lands what it says. -/
theorem answer (h : QueuesAlone u c) {n : ℕ} {t : CourtEditTask} (hn : c.pending[n]? = some t)
    (r : Reply) :
    QueuesAlone u ⟨(courtEdits.answer c.state t r).1, c.seen,
      c.pending.eraseIdx n ++ (courtEdits.answer c.state t r).2⟩ := by
  have hmem : t ∈ c.pending := List.mem_of_getElem? hn
  have honce := h.once
  have hin : (if t.adds u then 1 else 0) ≤ c.pending.countP (CourtEditTask.adds u) := by
    split
    · next hadds => exact List.countP_pos_iff.2 ⟨t, hmem, hadds⟩
    · exact Nat.zero_le _
  cases r with
  | failed =>
    refine h.erase hn (fun _ ht' => absurd ht' List.not_mem_nil)
      (fun ht' => absurd ht' List.not_mem_nil) ?_
    exact Nat.le_add_right _ _
  | ok =>
    cases t with
    | getDocument edit finder court =>
      obtain rfl : finder = u := h.finder _ hmem
      simp only [courtEdits, courtEditAnswer, courtEditAnswerOk]
      cases hget : c.state.get court with
      | none =>
        refine h.erase hn (fun _ ht' => absurd ht' List.not_mem_nil)
          (fun ht' => absurd ht' List.not_mem_nil) ?_
        exact Nat.le_add_right _ _
      | some document =>
        have hcount : (finderIds document).count finder ≤ c.state.listed finder := by
          rw [← PlayOneCourts.userIds_of_get hget]
          exact PlayOneCourts.count_userIds_le court
        refine h.erase hn (fun t' ht' => ?_) (fun ht' => ?_) ?_
        · rw [List.mem_singleton.1 ht']
          rfl
        · cases List.mem_singleton.1 ht'
          cases edit with
          | add =>
            simp only [CourtEditTask.adds, and_self, decide_true, if_true] at hin
            simp only [apply_add, List.count_append, List.count_singleton_self, if_true]
            omega
          | delete =>
            simp only [apply_delete, List.count_erase_self, reduceCtorEq, if_false]
            omega
        · cases edit <;> simp [CourtEditTask.adds]
    | updateData edit finder court userIds =>
      obtain rfl : finder = u := h.finder _ hmem
      have hwrite := h.write hmem
      have hlisted := PlayOneCourts.listed_modify_le (s := c.state) (u := finder) court userIds
      refine h.erase hn (fun _ ht' => absurd ht' List.not_mem_nil)
        (fun ht' => absurd ht' List.not_mem_nil) ?_
      cases edit with
      | add => simpa [courtEdits, courtEditAnswer, courtEditAnswerOk, CourtEditTask.adds, hwrite]
          using hlisted
      | delete => simpa [courtEdits, courtEditAnswer, courtEditAnswerOk, CourtEditTask.adds, hwrite]
          using hlisted

theorem step (h : QueuesAlone u c) (he : AddsClear u c e) (hs : courtEdits.step c e = some c') :
    QueuesAlone u c' := by
  rcases Machine.step_cases hs with ⟨a, s, ts, rfl, hi, rfl⟩ | ⟨n, r, t, rfl, hn, rfl⟩
  · exact h.call he hi
  · exact h.answer hn r

end QueuesAlone

/-! ## One device -/

/-- The events are of one device. -/
def OneDevice (device : ℕ) : Config PlayOneApp PlayOneTask → Event PlayOneCall Reply → Prop :=
  Machine.Calls fun a => a.device = device

/-- **No tap passes too early**: a tap on a court's header that passes
`canAddPlay` finds the user in no court's list, and no addition of the
user in flight. -/
def TapsClear (u : String) (c : Config PlayOneApp PlayOneTask) (e : Event PlayOneCall Reply) :
    Prop :=
  ∀ device tag, e = .call (.lineUp device tag) → (c.state.page device).canAddPlay = true →
    c.state.listed u = 0 ∧
      ∀ t, .edit t ∈ c.pending → t.adds u = false

variable {u : String} {device : ℕ} {s₀ : PlayOneApp} {c : Config PlayOneApp PlayOneTask}
variable {evs : List (Event PlayOneCall Reply)}
variable {ok : Config PlayOneApp PlayOneTask → Event PlayOneCall Reply → Prop}

/-- Whose account a device is signed in as stays along a run. -/
theorem firebaseId_of_run (h : playOne.Run ok (Config.start s₀) evs c) :
    c.state.firebaseId = s₀.firebaseId := by
  refine h.invariant (I := fun c => c.state.firebaseId = s₀.firebaseId) rfl ?_
  rintro c e c' hc - hs
  rcases Machine.step_cases hs with ⟨a, s, ts, rfl, hi, rfl⟩ | ⟨n, r, t, rfl, -, rfl⟩
  · exact (playOneIssue_courts hi).2.1.trans hc
  · exact (firebaseId_answer _ t r).trans hc

/-- The edits of a device's runs in which no tap passes too early. -/
theorem alone_of_run
    (h : playOne.Run (fun c e => OneDevice device c e ∧ TapsClear u c e) (Config.start s₀) evs c)
    (hid : s₀.firebaseId device = some u) (h₀ : s₀.listed u = 0) :
    c.state.listed u ≤ 1 := by
  have hrun := h.strengthen fun _ _ hr => firebaseId_of_run hr
  have hprojects : Projects playOne courtEdits (fun s => s.courts.playOneCourts)
      PlayOneTask.asEdit (fun c e => (OneDevice device c e ∧ TapsClear u c e) ∧
        c.state.firebaseId = s₀.firebaseId) (AddsClear u) := by
    refine projects_edits (fun {c' c a b} hover he hb => ?_) fun _ _ _ _ _ => trivial
    obtain ⟨⟨hdevice, hclear⟩, hids⟩ := he
    have hself := hdevice a rfl
    cases a with
    | viewDidLoad => cases hb
    | pullToRefresh => cases hb
    | lineUp device' tag =>
      obtain rfl : device' = device := hself
      obtain ⟨hcan, hb⟩ := Option.ite_none_right_eq_some.1 hb
      obtain ⟨playOne, -, rfl⟩ := Option.map_eq_some_iff.1 hb
      obtain ⟨hlisted, hadds⟩ := hclear device' tag rfl hcan
      refine ⟨by rw [hids, hid, Option.getD_some], by rw [hover.state]; exact hlisted,
        fun t ht => ?_⟩
      rw [hover.pending] at ht
      obtain ⟨t', ht', hedit⟩ := List.mem_filterMap.1 ht
      cases t' with
      | edit t' =>
        obtain rfl := Option.some.inj hedit
        exact hadds _ ht'
      | _ => cases hedit
    | cancelPlay device' =>
      obtain rfl : device' = device := hself
      obtain ⟨court, -, rfl⟩ := Option.map_eq_some_iff.1 hb
      change _ = u
      rw [hids, hid, Option.getD_some]
  have hstart : Over (fun s => s.courts.playOneCourts) PlayOneTask.asEdit (Config.start s₀)
      (Config.start s₀.courts.playOneCourts) := ⟨rfl, rfl⟩
  obtain ⟨evs', c₁, hedits, hover⟩ := hprojects.run hstart hrun
  have halone : QueuesAlone u c₁ := hedits.invariant
    ⟨fun _ ht => absurd ht List.not_mem_nil, fun ht => absurd ht List.not_mem_nil,
      h₀.le.trans (Nat.zero_le 1)⟩
    fun _ _ _ hI he hs => hI.step he hs
  have honce := halone.once
  rw [hover.state] at honce
  exact (Nat.le_add_right _ _).trans honce

/-- **A user queues once**, in every run of one device in which no tap
passes while the user is listed or about to be: whatever the order of the
taps, the refreshes and the requests, and whichever of them fail. -/
theorem queuesOnce_of_run
    (h : playOne.Run (fun c e => OneDevice device c e ∧ TapsClear u c e) (Config.start s₀) evs c)
    (hid : s₀.firebaseId device = some u) (h₀ : s₀.listed u = 0) :
    ∀ s ∈ c.seen, s.listed u ≤ 1 :=
  h.forall_seen_of_runs (fun _ hs => absurd hs List.not_mem_nil)
    fun _ _ hr => alone_of_run hr hid h₀

namespace Sample

/-- Two empty courts, and the devices of `"u"` and `"v"`. -/
def twoEmptyCourts : PlayOneApp :=
  .start (Sample.users [("u", []), ("v", [])] nodup_userIds)
    ⟨[("A", courtDoc [] 1), ("B", courtDoc [] 2)], nodup_courtIds⟩ .empty
    fun device => (["u", "v"] : List String)[device]?

/-- The page is loaded and its first refresh delivered; then the taps and
the answers. -/
def onePage (evs : List (Event PlayOneCall Reply)) : List (Event PlayOneCall Reply) :=
  [.call (.viewDidLoad 0), .answer 0 .ok, .answer 0 .ok] ++ evs

/-- A tap, its callbacks and the refresh, a tap that is refused, and a
cancellation before a tap on the other court. -/
def tapAgain : List (Event PlayOneCall Reply) :=
  onePage [.call (.lineUp 0 0), .answer 1 .ok, .answer 1 .ok, .answer 1 .ok, .answer 1 .ok,
    .answer 1 .ok, .call (.lineUp 0 1), .call (.cancelPlay 0), .answer 1 .ok, .answer 2 .ok,
    .call (.lineUp 0 1)]

/-- Taps on both courts before the delivery that the first of them
leads to. -/
def tapBoth : List (Event PlayOneCall Reply) :=
  onePage [.call (.lineUp 0 0), .call (.lineUp 0 1), .answer 1 .ok, .answer 2 .ok, .answer 2 .ok,
    .answer 2 .ok]

end Sample

/-- Where no edit is in flight nothing adds anybody. -/
theorem adds_of_edits_nil {u : String} {ts : List PlayOneTask}
    (h : ts.filterMap PlayOneTask.asEdit = []) : ∀ t, .edit t ∈ ts → t.adds u = false := by
  intro t ht
  have hnone := List.filterMap_eq_nil_iff.1 h _ ht
  cases hnone

theorem queuesOnce_tapAgain : ∃ c,
    playOne.Run (fun c e => OneDevice 0 c e ∧ TapsClear "u" c e)
      (Config.start Sample.twoEmptyCourts) Sample.tapAgain c ∧
    ∀ s ∈ c.seen, s.listed "u" ≤ 1 := by
  have hdevice : playOne.Run (OneDevice 0) (Config.start Sample.twoEmptyCourts) Sample.tapAgain _ :=
    .of_exec (Machine.admits_calls (by simp [Sample.tapAgain, Sample.onePage, PlayOneCall.device]))
      rfl
  have hclear :
      playOne.Run (TapsClear "u") (Config.start Sample.twoEmptyCourts) Sample.tapAgain _ :=
    .of_exec ⟨nofun, nofun, nofun, ?_, nofun, nofun, nofun, nofun, nofun, ?_, nofun, nofun, nofun,
      ?_, trivial⟩ rfl
  · have hrun := Machine.Run.and_iff.2 ⟨hdevice, hclear⟩
    exact ⟨_, hrun, queuesOnce_of_run hrun rfl rfl⟩
  -- the taps: the first, the one that is refused, and the one after the cancellation
  · rintro device tag ⟨⟩ -
    exact ⟨rfl, adds_of_edits_nil rfl⟩
  · rintro device tag ⟨⟩ hcan
    exact absurd hcan (by decide)
  · rintro device tag ⟨⟩ -
    exact ⟨rfl, adds_of_edits_nil rfl⟩

/-- **Two taps before the first delivery queue a user twice.** -/
theorem not_queuesOnce : ¬∀ (s₀ : PlayOneApp) (device : ℕ) (u : String)
    (evs : List (Event PlayOneCall Reply)) (c : Config PlayOneApp PlayOneTask),
    s₀.firebaseId device = some u → s₀.listed u = 0 →
    playOne.Run (OneDevice device) (Config.start s₀) evs c → ∀ s ∈ c.seen, s.listed u ≤ 1 := by
  intro h
  have hdevice : playOne.Run (OneDevice 0) (Config.start Sample.twoEmptyCourts) Sample.tapBoth _ :=
    .of_exec (Machine.admits_calls (by simp [Sample.tapBoth, Sample.onePage, PlayOneCall.device]))
      rfl
  have htwice := h _ 0 "u" _ _ rfl rfl hdevice _ List.mem_cons_self
  exact absurd htwice (by decide)

end Volleyer
