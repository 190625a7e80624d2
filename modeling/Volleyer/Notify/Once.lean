import Volleyer.Common.Owed
import Volleyer.Notify.Dates
import Volleyer.Roster.Sample

/-!
# Who is notified, and how often

A new request is told to every listener that was bound to its receiver,
whoever is signed in by now. How many there are is a matter of the whole
history of the process: of the loads of the tab bar as that account
(`loadsAs`). So the addition of a request raises one notification for the
signed-in account, and none for another one, exactly where the tab bar was
loaded once as the one and never as the other (`notifiesOnce_iff`). Where
the launch date cannot be narrowed below the second of the request, no
listener raises anything.
-/

namespace Volleyer

/-! ## The history of the process -/

/-- The account that is signed in, and the loads of the tab bar as `account`,
after one more event. -/
def loadStep (account : String) :
    Option String × ℕ → Event NotifyCall Reply → Option String × ℕ
  | (_, n), .call (.saveUserDefault firebaseId) => (some firebaseId, n)
  | (_, n), .call .logout => (none, n)
  | (me, n), .call .viewDidLoad => (me, if me = some account then n + 1 else n)
  | p, _ => p

/-- **The loads of the tab bar as an account**, from where `me` is signed
in. -/
def loadsAs (account : String) (me : Option String) (evs : List (Event NotifyCall Reply)) : ℕ :=
  (evs.foldl (loadStep account) (me, 0)).2

/-- **A process that begins**: no listener, no notification, and `document()`
answers new ids. -/
structure Notify.Opens (s : Notify) : Prop where
  receiving : s.receiving = []
  notifications : s.notifications = []
  allocated : ∀ i, (s.server.requests.get i).isSome → i ∈ s.server.allocated
  running : s.ended = false

/-- Every callback runs, and succeeds. -/
def Delivered (_ : Config Notify NotifyTask) : Event NotifyCall Reply → Prop
  | .call _ => True
  | .answer _ r => r = .ok

/-- **The notifications of a request** by the first `n` listeners. -/
def Notify.raised (documentID : String) (n : ℕ) (s : Notify) : ℕ :=
  s.notifications.countP fun notification =>
    notification.documentID = documentID ∧ notification.listener < n

variable {s s' s₀ : Notify} {c c' c₀ c₁ : Config Notify NotifyTask} {ts : List NotifyTask}
variable {e : Event NotifyCall Reply} {pre post evs : List (Event NotifyCall Reply)}
variable {account r me receiver sender : String} {d : Doc PlayRequestTitle} {n k : ℕ}
variable {launch time : Date} {users : Collection String (Doc UserTitle)}

/-- **What a callback does**: nothing, or it reads the senders of a change,
or traps on it, or raises a notification. -/
theorem notifyAnswer_cases (s : Notify) (t : NotifyTask) (reply : Reply) :
    notifyAnswer s t reply = (s, []) ∨
    (∃ listener type documentID document, ∃ ids : List String,
      t = .received listener type documentID document ∧
      notifyAnswer s t reply = (s, ids.map (.getUserByFirebaseId listener documentID))) ∨
    ((∃ diff, RequestDataManager.notifyChange s.launchAppDate diff = none) ∧
      notifyAnswer s t reply = ({ s with ended := true }, [])) ∨
    ∃ listener documentID id notification, t = .getUserByFirebaseId listener documentID id ∧
      notification.listener = listener ∧ notification.documentID = documentID ∧
      notifyAnswer s t reply =
        ({ s with notifications := s.notifications ++ [notification] }, []) := by
  cases reply with
  | failed => exact Or.inl rfl
  | ok =>
    simp only [notifyAnswer]
    by_cases hended : s.ended
    · exact Or.inl (if_pos hended)
    rw [if_neg hended]
    cases t with
    | sent => exact Or.inl rfl
    | getUserByFirebaseId listener documentID id =>
      simp only [notifyAnswerOk]
      split
      · exact Or.inl rfl
      · exact Or.inr (Or.inr (Or.inr ⟨_, _, _, _, rfl, rfl, rfl, rfl⟩))
    | received listener type documentID document =>
      simp only [notifyAnswerOk]
      split
      · rename_i htrap
        exact Or.inr (Or.inr (Or.inl ⟨⟨_, htrap⟩, rfl⟩))
      · exact Or.inr (Or.inl ⟨_, _, _, _, _, rfl, rfl⟩)

/-- A callback leaves the listeners, the store and the defaults. -/
theorem notifyAnswer_frame (s : Notify) (t : NotifyTask) (reply : Reply) :
    ∃ notifications ended, (notifyAnswer s t reply).1 =
      { s with notifications := notifications, ended := ended } := by
  rcases notifyAnswer_cases s t reply with h | ⟨_, _, _, _, _, -, h⟩ | ⟨-, h⟩ |
    ⟨_, _, _, _, -, -, -, h⟩
  · exact ⟨s.notifications, s.ended, by rw [h]⟩
  · exact ⟨s.notifications, s.ended, by rw [h]⟩
  · exact ⟨s.notifications, true, by rw [h]⟩
  · exact ⟨_, s.ended, by rw [h]⟩

/-- **A process ends** by a trap, where the launch date does not fit. -/
theorem ended_answer {t : NotifyTask} {reply : Reply}
    (h : (notifyAnswer s t reply).1.ended = true) :
    s.ended = true ∨ ∃ launch, s.launchAppDate = some launch ∧ ¬launch.FitsInt32 := by
  rcases notifyAnswer_cases s t reply with heq | ⟨_, _, _, _, _, -, heq⟩ |
    ⟨⟨diff, htrap⟩, -⟩ | ⟨_, _, _, _, -, -, -, heq⟩
  · exact Or.inl (by rwa [heq] at h)
  · exact Or.inl (by rwa [heq] at h)
  · exact Or.inr (exists_not_fits_of_trap htrap)
  · exact Or.inl (by rwa [heq] at h)

/-- An event that happens is one that can. -/
theorem notifyEvent_of_issue {a : NotifyCall} (h : notifyIssue s a = some (s', ts)) :
    notifyEvent s a = some (s', ts) := (Option.ite_none_left_eq_some.1 h).2

/-- An event keeps the launch date, and ends nothing. -/
theorem notifyIssue_frame {a : NotifyCall} (h : notifyIssue s a = some (s', ts)) :
    s'.launchAppDate = s.launchAppDate ∧ s'.ended = s.ended := by
  replace h := notifyEvent_of_issue h
  cases a with
  | viewDidLoad | logout | saveUserDefault =>
    obtain ⟨rfl, rfl⟩ := Prod.mk.inj (Option.some.inj h)
    exact ⟨rfl, rfl⟩
  | addRequest =>
    obtain ⟨-, heq⟩ := Option.ite_none_left_eq_some.1 h
    obtain ⟨rfl, rfl⟩ := Prod.mk.inj (Option.some.inj heq)
    exact ⟨rfl, rfl⟩
  | updateRequest | deleteRequest =>
    obtain ⟨document, -, heq⟩ := Option.map_eq_some_iff.1 h
    obtain ⟨rfl, rfl⟩ := Prod.mk.inj heq
    exact ⟨rfl, rfl⟩

/-- **The listeners bound to an account are the loads as that account.** -/
theorem count_receiving {ok : Config Notify NotifyTask → Event NotifyCall Reply → Prop}
    (hopen : s₀.receiving = []) (hrun : notify.Run ok (Config.start s₀) evs c) :
    c.state.receiving.count (some account) = loadsAs account s₀.firebaseId evs := by
  have hboth : evs.foldl (loadStep account) (s₀.firebaseId, 0) =
      (c.state.firebaseId, c.state.receiving.count (some account)) := by
    -- by induction on the run: only a load adds a listener, and nothing removes one
    induction hrun with
    | nil => rw [List.foldl_nil, Config.start_state, hopen, List.count_nil]
    | @snoc evs c e c' _ _ hs ih =>
      rw [List.foldl_append, ih, List.foldl_cons, List.foldl_nil]
      rcases Machine.step_cases hs with ⟨a, s, ts, rfl, hi, rfl⟩ | ⟨n, reply, t, rfl, ht, rfl⟩
      · replace hi := notifyEvent_of_issue hi
        cases a with
        | viewDidLoad =>
          obtain ⟨rfl, rfl⟩ := Prod.mk.inj (Option.some.inj hi)
          simp only [loadStep, List.count_append, List.count_singleton, beq_iff_eq]
          split <;> rfl
        | logout | saveUserDefault =>
          obtain ⟨rfl, rfl⟩ := Prod.mk.inj (Option.some.inj hi)
          rfl
        | addRequest documentID document =>
          obtain ⟨-, heq⟩ := Option.ite_none_left_eq_some.1 hi
          obtain ⟨rfl, rfl⟩ := Prod.mk.inj (Option.some.inj heq)
          rfl
        | updateRequest | deleteRequest =>
          obtain ⟨document, -, heq⟩ := Option.map_eq_some_iff.1 hi
          obtain ⟨rfl, rfl⟩ := Prod.mk.inj heq
          rfl
      · obtain ⟨notifications, ended, hframe⟩ := notifyAnswer_frame c.state t reply
        have hstate : (notify.answer c.state t reply).1 = _ := hframe
        rw [hstate]
        rfl
  rw [loadsAs, hboth]

/-! ## Before the addition -/

/-- The document a callback is about. -/
def NotifyTask.documentID : NotifyTask → String
  | .received _ _ documentID _ => documentID
  | .sent _ _ documentID _ => documentID
  | .getUserByFirebaseId _ documentID _ => documentID

/-- **Only documents that were added are spoken of**, and the process has not
ended unless the launch date does not fit. -/
structure Known (c : Config Notify NotifyTask) : Prop where
  stored : ∀ i, (c.state.server.requests.get i).isSome → i ∈ c.state.server.allocated
  tasks : ∀ t ∈ c.pending, t.documentID ∈ c.state.server.allocated
  notifications : ∀ notification ∈ c.state.notifications,
    notification.documentID ∈ c.state.server.allocated
  ended : c.state.ended = true →
    ∃ launch, c.state.launchAppDate = some launch ∧ ¬launch.FitsInt32

theorem documentID_of_mem_deliver {type : DocumentChangeType} {i : String} {t : NotifyTask}
    (h : t ∈ s.deliver type i d) : t.documentID = i := by
  rcases List.mem_append.1 h with h | h <;> obtain ⟨_, -, rfl⟩ := List.mem_map.1 h <;> rfl

/-- **What a callback goes on with** is about the same document. -/
theorem documentID_of_mem_answer {t t' : NotifyTask} {reply : Reply}
    (h : t' ∈ (notifyAnswer s t reply).2) : t'.documentID = t.documentID := by
  rcases notifyAnswer_cases s t reply with heq | ⟨_, _, _, _, _, rfl, heq⟩ | ⟨-, heq⟩ |
    ⟨_, _, _, _, -, -, -, heq⟩
  · rw [heq] at h
    cases h
  · rw [heq] at h
    obtain ⟨id, -, rfl⟩ := List.mem_map.1 h
    rfl
  · rw [heq] at h
    cases h
  · rw [heq] at h
    cases h

/-- And so is the notification it raises. -/
theorem documentID_of_notification {t : NotifyTask} {reply : Reply}
    {notification : LocalNotification}
    (h : notification ∈ (notifyAnswer s t reply).1.notifications) :
    notification ∈ s.notifications ∨ notification.documentID = t.documentID := by
  rcases notifyAnswer_cases s t reply with heq | ⟨_, _, _, _, _, -, heq⟩ | ⟨-, heq⟩ |
    ⟨_, _, _, _, rfl, -, rfl, heq⟩
  · rw [heq] at h
    exact Or.inl h
  · rw [heq] at h
    exact Or.inl h
  · rw [heq] at h
    exact Or.inl h
  · rw [heq] at h
    rcases List.mem_append.1 h with h | h
    · exact Or.inl h
    · obtain rfl := List.mem_singleton.1 h
      exact Or.inr rfl

/-- **An event speaks of documents that were added.** -/
theorem known_issue {a : NotifyCall} (hc : Known c) (hi : notifyIssue c.state a = some (s, ts)) :
    c.state.server.allocated ⊆ s.server.allocated ∧ s.notifications = c.state.notifications ∧
      (∀ i, (s.server.requests.get i).isSome → i ∈ s.server.allocated) ∧
      ∀ t ∈ ts, t.documentID ∈ s.server.allocated := by
  replace hi := notifyEvent_of_issue hi
  cases a with
  | viewDidLoad =>
    obtain ⟨rfl, rfl⟩ := Prod.mk.inj (Option.some.inj hi)
    refine ⟨fun _ h => h, rfl, hc.stored, fun t ht => ?_⟩
    rcases List.mem_append.1 ht with ht | ht <;>
      obtain ⟨⟨i, d⟩, hmem, rfl⟩ := List.mem_map.1 ht <;>
      exact hc.stored i (Option.isSome_iff_exists.2 ⟨d, (Collection.mem_query.1 hmem).1⟩)
  | logout | saveUserDefault =>
    obtain ⟨rfl, rfl⟩ := Prod.mk.inj (Option.some.inj hi)
    exact ⟨fun _ h => h, rfl, hc.stored, fun t ht => absurd ht List.not_mem_nil⟩
  | addRequest documentID document =>
    obtain ⟨-, heq⟩ := Option.ite_none_left_eq_some.1 hi
    obtain ⟨rfl, rfl⟩ := Prod.mk.inj (Option.some.inj heq)
    refine ⟨fun _ h => List.mem_cons_of_mem _ h, rfl, fun i hsome => ?_, fun t ht => ?_⟩
    · simp only [Collection.get_set] at hsome
      split at hsome
      · rename_i hid
        exact hid ▸ List.mem_cons_self
      · exact List.mem_cons_of_mem _ (hc.stored i hsome)
    · rw [documentID_of_mem_deliver ht]
      exact List.mem_cons_self
  | updateRequest documentID status =>
    obtain ⟨document, hdocument, heq⟩ := Option.map_eq_some_iff.1 hi
    obtain ⟨rfl, rfl⟩ := Prod.mk.inj heq
    have hknown := hc.stored documentID (Option.isSome_iff_exists.2 ⟨document, hdocument⟩)
    refine ⟨fun _ h => h, rfl, fun i hsome => ?_, fun t ht => ?_⟩
    · simp only [Server.updateRequest, Collection.get_modify] at hsome
      split at hsome
      · rename_i hid
        exact hid ▸ hknown
      · exact hc.stored i hsome
    · rw [documentID_of_mem_deliver ht]
      exact hknown
  | deleteRequest documentID =>
    obtain ⟨document, hdocument, heq⟩ := Option.map_eq_some_iff.1 hi
    obtain ⟨rfl, rfl⟩ := Prod.mk.inj heq
    have hknown := hc.stored documentID (Option.isSome_iff_exists.2 ⟨document, hdocument⟩)
    refine ⟨fun _ h => h, rfl, fun i hsome => ?_, fun t ht => ?_⟩
    · simp only [Collection.get_delete] at hsome
      split at hsome
      · cases hsome
      · exact hc.stored i hsome
    · rw [documentID_of_mem_deliver ht]
      exact hknown

theorem Known.step (hc : Known c) (hs : notify.step c e = some c') : Known c' := by
  rcases Machine.step_cases hs with ⟨a, s, ts, rfl, hi, rfl⟩ | ⟨n, reply, t, rfl, ht, rfl⟩
  · obtain ⟨hsub, hnotifications, hstored, htasks⟩ := known_issue hc hi
    obtain ⟨hlaunch, hended⟩ := notifyIssue_frame hi
    refine ⟨hstored, fun t ht => ?_, fun notification h => ?_, fun h => ?_⟩
    · exact (List.mem_append.1 ht).elim (fun ht => hsub (hc.tasks t ht)) (htasks t)
    · rw [hnotifications] at h
      exact hsub (hc.notifications notification h)
    · exact hlaunch.symm ▸ hc.ended (hended ▸ h)
  · have htask := hc.tasks t (List.mem_of_getElem? ht)
    obtain ⟨notifications, ended, hframe⟩ := notifyAnswer_frame c.state t reply
    have hserver : (notifyAnswer c.state t reply).1.server = c.state.server := by rw [hframe]
    have hlaunch : (notifyAnswer c.state t reply).1.launchAppDate = c.state.launchAppDate := by
      rw [hframe]
    refine ⟨fun i hsome => ?_, fun t' ht' => ?_, fun notification h => ?_, fun h => ?_⟩
    · have hmem := hc.stored i (hserver ▸ hsome)
      exact hserver.symm ▸ hmem
    · have hmem : t'.documentID ∈ c.state.server.allocated := by
        -- what comes of an answer is about the document its task was about
        rcases Machine.mem_eraseIdx_append ht' with ht' | ht'
        · exact hc.tasks t' ht'
        · rw [documentID_of_mem_answer ht']
          exact htask
      exact hserver.symm ▸ hmem
    · have hmem : notification.documentID ∈ c.state.server.allocated := by
        rcases documentID_of_notification h with h | h
        · exact hc.notifications notification h
        · rw [h]
          exact htask
      exact hserver.symm ▸ hmem
    · have htrap := (ended_answer h).elim hc.ended id
      exact hlaunch.symm ▸ htrap

/-! ## After the addition -/

/-- What the first listeners owe for a request, each. -/
def Timestamp.toNotify (launch time : Date) : ℕ := if launch.SeenBefore time then 1 else 0

/-- What a callback of the request `r` carries for one of the first `n`
listeners, if each of these owes `k`. -/
def NotifyTask.Carries (r : String) (d : Doc PlayRequestTitle) (n k : ℕ) : NotifyTask → Prop
  | .received listener .added documentID document => documentID = r → listener < n → document = d
  | .getUserByFirebaseId listener documentID id => documentID = r → listener < n →
      d.string .requestSenderId = some id ∧ k = 1
  | _ => True

/-- **While a request is being told of.** -/
structure Telling (r : String) (d : Doc PlayRequestTitle) (n k : ℕ) (launch : Date)
    (users : Collection String (Doc UserTitle)) (c : Config Notify NotifyTask) : Prop where
  allocated : r ∈ c.state.server.allocated
  listeners : n ≤ c.state.receiving.length
  running : c.state.ended = true → ¬launch.FitsInt32
  launch : c.state.launchAppDate = some launch
  users : c.state.server.users = users
  tasks : ∀ t ∈ c.pending, t.Carries r d n k

/-- What a callback still owes the first `n` listeners. -/
def NotifyTask.owes (r : String) (n k : ℕ) : NotifyTask → ℕ
  | .received listener .added documentID _ => if documentID = r ∧ listener < n then k else 0
  | .getUserByFirebaseId listener documentID _ => if documentID = r ∧ listener < n then 1 else 0
  | _ => 0

/-- A document that is not `r` owes nothing. -/
theorem owes_of_ne {t : NotifyTask} (h : t.documentID ≠ r) : t.owes r n k = 0 := by
  cases t with
  | sent => rfl
  | getUserByFirebaseId => exact if_neg fun hr => h hr.1
  | received listener type documentID document =>
    cases type with
    | modified | removed => rfl
    | added => exact if_neg fun hr => h hr.1

theorem carries_of_ne {t : NotifyTask} (h : t.documentID ≠ r) : t.Carries r d n k := by
  cases t with
  | sent => trivial
  | getUserByFirebaseId => exact fun hr => absurd hr h
  | received listener type documentID document =>
    cases type with
    | modified | removed => trivial
    | added => exact fun hr => absurd hr h

/-- A change of a document that was there owes nothing. -/
theorem owes_deliver {type : DocumentChangeType} (htype : type ≠ .added) {i : String}
    {d' : Doc PlayRequestTitle} {t : NotifyTask} (h : t ∈ s.deliver type i d') :
    t.owes r n k = 0 ∧ t.Carries r d n k := by
  rcases List.mem_append.1 h with h | h <;> obtain ⟨_, -, rfl⟩ := List.mem_map.1 h
  · cases type with
    | added => exact absurd rfl htype
    | modified | removed => exact ⟨rfl, trivial⟩
  · exact ⟨rfl, trivial⟩

theorem sum_owes_eq_zero (h : ∀ t ∈ ts, t.owes r n k = 0) :
    (ts.map (NotifyTask.owes r n k)).sum = 0 := by
  refine List.sum_eq_zero fun _ howed => ?_
  obtain ⟨t, ht, rfl⟩ := List.mem_map.1 howed
  exact h t ht

/-- **Another event** owes the first listeners nothing for `r`. -/
theorem telling_issue {a : NotifyCall} (hc : Telling r d n k launch users c)
    (hi : notifyIssue c.state a = some (s, ts)) :
    r ∈ s.server.allocated ∧ n ≤ s.receiving.length ∧ s.launchAppDate = some launch ∧
      s.server.users = users ∧ s.notifications = c.state.notifications ∧
      ∀ t ∈ ts, t.owes r n k = 0 ∧ t.Carries r d n k := by
  replace hi := notifyEvent_of_issue hi
  cases a with
  | viewDidLoad =>
    obtain ⟨rfl, rfl⟩ := Prod.mk.inj (Option.some.inj hi)
    have hlength := hc.listeners
    refine ⟨hc.allocated, ?_, hc.launch, hc.users, rfl, fun t ht => ?_⟩
    · simp only [List.length_append]
      omega
    · rcases List.mem_append.1 ht with ht | ht <;> obtain ⟨document, -, rfl⟩ := List.mem_map.1 ht
      · -- the new listener is none of the first
        exact ⟨if_neg fun hr => by omega, fun _ hlt => by omega⟩
      · exact ⟨rfl, trivial⟩
  | logout | saveUserDefault =>
    obtain ⟨rfl, rfl⟩ := Prod.mk.inj (Option.some.inj hi)
    exact ⟨hc.allocated, hc.listeners, hc.launch, hc.users, rfl,
      fun t ht => absurd ht List.not_mem_nil⟩
  | addRequest documentID document =>
    obtain ⟨hnew, heq⟩ := Option.ite_none_left_eq_some.1 hi
    obtain ⟨rfl, rfl⟩ := Prod.mk.inj (Option.some.inj heq)
    have hne : documentID ≠ r := fun h => hnew (h ▸ hc.allocated)
    refine ⟨List.mem_cons_of_mem _ hc.allocated, hc.listeners, hc.launch, hc.users, rfl,
      fun t ht => ?_⟩
    have hother : t.documentID ≠ r := by rwa [documentID_of_mem_deliver ht]
    exact ⟨owes_of_ne hother, carries_of_ne hother⟩
  | updateRequest documentID status | deleteRequest documentID =>
    obtain ⟨document, hdocument, heq⟩ := Option.map_eq_some_iff.1 hi
    obtain ⟨rfl, rfl⟩ := Prod.mk.inj heq
    exact ⟨hc.allocated, hc.listeners, hc.launch, hc.users, rfl,
      fun t ht => owes_deliver (by decide) ht⟩

/-- One more notification. -/
theorem raised_append (notification : LocalNotification) :
    Notify.raised r n { s with notifications := s.notifications ++ [notification] } =
      s.raised r n + if notification.documentID = r ∧ notification.listener < n then 1 else 0 := by
  simp [Notify.raised, List.countP_append, List.countP_cons]

/-- **What is read for the request** is its sender, where it is taken for
new. -/
theorem notifyChange_added (htime : d.timestamp .createTime = some time)
    (hsender : d.string .requestSenderId = some sender) {ids : List String}
    (h : RequestDataManager.notifyChange (some launch) ⟨.added, r, d⟩ = some ids) :
    ids = if launch.SeenBefore time then [sender] else [] := by
  have hsenderId : DocumentChange.senderId ⟨.added, r, d⟩ = sender := by
    rw [DocumentChange.senderId, hsender, Option.getD_some]
  have hchange := @notifyChange_of_added launch ⟨.added, r, d⟩ time rfl htime
  rw [hsenderId] at hchange
  obtain ⟨hfits, heq⟩ := Option.ite_none_right_eq_some.1 (hchange.symm.trans h)
  have hseen : launch.SeenBefore time ↔ launch.int64 < time.seconds := and_iff_right hfits
  rw [← Option.some.inj heq]
  simp only [hseen]

/-- **A callback discharges what it owes**: it raises the notification, or
starts what owes it. -/
def NotifyTask.Discharged (r : String) (d : Doc PlayRequestTitle) (n k : ℕ) (s : Notify)
    (t : NotifyTask) (after : Notify × List NotifyTask) : Prop :=
  after.1.raised r n + (after.2.map (NotifyTask.owes r n k)).sum = s.raised r n + t.owes r n k ∧
    ∀ t' ∈ after.2, t'.Carries r d n k

/-- Nothing owed, nothing raised and nothing started. -/
theorem discharged_nil {t : NotifyTask} (h : t.owes r n k = 0) {s' : Notify}
    (hs : s'.notifications = s.notifications) :
    NotifyTask.Discharged r d n k s t (s', []) := by
  refine ⟨?_, fun t' ht' => absurd ht' List.not_mem_nil⟩
  rw [h, Notify.raised, hs]
  rfl

/-- A launch whose seconds do not fit takes nothing for new. -/
theorem toNotify_eq_zero (h : ¬launch.FitsInt32) : launch.toNotify time = 0 :=
  if_neg fun hs => h hs.1

/-- Where a request owes nothing, no change of it does. -/
theorem owes_received_zero {listener : ℕ} {type : DocumentChangeType} {documentID : String}
    {document : Doc PlayRequestTitle} :
    NotifyTask.owes r n 0 (.received listener type documentID document) = 0 := by
  cases type with
  | modified | removed => rfl
  | added => exact ite_self 0

/-- **The callback of a change of `r`** that a first listener is told: its
sender is read next, if the request is taken for new. -/
theorem discharged_received (hlaunch : s.launchAppDate = some launch)
    (htime : d.timestamp .createTime = some time)
    (hsender : d.string .requestSenderId = some sender) {listener : ℕ} {type : DocumentChangeType}
    {documentID : String} {document : Doc PlayRequestTitle}
    (ht : NotifyTask.Carries r d n (launch.toNotify time)
      (.received listener type documentID document)) :
    NotifyTask.Discharged r d n (launch.toNotify time) s
      (.received listener type documentID document)
      (notifyAnswerOk s (.received listener type documentID document)) := by
  simp only [notifyAnswerOk, hlaunch]
  cases hchange : RequestDataManager.notifyChange (some launch) ⟨type, documentID, document⟩ with
  | none =>
    obtain ⟨launch', heq, hfits⟩ := exists_not_fits_of_trap hchange
    obtain rfl := Option.some.inj heq
    refine discharged_nil ?_ rfl
    rw [toNotify_eq_zero hfits, owes_received_zero]
  | some ids =>
    dsimp only
    by_cases hr : documentID = r ∧ listener < n
    · cases type with
      | modified | removed =>
        obtain rfl := Option.some.inj hchange
        exact discharged_nil rfl rfl
      | added =>
        obtain rfl := hr.1
        obtain rfl := ht rfl hr.2
        have hids := notifyChange_added htime hsender hchange
        by_cases hseen : launch.SeenBefore time
        · rw [if_pos hseen] at hids
          have hone : launch.toNotify time = 1 := if_pos hseen
          rw [hids, hone]
          refine ⟨by simp [NotifyTask.owes], fun t' ht' => ?_⟩
          obtain rfl := List.mem_singleton.1 ht'
          exact fun _ _ => ⟨hsender, rfl⟩
        · rw [if_neg hseen] at hids
          rw [hids, show launch.toNotify time = 0 from if_neg hseen]
          exact discharged_nil owes_received_zero rfl
    · -- another document, or a listener that is none of the first
      have howes : NotifyTask.owes r n (launch.toNotify time)
          (.received listener type documentID document) = 0 := by
        cases type with
        | modified | removed => rfl
        | added => exact if_neg hr
      refine ⟨?_, fun t' ht' => ?_⟩
      · rw [howes, sum_owes_eq_zero fun t' ht' => ?_]
        obtain ⟨id, -, rfl⟩ := List.mem_map.1 ht'
        exact if_neg hr
      · obtain ⟨id, -, rfl⟩ := List.mem_map.1 ht'
        exact fun hid hlt => absurd ⟨hid, hlt⟩ hr

/-- **The callback that has read the sender** raises the notification. -/
theorem discharged_getUserByFirebaseId (hsender : d.string .requestSenderId = some sender)
    (hstored : (s.server.users.get sender).isSome) {listener : ℕ} {documentID id : String}
    (ht : NotifyTask.Carries r d n k (.getUserByFirebaseId listener documentID id)) :
    NotifyTask.Discharged r d n k s (.getUserByFirebaseId listener documentID id)
      (notifyAnswerOk s (.getUserByFirebaseId listener documentID id)) := by
  have hnil : ∀ t' ∈ ([] : List NotifyTask), t'.Carries r d n k :=
    fun t' ht' => absurd ht' List.not_mem_nil
  by_cases hr : documentID = r ∧ listener < n
  · -- the sender of `r` is stored
    obtain ⟨hid, rfl⟩ := ht hr.1 hr.2
    obtain rfl := Option.some.inj (hsender.symm.trans hid)
    obtain ⟨user, huser⟩ := Option.isSome_iff_exists.1 hstored
    simp only [notifyAnswerOk, huser]
    refine ⟨?_, hnil⟩
    rw [raised_append]
    rfl
  · have howes : NotifyTask.owes r n k (.getUserByFirebaseId listener documentID id) = 0 :=
      if_neg hr
    simp only [notifyAnswerOk]
    split
    · exact discharged_nil howes rfl
    · refine ⟨?_, hnil⟩
      rw [howes, raised_append, if_neg hr]
      rfl

/-- Once the app has ended, nothing is owed: no request was taken for
new. -/
theorem owes_eq_zero_of_carries (hzero : launch.toNotify time = 0) {t : NotifyTask}
    (ht : t.Carries r d n (launch.toNotify time)) : t.owes r n (launch.toNotify time) = 0 := by
  cases t with
  | sent => rfl
  | received listener type documentID document =>
    rw [hzero]
    exact owes_received_zero
  | getUserByFirebaseId listener documentID id =>
    refine if_neg fun hr => ?_
    have hone := (ht hr.1 hr.2).2
    omega

/-- **What a callback owes it passes on or pays.** -/
theorem owes_answer (hlaunch : s.launchAppDate = some launch)
    (hrunning : s.ended = true → ¬launch.FitsInt32)
    (htime : d.timestamp .createTime = some time)
    (hsender : d.string .requestSenderId = some sender)
    (hstored : (s.server.users.get sender).isSome) {t : NotifyTask}
    (ht : t.Carries r d n (launch.toNotify time)) :
    NotifyTask.Discharged r d n (launch.toNotify time) s t (notifyAnswer s t .ok) := by
  simp only [notifyAnswer]
  by_cases hended : s.ended
  · rw [if_pos hended]
    exact discharged_nil (owes_eq_zero_of_carries (toNotify_eq_zero (hrunning hended)) ht) rfl
  rw [if_neg hended]
  cases t with
  | sent => exact discharged_nil rfl rfl
  | received listener type documentID document => exact discharged_received hlaunch htime hsender ht
  | getUserByFirebaseId listener documentID id =>
    exact discharged_getUserByFirebaseId hsender hstored ht

/-- **The telling goes on.** -/
theorem Telling.step (htime : d.timestamp .createTime = some time)
    (hsender : d.string .requestSenderId = some sender)
    (hstored : (users.get sender).isSome)
    (hc : Telling r d n (launch.toNotify time) launch users c) (he : Delivered c e)
    (hs : notify.step c e = some c') : Telling r d n (launch.toNotify time) launch users c' := by
  rcases Machine.step_cases hs with ⟨a, s, ts, rfl, hi, rfl⟩ | ⟨i, reply, t, rfl, ht, rfl⟩
  · obtain ⟨hallocated, hlisteners, hlaunch, husers, -, htasks⟩ := telling_issue hc hi
    have hended := (notifyIssue_frame hi).2
    refine ⟨hallocated, hlisteners, fun h => hc.running (hended ▸ h), hlaunch, husers,
      fun t ht => ?_⟩
    exact (List.mem_append.1 ht).elim (hc.tasks t) fun ht => (htasks t ht).2
  · obtain rfl : reply = .ok := he
    obtain ⟨notifications, ended, hframe⟩ := notifyAnswer_frame c.state t .ok
    have hrunning : (notifyAnswer c.state t .ok).1.ended = true → ¬launch.FitsInt32 := by
      intro h
      rcases ended_answer h with hended | ⟨launch', hlaunch, hfits⟩
      · exact hc.running hended
      · rwa [Option.some.inj (hc.launch.symm.trans hlaunch)]
    rw [hframe] at hrunning
    have hstate : (notify.answer c.state t .ok).1 = _ := hframe
    obtain ⟨-, hnew⟩ := owes_answer hc.launch hc.running htime hsender (hc.users.symm ▸ hstored)
      (hc.tasks t (List.mem_of_getElem? ht))
    simp only [hstate]
    refine ⟨hc.allocated, hc.listeners, hrunning, hc.launch, hc.users, fun t' ht' => ?_⟩
    exact (Machine.mem_eraseIdx_append ht').elim (hc.tasks t') (hnew t')

/-- **Every debt of a notification is paid.** -/
theorem pays_notify (htime : d.timestamp .createTime = some time)
    (hsender : d.string .requestSenderId = some sender)
    (hstored : (users.get sender).isSome) :
    Pays notify (fun c e => Delivered c e ∧ Telling r d n (launch.toNotify time) launch users c)
      (Notify.raised r n) (NotifyTask.owes r n (launch.toNotify time)) where
  call {c a s ts} hok hi := by
    obtain ⟨-, -, -, -, hnotifications, htasks⟩ := telling_issue hok.2 hi
    rw [sum_owes_eq_zero fun t ht => (htasks t ht).1, Nat.add_zero, Notify.raised, hnotifications]
    rfl
  answer {c i reply t} hok ht := by
    obtain rfl : reply = .ok := hok.1
    exact (owes_answer hok.2.launch hok.2.running htime hsender (hok.2.users.symm ▸ hstored)
      (hok.2.tasks t (List.mem_of_getElem? ht))).1

/-! ## The addition -/

/-- A listener is told of a document that names the account it is bound
to. -/
theorem isEqualTo_iff {field : PlayRequestTitle} {id : Option String}
    (h : d.string field = some account) : isEqualTo field id d = true ↔ id = some account := by
  obtain ⟨v, hv, htext⟩ := Option.bind_eq_some_iff.1 h
  cases v with
  | string text =>
    obtain rfl := Option.some.inj htext
    cases id with
    | none => simp [isEqualTo, hv]
    | some id =>
      simp only [isEqualTo, hv, beq_iff_eq, Option.some.injEq]
      exact eq_comm
  | _ => cases htext

/-- **What the addition owes**: as much for each listener bound to the
receiver. -/
theorem owed_addRequest (hnew : ∀ t ∈ c.pending, t.documentID ≠ r)
    (hreceiver : d.string .requestReceiverId = some receiver) :
    ((c.pending ++ s.deliver .added r d).map (NotifyTask.owes r s.receiving.length k)).sum =
      s.receiving.count (some receiver) * k := by
  have hpending : (c.pending.map (NotifyTask.owes r s.receiving.length k)).sum = 0 :=
    sum_owes_eq_zero fun t ht => owes_of_ne (hnew t ht)
  have hsent : ((((s.sending.zipIdx.filter fun p => isEqualTo .requestSenderId p.1 d).map fun p =>
      NotifyTask.sent p.2 .added r d)).map (NotifyTask.owes r s.receiving.length k)).sum = 0 := by
    refine sum_owes_eq_zero fun t ht => ?_
    obtain ⟨p, -, rfl⟩ := List.mem_map.1 ht
    rfl
  -- every listener that is told owes `k`
  have heach : ∀ p ∈ s.receiving.zipIdx.filter fun p => isEqualTo .requestReceiverId p.1 d,
      (NotifyTask.owes r s.receiving.length k ∘ fun p : Option String × ℕ =>
        NotifyTask.received p.2 .added r d) p = k := by
    intro p hp
    have hlt := List.snd_lt_of_mem_zipIdx (List.mem_of_mem_filter hp)
    exact if_pos ⟨rfl, by simpa using hlt⟩
  have hcount : (s.receiving.zipIdx.filter fun p => isEqualTo .requestReceiverId p.1 d).length =
      s.receiving.count (some receiver) := by
    calc (s.receiving.zipIdx.filter fun p => isEqualTo .requestReceiverId p.1 d).length
        = (s.receiving.zipIdx.map Prod.fst).countP fun id => isEqualTo .requestReceiverId id d := by
          rw [List.countP_map, List.countP_eq_length_filter]
          rfl
      _ = s.receiving.countP fun id => isEqualTo .requestReceiverId id d := by
          rw [List.zipIdx_map_fst]
      _ = s.receiving.count (some receiver) := by
          refine List.countP_congr fun id _ => ?_
          rw [isEqualTo_iff hreceiver, beq_iff_eq]
  rw [List.map_append, List.sum_append, hpending, Notify.deliver, List.map_append, List.sum_append,
    hsent, List.map_map, List.map_congr_left heach, List.map_const', List.sum_replicate, hcount]
  simp

/-- Nothing is known before the process begins. -/
theorem Notify.Opens.known (h : s₀.Opens) : Known (Config.start s₀) where
  stored := h.allocated
  tasks t ht := absurd ht List.not_mem_nil
  notifications notification hn := by
    rw [Config.start_state, h.notifications] at hn
    cases hn
  ended hended := by
    rw [Config.start_state, h.running] at hended
    cases hended

/-- **The addition** of a request that nothing speaks of yet. -/
theorem telling_addRequest (hknown : Known c₀)
    (hadd : notify.step c₀ (.call (.addRequest r d)) = some c₁)
    (hreceiver : d.string .requestReceiverId = some receiver)
    (hlaunch : c₀.state.launchAppDate = some launch) :
    Telling r d c₀.state.receiving.length k launch c₀.state.server.users c₁ ∧
      c₁.state.raised r c₀.state.receiving.length = 0 ∧
      c₁.owed (NotifyTask.owes r c₀.state.receiving.length k) =
        c₀.state.receiving.count (some receiver) * k := by
  obtain ⟨s, ts, hi, rfl⟩ := Machine.step_call.1 hadd
  obtain ⟨hfree, heq⟩ := Option.ite_none_left_eq_some.1 (notifyEvent_of_issue hi)
  obtain ⟨rfl, rfl⟩ := Prod.mk.inj (Option.some.inj heq)
  -- the id is new, so nothing in flight speaks of it
  have hnew : ∀ t ∈ c₀.pending, t.documentID ≠ r := fun t ht h => hfree (h ▸ hknown.tasks t ht)
  have hrunning : c₀.state.ended = true → ¬launch.FitsInt32 := fun h => by
    obtain ⟨launch', hlaunch', hfits⟩ := hknown.ended h
    rwa [Option.some.inj (hlaunch.symm.trans hlaunch')]
  refine ⟨⟨List.mem_cons_self, Nat.le_refl _, hrunning, hlaunch, rfl, fun t ht => ?_⟩, ?_, ?_⟩
  · rcases List.mem_append.1 ht with ht | ht
    · exact carries_of_ne (hnew t ht)
    · rcases List.mem_append.1 ht with ht | ht <;> obtain ⟨p, -, rfl⟩ := List.mem_map.1 ht
      · exact fun _ _ => rfl
      · trivial
  · refine List.countP_eq_zero.2 fun notification hn => ?_
    have hother : notification.documentID ≠ r := fun h =>
      hfree (h ▸ hknown.notifications notification hn)
    simp [hother]
  · exact owed_addRequest hnew hreceiver

/-- **Who is notified**: each listener that was bound to the receiver by
then, once, where the request is taken for new. -/
theorem raised_eq (hknown : Known c₀) (hadd : notify.step c₀ (.call (.addRequest r d)) = some c₁)
    (hpost : notify.Run Delivered c₁ post c) (hdone : c.pending = [])
    (hreceiver : d.string .requestReceiverId = some receiver)
    (hlaunch : c₀.state.launchAppDate = some launch)
    (htime : d.timestamp .createTime = some time)
    (hsender : d.string .requestSenderId = some sender)
    (hstored : (c₀.state.server.users.get sender).isSome) :
    c.state.raised r c₀.state.receiving.length =
      c₀.state.receiving.count (some receiver) * launch.toNotify time := by
  obtain ⟨htelling, hnone, howed⟩ := telling_addRequest hknown hadd hreceiver hlaunch
  have hpaid := (pays_notify htime hsender hstored).done_eq
    (hpost.strengthen fun _ _ hrun => hrun.invariant htelling fun _ _ _ hc he hs =>
      hc.step htime hsender hstored he hs) hdone
  rw [hpaid, hnone, howed, Nat.zero_add]

/-- **The signed-in account is notified once, and no other**: where the
callback takes the request for new, exactly if the tab bar was loaded once
as the receiver and that is the account that is signed in, or never and it
is not; and where it does not, exactly if it is not. -/
theorem notifiesOnce_iff {ok : Config Notify NotifyTask → Event NotifyCall Reply → Prop}
    (hopen : s₀.Opens) (hpre : notify.Run ok (Config.start s₀) pre c₀)
    (hadd : notify.step c₀ (.call (.addRequest r d)) = some c₁)
    (hpost : notify.Run Delivered c₁ post c) (hdone : c.pending = [])
    (hreceiver : d.string .requestReceiverId = some receiver)
    (hlaunch : c₀.state.launchAppDate = some launch)
    (htime : d.timestamp .createTime = some time)
    (hsender : d.string .requestSenderId = some sender)
    (hstored : (c₀.state.server.users.get sender).isSome) :
    c.state.raised r c₀.state.receiving.length =
        (if c₀.state.firebaseId = some receiver then 1 else 0) ↔
      if launch.SeenBefore time then
        loadsAs receiver s₀.firebaseId pre = if c₀.state.firebaseId = some receiver then 1 else 0
      else c₀.state.firebaseId ≠ some receiver := by
  have hknown : Known c₀ := hpre.invariant hopen.known fun _ _ _ hc _ hs => hc.step hs
  rw [raised_eq hknown hadd hpost hdone hreceiver hlaunch htime hsender hstored,
    count_receiving hopen.receiving hpre, Timestamp.toNotify]
  by_cases hseen : launch.SeenBefore time
  · rw [if_pos hseen, if_pos hseen, Nat.mul_one]
  · rw [if_neg hseen, if_neg hseen, Nat.mul_zero]
    by_cases hme : c₀.state.firebaseId = some receiver
    · rw [if_pos hme]
      exact iff_of_false Nat.zero_ne_one fun h => h hme
    · rw [if_neg hme]
      exact iff_of_true rfl hme

namespace Sample

/-- A process that was launched in second `10`; the finder `"f"` is stored. -/
def launched : Notify where
  server := ⟨Sample.users [("f", [])] (by simp), .empty, .empty, []⟩
  launchAppDate := some ⟨10, 0⟩
  firebaseId := none
  receiving := []
  sending := []
  notifications := []

theorem opens_launched : launched.Opens := ⟨rfl, rfl, nofun, rfl⟩

/-- A request of `"f"` to `"a"`, created in second `11`. -/
def newRequest : Doc PlayRequestTitle :=
  Doc.setData [(.requestSenderId, .string "f"), (.requestReceiverId, .string "a"),
    (.createTime, .timestamp ⟨11, 0⟩)]

/-- A sign-in, and the tab bar. -/
def enter (firebaseId : String) : List (Event NotifyCall Reply) :=
  [.call (.saveUserDefault firebaseId), .call .viewDidLoad]

/-- Somebody signs in where somebody else was signed in before. -/
def changeAccount : List (Event NotifyCall Reply) := enter "a" ++ .call .logout :: enter "b"

/-- The change is told, and the sender read. -/
def tell : List (Event NotifyCall Reply) := [.answer 0 .ok, .answer 0 .ok]

end Sample

theorem notifiesOnce_enter : ∃ c : Config Notify NotifyTask, c.state.raised "r" 1 = 1 := by
  obtain ⟨c₀, c₁, hpre, hadd, hc₀, c, hpost, hdone⟩ : ∃ c₀ c₁,
      notify.Run (fun _ _ => True) (Config.start Sample.launched) (Sample.enter "a") c₀ ∧
      notify.step c₀ (.call (.addRequest "r" Sample.newRequest)) = some c₁ ∧
      c₀.state = { Sample.launched with
        firebaseId := some "a", receiving := [some "a"], sending := [some "a"] } ∧
      ∃ c, notify.Run Delivered c₁ Sample.tell c ∧ c.pending = [] :=
    ⟨_, _, .of_exec ⟨trivial, trivial, trivial⟩ rfl, rfl, rfl, _,
      .of_exec ⟨rfl, rfl, trivial⟩ rfl, rfl⟩
  have hiff := notifiesOnce_iff Sample.opens_launched hpre hadd hpost hdone rfl
    (by rw [hc₀]; rfl) rfl rfl (by rw [hc₀]; rfl)
  rw [hc₀, if_pos (by decide : Timestamp.SeenBefore ⟨10, 0⟩ ⟨11, 0⟩)] at hiff
  exact ⟨c, hiff.2 rfl⟩

/-- **Who was signed in before is still notified**, on the device of somebody
else. -/
theorem not_notifiesOnce : ¬∀ (s₀ : Notify) (pre post : List (Event NotifyCall Reply))
    (c₀ c₁ c : Config Notify NotifyTask) (r receiver sender : String) (d : Doc PlayRequestTitle)
    (launch time : Date), s₀.Opens →
    notify.Run (fun _ _ => True) (Config.start s₀) pre c₀ →
    notify.step c₀ (.call (.addRequest r d)) = some c₁ → notify.Run Delivered c₁ post c →
    c.pending = [] → c₀.state.firebaseId.isSome → d.string .requestReceiverId = some receiver →
    c₀.state.launchAppDate = some launch → d.timestamp .createTime = some time →
    launch.seconds < time.seconds → d.string .requestSenderId = some sender →
    (c₀.state.server.users.get sender).isSome →
    c.state.raised r c₀.state.receiving.length =
      if c₀.state.firebaseId = some receiver then 1 else 0 := by
  intro h
  obtain ⟨c₀, c₁, hpre, hadd, hc₀, c, hpost, hdone, hraised⟩ : ∃ c₀ c₁,
      notify.Run (fun _ _ => True) (Config.start Sample.launched) Sample.changeAccount c₀ ∧
      notify.step c₀ (.call (.addRequest "r" Sample.newRequest)) = some c₁ ∧
      c₀.state = { Sample.launched with
        firebaseId := some "b"
        receiving := [some "a", some "b"]
        sending := [some "a", some "b"] } ∧
      ∃ c, notify.Run Delivered c₁ Sample.tell c ∧ c.pending = [] ∧ c.state.raised "r" 2 = 1 :=
    ⟨_, _, .of_exec ⟨trivial, trivial, trivial, trivial, trivial, trivial⟩ rfl, rfl, rfl, _,
      .of_exec ⟨rfl, rfl, trivial⟩ rfl, rfl, rfl⟩
  have hnone := h _ _ _ _ _ _ _ "a" "f" _ ⟨10, 0⟩ ⟨11, 0⟩ Sample.opens_launched hpre hadd hpost
    hdone (by rw [hc₀]; rfl) rfl (by rw [hc₀]; rfl) rfl (by decide) rfl (by rw [hc₀]; rfl)
  rw [hc₀] at hnone
  exact absurd (hraised.symm.trans hnone) (by decide)

end Volleyer
