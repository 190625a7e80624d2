import Volleyer.Roster.Fresh
import Volleyer.Roster.Sample

/-!
# The roster — the statuses of a request

The received-requests screen shows its two buttons for a copy with
status `0`, and the info screen disables its one for a copy with status
`-1`. The copies are as old as the screens, and what a button sets off
writes the status whatever is stored by then. So a request is not always
left where it was denied or cancelled. It is where the buttons are tapped
in time (`statusesFinal_of_timely`): while what is stored is still what the
row shows, not a denied request to be cancelled, and with no other decision
on the request on its way.
-/

namespace Volleyer

variable {s s' : Server} {r : String} {a b : ℤ}

/-! ## What is claimed -/

/-- The statuses the screens write and `saveRequest` creates: pending,
accepted, denied, cancelled. -/
def statuses : List ℤ := [0, 99, 1, -1]

/-- The transitions a request is meant to make. -/
def Transition (a b : ℤ) : Prop := (a, b) ∈ [((0 : ℤ), (99 : ℤ)), (0, 1), (0, -1), (99, -1)]

instance : Decidable (Transition a b) := inferInstanceAs (Decidable (_ ∈ _))

/-- What one step is meant to do to the statuses. -/
def Moves (s' s : Server) : Prop :=
  ∀ r a b, s.status r = some a → s'.status r = some b → a = b ∨ Transition a b

/-- **Denied and cancelled are final.** Of the states of a run, latest
first: each step makes only the transitions meant, and what was denied or
cancelled in one state is so in every later one. -/
structure StatusesFinal (hist : List Server) : Prop where
  moves : hist.IsChain Moves
  final : hist.Pairwise fun s' s => ∀ r a b, a = 1 ∨ a = -1 → s.status r = some a →
    s'.status r = some b → b = a

/-! ## What the screens do -/

/-- What the screens call: the received-requests screen accepts or denies
from a copy that is pending, the info screen cancels from one that is not
cancelled. Other screens call what they like. -/
def ScreenCall (hist : List Server) : Call → Prop
  | .updateRequest request status =>
      LoadedRequest hist request ∧ request.status = 0 ∧ (status = 99 ∨ status = 1)
  | .cancelRequest request => LoadedRequest hist request ∧ request.status ≠ -1
  | _ => True

/-- Any interleaving of the screens' calls; any answer may be a failure. -/
def Screens (c : Config Server Task) : Event Call Reply → Prop
  | .call a => ScreenCall c.seen a
  | .answer _ _ => True

/-- The writes of a status that are not meant for the one stored: an
acceptance or a denial of a cancelled request, an acceptance of a denied
one, a denial of an accepted one, a cancellation of a denied one. -/
def Task.LandsOn (s : Server) : Task → Prop
  | .updateStatus request status => s.status request.id ≠ some (-1) ∧
      (status = 99 → s.status request.id ≠ some 1) ∧ (status = 1 → s.status request.id ≠ some 99)
  | .cancelStatus request => s.status request.id ≠ some 1
  | _ => True

/-- **Every write of a status lands where it was meant to.** -/
def Lands (c : Config Server Task) : Event Call Reply → Prop
  | .answer i .ok => ∀ t, c.pending[i]? = some t → t.LandsOn c.state
  | _ => True

/-- The status a write in flight gives a request. -/
def Task.sets : Task → Option (String × ℤ)
  | .updateStatus request status => some (request.id, status)
  | .cancelStatus request => some (request.id, -1)
  | _ => none

/-- **The buttons are tapped in time.** Accept and deny: the stored status is
the one the row shows, or already the one the tap is for. Cancel: the
request is not stored as denied. And whatever write of its status is still
in flight is of the same status. -/
def Timely (c : Config Server Task) : Event Call Reply → Prop
  | .call (.updateRequest request n) =>
      (∀ a, c.state.status request.id = some a → a = request.status ∨ a = n) ∧
      ∀ t ∈ c.pending, ∀ b, t.sets = some (request.id, b) → b = n
  | .call (.cancelRequest request) => c.state.status request.id ≠ some 1 ∧
      ∀ t ∈ c.pending, ∀ b, t.sets = some (request.id, b) → b = -1
  | _ => True

/-! ## One step -/

/-- Every stored request has a status, one of the four. -/
def StatusesKnown (s : Server) : Prop :=
  ∀ r, (s.requests.get r).isSome → ∃ a ∈ statuses, s.status r = some a

theorem isSome_of_status (h : s.status r = some a) : (s.requests.get r).isSome := by
  obtain ⟨d, hd, -⟩ := Option.bind_eq_some_iff.1 h
  rw [hd]
  rfl

theorem StatusesKnown.mem (h : StatusesKnown s) (ha : s.status r = some a) : a ∈ statuses := by
  obtain ⟨b, hb, hrb⟩ := h r (isSome_of_status ha)
  exact Option.some.inj (hrb.symm.trans ha) ▸ hb

/-- What a task in flight will write as a status. -/
def Task.WritesStatus : Task → Prop
  | .querySameRequest _ data _ _ | .setRequest _ data => (Doc.setData data).int .status = some 0
  | .updateStatus _ status => status = 99 ∨ status = 1
  | _ => True

/-- **A status after an answer** is the one before it, that of a request
just created, or the one the answered task wrote. -/
theorem status_of_answer {t : Task} {x : Reply} (h : (answer s t x).1.status r = some b) :
    s.status r = some b ∨
      (∃ data, t = .setRequest r data ∧ (Doc.setData data).int .status = some b) ∨
      ∃ request, (t = .updateStatus request b ∨ t = .cancelStatus request ∧ b = -1) ∧
        request.id = r := by
  rcases answer_requests s t x with hr | ⟨j, data, rfl, hr⟩ | ⟨request, n, ht, -, -, hr⟩ |
    ⟨j, -, hr⟩ <;> rw [Server.status, hr] at h
  · exact Or.inl h
  · rw [Collection.get_set] at h
    split at h
    · rename_i hrj
      exact Or.inr (Or.inl ⟨data, by rw [hrj], h⟩)
    · exact Or.inl h
  · rw [← Server.status, Server.status_updateRequest] at h
    split at h
    · rename_i hrr
      obtain ⟨d, -, rfl⟩ := Option.map_eq_some_iff.1 h
      exact Or.inr (Or.inr ⟨request, ht, hrr.symm⟩)
    · exact Or.inl h
  · rw [Collection.get_delete] at h
    split at h
    · cases h
    · exact Or.inl h

/-- A stored request has the status its write leaves. -/
theorem status_of_write {t : Task} (ht : t.sets = some (r, b)) (ha : s.status r = some a) :
    (answerOk s t).1.status r = some b := by
  obtain ⟨d, hd, -⟩ := Option.bind_eq_some_iff.1 ha
  have hwrite : (s.updateRequest r [(.status, .int b)]).status r = some b := by
    rw [Server.status_updateRequest, if_pos rfl, hd, Option.map_some]
  cases t with
  | updateStatus request n =>
    obtain ⟨rfl, rfl⟩ := Prod.mk.inj (Option.some.inj ht)
    simpa only [answerOk, hd] using hwrite
  | cancelStatus request =>
    obtain ⟨rfl, rfl⟩ := Prod.mk.inj (Option.some.inj ht)
    simpa only [answerOk, hd] using hwrite
  | _ => cases ht

/-- A write in flight will find its request with a status it may move on. -/
def Task.InTime (s : Server) (t : Task) : Prop :=
  ∀ r a b, t.sets = some (r, b) → s.status r = some a → a = b ∨ Transition a b

/-- Such a write lands where it was meant to. -/
theorem Task.InTime.landsOn {t : Task} (h : t.InTime s) (ht : t.WritesStatus) : t.LandsOn s := by
  cases t with
  | updateStatus request n =>
    have hmove : ∀ a, s.status request.id = some a → a = n ∨ Transition a n := fun a =>
      h request.id a n rfl
    refine ⟨fun ha => ?_, fun hn ha => ?_, fun hn ha => ?_⟩
    · rcases ht with rfl | rfl <;> exact absurd (hmove _ ha) (by decide)
    · subst hn
      exact absurd (hmove _ ha) (by decide)
    · subst hn
      exact absurd (hmove _ ha) (by decide)
  | cancelStatus request =>
    intro ha
    exact absurd (h request.id 1 (-1) rfl ha) (by decide)
  | _ => trivial

theorem mem_statuses : a ∈ statuses ↔ a = 0 ∨ a = 99 ∨ a = 1 ∨ a = -1 := by
  simp [statuses]

/-- A call moves no status. -/
theorem moves_of_requests_eq (h : s'.requests = s.requests) : Moves s' s := by
  intro r a b ha hb
  rw [Server.status, h, ← Server.status, ha] at hb
  exact Or.inl (Option.some.inj hb)

/-- **A step moves the statuses as meant exactly when its write lands
where it was meant to.** -/
theorem moves_answer_iff (hknown : StatusesKnown s) {t : Task} (ht : t.WritesStatus)
    (hnew : ∀ i, t.newId = some i → ¬s.Stores i) :
    Moves (answer s t .ok).1 s ↔ t.LandsOn s := by
  constructor
  · intro h
    have hintime : t.InTime s := fun r a b hb ha => h r a b ha (status_of_write hb ha)
    exact hintime.landsOn ht
  · intro h r a b ha hb
    rcases status_of_answer hb with hb | ⟨data, rfl, -⟩ | ⟨request, hreq, rfl⟩
    · exact Or.inl (Option.some.inj (ha.symm.trans hb))
    · obtain ⟨d, hd, -⟩ := Option.bind_eq_some_iff.1 ha
      exact absurd (Or.inr (by rw [hd]; rfl)) (hnew r rfl)
    · have hmem := mem_statuses.1 (hknown.mem ha)
      rcases hreq with rfl | ⟨rfl, rfl⟩
      · obtain ⟨h1, h2, h3⟩ := h
        rw [ha] at h1 h2 h3
        rcases ht with rfl | rfl
        · rcases hmem with rfl | rfl | rfl | rfl
          · exact Or.inr (by decide)
          · exact Or.inl rfl
          · exact absurd rfl (h2 rfl)
          · exact absurd rfl h1
        · rcases hmem with rfl | rfl | rfl | rfl
          · exact Or.inr (by decide)
          · exact absurd rfl (h3 rfl)
          · exact Or.inl rfl
          · exact absurd rfl h1
      · have h1 : s.status request.id ≠ some 1 := h
        rw [ha] at h1
        rcases hmem with rfl | rfl | rfl | rfl
        · exact Or.inr (by decide)
        · exact Or.inr (by decide)
        · exact absurd rfl h1
        · exact Or.inl rfl

/-! ## Runs -/

section

variable {s₀ : Server} {evs : List (Event Call Reply)} {c c' : Config Server Task}
  {e : Event Call Reply}

/-- **The statuses and the writes in flight of a run of the screens.** -/
theorem statuses_of_run (hknown : StatusesKnown s₀)
    (hrun : roster.Run Screens (Config.start s₀) evs c) :
    StatusesKnown c.state ∧ ∀ t ∈ c.pending, t.WritesStatus := by
  refine hrun.forall_pending (I := fun s _ => StatusesKnown s) (J := fun _ _ t => t.WritesStatus)
    hknown (by simp) (fun c a s ts hI hok hi => ?_) (fun c i x t hI ht hok hti => ?_)
  · refine ⟨fun r hr => ?_, fun t ht => ?_, fun t ht => ht⟩
    · rw [Server.status, (issue_eq hi).2.2]
      exact hI r ((issue_eq hi).2.2 ▸ hr)
    · cases a with
      | savePlay play j now =>
        obtain ⟨-, rfl, rfl⟩ := allocate_eq_some.1 hi
        obtain rfl := List.mem_singleton.1 ht
        trivial
      | saveRequest play players me j now =>
        obtain ⟨-, rfl, rfl⟩ := allocate_eq_some.1 hi
        obtain rfl := List.mem_singleton.1 ht
        rfl
      | updatePlay play =>
        obtain ⟨rfl, rfl⟩ := Prod.mk.inj (Option.some.inj hi)
        obtain rfl := List.mem_singleton.1 ht
        trivial
      | deletePlay play =>
        obtain ⟨rfl, rfl⟩ := Prod.mk.inj (Option.some.inj hi)
        rw [deletePlay_eq, List.mem_cons, List.mem_append, List.mem_singleton] at ht
        rcases ht with rfl | ht | rfl
        · trivial
        · obtain ⟨u, -, rfl⟩ := List.mem_map.1 ht
          trivial
        · trivial
      | updateRequest request n =>
        obtain ⟨rfl, rfl⟩ := Prod.mk.inj (Option.some.inj hi)
        obtain rfl := List.mem_singleton.1 ht
        exact hok.2.2
      | cancelRequest request =>
        obtain ⟨rfl, rfl⟩ := Prod.mk.inj (Option.some.inj hi)
        obtain rfl := List.mem_singleton.1 ht
        trivial
  · refine ⟨fun r hr => ?_, fun t' ht' => ?_, fun t' ht' => ht'⟩
    · rw [roster_answer] at hr ⊢
      rcases answer_requests c.state t x with hq | ⟨j, data, rfl, hq⟩ | ⟨request, n, hn, -, -, hq⟩ |
        ⟨j, -, hq⟩ <;> rw [hq] at hr <;> rw [Server.status, hq]
      · exact hI r hr
      · rw [Collection.get_set] at hr ⊢
        split
        · exact ⟨0, by decide, ht⟩
        · rename_i hrj
          rw [if_neg hrj] at hr
          exact hI r hr
      · -- a call of the screens writes one of the known statuses
        rw [Server.get_requests_updateRequest] at hr
        rw [← Server.status, Server.status_updateRequest]
        split
        · rename_i hrr
          rw [if_pos hrr, Option.isSome_map] at hr
          obtain ⟨d, hd⟩ := Option.isSome_iff_exists.1 hr
          rw [hd]
          refine ⟨n, ?_, rfl⟩
          rcases hn with rfl | ⟨-, rfl⟩
          · rcases ht with rfl | rfl <;> decide
          · decide
        · rename_i hrr
          rw [if_neg hrr] at hr
          exact hI r hr
      · rw [Collection.get_delete] at hr ⊢
        split
        · rename_i hrj
          rw [if_pos hrj] at hr
          cases hr
        · rename_i hrj
          rw [if_neg hrj] at hr
          exact hI r hr
    · rcases mem_answer ht' with ⟨j, data, play, me, rfl, rfl⟩ | ⟨_, _, _, rfl⟩ | ⟨_, _, rfl⟩ |
        ⟨_, _, _, rfl⟩ | ⟨_, _, rfl⟩ | ⟨_, _, -, rfl⟩
      · exact ht
      all_goals trivial

/-- A document that one state of a run stores and a later one stores too
is stored between them. -/
theorem stores_between (hf : Fresh c) (hs : roster.step c e = some c') (hmem : s ∈ c.seen)
    (h : (s.requests.get r).isSome) (h' : (c'.state.requests.get r).isSome) :
    (c.state.requests.get r).isSome := by
  rcases Machine.step_cases hs with ⟨x, s', ts, -, hi, rfl⟩ | ⟨i, x, t, -, ht, rfl⟩
  · rwa [(issue_eq hi).2.2] at h'
  · have hnew : ∀ j, t.newId = some j → ¬s.Stores j := fun j hj =>
      hf.unused j (List.mem_filterMap.2 ⟨t, List.mem_of_getElem? ht, hj⟩) s hmem
    rw [roster_answer] at h'
    rcases answer_requests c.state t x with hr | ⟨j, data, rfl, hr⟩ | ⟨request, n, -, -, -, hr⟩ |
      ⟨j, -, hr⟩ <;> rw [hr] at h'
    · exact h'
    · rw [Collection.get_set] at h'
      split at h'
      · rename_i hrj
        exact absurd (Or.inr (hrj ▸ h)) (hnew j rfl)
      · exact h'
    · rw [Server.get_requests_updateRequest] at h'
      split at h'
      · rename_i hrr
        rw [Option.isSome_map] at h'
        exact hrr ▸ h'
      · exact h'
    · rw [Collection.get_delete] at h'
      split at h'
      · cases h'
      · exact h'

/-- **One step of a run** moves the statuses as meant exactly when its
write lands where it was meant to. -/
theorem moves_iff_lands (hf : Fresh c) (hknown : StatusesKnown c.state)
    (hwrites : ∀ t ∈ c.pending, t.WritesStatus) (hs : roster.step c e = some c') :
    Moves c'.state c.state ↔ Lands c e := by
  rcases Machine.step_cases hs with ⟨x, s', ts, rfl, hi, rfl⟩ | ⟨i, x, t, rfl, ht, rfl⟩
  · exact iff_of_true (moves_of_requests_eq (issue_eq hi).2.2) trivial
  · have hmem : t ∈ c.pending := List.mem_of_getElem? ht
    cases x with
    | failed => exact iff_of_true (moves_of_requests_eq rfl) trivial
    | ok =>
      have hnew : ∀ j, t.newId = some j → ¬c.state.Stores j := fun j hj =>
        hf.unused j (List.mem_filterMap.2 ⟨t, hmem, hj⟩) c.state List.mem_cons_self
      rw [roster_answer, moves_answer_iff hknown (hwrites t hmem) hnew]
      refine ⟨fun h t' ht' => ?_, fun h => h t ht⟩
      obtain rfl := Option.some.inj (ht.symm.trans ht')
      exact h

/-- **Denied and cancelled are final in exactly the runs whose writes
land where they were meant to**: no acceptance or denial on a cancelled
request, no acceptance on a denied one, no denial on an accepted one, and
no cancellation of a denied one. -/
theorem statusesFinal_iff (hstores : ∀ i, s₀.Stores i → i ∈ s₀.allocated)
    (hknown : StatusesKnown s₀) (hrun : roster.Run Screens (Config.start s₀) evs c) :
    StatusesFinal c.seen ↔ roster.Run Lands (Config.start s₀) evs c := by
  induction hrun with
  | nil =>
    exact iff_of_true ⟨.singleton _, List.pairwise_singleton _ _⟩ .nil
  | @snoc evs c e c' hr he hs ih =>
    have hf : Fresh c := fresh_of_run hstores hr
    obtain ⟨hk, hw⟩ := statuses_of_run hknown hr
    have hmoves : Moves c'.state c.state ↔ Lands c e := moves_iff_lands hf hk hw hs
    have hseen : c'.seen = c'.state :: c.seen := by rw [Config.seen, Machine.step_past hs]
    rw [hseen]
    constructor
    · rintro ⟨hchain, hpair⟩
      rw [Config.seen, List.isChain_cons_cons] at hchain
      have hlast : roster.Run Lands (Config.start s₀) evs c :=
        ih.1 ⟨hchain.2, (List.pairwise_cons.1 hpair).2⟩
      exact hlast.snoc (hmoves.1 hchain.1) hs
    · intro h
      obtain ⟨c₁, hr₁, he₁, -⟩ := h.snoc_inv
      obtain rfl := hr₁.unique hr
      obtain ⟨hchain, hpair⟩ := ih.2 hr₁
      have hstep := hmoves.2 he₁
      refine ⟨List.isChain_cons_cons.2 ⟨hstep, hchain⟩, List.pairwise_cons.2 ⟨?_, hpair⟩⟩
      intro s hmem r a b ha hsa hb
      -- between the two states the request kept its status
      have hstored := stores_between hf hs hmem (isSome_of_status hsa) (isSome_of_status hb)
      obtain ⟨a', -, ha'⟩ := hk r hstored
      have haa : a' = a := by
        rcases List.mem_cons.1 hmem with rfl | hmem
        · exact Option.some.inj (ha'.symm.trans hsa)
        · exact (List.pairwise_cons.1 hpair).1 s hmem r a a' ha hsa ha'
      rcases hstep r a' b ha' hb with hab | hab
      · exact hab.symm.trans haa
      · subst haa
        rcases ha with rfl | rfl <;> simp [Transition] at hab

end

/-! ## Buttons tapped in time -/

/-- **What is in flight is in time**: each write of a status finds one it may
move on, and two of one request write the same. -/
structure InTime (c : Config Server Task) : Prop where
  each : ∀ t ∈ c.pending, t.InTime c.state
  agree : ∀ t ∈ c.pending, ∀ t' ∈ c.pending, ∀ r b b', t.sets = some (r, b) →
    t'.sets = some (r, b') → b = b'

/-- A status a write of the screens gives can be given to a new request. -/
theorem transition_of_sets {t : Task} (ht : t.WritesStatus) (h : t.sets = some (r, b)) :
    Transition 0 b := by
  cases t with
  | updateStatus request n =>
    obtain ⟨-, rfl⟩ := Prod.mk.inj (Option.some.inj h)
    rcases ht with rfl | rfl <;> decide
  | cancelStatus request =>
    obtain ⟨-, rfl⟩ := Prod.mk.inj (Option.some.inj h)
    decide
  | _ => cases h

/-- What a call puts in flight to write a status. -/
theorem sets_of_issue {x : Call} {ts : List Task} (hi : issue s x = some (s', ts)) {t : Task}
    (ht : t ∈ ts) (h : t.sets = some (r, b)) :
    (∃ request, x = .updateRequest request b ∧ request.id = r ∧ ts = [t]) ∨
      ∃ request, x = .cancelRequest request ∧ request.id = r ∧ b = -1 ∧ ts = [t] := by
  cases x with
  | savePlay play j now =>
    obtain ⟨-, rfl, rfl⟩ := allocate_eq_some.1 hi
    obtain rfl := List.mem_singleton.1 ht
    cases h
  | saveRequest play players me j now =>
    obtain ⟨-, rfl, rfl⟩ := allocate_eq_some.1 hi
    obtain rfl := List.mem_singleton.1 ht
    cases h
  | updatePlay play =>
    obtain ⟨rfl, rfl⟩ := Prod.mk.inj (Option.some.inj hi)
    obtain rfl := List.mem_singleton.1 ht
    cases h
  | deletePlay play =>
    obtain ⟨rfl, rfl⟩ := Prod.mk.inj (Option.some.inj hi)
    rw [deletePlay_eq, List.mem_cons, List.mem_append, List.mem_singleton] at ht
    rcases ht with rfl | ht | rfl
    · cases h
    · obtain ⟨u, -, rfl⟩ := List.mem_map.1 ht
      cases h
    · cases h
  | updateRequest request n =>
    obtain ⟨rfl, rfl⟩ := Prod.mk.inj (Option.some.inj hi)
    obtain rfl := List.mem_singleton.1 ht
    obtain ⟨rfl, rfl⟩ := Prod.mk.inj (Option.some.inj h)
    exact Or.inl ⟨request, rfl, rfl, rfl⟩
  | cancelRequest request =>
    obtain ⟨rfl, rfl⟩ := Prod.mk.inj (Option.some.inj hi)
    obtain rfl := List.mem_singleton.1 ht
    obtain ⟨rfl, rfl⟩ := Prod.mk.inj (Option.some.inj h)
    exact Or.inr ⟨request, rfl, rfl, rfl, rfl⟩

namespace InTime

variable {c : Config Server Task}

/-- **A tap in time keeps it**: the new write finds the status the row shows,
and the others in flight write the same. -/
theorem issue (h : InTime c) (hknown : StatusesKnown c.state) {x : Call} {ts : List Task}
    (hscreen : ScreenCall c.seen x) (htimely : Timely c (.call x))
    (hi : Volleyer.issue c.state x = some (s', ts)) : InTime ⟨s', c.seen, c.pending ++ ts⟩ := by
  have hstatus : ∀ r, s'.status r = c.state.status r := fun r => by
    rw [Server.status, Server.status, (issue_eq hi).2.2]
  -- a new write finds a status it may move on, and its like in flight
  have hnew : ∀ t ∈ ts, t.InTime c.state ∧ ∀ t' ∈ c.pending, ∀ r b b', t.sets = some (r, b) →
      t'.sets = some (r, b') → b' = b := by
    intro t ht
    refine ⟨fun r a b hb ha => ?_, fun t' ht' r b b' hb hb' => ?_⟩
    · rcases sets_of_issue hi ht hb with ⟨request, rfl, rfl, -⟩ | ⟨request, rfl, rfl, rfl, -⟩
      · obtain ⟨-, hzero, hn⟩ := hscreen
        rcases htimely.1 a ha with rfl | rfl
        · rw [hzero]
          right
          rcases hn with rfl | rfl <;> decide
        · exact Or.inl rfl
      · have hne : a ≠ 1 := fun hone => htimely.1 (hone ▸ ha)
        rcases mem_statuses.1 (hknown.mem ha) with rfl | rfl | rfl | rfl
        · exact Or.inr (by decide)
        · exact Or.inr (by decide)
        · exact absurd rfl hne
        · exact Or.inl rfl
    · rcases sets_of_issue hi ht hb with ⟨request, rfl, rfl, -⟩ | ⟨request, rfl, rfl, rfl, -⟩
      · exact htimely.2 t' ht' b' hb'
      · exact htimely.2 t' ht' b' hb'
  have hone : ∀ t ∈ ts, ∀ t' ∈ ts, ∀ r b b', t.sets = some (r, b) → t'.sets = some (r, b') →
      b = b' := by
    intro t ht t' ht' r b b' hb hb'
    have hsingle : ts = [t] := by
      rcases sets_of_issue hi ht hb with ⟨_, -, -, hts⟩ | ⟨_, -, -, -, hts⟩ <;> exact hts
    obtain rfl : t' = t := List.mem_singleton.1 (hsingle ▸ ht')
    exact (Prod.mk.inj (Option.some.inj (hb.symm.trans hb'))).2
  refine ⟨fun t ht r a b hb ha => ?_, fun t ht t' ht' r b b' hb hb' => ?_⟩
  · have ha' : c.state.status r = some a := (hstatus r).symm.trans ha
    rcases List.mem_append.1 ht with ht | ht
    · exact h.each t ht r a b hb ha'
    · exact (hnew t ht).1 r a b hb ha'
  · rcases List.mem_append.1 ht with ht | ht <;> rcases List.mem_append.1 ht' with ht' | ht'
    · exact h.agree t ht t' ht' r b b' hb hb'
    · exact (hnew t' ht').2 t ht r b' b hb' hb
    · exact ((hnew t ht).2 t' ht' r b b' hb hb').symm
    · exact hone t ht t' ht' r b b' hb hb'

/-- No callback goes on to write a status. -/
theorem sets_of_answer {t t' : Task} {x : Reply} (h : t' ∈ (Volleyer.answer s t x).2) :
    t'.sets = none := by
  rcases mem_answer h with ⟨_, _, _, _, -, rfl⟩ | ⟨_, _, _, rfl⟩ | ⟨_, _, rfl⟩ |
    ⟨_, _, _, rfl⟩ | ⟨_, _, rfl⟩ | ⟨_, _, -, rfl⟩ <;> rfl

/-- **An answer keeps it**: what it writes is what the others write. -/
theorem answer (h : InTime c) (hwrites : ∀ t ∈ c.pending, t.WritesStatus) {i : ℕ} {x : Reply}
    {t : Task} (ht : c.pending[i]? = some t) : InTime ⟨(Volleyer.answer c.state t x).1, c.seen,
      c.pending.eraseIdx i ++ (Volleyer.answer c.state t x).2⟩ := by
  have hmem : t ∈ c.pending := List.mem_of_getElem? ht
  have hold : ∀ {t' r b}, t' ∈ c.pending.eraseIdx i ++ (Volleyer.answer c.state t x).2 →
      t'.sets = some (r, b) → t' ∈ c.pending := by
    intro t' r b ht' hb
    rcases Machine.mem_eraseIdx_append ht' with hmem' | hspawned
    · exact hmem'
    · rw [sets_of_answer hspawned] at hb
      cases hb
  refine ⟨fun t' ht' r a b hb ha => ?_, fun t₁ ht₁ t₂ ht₂ r b b' hb hb' =>
    h.agree t₁ (hold ht₁ hb) t₂ (hold ht₂ hb') r b b' hb hb'⟩
  have hmem' : t' ∈ c.pending := hold ht' hb
  rcases status_of_answer ha with hsame | ⟨data, rfl, hdata⟩ | ⟨request, hwrite, rfl⟩
  · exact h.each t' hmem' r a b hb hsame
  · -- the request is new, and so pending
    have hzero : (Doc.setData data).int .status = some 0 := hwrites _ hmem
    obtain rfl := Option.some.inj (hzero.symm.trans hdata)
    exact Or.inr (transition_of_sets (hwrites t' hmem') hb)
  · have hsets : t.sets = some (request.id, a) := by
      rcases hwrite with rfl | ⟨rfl, rfl⟩ <;> rfl
    exact Or.inl (h.agree t hmem t' hmem' request.id a b hsets hb)

end InTime

/-- What is in flight is in time, wherever a run of timely taps leads. -/
theorem inTime_of_run {s₀ : Server} {evs : List (Event Call Reply)} {c : Config Server Task}
    (hknown : StatusesKnown s₀)
    (hrun : roster.Run (fun c e => Screens c e ∧ Timely c e) (Config.start s₀) evs c) :
    InTime c := by
  have hstart : InTime (Config.start s₀ : Config Server Task) :=
    ⟨fun t ht => absurd ht List.not_mem_nil, fun t ht => absurd ht List.not_mem_nil⟩
  have hall := hrun.strengthen (P := fun c => StatusesKnown c.state ∧
    ∀ t ∈ c.pending, t.WritesStatus) fun _ _ hr =>
      statuses_of_run hknown (hr.mono fun _ _ he => he.1)
  refine hall.invariant hstart fun c e c' hc he hs => ?_
  obtain ⟨⟨hscreen, htimely⟩, hk, hw⟩ := he
  rcases Machine.step_cases hs with ⟨x, s', ts, rfl, hi, rfl⟩ | ⟨i, x, t, rfl, ht, rfl⟩
  · exact hc.issue hk hscreen htimely hi
  · exact hc.answer hw ht

/-- **Tapped in time, denied and cancelled are final.** Of the finder's and
the senders' screens, any number of them and as old as they like, and of
all other operations, in any order and with any failures: where each tap
finds its request stored as the row shows it, or as the tap would leave it,
no cancellation is of a denied request, and no other decision on the
request is on its way, no request that was denied or cancelled changes
again, and the statuses change as they are meant to. -/
theorem statusesFinal_of_timely {s₀ : Server} {evs : List (Event Call Reply)}
    {c : Config Server Task} (hstores : ∀ i, s₀.Stores i → i ∈ s₀.allocated)
    (hknown : StatusesKnown s₀)
    (hrun : roster.Run (fun c e => Screens c e ∧ Timely c e) (Config.start s₀) evs c) :
    StatusesFinal c.seen := by
  refine (statusesFinal_iff hstores hknown (hrun.mono fun _ _ he => he.1)).2 ?_
  have hall := hrun.strengthen (P := fun c => InTime c ∧ ∀ t ∈ c.pending, t.WritesStatus)
    fun _ _ hr => ⟨inTime_of_run hknown hr,
      (statuses_of_run hknown (hr.mono fun _ _ he => he.1)).2⟩
  refine hall.mono fun c e he => ?_
  cases e with
  | call x => trivial
  | answer i x =>
    cases x with
    | failed => trivial
    | ok =>
      intro t ht
      have hmem : t ∈ c.pending := List.mem_of_getElem? ht
      exact (he.2.1.each t hmem).landsOn (he.2.2 t hmem)

theorem Sample.statusesKnown (n : ℤ) (h : n ∈ statuses) : StatusesKnown (Sample.oneRequest n) := by
  intro r hr
  obtain ⟨d, hd⟩ := Option.isSome_iff_exists.1 hr
  obtain ⟨q, hq, rfl, rfl⟩ := Sample.get_requests (by simp) hd
  obtain rfl := List.mem_singleton.1 hq
  exact ⟨n, h, by rw [Server.status, hd]; rfl⟩

/-- A request that is accepted and then left. -/
theorem statusesFinal_leave : ∃ c, roster.exec (Config.start (Sample.oneRequest 0))
    [.call (.updateRequest (Sample.request "r" "u" "p" 0) 99), .answer 0 .ok,
      .call (.cancelRequest (Sample.request "r" "u" "p" 99)), .answer 2 .ok] = some c ∧
    c.state.status "r" = some (-1) ∧ StatusesFinal c.seen := by
  have hrun : roster.Run (fun c e => Screens c e ∧ Timely c e) (Config.start (Sample.oneRequest 0))
      [.call (.updateRequest (Sample.request "r" "u" "p" 0) 99), .answer 0 .ok,
        .call (.cancelRequest (Sample.request "r" "u" "p" 99)), .answer 2 .ok] _ :=
    .of_exec ⟨⟨⟨⟨_, List.mem_cons_self, _, ⟨0, 0⟩, rfl, .inl rfl⟩, rfl, .inl rfl⟩, ?_,
      List.forall_mem_nil _⟩, ⟨trivial, trivial⟩,
      ⟨⟨⟨_, List.mem_cons_self, _, ⟨0, 0⟩, rfl, .inl rfl⟩, by decide⟩, ?_, ?_⟩,
      ⟨trivial, trivial⟩, trivial⟩ rfl
  · exact ⟨_, rfl, rfl, statusesFinal_of_timely Sample.mem_allocated_store
      (Sample.statusesKnown 0 (by decide)) hrun⟩
  · intro a ha
    exact Or.inl (Option.some.inj ha).symm
  · exact (by decide : some (99 : ℤ) ≠ some 1)
  · -- the two reads of the acceptance are in flight
    refine List.forall_mem_cons.2 ⟨fun b hb => ?_, List.forall_mem_singleton.2 fun b hb => ?_⟩
    · cases hb
    · cases hb

/-- **They are not final in every run**: the sender cancels, and the
finder, whose screen still shows the pending copy, accepts. -/
theorem not_statusesFinal : ¬∀ (s₀ : Server) (evs : List (Event Call Reply))
    (c : Config Server Task), (∀ i, s₀.Stores i → i ∈ s₀.allocated) → StatusesKnown s₀ →
    roster.Run Screens (Config.start s₀) evs c → StatusesFinal c.seen := by
  intro h
  have hrun : roster.Run Screens (Config.start (Sample.oneRequest 0))
      [.call (.cancelRequest (Sample.request "r" "u" "p" 0)), .answer 0 .ok,
        .call (.updateRequest (Sample.request "r" "u" "p" 0) 99), .answer 0 .ok] _ :=
    .of_exec ⟨⟨⟨_, List.mem_cons_self, _, ⟨0, 0⟩, rfl, .inl rfl⟩, by decide⟩, trivial,
      ⟨⟨_, List.mem_of_getElem? (i := 1) rfl, _, ⟨0, 0⟩, rfl, .inl rfl⟩, rfl, .inl rfl⟩, trivial,
      trivial⟩ rfl
  have hfinal := h _ _ _ Sample.mem_allocated_store (Sample.statusesKnown 0 (by decide)) hrun
  have hmove : (-1 : ℤ) = 99 ∨ Transition (-1) 99 :=
    (List.isChain_cons_cons.1 hfinal.moves).1 "r" (-1) 99 rfl rfl
  exact absurd hmove (by decide)

end Volleyer
