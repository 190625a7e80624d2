import Volleyer.Common.Join
import Volleyer.Common.Projects
import Volleyer.Common.Writes
import Volleyer.Fetch.Model

/-!
# The fan-in fetches — what each call hands over

A call is what its own answers make of it, whatever the others do
(`Tracked`): the answers to its reads, in the order in which they came,
are received by its gatherer, and the ids answered and the ids still in
flight are together the ids of the call. What a gatherer hands over is
then what `Gather.foldl_receive` says of these answers.
-/

namespace Volleyer

/-- What a run answered, as far as the fetches go. -/
abbrev FetchLog := List (Fetches × FetchTask × FetchReply)

/-! ## The answers of a call -/

/-- The call a read is part of. -/
def FetchTask.callId : FetchTask → ℕ
  | .getUser k _ => k
  | .getRecord k _ => k

/-- The id a read in flight asks for, of a call. -/
def FetchTask.asks (k : ℕ) : FetchTask → Option String
  | .getUser _ _ => none
  | .getRecord k' id => if k' = k then some id else none

/-- The user's document a read in flight asks for, of a call. -/
def FetchTask.opens (k : ℕ) : FetchTask → Option String
  | .getUser k' documentID => if k' = k then some documentID else none
  | .getRecord _ _ => none

/-- **The answers to the reads of a call**, with the ids they were of. -/
def reads (fetch : Fetch) (k : ℕ) (L : FetchLog) : List (String × Fetched fetch.Record) :=
  L.filterMap fun x => match x with
    | (s, .getRecord k' id, r) => if k' = k then some (id, fetch.fetched s id r) else none
    | _ => none

/-- What the read of the user's document answered. -/
def userRead (s : Fetches) (documentID : String) : FetchReply → Option (Doc UserTitle)
  | .ok _ => s.users.get documentID
  | .failed => none

/-- **The answers to the reads of the user's document** of a call. -/
def userReads (k : ℕ) (L : FetchLog) : List (String × Option (Doc UserTitle)) :=
  L.filterMap fun x => match x with
    | (s, .getUser k' documentID, r) =>
        if k' = k then some (documentID, userRead s documentID r) else none
    | _ => none

/-- The ids a call takes from an answer to its first read. -/
def Fetch.idsOf (fetch : Fetch) (o : String × Option (Doc UserTitle)) : List String :=
  (o.2.bind fetch.listed).getD []

/-- What a call hands over for an answer to its first read: an empty list
at once. -/
def Fetch.handedAt (fetch : Fetch) (o : String × Option (Doc UserTitle)) :
    Option (Option (List fetch.Record)) :=
  if o.2.bind fetch.listed = some [] then some (some []) else none

variable {L : FetchLog} {k : ℕ} {call : FetchCall} {ts ts' : List FetchTask} {s : Fetches}
variable {t : FetchTask} {x : Fetches × FetchTask × FetchReply}

theorem asks_of_ne (h : t.callId ≠ k) : t.asks k = none := by
  cases t with
  | getUser => rfl
  | getRecord k' id => exact if_neg h

theorem opens_of_ne (h : t.callId ≠ k) : t.opens k = none := by
  cases t with
  | getUser k' documentID => exact if_neg h
  | getRecord => rfl

/-- The answers to a call do not grow with an answer to another one. -/
theorem reads_append_of_ne (fetch : Fetch) (h : x.2.1.callId ≠ k) :
    reads fetch k (L ++ [x]) = reads fetch k L := by
  obtain ⟨s, t, r⟩ := x
  cases t with
  | getUser => simp [reads]
  | getRecord k' id =>
    have hne : k' ≠ k := h
    simp [reads, hne]

theorem userReads_append_of_ne (h : x.2.1.callId ≠ k) : userReads k (L ++ [x]) = userReads k L := by
  obtain ⟨s, t, r⟩ := x
  cases t with
  | getRecord => simp [userReads]
  | getUser k' documentID =>
    have hne : k' ≠ k := h
    simp [userReads, hne]

/-- Every read of a user's document of a call was answered to it. -/
theorem mem_userReads {o : String × Option (Doc UserTitle)} (h : o ∈ userReads k L) :
    ∃ s r, (s, .getUser k o.1, r) ∈ L ∧ o.2 = userRead s o.1 r := by
  obtain ⟨⟨s, t, r⟩, hx, hread⟩ := List.mem_filterMap.1 h
  cases t with
  | getRecord k' id => cases hread
  | getUser k' documentID =>
    obtain ⟨rfl, heq⟩ := Option.ite_none_right_eq_some.1 hread
    obtain rfl := Option.some.inj heq
    exact ⟨s, r, hx, rfl⟩

/-- Nothing was answered to a call that is yet to come. -/
theorem reads_eq_nil {n : ℕ} (fetch : Fetch) (h : ∀ x ∈ L, x.2.1.callId < n) :
    reads fetch n L = [] ∧ userReads n L = [] := by
  induction L using List.reverseRecOn with
  | nil => exact ⟨rfl, rfl⟩
  | append_singleton L x ih =>
    have hne : x.2.1.callId ≠ n := Nat.ne_of_lt (h x (List.mem_append_right _ List.mem_cons_self))
    rw [reads_append_of_ne fetch hne, userReads_append_of_ne hne]
    exact ih fun y hy => h y (List.mem_append_left _ hy)

theorem filterMap_asks_of_ne (h : ∀ t ∈ ts, t.callId ≠ k) :
    ts.filterMap (FetchTask.asks k) = [] :=
  List.filterMap_eq_nil_iff.2 fun t ht => asks_of_ne (h t ht)

theorem filterMap_opens_of_ne (h : ∀ t ∈ ts, t.callId ≠ k) :
    ts.filterMap (FetchTask.opens k) = [] :=
  List.filterMap_eq_nil_iff.2 fun t ht => opens_of_ne (h t ht)

/-! ## A call under way -/

variable {fetch : Fetch} {ids : List String} {gather : Gather fetch.Record}

/-- **A call is what its own answers make of it.** -/
structure Tracked (L : FetchLog) (ts : List FetchTask) (k : ℕ) (fetch : Fetch) (ids : List String)
    (gather : Gather fetch.Record) : Prop where
  opened : (userReads k L).length + (ts.filterMap (FetchTask.opens k)).length =
    if fetch = .playersData then 0 else 1
  listed : fetch ≠ .playersData → ids = (userReads k L).flatMap fetch.idsOf
  awaits : Awaits ids ((reads fetch k L).map Prod.fst) (ts.filterMap (FetchTask.asks k))
  gather : gather = ((reads fetch k L).map Prod.snd).foldl
    (Gather.receive fetch.finish fetch.reports ids.length)
    { handed := (userReads k L).filterMap fetch.handedAt }

namespace Tracked

/-- What is new of other calls does not matter. -/
theorem append (h : Tracked L ts k fetch ids gather) (hts : ∀ t ∈ ts', t.callId ≠ k) :
    Tracked L (ts ++ ts') k fetch ids gather where
  opened := by
    rw [List.filterMap_append, filterMap_opens_of_ne hts, List.append_nil]
    exact h.opened
  listed := h.listed
  awaits := by
    rw [List.filterMap_append, filterMap_asks_of_ne hts, List.append_nil]
    exact h.awaits
  gather := h.gather

/-- **An answer to another call** leaves a call as it is. -/
theorem of_ne {n : ℕ} (h : Tracked L ts k fetch ids gather) (hn : ts[n]? = some x.2.1)
    (hne : x.2.1.callId ≠ k) : Tracked (L ++ [x]) (ts.eraseIdx n) k fetch ids gather where
  opened := by
    rw [userReads_append_of_ne hne, filterMap_eraseIdx_of_none hn (opens_of_ne hne)]
    exact h.opened
  listed := by
    rw [userReads_append_of_ne hne]
    exact h.listed
  awaits := by
    rw [reads_append_of_ne _ hne, filterMap_eraseIdx_of_none hn (asks_of_ne hne)]
    exact h.awaits
  gather := by
    rw [reads_append_of_ne _ hne, userReads_append_of_ne hne]
    exact h.gather

/-- **A read of an id is answered.** -/
theorem recordRead {n : ℕ} {id : String} {r : FetchReply} (h : Tracked L ts k fetch ids gather)
    (hn : ts[n]? = some (.getRecord k id)) :
    Tracked (L ++ [(s, .getRecord k id, r)]) (ts.eraseIdx n) k fetch ids
      (gather.receive fetch.finish fetch.reports ids.length (fetch.fetched s id r)) := by
  have hreads : reads fetch k (L ++ [(s, .getRecord k id, r)]) =
      reads fetch k L ++ [(id, fetch.fetched s id r)] := by
    simp [reads]
  have huser : userReads k (L ++ [(s, .getRecord k id, r)]) = userReads k L := by
    simp [userReads]
  have hself : (FetchTask.getRecord k id).asks k = some id := if_pos rfl
  have hasks : (ts.filterMap (FetchTask.asks k)).Perm
      (id :: (ts.eraseIdx n).filterMap (FetchTask.asks k)) := by
    have hperm := (Machine.perm_cons_eraseIdx hn).filterMap (FetchTask.asks k)
    rwa [List.filterMap_cons_some hself] at hperm
  refine ⟨?_, ?_, ?_, ?_⟩
  · rw [huser, filterMap_eraseIdx_of_none hn (by rfl)]
    exact h.opened
  · rw [huser]
    exact h.listed
  · rw [hreads, List.map_append]
    exact (h.awaits.arrive hasks).perm (List.perm_append_singleton _ _) (.refl _)
  · rw [hreads, huser, List.map_append, List.foldl_append, ← h.gather]
    rfl

/-- A call whose first read is in flight has nothing else. -/
theorem of_opens {documentID : String} (h : Tracked L ts k fetch ids gather)
    (ht : .getUser k documentID ∈ ts) :
    fetch ≠ .playersData ∧ userReads k L = [] ∧ ts.filterMap (FetchTask.opens k) = [documentID] ∧
      ids = [] ∧ reads fetch k L = [] ∧ ts.filterMap (FetchTask.asks k) = [] ∧ gather = {} := by
  have hself : (FetchTask.getUser k documentID).opens k = some documentID := if_pos rfl
  have hmem : documentID ∈ ts.filterMap (FetchTask.opens k) := List.mem_filterMap.2 ⟨_, ht, hself⟩
  have hpos := List.length_pos_of_mem hmem
  have hopened := h.opened
  have hfetch : fetch ≠ .playersData := by
    intro heq
    rw [if_pos heq] at hopened
    omega
  rw [if_neg hfetch] at hopened
  have huser : userReads k L = [] := List.length_eq_zero_iff.1 (by omega)
  obtain ⟨d, hd⟩ := List.length_eq_one_iff.1
    (show (ts.filterMap (FetchTask.opens k)).length = 1 by omega)
  have hids : ids = [] := by
    rw [h.listed hfetch, huser, List.flatMap_nil]
  have hawaits := h.awaits.length_add
  rw [hids, List.length_nil, List.length_map] at hawaits
  have hreads : reads fetch k L = [] := List.length_eq_zero_iff.1 (by omega)
  refine ⟨hfetch, huser, ?_, hids, hreads, List.length_eq_zero_iff.1 (by omega), ?_⟩
  · rw [hd] at hmem ⊢
    rw [List.mem_singleton.1 hmem]
  · rw [h.gather, hreads, huser]
    rfl

/-- **The read of the user's document is answered.** -/
theorem listRead {n : ℕ} {documentID : String} {r : FetchReply}
    (h : Tracked L ts k fetch ids gather) (hn : ts[n]? = some (.getUser k documentID)) :
    let o := (documentID, userRead s documentID r)
    Tracked (L ++ [(s, .getUser k documentID, r)])
      (ts.eraseIdx n ++ (fetch.idsOf o).map (.getRecord k)) k fetch (fetch.idsOf o)
      { handed := (fetch.handedAt o).toList } := by
  intro o
  obtain ⟨hfetch, huser, hopens, hids, hreads, hasks, -⟩ := h.of_opens (List.mem_of_getElem? hn)
  have huser' : userReads k (L ++ [(s, .getUser k documentID, r)]) = [o] := by
    have happend : userReads k (L ++ [(s, .getUser k documentID, r)]) = userReads k L ++ [o] := by
      simp [userReads, o]
    rw [happend, huser, List.nil_append]
  have hreads' : reads fetch k (L ++ [(s, .getUser k documentID, r)]) = [] := by
    have happend : reads fetch k (L ++ [(s, .getUser k documentID, r)]) = reads fetch k L := by
      simp [reads]
    rw [happend, hreads]
  have hself : (FetchTask.getUser k documentID).opens k = some documentID := if_pos rfl
  have hone : (ts.filterMap (FetchTask.opens k)).length ≤ 1 := by rw [hopens, List.length_singleton]
  have hopens' := (filterMap_eq_singleton (FetchTask.opens k) hone hn hself).2
  have hasks' : ∀ l : List String,
      (l.map (FetchTask.getRecord k)).filterMap (FetchTask.asks k) = l := fun l => by
    rw [List.filterMap_map]
    exact (List.filterMap_congr fun id _ => if_pos rfl).trans List.filterMap_some
  have hnone : ∀ l : List String,
      (l.map (FetchTask.getRecord k)).filterMap (FetchTask.opens k) = [] := fun l => by
    rw [List.filterMap_map]
    exact List.filterMap_eq_nil_iff.2 fun _ _ => rfl
  refine ⟨?_, fun _ => ?_, ?_, ?_⟩
  · rw [huser', List.filterMap_append, hopens', hnone, if_neg hfetch]
    rfl
  · rw [huser', List.flatMap_cons, List.flatMap_nil, List.append_nil]
  · rw [hreads', List.filterMap_append, filterMap_eraseIdx_of_none hn (by rfl), hasks, hasks']
    exact .start _
  · rw [hreads', huser']
    show _ = ({ handed := [o].filterMap fetch.handedAt } : Gather fetch.Record)
    cases hhanded : fetch.handedAt o with
    | none => rw [List.filterMap_cons_none hhanded]; rfl
    | some l => rw [List.filterMap_cons_some hhanded]; rfl

end Tracked

/-! ## All calls of a run -/

/-- The answer to the first read of a call, in terms of what it answers. -/
theorem fetchAnswer_getUser {documentID : String} {r : FetchReply}
    (hk : s.calls[k]? = some ⟨fetch, [], {}⟩) :
    let o := (documentID, userRead s documentID r)
    fetchAnswer s (.getUser k documentID) r =
      ({ s with calls :=
          s.calls.set k ⟨fetch, fetch.idsOf o, { handed := (fetch.handedAt o).toList }⟩ },
        (fetch.idsOf o).map (.getRecord k)) := by
  intro o
  have hsame : s.calls.set k ⟨fetch, [], {}⟩ = s.calls := by
    obtain ⟨hlt, hget⟩ := List.getElem?_eq_some_iff.1 hk
    rw [← hget, List.set_getElem_self]
  have hnothing : (userRead s documentID r).bind fetch.listed = none →
      fetch.idsOf o = [] ∧ fetch.handedAt o = none := fun hnone => by
    simp only [Fetch.idsOf, Fetch.handedAt, o, hnone, Option.getD_none]
    exact ⟨trivial, rfl⟩
  cases r with
  | failed =>
    obtain ⟨hids, hhanded⟩ := hnothing rfl
    rw [hids, hhanded]
    exact congrArg (·, []) (congrArg (fun l => { s with calls := l }) hsame.symm)
  | ok now =>
    cases hd : s.users.get documentID with
    | none =>
      obtain ⟨hids, hhanded⟩ := hnothing (by rw [userRead, hd]; rfl)
      rw [hids, hhanded]
      simp only [fetchAnswer, hk, hd]
      exact congrArg (·, []) (congrArg (fun l => { s with calls := l }) hsame.symm)
    | some document =>
      simp only [fetchAnswer, hk, hd, FetchCall.listRead, Fetch.idsOf, Fetch.handedAt, o, userRead,
        Option.bind_some]
      cases hlisted : fetch.listed document with
      | none => rw [Option.getD_none]; rfl
      | some ids =>
        cases ids with
        | nil => rfl
        | cons id ids => rfl

/-- **Every call of a run is what its own answers make of it.** -/
structure Tracking (L : FetchLog) (c : Config Fetches FetchTask) : Prop where
  known : ∀ t ∈ c.pending, t.callId < c.state.calls.length
  past : ∀ x ∈ L, x.2.1.callId < c.state.calls.length
  tracked : ∀ {k call}, c.state.calls[k]? = some call →
    Tracked L c.pending k call.fetch call.ids call.gather

namespace Tracking

variable {c c' : Config Fetches FetchTask}

/-- **A call begins.** -/
theorem addCall {users : Collection String (Doc UserTitle)}
    {plays : Collection String (Doc PlayTitle)} (h : Tracking L c)
    (hts : ∀ t ∈ ts, t.callId = c.state.calls.length)
    (hnew : Tracked [] ts c.state.calls.length call.fetch call.ids call.gather) :
    Tracking L ⟨⟨users, plays, c.state.calls ++ [call]⟩, c.seen, c.pending ++ ts⟩ := by
  have hlength : (c.state.calls ++ [call]).length = c.state.calls.length + 1 := by simp
  refine ⟨fun t ht => ?_, fun x hx => ?_, fun {k call'} hk => ?_⟩
  · show t.callId < (c.state.calls ++ [call]).length
    rw [hlength]
    rcases List.mem_append.1 ht with ht | ht
    · exact Nat.lt_succ_of_lt (h.known t ht)
    · rw [hts t ht]
      exact Nat.lt_succ_self _
  · show x.2.1.callId < (c.state.calls ++ [call]).length
    rw [hlength]
    exact Nat.lt_succ_of_lt (h.past x hx)
  · have hget : (c.state.calls ++ [call])[k]? = some call' := hk
    rcases Nat.lt_trichotomy k c.state.calls.length with hlt | rfl | hgt
    · rw [List.getElem?_append_left hlt] at hget
      exact (h.tracked hget).append fun t ht => by
        rw [hts t ht]
        exact Nat.ne_of_gt hlt
    · -- nothing in flight and nothing answered is of the call that begins
      rw [List.getElem?_concat_length, Option.some.injEq] at hget
      subst hget
      have hpending : ∀ t ∈ c.pending, t.callId ≠ c.state.calls.length := fun t ht =>
        Nat.ne_of_lt (h.known t ht)
      obtain ⟨hreads, huser⟩ := reads_eq_nil call.fetch h.past
      have hopened := hnew.opened
      have hlisted := hnew.listed
      have hawaits := hnew.awaits
      have hgather := hnew.gather
      refine ⟨?_, ?_, ?_, ?_⟩
      · rw [huser, List.filterMap_append, filterMap_opens_of_ne hpending]
        exact hopened
      · rw [huser]
        exact hlisted
      · rw [hreads, List.filterMap_append, filterMap_asks_of_ne hpending]
        exact hawaits
      · rw [hreads, huser]
        exact hgather
    · have hnone : (c.state.calls ++ [call])[k]? = none :=
        List.getElem?_eq_none_iff.2 (by omega)
      rw [hnone] at hget
      cases hget

/-- **A call goes on**: a read of it is answered, and what the answer makes
of it replaces it. -/
theorem setCall {n : ℕ} {users : Collection String (Doc UserTitle)}
    {plays : Collection String (Doc PlayTitle)} {call' : FetchCall} (h : Tracking L c)
    (hn : c.pending[n]? = some x.2.1) (hts : ∀ t ∈ ts, t.callId = x.2.1.callId)
    (hnew : Tracked (L ++ [x]) (c.pending.eraseIdx n ++ ts) x.2.1.callId call'.fetch call'.ids
      call'.gather) :
    Tracking (L ++ [x])
      ⟨⟨users, plays, c.state.calls.set x.2.1.callId call'⟩, c.seen,
        c.pending.eraseIdx n ++ ts⟩ := by
  have hlt := h.known _ (List.mem_of_getElem? hn)
  have hlength : (c.state.calls.set x.2.1.callId call').length = c.state.calls.length :=
    List.length_set
  refine ⟨fun t ht => ?_, fun y hy => ?_, fun {k call''} hk => ?_⟩
  · show t.callId < (c.state.calls.set x.2.1.callId call').length
    rw [hlength]
    rcases Machine.mem_eraseIdx_append ht with ht | ht
    · exact h.known t ht
    · rw [hts t ht]
      exact hlt
  · show y.2.1.callId < (c.state.calls.set x.2.1.callId call').length
    rw [hlength]
    rcases List.mem_append.1 hy with hy | hy
    · exact h.past y hy
    · rw [List.mem_singleton.1 hy]
      exact hlt
  · have hget : (c.state.calls.set x.2.1.callId call')[k]? = some call'' := hk
    by_cases hkk : x.2.1.callId = k
    · subst hkk
      rw [List.getElem?_set_self hlt, Option.some.injEq] at hget
      subst hget
      exact hnew
    · rw [List.getElem?_set_ne hkk] at hget
      refine ((h.tracked hget).of_ne hn hkk).append fun t ht => ?_
      rw [hts t ht]
      exact hkk

end Tracking

/-- A call that takes its ids from the user's document begins. -/
theorem Tracked.start_list {documentID : String} (hfetch : fetch ≠ .playersData) :
    Tracked [] [.getUser k documentID] k fetch [] {} where
  opened := by
    have hself : (FetchTask.getUser k documentID).opens k = some documentID := if_pos rfl
    rw [if_neg hfetch, List.filterMap_cons_some hself]
    rfl
  listed _ := rfl
  awaits := .start []
  gather := rfl

/-- A call that is given its ids begins. -/
theorem Tracked.start_ids :
    Tracked [] (ids.map (.getRecord k)) k .playersData ids {} where
  opened := by
    have hnone : (ids.map (FetchTask.getRecord k)).filterMap (FetchTask.opens k) = [] := by
      rw [List.filterMap_map]
      exact List.filterMap_eq_nil_iff.2 fun _ _ => rfl
    rw [hnone]
    rfl
  listed h := absurd rfl h
  awaits := by
    have hall : (ids.map (FetchTask.getRecord k)).filterMap (FetchTask.asks k) = ids := by
      rw [List.filterMap_map]
      exact (List.filterMap_congr fun id _ => if_pos rfl).trans List.filterMap_some
    rw [hall]
    exact .start ids
  gather := rfl

variable {users : Collection String (Doc UserTitle)} {plays : Collection String (Doc PlayTitle)}
variable {ok : Config Fetches FetchTask → Event FetchEvent FetchReply → Prop}
variable {evs : List (Event FetchEvent FetchReply)} {c : Config Fetches FetchTask}

/-- **In every run each call is what its own answers make of it.** -/
theorem tracking_of_run
    (h : fetches.Run ok (Config.start (Fetches.start users plays)) evs c) :
    Tracking (fetches.answered (Config.start (Fetches.start users plays)) evs) c := by
  induction h with
  | nil => exact ⟨by simp, fun x hx => absurd hx List.not_mem_nil, by simp [Fetches.start]⟩
  | @snoc evs c e c' hr _ hs ih =>
    rw [hr.answered_snoc hs]
    rcases Machine.step_cases hs with ⟨a, s, ts, rfl, hi, rfl⟩ | ⟨n, r, t, rfl, hn, rfl⟩
    · rw [Config.answered, List.append_nil]
      cases a with
      | getThisUserPlays firebaseId =>
        obtain ⟨rfl, rfl⟩ := Prod.mk.inj (Option.some.inj hi)
        exact ih.addCall (fun t ht => by rw [List.mem_singleton.1 ht]; rfl)
          (.start_list (by simp))
      | getBlockList firebaseId =>
        obtain ⟨rfl, rfl⟩ := Prod.mk.inj (Option.some.inj hi)
        exact ih.addCall (fun t ht => by rw [List.mem_singleton.1 ht]; rfl)
          (.start_list (by simp))
      | getPlayersData playersId =>
        obtain ⟨rfl, rfl⟩ := Prod.mk.inj (Option.some.inj hi)
        refine ih.addCall (fun t ht => ?_) .start_ids
        obtain ⟨id, -, rfl⟩ := List.mem_map.1 ht
        rfl
      | write users plays =>
        obtain ⟨rfl, rfl⟩ := Prod.mk.inj (Option.some.inj hi)
        rw [List.append_nil]
        exact ⟨ih.known, ih.past, ih.tracked⟩
    · have hanswered : c.answered (.answer n r : Event FetchEvent FetchReply) =
          [(c.state, t, r)] := by
        rw [Config.answered, hn, Option.map_some, Option.toList_some]
      rw [hanswered]
      have hmem := List.mem_of_getElem? hn
      obtain ⟨⟨fetch, ids, gather⟩, hk⟩ : ∃ call, c.state.calls[t.callId]? = some call :=
        ⟨_, List.getElem?_eq_getElem (ih.known t hmem)⟩
      have htracked := ih.tracked hk
      cases t with
      | getUser k documentID =>
        obtain ⟨-, -, -, hids, -, -, hgather⟩ := htracked.of_opens hmem
        dsimp only at hids hgather
        subst hids hgather
        have hanswer : fetches.answer c.state (.getUser k documentID) r = _ :=
          fetchAnswer_getUser hk
        rw [hanswer]
        refine ih.setCall (x := (c.state, .getUser k documentID, r)) hn (fun t' ht' => ?_)
          (htracked.listRead hn)
        obtain ⟨id, -, rfl⟩ := List.mem_map.1 ht'
        rfl
      | getRecord k id =>
        have hk' : c.state.calls[k]? = some ⟨fetch, ids, gather⟩ := hk
        have hanswer : fetches.answer c.state (.getRecord k id) r =
            ({ c.state with
              calls := c.state.calls.set k
                (FetchCall.recordRead ⟨fetch, ids, gather⟩ (fetch.fetched c.state id r)) }, []) := by
          show fetchAnswer c.state (.getRecord k id) r = _
          simp only [fetchAnswer, hk']
        rw [hanswer]
        refine ih.setCall (x := (c.state, .getRecord k id, r)) hn (fun t' ht' => ?_) ?_
        · cases ht'
        · rw [List.append_nil]
          exact htracked.recordRead hn

end Volleyer
