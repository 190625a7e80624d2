import Volleyer.Fetch.Answers

/-!
# The fan-in fetches — what the order of the answers decides

One call is made of a store that nobody writes meanwhile, no read fails,
and every id has its document. Then what the call hands over is a function
of the order in which its ids were answered (`arrived`): their records in
that order, and for players the sort of these by gender.
-/

namespace Volleyer

variable {users : Collection String (Doc UserTitle)} {plays : Collection String (Doc PlayTitle)}
variable {now : String → Date} {call : FetchEvent} {L : FetchLog} {k : ℕ} {ts : List FetchTask}
variable {evs : List (Event FetchEvent FetchReply)} {c : Config Fetches FetchTask}

/-- The document a read asks for. -/
def FetchTask.documentID : FetchTask → String
  | .getUser _ documentID => documentID
  | .getRecord _ id => id

/-- **One call, and its answers in any order.** The read of a document is
answered, at `now` of it. -/
def Arrives (call : FetchEvent) (now : String → Date) (c : Config Fetches FetchTask) :
    Event FetchEvent FetchReply → Prop
  | .call a => a = call ∧ c.state.calls = []
  | .answer i r => ∀ t, c.pending[i]? = some t → r = .ok (now t.documentID)

/-- **A call all of whose reads are answered.** -/
structure Arrival (users : Collection String (Doc UserTitle))
    (plays : Collection String (Doc PlayTitle)) (call : FetchEvent) (now : String → Date)
    (evs : List (Event FetchEvent FetchReply)) (c : Config Fetches FetchTask) : Prop where
  run : fetches.Run (Arrives call now) (Config.start (Fetches.start users plays))
    (.call call :: evs) c
  done : c.pending = []

/-- **The ids of the call, in the order in which they were answered.** -/
def arrived (users : Collection String (Doc UserTitle)) (plays : Collection String (Doc PlayTitle))
    (evs : List (Event FetchEvent FetchReply)) : List String :=
  (reads .playersData 0 (fetches.answered (Config.start (Fetches.start users plays)) evs)).map
    Prod.fst

/-! ## A store that nobody writes -/

/-- An answer writes nothing. -/
theorem fetchAnswer_store (s : Fetches) (t : FetchTask) (r : FetchReply) :
    (fetchAnswer s t r).1.users = s.users ∧ (fetchAnswer s t r).1.plays = s.plays := by
  unfold fetchAnswer
  cases t with
  | getUser k documentID =>
    cases r with
    | failed => exact ⟨rfl, rfl⟩
    | ok now =>
      dsimp only
      split
      · exact ⟨rfl, rfl⟩
      · exact ⟨rfl, rfl⟩
  | getRecord k id =>
    dsimp only
    split
    · exact ⟨rfl, rfl⟩
    · exact ⟨rfl, rfl⟩

/-- Nor does a call, if it is one. -/
theorem store_of_run (hcall : (begun (.call call)).isSome)
    (hrun : fetches.Run (Arrives call now) (Config.start (Fetches.start users plays)) evs c) :
    c.state.users = users ∧ c.state.plays = plays := by
  refine hrun.invariant (I := fun c => c.state.users = users ∧ c.state.plays = plays)
    ⟨rfl, rfl⟩ ?_
  rintro c e c' ⟨husers, hplays⟩ hok hs
  rcases Machine.step_cases hs with ⟨a, s, ts, rfl, hi, rfl⟩ | ⟨i, r, t, rfl, -, rfl⟩
  · obtain ⟨rfl, -⟩ := hok
    cases a with
    | write users plays => exact absurd hcall Bool.false_ne_true
    | getThisUserPlays | getBlockList | getPlayersData =>
      obtain ⟨rfl, -⟩ := Prod.mk.inj (Option.some.inj hi)
      exact ⟨husers, hplays⟩
  · obtain ⟨husers', hplays'⟩ := fetchAnswer_store c.state t r
    exact ⟨husers'.trans husers, hplays'.trans hplays⟩

/-- An answer that was read from the store, at `now` of its document. -/
def ReadFrom (users : Collection String (Doc UserTitle)) (plays : Collection String (Doc PlayTitle))
    (now : String → Date) (x : Fetches × FetchTask × FetchReply) : Prop :=
  x.1.users = users ∧ x.1.plays = plays ∧ x.2.2 = .ok (now x.2.1.documentID)

theorem readFrom_of_run (hcall : (begun (.call call)).isSome)
    (hrun : fetches.Run (Arrives call now) (Config.start (Fetches.start users plays)) evs c) :
    ∀ x ∈ fetches.answered (Config.start (Fetches.start users plays)) evs,
      ReadFrom users plays now x := by
  have hstore := hrun.strengthen fun _ _ hr => store_of_run hcall hr
  refine hstore.forall_answered_ok fun hok ht => ?_
  exact ⟨hok.2.1, hok.2.2, hok.1 _ ht⟩

/-! ## What is read -/

/-- The record of an id, as its read finds it. -/
def Fetch.stored (users : Collection String (Doc UserTitle))
    (plays : Collection String (Doc PlayTitle)) (now : String → Date) (fetch : Fetch) (id : String) :
    Option fetch.Record :=
  fetch.find (Fetches.start users plays) (now id) id

/-- What is found depends on the documents alone. -/
theorem Fetch.find_congr {s s' : Fetches} (husers : s.users = s'.users)
    (hplays : s.plays = s'.plays) (decodedAt : Date) (fetch : Fetch) (id : String) :
    fetch.find s decodedAt id = fetch.find s' decodedAt id := by
  unfold Fetch.find
  cases fetch with
  | thisUserPlays => dsimp only; rw [hplays]
  | blockList => dsimp only; rw [husers]
  | playersData => dsimp only; rw [husers]

/-- **Each read finds the record of its id.** -/
theorem reads_of_readFrom (hL : ∀ x ∈ L, ReadFrom users plays now x) (fetch : Fetch) (k : ℕ) :
    ∀ a ∈ reads fetch k L, a.2 = .ofOption (fetch.stored users plays now a.1) := by
  intro a ha
  obtain ⟨⟨s, t, r⟩, hx, hread⟩ := List.mem_filterMap.1 ha
  obtain ⟨husers, hplays, hr⟩ := hL _ hx
  cases t with
  | getUser k' documentID => cases hread
  | getRecord k' id =>
    obtain ⟨-, heq⟩ := Option.ite_none_right_eq_some.1 hread
    obtain rfl := Option.some.inj heq
    dsimp only at husers hplays hr
    show fetch.fetched s id r = _
    rw [hr]
    exact congrArg Fetched.ofOption (Fetch.find_congr husers hplays _ fetch id)

/-- The ids that were answered do not depend on what is read of them. -/
theorem map_fst_reads (fetch fetch' : Fetch) (k : ℕ) (L : FetchLog) :
    (reads fetch k L).map Prod.fst = (reads fetch' k L).map Prod.fst := by
  unfold reads
  rw [List.map_filterMap, List.map_filterMap]
  refine List.filterMap_congr fun x _ => ?_
  obtain ⟨s, t, r⟩ := x
  cases t with
  | getUser => rfl
  | getRecord k' id =>
    dsimp only
    split
    · rfl
    · rfl

/-- The read of the user's document finds the stored one. -/
theorem userReads_of_readFrom (hL : ∀ x ∈ L, ReadFrom users plays now x) (k : ℕ) :
    ∀ o ∈ userReads k L, o.2 = users.get o.1 := by
  intro o ho
  obtain ⟨s, r, hx, ho⟩ := mem_userReads ho
  obtain ⟨husers, -, hr⟩ := hL _ hx
  dsimp only at husers hr
  rw [ho, hr, userRead, husers]

/-! ## What is handed over -/

/-- Without errors, a gatherer hands over its lists. -/
theorem Gather.handed_eq {α : Type} {g : Gather α} (h : g.errors = 0) :
    g.handed = g.lists.map some := by
  have hall : ∀ o ∈ g.handed, o ≠ none := fun o ho hnone => by
    have := List.countP_eq_zero.1 h o ho
    rw [hnone] at this
    exact this rfl
  unfold Gather.lists
  generalize g.handed = os at hall
  induction os with
  | nil => rfl
  | cons o os ih =>
    cases o with
    | none => exact absurd rfl (hall none List.mem_cons_self)
    | some l =>
      have hlist : (some l :: os).filterMap id = l :: os.filterMap id :=
        List.filterMap_cons_some rfl
      rw [hlist, List.map_cons]
      exact congrArg (some l :: ·) (ih fun o ho => hall o (List.mem_cons_of_mem _ ho))

/-- **What a call whose ids all have records hands over**, when they are all
answered: the records, in the order of the answers, finished. -/
theorem Tracked.handed_of_found {fetch : Fetch} {ids : List String} {gather : Gather fetch.Record}
    (h : Tracked L ts k fetch ids gather) (hdone : ts.filterMap (FetchTask.asks k) = [])
    (hne : ids ≠ []) (hL : ∀ x ∈ L, ReadFrom users plays now x) {record : String → fetch.Record}
    (hfound : ∀ id ∈ ids, fetch.stored users plays now id = some (record id)) :
    ((reads fetch k L).map Prod.fst).Perm ids ∧
      gather.handed = [some (fetch.finish (((reads fetch k L).map Prod.fst).map record))] := by
  have hawaits := h.awaits
  rw [hdone] at hawaits
  have hperm := hawaits.perm_keys
  refine ⟨hperm, ?_⟩
  have hreads : (reads fetch k L).map Prod.snd =
      (((reads fetch k L).map Prod.fst).map record).map .found := by
    rw [List.map_map, List.map_map]
    refine List.map_congr_left fun a ha => ?_
    have hid : a.1 ∈ ids := hperm.mem_iff.1 (List.mem_map_of_mem ha)
    rw [reads_of_readFrom hL fetch k a ha, hfound a.1 hid]
    rfl
  have hrecords : Gather.records ((reads fetch k L).map Prod.snd) =
      ((reads fetch k L).map Prod.fst).map record := by
    rw [hreads, Gather.records, List.filterMap_map]
    exact List.filterMap_some
  rcases h.gather_cases with ⟨-, -, -, -, hids, -⟩ | ⟨-, hgather⟩
  · exact absurd hids hne
  · obtain ⟨hlists, herrors⟩ := h.foldl_eq hgather
    have hzero : gather.errors = 0 := by
      have hnone : ((reads fetch k L).map Prod.snd).countP Fetched.isFailed = 0 := by
        rw [List.countP_eq_zero, hreads]
        intro o ho
        obtain ⟨a, -, rfl⟩ := List.mem_map.1 ho
        exact Bool.false_ne_true
      rw [herrors, hnone, ite_self]
    have hlength : (((reads fetch k L).map Prod.fst).map record).length = ids.length := by
      rw [List.length_map]
      exact hperm.length_eq
    rw [hrecords, if_pos ⟨List.length_pos_iff.2 hne, hlength⟩] at hlists
    rw [Gather.handed_eq hzero, hlists]
    rfl

/-- What the call was begun as, it is the first call. -/
theorem exists_call {fetch : Fetch} {ids : List String}
    (hbegun : begun (.call call) = some (fetch, ids)) (h : Arrival users plays call now evs c) :
    ∃ call', c.state.calls[0]? = some call' ∧ call'.begun = (fetch, ids) := by
  have hcalls := congrArg (fun l => l[0]?) (calls_of_run h.run)
  simp only [List.getElem?_map, List.filterMap_cons_some hbegun, List.getElem?_cons_zero,
    Option.map_eq_some_iff] at hcalls
  exact hcalls

end Volleyer
