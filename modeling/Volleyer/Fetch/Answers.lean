import Volleyer.Fetch.Delivery
import Volleyer.Roster.Sample

/-!
# The fan-in fetches — never a part, and not always an answer

A call hands its array over when everything it asked for has been found,
and then it is the records of all its answers; a part is never handed
over, and nothing twice (`fetch_delivers`). But a read that finds no
document, or fails, leaves the array short for good: then nothing is
handed over, except that `getPlayersData` reports each failure. So a call
whose reads are all answered has completed once under a condition
(`fetch_completes_once_iff`).
-/

namespace Volleyer

variable {L : FetchLog} {k : ℕ} {call : FetchCall} {ts : List FetchTask}
variable {fetch : Fetch} {ids : List String} {gather : Gather fetch.Record}

namespace Fetch

/-- The order a fetch promises of what it hands over. -/
def Ordered : (fetch : Fetch) → List fetch.Record → Prop
  | thisUserPlays, _ => True
  | blockList, _ => True
  | playersData, players => List.Pairwise (fun (a b : User) => a.gender ≤ b.gender) players

theorem perm_finish (fetch : Fetch) (l : List fetch.Record) : (fetch.finish l).Perm l := by
  cases fetch with
  | thisUserPlays => exact .refl l
  | blockList => exact .refl l
  | playersData => exact perm_sortByGender l

end Fetch

theorem Fetch.ordered_finish (fetch : Fetch) (l : List fetch.Record) :
    fetch.Ordered (fetch.finish l) := by
  cases fetch with
  | thisUserPlays => trivial
  | blockList => trivial
  | playersData => exact pairwise_sortByGender l

namespace Tracked

/-- No more reads are answered than there are ids. -/
theorem length_reads_le (h : Tracked L ts k fetch ids gather) :
    (reads fetch k L).length ≤ ids.length := by
  have hlength := h.awaits.length_add
  rw [List.length_map] at hlength
  omega

/-- **What a call has**: the empty list it handed over at once, or what its
gatherer makes of the answers to its reads. -/
theorem gather_cases (h : Tracked L ts k fetch ids gather) :
    (∃ o, userReads k L = [o] ∧ o.2.bind fetch.listed = some [] ∧ fetch ≠ .playersData ∧ ids = [] ∧
      reads fetch k L = [] ∧ gather = { handed := [some []] }) ∨
    (∀ o ∈ userReads k L, o.2.bind fetch.listed ≠ some []) ∧
      gather = ((reads fetch k L).map Prod.snd).foldl
        (Gather.receive fetch.finish fetch.reports ids.length) {} := by
  have hgather := h.gather
  have hopened := h.opened
  rcases Nat.lt_or_ge 0 (userReads k L).length with hpos | hzero
  · have hfetch : fetch ≠ .playersData := by
      intro heq
      rw [if_pos heq] at hopened
      omega
    rw [if_neg hfetch] at hopened
    obtain ⟨o, ho⟩ := List.length_eq_one_iff.1 (show (userReads k L).length = 1 by omega)
    rw [ho] at hgather
    by_cases hempty : o.2.bind fetch.listed = some []
    · have hids : ids = [] := by
        rw [h.listed hfetch, ho, List.flatMap_cons, List.flatMap_nil, Fetch.idsOf, hempty]
        rfl
      have hle := h.length_reads_le
      rw [hids, List.length_nil] at hle
      have hreads : reads fetch k L = [] := List.length_eq_zero_iff.1 (by omega)
      have hhanded : fetch.handedAt o = some (some []) := if_pos hempty
      rw [hreads, List.filterMap_cons_some hhanded] at hgather
      exact Or.inl ⟨o, ho, hempty, hfetch, hids, hreads, hgather⟩
    · have hhanded : fetch.handedAt o = none := if_neg hempty
      rw [List.filterMap_cons_none hhanded] at hgather
      refine Or.inr ⟨fun o' ho' => ?_, hgather⟩
      rw [ho] at ho'
      rw [List.mem_singleton.1 ho']
      exact hempty
  · have hnil : userReads k L = [] := List.length_eq_zero_iff.1 (by omega)
    rw [hnil] at hgather
    refine Or.inr ⟨fun o ho => ?_, hgather⟩
    rw [hnil] at ho
    cases ho

end Tracked

/-- Everything was found if as much was found as was asked for. -/
theorem map_record_of_length_eq {α : Type} {os : List (Fetched α)}
    (h : (Gather.records os).length = os.length) :
    os.map Fetched.record = (Gather.records os).map some := by
  have hall := Gather.length_records_eq_iff.1 h
  unfold Gather.records
  induction os with
  | nil => rfl
  | cons o os ih =>
    obtain ⟨a, ha⟩ := Option.isSome_iff_exists.1 (hall o List.mem_cons_self)
    have hrest : ∀ o ∈ os, o.record.isSome := fun o ho => hall o (List.mem_cons_of_mem _ ho)
    rw [List.map_cons, List.filterMap_cons_some ha, List.map_cons, ha,
      ih (Gather.length_records_eq_iff.2 hrest) hrest]

/-- The lists of a call, and the errors: what it hands over of its
answers. -/
theorem Tracked.foldl_eq (h : Tracked L ts k fetch ids gather)
    (hgather : gather = ((reads fetch k L).map Prod.snd).foldl
      (Gather.receive fetch.finish fetch.reports ids.length) {}) :
    gather.lists = (if 0 < ids.length ∧
        (Gather.records ((reads fetch k L).map Prod.snd)).length = ids.length then
        [fetch.finish (Gather.records ((reads fetch k L).map Prod.snd))] else []) ∧
      gather.errors =
        if fetch.reports then ((reads fetch k L).map Prod.snd).countP Fetched.isFailed else 0 := by
  have hle : ((reads fetch k L).map Prod.snd).length ≤ ids.length := by
    rw [List.length_map]
    exact h.length_reads_le
  rw [hgather]
  exact ⟨(Gather.foldl_receive hle).2, Gather.errors_foldl_receive.trans (Nat.zero_add _)⟩

/-! ## The calls of a run -/

variable {users : Collection String (Doc UserTitle)} {plays : Collection String (Doc PlayTitle)}
variable {ok : Config Fetches FetchTask → Event FetchEvent FetchReply → Prop}
variable {evs : List (Event FetchEvent FetchReply)} {c : Config Fetches FetchTask}

/-- The call an event begins: what it fetches, and the ids it is given. -/
def begun : Event FetchEvent FetchReply → Option (Fetch × List String)
  | .call (.getThisUserPlays _) => some (.thisUserPlays, [])
  | .call (.getBlockList _) => some (.blockList, [])
  | .call (.getPlayersData playersId) => some (.playersData, playersId)
  | _ => none

/-- What a call was begun as. -/
def FetchCall.begun (call : FetchCall) : Fetch × List String :=
  (call.fetch, if call.fetch = .playersData then call.ids else [])

/-- An answer leaves what a call was begun as. -/
theorem begun_listRead (call : FetchCall) (document : Doc UserTitle) :
    (call.listRead document).begun = call.begun := by
  unfold FetchCall.listRead
  obtain ⟨fetch, ids, gather⟩ := call
  cases fetch with
  | playersData => rfl
  | _ =>
    dsimp only
    split
    · rfl
    · split <;> rfl

/-- **The calls of a run are those its events begin**, in their order. -/
theorem calls_of_run (h : fetches.Run ok (Config.start (Fetches.start users plays)) evs c) :
    c.state.calls.map FetchCall.begun = evs.filterMap begun := by
  induction h with
  | nil => rfl
  | @snoc evs c e c' _ _ hs ih =>
    rw [List.filterMap_append, ← ih]
    rcases Machine.step_cases hs with ⟨a, s, ts, rfl, hi, rfl⟩ | ⟨n, r, t, rfl, hn, rfl⟩
    · cases a <;> obtain ⟨rfl, rfl⟩ := Prod.mk.inj (Option.some.inj hi)
      · exact List.map_append
      · exact List.map_append
      · exact List.map_append
      · exact (List.append_nil _).symm
    · show (fetchAnswer c.state t r).1.calls.map FetchCall.begun = _
      have hnone : ([.answer n r] : List (Event FetchEvent FetchReply)).filterMap begun = [] := rfl
      rw [hnone, List.append_nil]
      cases t with
      | getUser k documentID =>
        cases r with
        | failed => rfl
        | ok now =>
          simp only [fetchAnswer]
          split
          · rename_i call document hk hd
            exact map_set_of_eq hk (begun_listRead call document)
          · rfl
      | getRecord k id =>
        simp only [fetchAnswer]
        split
        · rename_i call hk
          exact map_set_of_eq hk rfl
        · rfl

/-- **A call never delivers a part, and never twice.** In every run, with
any number of calls under way and the reads answered in any order: what is
begun is a call; its ids are those it is given, or those the user's
document listed; it hands over one list at most; and if it has ids, that
list is the records of the answers to all of them, each once, and in the
order of the gender if they are players. -/
theorem fetch_delivers (hrun : fetches.Run ok (Config.start (Fetches.start users plays)) evs c) :
    c.state.calls.map FetchCall.begun = evs.filterMap begun ∧
    ∀ k call, c.state.calls[k]? = some call →
      let L := fetches.answered (Config.start (Fetches.start users plays)) evs
      (call.fetch ≠ .playersData → call.ids = (userReads k L).flatMap call.fetch.idsOf) ∧
      call.gather.lists.length ≤ 1 ∧
      ∀ l ∈ call.gather.lists, call.ids ≠ [] →
        ((reads call.fetch k L).map Prod.fst).Perm call.ids ∧
        (l.map some).Perm ((reads call.fetch k L).map fun a => a.2.record) ∧
        call.fetch.Ordered l := by
  refine ⟨calls_of_run hrun, fun k call hk => ?_⟩
  intro L
  have htracked : Tracked L c.pending k call.fetch call.ids call.gather :=
    (tracking_of_run hrun).tracked hk
  rcases htracked.gather_cases with ⟨o, -, -, -, hids, -, hgather⟩ | ⟨-, hgather⟩
  · have hlists : call.gather.lists = [[]] := by rw [hgather]; rfl
    rw [hlists]
    exact ⟨htracked.listed, Nat.le_refl 1, fun l _ hne => absurd hids hne⟩
  · obtain ⟨hlists, -⟩ := htracked.foldl_eq hgather
    rw [hlists]
    split
    · rename_i hall
      refine ⟨htracked.listed, Nat.le_refl 1, fun l hl _ => ?_⟩
      rw [List.mem_singleton.1 hl]
      have hle := htracked.length_reads_le
      have hrecords := Gather.length_records_le ((reads call.fetch k L).map Prod.snd)
      rw [List.length_map] at hrecords
      -- everything was found, so every id is answered and nothing is awaited
      have heq : (reads call.fetch k L).length = call.ids.length := by omega
      have hnothing := htracked.awaits.length_eq_iff.1 (by rw [List.length_map, heq])
      have hawaits := htracked.awaits
      rw [hnothing] at hawaits
      have hfound : ((reads call.fetch k L).map Prod.snd).map Fetched.record = _ :=
        map_record_of_length_eq (by rw [List.length_map, heq]; exact hall.2)
      rw [List.map_map] at hfound
      refine ⟨hawaits.perm_keys, ?_, call.fetch.ordered_finish _⟩
      exact ((call.fetch.perm_finish _).map some).trans (.of_eq hfound.symm)
    · exact ⟨htracked.listed, Nat.zero_le 1, fun l hl => absurd hl List.not_mem_nil⟩

namespace Sample

/-- The players `"u"` and `"u"`, and the plays of `"f"`, fetched at once. -/
def fetching : List (Event FetchEvent FetchReply) :=
  [.call (.getPlayersData ["u", "u"]), .call (.getThisUserPlays (some "f")),
    .answer 2 (.ok ⟨0, 0⟩), .answer 0 (.ok ⟨0, 0⟩), .answer 1 (.ok ⟨0, 0⟩), .answer 0 (.ok ⟨0, 0⟩)]

end Sample

theorem fetch_delivers_fetching : ∃ c call,
    fetches.Run (fun _ _ => True)
      (Config.start (Fetches.start Sample.onePlay.users Sample.onePlay.plays)) Sample.fetching c ∧
    c.state.calls[0]? = some call ∧ call.gather.lists ≠ [] ∧ call.gather.lists.length ≤ 1 := by
  have hrun : fetches.Run (fun _ _ => True)
      (Config.start (Fetches.start Sample.onePlay.users Sample.onePlay.plays)) Sample.fetching _ :=
    .of_exec ⟨trivial, trivial, trivial, trivial, trivial, trivial, trivial⟩ rfl
  obtain ⟨-, hcalls⟩ := fetch_delivers hrun
  exact ⟨_, _, hrun, rfl, List.cons_ne_nil _ _, (hcalls 0 _ rfl).2.1⟩

/-- The reads of a call, counted where all found what they asked for. -/
theorem forall_isSome_iff (fetch : Fetch) :
    (∀ a ∈ reads fetch k L, a.2.record.isSome) ↔
      (Gather.records ((reads fetch k L).map Prod.snd)).length = (reads fetch k L).length := by
  have hcount : _ ↔ ∀ o ∈ (reads fetch k L).map Prod.snd, o.record.isSome :=
    Gather.length_records_eq_iff
  rw [List.length_map, List.forall_mem_map] at hcount
  exact hcount.symm

/-- A failed read found nothing. -/
theorem countP_isFailed_eq_zero (fetch : Fetch) (h : ∀ a ∈ reads fetch k L, a.2.record.isSome) :
    ((reads fetch k L).map Prod.snd).countP Fetched.isFailed = 0 := by
  rw [List.countP_eq_zero]
  intro o ho
  obtain ⟨a, ha, rfl⟩ := List.mem_map.1 ho
  have hsome := h a ha
  intro hfailed
  cases hread : a.2 with
  | failed =>
    rw [hread] at hsome
    cases hsome
  | found b =>
    rw [hread] at hfailed
    cases hfailed
  | missing =>
    rw [hread] at hsome
    cases hsome

namespace Tracked

/-- **What a call has handed over when all its reads are answered.** -/
theorem length_handed (h : Tracked L ts k fetch ids gather) (hdone : ∀ t ∈ ts, t.callId ≠ k)
    (hgather : gather = ((reads fetch k L).map Prod.snd).foldl
      (Gather.receive fetch.finish fetch.reports ids.length) {}) :
    gather.handed.length =
      (if ids ≠ [] ∧ ∀ a ∈ reads fetch k L, a.2.record.isSome then 1 else 0) +
        if fetch.reports then ((reads fetch k L).map Prod.snd).countP Fetched.isFailed else 0 := by
  have hawaits := h.awaits
  rw [filterMap_asks_of_ne hdone] at hawaits
  have hlength := hawaits.perm_keys.length_eq
  rw [List.length_map] at hlength
  obtain ⟨hlists, herrors⟩ := h.foldl_eq hgather
  have hiff : (0 < ids.length ∧
      (Gather.records ((reads fetch k L).map Prod.snd)).length = ids.length) ↔
      ids ≠ [] ∧ ∀ a ∈ reads fetch k L, a.2.record.isSome := by
    rw [forall_isSome_iff, hlength, List.length_pos_iff]
  rw [gather.length_handed, hlists, herrors]
  by_cases hall : ids ≠ [] ∧ ∀ a ∈ reads fetch k L, a.2.record.isSome
  · rw [if_pos (hiff.2 hall), if_pos hall, List.length_singleton]
  · rw [if_neg fun h' => hall (hiff.1 h'), if_neg hall, List.length_nil]

end Tracked

/-- **When a call has completed once.** Of a call whose reads are all
answered: `getPlayersData` has called its completion once exactly if it has
ids and every read found its document, or exactly one read failed; the
others have called their delegate once exactly if the user's document was
read, its field is a list of strings, and every read of one of them found
its document. -/
theorem fetch_completes_once_iff
    (hrun : fetches.Run ok (Config.start (Fetches.start users plays)) evs c)
    (hk : c.state.calls[k]? = some call) (hdone : ∀ t ∈ c.pending, t.callId ≠ k) :
    let L := fetches.answered (Config.start (Fetches.start users plays)) evs
    let found := ∀ a ∈ reads call.fetch k L, a.2.record.isSome
    call.gather.handed.length = 1 ↔
      if call.fetch = .playersData then
        (call.ids ≠ [] ∧ found) ∨
          ((reads call.fetch k L).map Prod.snd).countP Fetched.isFailed = 1
      else
        (∃ o ∈ userReads k L, (o.2.bind call.fetch.listed).isSome) ∧ found := by
  intro L found
  have htracked : Tracked L c.pending k call.fetch call.ids call.gather :=
    (tracking_of_run hrun).tracked hk
  rcases htracked.gather_cases with ⟨o, ho, hempty, hfetch, hids, hreads, hgather⟩ |
    ⟨hsome, hgather⟩
  · -- the empty list was answered at once
    rw [if_neg hfetch, hgather]
    refine iff_of_true rfl ⟨⟨o, by rw [ho]; exact List.mem_cons_self, by rw [hempty]; rfl⟩, ?_⟩
    intro a ha
    rw [hreads] at ha
    cases ha
  · have hlength := htracked.length_handed hdone hgather
    rw [hlength]
    by_cases hfetch : call.fetch = .playersData
    · have hreports : call.fetch.reports = true := by rw [hfetch]; rfl
      rw [if_pos hfetch, hreports, if_pos rfl]
      by_cases hall : call.ids ≠ [] ∧ found
      · have hzero := countP_isFailed_eq_zero call.fetch hall.2
        rw [if_pos hall, hzero]
        exact iff_of_true rfl (Or.inl hall)
      · rw [if_neg hall, Nat.zero_add]
        exact ⟨Or.inr, fun h => h.resolve_left hall⟩
    · have hreports : call.fetch.reports = false := by
        cases hcall : call.fetch with
        | playersData => exact absurd hcall hfetch
        | _ => rfl
      have hopened := htracked.opened
      rw [if_neg hfetch, filterMap_opens_of_ne hdone, List.length_nil, Nat.add_zero] at hopened
      obtain ⟨o, ho⟩ := List.length_eq_one_iff.1 hopened
      have hids : call.ids = call.fetch.idsOf o := by
        rw [htracked.listed hfetch, ho, List.flatMap_cons, List.flatMap_nil, List.append_nil]
      -- the list is not empty where there is one
      have hne : call.ids ≠ [] ↔ ∃ o ∈ userReads k L, (o.2.bind call.fetch.listed).isSome := by
        rw [ho]
        simp only [List.mem_singleton, exists_eq_left]
        rw [hids, Fetch.idsOf]
        have hnot := hsome o (by rw [ho]; exact List.mem_cons_self)
        cases hlisted : o.2.bind call.fetch.listed with
        | none => simp
        | some ids =>
          rw [hlisted] at hnot
          exact iff_of_true (fun h => hnot (congrArg some h)) rfl
      rw [if_neg hfetch, hreports, if_neg Bool.false_ne_true, Nat.add_zero, ← hne]
      by_cases hall : call.ids ≠ [] ∧ found
      · rw [if_pos hall]
        exact iff_of_true rfl hall
      · rw [if_neg hall]
        exact iff_of_false Nat.zero_ne_one hall

/-- The two answers to the players, found in whatever order, are one
completion. -/
theorem fetch_completes_once_fetching : ∃ c call,
    fetches.Run (fun _ _ => True)
      (Config.start (Fetches.start Sample.onePlay.users Sample.onePlay.plays)) Sample.fetching c ∧
    c.state.calls[0]? = some call ∧ call.gather.handed.length = 1 := by
  have hrun : fetches.Run (fun _ _ => True)
      (Config.start (Fetches.start Sample.onePlay.users Sample.onePlay.plays)) Sample.fetching _ :=
    .of_exec ⟨trivial, trivial, trivial, trivial, trivial, trivial, trivial⟩ rfl
  have hiff := fun (call : FetchCall) hk =>
    fetch_completes_once_iff (k := 0) hrun (hk : _ = some call) fun t ht =>
      absurd ht List.not_mem_nil
  refine ⟨_, _, hrun, rfl, (hiff _ rfl).2 (Or.inl ⟨List.cons_ne_nil _ _, fun a ha => ?_⟩)⟩
  rcases List.mem_pair.1 ha with rfl | rfl <;> rfl

/-- The plays of `"f"` are asked for where the one listed is gone, and two
players whose reads fail: the one call never answers, the other twice. -/
theorem fetch_silent_and_twice : ∃ c silent twice,
    fetches.Run (fun _ _ => True) (Config.start (Fetches.start Sample.onePlay.users .empty))
      [.call (.getThisUserPlays (some "f")), .call (.getPlayersData ["u", "v"]),
        .answer 0 (.ok ⟨0, 0⟩), .answer 0 .failed, .answer 0 .failed, .answer 0 (.ok ⟨0, 0⟩)] c ∧
    c.pending = [] ∧ c.state.calls = [silent, twice] ∧
    silent.gather.handed.length = 0 ∧ twice.gather.handed.length = 2 := by
  exact ⟨_, _, _, .of_exec ⟨trivial, trivial, trivial, trivial, trivial, trivial, trivial⟩ rfl, rfl,
    rfl, rfl, rfl⟩

end Volleyer
