import Volleyer.Account.Model
import Volleyer.Common.Writes
import Volleyer.Feed.Model

/-!
# Blocking — what a sequence of block list edits leaves

`addToBlocklist` and `removeFromBlocklist` read the stored list, edit it
and write it back. Taken one at a time, their calls fold over the stored
list (`BlockLane.invariant`). Where a list is stored the fold is the one
the edits are for; where none is, an `add` writes `nil`, which is read as
no list again, and its user is never blocked (`foldl_blockListAfter_none`).
-/

namespace Volleyer

open MyDataManager

variable {w : World} {i u : String} {d₀ : Doc UserTitle}
variable {evs : List (Event AccountCall Reply)} {c c' : Config World AccountTask}
variable {e : Event AccountCall Reply}

/-! ## Edits of a list -/

/-- **What an edit is for**: an id is appended unless it is there, and the
first occurrence of one is removed. -/
def editBlockList (blockList : List String) : BlockEdit × String → List String
  | (.add, userId) => if userId ∈ blockList then blockList else blockList ++ [userId]
  | (.remove, userId) => blockList.erase userId

/-- What the code's edit leaves to be read of the field. -/
def blockListAfter (blockList : Option (List String)) (edit : BlockEdit × String) :
    Option (List String) :=
  match blockListToWrite edit.1 edit.2 blockList with
  | none => blockList
  | some written => written.asStrings

/-- The edit a call asks for. -/
def blockEdit : Event AccountCall Reply → Option (BlockEdit × String)
  | .call (.addToBlocklist _ userId) => some (.add, userId)
  | .call (.removeFromBlocklist _ userId) => some (.remove, userId)
  | _ => none

/-- The edits the calls of a run ask for, in order. -/
def blockEdits (evs : List (Event AccountCall Reply)) : List (BlockEdit × String) :=
  evs.filterMap blockEdit

theorem blockEdits_append (evs evs' : List (Event AccountCall Reply)) :
    blockEdits (evs ++ evs') = blockEdits evs ++ blockEdits evs' :=
  List.filterMap_append

theorem blockEdits_snoc_of_some {edit : BlockEdit × String} (h : blockEdit e = some edit) :
    blockEdits (evs ++ [e]) = blockEdits evs ++ [edit] := by
  rw [blockEdits_append]
  simp only [blockEdits, List.filterMap_cons_some h, List.filterMap_nil]

theorem blockEdits_snoc_of_none (h : blockEdit e = none) :
    blockEdits (evs ++ [e]) = blockEdits evs := by
  rw [blockEdits_append]
  simp only [blockEdits, List.filterMap_cons_none h, List.filterMap_nil, List.append_nil]

/-- An id that is not in a stored list is appended to it. -/
theorem blockListToWrite_add (l : List String) (userId : String) :
    blockListToWrite .add userId (some l) =
      if userId ∉ l then some (.strings (l ++ [userId])) else none := by
  simp only [blockListToWrite, Option.bind_some, Option.map_some, Option.elim_some,
    List.idxOf?_eq_none_iff]

/-- Of an id that is in a stored list the first occurrence is removed. -/
theorem blockListToWrite_remove (l : List String) (userId : String) :
    blockListToWrite .remove userId (some l) =
      if userId ∈ l then some (.strings (l.erase userId)) else none := by
  simp only [blockListToWrite, Option.bind_some, Option.map_some]
  cases hidx : l.idxOf? userId with
  | none => rw [if_neg (List.idxOf?_eq_none_iff.1 hidx), Option.bind_none]
  | some k =>
    have hmem : userId ∈ l := by
      by_contra hnot
      rw [List.idxOf?_eq_none_iff.2 hnot] at hidx
      cases hidx
    have herase : l.eraseIdx k = l.erase userId := by
      rw [List.erase_eq_eraseIdx, hidx]
    rw [if_pos hmem, Option.bind_some, herase]

/-- On a stored list, the code's edit is the one it is for. -/
theorem blockListAfter_some (l : List String) (edit : BlockEdit × String) :
    blockListAfter (some l) edit = some (editBlockList l edit) := by
  obtain ⟨edit, userId⟩ := edit
  unfold blockListAfter
  cases edit with
  | add =>
    rw [blockListToWrite_add]
    by_cases hmem : userId ∈ l
    · simp [editBlockList, hmem]
    · simp [editBlockList, hmem]
  | remove =>
    rw [blockListToWrite_remove]
    by_cases hmem : userId ∈ l
    · simp [editBlockList, hmem]
    · simp [editBlockList, hmem, List.erase_of_not_mem hmem]

/-- Where there is no list, an edit leaves none. -/
theorem blockListAfter_none (edit : BlockEdit × String) : blockListAfter none edit = none := by
  obtain ⟨edit, userId⟩ := edit
  cases edit <;> rfl

theorem foldl_blockListAfter_some (l : List String) (edits : List (BlockEdit × String)) :
    edits.foldl blockListAfter (some l) = some (edits.foldl editBlockList l) := by
  induction edits generalizing l with
  | nil => rfl
  | cons edit edits ih => rw [List.foldl_cons, blockListAfter_some, ih, List.foldl_cons]

theorem foldl_blockListAfter_none (edits : List (BlockEdit × String)) :
    edits.foldl blockListAfter none = none := by
  induction edits with
  | nil => rfl
  | cons edit edits ih => rw [List.foldl_cons, blockListAfter_none, ih]

/-- Edits that only remove leave the empty list empty. -/
theorem foldl_editBlockList_nil {edits : List (BlockEdit × String)}
    (h : ∀ userId, (BlockEdit.add, userId) ∉ edits) : edits.foldl editBlockList [] = [] := by
  induction edits with
  | nil => rfl
  | cons edit edits ih =>
    obtain ⟨edit, userId⟩ := edit
    cases edit with
    | add => exact absurd List.mem_cons_self (h userId)
    | remove => exact ih fun v hv => h v (List.mem_cons_of_mem _ hv)

/-- After an `add`, the id is in the list. -/
theorem mem_foldl_editBlockList (l : List String) {edits : List (BlockEdit × String)}
    (h : edits.getLast? = some (.add, u)) : u ∈ edits.foldl editBlockList l := by
  obtain ⟨edits, rfl⟩ := List.getLast?_eq_some_iff.1 h
  rw [List.foldl_append, List.foldl_cons, List.foldl_nil, editBlockList]
  split
  · assumption
  · exact List.mem_append_right _ List.mem_cons_self

/-! ## Runs of edits -/

/-- **Calls that do not overlap and do not fail**, each of a device that
is signed in to the account `i`. -/
def BlockCalls (i : String) (c : Config World AccountTask) : Event AccountCall Reply → Prop
  | .call a => c.pending = [] ∧ ∃ device userId, (c.state.device device).firebaseId = some i ∧
      (a = .addToBlocklist device userId ∨ a = .removeFromBlocklist device userId)
  | .answer _ r => r = .ok

/-- **What a run of edits has in flight**: nothing, or the read or the
write of the last edit. `blockList` is what the edits so far leave. -/
structure BlockLane (i : String) (blockList : Option (List String))
    (c : Config World AccountTask) : Prop where
  lane : ∃ document, c.state.server.users.get i = some document ∧
    ((c.pending = [] ∧ document.strings .blockList = blockList) ∨
      (∃ device edit userId, c.pending = [.getBlockList device edit i userId] ∧
        (c.state.device device).firebaseId = some i ∧
        blockListAfter (document.strings .blockList) (edit, userId) = blockList) ∨
      ∃ written, c.pending = [.setBlockList i written] ∧ written.asStrings = blockList)

namespace BlockLane

variable {blockList : Option (List String)}

/-- The read of an edit in flight alone. -/
theorem ask (h : BlockLane i blockList c) (hquiet : c.pending = []) {device : ℕ}
    (hdevice : (c.state.device device).firebaseId = some i) (edit : BlockEdit) (userId : String)
    {past : List World} :
    BlockLane i (blockListAfter blockList (edit, userId))
      ⟨c.state, past, [.getBlockList device edit i userId]⟩ := by
  obtain ⟨document, hget, ⟨-, hread⟩ | ⟨_, _, _, hp, -⟩ | ⟨_, hp, -⟩⟩ := h.lane
  · exact ⟨document, hget, Or.inr (Or.inl ⟨device, edit, userId, rfl, hdevice, by rw [hread]⟩)⟩
  · rw [hquiet] at hp; cases hp
  · rw [hquiet] at hp; cases hp

/-- The call puts a read in flight. -/
theorem call (h : BlockLane i blockList c) {a : AccountCall} (hok : BlockCalls i c (.call a))
    (hs : managers.step c (.call a) = some c') :
    ∃ edit, blockEdit (.call a) = some edit ∧ BlockLane i (blockListAfter blockList edit) c' := by
  obtain ⟨hquiet, device, userId, hdevice, ha⟩ := hok
  obtain ⟨w, ts, hissue, rfl⟩ := Machine.step_call.1 hs
  rcases ha with rfl | rfl
  · obtain ⟨rfl, rfl⟩ := Prod.mk.inj (Option.some.inj hissue)
    refine ⟨_, rfl, ?_⟩
    simpa only [hquiet, hdevice, List.nil_append, Option.getD_some] using
      h.ask hquiet hdevice .add userId
  · obtain ⟨rfl, rfl⟩ := Prod.mk.inj (Option.some.inj hissue)
    refine ⟨_, rfl, ?_⟩
    simpa only [hquiet, hdevice, List.nil_append, Option.getD_some] using
      h.ask hquiet hdevice .remove userId

/-- **An answer leaves what the edits come to**: the read spawns the
write, or nothing is to be written. -/
theorem answer (h : BlockLane i blockList c) {k : ℕ}
    (hs : managers.step c (.answer k .ok) = some c') : BlockLane i blockList c' := by
  obtain ⟨document, hget, hlane⟩ := h.lane
  obtain ⟨t, ht, rfl⟩ := Machine.step_answer.1 hs
  have hmem : t ∈ c.pending := List.mem_of_getElem? ht
  have hk : k < c.pending.length := (List.getElem?_eq_some_iff.1 ht).1
  rcases hlane with ⟨hp, -⟩ | ⟨device, edit, userId, hp, hdevice, hafter⟩ | ⟨written, hp, hwritten⟩
  · rw [hp] at hmem; cases hmem
  · have hzero : k = 0 := by rw [hp, List.length_singleton] at hk; omega
    rw [hp] at hmem
    obtain rfl := List.mem_singleton.1 hmem
    have hspawn : managers.answer c.state (.getBlockList device edit i userId) .ok =
        (c.state, (blockListToWrite edit userId (document.strings .blockList)).toList.map
          (.setBlockList i)) := by
      simp only [managers, accountAnswer, accountAnswerOk, hget, hdevice, Option.getD_some]
    refine ⟨document, by rw [hspawn]; exact hget, ?_⟩
    simp only [hspawn, hp, hzero, List.eraseIdx_cons_zero, List.nil_append]
    unfold blockListAfter at hafter
    cases hwrite : blockListToWrite edit userId (document.strings .blockList) with
    | none =>
      simp only [hwrite] at hafter
      exact Or.inl ⟨rfl, hafter⟩
    | some written =>
      simp only [hwrite] at hafter
      exact Or.inr (Or.inr ⟨written, rfl, hafter⟩)
  · have hzero : k = 0 := by rw [hp, List.length_singleton] at hk; omega
    rw [hp] at hmem
    obtain rfl := List.mem_singleton.1 hmem
    refine ⟨document.updateData [(.blockList, written)], ?_, Or.inl ⟨?_, ?_⟩⟩
    · show (c.state.server.users.modify i _).get i = _
      rw [Collection.get_modify_self, hget, Option.map_some]
    · show c.pending.eraseIdx k ++ [] = []
      rw [hp, hzero, List.eraseIdx_cons_zero, List.nil_append]
    · rw [Doc.strings_updateData, if_pos rfl, hwritten]

/-- **The run lemma.** The edits of a run fold over the stored list. -/
theorem invariant (hget : w.server.users.get i = some d₀)
    (h : managers.Run (BlockCalls i) (.start w) evs c) :
    BlockLane i ((blockEdits evs).foldl blockListAfter (d₀.strings .blockList)) c := by
  induction h with
  | nil => exact ⟨d₀, hget, Or.inl ⟨rfl, rfl⟩⟩
  | @snoc evs c e c' _ hok hs ih =>
    cases e with
    | call a =>
      obtain ⟨edit, hedit, hlane⟩ := ih.call hok hs
      rw [blockEdits_snoc_of_some hedit, List.foldl_append]
      exact hlane
    | answer k r =>
      obtain rfl : r = .ok := hok
      rw [blockEdits_snoc_of_none rfl]
      exact ih.answer hs

/-- With nothing in flight, the field reads what the edits come to. -/
theorem of_quiet (h : BlockLane i blockList c) (hquiet : c.pending = []) :
    ∃ document, c.state.server.users.get i = some document ∧
      document.strings .blockList = blockList := by
  obtain ⟨document, hget, ⟨-, hread⟩ | ⟨_, _, _, hp, -⟩ | ⟨_, hp, -⟩⟩ := h.lane
  · exact ⟨document, hget, hread⟩
  · rw [hquiet] at hp; cases hp
  · rw [hquiet] at hp; cases hp

end BlockLane

/-- Every edit of a run that has come to rest was over at some point of
it, with those before it. -/
theorem exists_quiet (h : managers.Run (BlockCalls i) (.start w) evs c)
    {edits : List (BlockEdit × String)} (hedits : edits <+: blockEdits evs)
    (hne : edits ≠ blockEdits evs ∨ c.pending = []) :
    ∃ evs' c', evs' <+: evs ∧ managers.Run (BlockCalls i) (.start w) evs' c' ∧
      c'.pending = [] ∧ blockEdits evs' = edits := by
  induction h with
  | nil => exact ⟨[], .start w, List.prefix_rfl, .nil, rfl, (List.prefix_nil.1 hedits).symm⟩
  | @snoc evs c e c' hr hok hs ih =>
    by_cases hend : edits = blockEdits (evs ++ [e])
    · exact ⟨evs ++ [e], c', List.prefix_rfl, hr.snoc hok hs,
        hne.resolve_left (absurd hend), hend.symm⟩
    · have hbefore : edits <+: blockEdits evs ∧ (edits ≠ blockEdits evs ∨ c.pending = []) := by
        cases hedit : blockEdit e with
        | none =>
          rw [blockEdits_snoc_of_none hedit] at hedits hend
          exact ⟨hedits, Or.inl hend⟩
        | some edit =>
          rw [blockEdits_snoc_of_some hedit] at hedits hend
          refine ⟨(List.prefix_concat_iff.1 hedits).resolve_left hend, Or.inr ?_⟩
          cases e with
          | call a => exact hok.1
          | answer k r => cases hedit
      obtain ⟨evs', c', hpre, hrun, hquiet, heq⟩ := ih hbefore.1 hbefore.2
      exact ⟨evs', c', hpre.trans (List.prefix_append _ _), hrun, hquiet, heq⟩

/-- **What blocking is to do**: whenever a run has come to rest, the
decoded list is the one the edits so far are for, and a user whose
blocking came last is in the list the feed is filtered by. -/
def BlocksAsTold (w : World) (i : String) (d₀ : Doc UserTitle)
    (evs : List (Event AccountCall Reply)) : Prop :=
  ∀ evs' c', evs' <+: evs → managers.Run (BlockCalls i) (.start w) evs' c' → c'.pending = [] →
    ∃ document, c'.state.server.users.get i = some document ∧
      (decodeUser i document).blockList =
        (blockEdits evs').foldl editBlockList (decodeUser i d₀).blockList ∧
      ∀ userId, (blockEdits evs').getLast? = some (.add, userId) →
        userId ∈ FinderDataManager.myBlockList document

/-- **Blocking does what it says**, on every account and over every run of
edits, exactly when the account's document stores a list of strings or the
run blocks no one. -/
theorem blocking_law_iff (hget : w.server.users.get i = some d₀)
    (h : managers.Run (BlockCalls i) (.start w) evs c) (hquiet : c.pending = []) :
    BlocksAsTold w i d₀ evs ↔
      (d₀.strings .blockList).isSome ∨ ∀ userId, (BlockEdit.add, userId) ∉ blockEdits evs := by
  constructor
  · intro hlaw
    by_contra hnot
    push Not at hnot
    obtain ⟨hnone, userId, hmem⟩ := hnot
    obtain ⟨edits, rest, hsplit⟩ := List.append_of_mem hmem
    -- right after the edit that blocks `userId`, the stored field is no list
    have hprefix : edits ++ [(.add, userId)] <+: blockEdits evs :=
      ⟨rest, by rw [hsplit, List.append_assoc]; rfl⟩
    obtain ⟨evs', c', hpre, hrun, hquiet', hedits⟩ := exists_quiet h hprefix (Or.inr hquiet)
    obtain ⟨document, hdoc, -, hlast⟩ := hlaw evs' c' hpre hrun hquiet'
    obtain ⟨document', hdoc', hread⟩ := (BlockLane.invariant hget hrun).of_quiet hquiet'
    obtain rfl := Option.some.inj (hdoc.symm.trans hdoc')
    rw [Option.not_isSome_iff_eq_none.1 hnone, foldl_blockListAfter_none] at hread
    have hlastEdit : (edits ++ [(BlockEdit.add, userId)]).getLast? = some (.add, userId) := by
      rw [List.getLast?_append, List.getLast?_singleton]
      rfl
    have hblocked := hlast userId (hedits ▸ hlastEdit)
    rw [FinderDataManager.myBlockList, hread] at hblocked
    cases hblocked
  · intro hcond evs' c' hpre hrun hquiet'
    obtain ⟨document, hdoc, hread⟩ := (BlockLane.invariant hget hrun).of_quiet hquiet'
    refine ⟨document, hdoc, ?_⟩
    simp only [decodeUser, FinderDataManager.myBlockList, hread]
    cases hstored : d₀.strings .blockList with
    | some l =>
      rw [foldl_blockListAfter_some, Option.getD_some, Option.getD_some]
      exact ⟨rfl, fun userId hlast => mem_foldl_editBlockList l hlast⟩
    | none =>
      have hadd : ∀ userId, (BlockEdit.add, userId) ∉ blockEdits evs' := fun userId hmem => by
        refine hcond.resolve_left (by simp [hstored]) userId ?_
        obtain ⟨rest, rfl⟩ := hpre
        rw [blockEdits_append]
        exact List.mem_append_left _ hmem
      rw [foldl_blockListAfter_none, Option.getD_none, foldl_editBlockList_nil hadd]
      exact ⟨rfl, fun userId hlast => absurd (List.mem_of_getLast? hlast) (hadd userId)⟩

namespace Sample

/-- Device 0 is signed in to an account whose document has no block
list. -/
def oldAccount : World where
  server := ⟨⟨[("me", Doc.setData [])], by simp⟩, ⟨[], by simp⟩, ⟨[], by simp⟩, []⟩
  device := fun _ => { firebaseId := some "me" }

/-- One user is blocked. -/
def blockOnce : List (Event AccountCall Reply) :=
  [.call (.addToBlocklist 0 "u"), .answer 0 .ok, .answer 0 .ok]

theorem blockOnce_run : ∃ c, managers.Run (BlockCalls "me") (.start oldAccount) blockOnce c ∧
    c.pending = [] ∧ (c.state.server.users.get "me").map (decodeUser "me" · |>.blockList) =
      some [] :=
  ⟨_, .snoc (.snoc (.snoc .nil ⟨rfl, 0, "u", rfl, Or.inl rfl⟩ rfl) rfl rfl) rfl rfl, rfl, by decide⟩

end Sample

/-- On an account without a list, blocking succeeds and blocks no one. -/
theorem blocking_law_fails : ¬∀ (w : World) (i : String) (d₀ : Doc UserTitle)
    (evs : List (Event AccountCall Reply)) (c : Config World AccountTask),
    w.server.users.get i = some d₀ → managers.Run (BlockCalls i) (.start w) evs c →
    c.pending = [] → BlocksAsTold w i d₀ evs := by
  intro hall
  obtain ⟨c, hrun, hquiet, hread⟩ := Sample.blockOnce_run
  obtain ⟨document, hdoc, hlist, -⟩ := hall _ _ (Doc.setData []) _ c rfl hrun hquiet _ c
    List.prefix_rfl hrun hquiet
  rw [hdoc, Option.map_some, Option.some.injEq, hlist] at hread
  exact absurd hread (by decide)

theorem blocking_law_iff_old_account :
    ¬BlocksAsTold Sample.oldAccount "me" (Doc.setData []) Sample.blockOnce := by
  obtain ⟨c, hrun, hquiet, -⟩ := Sample.blockOnce_run
  rw [blocking_law_iff rfl hrun hquiet]
  rintro (hsome | hnone)
  · exact absurd hsome (by decide)
  · exact hnone "u" List.mem_cons_self

end Volleyer
