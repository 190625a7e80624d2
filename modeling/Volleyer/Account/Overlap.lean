import Volleyer.Account.Blocking
import Volleyer.Common.Members
import Volleyer.Common.Tagged

/-!
# Blocking — calls that overlap

Several people are blocked and unblocked at once: the reads and the writes
of the calls come in any order. Each write stores a whole list, so `Edits`
says what becomes of it: everybody is unblocked and blocked as told
exactly when every write landed on the list its read saw.
-/

namespace Volleyer

open MyDataManager

deriving instance DecidableEq for BlockEdit

variable {w w₀ : World} {i : String} {d₀ d : Doc UserTitle} {l l' before after : List String}
variable {edits : List (BlockEdit × String)} {x y : BlockEdit × String}
variable {evs : List (Event AccountCall Reply)} {e : Event AccountCall Reply}
variable {c : Config World AccountTask} {a : AccountCall} {read : List String}

/-- **Devices signed in to the account `i` edit its block list**, and
nothing fails. -/
def EditsBlockList (i : String) (c : Config World AccountTask) : Event AccountCall Reply → Prop
  | .call a => ∃ device userId, (c.state.device device).firebaseId = some i ∧
      (a = .addToBlocklist device userId ∨ a = .removeFromBlocklist device userId)
  | .answer _ r => r = .ok

/-- The list stored for an account. -/
def World.blockList (w : World) (i : String) : List String :=
  ((w.server.users.get i).bind (·.strings .blockList)).getD []

/-- An edit made on a list. -/
def makeBlockEdit : BlockEdit × String → List String → List String
  | (.add, userId), blockList => blockList ++ [userId]
  | (.remove, userId), blockList => blockList.erase userId

/-- A task in flight beside the call it comes from, and the block list there
was when it was put in flight. -/
abbrev ReadTask := (AccountCall × List String) × AccountTask

/-- **The managers with each task beside what was read for it.** -/
def readingBlockList (i : String) : Machine World AccountCall ReadTask Reply :=
  managers.noting (fun w a => (a, w.blockList i)) fun w note => (note.1, w.blockList i)

/-- **What a write of the block list is made on, and lands on**: the list its
call read, and the list that is there. -/
def blockListWrites (i : String) (c : Config World ReadTask) :
    Event AccountCall Reply → List (List String × List String)
  | .call _ => []
  | .answer n _ => match c.pending[n]? with
    | some ((_, read), .setBlockList documentID _) =>
        if documentID = i then [(read, c.state.blockList i)] else []
    | _ => []

/-- **Everybody unblocked and blocked as told**: nobody is left who was to
be removed, all are there who were to be added, and the others stay. -/
structure UnblocksAsTold (edits : List (BlockEdit × String)) (before after : List String) :
    Prop where
  removed : ∀ u, (.remove, u) ∈ edits → u ∉ after
  added : ∀ u, (.add, u) ∈ edits → u ∈ after
  others : ∀ u ∈ before, u ∉ edits.map Prod.snd → u ∈ after

/-! ## The edits -/

theorem members_makeBlockEdit : Members makeBlockEdit (fun x => x.1 = .add) Prod.snd where
  append {x} hx blockList := by
    obtain ⟨edit, u⟩ := x
    obtain rfl : edit = .add := hx
    rfl
  erase {x} hx blockList := by
    obtain ⟨edit, u⟩ := x
    cases edit with
    | add => exact absurd rfl hx
    | remove => rfl

/-- An edit that has something to do in a list. -/
def FindsWork (blockList : List String) (x : BlockEdit × String) : Prop :=
  Members.Changes (fun x : BlockEdit × String => x.1 = .add) Prod.snd blockList x

instance (blockList : List String) (x : BlockEdit × String) : Decidable (FindsWork blockList x) :=
  inferInstanceAs (Decidable (_ ↔ _))

@[simp] theorem findsWork_add {u : String} : FindsWork l (.add, u) ↔ u ∉ l := by
  simp [FindsWork, Members.Changes]

@[simp] theorem findsWork_remove {u : String} : FindsWork l (.remove, u) ↔ u ∈ l := by
  simp [FindsWork, Members.Changes]

/-- **What a callback writes** of a stored list: the edit, if it has
something to do. -/
theorem blockListToWrite_some (l : List String) (x : BlockEdit × String) :
    blockListToWrite x.1 x.2 (some l) =
      if FindsWork l x then some (.strings (makeBlockEdit x l)) else none := by
  obtain ⟨edit, u⟩ := x
  cases edit with
  | add => simp only [blockListToWrite_add, findsWork_add, makeBlockEdit]
  | remove => simp only [blockListToWrite_remove, findsWork_remove, makeBlockEdit]

/-- What is told is done where no edit has anything left to do. -/
theorem unblocksAsTold_iff : UnblocksAsTold edits before after ↔
    (∀ x ∈ edits, ¬FindsWork after x) ∧ ∀ u ∈ before, u ∉ edits.map Prod.snd → u ∈ after := by
  constructor
  · rintro ⟨hremoved, hadded, hothers⟩
    refine ⟨?_, hothers⟩
    rintro ⟨edit, u⟩ hx
    cases edit with
    | add => rw [findsWork_add, not_not]; exact hadded u hx
    | remove => rw [findsWork_remove]; exact hremoved u hx
  · rintro ⟨hdone, hothers⟩
    refine ⟨fun u hu => ?_, fun u hu => ?_, hothers⟩
    · have := hdone _ hu
      rwa [findsWork_remove] at this
    · have := hdone _ hu
      rwa [findsWork_add, not_not] at this

/-- The edits of a list that find work in it. -/
def working (l : List String) (edits : List (BlockEdit × String)) : List (BlockEdit × String) :=
  edits.filter (FindsWork l ·)

theorem mem_working : x ∈ working l edits ↔ x ∈ edits ∧ FindsWork l x := by
  rw [working, List.mem_filter, decide_eq_true_eq]

/-- **The edits that find work, made in a chain, are all there is to
do.** -/
theorem unblocksAsTold_chain (hl : l.Nodup) (hids : (edits.map Prod.snd).Nodup)
    {w : List (BlockEdit × String)} (hw : w.Perm (working l edits)) :
    UnblocksAsTold edits l (Edits.chain makeBlockEdit l w) := by
  have hworking : ((working l edits).map Prod.snd).Nodup :=
    hids.sublist (List.filter_sublist.map Prod.snd)
  obtain ⟨-, hmade⟩ := members_makeBlockEdit.chain_of_nodup hl
    ((hw.map Prod.snd).nodup_iff.2 hworking) fun x hx => (mem_working.1 (hw.mem_iff.1 hx)).2
  have hsub : ∀ x ∈ w, x ∈ edits := fun x hx => (mem_working.1 (hw.mem_iff.1 hx)).1
  refine unblocksAsTold_iff.2 ⟨fun x hx => ?_, fun u hu hnot => ?_⟩
  · by_cases hfinds : FindsWork l x
    · exact hmade x (hw.mem_iff.2 (mem_working.2 ⟨hx, hfinds⟩))
    · have hnot : x.2 ∉ w.map Prod.snd := by
        intro hmem
        obtain ⟨y, hy, heq⟩ := List.mem_map.1 hmem
        obtain rfl := List.inj_on_of_nodup_map hids (hsub y hy) hx heq
        exact hfinds (mem_working.1 (hw.mem_iff.1 hy)).2
      rwa [FindsWork, members_makeBlockEdit.changes_chain_of_not_mem hnot]
  · refine (members_makeBlockEdit.mem_chain_of_not_mem fun hmem => hnot ?_).2 hu
    obtain ⟨y, hy, rfl⟩ := List.mem_map.1 hmem
    exact List.mem_map_of_mem (hsub y hy)

/-! ## The machine edits the list -/

/-- The edit a task in flight is still to make. One that found no work at
the start is none. -/
def owesBlockEdit (l : List String) (t : ReadTask) : Option (BlockEdit × String) :=
  (blockEdit (.call t.1.1)).filter (FindsWork l ·)

/-- The list a task in flight is going to write. -/
def writesBlockList (t : ReadTask) : Option (List String) :=
  match t.2 with
  | .setBlockList _ blockList => blockList.asStrings
  | _ => none

/-- The edit a call asks for, if there is work for it at the start. -/
def asksBlockEdit (l : List String) (a : AccountCall) : Option (BlockEdit × String) :=
  (blockEdit (.call a)).filter (FindsWork l ·)

/-- An edit without work at the start finds none. -/
def Kept (edits : List (BlockEdit × String)) (l l' : List String) : Prop :=
  ∀ x ∈ edits, ¬FindsWork l x → ¬FindsWork l' x

/-- **The states of such a run**: the devices are as they were, and a list
is stored. -/
structure Listed (edits : List (BlockEdit × String)) (i : String) (l : List String) (w₀ w : World) :
    Prop where
  device : w.device = w₀.device
  stored : ∃ d l', w.server.users.get i = some d ∧ d.strings .blockList = some l' ∧
    Kept edits l l'

/-- **The tasks of such a run**: the read of an edit, or the write of one
that had work, made on what was read. -/
inductive Editing (edits : List (BlockEdit × String)) (i : String) (l : List String) (w₀ : World) :
    ReadTask → Prop
  | read {a : AccountCall} {edit : BlockEdit × String} {device : ℕ} {read : List String}
      (hedit : edit ∈ edits) (hcall : blockEdit (.call a) = some edit)
      (hdevice : (w₀.device device).firebaseId = some i) :
      Editing edits i l w₀ ((a, read), .getBlockList device edit.1 i edit.2)
  | write {a : AccountCall} {edit : BlockEdit × String} {read : List String} (hedit : edit ∈ edits)
      (hcall : blockEdit (.call a) = some edit) (hfinds : FindsWork l edit)
      (hkept : Kept edits l (makeBlockEdit edit read)) :
      Editing edits i l w₀ ((a, read), .setBlockList i (.strings (makeBlockEdit edit read)))

theorem owesBlockEdit_of_finds {t : AccountTask} (hcall : blockEdit (.call a) = some x)
    (hfinds : FindsWork l x) : owesBlockEdit l ((a, read), t) = some x := by
  simp [owesBlockEdit, hcall, Option.filter_some, hfinds]

theorem owesBlockEdit_of_not_finds {t : AccountTask} (hcall : blockEdit (.call a) = some x)
    (hfinds : ¬FindsWork l x) : owesBlockEdit l ((a, read), t) = none := by
  simp [owesBlockEdit, hcall, Option.filter_some, hfinds]

theorem writesBlockList_strings :
    writesBlockList ((a, read), .setBlockList i (.strings l)) = some l :=
  Value.asStrings_strings l

theorem World.blockList_of_get (hget : w.server.users.get i = some d)
    (hlist : d.strings .blockList = some l) : w.blockList i = l := by
  rw [World.blockList, hget, Option.bind_some, hlist, Option.getD_some]

/-- An edit with work keeps the others without. -/
theorem Kept.make (h : Kept edits l l') (hids : (edits.map Prod.snd).Nodup) (hx : x ∈ edits)
    (hfinds : FindsWork l x) : Kept edits l (makeBlockEdit x l') := by
  intro y hy hnot
  have hne : y.2 ≠ x.2 := by
    intro heq
    obtain rfl := List.inj_on_of_nodup_map hids hy hx heq
    exact hnot hfinds
  rw [FindsWork, members_makeBlockEdit.changes_make_of_ne hne]
  exact h y hy hnot

/-- **A read** puts the write of its edit in flight, where the edit has
work. -/
theorem answer_read (hdevice : w.device = w₀.device) (hget : w.server.users.get i = some d)
    (hlist : d.strings .blockList = some l') {device : ℕ}
    (hsigned : (w₀.device device).firebaseId = some i) :
    (readingBlockList i).answer w ((a, read), .getBlockList device x.1 i x.2) .ok =
      (w, if FindsWork l' x then [((a, l'), .setBlockList i (.strings (makeBlockEdit x l')))]
        else []) := by
  simp only [readingBlockList, Machine.noting, managers, accountAnswer, accountAnswerOk, hget,
    hlist, hdevice, hsigned, blockListToWrite_some, Option.getD_some,
    World.blockList_of_get hget hlist]
  split <;> rfl

/-- A write puts nothing in flight. -/
theorem tasks_write (w : World) (note : AccountCall × List String) (blockList : Value) :
    ((readingBlockList i).answer w (note, .setBlockList i blockList) .ok).2 = [] := rfl

/-- **A write** stores its list. -/
theorem listed_write (h : Listed edits i l w₀ w) (hkept : Kept edits l l')
    (note : AccountCall × List String) :
    Listed edits i l w₀
        ((readingBlockList i).answer w (note, .setBlockList i (.strings l')) .ok).1 ∧
      ((readingBlockList i).answer w (note, .setBlockList i (.strings l')) .ok).1.blockList i =
        l' := by
  obtain ⟨d, l₁, hget, -, -⟩ := h.stored
  have hget' : ((readingBlockList i).answer w (note, .setBlockList i (.strings l'))
      .ok).1.server.users.get i = some (d.updateData [(.blockList, .strings l')]) := by
    show (w.server.users.modify i _).get i = _
    rw [Collection.get_modify_self, hget, Option.map_some]
  have hlist : (d.updateData [(.blockList, .strings l')]).strings UserTitle.blockList =
      some l' := by
    rw [Doc.strings_updateData, if_pos rfl, Value.asStrings_strings]
  exact ⟨⟨h.device, _, _, hget', hlist, hkept⟩, World.blockList_of_get hget' hlist⟩

/-- **The machine edits the block list.** -/
theorem edits_blockList (hids : (edits.map Prod.snd).Nodup) :
    Edits (readingBlockList i) .ok (Listed edits i l w₀) (Editing edits i l w₀) (·.blockList i)
      makeBlockEdit (owesBlockEdit l) writesBlockList where
  good {w t} hw ht := by
    cases ht with
    | @read a edit device read hedit hcall hdevice =>
      obtain ⟨d, l', hget, hlist, hkept⟩ := hw.stored
      rw [answer_read hw.device hget hlist hdevice]
      refine ⟨hw, fun t ht => ?_⟩
      split at ht
      · next hfinds =>
        obtain rfl := List.mem_singleton.1 ht
        have hfirst : FindsWork l edit := not_imp_not.1 (hkept edit hedit) hfinds
        exact .write hedit hcall hfirst (hkept.make hids hedit hfirst)
      · cases ht
    | write hedit hcall hfinds hkept =>
      rw [tasks_write]
      exact ⟨(listed_write hw hkept _).1, fun _ ht => absurd ht List.not_mem_nil⟩
  debt {t b} ht hb := by
    cases ht with
    | read => cases hb
    | @write a edit read hedit hcall hfinds hkept =>
      exact ⟨edit, owesBlockEdit_of_finds hcall hfinds⟩
  read {w t} hw ht hwt := by
    cases ht with
    | @read a edit device read hedit hcall hdevice =>
      obtain ⟨d, l', hget, hlist, hkept⟩ := hw.stored
      rw [answer_read hw.device hget hlist hdevice]
      refine ⟨rfl, ?_, fun t ht b hb => ?_⟩
      · split
        · rw [List.filterMap_cons, List.filterMap_nil, owesBlockEdit, owesBlockEdit]
          cases (blockEdit (.call a)).filter (FindsWork l ·) <;> exact List.Sublist.refl _
        · exact List.nil_sublist _
      · split at ht
        · next hfinds =>
          obtain rfl := List.mem_singleton.1 ht
          have hfirst : FindsWork l edit := not_imp_not.1 (hkept edit hedit) hfinds
          refine ⟨edit, owesBlockEdit_of_finds hcall hfirst, ?_⟩
          rw [World.blockList_of_get hget hlist]
          exact Option.some.inj (hb.symm.trans writesBlockList_strings)
        · cases ht
    | write hedit hcall hfinds hkept =>
      rw [writesBlockList_strings] at hwt
      cases hwt
  write {w t b} hw ht hwt := by
    cases ht with
    | read => cases hwt
    | write hedit hcall hfinds hkept =>
      obtain rfl := Option.some.inj (writesBlockList_strings.symm.trans hwt)
      rw [tasks_write]
      exact ⟨Or.inl (listed_write hw hkept _).2, rfl, fun _ ht => absurd ht List.not_mem_nil⟩

/-- No debt of an edit lapses that finds work. -/
theorem sure_blockList :
    Edits.SureWhere (readingBlockList i) .ok (Listed edits i l w₀) (Editing edits i l w₀)
      (·.blockList i) (owesBlockEdit l) writesBlockList fun x l' => FindsWork l' x where
  pass {w t} hw ht hwt hfinds := by
    cases ht with
    | @read a edit device read hedit hcall hdevice =>
      obtain ⟨d, l', hget, hlist, hkept⟩ := hw.stored
      rw [answer_read hw.device hget hlist hdevice]
      by_cases hfirst : FindsWork l edit
      · have hnow := hfinds edit (owesBlockEdit_of_finds hcall hfirst)
        rw [World.blockList_of_get hget hlist] at hnow
        rw [if_pos hnow, owesBlockEdit_of_finds hcall hfirst]
        simp [owesBlockEdit_of_finds hcall hfirst]
      · rw [if_neg (hkept edit hedit hfirst), owesBlockEdit_of_not_finds hcall hfirst]
        rfl
    | write hedit hcall hfinds hkept =>
      rw [writesBlockList_strings] at hwt
      cases hwt
  land {w t b} hw ht hwt := by
    cases ht with
    | read => cases hwt
    | write hedit hcall hfinds hkept =>
      obtain rfl := Option.some.inj (writesBlockList_strings.symm.trans hwt)
      exact (listed_write hw hkept _).2

/-- A write in flight is the edit of its call, made on the list it is
beside. -/
theorem sees_blockList :
    Edits.Sees (readingBlockList i) .ok (Listed edits i l w₀) (Editing edits i l w₀)
      (·.blockList i) makeBlockEdit (owesBlockEdit l) writesBlockList (·.1.2) where
  read {w t} hw ht t' ht' := by
    obtain ⟨u, -, rfl⟩ := List.mem_map.1 ht'
    rfl
  edit {t b} ht hwt := by
    cases ht with
    | read => cases hwt
    | write hedit hcall hfinds hkept =>
      obtain rfl := Option.some.inj (writesBlockList_strings.symm.trans hwt)
      exact ⟨_, owesBlockEdit_of_finds hcall hfinds, rfl⟩

/-- The calls ask for their edits. -/
theorem calls_blockList :
    Edits.Calls (readingBlockList i) .ok (Listed edits i l w₀) (Editing edits i l w₀)
      (·.blockList i) (owesBlockEdit l) writesBlockList (asksBlockEdit l)
      fun c e => EditsBlockList i c.untag e ∧
        Machine.Calls (fun a => ∀ x, blockEdit (.call a) = some x → x ∈ edits) c e where
  reply h := h.1
  call {c a w ts} hok hw hi := by
    obtain ⟨⟨device, u, hsigned, ha⟩, hedits⟩ := hok
    have hedit := hedits a rfl
    have hw₀ : (w₀.device device).firebaseId = some i := by
      rw [← hw.device]
      exact hsigned
    have hdevice : (c.state.device device).firebaseId.getD "no my id" = i := by
      rw [show (c.state.device device).firebaseId = some i from hsigned, Option.getD_some]
    obtain ⟨⟨w', ts'⟩, hissue, heq⟩ := Option.map_eq_some_iff.1 hi
    obtain ⟨edit, hcall, rfl, rfl⟩ : ∃ edit : BlockEdit × String, blockEdit (.call a) = some edit ∧
        c.state = w' ∧ [.getBlockList device edit.1 i edit.2] = ts' := by
      rcases ha with rfl | rfl
      · obtain ⟨rfl, rfl⟩ := Prod.mk.inj (Option.some.inj hissue)
        exact ⟨(.add, u), rfl, rfl, by rw [hdevice]⟩
      · obtain ⟨rfl, rfl⟩ := Prod.mk.inj (Option.some.inj hissue)
        exact ⟨(.remove, u), rfl, rfl, by rw [hdevice]⟩
    obtain ⟨rfl, rfl⟩ := Prod.mk.inj heq
    refine ⟨hw, rfl, ?_, fun t ht => ?_⟩
    · rw [List.map_singleton, List.filterMap_cons, List.filterMap_nil, asksBlockEdit, owesBlockEdit]
      cases (blockEdit (.call a)).filter (FindsWork l ·) <;> rfl
    · obtain rfl := List.mem_singleton.1 ht
      exact ⟨.read (hedit edit hcall) hcall hw₀, rfl⟩

/-- What the calls of a run ask for. -/
theorem asked_blockList (l : List String) (evs : List (Event AccountCall Reply)) :
    Edits.asked (asksBlockEdit l) evs = working l (blockEdits evs) := by
  rw [working, blockEdits, List.filter_filterMap, Edits.asked]
  refine List.filterMap_congr fun e _ => ?_
  cases e <;> rfl

/-- A write lands on the list its call read where what is read and what is
there are one list. -/
theorem landsOnSeen_iff {c : Config World ReadTask}
    (htasks : ∀ t ∈ c.pending, Editing edits i l w₀ t) :
    Edits.LandsOnSeen (·.blockList i) (·.1.2) writesBlockList c e ↔
      ∀ write ∈ blockListWrites i c e, write.1 = write.2 := by
  cases e with
  | call a => exact iff_of_true trivial fun _ h => absurd h List.not_mem_nil
  | answer n r =>
    constructor
    · intro h write hwrite
      simp only [blockListWrites] at hwrite
      split at hwrite
      · next a read documentID blockList ht =>
        have hmine := htasks _ (List.mem_of_getElem? ht)
        cases hmine with
        | write =>
          rw [if_pos rfl, List.mem_singleton] at hwrite
          subst hwrite
          exact h _ _ ht writesBlockList_strings
      · cases hwrite
    · intro h t b ht hb
      have hmine := htasks t (List.mem_of_getElem? ht)
      cases hmine with
      | read => cases hb
      | @write a edit read => exact h (read, c.state.blockList i) (by simp [blockListWrites, ht])

/-- **Calls that overlap.** Users are unblocked and others blocked on one
account, each by one call; the reads and the writes come in any order and
succeed. When all have run, everybody is unblocked and blocked as told
exactly when every write was made on the list it wrote over. -/
theorem unblocks_iff (hget : w.server.users.get i = some d₀)
    (hlist : d₀.strings .blockList = some l) (hnodup : l.Nodup)
    (hids : ((blockEdits evs).map Prod.snd).Nodup)
    (hrun : managers.Run (EditsBlockList i) (.start w) evs c) (hdone : c.pending = []) :
    (∃ d, c.state.server.users.get i = some d ∧
        UnblocksAsTold (blockEdits evs) l (decodeUser i d).blockList) ↔
      ∀ write ∈ (readingBlockList i).observed (blockListWrites i) (.start w) evs,
        write.1 = write.2 := by
  obtain ⟨c', hread, rfl⟩ : ∃ c' : Config World ReadTask,
      (readingBlockList i).Run (fun c e => EditsBlockList i c.untag e) (.start w) evs c' ∧
        c = c'.untag := Machine.Run.noting _ _ hrun
  have hpending : c'.pending = [] := List.map_eq_nil_iff.1 hdone
  have hboth := Machine.Run.and_iff.2 ⟨hread,
    hread.calls (P := fun a => ∀ x, blockEdit (.call a) = some x → x ∈ blockEdits evs)
      fun a ha x hx => List.mem_filterMap.2 ⟨_, ha, hx⟩⟩
  have hstart : Listed (blockEdits evs) i l w w := ⟨rfl, d₀, l, hget, hlist, fun _ _ h => h⟩
  have hedits : Edits (readingBlockList i) .ok (Listed (blockEdits evs) i l w)
      (Editing (blockEdits evs) i l w) (·.blockList i) makeBlockEdit (owesBlockEdit l)
      writesBlockList := edits_blockList hids
  obtain ⟨⟨-, d, l', hget', hlist', -⟩, -⟩ := hedits.good_of_run calls_blockList rfl hstart hboth
  have hvalue : c'.state.blockList i = l' := World.blockList_of_get hget' hlist'
  have hstored : (∃ d, c'.untag.state.server.users.get i = some d ∧
      UnblocksAsTold (blockEdits evs) l (decodeUser i d).blockList) ↔
      UnblocksAsTold (blockEdits evs) l (c'.state.blockList i) := by
    have hdecoded : (decodeUser i d).blockList = c'.state.blockList i := by
      rw [hvalue, decodeUser, hlist', Option.getD_some]
    constructor
    · rintro ⟨d', hd', htold⟩
      obtain rfl := Option.some.inj (hget'.symm.trans hd')
      exact hdecoded ▸ htold
    · exact fun htold => ⟨d, hget', hdecoded.symm ▸ htold⟩
  have hfirst : World.blockList w i = l := World.blockList_of_get hget hlist
  have hworking : ((working l (blockEdits evs)).map Prod.snd).Nodup :=
    hids.sublist (List.filter_sublist.map Prod.snd)
  have hfinds : ∀ x ∈ working l (blockEdits evs), FindsWork l x := fun x hx => (mem_working.1 hx).2
  -- an edit is told from a later list by what the others made of it
  have hlands : (readingBlockList i).Run (Edits.LandsOnRead (·.blockList i) makeBlockEdit
      (owesBlockEdit l) writesBlockList) (.start w) evs c' ↔
      ∀ write ∈ (readingBlockList i).observed (blockListWrites i) (.start w) evs,
        write.1 = write.2 := by
    rw [hedits.landsOnRead_iff_landsOnSeen sees_blockList calls_blockList rfl hstart hboth
      fun w₁ w₂ x hsub hsame => ?_]
    · rw [hread.forall_observed_iff]
      exact hboth.policy_iff fun hr _ =>
        landsOnSeen_iff (hedits.good_of_run calls_blockList rfl hstart hr).2
    · rw [asked_blockList] at hsub
      rw [Config.start_state, hfirst] at hsame
      exact members_makeBlockEdit.eq_nil_of_make_eq hnodup hworking hfinds hsub hsame
  rw [hstored, ← hlands]
  refine hedits.complete_where_iff sure_blockList calls_blockList rfl hstart hboth hpending
    (P := UnblocksAsTold (blockEdits evs) l) (fun w x hsub => ?_) (fun w hw => ?_) fun w hw => ?_
  · rw [asked_blockList] at hsub
    rw [Config.start_state, hfirst]
    exact members_makeBlockEdit.changes_of_subperm hworking hfinds hsub
  · rw [asked_blockList] at hw
    rw [Config.start_state, hfirst]
    exact unblocksAsTold_chain hnodup hids hw
  · rw [Config.start_state, hfirst] at hw
    rw [asked_blockList]
    exact members_makeBlockEdit.length_le_of_chain hworking hfinds fun x hx =>
      (unblocksAsTold_iff.1 hw).1 x (mem_working.1 hx).1

namespace Sample

/-- Device 0 is signed in to an account that blocks two users. -/
def twoBlocked : World where
  server := ⟨⟨[("me", Doc.setData [(.blockList, .strings ["u", "v"])])], List.nodup_singleton _⟩,
    .empty, .empty, []⟩
  device := fun _ => { firebaseId := some "me" }

/-- Both are unblocked and a third is blocked, in the order of the
answers. -/
def unblockBoth (answers : List ℕ) : List (Event AccountCall Reply) :=
  [.call (.removeFromBlocklist 0 "u"), .call (.removeFromBlocklist 0 "v"),
    .call (.addToBlocklist 0 "x")] ++ answers.map fun n => .answer n .ok

end Sample

/-- One after the other. -/
theorem unblocks_iff_unblockBoth : ∃ c,
    managers.exec (.start Sample.twoBlocked) (Sample.unblockBoth [0, 2, 0, 1, 0, 0]) = some c ∧
      ∃ d, c.state.server.users.get "me" = some d ∧
        UnblocksAsTold (blockEdits (Sample.unblockBoth [0, 2, 0, 1, 0, 0])) ["u", "v"]
          (decodeUser "me" d).blockList := by
  have hrun : managers.Run (EditsBlockList "me") (.start Sample.twoBlocked)
      (Sample.unblockBoth [0, 2, 0, 1, 0, 0]) _ :=
    .of_exec ⟨⟨0, "u", rfl, Or.inr rfl⟩, ⟨0, "v", rfl, Or.inr rfl⟩, ⟨0, "x", rfl, Or.inl rfl⟩,
      rfl, rfl, rfl, rfl, rfl, rfl, trivial⟩ rfl
  exact ⟨_, rfl, (unblocks_iff (l := ["u", "v"]) rfl rfl (by decide) (by decide) hrun rfl).2
    (by decide +kernel)⟩

/-- **Who was unblocked is blocked again** where the calls overlap: all
read the list, and the last write restores it. -/
theorem unblocks_fails : ¬∀ (w : World) (i : String) (d₀ : Doc UserTitle) (l : List String)
    (evs : List (Event AccountCall Reply)) (c : Config World AccountTask),
    w.server.users.get i = some d₀ → d₀.strings .blockList = some l → l.Nodup →
    ((blockEdits evs).map Prod.snd).Nodup →
    managers.Run (EditsBlockList i) (.start w) evs c → c.pending = [] →
    ∃ d, c.state.server.users.get i = some d ∧
      UnblocksAsTold (blockEdits evs) l (decodeUser i d).blockList := by
  intro h
  have hrun : managers.Run (EditsBlockList "me") (.start Sample.twoBlocked)
      (Sample.unblockBoth [0, 0, 0, 0, 0, 0]) _ :=
    .of_exec ⟨⟨0, "u", rfl, Or.inr rfl⟩, ⟨0, "v", rfl, Or.inr rfl⟩, ⟨0, "x", rfl, Or.inl rfl⟩,
      rfl, rfl, rfl, rfl, rfl, rfl, trivial⟩ rfl
  obtain ⟨d, hd, htold⟩ := h _ "me" _ ["u", "v"] _ _ rfl rfl (by decide) (by decide) hrun rfl
  have hblocked : "u" ∈ (decodeUser "me" d).blockList := by
    obtain rfl := Option.some.inj hd
    decide
  exact htold.removed "u" (by decide) hblocked

end Volleyer
