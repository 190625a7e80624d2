import Mathlib.Data.List.Nodup
import Volleyer.Common.Edits

/-!
# Appending by reading and writing back

A list kept by a store without an append of its own is appended to in two
steps: read it, and later write back what was read with one element more.
`Appends` is a machine that does nothing else to one of its lists, which
is one that `Edits` it. Its runs that lose nothing are exactly those in
which every write lands on the list its read saw
(`Appends.complete_iff`), and no run has an element twice
(`Appends.nodup_of_run`).
-/

namespace Volleyer

variable {State Call Task Reply α : Type*} {M : Machine State Call Task Reply}

/-- **A machine that appends to a list.** `owes t` is the element a task
in flight is still to append, and `writes t` the whole list it is going
to write. A task that writes owes the last element; a task that does not
passes its debt on or lets it lapse, and writes of what it read may be
among its heirs; a list that is written, or fails to be, has no heirs.
`Good` holds of the states and `Mine` of the tasks in flight. -/
structure Appends (M : Machine State Call Task Reply) (reply : Reply) (Good : State → Prop)
    (Mine : Task → Prop) (value : State → List α) (owes : Task → Option α)
    (writes : Task → Option (List α)) : Prop where
  good : ∀ {s t}, Good s → Mine t →
    Good (M.answer s t reply).1 ∧ ∀ t' ∈ (M.answer s t reply).2, Mine t'
  debt : ∀ {t l}, Mine t → writes t = some l → ∃ l' x, l = l' ++ [x] ∧ owes t = some x
  read : ∀ {s t}, Good s → Mine t → writes t = none → value (M.answer s t reply).1 = value s ∧
    ((M.answer s t reply).2.filterMap owes).Sublist (owes t).toList ∧
    ∀ t' ∈ (M.answer s t reply).2, ∀ l, writes t' = some l → ∃ x, l = value s ++ [x]
  write : ∀ {s t l}, Good s → Mine t → writes t = some l →
    (value (M.answer s t reply).1 = l ∨ value (M.answer s t reply).1 = value s) ∧
    (M.answer s t reply).2.filterMap owes = [] ∧ ∀ t' ∈ (M.answer s t reply).2, writes t' = none

namespace Appends

/-- No debt lapses and every write is made. -/
structure Sure (M : Machine State Call Task Reply) (reply : Reply) (Good : State → Prop)
    (Mine : Task → Prop) (value : State → List α) (owes : Task → Option α)
    (writes : Task → Option (List α)) : Prop where
  pass : ∀ {s t}, Good s → Mine t → writes t = none →
    (M.answer s t reply).2.filterMap owes = (owes t).toList
  land : ∀ {s t l}, Good s → Mine t → writes t = some l → value (M.answer s t reply).1 = l

/-- **A part of what a machine is known on**, if the answers keep it. -/
theorem restrict {reply : Reply} {Good Good' : State → Prop} {Mine Mine' : Task → Prop}
    {value : State → List α} {owes : Task → Option α} {writes : Task → Option (List α)}
    (h : Appends M reply Good Mine value owes writes) (hg : ∀ {s}, Good' s → Good s)
    (hm : ∀ {t}, Mine' t → Mine t)
    (good : ∀ {s t}, Good' s → Mine' t →
      Good' (M.answer s t reply).1 ∧ ∀ t' ∈ (M.answer s t reply).2, Mine' t') :
    Appends M reply Good' Mine' value owes writes where
  good := good
  debt ht := h.debt (hm ht)
  read hs ht := h.read (hg hs) (hm ht)
  write hs ht := h.write (hg hs) (hm ht)

/-- The elements the calls of a run ask to append. -/
def asked (asks : Call → Option α) (evs : List (Event Call Reply)) : List α :=
  evs.filterMap fun
    | .call a => asks a
    | .answer _ _ => none

/-- **A write lands on the list its read saw**: what it writes is what is
there and one element more. -/
def LandsOnRead (value : State → List α) (writes : Task → Option (List α))
    (c : Config State Task) : Event Call Reply → Prop
  | .call _ => True
  | .answer i _ => ∀ t l, c.pending[i]? = some t → writes t = some l →
      ∃ x, l = value c.state ++ [x]

/-- The calls of a policy append nothing themselves. -/
structure Calls (M : Machine State Call Task Reply) (reply : Reply) (Good : State → Prop)
    (Mine : Task → Prop) (value : State → List α) (owes : Task → Option α)
    (writes : Task → Option (List α)) (asks : Call → Option α)
    (ok : Config State Task → Event Call Reply → Prop) : Prop where
  reply : ∀ {c i r}, ok c (.answer i r) → r = reply
  call : ∀ {c a s ts}, ok c (.call a) → Good c.state → M.issue c.state a = some (s, ts) →
    Good s ∧ value s = value c.state ∧ ts.filterMap owes = (asks a).toList ∧
      ∀ t ∈ ts, Mine t ∧ writes t = none

section

variable {reply : Reply} {Good : State → Prop} {Mine : Task → Prop} {value : State → List α}
  {owes : Task → Option α} {writes : Task → Option (List α)} {asks : Call → Option α}
  {ok : Config State Task → Event Call Reply → Prop} {c₀ c c' : Config State Task}
  {evs : List (Event Call Reply)} {e : Event Call Reply}

/-- One element more. -/
def snoc (x : α) (l : List α) : List α := l ++ [x]

theorem chain_snoc (v₀ w : List α) : Edits.chain snoc v₀ w = v₀ ++ w := by
  induction w using List.reverseRecOn with
  | nil => exact (List.append_nil v₀).symm
  | append_singleton w x ih => rw [Edits.chain_append_singleton, ih, snoc, List.append_assoc]

/-- **Appending is editing**, one element more at a time. -/
theorem edits (h : Appends M reply Good Mine value owes writes) :
    Edits M reply Good Mine value snoc owes writes where
  good := h.good
  debt ht hl := by
    obtain ⟨-, x, -, hx⟩ := h.debt ht hl
    exact ⟨x, hx⟩
  read hs ht hwt := by
    obtain ⟨hv, howes, hts⟩ := h.read hs ht hwt
    refine ⟨hv, howes, fun t' ht' l hl => ?_⟩
    obtain ⟨x, hx⟩ := hts t' ht' l hl
    obtain ⟨l', y, heq, hy⟩ := h.debt ((h.good hs ht).2 t' ht') hl
    obtain ⟨rfl, -⟩ := List.append_inj' (heq.symm.trans hx) rfl
    exact ⟨y, hy, heq⟩
  write := h.write

theorem Sure.edits (h : Sure M reply Good Mine value owes writes) :
    Edits.Sure M reply Good Mine value owes writes where
  pass := h.pass
  land := h.land

theorem Calls.edits (h : Calls M reply Good Mine value owes writes asks ok) :
    Edits.Calls M reply Good Mine value owes writes asks ok where
  reply := h.reply
  call := h.call

/-- A write that lands on what its read saw, in either reading. -/
theorem landsOnRead_iff (h : Appends M reply Good Mine value owes writes)
    (hm : ∀ t ∈ c.pending, Mine t) :
    LandsOnRead value writes c e ↔ Edits.LandsOnRead value snoc owes writes c e := by
  cases e with
  | call a => exact Iff.rfl
  | answer i r =>
    refine forall_congr' fun t => forall_congr' fun l => forall_congr' fun ht =>
      forall_congr' fun hl => ?_
    constructor
    · rintro ⟨x, hx⟩
      obtain ⟨l', y, heq, hy⟩ := h.debt (hm t (List.mem_of_getElem? ht)) hl
      obtain ⟨rfl, -⟩ := List.append_inj' (heq.symm.trans hx) rfl
      exact ⟨y, hy, heq⟩
    · rintro ⟨x, -, hx⟩
      exact ⟨x, hx⟩

/-- The states and the tasks of a run are those the machine is known on. -/
theorem good_of_run (h : Appends M reply Good Mine value owes writes)
    (hc : Calls M reply Good Mine value owes writes asks ok) (hp₀ : c₀.pending = [])
    (hg₀ : Good c₀.state) (hrun : M.Run ok c₀ evs c) :
    Good c.state ∧ ∀ t ∈ c.pending, Mine t :=
  h.edits.good_of_run hc.edits hp₀ hg₀ hrun

/-- A run lands every write on what its read saw, in either reading. -/
theorem run_landsOnRead_iff (h : Appends M reply Good Mine value owes writes)
    (hc : Calls M reply Good Mine value owes writes asks ok) (hp₀ : c₀.pending = [])
    (hg₀ : Good c₀.state) (hrun : M.Run ok c₀ evs c) :
    M.Run (LandsOnRead value writes) c₀ evs c ↔
      M.Run (Edits.LandsOnRead value snoc owes writes) c₀ evs c := by
  have hmine := hrun.strengthen fun _ _ hr => (h.good_of_run hc hp₀ hg₀ hr).2
  constructor
  · exact fun hlands => (Machine.Run.and_iff.2 ⟨hmine, hlands⟩).mono fun _ _ hboth =>
      (h.landsOnRead_iff hboth.1.2).1 hboth.2
  · exact fun hlands => (Machine.Run.and_iff.2 ⟨hmine, hlands⟩).mono fun _ _ hboth =>
      (h.landsOnRead_iff hboth.1.2).2 hboth.2

/-! ## Nothing twice -/

/-- **What is asked for once is there at most once**, however the reads
and the writes overlap. -/
theorem nodup_of_run (h : Appends M reply Good Mine value owes writes)
    (hc : Calls M reply Good Mine value owes writes asks ok) (hp₀ : c₀.pending = [])
    (hg₀ : Good c₀.state) (hv₀ : (value c₀.state).Nodup) (hrun : M.Run ok c₀ evs c)
    (hnodup : (asked asks evs).Nodup) (hnew : ∀ x ∈ asked asks evs, x ∉ value c₀.state) :
    (value c.state).Nodup := by
  obtain ⟨⟨w, hw, hsub⟩, -⟩ := h.edits.fromAsked_of_run hc.edits hp₀ hg₀ hrun
  obtain ⟨m, hm, hsubl⟩ := (List.sublist_append_left w _).subperm.trans hsub
  have hw' : w.Nodup := hm.nodup_iff.1 (hnodup.sublist hsubl)
  rw [hw, chain_snoc, List.nodup_append]
  refine ⟨hv₀, hw', fun y hy z hz => ?_⟩
  rintro rfl
  exact hnew y (hsubl.subset (hm.mem_iff.2 hz)) hy

/-- Whatever is lost, what was there at the start is not. -/
theorem mem_of_mem_start (h : Appends M reply Good Mine value owes writes)
    (hc : Calls M reply Good Mine value owes writes asks ok) (hp₀ : c₀.pending = [])
    (hg₀ : Good c₀.state) (hrun : M.Run ok c₀ evs c) {x : α} (hx : x ∈ value c₀.state) :
    x ∈ value c.state := by
  obtain ⟨⟨w, hw, -⟩, -⟩ := h.edits.fromAsked_of_run hc.edits hp₀ hg₀ hrun
  rw [hw, chain_snoc]
  exact List.mem_append_left _ hx

/-- **A run that has ended has appended all it was asked to exactly when
every write landed on the list its read saw.** -/
theorem complete_iff (h : Appends M reply Good Mine value owes writes)
    (hsure : Sure M reply Good Mine value owes writes)
    (hc : Calls M reply Good Mine value owes writes asks ok) (hp₀ : c₀.pending = [])
    (hg₀ : Good c₀.state) (hrun : M.Run ok c₀ evs c) (hdone : c.pending = [])
    (hnodup : (asked asks evs).Nodup) (hnew : ∀ x ∈ asked asks evs, x ∉ value c₀.state) :
    (∀ x ∈ asked asks evs, x ∈ value c.state) ↔ M.Run (LandsOnRead value writes) c₀ evs c := by
  rw [h.run_landsOnRead_iff hc hp₀ hg₀ hrun]
  refine h.edits.complete_iff hsure.edits hc.edits hp₀ hg₀ hrun hdone
    (P := fun l => ∀ x ∈ asked asks evs, x ∈ l) (fun w hw x hx => ?_) fun w hw => ?_
  · rw [chain_snoc]
    exact List.mem_append_right _ (hw.mem_iff.2 hx)
  · have hsub : asked asks evs ⊆ w := fun x hx => by
      have hmem := hw x hx
      rw [chain_snoc, List.mem_append] at hmem
      exact hmem.resolve_left (hnew x hx)
    exact (hnodup.subperm hsub).length_le

end

end Appends

end Volleyer
