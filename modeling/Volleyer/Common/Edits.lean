import Mathlib.Data.List.Perm.Subperm
import Volleyer.Common.Machine

/-!
# Editing by reading and writing back

A value kept by a store without an edit of its own is edited in two
steps: read it, and later write back what was read, edited. Between the
two steps others do the same. `Edits` is a machine that does nothing else
to one of its values. What the value is in the end is the edits of one
chain of writes, each made on what the one before it left; an edit
outside of the chain is lost, and no later step makes good for it. So
nothing is lost exactly in the runs in which every write lands on what
its read saw. In no run is an edit of the chain one that was not asked
for, or one that is still owed.
-/

namespace Volleyer

variable {State Call Task Reply β ε : Type*} {M : Machine State Call Task Reply}

/-- **A machine that edits a value.** `owes t` is the edit a task in
flight is still to make, and `writes t` the whole value it is going to
write. A task that does not write passes its debt on or lets it lapse,
and writes of what it read may be among its heirs; a value that is
written, or fails to be, has no heirs. `Good` holds of the states and
`Mine` of the tasks in flight. -/
structure Edits (M : Machine State Call Task Reply) (reply : Reply) (Good : State → Prop)
    (Mine : Task → Prop) (value : State → β) (apply : ε → β → β) (owes : Task → Option ε)
    (writes : Task → Option β) : Prop where
  good : ∀ {s t}, Good s → Mine t →
    Good (M.answer s t reply).1 ∧ ∀ t' ∈ (M.answer s t reply).2, Mine t'
  debt : ∀ {t b}, Mine t → writes t = some b → ∃ x, owes t = some x
  read : ∀ {s t}, Good s → Mine t → writes t = none → value (M.answer s t reply).1 = value s ∧
    ((M.answer s t reply).2.filterMap owes).Sublist (owes t).toList ∧
    ∀ t' ∈ (M.answer s t reply).2, ∀ b, writes t' = some b →
      ∃ x, owes t' = some x ∧ b = apply x (value s)
  write : ∀ {s t b}, Good s → Mine t → writes t = some b →
    (value (M.answer s t reply).1 = b ∨ value (M.answer s t reply).1 = value s) ∧
    (M.answer s t reply).2.filterMap owes = [] ∧ ∀ t' ∈ (M.answer s t reply).2, writes t' = none

namespace Edits

/-- No debt lapses and every write is made. -/
structure Sure (M : Machine State Call Task Reply) (reply : Reply) (Good : State → Prop)
    (Mine : Task → Prop) (value : State → β) (owes : Task → Option ε)
    (writes : Task → Option β) : Prop where
  pass : ∀ {s t}, Good s → Mine t → writes t = none →
    (M.answer s t reply).2.filterMap owes = (owes t).toList
  land : ∀ {s t b}, Good s → Mine t → writes t = some b → value (M.answer s t reply).1 = b

/-- The same where `Q x b` holds of the edit `x` a task owes and the value
`b` it reads: no debt of such an edit lapses. -/
structure SureWhere (M : Machine State Call Task Reply) (reply : Reply) (Good : State → Prop)
    (Mine : Task → Prop) (value : State → β) (owes : Task → Option ε)
    (writes : Task → Option β) (Q : ε → β → Prop) : Prop where
  pass : ∀ {s t}, Good s → Mine t → writes t = none → (∀ x, owes t = some x → Q x (value s)) →
    (M.answer s t reply).2.filterMap owes = (owes t).toList
  land : ∀ {s t b}, Good s → Mine t → writes t = some b → value (M.answer s t reply).1 = b

theorem Sure.sureWhere {reply : Reply} {Good : State → Prop} {Mine : Task → Prop}
    {value : State → β} {owes : Task → Option ε} {writes : Task → Option β}
    (h : Sure M reply Good Mine value owes writes) :
    SureWhere M reply Good Mine value owes writes fun _ _ => True where
  pass hg hm hw _ := h.pass hg hm hw
  land := h.land

/-- The edits the calls of a run ask for. -/
def asked (asks : Call → Option ε) (evs : List (Event Call Reply)) : List ε :=
  evs.filterMap fun
    | .call a => asks a
    | .answer _ _ => none

/-- **A write lands on what its read saw**: what it writes is its edit of
what is there. -/
def LandsOnRead (value : State → β) (apply : ε → β → β) (owes : Task → Option ε)
    (writes : Task → Option β) (c : Config State Task) : Event Call Reply → Prop
  | .call _ => True
  | .answer i _ => ∀ t b, c.pending[i]? = some t → writes t = some b →
      ∃ x, owes t = some x ∧ b = apply x (value c.state)

/-- The calls of a policy edit nothing themselves. -/
structure Calls (M : Machine State Call Task Reply) (reply : Reply) (Good : State → Prop)
    (Mine : Task → Prop) (value : State → β) (owes : Task → Option ε)
    (writes : Task → Option β) (asks : Call → Option ε)
    (ok : Config State Task → Event Call Reply → Prop) : Prop where
  reply : ∀ {c i r}, ok c (.answer i r) → r = reply
  call : ∀ {c a s ts}, ok c (.call a) → Good c.state → M.issue c.state a = some (s, ts) →
    Good s ∧ value s = value c.state ∧ ts.filterMap owes = (asks a).toList ∧
      ∀ t ∈ ts, Mine t ∧ writes t = none

/-- A value after a chain of edits, each made on what the one before it
left. -/
def chain (apply : ε → β → β) (v₀ : β) (w : List ε) : β := w.foldl (fun b x => apply x b) v₀

@[simp] theorem chain_nil (apply : ε → β → β) (v₀ : β) : chain apply v₀ [] = v₀ := rfl

theorem chain_append_singleton (apply : ε → β → β) (v₀ : β) (w : List ε) (x : ε) :
    chain apply v₀ (w ++ [x]) = apply x (chain apply v₀ w) := by
  rw [chain, List.foldl_append]
  rfl

section

variable {reply : Reply} {Good : State → Prop} {Mine : Task → Prop} {value : State → β}
  {apply : ε → β → β} {owes : Task → Option ε} {writes : Task → Option β}
  {asks : Call → Option ε} {ok : Config State Task → Event Call Reply → Prop}
  {c₀ c c' : Config State Task} {evs : List (Event Call Reply)} {e : Event Call Reply}

theorem asked_append_call (evs : List (Event Call Reply)) (a : Call) :
    asked asks (evs ++ [.call a]) = asked asks evs ++ (asks a).toList := by
  rw [asked, List.filterMap_append]
  cases h : asks a <;> simp [asked, h]

theorem asked_append_answer (evs : List (Event Call Reply)) (i : ℕ) (r : Reply) :
    asked asks (evs ++ [.answer i r]) = asked asks evs := by
  simp [asked]

/-- What a task owes comes out of what is owed in all. -/
theorem owes_perm (owes : Task → Option ε) {i : ℕ} {t : Task} (ht : c.pending[i]? = some t)
    (ts : List Task) :
    ((owes t).toList ++ (c.pending.eraseIdx i ++ ts).filterMap owes).Perm
      (c.pending.filterMap owes ++ ts.filterMap owes) := by
  have hperm : (c.pending.filterMap owes).Perm ((t :: c.pending.eraseIdx i).filterMap owes) :=
    (Machine.perm_cons_eraseIdx ht).filterMap _
  rw [List.filterMap_append, ← List.append_assoc]
  refine List.Perm.append_right _ (List.Perm.trans ?_ hperm.symm)
  cases h : owes t <;> simp [h]

/-- The states and the tasks of a run are those the machine is known on. -/
theorem good_of_run (h : Edits M reply Good Mine value apply owes writes)
    (hc : Calls M reply Good Mine value owes writes asks ok) (hp₀ : c₀.pending = [])
    (hg₀ : Good c₀.state) (hrun : M.Run ok c₀ evs c) :
    Good c.state ∧ ∀ t ∈ c.pending, Mine t := by
  refine hrun.forall_pending (I := fun s _ => Good s) (J := fun _ _ t => Mine t) hg₀
    (by simp [hp₀]) (fun c a s ts hg he hi => ?_) (fun c i r t hg hm he _ => ?_)
  · obtain ⟨hgs, -, -, hts⟩ := hc.call he hg hi
    exact ⟨hgs, fun t ht => (hts t ht).1, fun _ ht => ht⟩
  · obtain rfl := hc.reply he
    exact ⟨(h.good hg hm).1, (h.good hg hm).2, fun _ ht => ht⟩

/-! ## Nothing lost -/

/-- **Where every write lands on what its read saw**, the value is a chain
of all that was asked for but what is still owed, if `Q` holds of what is
still owed and any chain of the others. -/
theorem perm_of_landsOnRead (h : Edits M reply Good Mine value apply owes writes)
    {Q : ε → β → Prop} (hsure : SureWhere M reply Good Mine value owes writes Q)
    (hc : Calls M reply Good Mine value owes writes asks ok) (hp₀ : c₀.pending = [])
    (hg₀ : Good c₀.state)
    (hrun : M.Run (fun c e => ok c e ∧ LandsOnRead value apply owes writes c e) c₀ evs c)
    (hQ : ∀ w x, (w ++ [x]).Subperm (asked asks evs) → Q x (chain apply (value c₀.state) w)) :
    ∃ w, value c.state = chain apply (value c₀.state) w ∧
      (w ++ c.pending.filterMap owes).Perm (asked asks evs) := by
  induction hrun with
  | nil => exact ⟨[], rfl, by simp [hp₀, asked]⟩
  | @snoc evs c e c' hr he hs ih =>
    have hprefix : (asked asks evs).Sublist (asked asks (evs ++ [e])) :=
      (List.sublist_append_left _ _).filterMap _
    obtain ⟨w, hw, hperm⟩ := ih fun w x hsub => hQ w x (hsub.trans hprefix.subperm)
    obtain ⟨hg, hm⟩ := h.good_of_run hc hp₀ hg₀ (hr.mono fun _ _ h => h.1)
    rcases Machine.step_cases hs with ⟨a, s, ts, rfl, hi, rfl⟩ | ⟨i, r, t, rfl, ht, rfl⟩
    · obtain ⟨-, hv, howes, -⟩ := hc.call he.1 hg hi
      refine ⟨w, hv.trans hw, ?_⟩
      rw [asked_append_call, List.filterMap_append, howes, ← List.append_assoc]
      exact hperm.append_right _
    · obtain rfl := hc.reply he.1
      have hmt : Mine t := hm t (List.mem_of_getElem? ht)
      rw [asked_append_answer]
      have hout := owes_perm owes ht (M.answer c.state t r).2
      cases hwt : writes t with
      | none =>
        obtain ⟨hv, -, -⟩ := h.read hg hmt hwt
        refine ⟨w, hv.trans hw, List.Perm.trans (List.Perm.append_left w ?_) hperm⟩
        have howed : ∀ x, owes t = some x → Q x (value c.state) := fun x hx => by
          have hmem : x ∈ c.pending.filterMap owes :=
            List.mem_filterMap.2 ⟨t, List.mem_of_getElem? ht, hx⟩
          have hsub : (w ++ [x]).Subperm (w ++ c.pending.filterMap owes) :=
            (List.subperm_append_left w).2 (List.singleton_subperm_iff.2 hmem)
          rw [hw]
          exact hQ w x ((hsub.trans hperm.subperm).trans hprefix.subperm)
        rw [hsure.pass hg hmt hwt howed] at hout
        exact (List.perm_append_left_iff _).1 (hout.trans List.perm_append_comm)
      | some b =>
        obtain ⟨-, howes, -⟩ := h.write hg hmt hwt
        have hv := hsure.land hg hmt hwt
        obtain ⟨x, hx, hb⟩ := he.2 t b ht hwt
        refine ⟨w ++ [x], ?_, ?_⟩
        · rw [hv, hb, hw, chain_append_singleton]
        · rw [howes, List.append_nil, hx, Option.toList_some] at hout
          rw [List.append_assoc]
          exact (hout.append_left w).trans hperm

/-! ## Nothing twice -/

/-- An answer leaves no more owed than there was. -/
theorem owed_subperm (h : Edits M reply Good Mine value apply owes writes) (hg : Good c.state)
    {i : ℕ} {t : Task} (hm : Mine t) (ht : c.pending[i]? = some t) :
    ((c.pending.eraseIdx i ++ (M.answer c.state t reply).2).filterMap owes).Subperm
      (c.pending.filterMap owes) := by
  have hheirs : ((M.answer c.state t reply).2.filterMap owes).Sublist (owes t).toList := by
    cases hwt : writes t with
    | none => exact (h.read hg hm hwt).2.1
    | some b =>
      rw [(h.write hg hm hwt).2.1]
      exact List.nil_sublist _
  have hout := owes_perm owes ht (M.answer c.state t reply).2
  refine (List.subperm_append_left (owes t).toList).1 (hout.subperm.trans ?_)
  exact (List.Sublist.append_left hheirs _).subperm.trans List.perm_append_comm.subperm

/-- **The value is a chain of edits asked for**, none of which is owed any
more, and so is the one each value in flight is an edit of. -/
def FromAsked (value : State → β) (apply : ε → β → β) (owes : Task → Option ε)
    (writes : Task → Option β) (v₀ : β) (xs : List ε) (c : Config State Task) : Prop :=
  (∃ w, value c.state = chain apply v₀ w ∧ (w ++ c.pending.filterMap owes).Subperm xs) ∧
    ∀ t ∈ c.pending, ∀ b, writes t = some b → ∃ w x, owes t = some x ∧
      b = apply x (chain apply v₀ w) ∧ (w ++ c.pending.filterMap owes).Subperm xs

/-- **One step**: what lands is not owed any more, and nothing is owed
twice. -/
theorem FromAsked.step (h : Edits M reply Good Mine value apply owes writes)
    (hc : Calls M reply Good Mine value owes writes asks ok) (hg : Good c.state)
    (hm : ∀ t ∈ c.pending, Mine t) {v₀ : β}
    (hfrom : FromAsked value apply owes writes v₀ (asked asks evs) c) (he : ok c e)
    (hs : M.step c e = some c') :
    FromAsked value apply owes writes v₀ (asked asks (evs ++ [e])) c' := by
  obtain ⟨⟨w, hw, hsub⟩, hfly⟩ := hfrom
  rcases Machine.step_cases hs with ⟨a, s, ts, rfl, hi, rfl⟩ | ⟨i, r, t, rfl, ht, rfl⟩
  · obtain ⟨-, hv, howes, hts⟩ := hc.call he hg hi
    have hmore : ∀ {w}, (w ++ c.pending.filterMap owes).Subperm (asked asks evs) →
        (w ++ (c.pending ++ ts).filterMap owes).Subperm (asked asks (evs ++ [.call a])) := by
      intro w hsub
      rw [asked_append_call, List.filterMap_append, howes, ← List.append_assoc]
      exact (List.subperm_append_right _).2 hsub
    refine ⟨⟨w, hv.trans hw, hmore hsub⟩, fun t ht b hb => ?_⟩
    rcases List.mem_append.1 ht with ht | ht
    · obtain ⟨w', x, hx, hb', hsub'⟩ := hfly t ht b hb
      exact ⟨w', x, hx, hb', hmore hsub'⟩
    · rw [(hts t ht).2] at hb
      cases hb
  · obtain rfl := hc.reply he
    have hmt : Mine t := hm t (List.mem_of_getElem? ht)
    rw [asked_append_answer]
    have hout := owes_perm owes ht (M.answer c.state t r).2
    have hless := h.owed_subperm hg hmt ht
    have hfewer : ∀ {w}, (w ++ c.pending.filterMap owes).Subperm (asked asks evs) →
        (w ++ (c.pending.eraseIdx i ++ (M.answer c.state t r).2).filterMap owes).Subperm
          (asked asks evs) := fun {w} hsub => ((List.subperm_append_left w).2 hless).trans hsub
    refine ⟨?_, fun t' ht' b hb => ?_⟩
    · cases hwt : writes t with
      | none =>
        obtain ⟨hv, -, -⟩ := h.read hg hmt hwt
        exact ⟨w, hv.trans hw, hfewer hsub⟩
      | some b =>
        obtain ⟨hv, howes, -⟩ := h.write hg hmt hwt
        obtain ⟨w', x, hx, rfl, hsub'⟩ := hfly t (List.mem_of_getElem? ht) b hwt
        rcases hv with hv | hv
        · refine ⟨w' ++ [x], by rw [hv, chain_append_singleton], ?_⟩
          rw [howes, List.append_nil, hx, Option.toList_some] at hout
          rw [List.append_assoc]
          exact (hout.append_left w').subperm.trans hsub'
        · exact ⟨w, hv.trans hw, hfewer hsub⟩
    · rcases Machine.mem_eraseIdx_append ht' with ht' | ht'
      · obtain ⟨w', x, hx, hb', hsub'⟩ := hfly t' ht' b hb
        exact ⟨w', x, hx, hb', hfewer hsub'⟩
      · -- a new write is of what a read has just seen
        cases hwt : writes t with
        | none =>
          obtain ⟨-, -, hts⟩ := h.read hg hmt hwt
          obtain ⟨x, hx, hb'⟩ := hts t' ht' b hb
          exact ⟨w, x, hx, by rw [hb', hw], hfewer hsub⟩
        | some b' =>
          rw [(h.write hg hmt hwt).2.2 t' ht'] at hb
          cases hb

/-- **No run makes an edit twice**, however the reads and the writes
overlap. -/
theorem fromAsked_of_run (h : Edits M reply Good Mine value apply owes writes)
    (hc : Calls M reply Good Mine value owes writes asks ok) (hp₀ : c₀.pending = [])
    (hg₀ : Good c₀.state) (hrun : M.Run ok c₀ evs c) :
    FromAsked value apply owes writes (value c₀.state) (asked asks evs) c := by
  induction hrun with
  | nil => exact ⟨⟨[], rfl, by simp [hp₀, asked]⟩, by simp [hp₀]⟩
  | @snoc evs c e c' hr he hs ih =>
    obtain ⟨hg, hm⟩ := h.good_of_run hc hp₀ hg₀ hr
    exact ih.step h hc hg hm he hs

/-! ## An edit lost is lost for good -/

/-- **The value is at least `k` edits short**: of the `n` edits asked for,
those not owed any more are at least `k` more than those made on it. A
value in flight is an edit of the one that is there, or it is short
too. -/
def Short (value : State → β) (apply : ε → β → β) (owes : Task → Option ε)
    (writes : Task → Option β) (v₀ : β) (n k : ℕ) (c : Config State Task) : Prop :=
  ∃ w, value c.state = chain apply v₀ w ∧
    w.length + k + (c.pending.filterMap owes).length ≤ n ∧
    ∀ t ∈ c.pending, ∀ b, writes t = some b → ∃ w' x, owes t = some x ∧
      b = apply x (chain apply v₀ w') ∧
      (w' = w ∨ w'.length + 1 + (c.pending.filterMap owes).length ≤ n)

/-- **One step.** A value that is short stays so, and one that a write
lands on without having been read becomes so. -/
theorem Short.step (h : Edits M reply Good Mine value apply owes writes)
    (hc : Calls M reply Good Mine value owes writes asks ok) (hg : Good c.state)
    (hm : ∀ t ∈ c.pending, Mine t) {v₀ : β} {k k' : ℕ} (hk : k' ≤ 1)
    (hlost : k' ≤ k ∨ ¬LandsOnRead value apply owes writes c e)
    (hshort : Short value apply owes writes v₀ (asked asks evs).length k c) (he : ok c e)
    (hs : M.step c e = some c') :
    Short value apply owes writes v₀ (asked asks (evs ++ [e])).length k' c' := by
  obtain ⟨w, hw, hlen, hfly⟩ := hshort
  rcases Machine.step_cases hs with ⟨a, s, ts, rfl, hi, rfl⟩ | ⟨i, r, t, rfl, ht, rfl⟩
  · obtain ⟨-, hv, howes, hts⟩ := hc.call he hg hi
    have hkk : k' ≤ k := hlost.resolve_right fun hn => hn trivial
    refine ⟨w, hv.trans hw, ?_, fun t ht b hb => ?_⟩
    · rw [asked_append_call, List.filterMap_append, howes]
      simp only [List.length_append]
      omega
    · rcases List.mem_append.1 ht with ht | ht
      · obtain ⟨w', x, hx, hb', hor⟩ := hfly t ht b hb
        refine ⟨w', x, hx, hb', hor.imp id fun hle => ?_⟩
        rw [asked_append_call, List.filterMap_append, howes]
        simp only [List.length_append]
        omega
      · rw [(hts t ht).2] at hb
        cases hb
  · obtain rfl := hc.reply he
    have hmt : Mine t := hm t (List.mem_of_getElem? ht)
    rw [asked_append_answer]
    unfold Short
    dsimp only
    have hout := (owes_perm owes ht (M.answer c.state t r).2).length_eq
    simp only [List.length_append] at hout
    cases hwt : writes t with
    | none =>
      obtain ⟨hv, howes, hts⟩ := h.read hg hmt hwt
      have hkk : k' ≤ k := hlost.resolve_right fun hn => hn fun t' b ht' hb => by
        obtain rfl := Option.some.inj (ht.symm.trans ht')
        rw [hwt] at hb
        cases hb
      have hle := howes.length_le
      refine ⟨w, hv.trans hw, by omega, fun t' ht' b hb => ?_⟩
      rcases Machine.mem_eraseIdx_append ht' with ht' | ht'
      · obtain ⟨w', x, hx, hb', hor⟩ := hfly t' ht' b hb
        exact ⟨w', x, hx, hb', hor.imp id fun hle => by omega⟩
      · obtain ⟨x, hx, hb'⟩ := hts t' ht' b hb
        exact ⟨w, x, hx, by rw [hb', hw], Or.inl rfl⟩
    | some b =>
      obtain ⟨hv, howes, hts⟩ := h.write hg hmt hwt
      obtain ⟨w', x, hx, hb, hor⟩ := hfly t (List.mem_of_getElem? ht) b hwt
      rw [howes, hx] at hout
      simp only [Option.toList_some, List.length_singleton, List.length_nil] at hout
      rcases hv with hv | hv
      swap
      · refine ⟨w, hv.trans hw, by omega, fun t' ht' b' hb' => ?_⟩
        rcases Machine.mem_eraseIdx_append ht' with ht' | ht'
        · obtain ⟨w'', y, hy, hb'', hor'⟩ := hfly t' ht' b' hb'
          exact ⟨w'', y, hy, hb'', hor'.imp id fun hle => by omega⟩
        · rw [hts t' ht'] at hb'
          cases hb'
      -- what lands is no longer owed, so the shorter chains may be one longer
      refine ⟨w' ++ [x], by rw [hv, hb, chain_append_singleton], ?_, fun t' ht' b' hb' => ?_⟩
      · rw [List.length_append, List.length_singleton]
        rcases hor with rfl | hle
        · have hkk : k' ≤ k := hlost.resolve_right fun hn => hn fun t' b' ht' hb' => by
            obtain rfl := Option.some.inj (ht.symm.trans ht')
            obtain rfl := Option.some.inj (hwt.symm.trans hb')
            exact ⟨x, hx, by rw [hb, hw]⟩
          omega
        · omega
      · rcases Machine.mem_eraseIdx_append ht' with ht' | ht'
        · obtain ⟨w'', y, hy, hb'', hor'⟩ := hfly t' ht' b' hb'
          refine ⟨w'', y, hy, hb'', Or.inr ?_⟩
          rcases hor' with rfl | hle
          · omega
          · omega
        · rw [hts t' ht'] at hb'
          cases hb'

/-- **A run lands every write on what its read saw, or ends short.** -/
theorem landsOnRead_or_short (h : Edits M reply Good Mine value apply owes writes)
    (hc : Calls M reply Good Mine value owes writes asks ok) (hp₀ : c₀.pending = [])
    (hg₀ : Good c₀.state) (hrun : M.Run ok c₀ evs c) :
    ∃ k, Short value apply owes writes (value c₀.state) (asked asks evs).length k c ∧
      (k = 1 ∨ k = 0 ∧ M.Run (LandsOnRead value apply owes writes) c₀ evs c) := by
  induction hrun with
  | nil => exact ⟨0, ⟨[], by simp, by simp [hp₀], by simp [hp₀]⟩, Or.inr ⟨rfl, .nil⟩⟩
  | @snoc evs c e c' hr he hs ih =>
    obtain ⟨k, hshort, hk⟩ := ih
    obtain ⟨hg, hm⟩ := h.good_of_run hc hp₀ hg₀ hr
    rcases hk with rfl | ⟨rfl, hlands⟩
    · exact ⟨1, hshort.step h hc hg hm (Nat.le_refl _) (Or.inl (Nat.le_refl _)) he hs, Or.inl rfl⟩
    · by_cases hl : LandsOnRead value apply owes writes c e
      · exact ⟨0, hshort.step h hc hg hm (by omega) (Or.inl (Nat.le_refl _)) he hs,
          Or.inr ⟨rfl, hlands.snoc hl hs⟩⟩
      · exact ⟨1, hshort.step h hc hg hm (Nat.le_refl _) (Or.inr hl) he hs, Or.inl rfl⟩

/-- **A run that has ended has made all the edits it was asked for exactly
when every write landed on what its read saw.** `P` says of a value
that it is made by all of some edits: a chain of them is, and a value
made by them all comes by no shorter chain. -/
theorem complete_where_iff (h : Edits M reply Good Mine value apply owes writes)
    {Q : ε → β → Prop} (hsure : SureWhere M reply Good Mine value owes writes Q)
    (hc : Calls M reply Good Mine value owes writes asks ok) (hp₀ : c₀.pending = [])
    (hg₀ : Good c₀.state) (hrun : M.Run ok c₀ evs c) (hdone : c.pending = [])
    (hQ : ∀ w x, (w ++ [x]).Subperm (asked asks evs) → Q x (chain apply (value c₀.state) w))
    {P : β → Prop}
    (hmade : ∀ w, w.Perm (asked asks evs) → P (chain apply (value c₀.state) w))
    (hshort : ∀ w, P (chain apply (value c₀.state) w) →
      (asked asks evs).length ≤ w.length) :
    P (value c.state) ↔ M.Run (LandsOnRead value apply owes writes) c₀ evs c := by
  constructor
  · intro hall
    obtain ⟨k, ⟨w, hw, hlen, -⟩, rfl | ⟨-, hlands⟩⟩ := h.landsOnRead_or_short hc hp₀ hg₀ hrun
    · have hle := hshort w (hw ▸ hall)
      omega
    · exact hlands
  · intro hlands
    obtain ⟨w, hw, hperm⟩ := h.perm_of_landsOnRead hsure hc hp₀ hg₀
      (Machine.Run.and_iff.2 ⟨hrun, hlands⟩) hQ
    rw [hdone, List.filterMap_nil, List.append_nil] at hperm
    rw [hw]
    exact hmade w hperm

/-- The same where no debt lapses whatever was read. -/
theorem complete_iff (h : Edits M reply Good Mine value apply owes writes)
    (hsure : Sure M reply Good Mine value owes writes)
    (hc : Calls M reply Good Mine value owes writes asks ok) (hp₀ : c₀.pending = [])
    (hg₀ : Good c₀.state) (hrun : M.Run ok c₀ evs c) (hdone : c.pending = [])
    {P : β → Prop}
    (hmade : ∀ w, w.Perm (asked asks evs) → P (chain apply (value c₀.state) w))
    (hshort : ∀ w, P (chain apply (value c₀.state) w) →
      (asked asks evs).length ≤ w.length) :
    P (value c.state) ↔ M.Run (LandsOnRead value apply owes writes) c₀ evs c :=
  h.complete_where_iff hsure.sureWhere hc hp₀ hg₀ hrun hdone (fun _ _ _ => trivial) hmade hshort

/-! ## What a write saw

Where the tasks in flight hold what their reads saw, a write lands on it
if that is what is there. -/

/-- **A write lands on the value its read saw**: `saw` is the value there
was when a task was put in flight. -/
def LandsOnSeen (value : State → β) (saw : Task → β) (writes : Task → Option β)
    (c : Config State Task) : Event Call Reply → Prop
  | .call _ => True
  | .answer i _ => ∀ t b, c.pending[i]? = some t → writes t = some b → saw t = value c.state

/-- The tasks in flight hold what their reads saw, and are going to write
their edits of it. -/
structure Sees (M : Machine State Call Task Reply) (reply : Reply) (Good : State → Prop)
    (Mine : Task → Prop) (value : State → β) (apply : ε → β → β) (owes : Task → Option ε)
    (writes : Task → Option β) (saw : Task → β) : Prop where
  read : ∀ {s t}, Good s → Mine t → ∀ t' ∈ (M.answer s t reply).2, saw t' = value s
  edit : ∀ {t b}, Mine t → writes t = some b → ∃ x, owes t = some x ∧ b = apply x (saw t)

/-- **Where every write lands on what its read saw**, the value is a chain
of edits asked for, none of which is owed any more, and what the read of a
write in flight saw is the beginning of it. -/
theorem saw_of_landsOnRead (h : Edits M reply Good Mine value apply owes writes)
    {saw : Task → β} (hsees : Sees M reply Good Mine value apply owes writes saw)
    (hc : Calls M reply Good Mine value owes writes asks ok) (hp₀ : c₀.pending = [])
    (hg₀ : Good c₀.state)
    (hrun : M.Run (fun c e => ok c e ∧ LandsOnRead value apply owes writes c e) c₀ evs c) :
    ∃ w, value c.state = chain apply (value c₀.state) w ∧
      (w ++ c.pending.filterMap owes).Subperm (asked asks evs) ∧
      ∀ t ∈ c.pending, ∀ b, writes t = some b →
        ∃ w₁, w₁ <+: w ∧ saw t = chain apply (value c₀.state) w₁ := by
  induction hrun with
  | nil => exact ⟨[], rfl, by simp [hp₀, asked], by simp [hp₀]⟩
  | @snoc evs c e c' hr he hs ih =>
    obtain ⟨w, hw, hsub, hsaw⟩ := ih
    obtain ⟨hg, hm⟩ := h.good_of_run hc hp₀ hg₀ (hr.mono fun _ _ h => h.1)
    rcases Machine.step_cases hs with ⟨a, s, ts, rfl, hi, rfl⟩ | ⟨i, r, t, rfl, ht, rfl⟩
    · obtain ⟨-, hv, howes, hts⟩ := hc.call he.1 hg hi
      refine ⟨w, hv.trans hw, ?_, fun t ht b hb => ?_⟩
      · rw [asked_append_call, List.filterMap_append, howes, ← List.append_assoc]
        exact (List.subperm_append_right _).2 hsub
      · rcases List.mem_append.1 ht with ht | ht
        · exact hsaw t ht b hb
        · rw [(hts t ht).2] at hb
          cases hb
    · obtain rfl := hc.reply he.1
      have hmt : Mine t := hm t (List.mem_of_getElem? ht)
      have hless := h.owed_subperm hg hmt ht
      rw [asked_append_answer]
      -- what comes of the answer has seen the value the chain has come to
      have hgrown : ∀ {w'}, w <+: w' → ∀ t' ∈ c.pending.eraseIdx i ++ (M.answer c.state t r).2,
          ∀ b, writes t' = some b →
            ∃ w₁, w₁ <+: w' ∧ saw t' = chain apply (value c₀.state) w₁ := by
        intro w' hpre t' ht' b hb
        rcases Machine.mem_eraseIdx_append ht' with ht' | ht'
        · obtain ⟨w₁, hw₁, heq⟩ := hsaw t' ht' b hb
          exact ⟨w₁, hw₁.trans hpre, heq⟩
        · exact ⟨w, hpre, (hsees.read hg hmt t' ht').trans hw⟩
      have hfewer : (w ++ (c.pending.eraseIdx i ++ (M.answer c.state t r).2).filterMap
          owes).Subperm (asked asks evs) := ((List.subperm_append_left w).2 hless).trans hsub
      cases hwt : writes t with
      | none =>
        obtain ⟨hv, -, -⟩ := h.read hg hmt hwt
        exact ⟨w, hv.trans hw, hfewer, hgrown List.prefix_rfl⟩
      | some b =>
        obtain ⟨hv, howes, -⟩ := h.write hg hmt hwt
        obtain ⟨x, hx, rfl⟩ := he.2 t b ht hwt
        rcases hv with hv | hv
        · refine ⟨w ++ [x], by rw [hv, hw, chain_append_singleton], ?_,
            hgrown (List.prefix_append _ _)⟩
          have hout := owes_perm owes ht (M.answer c.state t r).2
          rw [howes, List.append_nil, hx, Option.toList_some] at hout
          rw [List.append_assoc]
          exact (hout.append_left w).subperm.trans hsub
        · exact ⟨w, hv.trans hw, hfewer, hgrown List.prefix_rfl⟩

/-- **Landing is to find what the read saw**, where an edit tells what it is
made on from a later value. -/
theorem landsOnRead_iff_landsOnSeen (h : Edits M reply Good Mine value apply owes writes)
    {saw : Task → β} (hsees : Sees M reply Good Mine value apply owes writes saw)
    (hc : Calls M reply Good Mine value owes writes asks ok) (hp₀ : c₀.pending = [])
    (hg₀ : Good c₀.state) (hrun : M.Run ok c₀ evs c)
    (hone : ∀ w₁ w₂ x, (w₁ ++ w₂ ++ [x]).Subperm (asked asks evs) →
      apply x (chain apply (value c₀.state) w₁) =
        apply x (chain apply (value c₀.state) (w₁ ++ w₂)) → w₂ = []) :
    M.Run (LandsOnRead value apply owes writes) c₀ evs c ↔
      M.Run (LandsOnSeen value saw writes) c₀ evs c := by
  induction hrun with
  | nil => exact iff_of_true .nil .nil
  | @snoc evs c e c' hr _ hs ih =>
    have hprefix : (asked asks evs).Sublist (asked asks (evs ++ [e])) :=
      (List.sublist_append_left _ _).filterMap _
    have hone' := fun w₁ w₂ x hsub => hone w₁ w₂ x (List.Subperm.trans hsub hprefix.subperm)
    obtain ⟨-, hm⟩ := h.good_of_run hc hp₀ hg₀ hr
    constructor
    · intro hlands
      obtain ⟨c₁, hr₁, he, -⟩ := hlands.snoc_inv
      obtain rfl := hr.unique hr₁
      refine .snoc ((ih hone').1 hr₁) ?_ hs
      cases e with
      | call a => trivial
      | answer i r =>
        intro t b ht hb
        obtain ⟨w, hw, hsub, hsaw⟩ := h.saw_of_landsOnRead hsees hc hp₀ hg₀
          (Machine.Run.and_iff.2 ⟨hr, hr₁⟩)
        obtain ⟨w₁, ⟨w₂, rfl⟩, heq⟩ := hsaw t (List.mem_of_getElem? ht) b hb
        obtain ⟨x, hx, hfrom⟩ := hsees.edit (hm t (List.mem_of_getElem? ht)) hb
        obtain ⟨x', hx', hto⟩ := he t b ht hb
        obtain rfl := Option.some.inj (hx.symm.trans hx')
        have howed : x ∈ c.pending.filterMap owes :=
          List.mem_filterMap.2 ⟨t, List.mem_of_getElem? ht, hx⟩
        have hsub' : (w₁ ++ w₂ ++ [x]).Subperm (asked asks evs) :=
          ((List.subperm_append_left _).2 (List.singleton_subperm_iff.2 howed)).trans hsub
        obtain rfl := hone' w₁ w₂ x hsub' (by rw [← heq, ← hfrom, hto, hw])
        rw [heq, hw, List.append_nil]
    · intro hseen
      obtain ⟨c₁, hr₁, he, -⟩ := hseen.snoc_inv
      obtain rfl := hr.unique hr₁
      refine .snoc ((ih hone').2 hr₁) ?_ hs
      cases e with
      | call a => trivial
      | answer i r =>
        intro t b ht hb
        obtain ⟨x, hx, hfrom⟩ := hsees.edit (hm t (List.mem_of_getElem? ht)) hb
        exact ⟨x, hx, by rw [hfrom, he t b ht hb]⟩

end

end Edits

end Volleyer
