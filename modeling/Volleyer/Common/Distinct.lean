import Volleyer.Common.Machine

/-!
# Keys that stay distinct

Documents carry a key, and a task in flight may be about to write one. A
client that asks whether a key is free and writes it later is right only
while nobody else is about to write it too: the keys stay distinct where a
task that names a key is put in flight only if no other document has it
and no task in flight names it for another document (`Names.distinct`).
-/

namespace Volleyer

variable {State Call Task Reply Id K : Type*}

section

variable (key : State → Id → Option K) (names : Task → Option (Id × K))

/-- **A key is taken**, but for a document: another one has it, or a task in
flight names it for another one. -/
def Taken (c : Config State Task) (i : Id) (k : K) : Prop :=
  (∃ j, j ≠ i ∧ key c.state j = some k) ∨ ∃ t ∈ c.pending, ∃ j, j ≠ i ∧ names t = some (j, k)

/-- **The keys are distinct**, also when what is in flight has landed. -/
structure Distinct (c : Config State Task) : Prop where
  stored : ∀ {i j k}, key c.state i = some k → key c.state j = some k → i = j
  free : ∀ {t i k}, t ∈ c.pending → names t = some (i, k) → ¬Taken key names c i k

/-- Tasks that name keys which are free, and each key for one document. -/
structure NamesFree (c : Config State Task) (ts : List Task) : Prop where
  free : ∀ {t i k}, t ∈ ts → names t = some (i, k) → ¬Taken key names c i k
  once : ∀ {t t' i j k}, t ∈ ts → t' ∈ ts → names t = some (i, k) → names t' = some (j, k) → i = j

/-- **A machine that names keys**: a document comes by a key from an
answered task that names it, and what is put in flight names free keys. -/
structure Names (M : Machine State Call Task Reply)
    (ok : Config State Task → Event Call Reply → Prop) : Prop where
  call : ∀ {c a s ts}, ok c (.call a) → M.issue c.state a = some (s, ts) →
    (∀ {i k}, key s i = some k → key c.state i = some k) ∧ NamesFree key names c ts
  answer : ∀ {c n r t}, ok c (.answer n r) → c.pending[n]? = some t →
    (∀ {i k}, key (M.answer c.state t r).1 i = some k →
      key c.state i = some k ∨ names t = some (i, k)) ∧
    NamesFree key names c (M.answer c.state t r).2

end

variable {key : State → Id → Option K} {names : Task → Option (Id × K)}
variable {M : Machine State Call Task Reply} {ok : Config State Task → Event Call Reply → Prop}
variable {c c' c₀ : Config State Task} {ts : List Task} {e : Event Call Reply}
variable {evs : List (Event Call Reply)}

/-- Nothing is named by tasks that name nothing. -/
theorem NamesFree.of_none (h : ∀ t ∈ ts, names t = none) : NamesFree key names c ts where
  free ht hn := by
    rw [h _ ht] at hn
    cases hn
  once ht _ hn _ := by
    rw [h _ ht] at hn
    cases hn

/-- One task that names a free key. -/
theorem NamesFree.singleton {t : Task}
    (h : ∀ {i k}, names t = some (i, k) → ¬Taken key names c i k) :
    NamesFree key names c [t] where
  free ht hn := by
    obtain rfl := List.mem_singleton.1 ht
    exact h hn
  once ht ht' hn hn' := by
    obtain rfl := List.mem_singleton.1 ht
    obtain rfl := List.mem_singleton.1 ht'
    exact (Prod.mk.inj (Option.some.inj (hn.symm.trans hn'))).1

/-- Nothing is taken where there is no key and nothing in flight. -/
theorem Distinct.start {s : State}
    (h : ∀ {i j k}, key s i = some k → key s j = some k → i = j) :
    Distinct key names (Config.start s) where
  stored := h
  free ht _ := absurd ht List.not_mem_nil

namespace Distinct

/-- **One step**: the keys come from `c`, but for those of an answered task,
and what is in flight stays, but for new tasks that name free keys. -/
theorem of_step {past : List State} {s : State} {l : List Task} (h : Distinct key names c)
    (hkey : ∀ {i k}, key s i = some k →
      key c.state i = some k ∨ ∃ t ∈ c.pending, names t = some (i, k))
    (hl : ∀ t ∈ l, t ∈ c.pending) (hts : NamesFree key names c ts) :
    Distinct key names ⟨s, past, l ++ ts⟩ := by
  -- what a task of `l` or `ts` names is not had or named elsewhere in `c`
  have hfree : ∀ {t i k}, t ∈ l ++ ts → names t = some (i, k) → ¬Taken key names c i k := by
    intro t i k ht hn
    rcases List.mem_append.1 ht with ht | ht
    · exact h.free (hl t ht) hn
    · exact hts.free ht hn
  constructor
  · intro i j k hi hj
    rcases hkey hi with hi | ⟨t, ht, hi⟩
    · rcases hkey hj with hj | ⟨t', ht', hj⟩
      · exact h.stored hi hj
      · by_contra hne
        exact h.free ht' hj (Or.inl ⟨i, hne, hi⟩)
    · by_contra hne
      rcases hkey hj with hj | ⟨t', ht', hj⟩
      · exact h.free ht hi (Or.inl ⟨j, Ne.symm hne, hj⟩)
      · exact h.free ht hi (Or.inr ⟨t', ht', j, Ne.symm hne, hj⟩)
  · rintro t i k ht hn (⟨j, hne, hj⟩ | ⟨t', ht', j, hne, hn'⟩)
    · rcases hkey hj with hj | ⟨t', ht', hj⟩
      · exact hfree ht hn (Or.inl ⟨j, hne, hj⟩)
      · exact hfree ht hn (Or.inr ⟨t', ht', j, hne, hj⟩)
    · rcases List.mem_append.1 ht' with ht' | ht'
      · exact hfree ht hn (Or.inr ⟨t', hl t' ht', j, hne, hn'⟩)
      · rcases List.mem_append.1 ht with ht | ht
        · exact hts.free ht' hn' (Or.inr ⟨t, hl t ht, i, Ne.symm hne, hn⟩)
        · exact hne (hts.once ht' ht hn' hn)

end Distinct

namespace Names

theorem step (hM : Names key names M ok) (h : Distinct key names c) (he : ok c e)
    (hs : M.step c e = some c') : Distinct key names c' := by
  rcases Machine.step_cases hs with ⟨a, s, ts, rfl, hi, rfl⟩ | ⟨n, r, t, rfl, ht, rfl⟩
  · obtain ⟨hkey, hts⟩ := hM.call he hi
    exact h.of_step (fun hk => Or.inl (hkey hk)) (fun _ ht => ht) hts
  · obtain ⟨hkey, hts⟩ := hM.answer he ht
    refine h.of_step (fun hk => ?_) (fun _ ht' => List.mem_of_mem_eraseIdx ht') hts
    exact (hkey hk).imp_right fun hn => ⟨t, List.mem_of_getElem? ht, hn⟩

/-- **The keys stay distinct.** -/
theorem distinct (hM : Names key names M ok) (hrun : M.Run ok c₀ evs c)
    (h₀ : Distinct key names c₀) : Distinct key names c :=
  hrun.invariant h₀ fun _ _ _ h he hs => hM.step h he hs

/-- In every state of the run. -/
theorem forall_seen (hM : Names key names M ok) {s₀ : State}
    (hrun : M.Run ok (Config.start s₀) evs c)
    (h₀ : ∀ {i j k}, key s₀ i = some k → key s₀ j = some k → i = j) :
    ∀ s ∈ c.seen, ∀ i j k, key s i = some k → key s j = some k → i = j :=
  hrun.forall_seen_of_runs (fun _ hs => absurd hs List.not_mem_nil)
    fun _ _ hr _ _ _ hi hj => (hM.distinct hr (.start h₀)).stored hi hj

end Names

end Volleyer
