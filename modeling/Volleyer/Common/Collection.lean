import Mathlib.Data.List.Nodup
import Mathlib.Tactic.Common

/-!
# Collections of documents

A collection is a finite set of documents under distinct ids, which is
what a document database stores. The ids are distinct by construction,
so a query names each document once and a lookup names at most one.
Every operation is described at one id: what it stores there, and that
it stores nothing elsewhere.
-/

namespace Volleyer

/-- **A collection**: documents under pairwise distinct ids, in the order
a query answers them. -/
structure Collection (Id Doc : Type*) where
  /-- The documents with their ids. -/
  entries : List (Id × Doc)
  nodup : (entries.map Prod.fst).Nodup

namespace Collection

variable {Id Doc : Type*}

/-- The collection with no document. -/
def empty : Collection Id Doc where
  entries := []
  nodup := List.nodup_nil

/-- The documents that satisfy `p`, with their ids. -/
def query (c : Collection Id Doc) (p : Doc → Bool) : List (Id × Doc) :=
  c.entries.filter fun e => p e.2

/-- The collection of the documents whose entry satisfies `p`. -/
def keep (c : Collection Id Doc) (p : Id × Doc → Bool) : Collection Id Doc where
  entries := c.entries.filter p
  nodup := c.nodup.sublist (List.filter_sublist.map Prod.fst)

variable [DecidableEq Id]

/-- The document under an id. -/
def get (c : Collection Id Doc) (i : Id) : Option Doc :=
  c.entries.lookup i

/-- Rewrites the document under an id, where there is one. -/
def modify (c : Collection Id Doc) (i : Id) (f : Doc → Doc) : Collection Id Doc where
  entries := c.entries.map fun e => if e.1 = i then (e.1, f e.2) else e
  nodup := by
    have h : ∀ l : List (Id × Doc),
        (l.map fun e => if e.1 = i then (e.1, f e.2) else e).map Prod.fst = l.map Prod.fst := by
      intro l
      simp only [List.map_map, List.map_inj_left, Function.comp_apply]
      intro e _
      split <;> rfl
    rw [h]
    exact c.nodup

/-- Removes the document under an id. -/
def delete (c : Collection Id Doc) (i : Id) : Collection Id Doc :=
  c.keep fun e => decide (e.1 ≠ i)

/-- Stores a document under an id, in place of one that is there. -/
def set (c : Collection Id Doc) (i : Id) (d : Doc) : Collection Id Doc where
  entries := (c.delete i).entries ++ [(i, d)]
  nodup := by
    rw [List.map_append, List.nodup_append]
    refine ⟨(c.delete i).nodup, List.nodup_singleton _, ?_⟩
    intro j hj k hk
    simp only [delete, keep, List.mem_map, List.mem_filter, decide_eq_true_eq] at hj
    obtain ⟨e, ⟨_, hne⟩, rfl⟩ := hj
    simp only [List.map_cons, List.map_nil, List.mem_singleton] at hk
    exact hk ▸ hne

@[simp] theorem get_empty (i : Id) : (empty : Collection Id Doc).get i = none := rfl

/-- A lookup answers the entry that carries the id. -/
theorem get_eq_some_iff {c : Collection Id Doc} {i : Id} {d : Doc} :
    c.get i = some d ↔ (i, d) ∈ c.entries := by
  obtain ⟨l, hl⟩ := c
  simp only [get]
  induction l with
  | nil => simp
  | cons e l ih =>
    obtain ⟨j, b⟩ := e
    simp only [List.map_cons, List.nodup_cons] at hl
    rw [List.lookup_cons]
    by_cases hji : i = j
    · subst hji
      simp only [beq_self_eq_true, Option.some.injEq, List.mem_cons, Prod.mk.injEq, true_and]
      constructor
      · exact fun h => Or.inl h.symm
      · rintro (h | h)
        · exact h.symm
        · exact absurd (List.mem_map_of_mem (f := Prod.fst) h) hl.1
    · have hbeq : (i == j) = false := beq_false_of_ne hji
      simp only [hbeq, List.mem_cons, Prod.mk.injEq, hji, false_and, false_or]
      exact ih hl.2

theorem get_eq_none_iff {c : Collection Id Doc} {i : Id} :
    c.get i = none ↔ ∀ d, (i, d) ∉ c.entries := by
  rw [Option.eq_none_iff_forall_ne_some]
  simp only [ne_eq, get_eq_some_iff]

theorem isSome_get_iff {c : Collection Id Doc} {i : Id} :
    (c.get i).isSome ↔ i ∈ c.entries.map Prod.fst := by
  simp only [Option.isSome_iff_exists, get_eq_some_iff, List.mem_map, Prod.exists]
  exact ⟨fun ⟨d, hd⟩ => ⟨i, d, hd, rfl⟩, fun ⟨_, d, hd, h⟩ => ⟨d, h ▸ hd⟩⟩

/-- **A query answers the stored documents that satisfy its condition.** -/
theorem mem_query {c : Collection Id Doc} {p : Doc → Bool} {i : Id} {d : Doc} :
    (i, d) ∈ c.query p ↔ c.get i = some d ∧ p d = true := by
  simp [query, get_eq_some_iff]

omit [DecidableEq Id] in
theorem nodup_query (c : Collection Id Doc) (p : Doc → Bool) :
    ((c.query p).map Prod.fst).Nodup :=
  c.nodup.sublist (List.filter_sublist.map Prod.fst)

/-- Two lookups agree when the entries they may answer do. -/
theorem get_congr {c c' : Collection Id Doc} {i j : Id}
    (h : ∀ d, (i, d) ∈ c.entries ↔ (j, d) ∈ c'.entries) : c.get i = c'.get j := by
  ext d
  rw [get_eq_some_iff, get_eq_some_iff]
  exact h d

@[simp] theorem get_modify_self (c : Collection Id Doc) (i : Id) (f : Doc → Doc) :
    (c.modify i f).get i = (c.get i).map f := by
  ext d
  simp only [get_eq_some_iff, modify, List.mem_map, Option.map_eq_some_iff]
  constructor
  · rintro ⟨⟨j, b⟩, hb, he⟩
    by_cases hj : j = i
    · subst hj
      simp only [if_true, Prod.mk.injEq, true_and] at he
      exact ⟨b, hb, he⟩
    · simp only [hj, if_false, Prod.mk.injEq, false_and] at he
  · rintro ⟨b, hb, rfl⟩
    exact ⟨(i, b), hb, by simp⟩

theorem get_modify_of_ne (c : Collection Id Doc) {i j : Id} (f : Doc → Doc) (h : j ≠ i) :
    (c.modify i f).get j = c.get j := by
  refine get_congr fun d => ?_
  simp only [modify, List.mem_map]
  constructor
  · rintro ⟨⟨k, b⟩, hb, he⟩
    by_cases hk : k = i
    · subst hk
      simp only [if_true, Prod.mk.injEq] at he
      exact absurd he.1.symm h
    · simp only [hk, if_false, Prod.mk.injEq] at he
      obtain ⟨rfl, rfl⟩ := he
      exact hb
  · exact fun hd => ⟨(j, d), hd, by simp [h]⟩

/-- A rewrite at one id, read at any. -/
theorem get_modify (c : Collection Id Doc) (i j : Id) (f : Doc → Doc) :
    (c.modify i f).get j = if j = i then (c.get i).map f else c.get j := by
  by_cases h : j = i
  · subst h; simp
  · rw [if_neg h, get_modify_of_ne c f h]

/-- Rewrites at different ids commute. -/
theorem modify_modify_of_ne (c : Collection Id Doc) {i j : Id} (f g : Doc → Doc) (h : i ≠ j) :
    (c.modify i f).modify j g = (c.modify j g).modify i f := by
  simp only [modify, List.map_map, mk.injEq, List.map_inj_left, Function.comp_apply]
  intro e _
  by_cases hi : e.1 = i
  · have hj : e.1 ≠ j := hi ▸ h
    simp [hi, h]
  · by_cases hj : e.1 = j
    · have hji : j ≠ i := h.symm
      simp [hj, hji]
    · simp [hi, hj]

/-- A rewrite of a missing document does nothing. -/
theorem modify_of_get_eq_none {c : Collection Id Doc} {i : Id} (f : Doc → Doc)
    (h : c.get i = none) : c.modify i f = c := by
  obtain ⟨l, hl⟩ := c
  simp only [modify, mk.injEq]
  rw [get_eq_none_iff] at h
  conv_rhs => rw [← List.map_id l]
  refine List.map_congr_left fun e he => ?_
  rw [if_neg, id]
  rintro rfl
  exact h e.2 he

/-- Two rewrites of one document agree when they agree on the document
that is there. -/
theorem modify_congr {c : Collection Id Doc} {i : Id} {f g : Doc → Doc}
    (h : ∀ d, c.get i = some d → f d = g d) : c.modify i f = c.modify i g := by
  simp only [modify, mk.injEq, List.map_inj_left]
  intro e he
  by_cases hi : e.1 = i
  · rw [if_pos hi, if_pos hi, h e.2 (get_eq_some_iff.2 (hi ▸ he))]
  · rw [if_neg hi, if_neg hi]

theorem modify_id (c : Collection Id Doc) (i : Id) : c.modify i id = c := by
  obtain ⟨l, hl⟩ := c
  simp only [modify, mk.injEq]
  conv_rhs => rw [← List.map_id l]
  refine List.map_congr_left fun e _ => ?_
  split <;> rfl

/-- **A rewrite as a read and a write**: what it stores is computed from
what a read answers, and where the read answers nothing it does nothing. -/
theorem modify_read {α : Type*} (c : Collection Id Doc) (i : Id) (read : Doc → Option α)
    (write : α → Doc → Doc) :
    (c.modify i fun d => ((read d).map (write · d)).getD d) =
      (((c.get i).bind read).map fun a => c.modify i (write a)).getD c := by
  cases hd : c.get i with
  | none => exact modify_of_get_eq_none _ hd
  | some d =>
    rw [Option.bind_some]
    cases hr : read d with
    | none =>
      refine (modify_congr (g := id) fun b hb => ?_).trans (c.modify_id i)
      rw [hd, Option.some.injEq] at hb
      rw [← hb, hr]
      rfl
    | some a =>
      refine modify_congr fun b hb => ?_
      rw [hd, Option.some.injEq] at hb
      rw [← hb, hr]
      rfl

theorem get_keep (c : Collection Id Doc) (p : Id × Doc → Bool) (i : Id) :
    (c.keep p).get i = (c.get i).filter fun d => p (i, d) := by
  ext d
  rw [get_eq_some_iff, Option.filter_eq_some_iff, get_eq_some_iff, keep, List.mem_filter]

omit [DecidableEq Id] in
theorem keep_keep (c : Collection Id Doc) (p q : Id × Doc → Bool) :
    (c.keep p).keep q = (c.keep q).keep p := by
  simp only [keep, List.filter_filter, mk.injEq]
  exact List.filter_congr fun e _ => Bool.and_comm _ _

theorem get_delete (c : Collection Id Doc) (i j : Id) :
    (c.delete i).get j = if j = i then none else c.get j := by
  rw [delete, get_keep]
  by_cases h : j = i
  · simp [h]
  · cases c.get j <;> simp [h]

/-- A condition that holds of one id alone answers its document alone. -/
theorem query_eq_of_forall {c : Collection Id Doc} {p : Doc → Bool} {i : Id}
    (h : ∀ j d, c.get j = some d → (p d = true ↔ j = i)) :
    c.query p = (c.get i).toList.map (i, ·) := by
  have hmem : ∀ e ∈ c.query p, e.1 = i ∧ c.get i = some e.2 := by
    rintro ⟨j, d⟩ he
    obtain ⟨hj, hp⟩ := mem_query.1 he
    obtain rfl := (h j d hj).1 hp
    exact ⟨rfl, hj⟩
  cases hi : c.get i with
  | none =>
    refine List.eq_nil_iff_forall_not_mem.2 fun e he => ?_
    have := (hmem e he).2
    simp [hi] at this
  | some d =>
    have hd : (i, d) ∈ c.query p := mem_query.2 ⟨hi, (h i d hi).2 rfl⟩
    have hall : ∀ e ∈ c.query p, e = (i, d) := fun e he => by
      obtain ⟨h1, h2⟩ := hmem e he
      rw [hi, Option.some.injEq] at h2
      exact Prod.ext h1 h2.symm
    have hnodup := (c.nodup_query p).of_map
    match hq : c.query p with
    | [] => simp [hq] at hd
    | [e] => simpa [hq] using hall e (by simp [hq])
    | e :: e' :: l =>
      rw [hq, List.nodup_cons] at hnodup
      have h1 := hall e (by simp [hq])
      have h2 := hall e' (by simp [hq])
      exact absurd (by simp [h1, h2]) hnodup.1

/-- Deleting what a query answers keeps what it does not answer. -/
theorem foldl_delete_query (c : Collection Id Doc) (p : Doc → Bool) :
    ((c.query p).map Prod.fst).foldl delete c = c.keep fun e => !p e.2 := by
  have hfold : ∀ (l : List Id) (c : Collection Id Doc),
      l.foldl delete c = c.keep fun e => decide (e.1 ∉ l) := by
    intro l
    induction l with
    | nil => intro c; simp [keep]
    | cons i l ih =>
      intro c
      rw [List.foldl_cons, ih, delete]
      simp only [keep, List.filter_filter, mk.injEq]
      refine List.filter_congr fun e _ => ?_
      by_cases h : e.1 = i <;> simp [h]
  rw [hfold]
  simp only [keep, mk.injEq]
  refine List.filter_congr fun e he => ?_
  have hiff : e.1 ∈ (c.query p).map Prod.fst ↔ p e.2 = true := by
    rw [List.mem_map]
    constructor
    · rintro ⟨⟨j, d⟩, hd, rfl⟩
      obtain ⟨hj, hp⟩ := mem_query.1 hd
      have := get_eq_some_iff.2 he
      rw [hj, Option.some.injEq] at this
      exact this ▸ hp
    · exact fun hp => ⟨e, mem_query.2 ⟨get_eq_some_iff.2 he, hp⟩, rfl⟩
  cases hp : p e.2 <;> simp_all

@[simp] theorem get_delete_self (c : Collection Id Doc) (i : Id) : (c.delete i).get i = none := by
  simp [get_delete]

theorem get_delete_of_ne (c : Collection Id Doc) {i j : Id} (h : j ≠ i) :
    (c.delete i).get j = c.get j := by
  simp [get_delete, h]

/-- A removal and a rewrite commute. -/
theorem modify_delete (c : Collection Id Doc) (i j : Id) (f : Doc → Doc) :
    (c.delete i).modify j f = (c.modify j f).delete i := by
  simp only [delete, modify, keep, List.filter_map, mk.injEq]
  congr 1
  refine List.filter_congr fun e _ => ?_
  by_cases hj : e.1 = j
  · simp [hj]
  · simp [hj]

theorem delete_delete (c : Collection Id Doc) (i j : Id) :
    (c.delete i).delete j = (c.delete j).delete i :=
  keep_keep _ _ _

/-- A stored document, read at any id. -/
theorem get_set (c : Collection Id Doc) (i j : Id) (d : Doc) :
    (c.set i d).get j = if j = i then some d else c.get j := by
  ext b
  rw [get_eq_some_iff, set, List.mem_append, List.mem_singleton, ← get_eq_some_iff, get_delete]
  by_cases h : j = i
  · simp [h, eq_comm]
  · simp [h]

@[simp] theorem get_set_self (c : Collection Id Doc) (i : Id) (d : Doc) :
    (c.set i d).get i = some d := by
  simp [get_set]

theorem get_set_of_ne (c : Collection Id Doc) {i j : Id} (d : Doc) (h : j ≠ i) :
    (c.set i d).get j = c.get j := by
  simp [get_set, h]

end Collection

end Volleyer
