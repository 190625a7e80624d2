import Mathlib.Data.List.Forall2
import Volleyer.Common.Collection

/-!
# Collections that agree off some fields

Two documents agree off `F` when they differ in fields of `F` alone, and
two collections do when they hold the same ids in the same order, under
documents that do. What reads no field of `F` reads the same of both, and
what writes fields of `F` alone may be done to one of them
(`Collection.Rel.modify_left`).
-/

namespace Volleyer

/-- Two documents that differ in the fields of `F` alone. -/
def AgreeOff {Field α : Type*} (F : List Field) (d d' : Field → α) : Prop :=
  ∀ f, f ∉ F → d f = d' f

theorem AgreeOff.refl {Field α : Type*} (F : List Field) (d : Field → α) : AgreeOff F d d :=
  fun _ _ => rfl

namespace Collection

variable {Id Doc : Type*}

/-- **Two collections of the same ids**, under documents `R` relates. -/
def Rel (R : Doc → Doc → Prop) (c c' : Collection Id Doc) : Prop :=
  List.Forall₂ (fun e e' => e.1 = e'.1 ∧ R e.2 e'.2) c.entries c'.entries

namespace Rel

variable {R : Doc → Doc → Prop} {c c' : Collection Id Doc}

theorem refl (hR : ∀ d, R d d) (c : Collection Id Doc) : c.Rel R c :=
  List.forall₂_same.2 fun e _ => ⟨rfl, hR e.2⟩

theorem keep (h : c.Rel R c') {p p' : Id × Doc → Bool}
    (hp : ∀ i d d', R d d' → p (i, d) = p' (i, d')) : (c.keep p).Rel R (c'.keep p') := by
  refine List.rel_filter ?_ h
  rintro ⟨i, d⟩ ⟨j, d'⟩ ⟨hij, hd⟩
  obtain rfl : i = j := hij
  exact Bool.eq_iff_iff.1 (hp i d d' hd)

/-- A query that reads related documents alike answers related ones. -/
theorem query (h : c.Rel R c') {p : Doc → Bool} (hp : ∀ d d', R d d' → p d = p d') :
    List.Forall₂ (fun e e' => e.1 = e'.1 ∧ R e.2 e'.2) (c.query p) (c'.query p) :=
  h.keep fun _ => hp

/-- What is read off each document of such a query is the same. -/
theorem filterMap_query {β : Type*} (h : c.Rel R c') {p : Doc → Bool}
    (hp : ∀ d d', R d d' → p d = p d') {g : Id × Doc → Option β}
    (hg : ∀ i d d', R d d' → g (i, d) = g (i, d')) :
    (c.query p).filterMap g = (c'.query p).filterMap g := by
  have hquery := h.query hp
  generalize c.query p = l, c'.query p = l' at hquery
  induction hquery with
  | nil => rfl
  | @cons e e' l l' he _ ih =>
    obtain ⟨i, d⟩ := e
    obtain ⟨j, d'⟩ := e'
    obtain rfl : i = j := he.1
    rw [List.filterMap_cons, List.filterMap_cons, hg i d d' he.2, ih]

variable [DecidableEq Id]

/-- Related collections store related documents under each id. -/
theorem get (h : c.Rel R c') (i : Id) : Option.Rel R (c.get i) (c'.get i) := by
  obtain ⟨l, hl⟩ := c
  obtain ⟨l', hl'⟩ := c'
  have hentries : List.Forall₂ (fun e e' => e.1 = e'.1 ∧ R e.2 e'.2) l l' := h
  simp only [Collection.get]
  clear h hl hl'
  induction hentries with
  | nil => exact .none
  | @cons e e' l l' he _ ih =>
    obtain ⟨j, d⟩ := e
    obtain ⟨k, d'⟩ := e'
    obtain rfl : j = k := he.1
    rw [List.lookup_cons, List.lookup_cons]
    cases i == j with
    | true => exact .some he.2
    | false => exact ih

/-- An id is missing from both, or stored in both. -/
theorem get_cases (h : c.Rel R c') (i : Id) : c.get i = none ∧ c'.get i = none ∨
    ∃ d d', c.get i = some d ∧ c'.get i = some d' ∧ R d d' := by
  have hget := h.get i
  generalize c.get i = o, c'.get i = o' at hget
  cases hget with
  | none => exact Or.inl ⟨rfl, rfl⟩
  | some hd => exact Or.inr ⟨_, _, rfl, rfl, hd⟩

/-- What is read off the document of an id is the same. -/
theorem bind_get {β : Type*} (h : c.Rel R c') (i : Id) {g : Doc → Option β}
    (hg : ∀ d d', R d d' → g d = g d') : (c.get i).bind g = (c'.get i).bind g := by
  rcases h.get_cases i with ⟨hd, hd'⟩ | ⟨d, d', hd, hd', hR⟩
  · rw [hd, hd', Option.bind_none]
  · rw [hd, hd', Option.bind_some, Option.bind_some, hg d d' hR]

/-- Rewrites that keep `R`. -/
theorem modify (h : c.Rel R c') (i : Id) {f f' : Doc → Doc}
    (hf : ∀ d d', R d d' → R (f d) (f' d')) : (c.modify i f).Rel R (c'.modify i f') := by
  refine List.rel_map ?_ h
  rintro ⟨j, d⟩ ⟨k, d'⟩ ⟨hjk, hd⟩
  obtain rfl : j = k := hjk
  by_cases hj : j = i
  · simp only [if_pos hj]
    exact ⟨trivial, hf d d' hd⟩
  · simp only [if_neg hj]
    exact ⟨trivial, hd⟩

/-- A rewrite `R` does not see may be done to one of the two. -/
theorem modify_left (h : c.Rel R c') (i : Id) {f : Doc → Doc} (hf : ∀ d d', R d d' → R (f d) d') :
    (c.modify i f).Rel R c' := by
  have hboth : (c.modify i f).Rel R (c'.modify i id) := h.modify i hf
  rwa [modify_id] at hboth

theorem delete (h : c.Rel R c') (i : Id) : (c.delete i).Rel R (c'.delete i) :=
  h.keep fun _ _ _ _ => rfl

theorem set (h : c.Rel R c') (i : Id) {d d' : Doc} (hd : R d d') :
    (c.set i d).Rel R (c'.set i d') :=
  List.rel_append (h.delete i) (.cons ⟨rfl, hd⟩ .nil)

end Rel

end Collection

end Volleyer
