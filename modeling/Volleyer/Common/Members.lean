import Mathlib.Data.List.Nodup
import Volleyer.Common.Edits

/-!
# Lists edited one member at a time

Each edit is of one element: it appends it, or erases it. An edit
`Changes` a list that does not yet say of its element what the edit would
make it say. What a list says of an element only the edits of that element
change, so a chain of edits of different elements, each of which changes
the list the chain starts from, makes them all, and no shorter chain does.
-/

namespace Volleyer

variable {α ε : Type*} [DecidableEq α]

/-- **Edits of a list**: `who x` is the element the edit `x` is of. -/
structure Members (make : ε → List α → List α) (adds : ε → Prop) (who : ε → α) : Prop where
  append : ∀ {x}, adds x → ∀ l, make x l = l ++ [who x]
  erase : ∀ {x}, ¬adds x → ∀ l, make x l = l.erase (who x)

namespace Members

/-- An edit that finds something to do. -/
def Changes (adds : ε → Prop) (who : ε → α) (l : List α) (x : ε) : Prop := adds x ↔ who x ∉ l

instance (adds : ε → Prop) [DecidablePred adds] (who : ε → α) (l : List α) (x : ε) :
    Decidable (Changes adds who l x) :=
  inferInstanceAs (Decidable (_ ↔ _))

variable {make : ε → List α → List α} {adds : ε → Prop} {who : ε → α}
variable {l : List α} {x y : ε} {u : α} {w asked : List ε}

/-- What a list says of the other elements an edit keeps. -/
theorem mem_make_of_ne (h : Members make adds who) (hne : u ≠ who x) :
    u ∈ make x l ↔ u ∈ l := by
  by_cases hx : adds x
  · rw [h.append hx, List.mem_append, List.mem_singleton, or_iff_left hne]
  · rw [h.erase hx, List.mem_erase_of_ne hne]

theorem changes_make_of_ne (h : Members make adds who) (hne : who y ≠ who x) :
    Changes adds who (make x l) y ↔ Changes adds who l y := by
  rw [Changes, Changes, h.mem_make_of_ne hne]

/-- An edit made is not to be made any more. -/
theorem not_changes_make (h : Members make adds who) (hl : l.Nodup) :
    ¬Changes adds who (make x l) x := by
  intro hchanges
  by_cases hx : adds x
  · refine hchanges.1 hx ?_
    rw [h.append hx]
    exact List.mem_append_right _ (List.mem_singleton_self _)
  · refine hx (hchanges.2 ?_)
    rw [h.erase hx, hl.mem_erase_iff]
    exact fun hmem => hmem.1 rfl

/-- An edit that has something to do keeps the elements distinct. -/
theorem nodup_make (h : Members make adds who) (hl : l.Nodup) (hx : Changes adds who l x) :
    (make x l).Nodup := by
  by_cases hadds : adds x
  · rw [h.append hadds, List.nodup_append]
    refine ⟨hl, List.nodup_singleton _, fun u hu v hv => ?_⟩
    obtain rfl := List.mem_singleton.1 hv
    rintro rfl
    exact hx.1 hadds hu
  · rw [h.erase hadds]
    exact hl.erase _

/-- The elements no edit of a chain is of. -/
theorem mem_chain_of_not_mem (h : Members make adds who) (hu : u ∉ w.map who) :
    u ∈ Edits.chain make l w ↔ u ∈ l := by
  induction w using List.reverseRecOn with
  | nil => rfl
  | append_singleton w x ih =>
    rw [List.map_append, List.mem_append, not_or, List.map_singleton, List.mem_singleton] at hu
    rw [Edits.chain_append_singleton, h.mem_make_of_ne hu.2, ih hu.1]

theorem changes_chain_of_not_mem (h : Members make adds who) (hx : who x ∉ w.map who) :
    Changes adds who (Edits.chain make l w) x ↔ Changes adds who l x := by
  rw [Changes, Changes, h.mem_chain_of_not_mem hx]

/-- **A chain of edits of different elements makes them all.** -/
theorem chain_of_nodup (h : Members make adds who) (hl : l.Nodup) (hw : (w.map who).Nodup)
    (hchanges : ∀ x ∈ w, Changes adds who l x) :
    (Edits.chain make l w).Nodup ∧ ∀ x ∈ w, ¬Changes adds who (Edits.chain make l w) x := by
  induction w using List.reverseRecOn with
  | nil => exact ⟨hl, nofun⟩
  | append_singleton w x ih =>
    rw [List.map_append, List.nodup_append] at hw
    obtain ⟨hw, -, hdisj⟩ := hw
    have hx : who x ∉ w.map who := fun hmem => hdisj _ hmem _ List.mem_cons_self rfl
    obtain ⟨hnodup, hmade⟩ := ih hw fun y hy => hchanges y (List.mem_append_left _ hy)
    rw [Edits.chain_append_singleton]
    have hfinds : Changes adds who (Edits.chain make l w) x :=
      (h.changes_chain_of_not_mem hx).2 (hchanges x (List.mem_append_right _ List.mem_cons_self))
    refine ⟨h.nodup_make hnodup hfinds, fun y hy => ?_⟩
    rcases List.mem_append.1 hy with hy | hy
    · have hne : who y ≠ who x := fun heq => hx (heq ▸ List.mem_map_of_mem hy)
      rw [h.changes_make_of_ne hne]
      exact hmade y hy
    · obtain rfl := List.mem_singleton.1 hy
      exact h.not_changes_make hnodup

/-- **And no shorter chain does.** -/
theorem length_le_of_chain (h : Members make adds who) (hasked : (asked.map who).Nodup)
    (hchanges : ∀ x ∈ asked, Changes adds who l x)
    (hmade : ∀ x ∈ asked, ¬Changes adds who (Edits.chain make l w) x) :
    asked.length ≤ w.length := by
  have hsub : asked.map who ⊆ w.map who := by
    intro u hu
    obtain ⟨x, hx, rfl⟩ := List.mem_map.1 hu
    by_contra hnot
    exact hmade x hx ((h.changes_chain_of_not_mem hnot).2 (hchanges x hx))
  simpa using (hasked.subperm hsub).length_le

/-- An edit still to be made finds what the others left to change. -/
theorem changes_of_subperm (h : Members make adds who) (hasked : (asked.map who).Nodup)
    (hchanges : ∀ x ∈ asked, Changes adds who l x) (hsub : (w ++ [x]).Subperm asked) :
    Changes adds who (Edits.chain make l w) x := by
  obtain ⟨w', hperm, hsublist⟩ := hsub
  have hnodup : ((w ++ [x]).map who).Nodup :=
    (hperm.map who).nodup_iff.1 (hasked.sublist (hsublist.map who))
  rw [List.map_append, List.nodup_append] at hnodup
  have hx : who x ∉ w.map who := fun hmem => hnodup.2.2 _ hmem _ List.mem_cons_self rfl
  exact (h.changes_chain_of_not_mem hx).2
    (hchanges x (hsublist.subset (hperm.mem_iff.2 (List.mem_append_right _ List.mem_cons_self))))

/-- **An edit tells its list from a later one**: made on the two it gives
the same only if nothing was edited in between. -/
theorem eq_nil_of_make_eq (h : Members make adds who) (hl : l.Nodup)
    (hasked : (asked.map who).Nodup) (hchanges : ∀ x ∈ asked, Changes adds who l x)
    {w₁ w₂ : List ε} (hsub : (w₁ ++ w₂ ++ [x]).Subperm asked)
    (hsame : make x (Edits.chain make l w₁) = make x (Edits.chain make l (w₁ ++ w₂))) :
    w₂ = [] := by
  obtain ⟨w, hperm, hsublist⟩ := hsub
  have hmem : ∀ {y}, y ∈ w₁ ++ w₂ ++ [x] → y ∈ asked := fun hy =>
    hsublist.subset (hperm.mem_iff.2 hy)
  have hnodup : ((w₁ ++ w₂ ++ [x]).map who).Nodup :=
    (hperm.map who).nodup_iff.1 (hasked.sublist (hsublist.map who))
  rw [List.map_append, List.nodup_append] at hnodup
  obtain ⟨hboth, -, hdisj⟩ := hnodup
  cases w₂ with
  | nil => rfl
  | cons y rest =>
    have hne : who y ≠ who x :=
      hdisj _ (List.mem_map_of_mem (List.mem_append_right _ List.mem_cons_self)) _
        List.mem_cons_self
    -- the first list has work for `y`, the second one has not
    have hbefore : Changes adds who (make x (Edits.chain make l w₁)) y := by
      rw [List.map_append, List.nodup_append] at hboth
      have hy : who y ∉ w₁.map who := fun hmem => hboth.2.2 _ hmem _ List.mem_cons_self rfl
      rw [h.changes_make_of_ne hne, h.changes_chain_of_not_mem hy]
      exact hchanges y (hmem (List.mem_append_left _ (List.mem_append_right _ List.mem_cons_self)))
    obtain ⟨-, hmade⟩ := h.chain_of_nodup hl hboth
      fun z hz => hchanges z (hmem (List.mem_append_left _ hz))
    rw [hsame, h.changes_make_of_ne hne] at hbefore
    exact absurd hbefore (hmade y (List.mem_append_right _ List.mem_cons_self))

end Members

end Volleyer
