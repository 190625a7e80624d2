import Volleyer.Common.Writes

/-!
# Records kept as documents

A writer stores a record as a document and a decoder reads it back. A
write of a part of the record is, to the decoder, a `put` into it. Where a
later put covers an earlier one, a run leaves to be read what the last
write put (`Codec.run`), whatever else went on beside.
-/

namespace Volleyer

variable {State Call Task Reply D R P : Type*}

/-- **A decoder and a write of a part**: the write puts the part into the
decoded record, and of two parts put the later one stays. -/
structure Codec (decode : D → R) (write : D → P → D) (put : R → P → R) : Prop where
  decode_write : ∀ d p, decode (write d p) = put (decode d) p
  put_put : ∀ r p q, put (put r p) q = put r q

namespace Codec

variable {decode : D → R} {write : D → P → D} {put : R → P → R}

/-- A part put over what an earlier one may have been put into. -/
theorem put_elim (h : Codec decode write put) (r : R) (p : Option P) (q : P) :
    put (p.elim r (put r)) q = put r q := by
  cases p with
  | none => rfl
  | some p => exact h.put_put r p q

variable {M : Machine State Call Task Reply} {ok : Config State Task → Event Call Reply → Prop}
variable {c₀ c : Config State Task} {evs : List (Event Call Reply)}
variable {wrote : State × Task × Reply → Option P} {d₀ : D}

/-- **What a run leaves to be read**: the record the document started as,
with the part the last write put. -/
theorem run (h : Codec decode write put) (doc : State → Option D) (hrun : M.Run ok c₀ evs c)
    (h₀ : doc c₀.state = some d₀)
    (hcall : ∀ {c : Config State Task} {a s ts}, ok c (.call a) →
      M.issue c.state a = some (s, ts) → doc s = doc c.state)
    (hanswer : ∀ {c : Config State Task} {i r t d}, ok c (.answer i r) →
      c.pending[i]? = some t → doc c.state = some d →
      doc (M.answer c.state t r).1 = some ((wrote (c.state, t, r)).elim d (write d))) :
    ∃ d, doc c.state = some d ∧ decode d =
      ((M.answered c₀ evs).filterMap wrote).getLast?.elim (decode d₀) (put (decode d₀)) := by
  induction hrun with
  | nil => exact ⟨d₀, h₀, rfl⟩
  | @snoc evs c e c' hr he hs ih =>
    obtain ⟨d, hd, hdecode⟩ := ih
    rw [hr.answered_snoc hs, List.filterMap_append, List.getLast?_append]
    rcases Machine.step_cases hs with ⟨a, s, ts, rfl, hi, rfl⟩ | ⟨i, r, t, rfl, ht, rfl⟩
    · refine ⟨d, (hcall he hi).trans hd, ?_⟩
      simpa only [Config.answered, List.filterMap_nil, List.getLast?_nil, Option.none_or] using
        hdecode
    · refine ⟨_, hanswer he ht hd, ?_⟩
      simp only [Config.answered, ht, Option.map_some, Option.toList_some]
      cases hw : wrote (c.state, t, r) with
      | none => simpa [hw] using hdecode
      | some p =>
        rw [List.filterMap_cons_some hw, List.filterMap_nil, List.getLast?_singleton,
          Option.some_or, Option.elim_some, Option.elim_some, h.decode_write, hdecode, h.put_elim]

end Codec

end Volleyer
