import Mathlib.Algebra.BigOperators.Group.List.Basic
import Mathlib.Algebra.GroupWithZero.Nat
import Volleyer.Common.Machine

/-!
# What is done and what is owed

A callback that is to do something once owes it while it is in flight, and a
callback that goes on to another one passes the debt on. Where no step loses
a debt or makes one, what is done and what is owed are together constant
(`Pays.run`), and when nothing is in flight any more everything that was owed
is done (`Pays.done_eq`).
-/

namespace Volleyer

variable {State Call Task Reply : Type*}

/-- **What is owed** by the tasks in flight. -/
def Config.owed (owes : Task → ℕ) (c : Config State Task) : ℕ := (c.pending.map owes).sum

/-- **A machine that pays its debts**: what a call puts in flight owes as
much as the call takes back, and an answered task pays what it owes, or
passes it on. -/
structure Pays (M : Machine State Call Task Reply)
    (ok : Config State Task → Event Call Reply → Prop) (done : State → ℕ) (owes : Task → ℕ) :
    Prop where
  call : ∀ {c a s ts}, ok c (.call a) → M.issue c.state a = some (s, ts) →
    done s + (ts.map owes).sum = done c.state
  answer : ∀ {c n r t}, ok c (.answer n r) → c.pending[n]? = some t →
    done (M.answer c.state t r).1 + ((M.answer c.state t r).2.map owes).sum = done c.state + owes t

variable {M : Machine State Call Task Reply} {ok : Config State Task → Event Call Reply → Prop}
variable {done : State → ℕ} {owes : Task → ℕ} {c c' c₀ : Config State Task}
variable {e : Event Call Reply} {evs : List (Event Call Reply)}

/-- A task that is answered takes its debt out of what is owed. -/
theorem sum_eraseIdx {l : List Task} {i : ℕ} {t : Task} (h : l[i]? = some t) :
    (l.map owes).sum = owes t + ((l.eraseIdx i).map owes).sum := by
  have hperm := (Machine.perm_cons_eraseIdx h).map owes
  rw [hperm.sum_eq, List.map_cons, List.sum_cons]

namespace Pays

theorem step (h : Pays M ok done owes) (he : ok c e) (hs : M.step c e = some c') :
    done c'.state + c'.owed owes = done c.state + c.owed owes := by
  rcases Machine.step_cases hs with ⟨a, s, ts, rfl, hi, rfl⟩ | ⟨n, r, t, rfl, ht, rfl⟩
  · have hcall := h.call he hi
    simp only [Config.owed, List.map_append, List.sum_append]
    omega
  · have hanswer := h.answer he ht
    have herase : (c.pending.map owes).sum = _ := sum_eraseIdx ht
    simp only [Config.owed, List.map_append, List.sum_append]
    omega

/-- **Nothing is lost and nothing is done twice.** -/
theorem run (h : Pays M ok done owes) (hrun : M.Run ok c₀ evs c) :
    done c.state + c.owed owes = done c₀.state + c₀.owed owes :=
  hrun.invariant (I := fun c => done c.state + c.owed owes = done c₀.state + c₀.owed owes) rfl
    fun _ _ _ hc he hs => (h.step he hs).trans hc

/-- **What was owed is done** when nothing is in flight. -/
theorem done_eq (h : Pays M ok done owes) (hrun : M.Run ok c₀ evs c) (hdone : c.pending = []) :
    done c.state = done c₀.state + c₀.owed owes := by
  have hpaid := h.run hrun
  rw [Config.owed, hdone] at hpaid
  exact hpaid

end Pays

end Volleyer
