import Mathlib.Data.List.Sort
import Volleyer.Model.Documents

/-!
# Users in the order of their gender

Two screens sort users by `$0.gender < $1.gender`, a sort that keeps users
of one gender in their order.
-/

namespace Volleyer

/-- `sort { $0.gender < $1.gender }` -/
def sortByGender (players : List User) : List User :=
  players.insertionSort fun a b => a.gender ≤ b.gender

instance User.totalGender : Std.Total fun a b : User => a.gender ≤ b.gender :=
  ⟨fun a b => le_total a.gender b.gender⟩

instance User.transGender : IsTrans User fun a b : User => a.gender ≤ b.gender :=
  ⟨fun _ _ _ => le_trans⟩

theorem perm_sortByGender (players : List User) : (sortByGender players).Perm players :=
  players.perm_insertionSort _

theorem pairwise_sortByGender (players : List User) :
    (sortByGender players).Pairwise fun a b => a.gender ≤ b.gender :=
  players.pairwise_insertionSort _

end Volleyer
