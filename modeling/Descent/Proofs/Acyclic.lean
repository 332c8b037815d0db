import Mathlib.Data.Fintype.Card
import Mathlib.Data.Set.Finite.Basic
import Mathlib.Logic.Relation

/-!
# Paths that end

Where only finitely many things can be met, a path that never ends comes back to one of them.
This is used twice, of left corners and of the nodes below a node, and neither of these is a
finite type.  So `acc_of_acyclic` is about a finite set that paths stay in; they may leave it, as
a left corner may be a terminal, for something from where every path ends.
-/

namespace Descent

open Relation

variable {α : Type} {step : α → α → Prop} {inside : α → Prop} {a : α}

/-- **Without cycles every path ends**, if it stays among finitely many things, or leaves them for
one from where every path ends. -/
theorem acc_of_acyclic (finite : {a | inside a}.Finite)
    (stays : ∀ {a b}, inside a → step a b → inside b ∨ Acc (fun b a => step a b) b)
    (acyclic : ∀ {a}, inside a → ¬ TransGen step a a) (h : inside a) :
    Acc (fun b a => step a b) a := by
  have : Finite {a // inside a} := finite.to_subtype
  let beyond (b a : {a // inside a}) : Prop := TransGen step a.1 b.1
  have : IsTrans _ beyond := ⟨fun _ _ _ later earlier => earlier.trans later⟩
  have : Std.Irrefl beyond := ⟨fun a cycle => acyclic a.2 cycle⟩
  have wellFounded : WellFounded beyond := Finite.wellFounded_of_trans_of_irrefl beyond
  have ends : ∀ a : {a // inside a}, Acc (fun b a => step a b) a.1 := by
    intro a
    induction a using wellFounded.induction with
    | _ a ih =>
      refine Acc.intro _ fun b next => ?_
      rcases stays a.2 next with within | ended
      · exact ih ⟨b, within⟩ (.single next)
      · exact ended
  exact ends ⟨a, h⟩

/-- Where every path ends there is no cycle. -/
theorem not_transGen_of_acc (h : Acc (fun b a => step a b) a) : ¬ TransGen step a a := by
  induction h with
  | intro a _ ih =>
    intro cycle
    obtain ⟨b, next, around⟩ := TransGen.head'_iff.mp cycle
    exact ih b next (TransGen.tail' around next)

end Descent
