import Mathlib.Data.List.Basic

/-! Steps that are done once. Each step leaves its mark, keeps the marks of the steps it is apart
from, and does nothing where its mark is; a list of such steps does nothing the second time. -/
namespace Ifaas.Library
variable {ι σ : Type}

structure Settles (step : σ → ι → σ) (met : ι → σ → Prop) (apart : ι → ι → Prop) : Prop where
  reached : ∀ s i, met i (step s i)
  kept : ∀ s i j, apart i j → met i s → met i (step s j)
  still : ∀ s i, met i s → step s i = s

namespace Settles
variable {step : σ → ι → σ} {met : ι → σ → Prop} {apart : ι → ι → Prop}

theorem kept_by_all (settles : Settles step met apart) (steps : List ι) (s : σ) (i : ι) (others : ∀ j ∈ steps, apart i j)
    (held : met i s) : met i (steps.foldl step s) := by
  induction steps generalizing s with
  | nil => exact held
  | cons j rest ih =>
    apply ih
    · intro k member
      exact others k (List.mem_cons_of_mem _ member)
    · exact settles.kept s i j (others j List.mem_cons_self) held

theorem all_met (settles : Settles step met apart) (steps : List ι) (s : σ) (pairwise : steps.Pairwise apart) :
    ∀ i ∈ steps, met i (steps.foldl step s) := by
  induction steps generalizing s with
  | nil => exact fun i member => absurd member List.not_mem_nil
  | cons first rest ih =>
    obtain ⟨before,others⟩ := List.pairwise_cons.mp pairwise
    intro i member
    rcases List.mem_cons.mp member with rfl | inside
    · exact settles.kept_by_all rest _ i before (settles.reached s i)
    · exact ih _ others i inside

theorem foldl_met (settles : Settles step met apart) (steps : List ι) (s : σ) (held : ∀ i ∈ steps, met i s) :
    steps.foldl step s = s := by
  induction steps with
  | nil => rfl
  | cons first rest ih =>
    rw [List.foldl_cons,settles.still s first (held first List.mem_cons_self)]
    exact ih (fun i member => held i (List.mem_cons_of_mem _ member))

theorem foldl_again (settles : Settles step met apart) (steps : List ι) (s : σ) (pairwise : steps.Pairwise apart) :
    steps.foldl step (steps.foldl step s) = steps.foldl step s :=
  settles.foldl_met steps _ (settles.all_met steps s pairwise)

end Settles
end Ifaas.Library
