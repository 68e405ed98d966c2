import Mathlib.Logic.Basic
import Mathlib.Tactic.Common

/-! Write-ahead ledgers. A ledger covers a store when its entries are values the store
had at the origin and everything without an entry still has its value of then. An
entry is made before the thing is overwritten; writing every entry back gives the
origin again. -/
namespace Ifaas.Library

structure Covers {ι V : Type} (origin current ledger : ι → Option V) : Prop where
  faithful : ∀ i v, ledger i = some v → origin i = some v
  intact : ∀ i, ledger i = none → current i = origin i

namespace Covers
variable {ι V : Type} {origin current ledger : ι → Option V}

theorem start (origin ledger : ι → Option V) (empty : ∀ i, ledger i = none) : Covers origin origin ledger where
  faithful i v entered := by
    rw [empty i] at entered
    cases entered
  intact _ _ := rfl

/-- New entries hold what is there now. -/
theorem record (covers : Covers origin current ledger) (after : ι → Option V)
    (entered : ∀ i, after i = ledger i ∨ ledger i = none ∧ after i = current i) :
    Covers origin current after where
  faithful i v held := by
    rcases entered i with same | ⟨missing,now⟩
    · exact covers.faithful i v (same ▸ held)
    · rw [← covers.intact i missing,← now,held]
  intact i missing := by
    rcases entered i with same | ⟨absent,_⟩
    · exact covers.intact i (same ▸ missing)
    · exact covers.intact i absent

/-- What has an entry may be overwritten. -/
theorem overwrite (covers : Covers origin current ledger) (after : ι → Option V)
    (kept : ∀ i, after i = current i ∨ ledger i ≠ none) : Covers origin after ledger where
  faithful := covers.faithful
  intact i missing := by
    rcases kept i with same | entered
    · rw [same,covers.intact i missing]
    · exact absurd missing entered

theorem entry_eq (covers : Covers origin current ledger) (i : ι) (entered : ledger i ≠ none) :
    ledger i = origin i := by
  obtain ⟨v,held⟩ := Option.ne_none_iff_exists'.mp entered
  rw [held,covers.faithful i v held]

end Covers
end Ifaas.Library
