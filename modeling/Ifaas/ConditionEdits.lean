import Ifaas.Conditions
import Ifaas.Library.Settling

/-! Scripts of condition edits. A pass writes the conditions by setting, removing and clearing
them one after the other; a script that does not come back to a condition it has set leaves
conditions it would leave alone if it were run once more. -/
namespace Ifaas
open Library

inductive ConditionEdit where
  | set (new : Condition)
  | remove (t : ConditionType)
  | clear (t : ConditionType) (reason : Reason)

namespace ConditionEdit

def type : ConditionEdit → ConditionType
  | set new => new.type
  | remove t => t
  | clear t _ => t

/-- The edit takes away and adds nothing. -/
def lessens : ConditionEdit → Bool
  | set _ => false
  | _ => true

def apply : ConditionEdit → List Condition → List Condition
  | set new,conditions => setStatusCondition new conditions
  | remove t,conditions => removeStatusCondition conditions t
  | clear t reason,conditions =>
    match findStatusCondition conditions t with
    | none => conditions
    | some c => if c.reason = reason then removeStatusCondition conditions t else conditions

theorem apply_clear (t : ConditionType) (reason : Reason) (conditions : List Condition) :
    (clear t reason).apply conditions =
      match findStatusCondition conditions t with
      | none => conditions
      | some c => if c.reason = reason then removeStatusCondition conditions t else conditions := rfl

/-- There is nothing left to do for the edit. -/
def Met (conditions : List Condition) : ConditionEdit → Prop
  | set new => findStatusCondition conditions new.type = some new
  | remove t => findStatusCondition conditions t = none
  | clear t reason => ∀ c, findStatusCondition conditions t = some c → c.reason ≠ reason

theorem find_apply_other (e : ConditionEdit) (conditions : List Condition) (t : ConditionType) (other : t ≠ e.type) :
    findStatusCondition (e.apply conditions) t = findStatusCondition conditions t := by
  cases e with
  | set new => exact (find_set new conditions t).trans (if_neg other)
  | remove removed => exact (find_remove conditions removed t).trans (if_neg other)
  | clear cleared reason =>
    rw [apply_clear]
    split
    · rfl
    · split
      · exact (find_remove conditions cleared t).trans (if_neg other)
      · rfl

/-- An edit that takes away leaves a condition of its type as it was, or none. -/
theorem find_apply_lessened (e : ConditionEdit) (conditions : List Condition) (less : e.lessens = true) (t : ConditionType) :
    findStatusCondition (e.apply conditions) t = none ∨
      findStatusCondition (e.apply conditions) t = findStatusCondition conditions t := by
  by_cases here : t = e.type
  · cases e with
    | set new => cases less
    | remove removed => exact Or.inl ((find_remove conditions removed t).trans (if_pos here))
    | clear cleared reason =>
      rw [apply_clear]
      split
      · exact Or.inr rfl
      · split
        · exact Or.inl ((find_remove conditions cleared t).trans (if_pos here))
        · exact Or.inr rfl
  · exact Or.inr (e.find_apply_other conditions t here)

theorem set_same (new : Condition) (conditions : List Condition) (held : findStatusCondition conditions new.type = some new) :
    setStatusCondition new conditions = conditions := by
  induction conditions with
  | nil => cases held
  | cons c rest ih =>
    unfold setStatusCondition
    unfold findStatusCondition at held ih
    split
    next same =>
      rw [List.find?_cons_of_pos (by simpa using same)] at held
      rw [Option.some.inj held]
    next other =>
      rw [List.find?_cons_of_neg (by simpa using other)] at held
      rw [ih held]

theorem remove_same (conditions : List Condition) (t : ConditionType) (absent : findStatusCondition conditions t = none) :
    removeStatusCondition conditions t = conditions := by
  apply List.filter_eq_self.mpr
  intro c member
  simpa using List.find?_eq_none.mp absent c member

theorem apply_met (e : ConditionEdit) (conditions : List Condition) (met : e.Met conditions) : e.apply conditions = conditions := by
  cases e with
  | set new => exact set_same new conditions met
  | remove t => exact remove_same conditions t met
  | clear t reason =>
    rw [apply_clear]
    split
    · rfl
    next c held => rw [if_neg (met c held)]

theorem met_apply (e : ConditionEdit) (conditions : List Condition) : e.Met (e.apply conditions) := by
  cases e with
  | set new => exact (find_set new conditions new.type).trans (if_pos rfl)
  | remove t => exact (find_remove conditions t t).trans (if_pos rfl)
  | clear t reason =>
    rw [apply_clear]
    split
    next absent =>
      intro c held
      rw [absent] at held
      cases held
    next found there =>
      split
      · intro c held
        rw [find_remove,if_pos rfl] at held
        cases held
      next other =>
        intro c held
        cases there.symm.trans held
        exact other

/-- Two edits that do not undo each other: they are about different conditions, or both take away. -/
def Apart (e other : ConditionEdit) : Prop := e.type ≠ other.type ∨ (e.lessens = true ∧ other.lessens = true)

theorem met_kept (e other : ConditionEdit) (conditions : List Condition) (apart : Apart e other) (met : e.Met conditions) :
    e.Met (other.apply conditions) := by
  rcases apart with different | ⟨less,lessOther⟩
  · have found := other.find_apply_other conditions e.type different
    cases e with
    | set new => exact found.trans met
    | remove t => exact found.trans met
    | clear t reason => exact fun c held => met c (found.symm.trans held)
  · cases e with
    | set new => cases less
    | remove t => exact (other.find_apply_lessened conditions lessOther t).elim id (fun same => same.trans met)
    | clear t reason =>
      intro c held
      rcases other.find_apply_lessened conditions lessOther t with none | same
      · rw [none] at held
        cases held
      · exact met c (same.symm.trans held)

end ConditionEdit

def edited (edits : List ConditionEdit) (conditions : List Condition) : List Condition :=
  edits.foldl (fun conditions e => e.apply conditions) conditions

theorem edited_append (first second : List ConditionEdit) (conditions : List Condition) :
    edited (first++second) conditions = edited second (edited first conditions) := List.foldl_append

theorem edits_settle : Settles (fun conditions e => ConditionEdit.apply e conditions) (fun e conditions => e.Met conditions)
    ConditionEdit.Apart where
  reached conditions e := e.met_apply conditions
  kept conditions e other apart met := e.met_kept other conditions apart met
  still conditions e met := e.apply_met conditions met

/-- No condition of the type is True. -/
def Lacks (conditions : List Condition) (t : ConditionType) : Prop :=
  ∀ c, findStatusCondition conditions t = some c → c.status ≠ .true

/-- A script that never sets a condition leaves it as it was, or none. -/
theorem find_edited_lessened (edits : List ConditionEdit) (conditions : List Condition) (t : ConditionType)
    (unset : ∀ e ∈ edits, e.type ≠ t ∨ e.lessens = true) :
    findStatusCondition (edited edits conditions) t = none ∨
      findStatusCondition (edited edits conditions) t = findStatusCondition conditions t := by
  induction edits generalizing conditions with
  | nil => exact Or.inr rfl
  | cons first rest ih =>
    refine (ih (first.apply conditions) (fun e member => unset e (List.mem_cons_of_mem _ member))).elim Or.inl (fun same => ?_)
    change findStatusCondition (edited rest (first.apply conditions)) t = none ∨ findStatusCondition (edited rest _) t = _
    rw [same]
    rcases unset first (by simp) with other | less
    · exact Or.inr (first.find_apply_other conditions t (Ne.symm other))
    · exact first.find_apply_lessened conditions less t

/-- So it does not become True. -/
theorem lacks_edited (edits : List ConditionEdit) (conditions : List Condition) (t : ConditionType)
    (unset : ∀ e ∈ edits, e.type ≠ t ∨ e.lessens = true) (lacks : Lacks conditions t) : Lacks (edited edits conditions) t := by
  intro c held
  rcases find_edited_lessened edits conditions t unset with none | same
  · rw [none] at held
    cases held
  · exact lacks c (same.symm.trans held)

theorem lacks_iff (a : KnativeAdoption) (t : ConditionType) : Lacks a.status.conditions t ↔ standing a t = none := by
  unfold Lacks standing
  cases held : findStatusCondition a.status.conditions t with
  | none => simp
  | some c => simp

/-! The functions of the source as edits. -/

theorem clearConditionIfReason_edit (a : KnativeAdoption) (t : ConditionType) (reason : Reason) :
    clearConditionIfReason a t reason = a.withConditions ((ConditionEdit.clear t reason).apply a.status.conditions) := by
  unfold clearConditionIfReason
  rw [ConditionEdit.apply_clear]
  cases findStatusCondition a.status.conditions t with
  | none => rfl
  | some c =>
    dsimp only
    split <;> rfl

/-! What a condition says. -/

def told (a : KnativeAdoption) (t : ConditionType) : Option (ConditionStatus × Reason × String) :=
  (findStatusCondition a.status.conditions t).map (fun c => (c.status,c.reason,c.message))

theorem told_setCondition (a : KnativeAdoption) (t : ConditionType) (s : ConditionStatus) (reason : Reason) (msg : String) :
    told (setCondition a t s reason msg) = Function.update (told a) t (some (s,reason,msg)) := by
  funext u
  unfold told setCondition
  rw [KnativeAdoption.withConditions_conditions,find_set]
  by_cases here : u = t
  · subst here
    rw [if_pos rfl,Function.update_self]
    rfl
  · rw [if_neg here,Function.update_of_ne here]

theorem told_removeCondition (a : KnativeAdoption) (t : ConditionType) :
    told (removeCondition a t) = Function.update (told a) t none := by
  funext u
  unfold told removeCondition
  rw [KnativeAdoption.withConditions_conditions,find_remove]
  by_cases here : u = t
  · subst here
    rw [if_pos rfl,Function.update_self]
    rfl
  · rw [if_neg here,Function.update_of_ne here]

theorem told_clearConditionIfReason (a : KnativeAdoption) (t u : ConditionType) (reason : Reason) (other : u ≠ t) :
    told (clearConditionIfReason a t reason) u = told a u := by
  unfold clearConditionIfReason
  split
  · rfl
  · split
    · rw [told_removeCondition,Function.update_of_ne other]
    · rfl

theorem told_conditions (a b : KnativeAdoption) (same : b.status.conditions = a.status.conditions) : told b = told a := by
  funext t
  unfold told
  rw [same]

theorem told_recomputeReady (a : KnativeAdoption) (t : ConditionType) (other : t ≠ .ready) : told (recomputeReady a) t = told a t := by
  have set (s : ConditionStatus) (reason : Reason) (msg : String) : told (setReady a s reason msg) t = told a t := by
    rw [setReady,told_setCondition,Function.update_of_ne other]
  unfold recomputeReady
  split
  · split
    · exact set _ _ _
    · rfl
  · split
    · split <;> exact set _ _ _
    · exact set _ _ _

theorem standing_told (a b : KnativeAdoption) (t : ConditionType) (same : told a t = told b t) : standing a t = standing b t := by
  unfold told at same
  unfold standing
  cases left : findStatusCondition a.status.conditions t with
  | none =>
    rw [left] at same
    rw [Option.map_eq_none_iff.mp same.symm]
  | some x =>
    rw [left] at same
    obtain ⟨y,right,equal⟩ := Option.map_eq_some_iff.mp same.symm
    obtain ⟨status,reason,-⟩ : y.status = x.status ∧ y.reason = x.reason ∧ y.message = x.message := by simpa using equal
    rw [right]
    dsimp only
    rw [status,reason]

end Ifaas
