import Ifaas.Api
import Mathlib.Logic.Function.Basic

/-! The status conditions of a KnativeAdoption: how they are set, removed and
cleared, and how Ready is aggregated from the others. Every function here changes
the list of conditions and nothing else. -/
namespace Ifaas

def KnativeAdoption.withConditions (a : KnativeAdoption) (conditions : List Condition) : KnativeAdoption :=
  { a with status := { a.status with conditions := conditions } }

namespace KnativeAdoption
variable (a : KnativeAdoption) (conditions : List Condition)

@[simp] theorem withConditions_meta : (a.withConditions conditions).toObjectMeta = a.toObjectMeta := rfl
@[simp] theorem withConditions_spec : (a.withConditions conditions).spec = a.spec := rfl
@[simp] theorem withConditions_conditions : (a.withConditions conditions).status.conditions = conditions := rfl
@[simp] theorem withConditions_snapshot :
    (a.withConditions conditions).status.sourceSnapshot = a.status.sourceSnapshot := rfl
@[simp] theorem withConditions_probe :
    (a.withConditions conditions).status.lastScaleDownProbe = a.status.lastScaleDownProbe := rfl
@[simp] theorem withConditions_sourceName : sourceName (a.withConditions conditions) = sourceName a := rfl

end KnativeAdoption

/-- The first condition of a type, as `apimeta.FindStatusCondition`. -/
def findStatusCondition (conditions : List Condition) (t : ConditionType) : Option Condition :=
  conditions.find? (fun c => c.type = t)

/-- `apimeta.SetStatusCondition`: the first condition of the type is overwritten, a
missing one is appended. -/
def setStatusCondition (new : Condition) : List Condition → List Condition
  | [] => [new]
  | c::rest => if c.type = new.type then new::rest else c::setStatusCondition new rest

def removeStatusCondition (conditions : List Condition) (t : ConditionType) : List Condition :=
  conditions.filter (fun c => c.type ≠ t)

def setCondition (a : KnativeAdoption) (t : ConditionType) (s : ConditionStatus) (reason : Reason)
    (msg : String) : KnativeAdoption :=
  a.withConditions (setStatusCondition ⟨t,s,reason,msg,a.generation⟩ a.status.conditions)

def removeCondition (a : KnativeAdoption) (t : ConditionType) : KnativeAdoption :=
  a.withConditions (removeStatusCondition a.status.conditions t)

def clearConditionIfReason (a : KnativeAdoption) (t : ConditionType) (reason : Reason) : KnativeAdoption :=
  match findStatusCondition a.status.conditions t with
  | none => a
  | some c => if c.reason = reason then removeCondition a t else a

def setReady (a : KnativeAdoption) (s : ConditionStatus) (reason : Reason) (msg : String) : KnativeAdoption :=
  setCondition a .ready s reason msg

def isCondTrue (a : KnativeAdoption) (t : ConditionType) : Bool :=
  match findStatusCondition a.status.conditions t with
  | none => false
  | some c => c.status = .true

def trafficEnabled (a : KnativeAdoption) : Bool :=
  match a.spec.traffic with
  | none => false
  | some traffic => traffic.enabled

def readyAggregateFailures : List ConditionType :=
  [.degraded,.trafficDegraded,.translationDegraded,.serviceAdoptionRefused,.sourceMissing]

def readyAggregatePositives : List ConditionType := [.adopted,.serviceAdopted,.sourceQuiesced]

def requiredPositives (a : KnativeAdoption) : List ConditionType :=
  if trafficEnabled a then readyAggregatePositives++[.trafficReady] else readyAggregatePositives

def recomputeReady (a : KnativeAdoption) : KnativeAdoption :=
  match readyAggregateFailures.find? (isCondTrue a) with
  | some t =>
    match findStatusCondition a.status.conditions t with
    | some c => setReady a .false c.reason c.message
    | none => a
  | none =>
    match (requiredPositives a).find? (fun t => !isCondTrue a t) with
    | some t =>
      match findStatusCondition a.status.conditions t with
      | some c => setReady a .false c.reason c.message
      | none => setReady a .false .reconciling ("waiting for " ++ t.text)
    | none => setReady a .true .adopted "adoption complete"

/-- `b` is `a` with other conditions. -/
def SameButConditions (a b : KnativeAdoption) : Prop := ∃ conditions, b = a.withConditions conditions

theorem SameButConditions.refl (a : KnativeAdoption) : SameButConditions a a := ⟨a.status.conditions,rfl⟩

theorem SameButConditions.trans (a b c : KnativeAdoption) (first : SameButConditions a b)
    (second : SameButConditions b c) : SameButConditions a c := by
  obtain ⟨conditions,rfl⟩ := first
  obtain ⟨more,rfl⟩ := second
  exact ⟨more,rfl⟩

theorem sameButConditions_setCondition (a : KnativeAdoption) (t : ConditionType) (s : ConditionStatus)
    (reason : Reason) (msg : String) : SameButConditions a (setCondition a t s reason msg) := ⟨_,rfl⟩

theorem sameButConditions_clearConditionIfReason (a : KnativeAdoption) (t : ConditionType) (reason : Reason) :
    SameButConditions a (clearConditionIfReason a t reason) := by
  unfold clearConditionIfReason
  split
  · exact .refl a
  · split
    · exact ⟨_,rfl⟩
    · exact .refl a

theorem sameButConditions_recomputeReady (a : KnativeAdoption) : SameButConditions a (recomputeReady a) := by
  unfold recomputeReady
  split
  · split
    · exact ⟨_,rfl⟩
    · exact .refl a
  · split
    · split <;> exact ⟨_,rfl⟩
    · exact ⟨_,rfl⟩

/-! What stands in the conditions: the reason of each one that is True. -/

def standing (a : KnativeAdoption) (t : ConditionType) : Option Reason :=
  match findStatusCondition a.status.conditions t with
  | none => none
  | some c => if c.status = .true then some c.reason else none

/-- No failure condition is True and every required one is. -/
def complete (a : KnativeAdoption) : Bool :=
  readyAggregateFailures.all (fun t => (standing a t).isNone) && (requiredPositives a).all (fun t => (standing a t).isSome)

theorem isCondTrue_standing (a : KnativeAdoption) (t : ConditionType) : isCondTrue a t = (standing a t).isSome := by
  unfold isCondTrue standing
  split
  · rfl
  · split <;> simp_all

theorem find_set (new : Condition) (conditions : List Condition) (t : ConditionType) :
    findStatusCondition (setStatusCondition new conditions) t =
      if t = new.type then some new else findStatusCondition conditions t := by
  unfold findStatusCondition
  induction conditions with
  | nil =>
    by_cases here : new.type = t
    · simp [setStatusCondition,here]
    · simp [setStatusCondition,here,Ne.symm here]
  | cons c rest ih =>
    unfold setStatusCondition
    by_cases same : c.type = new.type
    · rw [if_pos same]
      by_cases here : new.type = t
      · simp [here]
      · simp [here,Ne.symm here,same]
    · rw [if_neg same]
      by_cases here : c.type = t
      · have other : t ≠ new.type := fun equal => same (here.trans equal)
        simp [here,other]
      · rw [List.find?_cons_of_neg (by simpa using here),List.find?_cons_of_neg (by simpa using here)]
        exact ih

theorem find_remove (conditions : List Condition) (removed t : ConditionType) :
    findStatusCondition (removeStatusCondition conditions removed) t =
      if t = removed then none else findStatusCondition conditions t := by
  unfold findStatusCondition removeStatusCondition
  rw [List.find?_filter]
  by_cases here : t = removed
  · subst here
    rw [if_pos rfl]
    refine List.find?_eq_none.mpr (fun c _ => ?_)
    by_cases same : c.type = t <;> simp [same]
  · rw [if_neg here]
    congr 1
    funext c
    by_cases same : c.type = t
    · simp [same,here]
    · simp [same]

theorem standing_setCondition (a : KnativeAdoption) (t : ConditionType) (s : ConditionStatus) (reason : Reason)
    (msg : String) : standing (setCondition a t s reason msg) =
      Function.update (standing a) t (if s = .true then some reason else none) := by
  funext u
  unfold standing setCondition
  rw [KnativeAdoption.withConditions_conditions,find_set]
  by_cases here : u = t
  · subst here
    rw [if_pos rfl,Function.update_self]
  · rw [if_neg here,Function.update_of_ne here]

theorem standing_removeCondition (a : KnativeAdoption) (t : ConditionType) :
    standing (removeCondition a t) = Function.update (standing a) t none := by
  funext u
  unfold standing removeCondition
  rw [KnativeAdoption.withConditions_conditions,find_remove]
  by_cases here : u = t
  · subst here
    rw [if_pos rfl,Function.update_self]
  · rw [if_neg here,Function.update_of_ne here]

theorem standing_clearConditionIfReason (a : KnativeAdoption) (t : ConditionType) (reason : Reason) :
    standing (clearConditionIfReason a t reason) =
      Function.update (standing a) t ((standing a t).filter (fun held => held ≠ reason)) := by
  have untouched (value : Option Reason) (same : value = standing a t) :
      standing a = Function.update (standing a) t value := by
    rw [same,Function.update_eq_self]
  unfold clearConditionIfReason
  split
  next missing =>
    refine untouched _ ?_
    simp [standing,missing]
  next c held =>
    split
    next same =>
      rw [standing_removeCondition]
      congr 1
      by_cases stands : c.status = .true <;> simp [standing,held,stands,same,Option.filter]
    next other =>
      refine untouched _ ?_
      by_cases stands : c.status = .true <;> simp [standing,held,stands,other]

theorem standing_conditions (a b : KnativeAdoption) (same : b.status.conditions = a.status.conditions) :
    standing b = standing a := by
  funext t
  unfold standing
  rw [same]

theorem complete_iff (a : KnativeAdoption) : complete a = true ↔
    standing a .degraded = none ∧ standing a .trafficDegraded = none ∧ standing a .translationDegraded = none ∧
    standing a .serviceAdoptionRefused = none ∧ standing a .sourceMissing = none ∧ standing a .adopted ≠ none ∧
    standing a .serviceAdopted ≠ none ∧ standing a .sourceQuiesced ≠ none ∧
    (trafficEnabled a = true → standing a .trafficReady ≠ none) := by
  have present (t : ConditionType) : (standing a t).isSome = true ↔ standing a t ≠ none := by
    rw [Option.isSome_iff_ne_none]
  unfold complete requiredPositives readyAggregateFailures readyAggregatePositives
  cases trafficEnabled a <;> simp [present,and_assoc]

theorem complete_of_failure (a : KnativeAdoption) (t : ConditionType) (failure : t ∈ readyAggregateFailures)
    (stands : standing a t ≠ none) : complete a = false := by
  refine Bool.and_eq_false_imp.mpr (fun clear => absurd (List.all_eq_true.mp clear t failure) ?_)
  simpa using stands

theorem complete_of_missing (a : KnativeAdoption) (t : ConditionType) (positive : t ∈ readyAggregatePositives)
    (missing : standing a t = none) : complete a = false := by
  have required : t ∈ requiredPositives a := by
    unfold requiredPositives
    split
    · exact List.mem_append_left _ positive
    · exact positive
  have waits : (requiredPositives a).all (fun t => (standing a t).isSome) = false :=
    List.all_eq_false.mpr ⟨t,required,by simp [missing]⟩
  unfold complete
  rw [waits,Bool.and_false]

/-- Ready is aggregated from what stands. -/
theorem recomputeReady_ready (a : KnativeAdoption) : isCondTrue (recomputeReady a) .ready = complete a := by
  have written (s : ConditionStatus) (reason : Reason) (msg : String) :
      isCondTrue (setReady a s reason msg) .ready = decide (s = .true) := by
    rw [isCondTrue_standing,setReady,standing_setCondition,Function.update_self]
    cases s <;> rfl
  have found (t : ConditionType) (stands : isCondTrue a t = true) :
      ∃ c, findStatusCondition a.status.conditions t = some c := by
    unfold isCondTrue at stands
    split at stands
    · cases stands
    next c held => exact ⟨c,held⟩
  unfold recomputeReady complete
  split
  next t failing =>
    obtain ⟨c,held⟩ := found t (List.find?_some failing)
    rw [held,written]
    have standsStill : (standing a t).isNone = false := by
      have stands := List.find?_some failing
      rw [isCondTrue_standing] at stands
      cases value : standing a t <;> simp_all
    have failed : readyAggregateFailures.all (fun t => (standing a t).isNone) = false :=
      List.all_eq_false.mpr ⟨t,List.mem_of_find?_eq_some failing,by simp [standsStill]⟩
    rw [failed]
    rfl
  next clear =>
    have fine : readyAggregateFailures.all (fun t => (standing a t).isNone) = true := by
      refine List.all_eq_true.mpr (fun t member => ?_)
      have absent := List.find?_eq_none.mp clear t member
      rw [isCondTrue_standing] at absent
      cases value : standing a t <;> simp_all
    rw [fine,Bool.true_and]
    split
    next t waiting =>
      have missing : (requiredPositives a).all (fun t => (standing a t).isSome) = false := by
        refine List.all_eq_false.mpr ⟨t,List.mem_of_find?_eq_some waiting,?_⟩
        have absent := List.find?_some waiting
        rw [isCondTrue_standing] at absent
        simpa using absent
      rw [missing]
      split <;> rw [written] <;> rfl
    next all =>
      rw [written]
      refine (List.all_eq_true.mpr (fun t member => ?_)).symm
      have stands := List.find?_eq_none.mp all t member
      rw [isCondTrue_standing] at stands
      cases value : standing a t <;> simp_all

end Ifaas
