import Ifaas.Renewal

/-! The status patch at the end of a live pass. It is left out when the two statuses compare
equal, and the comparison looks at a part of them: of the Service snapshot it sees whether
there is one, of a condition everything but the generation it was observed at. What a pass
can do to a status decides what a skipped patch loses. -/
namespace Ifaas
open Library

def snapshotOfService (a : KnativeAdoption) : Option ServiceSpec :=
  a.status.sourceSnapshot.bind (fun snapshot => snapshot.service)

/-- The conditions of a type, of which the first is the one in force. -/
def ofType (t : ConditionType) (conditions : List Condition) : List Condition := conditions.filter (fun c => c.type = t)

theorem head_ofType (t : ConditionType) (conditions : List Condition) :
    (ofType t conditions).head? = findStatusCondition conditions t := List.head?_filter

theorem ofType_set (new : Condition) (conditions : List Condition) (t : ConditionType) :
    ofType t (setStatusCondition new conditions) =
      if t = new.type then new::(ofType t conditions).tail else ofType t conditions := by
  unfold ofType
  induction conditions with
  | nil =>
    by_cases here : new.type = t
    · simp [setStatusCondition,here]
    · simp [setStatusCondition,here,Ne.symm here]
  | cons first rest ih =>
    unfold setStatusCondition
    by_cases same : first.type = new.type
    · rw [if_pos same]
      by_cases here : new.type = t
      · simp [same,here]
      · simp [same,here,Ne.symm here]
    · rw [if_neg same]
      by_cases here : first.type = t
      · have other : t ≠ new.type := fun equal => same (here.trans equal)
        rw [if_neg other] at ih ⊢
        simp [here,ih]
      · rw [List.filter_cons_of_neg (by simpa using here),List.filter_cons_of_neg (by simpa using here)]
        exact ih

theorem ofType_remove (conditions : List Condition) (removed t : ConditionType) :
    ofType t (removeStatusCondition conditions removed) = if t = removed then [] else ofType t conditions := by
  unfold ofType removeStatusCondition
  rw [List.filter_filter]
  by_cases here : t = removed
  · subst here
    rw [if_pos rfl]
    refine List.filter_eq_nil_iff.mpr (fun c _ => ?_)
    by_cases same : c.type = t <;> simp [same]
  · rw [if_neg here]
    congr 1
    funext c
    by_cases same : c.type = t
    · simp [same,here]
    · simp [same]

/-- What a stage makes of an adoption in memory: a recorded Service stays, and of the conditions
that are not in force none is changed or added. -/
structure Refreshed (a b : KnativeAdoption) : Prop where
  generation : b.generation = a.generation
  shadowed : ∀ t, (ofType t b.status.conditions).tail = (ofType t a.status.conditions).tail ∨
    (ofType t b.status.conditions).tail = []
  service : ∀ spec, snapshotOfService a = some spec → snapshotOfService b = some spec

theorem Refreshed.refl (a : KnativeAdoption) : Refreshed a a := ⟨rfl,fun _ => Or.inl rfl,fun _ held => held⟩

theorem Refreshed.trans (a b c : KnativeAdoption) (first : Refreshed a b) (second : Refreshed b c) : Refreshed a c := by
  refine ⟨second.generation.trans first.generation,fun t => ?_,fun spec held => second.service spec (first.service spec held)⟩
  rcases second.shadowed t with same | none
  · rw [same]
    exact first.shadowed t
  · exact Or.inr none

/-- A stage that leaves the conditions and the recorded Service alone. -/
theorem Refreshed.of_same (a b : KnativeAdoption) (generation : b.generation = a.generation)
    (conditions : b.status.conditions = a.status.conditions)
    (service : ∀ spec, snapshotOfService a = some spec → snapshotOfService b = some spec) : Refreshed a b :=
  ⟨generation,fun t => Or.inl (by rw [conditions]),service⟩

theorem snapshotOfService_withSnapshot (a : KnativeAdoption) (f : SourceSnapshot → SourceSnapshot)
    (keeps : ∀ snapshot, (f snapshot).service = snapshot.service) : snapshotOfService (a.withSnapshot f) = snapshotOfService a := by
  unfold snapshotOfService
  rw [withSnapshot_snapshot,Option.bind_some,keeps]
  cases a.status.sourceSnapshot <;> rfl

theorem snapshotOfService_once (kind : TrafficKind) (a : KnativeAdoption) (name : String) (body : Obj GoNumber) :
    snapshotOfService (snapshotTrafficOnce kind a name body).1 = snapshotOfService a := by
  have ensured : snapshotOfService (ensureTrafficSnapshot a) = snapshotOfService a :=
    snapshotOfService_withSnapshot a _ (fun _ => rfl)
  unfold snapshotTrafficOnce
  split
  · rfl
  · dsimp only
    split
    · exact ensured
    · split
      · exact ensured
      · exact (snapshotOfService_withSnapshot _ _ (fun _ => rfl)).trans ensured

theorem moves_refreshed : Moves Refreshed where
  refl := Refreshed.refl
  trans := Refreshed.trans
  once kind a name body := by
    have same := sameFace_snapshotTrafficOnce kind a name body
    exact .of_same _ _ (congrArg ObjectMeta.generation same.metadata) same.conditions
      (fun spec held => (snapshotOfService_once kind a name body).trans held)
  observed a _ := .of_same a _ rfl rfl (fun _ held => held)
  condition a t s reason msg := by
    refine ⟨rfl,fun u => Or.inl ?_,fun _ held => held⟩
    change (ofType u (setStatusCondition _ _)).tail = _
    rw [ofType_set]
    split <;> rfl
  removed a t := by
    refine ⟨rfl,fun u => ?_,fun _ held => held⟩
    change (ofType u (removeStatusCondition _ _)).tail = _ ∨ (ofType u (removeStatusCondition _ _)).tail = []
    rw [ofType_remove]
    split
    · exact Or.inr rfl
    · exact Or.inl rfl
  probed a _ := .of_same a _ rfl rfl (fun _ held => held)
  located a _ := .of_same a _ rfl rfl (fun _ held => held)
  service a svc := by
    refine .of_same a _ rfl rfl (fun spec held => ?_)
    unfold snapshotOfService at held ⊢
    cases before : a.status.sourceSnapshot with
    | none => simp [before] at held
    | some snapshot =>
      rw [before] at held
      have recorded : snapshot.service = some spec := held
      simp [snapshotService,before,recorded]
  replicas a n := by
    unfold snapshotReplicas
    split
    · exact .refl a
    · exact .of_same a _ rfl rfl (fun spec held => (snapshotOfService_withSnapshot a _ (fun _ => rfl)).trans held)

theorem recomputeReady_sets (a : KnativeAdoption) : ∃ s reason msg, recomputeReady a = setReady a s reason msg := by
  unfold recomputeReady
  split
  next t failing =>
    have stands : isCondTrue a t = true := List.find?_some failing
    split
    · exact ⟨_,_,_,rfl⟩
    next missing => simp [isCondTrue,missing] at stands
  · split
    · split <;> exact ⟨_,_,_,rfl⟩
    · exact ⟨_,_,_,rfl⟩

/-! What the comparison sees. -/

theorem conditionEqual_type (x y : Condition) (equal : conditionEqual x y = true) : y.type = x.type := by
  simp only [conditionEqual,Bool.and_eq_true,decide_eq_true_eq] at equal
  exact equal.1.1.1.symm

theorem conditionsEqual_ofType (xs ys : List Condition) (equal : conditionsEqual xs ys = true) (t : ConditionType) :
    conditionsEqual (ofType t xs) (ofType t ys) = true := by
  unfold ofType
  induction xs generalizing ys with
  | nil =>
    cases ys with
    | nil => rfl
    | cons y ys => cases equal
  | cons x xs ih =>
    cases ys with
    | nil => cases equal
    | cons y ys =>
      obtain ⟨first,rest⟩ := Bool.and_eq_true_iff.mp equal
      have type := conditionEqual_type x y first
      by_cases here : x.type = t
      · rw [List.filter_cons_of_pos (by simpa using here),List.filter_cons_of_pos (by simpa [type] using here)]
        exact Bool.and_eq_true_iff.mpr ⟨first,ih ys rest⟩
      · rw [List.filter_cons_of_neg (by simpa using here),List.filter_cons_of_neg (by simpa [type] using here)]
        exact ih ys rest

/-- Lists that compare equal are equal when they are type by type. -/
theorem conditions_of_types (xs ys : List Condition) (equal : conditionsEqual xs ys = true)
    (same : ∀ t, ofType t ys = ofType t xs) : ys = xs := by
  unfold ofType at same
  induction xs generalizing ys with
  | nil =>
    cases ys with
    | nil => rfl
    | cons y ys => cases equal
  | cons x xs ih =>
    cases ys with
    | nil => cases equal
    | cons y ys =>
      obtain ⟨first,rest⟩ := Bool.and_eq_true_iff.mp equal
      have type := conditionEqual_type x y first
      have head := same x.type
      rw [List.filter_cons_of_pos (by simp [type]),List.filter_cons_of_pos (by simp)] at head
      obtain ⟨rfl,-⟩ := List.cons.inj head
      refine congrArg (y::·) (ih ys rest (fun t => ?_))
      have here := same t
      by_cases own : y.type = t
      · rw [List.filter_cons_of_pos (by simpa using own),List.filter_cons_of_pos (by simpa using own)] at here
        exact (List.cons.inj here).2
      · rw [List.filter_cons_of_neg (by simpa using own),List.filter_cons_of_neg (by simpa using own)] at here
        exact here

/-- Of one type the first decides, as the others are kept or gone. -/
theorem ofType_of_first (xs ys : List Condition) (equal : conditionsEqual xs ys = true) (first : ys.head? = xs.head?)
    (shadowed : ys.tail = xs.tail ∨ ys.tail = []) : ys = xs := by
  cases xs with
  | nil =>
    cases ys with
    | nil => rfl
    | cons y ys => cases first
  | cons x xs =>
    cases ys with
    | nil => cases first
    | cons y ys =>
      cases first
      rcases shadowed with same | none
      · exact congrArg (x::·) same
      · have gone : ys = [] := none
        subst gone
        cases xs with
        | nil => rfl
        | cons z zs =>
          obtain ⟨-,rest⟩ := Bool.and_eq_true_iff.mp equal
          cases rest

theorem condition_of_generation (x y : Condition) (equal : conditionEqual x y = true)
    (same : y.observedGeneration = x.observedGeneration) : y = x := by
  simp only [conditionEqual,Bool.and_eq_true,decide_eq_true_eq] at equal
  obtain ⟨⟨⟨type,status⟩,reason⟩,message⟩ := equal
  cases x
  cases y
  simp_all

/-- Conditions that compare equal are equal exactly if what was set again carries the generation. -/
theorem Stamped.conditions_iff {types : List ConditionType} {a b : KnativeAdoption} (stamped : Stamped types a b)
    (shadowed : ∀ t, (ofType t b.status.conditions).tail = (ofType t a.status.conditions).tail ∨
      (ofType t b.status.conditions).tail = [])
    (equal : conditionsEqual a.status.conditions b.status.conditions = true) :
    b.status.conditions = a.status.conditions ↔
      ∀ t ∈ types, ∀ c, findStatusCondition a.status.conditions t = some c → c.observedGeneration = a.generation := by
  constructor
  · intro same t member c held
    obtain ⟨set,found,generation⟩ := stamped.set t member
    rw [same,held] at found
    cases found
    exact generation
  · intro current
    refine conditions_of_types _ _ equal (fun t => ?_)
    have pairs := conditionsEqual_ofType _ _ equal t
    refine ofType_of_first _ _ pairs ?_ (shadowed t)
    by_cases member : t ∈ types
    · obtain ⟨set,found,generation⟩ := stamped.set t member
      rw [← head_ofType] at found
      cases xs : ofType t a.status.conditions with
      | nil =>
        cases ys : ofType t b.status.conditions with
        | nil => rfl
        | cons y ys' => rw [xs,ys] at pairs; cases pairs
      | cons x xs' =>
        cases ys : ofType t b.status.conditions with
        | nil => rw [xs,ys] at pairs; cases pairs
        | cons y ys' =>
          rw [xs,ys] at pairs
          rw [ys] at found
          cases found
          have held : findStatusCondition a.status.conditions t = some x := by rw [← head_ofType,xs]; rfl
          refine congrArg some (condition_of_generation x set (Bool.and_eq_true_iff.mp pairs).1 ?_)
          exact generation.trans (current t member x held).symm
    · rw [head_ofType,head_ofType]
      refine (stamped.kept t member).elim id (fun gone => ?_)
      rw [← head_ofType] at gone ⊢
      have none : ofType t b.status.conditions = [] := List.head?_eq_none_iff.mp gone
      rw [none] at pairs
      cases xs : ofType t a.status.conditions with
      | nil => rw [gone,← head_ofType,xs]; rfl
      | cons x xs' => rw [xs] at pairs; cases pairs

/-- Two snapshots that compare equal are equal when the recorded Service stayed. -/
theorem snapshot_of_equal (before after : Option SourceSnapshot) (equal : sourceSnapshotEqual before after = true)
    (kept : ∀ spec, before.bind (fun s => s.service) = some spec → after.bind (fun s => s.service) = some spec) :
    after = before := by
  cases before with
  | none =>
    cases after with
    | none => rfl
    | some y => cases equal
  | some x =>
    cases after with
    | none => cases equal
    | some y =>
      simp only [sourceSnapshotEqual,Bool.and_eq_true,decide_eq_true_eq] at equal
      obtain ⟨⟨replicas,present⟩,traffic⟩ := equal
      have service : y.service = x.service := by
        cases recorded : x.service with
        | none =>
          rw [recorded] at present
          simpa using present.symm
        | some spec => exact kept spec recorded
      have items : y.traffic = x.traffic := by
        cases old : x.traffic with
        | none =>
          cases new : y.traffic with
          | none => rfl
          | some t => simp [old,new,trafficSnapshotEqual] at traffic
        | some t =>
          cases new : y.traffic with
          | none => simp [old,new,trafficSnapshotEqual] at traffic
          | some u =>
            simp only [old,new,trafficSnapshotEqual,Bool.and_eq_true,decide_eq_true_eq] at traffic
            obtain ⟨services,rules⟩ := traffic
            cases t
            cases u
            simp_all
      cases x
      cases y
      simp_all

/-- No patch is sent for a status that compares equal. Of the conditions the generations are all that
can be lost with it: nothing is lost exactly if each stored condition that the pass set again had
been observed at the generation of the object. -/
structure SkipLoses (r : KnativeAdoptionReconciler) (a : KnativeAdoption) (log : CallLog) (current : KnativeAdoption) : Prop where
  silent : patchStatus a current = pure (.ok ())
  rest : current.status = { a.status with conditions := current.status.conditions }
  generations : current.status = a.status ↔ ∀ t ∈ .ready::renewed r a log,
    ∀ c, findStatusCondition a.status.conditions t = some c → c.observedGeneration = a.generation

/-- A pass that skips its status patch loses the generations of the conditions it set again,
and nothing else. -/
theorem status_skip_iff (r : KnativeAdoptionReconciler) (a : KnativeAdoption) (drift : Cluster → Cluster → Prop)
    (c d : Cluster) (log : CallLog) (done : Reconciled) (run : Run apiserver drift (reconcileAdoption r a) c log (some done) d)
    (skipped : statusEqual a (recomputeReady done.adoption) = true) : SkipLoses r a log (recomputeReady done.adoption) := by
  have moved : Refreshed a done.adoption := run_returns (returns_reconcileAdoption moves_refreshed r a) run
  obtain ⟨types,stamped,same⟩ := run_reconcileAdoption_stamps r a c d log done run
  obtain ⟨s,reason,msg,aggregated⟩ := recomputeReady_sets done.adoption
  have refreshed : Refreshed a (recomputeReady done.adoption) := by
    rw [aggregated]
    exact Refreshed.trans _ _ _ moved (moves_refreshed.condition _ _ _ _ _)
  have final : Stamped (.ready::types) a (recomputeReady done.adoption) := by
    rw [aggregated]
    exact stamped_setReady stamped _ _ _
  generalize recomputeReady done.adoption = current at *
  have silent : patchStatus a current = pure (.ok ()) := if_pos skipped
  simp only [statusEqual,Bool.and_eq_true,decide_eq_true_eq] at skipped
  obtain ⟨⟨⟨⟨url,snapshot⟩,probe⟩,traffic⟩,conditions⟩ := skipped
  have sources := snapshot_of_equal _ _ snapshot refreshed.service
  have rest : current.status = { a.status with conditions := current.status.conditions } := by
    generalize current.status = after at *
    generalize a.status = before at *
    cases before
    cases after
    simp_all
  have decides : current.status = a.status ↔ current.status.conditions = a.status.conditions := by
    constructor
    · intro equal
      rw [equal]
    · intro equal
      rw [rest,equal]
  refine ⟨silent,rest,decides.trans ((final.conditions_iff refreshed.shadowed conditions).trans ?_)⟩
  refine forall_congr' (fun t => imp_congr_left ?_)
  by_cases ready : t = .ready
  · simp [ready]
  · simp [ready,same t ready]

namespace Sample

/-- The source is gone and a pass has said so. -/
def sourceless : Cluster :=
  (apiserver.exec pass (List.replicate 4 .none) { cluster with deployments := .ofList [] }).2.2

/-- Then the specification is edited. -/
def edited : KnativeAdoption :=
  let told := (sourceless.adoptions.get adoption.key).getD adoption
  { told with generation := told.generation+1 }

/-- The source is gone, and this is the only adoption. -/
def sourcelessWith (a : KnativeAdoption) : Cluster := { sourceless with adoptions := .ofList [a] }

def sourcelessPass (a : KnativeAdoption) : CallLog × Option Reconciled × Cluster :=
  apiserver.exec (reconcileAdoption reconciler a) [.none] (sourcelessWith a)

/-- The source is gone and a pass over the edited specification has said so; what the guard said
is of before. -/
def retold : KnativeAdoption :=
  edited.withConditions (edited.status.conditions.map (fun c => { c with observedGeneration := edited.generation })++
    [⟨.scaleDownAllowed,.true,.scaleDownAllowed,"",1⟩])

/-- The whole pass over the edited adoption. -/
def editedPass : CallLog × Option (Result × Option ApiError) × Cluster :=
  apiserver.exec pass (List.replicate 4 .none) (sourcelessWith edited)

end Sample

theorem status_skip_sample :
    ∃ done, (Sample.sourcelessPass Sample.retold).2.1 = some done ∧
      Sample.retold.status.conditions.any (fun c => c.observedGeneration ≠ Sample.retold.generation) = true ∧
      (recomputeReady done.adoption).status = Sample.retold.status := by
  have skipped : (Sample.sourcelessPass Sample.retold).2.1.any
      (fun done => statusEqual Sample.retold (recomputeReady done.adoption)) = true := by decide +kernel
  obtain ⟨done,ended,equal⟩ := (Option.any_eq_true _ _).mp skipped
  refine ⟨done,ended,by decide +kernel,?_⟩
  have run : Run apiserver Drift (reconcileAdoption Sample.reconciler Sample.retold) (Sample.sourcelessWith Sample.retold)
      (Sample.sourcelessPass Sample.retold).1 (some done) (Sample.sourcelessPass Sample.retold).2.2 := by
    rw [← ended]
    exact run_exec apiserver Drift Drift.refl _ _ _
  have current : ∀ t ∈ .ready::renewed Sample.reconciler Sample.retold (Sample.sourcelessPass Sample.retold).1,
      (findStatusCondition Sample.retold.status.conditions t).all (fun c => c.observedGeneration = Sample.retold.generation) =
        true := by decide +kernel
  refine (status_skip_iff Sample.reconciler Sample.retold Drift _ _ _ done run equal).generations.mpr
    (fun t member c held => ?_)
  have here := current t member
  rw [held] at here
  exact of_decide_eq_true here

/-- The conditions of the edited adoption are written again for its new generation, and stay as
they were in the cluster. -/
theorem generations_lost :
    (Sample.sourcelessPass Sample.edited).2.1.any (fun done => done.err.isNone &&
        statusEqual Sample.edited (recomputeReady done.adoption) &&
        decide ((recomputeReady done.adoption).status ≠ Sample.edited.status) &&
        (recomputeReady done.adoption).status.conditions.all (fun c => c.observedGeneration = 2)) = true ∧
      Sample.edited.generation = 2 ∧
      Sample.editedPass.2.1.any (fun out => out.2.isNone) = true ∧
      (Sample.editedPass.2.2.adoptions.get Sample.adoption.key).any (fun st =>
        !st.status.conditions.isEmpty && st.status.conditions.all (fun c => c.observedGeneration = 1)) = true := by
  decide +kernel

end Ifaas
