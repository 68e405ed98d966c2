import Ifaas.Frame
import Ifaas.Snapshot

/-! The adoption in memory along the pipeline of a live pass: every stage leaves its
identity and its specification alone and writes the status only. -/
namespace Ifaas
open Library

/-- Same object: the status may differ. -/
structure SameObject (a b : KnativeAdoption) : Prop where
  metadata : b.toObjectMeta = a.toObjectMeta
  spec : b.spec = a.spec

theorem SameObject.refl (a : KnativeAdoption) : SameObject a a := ⟨rfl,rfl⟩

theorem SameObject.trans (a b c : KnativeAdoption) (first : SameObject a b) (second : SameObject b c) :
    SameObject a c :=
  ⟨second.metadata.trans first.metadata,second.spec.trans first.spec⟩

theorem SameObject.sourceName (a b : KnativeAdoption) (same : SameObject a b) : sourceName b = sourceName a := by
  unfold Ifaas.sourceName
  rw [same.spec,congrArg ObjectMeta.name same.metadata]

theorem SameLedger.object (a b : KnativeAdoption) (same : SameLedger a b) : SameObject a b := ⟨same.metadata,same.spec⟩

/-- Same object with the same conditions. -/
structure SameFace (a b : KnativeAdoption) : Prop extends SameObject a b where
  conditions : b.status.conditions = a.status.conditions

theorem SameFace.refl (a : KnativeAdoption) : SameFace a a := ⟨.refl a,rfl⟩

theorem SameFace.trans (a b c : KnativeAdoption) (first : SameFace a b) (second : SameFace b c) : SameFace a c :=
  ⟨SameObject.trans a b c first.toSameObject second.toSameObject,second.conditions.trans first.conditions⟩

theorem sameFace_snapshotTrafficOnce (kind : TrafficKind) (a : KnativeAdoption) (name : String) (body : Obj GoNumber) :
    SameFace a (snapshotTrafficOnce kind a name body).1 := by
  unfold snapshotTrafficOnce
  split
  · exact .refl a
  · dsimp only
    split
    · exact ⟨⟨rfl,rfl⟩,rfl⟩
    · split <;> exact ⟨⟨rfl,rfl⟩,rfl⟩

/-! How the adoption in memory moves. -/

/-- A relation the traffic stage moves along. -/
structure TrafficAlong (R : KnativeAdoption → KnativeAdoption → Prop) : Prop where
  refl : ∀ a, R a a
  trans : ∀ a b c, R a b → R b c → R a c
  once : ∀ kind a name body, R a (snapshotTrafficOnce kind a name body).1
  observed : ∀ a routes, R a (setObservedRoutes a routes)

/-- A relation every stage moves along. -/
structure Along (R : KnativeAdoption → KnativeAdoption → Prop) : Prop extends TrafficAlong R where
  ledger : ∀ a b, SameLedger a b → R a b
  service : ∀ a svc, R a (snapshotService a svc)
  replicas : ∀ a n, R a (snapshotReplicas a n)

theorem trafficAlong_sameFace : TrafficAlong SameFace where
  refl := SameFace.refl
  trans := SameFace.trans
  once := sameFace_snapshotTrafficOnce
  observed _ _ := ⟨⟨rfl,rfl⟩,rfl⟩

theorem along_sameObject : Along SameObject where
  refl := SameObject.refl
  trans := SameObject.trans
  once kind a name body := (sameFace_snapshotTrafficOnce kind a name body).toSameObject
  observed _ _ := ⟨rfl,rfl⟩
  ledger := SameLedger.object
  service _ _ := ⟨rfl,rfl⟩
  replicas a n := by
    unfold snapshotReplicas
    split <;> exact ⟨rfl,rfl⟩

/-- A relation that every single write of a stage moves along. -/
structure Moves (R : KnativeAdoption → KnativeAdoption → Prop) : Prop extends TrafficAlong R, GuardAlong R where
  located : ∀ a url, R a { a with status := { a.status with url := url } }
  service : ∀ a svc, R a (snapshotService a svc)
  replicas : ∀ a n, R a (snapshotReplicas a n)

theorem Along.moves {R : KnativeAdoption → KnativeAdoption → Prop} (along : Along R) : Moves R where
  toTrafficAlong := along.toTrafficAlong
  condition _ _ _ _ _ := along.ledger _ _ (sameLedger_setCondition _ _ _ _ _)
  removed _ _ := along.ledger _ _ (sameLedger_removeCondition _ _)
  probed _ _ := along.ledger _ _ (sameLedger_withProbe _ _)
  located _ _ := along.ledger _ _ ⟨rfl,rfl,rfl⟩
  service := along.service
  replicas := along.replicas

section Traffic
variable {R : KnativeAdoption → KnativeAdoption → Prop} (along : TrafficAlong R) (kind : TrafficKind)
include along

theorem returns_reconcileTrafficObject (rewrite : Obj GoNumber → Except ApiError (Obj GoNumber × Bool))
    (a : KnativeAdoption) (name : String) :
    (reconcileTrafficObject kind (snapshotTrafficOnce kind) rewrite a name).Returns (fun result => R a result.1) := by
  unfold reconcileTrafficObject
  refine Program.returns_bind _ (Program.returns_true _) (fun response _ => ?_)
  cases response with
  | error err => exact along.refl a
  | ok obj =>
    have same := along.once kind a name (obj.body.map Literal.read)
    dsimp only
    generalize snapshotTrafficOnce kind a name (obj.body.map Literal.read) = taken at same
    obtain ⟨b,outcome⟩ := taken
    cases outcome with
    | error err => exact same
    | ok done =>
      dsimp only
      split
      · exact same
      · exact same
      · refine Program.returns_bind _ (Program.returns_true _) (fun answer _ => ?_)
        cases answer <;> exact same

theorem returns_reconcileRefs (step : KnativeAdoption → String → Op (KnativeAdoption × Except ApiError Bool))
    (steps : ∀ a name, (step a name).Returns (fun result => R a result.1)) (names : List String)
    (a : KnativeAdoption) (observed : List ObservedRoute) (firstErr : Option ApiError) :
    (reconcileRefs kind step names a observed firstErr).Returns (fun result => R a result.1) := by
  have one (a : KnativeAdoption) (name : String) :
      (reconcileRef kind step a name).Returns (fun result => R a result.1) := by
    unfold reconcileRef
    split
    · exact along.refl a
    · refine Program.returns_bind _ (steps a name) (fun result same => ?_)
      obtain ⟨b,outcome⟩ := result
      cases outcome <;> exact same
  induction names generalizing a observed firstErr with
  | nil => exact along.refl a
  | cons name rest ih =>
    refine Program.returns_bind _ (one a name) (fun result same => ?_)
    refine Program.returns_mono _ _ _ (fun final kept => ?_) (ih result.1 _ _)
    exact along.trans _ _ _ same kept

theorem returns_reconcileTraffic (a : KnativeAdoption) : (reconcileTraffic a).Returns (fun result => R a result.1) := by
  unfold reconcileTraffic
  split
  · exact along.refl a
  · split
    · exact along.observed a _
    · refine Program.returns_bind _ (Program.returns_true _) (fun port _ => ?_)
      cases port with
      | error err => exact along.observed a _
      | ok target =>
        refine Program.returns_bind _ (returns_reconcileRefs along .virtualService _
          (fun b name => returns_reconcileTrafficObject along .virtualService _ b name) _ a [] none) (fun first same => ?_)
        refine Program.returns_bind _ (returns_reconcileRefs along .destinationRule _
          (fun b name => returns_reconcileTrafficObject along .destinationRule _ b name) _ first.1 _ _)
          (fun second kept => ?_)
        exact along.trans _ _ _ (along.trans _ _ _ same kept) (along.observed _ _)

end Traffic

section Stages
variable {R : KnativeAdoption → KnativeAdoption → Prop} (moves : Moves R)
include moves

theorem returns_swapService (a : KnativeAdoption) : (swapService a).Returns (fun result => R a result.1) := by
  have swapped (svc : Option Service) : (swapFound a svc).Returns (fun result => R a result.1) := by
    unfold swapFound
    split
    · exact moves.removed a _
    · exact moves.trans _ _ _ (moves.condition a _ _ _ _) (moves.condition _ _ _ _ _)
    · cases svc with
      | none => exact moves.refl a
      | some svc =>
        have recorded : R a (snapshotService (serviceSwapping a) svc) :=
          moves.trans _ _ _ (moves.trans _ _ _ (moves.removed a _) (moves.condition _ _ _ _ _)) (moves.service _ svc)
        refine Program.returns_bind (fun result => R a result.1) ?_ (fun result moved => ?_)
        · refine Program.returns_bind _ (Program.returns_true _) (fun response _ => ?_)
          cases response with
          | ok done => exact recorded
          | error err =>
            dsimp only
            split <;> exact recorded
        · obtain ⟨b,outcome⟩ := result
          cases outcome with
          | error err => exact moves.trans _ _ _ moved (moves.condition b _ _ _ _)
          | ok done => exact moved
  refine Program.returns_bind _ (Program.returns_true _) (fun response _ => ?_)
  cases response with
  | ok svc => exact swapped (some svc)
  | error err =>
    dsimp only
    split
    · exact swapped none
    · exact moves.refl a

theorem returns_adaptTraffic (a : KnativeAdoption) :
    (adaptTraffic a).Returns (fun result => R a (afterStage result)) := by
  unfold adaptTraffic
  split
  · refine Program.returns_bind _ (returns_reconcileTraffic moves.toTrafficAlong a) (fun result moved => ?_)
    obtain ⟨b,outcome⟩ := result
    cases outcome with
    | some err =>
      exact moves.trans _ _ _ (moves.trans _ _ _ (moves.trans _ _ _ moved (moves.condition b _ _ _ _))
        (moves.condition _ _ _ _ _)) (moves.condition _ _ _ _ _)
    | none =>
      exact moves.trans _ _ _ (moves.trans _ _ _ moved (moves.condition b _ _ _ _))
        (moves.toGuardAlong.cleared _ _ _)
  · exact moves.trans _ _ _ (moves.removed a _) (moves.removed _ _)

theorem returns_finishAdoption (a : KnativeAdoption) (dep : Deployment) :
    (finishAdoption a dep).Returns (fun done => R a done.adoption) := by
  refine Program.returns_bind (fun result => R a result.1) ?_ (fun result moved => ?_)
  · unfold quiesceSource
    split
    · exact moves.refl a
    · refine Program.returns_bind _ (Program.returns_true _) (fun answer _ => ?_)
      cases answer <;> exact moves.replicas a _
  · obtain ⟨b,_ | err⟩ := result
    · have finished : R a (setReady (setCondition b .sourceQuiesced .true .sourceQuiesced "Deployment scaled to 0") .true
          .adopted "adoption complete") :=
        moves.trans _ _ _ (moves.trans _ _ _ moved (moves.condition b _ _ _ _)) (moves.condition _ _ _ _ _)
      dsimp only
      split <;> exact finished
    · exact moves.trans _ _ _ (moves.trans _ _ _ moved (moves.condition b _ _ _ _)) (moves.condition _ _ _ _ _)

theorem returns_applyAdopted (r : KnativeAdoptionReconciler) (a : KnativeAdoption) (dep : Deployment) (ksvc : KService) :
    (applyAdopted r a dep ksvc).Returns (fun done => R a done.adoption) := by
  have awaits (b : KnativeAdoption) (owned : KService) (moved : R a b) :
      (awaitKService r b dep owned).Returns (fun done => R a done.adoption) := by
    refine Program.returns_bind _ (Program.returns_true _) (fun answer _ => ?_)
    cases answer with
    | error err => exact moved
    | ok live =>
      have located : R a { b with status := { b.status with url := (r.ready live).2 } } :=
        moves.trans _ _ _ moved (moves.located b _)
      dsimp only
      split
      · refine Program.returns_mono _ _ _ (fun done later => ?_) (returns_finishAdoption moves _ dep)
        exact moves.trans _ _ _ (moves.trans _ _ _ located (moves.condition _ _ _ _ _)) later
      · exact moves.trans _ _ _ (moves.trans _ _ _ located (moves.condition _ _ _ _ _)) (moves.condition _ _ _ _ _)
  unfold applyAdopted
  split
  · exact moves.refl a
  · refine Program.returns_bind _ (Program.returns_true _) (fun outcome _ => ?_)
    cases outcome with
    | error err =>
      exact moves.trans _ _ _ (moves.condition a _ _ _ _) (moves.condition _ _ _ _ _)
    | ok done =>
      exact awaits _ _ (moves.trans _ _ _ (moves.toGuardAlong.cleared a _ _)
        (moves.condition _ _ _ _ _))

/-- The whole pipeline moves moves the relation. -/
theorem returns_reconcileAdoption (r : KnativeAdoptionReconciler) (a : KnativeAdoption) :
    (reconcileAdoption r a).Returns (fun done => R a done.adoption) := by
  have missing : R a (sourceMissing a) :=
    moves.trans _ _ _ (moves.trans _ _ _ (moves.condition a _ _ _ _) (moves.condition _ _ _ _ _)) (moves.condition _ _ _ _ _)
  have refused (b : KnativeAdoption) (err : TranslateError) : R b (translationRefused b err) :=
    moves.trans _ _ _ (moves.trans _ _ _ (moves.condition b _ _ _ _) (moves.condition _ _ _ _ _)) (moves.condition _ _ _ _ _)
  refine Program.returns_bind _ (Program.returns_true _) (fun found _ => ?_)
  cases found with
  | error err => exact moves.condition a _ _ _ _
  | ok found =>
    cases found with
    | none => exact missing
    | some dep =>
      refine Program.returns_bind _ (returns_maybeRunGuard moves.toGuardAlong r _) (fun b same => ?_)
      have guarded : R a b := moves.trans _ _ _ (moves.removed a _) same
      cases translate dep b with
      | error err => exact moves.trans _ _ _ guarded (refused b err)
      | ok ksvc =>
        have ready : R a (removeCondition b .translationDegraded) :=
          moves.trans _ _ _ guarded (moves.removed b _)
        refine Program.returns_bind _ (returns_swapService moves _) (fun result swapped => ?_)
        obtain ⟨x,outcome⟩ := result
        have moved : R a x := moves.trans _ _ _ ready swapped
        cases outcome with
        | error err => exact moves.trans _ _ _ moved (moves.condition x _ _ _ _)
        | ok decision =>
          cases decision with
          | refused =>
            exact moves.trans _ _ _ (moves.trans _ _ _ moved (moves.condition x _ _ _ _)) (moves.condition _ _ _ _ _)
          | takenOver => exact moved
          | pass =>
            refine Program.returns_bind _ (returns_adaptTraffic moves x) (fun adapted later => ?_)
            have passed := moves.trans _ _ _ moved later
            cases adapted with
            | error ended => exact passed
            | ok next =>
              exact Program.returns_mono _ _ _ (fun done last => moves.trans _ _ _ passed last)
                (returns_applyAdopted moves r next dep ksvc)

end Stages

/-! The calls of a live pass. -/

def Request.ofTraffic : Request → Bool
  | .getService _ => true
  | .getTraffic _ => true
  | .patchTraffic _ _ => true
  | _ => false

section Traffic
variable (kind : TrafficKind)

theorem uses_reconcileTrafficObject (rewrite : Obj GoNumber → Except ApiError (Obj GoNumber × Bool))
    (a : KnativeAdoption) (name : String) :
    (reconcileTrafficObject kind (snapshotTrafficOnce kind) rewrite a name).Uses (fun r => r.ofTraffic = true) := by
  unfold reconcileTrafficObject
  refine Program.uses_bind ⟨rfl,fun _ => trivial⟩ (fun response => ?_)
  cases response with
  | error err => trivial
  | ok obj =>
    dsimp only
    split
    · trivial
    · split
      · trivial
      · trivial
      · refine Program.uses_bind ⟨rfl,fun _ => trivial⟩ (fun answer => ?_)
        cases answer <;> trivial

theorem uses_reconcileRefs (step : KnativeAdoption → String → Op (KnativeAdoption × Except ApiError Bool))
    (steps : ∀ a name, (step a name).Uses (fun r => r.ofTraffic = true)) (names : List String) (a : KnativeAdoption)
    (observed : List ObservedRoute) (firstErr : Option ApiError) :
    (reconcileRefs kind step names a observed firstErr).Uses (fun r => r.ofTraffic = true) := by
  induction names generalizing a observed firstErr with
  | nil => trivial
  | cons name rest ih =>
    refine Program.uses_bind ?_ (fun result => ih result.1 _ _)
    unfold reconcileRef
    split
    · trivial
    · refine Program.uses_bind (steps a name) (fun result => ?_)
      obtain ⟨b,outcome⟩ := result
      cases outcome <;> trivial

end Traffic

theorem uses_adaptTraffic (a : KnativeAdoption) : (adaptTraffic a).Uses (fun r => r.ofTraffic = true) := by
  have reconciled : (reconcileTraffic a).Uses (fun r => r.ofTraffic = true) := by
    unfold reconcileTraffic
    split
    · trivial
    · split
      · trivial
      · refine Program.uses_bind ?_ (fun port => ?_)
        · refine Program.uses_bind ⟨rfl,fun _ => trivial⟩ (fun response => ?_)
          cases response with
          | error err =>
            dsimp only
            split <;> trivial
          | ok svc => trivial
        · cases port with
          | error err => trivial
          | ok target =>
            refine Program.uses_bind (uses_reconcileRefs .virtualService _
              (fun b name => uses_reconcileTrafficObject .virtualService _ b name) _ a [] none) (fun first => ?_)
            refine Program.uses_bind (uses_reconcileRefs .destinationRule _
              (fun b name => uses_reconcileTrafficObject .destinationRule _ b name) _ first.1 _ _) (fun second => trivial)
  unfold adaptTraffic
  split
  · refine Program.uses_bind reconciled (fun result => ?_)
    obtain ⟨b,outcome⟩ := result
    cases outcome <;> trivial
  · trivial

/-- The calls of the stages, the guard and the apply apart. -/
def Request.ofStages : Request → Bool
  | .getService _ => true
  | .deleteService _ => true
  | .getTraffic _ => true
  | .patchTraffic _ _ => true
  | .getKService _ => true
  | .applyReplicas _ _ => true
  | _ => false

theorem Request.ofTraffic_stages (r : Request) (traffic : r.ofTraffic = true) : r.ofStages = true := by
  cases r with
  | getService key => rfl
  | getTraffic key => rfl
  | patchTraffic key patch => rfl
  | _ => cases traffic

/-- The reference with which an adoption owns its Knative Service. -/
def ownerReferenceOf (a : KnativeAdoption) : OwnerReference := ⟨"ifaas.ifbiu.com/v1alpha1","KnativeAdoption",a.name,a.uid,true⟩

theorem ownerReferenceOf_same (a b : KnativeAdoption) (same : b.toObjectMeta = a.toObjectMeta) :
    ownerReferenceOf b = ownerReferenceOf a := by
  unfold ownerReferenceOf
  rw [congrArg ObjectMeta.name same,congrArg ObjectMeta.uid same]

/-- No other controller owns the Knative Service. -/
def Sole (a : KnativeAdoption) (live : KService) : Prop :=
  ((Cluster.mergeOwners live.ownerReferences [ownerReferenceOf a]).filter (fun owner => owner.controller)).length ≤ 1

/-- What an adoption sends to be applied of a translated Knative Service. -/
structure Sends (a : KnativeAdoption) (ksvc sent : KService) : Prop where
  key : sent.key = ksvc.key
  template : sent.template = ksvc.template
  owner : sent.ownerReferences = [ownerReferenceOf a]

theorem uses_swapService (a : KnativeAdoption) : (swapService a).Uses (fun r => r.ofStages = true) := by
  have swapped (svc : Option Service) : (swapFound a svc).Uses (fun r => r.ofStages = true) := by
    unfold swapFound
    split
    · trivial
    · trivial
    · cases svc with
      | none => trivial
      | some svc =>
        refine Program.uses_bind (Program.uses_bind (Program.uses_request rfl) (fun response => ?_))
          (fun result => ?_)
        · cases response with
          | ok done => trivial
          | error err =>
            dsimp only
            split <;> trivial
        · obtain ⟨b,outcome⟩ := result
          cases outcome <;> trivial
  refine Program.uses_bind (Program.uses_request rfl) (fun response => ?_)
  cases response with
  | ok svc => exact swapped (some svc)
  | error err =>
    dsimp only
    split
    · exact swapped none
    · trivial

/-- The calls after the apply. -/
def Request.ofEnding : Request → Bool
  | .getKService _ => true
  | .applyReplicas _ _ => true
  | _ => false

theorem Request.ofEnding_stages (r : Request) (ending : r.ofEnding = true) : r.ofStages = true := by
  cases r with
  | getKService key => rfl
  | applyReplicas key replicas => rfl
  | _ => cases ending

theorem uses_awaitKService (r : KnativeAdoptionReconciler) (a : KnativeAdoption) (dep : Deployment) (ksvc : KService) :
    (awaitKService r a dep ksvc).Uses (fun r => r.ofEnding = true) := by
  have finishes (b : KnativeAdoption) : (finishAdoption b dep).Uses (fun r => r.ofEnding = true) := by
    refine Program.uses_bind ?_ (fun result => ?_)
    · unfold quiesceSource
      split
      · trivial
      · refine Program.uses_bind (Program.uses_request rfl) (fun answer => ?_)
        cases answer <;> trivial
    · obtain ⟨c,_ | err⟩ := result
      · dsimp only
        split <;> trivial
      · trivial
  refine Program.uses_bind (Program.uses_request rfl) (fun answer => ?_)
  cases answer with
  | error err => trivial
  | ok live =>
    dsimp only
    split
    · exact finishes _
    · trivial

section Calls
variable {allowed : Request → Prop} (stages : ∀ q, q.ofStages = true → allowed q) (r : KnativeAdoptionReconciler)
include stages

theorem uses_applyAdopted (a : KnativeAdoption) (dep : Deployment) (ksvc : KService)
    (applies : ∀ sent, Sends a ksvc sent → allowed (.applyKService sent)) : (applyAdopted r a dep ksvc).Uses allowed := by
  unfold applyAdopted setControllerReference
  split
  · trivial
  next owned held =>
    split at held
    · cases held
    · cases held
      refine Program.uses_bind (Program.uses_bind (Program.uses_request (applies _ ⟨rfl,rfl,rfl⟩))
        (fun response => ?_)) (fun outcome => ?_)
      · cases response <;> trivial
      · cases outcome with
        | error err => trivial
        | ok done =>
          exact Program.uses_mono _ _ _ (fun q ending => stages q (q.ofEnding_stages ending)) (uses_awaitKService r _ dep _)

theorem uses_adoptTranslated (a : KnativeAdoption) (dep : Deployment) (ksvc : KService)
    (applies : ∀ sent, Sends a ksvc sent → allowed (.applyKService sent)) : (adoptTranslated r a dep ksvc).Uses allowed := by
  unfold adoptTranslated
  refine Program.uses_bind_returns _ _ _ _ (Program.uses_mono _ _ _ stages (uses_swapService a))
    (returns_swapService along_sameObject.moves a) (fun result same => ?_)
  obtain ⟨b,outcome⟩ := result
  cases outcome with
  | error err => trivial
  | ok decision =>
    cases decision with
    | refused => trivial
    | takenOver => trivial
    | pass =>
      refine Program.uses_bind_returns _ _ _ _
        (Program.uses_mono _ _ _ (fun q traffic => stages q (q.ofTraffic_stages traffic)) (uses_adaptTraffic b))
        (returns_adaptTraffic along_sameObject.moves b) (fun adapted kept => ?_)
      cases adapted with
      | error ended => trivial
      | ok next =>
        have metadata : next.toObjectMeta = a.toObjectMeta := kept.metadata.trans same.metadata
        refine uses_applyAdopted stages r next dep ksvc (fun sent sends => applies sent ⟨sends.key,sends.template,?_⟩)
        rw [sends.owner,ownerReferenceOf_same a next metadata]

/-- The calls of the pipeline: the read of the source, the guard, the stages, and the apply. -/
theorem uses_reconcileAdoption (a : KnativeAdoption) (source : allowed (.getDeployment (sourceKey a)))
    (guard : ∀ q, GuardCall a q → allowed q)
    (applies : ∀ dep b ksvc sent, SameObject a b → translate dep b = .ok ksvc → Sends a ksvc sent →
      allowed (.applyKService sent)) : (reconcileAdoption r a).Uses allowed := by
  have guards (q : Request) (call : GuardCall (removeCondition a .sourceMissing) q) : allowed q := by
    cases call with
    | ksvc => exact guard _ .ksvc
    | pods => exact guard _ .pods
    | probe ns pod port path timeout => exact guard _ (.probe ns pod port path timeout)
    | enqueue desired reason enabled bit => exact guard _ (.enqueue desired reason enabled bit)
  refine Program.uses_bind (Program.uses_bind (Program.uses_request source) (fun response => ?_))
    (fun found => ?_)
  · cases response with
    | ok dep => trivial
    | error err =>
      dsimp only
      split <;> trivial
  · cases found with
    | error err => trivial
    | ok found =>
      cases found with
      | none => trivial
      | some dep =>
        refine Program.uses_bind_returns _ _ _ _ (Program.uses_mono _ _ _ guards (uses_maybeRunGuard r _))
          (returns_maybeRunGuard guardAlong_sameLedger r _) (fun b same => ?_)
        cases translated : translate dep b with
        | error err => trivial
        | ok ksvc =>
          have object : SameObject a b := ⟨same.metadata,same.spec⟩
          refine uses_adoptTranslated stages r _ dep ksvc (fun sent sends => applies dep b ksvc sent object translated
            ⟨sends.key,sends.template,sends.owner.trans ?_⟩)
          rw [ownerReferenceOf_same a (removeCondition b .translationDegraded) object.metadata]

end Calls

/-! What a live pass applies. -/

/-- The adoptions are left alone, and Knative Services are only applied, under one key and
owned by one adoption. -/
def AppliesOnly (uid : Nat) (key : NamespacedName) (r : Request) : Prop :=
  r.part ≠ some .adoptions ∧ (r.part = some .ksvcs → ∃ sent owner, r = .applyKService sent ∧ sent.key = key ∧
    sent.ownerReferences = [owner] ∧ owner.uid = uid)

theorem appliesOnly_stages (uid : Nat) (key : NamespacedName) (r : Request) (stage : r.ofStages = true) :
    AppliesOnly uid key r := by
  cases r with
  | getService key => exact ⟨nofun,nofun⟩
  | deleteService key => exact ⟨nofun,nofun⟩
  | getTraffic key => exact ⟨nofun,nofun⟩
  | patchTraffic key patch => exact ⟨nofun,nofun⟩
  | getKService key => exact ⟨nofun,nofun⟩
  | applyReplicas key replicas => exact ⟨nofun,nofun⟩
  | _ => cases stage

/-- A property that drift and the calls of a pipeline keep holds along the pipeline. -/
theorem ensures_reconcileAdoption_applies (env : Cluster → Cluster → Prop) (I : Cluster → CallLog → Prop)
    (r : KnativeAdoptionReconciler) (a : KnativeAdoption) (stable : ∀ c d log, env c d → I c log → I d log)
    (kept : ∀ c log fault request, AppliesOnly a.uid (sourceKey a) request → I c log →
      I (apiserver.serve fault c request).1 (log++[apiserver.event fault c request])) (c : Cluster) (log : CallLog)
    (start : I c log) : Ensures apiserver env I (reconcileAdoption r a) (fun _ => I) c log := by
  have source : Ensures apiserver env I (getSourceDeployment a)
      (fun found d past => I d past ∧ ∀ dep, found = .ok (some dep) → dep.key = sourceKey a) c log := by
    refine ensures_ask start (fun d fault moved => ?_)
    have read := kept d log fault (.getDeployment (sourceKey a)) ⟨nofun,nofun⟩ (stable _ _ _ moved start)
    cases answer : (apiserver.serve fault d (.getDeployment (sourceKey a))).2 with
    | error err =>
      rw [show (apiserver.serve fault d (.getDeployment ⟨a.ns,sourceName a⟩)).2 = .error err from answer]
      dsimp only
      split <;> exact ensures_pure read ⟨read,fun _ equal => by cases equal⟩
    | ok dep =>
      rw [show (apiserver.serve fault d (.getDeployment ⟨a.ns,sourceName a⟩)).2 = .ok dep from answer]
      refine ensures_pure read ⟨read,fun other equal => ?_⟩
      cases equal
      exact d.deployments.keyed _ _ (getDeployment_ok answer)
  unfold reconcileAdoption
  refine ensures_bind (ensures_mono source ?_)
  rintro found d calls _ ⟨inv,filed⟩
  refine ensures_uses _ stable kept _ ?_ d _ inv
  cases found with
  | error err => trivial
  | ok found =>
    cases found with
    | none => trivial
    | some dep =>
      refine Program.uses_bind_returns _ _ _ _ (Program.uses_mono _ _ _ (fun q call => ?_) (uses_maybeRunGuard r _))
        (returns_maybeRunGuard guardAlong_sameLedger r _) (fun b same => ?_)
      · exact ⟨by simp [call.reads],by simp [call.reads]⟩
      cases translated : translate dep b with
      | error err => trivial
      | ok ksvc =>
        have uid : (removeCondition b .translationDegraded).uid = a.uid := congrArg ObjectMeta.uid same.metadata
        have key : ksvc.key = sourceKey a := (translate_key dep b ksvc translated).trans (filed dep rfl)
        refine uses_adoptTranslated (fun q stage => appliesOnly_stages a.uid (sourceKey a) q stage) r _ dep ksvc
          (fun sent sends => ⟨nofun,fun _ => ⟨sent,_,rfl,sends.key.trans key,sends.owner,uid⟩⟩)

end Ifaas
