import Ifaas.Restore
import Ifaas.ScaleDownGuard

/-! The adoption controller: one `reconcile` pass over a KnativeAdoption, from reading
it to the status patch at the end. -/
namespace Ifaas
open Library

def requeueAfterKSvcPending : Int := 10

def requeueAfterSourceMissing : Int := 30

def requeueAfterServiceSwap : Int := 1

/-! Comparison of statuses; times, generations and the content of the Service
snapshot are not compared. -/

def trafficSnapshotEqual : Option TrafficSnapshot → Option TrafficSnapshot → Bool
  | none,none => true
  | some a,some b => a.virtualServices = b.virtualServices && a.destinationRules = b.destinationRules
  | _,_ => false

def sourceSnapshotEqual : Option SourceSnapshot → Option SourceSnapshot → Bool
  | none,none => true
  | some a,some b =>
    a.replicas = b.replicas && a.service.isSome = b.service.isSome && trafficSnapshotEqual a.traffic b.traffic
  | _,_ => false

def conditionEqual (x y : Condition) : Bool :=
  x.type = y.type && x.status = y.status && x.reason = y.reason && x.message = y.message

def conditionsEqual : List Condition → List Condition → Bool
  | [],[] => true
  | x::xs,y::ys => conditionEqual x y && conditionsEqual xs ys
  | _,_ => false

def statusEqual (a b : KnativeAdoption) : Bool :=
  a.status.url = b.status.url &&
  sourceSnapshotEqual a.status.sourceSnapshot b.status.sourceSnapshot &&
  a.status.lastScaleDownProbe = b.status.lastScaleDownProbe &&
  a.status.traffic = b.status.traffic &&
  conditionsEqual a.status.conditions b.status.conditions

def patchStatus (original current : KnativeAdoption) : Op (Except ApiError Unit) := do
  if statusEqual original current then return .ok ()
  else Client.patchStatus original current

/-! The stages of an adoption pass. -/

def knativeServiceReady (ksvc : KService) : Bool × String :=
  let ready :=
    match ksvc.status.conditions.find? (fun c => c.type = "Ready") with
    | some c => c.status = .true
    | none => false
  (ready,ksvc.status.url.getD "")

def KnativeAdoptionReconciler.ready (r : KnativeAdoptionReconciler) : KService → Bool × String :=
  r.serviceReady.getD knativeServiceReady

def getSourceDeployment (a : KnativeAdoption) : Op (Except ApiError (Option Deployment)) := do
  match ← Client.getDeployment ⟨a.ns,sourceName a⟩ with
  | .error err => if err.isNotFound then return .ok none else return .error err
  | .ok dep => return .ok (some dep)

def maybeRunGuard (r : KnativeAdoptionReconciler) (a : KnativeAdoption) : Op KnativeAdoption := do
  if !guardEnabled a then return a
  else
    match ← Client.getKService a.key with
    | .error _ => return a
    | .ok prev =>
      if (r.ready prev).1 then
        let (a,_,_) ← runScaleDownGuard r a
        return a
      else return a

/-- The replicas a Deployment asks for; one where the field is not set. -/
def DeploymentSpec.effectiveReplicas (spec : DeploymentSpec) : Int := spec.replicas.getD 1

/-- Record the replicas unless a number is recorded already. -/
def snapshotReplicas (a : KnativeAdoption) (current : Int) : KnativeAdoption :=
  match a.status.sourceSnapshot.bind (fun snapshot => snapshot.replicas) with
  | some _ => a
  | none => a.withSnapshot (fun snapshot => { snapshot with replicas := some current })

def quiesceSource (a : KnativeAdoption) (dep : Deployment) : Op (KnativeAdoption × Option ApiError) := do
  if dep.spec.effectiveReplicas = 0 then return (a,none)
  else
    let a := snapshotReplicas a dep.spec.effectiveReplicas
    match ← Client.applyReplicas dep.key 0 with
    | .error err => return (a,some (err.wrap "scale deployment to zero"))
    | .ok _ => return (a,none)

def setControllerReference (a : KnativeAdoption) (ksvc : KService) : Except ApiError KService :=
  if a.ns ≠ ksvc.ns then
    .error (.text ("cross-namespace owner references are disallowed, owner's namespace " ++ a.ns ++
      ", obj's namespace " ++ ksvc.ns))
  else .ok { ksvc with
    ownerReferences := [⟨"ifaas.ifbiu.com/v1alpha1","KnativeAdoption",a.name,a.uid,true⟩] }

def applyKnativeService (ksvc : KService) : Op (Except ApiError Unit) := do
  match ← Client.applyKService ksvc with
  | .error err => return .error (err.wrap "ssa knative service")
  | .ok _ => return .ok ()

/-- Scale the source down and finish the pass. -/
def finishAdoption (a : KnativeAdoption) (dep : Deployment) : Op Reconciled := do
  match ← quiesceSource a dep with
  | (a,some err) =>
    let a := setCondition a .sourceQuiesced .false .sourceScaleFailed err.message
    return { adoption := setReady a .false .sourceScaleFailed err.message, err := some err }
  | (a,none) =>
    let a := setCondition a .sourceQuiesced .true .sourceQuiesced "Deployment scaled to 0"
    let a := setReady a .true .adopted "adoption complete"
    if guardEnabled a then return { adoption := a, result := ⟨guardRequeueAfter a⟩ }
    else return { adoption := a }

/-- Read the applied Knative Service back and wait for it to be ready. -/
def awaitKService (r : KnativeAdoptionReconciler) (a : KnativeAdoption) (dep : Deployment) (ksvc : KService) :
    Op Reconciled := do
  match ← Client.getKService ksvc.key with
  | .error err => return { adoption := a, err := some (err.wrap "read back ksvc") }
  | .ok live =>
    let a := { a with status := { a.status with url := (r.ready live).2 } }
    if (r.ready live).1 then
      finishAdoption (setCondition a .serviceAdopted .true .knativeServiceReady "KSvc Ready") dep
    else
      let a := setCondition a .serviceAdopted .false .knativeServiceNotReady "waiting for KSvc Ready"
      return { adoption := setReady a .false .knativeServiceNotReady "KSvc not Ready"
               result := ⟨requeueAfterKSvcPending⟩ }

/-- Own and apply the Knative Service. -/
def applyAdopted (r : KnativeAdoptionReconciler) (a : KnativeAdoption) (dep : Deployment) (ksvc : KService) :
    Op Reconciled := do
  match setControllerReference a ksvc with
  | .error err => return { adoption := a, err := some (err.wrap "set owner ref") }
  | .ok ksvc =>
    match ← applyKnativeService ksvc with
    | .error err =>
      let a := setCondition a .degraded .true .serviceApplyFailed err.message
      return { adoption := setReady a .false .serviceApplyFailed err.message, err := some err }
    | .ok _ =>
      let a := clearConditionIfReason a .degraded .serviceApplyFailed
      let a := setCondition a .adopted .true .adopted "KnativeService applied"
      awaitKService r a dep ksvc

def adaptTraffic (a : KnativeAdoption) : Op (Except Reconciled KnativeAdoption) := do
  if trafficEnabled a then
    match ← reconcileTraffic a with
    | (a,some err) =>
      let a := setCondition a .trafficReady .false .trafficReconcileFailed err.message
      let a := setCondition a .trafficDegraded .true .trafficReconcileFailed err.message
      return .error { adoption := setReady a .false .trafficReconcileFailed err.message, err := some err }
    | (a,none) =>
      let a := setCondition a .trafficReady .true .trafficReady "traffic adaptation reconciled"
      return .ok (clearConditionIfReason a .trafficDegraded .trafficReconcileFailed)
  else return .ok (removeCondition (removeCondition a .trafficReady) .trafficDegraded)

/-- The pass after a successful translation. -/
def adoptTranslated (r : KnativeAdoptionReconciler) (a : KnativeAdoption) (dep : Deployment) (ksvc : KService) :
    Op Reconciled := do
  match ← swapService a with
  | (a,.error err) =>
    return { adoption := setReady a .false .serviceSwapDeleteFail err.message, err := some err }
  | (a,.ok .refused) =>
    let a := setCondition a .adopted .false .serviceSwapTypeRefuse "service adoption refused; KSvc not created"
    return { adoption := setReady a .false .serviceSwapTypeRefuse "service adoption refused" }
  | (a,.ok .takenOver) => return { adoption := a, result := ⟨requeueAfterServiceSwap⟩ }
  | (a,.ok .pass) =>
    match ← adaptTraffic a with
    | .error ended => return ended
    | .ok a => applyAdopted r a dep ksvc

def sourceMissing (a : KnativeAdoption) : KnativeAdoption :=
  let a := setCondition a .sourceMissing .true .sourceMissing
    ("Deployment " ++ a.ns ++ "/" ++ sourceName a ++ " not found")
  let a := setCondition a .adopted .false .sourceMissing "source workload missing"
  setReady a .false .sourceMissing "source workload missing"

def translationRefused (a : KnativeAdoption) (err : TranslateError) : KnativeAdoption :=
  let a := setCondition a .translationDegraded .true .translationFailed err.message
  let a := setCondition a .adopted .false .translationFailed err.message
  setReady a .false .translationFailed err.message

def reconcileAdoption (r : KnativeAdoptionReconciler) (a : KnativeAdoption) : Op Reconciled := do
  match ← getSourceDeployment a with
  | .error err => return { adoption := setReady a .false .reconciling err.message, err := some err }
  | .ok none => return { adoption := sourceMissing a, result := ⟨requeueAfterSourceMissing⟩ }
  | .ok (some dep) =>
    let a ← maybeRunGuard r (removeCondition a .sourceMissing)
    match translate dep a with
    | .error err => return { adoption := translationRefused a err }
    | .ok ksvc => adoptTranslated r (removeCondition a .translationDegraded) dep ksvc

/-! One pass. -/

def reconcileDeleted (adoption : KnativeAdoption) : Op (Result × Option ApiError) := do
  let done ← handleDeletion adoption
  match ← patchStatus adoption done.adoption with
  | .error statusErr =>
    if statusErr.isNotFound then return (done.result,done.err)
    else return (done.result,done.err.or (some statusErr))
  | .ok _ => return (done.result,done.err)

def reconcileLive (r : KnativeAdoptionReconciler) (adoption : KnativeAdoption) : Op (Result × Option ApiError) := do
  match ← ensureFinalizers adoption with
  | .error err => return ({},some err)
  | .ok original =>
    let done ← reconcileAdoption r original
    match ← patchStatus original (recomputeReady done.adoption) with
    | .error statusErr => return (done.result,done.err.or (some statusErr))
    | .ok _ => return (done.result,done.err)

def reconcile (r : KnativeAdoptionReconciler) (key : NamespacedName) : Op (Result × Option ApiError) := do
  match ← Client.getAdoption key with
  | .error err => if err.isNotFound then return ({},none) else return ({},some err)
  | .ok adoption => if adoption.deleting then reconcileDeleted adoption else reconcileLive r adoption

end Ifaas
