import Ifaas.TrafficAdapter

/-! The restore chain. A deleted KnativeAdoption is taken down in two phases, each held
by a finalizer: first the Knative Service goes, the traffic objects and the Service
are rebuilt from their snapshots, then the source Deployment gets its replicas back
and loses the label that triggered the adoption. -/
namespace Ifaas
open Library

structure Result where
  requeueAfter : Int := 0
deriving DecidableEq

/-- What one pass leaves behind: the adoption in memory, the result and the error. -/
structure Reconciled where
  adoption : KnativeAdoption
  result : Result := {}
  err : Option ApiError := none

def requeueAfterChildGC : Int := 1

def addFinalizer (finalizers : List String) (name : String) : List String :=
  if name ∈ finalizers then finalizers else finalizers++[name]

def ensureFinalizers (a : KnativeAdoption) : Op (Except ApiError KnativeAdoption) := do
  let finalizers := addFinalizer (addFinalizer a.finalizers finalizerRestoreSourceService) finalizerRestoreSource
  if finalizers = a.finalizers then return .ok a
  else
    match ← Client.patchFinalizers a.key finalizers with
    | .error err => return .error (err.wrap "add finalizers")
    | .ok stored => return .ok stored

def deleteKSvcIfPresent (a : KnativeAdoption) : Op (Option ApiError) := do
  match ← Client.deleteKService a.key with
  | .error err => if err.isNotFound then return none else return some (err.wrap "delete ksvc")
  | .ok _ => return none

def isKSvcGone (a : KnativeAdoption) : Op (Except ApiError Bool) := do
  match ← Client.getKService a.key with
  | .error err => if err.isNotFound then return .ok true else return .error err
  | .ok _ => return .ok false

def isDerivedServiceGone (a : KnativeAdoption) : Op (Except ApiError Bool) := do
  match ← Client.getService a.key with
  | .error err => if err.isNotFound then return .ok true else return .error err
  | .ok svc => return .ok (!knativeOwned svc)

def decodeTrafficSpecSnapshot (spec : RawExtension) : Option (Obj GoNumber) :=
  spec.map (fun o => o.map Literal.decode)

/-- An object with its spec set, or removed where the snapshot has none. -/
def withSpec {ν : Type} (body : Obj ν) (spec : Option (Obj ν)) : Obj ν :=
  match spec with
  | none => body.erase "spec"
  | some o => body.set "spec" o.json

def restoreTrafficObjectSnapshot (ns : String) (kind : TrafficKind) (item : TrafficObjectSnapshot) :
    Op (Option ApiError) := do
  if item.name = "" then return none
  else
    let label := kind.text ++ " " ++ ns ++ "/" ++ item.name
    let key : TrafficKey := ⟨kind,⟨ns,item.name⟩⟩
    let snapSpec := decodeTrafficSpecSnapshot item.spec
    match ← Client.getTraffic key with
    | .error err =>
      if err.isNotFound then
        match ← Client.createTraffic key ((withSpec Obj.empty snapSpec).map GoNumber.encode) with
        | .error err =>
          if err.isAlreadyExists then return none
          else return some (err.wrap ("create " ++ label ++ " from snapshot"))
        | .ok _ => return none
      else return some (err.wrap ("get " ++ label))
    | .ok obj =>
      let body := obj.body.map Literal.read
      if body.get "spec" = snapSpec.map Obj.json then return none
      else
        match ← Client.patchTraffic key (mergePatchFrom body (withSpec body snapSpec)) with
        | .error err => return some (err.wrap ("patch " ++ label ++ " from snapshot"))
        | .ok _ => return none

def restoreTrafficSnapshotList (ns : String) (kind : TrafficKind) : List TrafficObjectSnapshot → Op (Option ApiError)
  | [] => return none
  | item::rest => do
    match ← restoreTrafficObjectSnapshot ns kind item with
    | some err => return some err
    | none => restoreTrafficSnapshotList ns kind rest

def restoreTrafficSnapshots (a : KnativeAdoption) : Op (Option ApiError) := do
  match a.status.sourceSnapshot.bind (fun snapshot => snapshot.traffic) with
  | none => return none
  | some traffic =>
    match ← restoreTrafficSnapshotList a.ns .virtualService traffic.virtualServices with
    | some err => return some err
    | none => restoreTrafficSnapshotList a.ns .destinationRule traffic.destinationRules

/-- The Service rebuilt from a snapshotted spec. -/
def rebuiltService (a : KnativeAdoption) (spec : ServiceSpec) : Service where
  ns := a.ns
  name := a.name
  annotations := [(annoServiceManagedBy,annoServiceManagedByValue)]
  spec := spec

def rebuildSnapshotService (a : KnativeAdoption) : Op (Option ApiError) := do
  match a.status.sourceSnapshot.bind (fun snapshot => snapshot.service) with
  | none => return none
  | some spec =>
    match ← Client.createService (rebuiltService a spec) with
    | .error err =>
      if err.isAlreadyExists then return none else return some (err.wrap "rebuild source service")
    | .ok _ => return none

/-- The Deployment with its replicas back and without the trigger label. -/
def releasedDeployment (dep : Deployment) (target : Int) : Deployment :=
  { dep with labels := dep.labels.delete labelEnabled, spec := { dep.spec with replicas := some target } }

def restoreDeploymentSpec (a : KnativeAdoption) : Op (Option ApiError) := do
  match a.status.sourceSnapshot.bind (fun snapshot => snapshot.replicas) with
  | none => return none
  | some target =>
    match ← Client.getDeployment ⟨a.ns,sourceName a⟩ with
    | .error err => if err.isNotFound then return none else return some err
    | .ok dep =>
      if dep.spec.replicas = some target ∧ dep.labels.has labelEnabled = false then return none
      else
        match ← Client.patchDeployment dep (releasedDeployment dep target) with
        | .error err => return some (err.wrap "release source")
        | .ok _ => return none

def removeFinalizer (a : KnativeAdoption) (name : String) : Op (KnativeAdoption × Option ApiError) := do
  if name ∈ a.finalizers then
    let a := { a with finalizers := a.finalizers.filter (fun f => f ≠ name) }
    match ← Client.updateAdoption a with
    | .error err => return (a,some (err.wrap ("remove finalizer " ++ quote name)))
    | .ok stored => return (stored,none)
  else return (a,none)

def restoreFailed (a : KnativeAdoption) (err : ApiError) : Reconciled :=
  { adoption := setCondition a .degraded .true .restoreFailed err.message, err := some err }

def awaitChildren (a : KnativeAdoption) (msg : String) : Reconciled :=
  { adoption := setReady a .false .awaitingChildrenGC msg, result := ⟨requeueAfterChildGC⟩ }

/-- The end of the first phase, once the children are gone. -/
def restoreChildren (a : KnativeAdoption) : Op (Except Reconciled KnativeAdoption) := do
  let a := setReady a .false .restoringService "rebuilding pre-adoption traffic objects"
  match ← restoreTrafficSnapshots a with
  | some err => return .error (restoreFailed a err)
  | none =>
    let a := setReady a .false .restoringService "rebuilding pre-adoption Service"
    match ← rebuildSnapshotService a with
    | some err => return .error (restoreFailed a err)
    | none =>
      match ← removeFinalizer a finalizerRestoreSourceService with
      | (a,some err) => return .error { adoption := a, err := some err }
      | (a,none) => return .ok a

/-- The first phase; an early end of the pass is an error of the inner result. -/
def releaseService (a : KnativeAdoption) : Op (Except Reconciled KnativeAdoption) := do
  if finalizerRestoreSourceService ∈ a.finalizers then
    match ← deleteKSvcIfPresent a with
    | some err => return .error (restoreFailed a err)
    | none =>
      match ← isKSvcGone a with
      | .error err => return .error { adoption := a, err := some err }
      | .ok false => return .error (awaitChildren a "waiting for Knative Service cascade")
      | .ok true =>
        match ← isDerivedServiceGone a with
        | .error err => return .error { adoption := a, err := some err }
        | .ok false => return .error (awaitChildren a "waiting for KSvc-derived Service cascade")
        | .ok true => restoreChildren a
  else return .ok a

/-- The second phase. -/
def releaseSource (a : KnativeAdoption) : Op (Except Reconciled KnativeAdoption) := do
  if finalizerRestoreSource ∈ a.finalizers then
    let a := setReady a .false .restoringSource "restoring source Deployment replicas"
    match ← restoreDeploymentSpec a with
    | some err => return .error (restoreFailed a err)
    | none =>
      match ← removeFinalizer a finalizerRestoreSource with
      | (a,some err) => return .error { adoption := a, err := some err }
      | (a,none) => return .ok a
  else return .ok a

def handleDeletion (a : KnativeAdoption) : Op Reconciled := do
  match ← releaseService a with
  | .error ended => return ended
  | .ok a =>
    match ← releaseSource a with
    | .error ended => return ended
    | .ok a => return { adoption := setReady a .false .released "adoption released" }

end Ifaas
