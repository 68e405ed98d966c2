import Ifaas.Conditions
import Ifaas.ScaleDown
import Ifaas.Library.MergePatch
import Ifaas.Library.Program
import Ifaas.Library.Store

/-! The cluster the operator works on. The apiserver is a store of objects; reads see
its current content, and server-side apply and merge patches set exactly the fields
they send. Knative is part of the environment: it moves the status of Knative
Services, removes deleted ones, and owns the Services derived from them. -/
namespace Ifaas
open Library

structure Cluster where
  adoptions : Store NamespacedName KnativeAdoption (fun a => a.key) := .empty
  deployments : Store NamespacedName Deployment (fun d => d.key) := .empty
  services : Store NamespacedName Service (fun s => s.key) := .empty
  ksvcs : Store NamespacedName KService (fun k => k.key) := .empty
  traffic : Store TrafficKey TrafficObject (fun o => o.key) := .empty
  pods : List Pod := []
  probes : String → String → Int → String → Int → ScaleDown.Result := fun _ pod _ _ _ => ⟨pod,false,none⟩
  addresses : NamespacedName → String × List String := fun _ => ("",[])
  queue : List Decision := []
  hpas : List HorizontalPodAutoscaler := []
  nextUid : Nat := 1

inductive Request where
  | getAdoption (key : NamespacedName)
  | patchFinalizers (key : NamespacedName) (finalizers : List String)
  | updateAdoption (a : KnativeAdoption)
  | patchStatus (original current : KnativeAdoption)
  | applyAdoption (key : NamespacedName) (labels : Labels) (spec : KnativeAdoptionSpec)
  | deleteAdoption (key : NamespacedName)
  | getDeployment (key : NamespacedName)
  | applyReplicas (key : NamespacedName) (replicas : Int)
  | patchDeployment (original modified : Deployment)
  | getService (key : NamespacedName)
  | createService (svc : Service)
  | deleteService (key : NamespacedName)
  | getKService (key : NamespacedName)
  | applyKService (ksvc : KService)
  | deleteKService (key : NamespacedName)
  | patchKService (key : NamespacedName) (annotations : Labels)
  | getTraffic (key : TrafficKey)
  | createTraffic (key : TrafficKey) (body : Obj Literal)
  | patchTraffic (key : TrafficKey) (patch : Obj Literal)
  | listPods (ns service : String)
  | probe (ns pod : String) (port : Int) (path : String) (timeout : Int)
  | enqueue (decision : Decision)
  | listHPAs (ns : String)

@[reducible] def Response : Request → Type
  | .getAdoption _ | .patchFinalizers _ _ | .updateAdoption _ => Except ApiError KnativeAdoption
  | .getDeployment _ => Except ApiError Deployment
  | .getService _ => Except ApiError Service
  | .getKService _ => Except ApiError KService
  | .getTraffic _ => Except ApiError TrafficObject
  | .listPods _ _ => Except ApiError (List Pod)
  | .listHPAs _ => Except ApiError (List HorizontalPodAutoscaler)
  | .probe _ _ _ _ _ => ScaleDown.Result
  | .patchStatus _ _ | .applyAdoption _ _ _ | .deleteAdoption _ | .applyReplicas _ _ | .patchDeployment _ _
  | .createService _ | .deleteService _ | .applyKService _ | .deleteKService _ | .patchKService _ _
  | .createTraffic _ _ | .patchTraffic _ _ | .enqueue _ => Except ApiError Unit

def notFound (resource name : String) : ApiError := ⟨.notFound,resource ++ " " ++ quote name ++ " not found"⟩

def alreadyExists (resource name : String) : ApiError :=
  ⟨.alreadyExists,resource ++ " " ++ quote name ++ " already exists"⟩

def found {κ α : Type} {keyOf : α → κ} (store : Store κ α keyOf) (key : κ) (missing : ApiError) : Except ApiError α :=
  match store.get key with
  | none => .error missing
  | some o => .ok o

/-! Writes to KnativeAdoptions. -/

/-- A merge patch leaves a field alone that the client did not change. -/
def mergeField {α : Type} [DecidableEq α] (stored original current : α) : α :=
  if original = current then stored else current

def mergeTrafficSnapshot (stored original current : TrafficSnapshot) : TrafficSnapshot where
  virtualServices := mergeField stored.virtualServices original.virtualServices current.virtualServices
  destinationRules := mergeField stored.destinationRules original.destinationRules current.destinationRules

/-- An optional object: removed when the client removed it, merged member by member
when the client has it. -/
def mergeOption {α : Type} [DecidableEq α] (merge : α → α → α → α) (zero : α)
    (stored original current : Option α) : Option α :=
  match current with
  | none => if original = none then stored else none
  | some new => if original = some new then stored else some (merge (stored.getD zero) (original.getD zero) new)

def mergeSourceSnapshot (stored original current : SourceSnapshot) : SourceSnapshot where
  replicas := mergeField stored.replicas original.replicas current.replicas
  service := mergeField stored.service original.service current.service
  traffic := mergeOption mergeTrafficSnapshot {} stored.traffic original.traffic current.traffic

def mergeProbe (stored original current : ProbeStatus) : ProbeStatus where
  result := mergeField stored.result original.result current.result
  message := mergeField stored.message original.message current.message
  consecutiveErrors := mergeField stored.consecutiveErrors original.consecutiveErrors current.consecutiveErrors

def mergeStatus (stored original current : KnativeAdoptionStatus) : KnativeAdoptionStatus where
  conditions := mergeField stored.conditions original.conditions current.conditions
  url := mergeField stored.url original.url current.url
  sourceSnapshot := mergeOption mergeSourceSnapshot {} stored.sourceSnapshot original.sourceSnapshot
    current.sourceSnapshot
  lastScaleDownProbe := mergeOption mergeProbe ⟨.unset,"",0⟩ stored.lastScaleDownProbe
    original.lastScaleDownProbe current.lastScaleDownProbe
  traffic := mergeField stored.traffic original.traffic current.traffic

/-- No finalizer may be added to an object that is being deleted. -/
def addsFinalizer (stored : KnativeAdoption) (finalizers : List String) : Bool :=
  stored.deleting && finalizers.any (fun f => !stored.finalizers.contains f)

def adoptionResource : String := "knativeadoptions.ifaas.ifbiu.com"

def finalizersForbidden : ApiError :=
  ⟨.forbidden,"metadata.finalizers: Forbidden: no new finalizers can be added if the object is being deleted"⟩

/-- What a specification field holds after a server-side apply that may send it. -/
def applied {α : Type} (stored sent : Option α) : Option α := sent.or stored

def appliedText (stored sent : String) : String := if sent = "" then stored else sent

def appliedNumber (stored sent : Int) : Int := if sent = 0 then stored else sent

def applyAdoptionSpec (stored sent : KnativeAdoptionSpec) : KnativeAdoptionSpec where
  sourceRef :=
    { kind := if sent.sourceRef.kind = .unset then stored.sourceRef.kind else sent.sourceRef.kind
      name := sent.sourceRef.name
      ns := appliedText stored.sourceRef.ns sent.sourceRef.ns }
  mode := if sent.mode = .unset then stored.mode else sent.mode
  primaryContainer := appliedText stored.primaryContainer sent.primaryContainer
  autoscaling :=
    { minScale := applied stored.autoscaling.minScale sent.autoscaling.minScale
      maxScale := applied stored.autoscaling.maxScale sent.autoscaling.maxScale
      targetConcurrency := applied stored.autoscaling.targetConcurrency sent.autoscaling.targetConcurrency }
  scaleDownProbe :=
    { path := appliedText stored.scaleDownProbe.path sent.scaleDownProbe.path
      port := applied stored.scaleDownProbe.port sent.scaleDownProbe.port
      intervalSeconds := appliedNumber stored.scaleDownProbe.intervalSeconds sent.scaleDownProbe.intervalSeconds
      timeoutSeconds := appliedNumber stored.scaleDownProbe.timeoutSeconds sent.scaleDownProbe.timeoutSeconds
      consecutiveFailureThreshold := appliedNumber stored.scaleDownProbe.consecutiveFailureThreshold
        sent.scaleDownProbe.consecutiveFailureThreshold }
  eventingBroker := applied stored.eventingBroker sent.eventingBroker
  traffic := applied stored.traffic sent.traffic

namespace Cluster

def patchFinalizers (c : Cluster) (key : NamespacedName) (finalizers : List String) :
    Cluster × Except ApiError KnativeAdoption :=
  match c.adoptions.get key with
  | none => (c,.error (notFound adoptionResource key.name))
  | some stored =>
    if addsFinalizer stored finalizers then (c,.error finalizersForbidden)
    else
      let next := { stored with finalizers := finalizers }
      ({ c with adoptions := c.adoptions.put next },.ok next)

/-- A full update writes metadata and specification; the status is not written, and a
deleted object without finalizers goes away. -/
def updateAdoption (c : Cluster) (a : KnativeAdoption) : Cluster × Except ApiError KnativeAdoption :=
  match c.adoptions.get a.key with
  | none => (c,.error (notFound adoptionResource a.name))
  | some stored =>
    if addsFinalizer stored a.finalizers then (c,.error finalizersForbidden)
    else
      let next := { stored with
        labels := a.labels, annotations := a.annotations, finalizers := a.finalizers, spec := a.spec }
      if stored.deleting && next.finalizers = [] then
        ({ c with adoptions := c.adoptions.remove a.key },.ok next)
      else ({ c with adoptions := c.adoptions.put next },.ok next)

/-- A merge patch of the status subresource: only the status is written. -/
def patchStatus (c : Cluster) (original current : KnativeAdoption) : Cluster × Except ApiError Unit :=
  match c.adoptions.get current.key with
  | none => (c,.error (notFound adoptionResource current.name))
  | some stored =>
    let next := { stored with status := mergeStatus stored.status original.status current.status }
    ({ c with adoptions := c.adoptions.put next },.ok ())

def applyAdoption (c : Cluster) (key : NamespacedName) (labels : Labels) (spec : KnativeAdoptionSpec) :
    Cluster × Except ApiError Unit :=
  match c.adoptions.get key with
  | none =>
    let created : KnativeAdoption :=
      { ns := key.ns, name := key.name, uid := c.nextUid, labels := labels, spec := spec }
    ({ c with adoptions := c.adoptions.put created, nextUid := c.nextUid + 1 },.ok ())
  | some stored =>
    let next := { stored with
      labels := stored.labels.overlay labels, spec := applyAdoptionSpec stored.spec spec }
    ({ c with adoptions := c.adoptions.put next },.ok ())

def deleteAdoption (c : Cluster) (key : NamespacedName) : Cluster × Except ApiError Unit :=
  match c.adoptions.get key with
  | none => (c,.error (notFound adoptionResource key.name))
  | some stored =>
    if stored.finalizers = [] then ({ c with adoptions := c.adoptions.remove key },.ok ())
    else ({ c with adoptions := c.adoptions.put { stored with deleting := true } },.ok ())

/-! Writes to the source Deployment. -/

/-- Server-side apply of `spec.replicas` alone. For a missing Deployment the apply
would create one without selector and template, which validation refuses. -/
def applyReplicas (c : Cluster) (key : NamespacedName) (replicas : Int) : Cluster × Except ApiError Unit :=
  match c.deployments.get key with
  | none => (c,.error ⟨.invalid,"Deployment.apps " ++ quote key.name ++ " is invalid"⟩)
  | some stored =>
    let next := { stored with spec := { stored.spec with replicas := some replicas } }
    ({ c with deployments := c.deployments.put next },.ok ())

def patchDeployment (c : Cluster) (original modified : Deployment) : Cluster × Except ApiError Unit :=
  match c.deployments.get modified.key with
  | none => (c,.error (notFound "deployments.apps" modified.name))
  | some stored =>
    let next := { stored with
      labels := stored.labels.filter (fun entry => !(original.labels.has entry.1 && !modified.labels.has entry.1))
      spec := { stored.spec with
        replicas := mergeField stored.spec.replicas original.spec.replicas modified.spec.replicas } }
    ({ c with deployments := c.deployments.put next },.ok ())

/-! Writes to Services and Knative Services. -/

/-- A Service without a cluster address gets one when it is created. -/
def allocate (c : Cluster) (svc : Service) : Service :=
  if svc.spec.clusterIP = "" then
    { svc with spec := { svc.spec with
      clusterIP := (c.addresses svc.key).1, clusterIPs := (c.addresses svc.key).2 } }
  else svc

theorem allocate_key (c : Cluster) (svc : Service) : (c.allocate svc).key = svc.key := by
  unfold allocate
  split <;> rfl

def createService (c : Cluster) (svc : Service) : Cluster × Except ApiError Unit :=
  match c.services.get svc.key with
  | some _ => (c,.error (alreadyExists "services" svc.name))
  | none => ({ c with services := c.services.put (c.allocate svc) },.ok ())

def deleteService (c : Cluster) (key : NamespacedName) : Cluster × Except ApiError Unit :=
  match c.services.get key with
  | none => (c,.error (notFound "services" key.name))
  | some _ => ({ c with services := c.services.remove key },.ok ())

def mergeOwners (stored sent : List OwnerReference) : List OwnerReference :=
  sent ++ stored.filter (fun owner => !sent.any (fun other => other.uid = owner.uid))

/-- What the operator sends replaces what it sent before and leaves the entries of other writers. An
entry that it no longer sends stays, since who wrote it is not recorded. -/
def appliedKService (stored sent : KService) : KService :=
  { stored with
    labels := stored.labels.overlay sent.labels
    ownerReferences := mergeOwners stored.ownerReferences sent.ownerReferences
    template :=
      { annotations := stored.template.annotations.overlay sent.template.annotations
        labels := stored.template.labels.overlay sent.template.labels
        spec := sent.template.spec } }

def applyKService (c : Cluster) (ksvc : KService) : Cluster × Except ApiError Unit :=
  match c.ksvcs.get ksvc.key with
  | none => ({ c with ksvcs := c.ksvcs.put { ksvc with status := {} } },.ok ())
  | some stored =>
    let next := appliedKService stored ksvc
    if (next.ownerReferences.filter (fun owner => owner.controller)).length > 1 then
      (c,.error ⟨.invalid,"Only one reference can have Controller set to true"⟩)
    else ({ c with ksvcs := c.ksvcs.put next },.ok ())

/-- The Knative Service is marked; Knative removes it with what it derived. -/
def deleteKService (c : Cluster) (key : NamespacedName) : Cluster × Except ApiError Unit :=
  match c.ksvcs.get key with
  | none => (c,.error (notFound "services.serving.knative.dev" key.name))
  | some stored => ({ c with ksvcs := c.ksvcs.put { stored with deleting := true } },.ok ())

/-- A merge patch of annotations of the pod template. -/
def patchKService (c : Cluster) (key : NamespacedName) (annotations : Labels) : Cluster × Except ApiError Unit :=
  match c.ksvcs.get key with
  | none => (c,.error (notFound "services.serving.knative.dev" key.name))
  | some stored =>
    let next := { stored with
      template := { stored.template with annotations := stored.template.annotations.overlay annotations } }
    ({ c with ksvcs := c.ksvcs.put next },.ok ())

/-! Writes to Istio objects. -/

def trafficResource : TrafficKind → String
  | .virtualService => "virtualservices.networking.istio.io"
  | .destinationRule => "destinationrules.networking.istio.io"

def trafficInvalid (key : TrafficKey) : ApiError :=
  ⟨.invalid,key.kind.text ++ ".networking.istio.io " ++ quote key.key.name ++ " is invalid: spec must be an object"⟩

def createTraffic (c : Cluster) (key : TrafficKey) (body : Obj Literal) : Cluster × Except ApiError Unit :=
  match c.traffic.get key with
  | some _ => (c,.error (alreadyExists (trafficResource key.kind) key.key.name))
  | none =>
    if shaped : specShaped body = true then
      ({ c with traffic := c.traffic.put ⟨key,body,shaped⟩ },.ok ())
    else (c,.error (trafficInvalid key))

def patchTraffic (c : Cluster) (key : TrafficKey) (patch : Obj Literal) : Cluster × Except ApiError Unit :=
  match c.traffic.get key with
  | none => (c,.error (notFound (trafficResource key.kind) key.key.name))
  | some stored =>
    if shaped : specShaped (stored.body.mergePatch patch) = true then
      ({ c with traffic := c.traffic.put ⟨key,stored.body.mergePatch patch,shaped⟩ },.ok ())
    else (c,.error (trafficInvalid key))

def effect (c : Cluster) : (r : Request) → Cluster × Response r
  | .getAdoption key => (c,found c.adoptions key (notFound adoptionResource key.name))
  | .patchFinalizers key finalizers => c.patchFinalizers key finalizers
  | .updateAdoption a => c.updateAdoption a
  | .patchStatus original current => c.patchStatus original current
  | .applyAdoption key labels spec => c.applyAdoption key labels spec
  | .deleteAdoption key => c.deleteAdoption key
  | .getDeployment key => (c,found c.deployments key (notFound "deployments.apps" key.name))
  | .applyReplicas key replicas => c.applyReplicas key replicas
  | .patchDeployment original modified => c.patchDeployment original modified
  | .getService key => (c,found c.services key (notFound "services" key.name))
  | .createService svc => c.createService svc
  | .deleteService key => c.deleteService key
  | .getKService key => (c,found c.ksvcs key (notFound "services.serving.knative.dev" key.name))
  | .applyKService ksvc => c.applyKService ksvc
  | .deleteKService key => c.deleteKService key
  | .patchKService key annotations => c.patchKService key annotations
  | .getTraffic key => (c,found c.traffic key (notFound (trafficResource key.kind) key.key.name))
  | .createTraffic key body => c.createTraffic key body
  | .patchTraffic key patch => c.patchTraffic key patch
  | .listPods ns service =>
    (c,.ok (c.pods.filter (fun p => p.ns = ns && p.labels.value "serving.knative.dev/service" = service)))
  | .probe ns pod port path timeout => (c,c.probes ns pod port path timeout)
  | .enqueue decision => ({ c with queue := c.queue++[decision] },.ok ())
  | .listHPAs ns => (c,.ok (c.hpas.filter (fun h => h.ns = ns)))

end Cluster

/-- The answer of a call that failed on the way. -/
def failed (message : String) : (r : Request) → Response r
  | .getAdoption _ | .patchFinalizers _ _ | .updateAdoption _ => .error (.text message)
  | .getDeployment _ => .error (.text message)
  | .getService _ => .error (.text message)
  | .getKService _ => .error (.text message)
  | .getTraffic _ => .error (.text message)
  | .listPods _ _ => .error (.text message)
  | .listHPAs _ => .error (.text message)
  | .probe _ pod _ _ _ => ⟨pod,false,some (.text message)⟩
  | .patchStatus _ _ | .applyAdoption _ _ _ | .deleteAdoption _ | .applyReplicas _ _ | .patchDeployment _ _
  | .createService _ | .deleteService _ | .applyKService _ | .deleteKService _ | .patchKService _ _
  | .createTraffic _ _ | .patchTraffic _ _ | .enqueue _ => .error (.text message)

def apiserver : Server Request Response String Cluster where
  effect := Cluster.effect
  fail r message := failed message r

abbrev Op := Program Request Response

abbrev CallLog := List (Event Request Response String Cluster)

/-! The client's calls. -/

namespace Client

abbrev ask (r : Request) : Op (Response r) := Program.request r

abbrev getAdoption (key : NamespacedName) : Op (Except ApiError KnativeAdoption) := ask (.getAdoption key)

abbrev patchFinalizers (key : NamespacedName) (finalizers : List String) : Op (Except ApiError KnativeAdoption) :=
  ask (.patchFinalizers key finalizers)

abbrev updateAdoption (a : KnativeAdoption) : Op (Except ApiError KnativeAdoption) :=
  ask (.updateAdoption a)

abbrev patchStatus (original current : KnativeAdoption) : Op (Except ApiError Unit) :=
  ask (.patchStatus original current)

abbrev applyAdoption (key : NamespacedName) (labels : Labels) (spec : KnativeAdoptionSpec) :
    Op (Except ApiError Unit) := ask (.applyAdoption key labels spec)

abbrev deleteAdoption (key : NamespacedName) : Op (Except ApiError Unit) := ask (.deleteAdoption key)

abbrev getDeployment (key : NamespacedName) : Op (Except ApiError Deployment) := ask (.getDeployment key)

abbrev applyReplicas (key : NamespacedName) (replicas : Int) : Op (Except ApiError Unit) :=
  ask (.applyReplicas key replicas)

abbrev patchDeployment (original modified : Deployment) : Op (Except ApiError Unit) :=
  ask (.patchDeployment original modified)

abbrev getService (key : NamespacedName) : Op (Except ApiError Service) := ask (.getService key)

abbrev createService (svc : Service) : Op (Except ApiError Unit) := ask (.createService svc)

abbrev deleteService (key : NamespacedName) : Op (Except ApiError Unit) := ask (.deleteService key)

abbrev getKService (key : NamespacedName) : Op (Except ApiError KService) := ask (.getKService key)

abbrev applyKService (ksvc : KService) : Op (Except ApiError Unit) := ask (.applyKService ksvc)

abbrev deleteKService (key : NamespacedName) : Op (Except ApiError Unit) := ask (.deleteKService key)

abbrev patchKService (key : NamespacedName) (annotations : Labels) : Op (Except ApiError Unit) :=
  ask (.patchKService key annotations)

abbrev getTraffic (key : TrafficKey) : Op (Except ApiError TrafficObject) := ask (.getTraffic key)

abbrev createTraffic (key : TrafficKey) (body : Obj Literal) : Op (Except ApiError Unit) :=
  ask (.createTraffic key body)

abbrev patchTraffic (key : TrafficKey) (patch : Obj Literal) : Op (Except ApiError Unit) :=
  ask (.patchTraffic key patch)

abbrev listPods (ns service : String) : Op (Except ApiError (List Pod)) := ask (.listPods ns service)

abbrev probe (ns pod : String) (port : Int) (path : String) (timeout : Int) : Op ScaleDown.Result :=
  ask (.probe ns pod port path timeout)

abbrev enqueue (decision : Decision) : Op (Except ApiError Unit) := ask (.enqueue decision)

abbrev listHPAs (ns : String) : Op (Except ApiError (List HorizontalPodAutoscaler)) := ask (.listHPAs ns)

end Client

/-! The environment. -/

def knativeOwned (svc : Service) : Bool :=
  match svc.controllerOf with
  | some owner => owner.apiVersion = knativeServingAPIVersion
  | none => false

/-- What Knative may do to one Knative Service: write its status, and remove it once
it is deleted. The annotations of its template are also written by the flusher. -/
def KServiceDrift (before after : Option KService) : Prop :=
  match before with
  | none => after = none
  | some k => (k.deleting = true ∧ after = none) ∨
      ∃ annotations status, after = some { k with
        template := { k.template with annotations := annotations }, status := status }

/-- What Knative may do to one Service: nothing to one it does not own, anything to
one it owns, and it creates one only next to a Knative Service of that name. -/
def ServiceDrift (ksvc : Option KService) (before after : Option Service) : Prop :=
  after = before ∨
  ((∀ svc, before = some svc → knativeOwned svc = true) ∧ (∀ svc, after = some svc → knativeOwned svc = true) ∧
    (before = none → ksvc ≠ none))

/-- What happens to the cluster between two calls of the operator: Knative works, the
flusher patches annotations and writes conditions, pods come and go. -/
structure Drift (c d : Cluster) : Prop where
  deployments : d.deployments = c.deployments
  traffic : d.traffic = c.traffic
  adoptions : ∀ key, ∃ conditions,
    d.adoptions.get key = (c.adoptions.get key).map (fun a => a.withConditions conditions)
  ksvcs : ∀ key, KServiceDrift (c.ksvcs.get key) (d.ksvcs.get key)
  services : ∀ key, ServiceDrift (c.ksvcs.get key) (c.services.get key) (d.services.get key)

/-- A Knative Service that is there was there before, with the same metadata. -/
theorem Drift.ksvc_before {c d : Cluster} (moved : Drift c d) (key : NamespacedName) (ksvc : KService)
    (found : d.ksvcs.get key = some ksvc) :
    ∃ old, c.ksvcs.get key = some old ∧ ksvc.toObjectMeta = old.toObjectMeta := by
  have step := moved.ksvcs key
  cases before : c.ksvcs.get key with
  | none =>
    rw [before] at step
    rw [show d.ksvcs.get key = none from step] at found
    cases found
  | some old =>
    rw [before] at step
    rcases step with ⟨_,gone⟩ | ⟨annotations,status,after⟩
    · rw [gone] at found
      cases found
    · rw [after] at found
      cases found
      exact ⟨old,rfl,rfl⟩

theorem Drift.refl (c : Cluster) : Drift c c where
  deployments := rfl
  traffic := rfl
  adoptions key := by
    cases held : c.adoptions.get key with
    | none => exact ⟨[],rfl⟩
    | some a => exact ⟨a.status.conditions,rfl⟩
  ksvcs key := by
    cases held : c.ksvcs.get key with
    | none => rfl
    | some k => exact Or.inr ⟨k.template.annotations,k.status,rfl⟩
  services key := Or.inl rfl

end Ifaas
