import Ifaas.Library.GoNumber

/-! The API objects the operator reads and writes: the KnativeAdoption resource and
the parts of Deployments, Services, Knative Services, pods, autoscalers and Istio
objects that its code looks at. Parts that are only carried along are payloads.
Times are left out; a deletion timestamp is a flag. -/
namespace Ifaas
open Library

structure NamespacedName where
  ns : String
  name : String
deriving DecidableEq

abbrev Labels := List (String × String)

/-- Go's map index: the zero value for a key that is not there. -/
def Labels.value (labels : Labels) (key : String) : String := (labels.lookup key).getD ""

def Labels.has (labels : Labels) (key : String) : Bool := (labels.lookup key).isSome

def Labels.delete (labels : Labels) (key : String) : Labels := labels.filter (fun entry => entry.1 ≠ key)

/-- Write the entries of `sent` over those of `labels`. -/
def Labels.overlay (labels sent : Labels) : Labels :=
  sent ++ labels.filter (fun entry => !Labels.has sent entry.1)

theorem Labels.has_iff (labels : Labels) (key : String) : labels.has key = true ↔ ∃ entry ∈ labels, entry.1 = key := by
  induction labels with
  | nil => simp [Labels.has]
  | cons entry rest ih =>
    obtain ⟨k,v⟩ := entry
    by_cases same : key = k
    · simp [Labels.has,same]
    · have other : (key == k) = false := beq_eq_false_iff_ne.mpr same
      have later : Labels.has ((k,v)::rest) key = Labels.has rest key := by simp [Labels.has,List.lookup_cons,other]
      rw [later,ih]
      simp [show k ≠ key from fun equal => same equal.symm]

theorem Labels.has_delete (labels : Labels) (key other : String) :
    (labels.delete key).has other = (labels.has other && decide (other ≠ key)) := by
  rw [Bool.eq_iff_iff,Bool.and_eq_true,Labels.has_iff,Labels.has_iff,decide_eq_true_eq]
  constructor
  · rintro ⟨entry,member,rfl⟩
    obtain ⟨inside,kept⟩ := List.mem_filter.mp member
    exact ⟨⟨entry,inside,rfl⟩,by simpa using kept⟩
  · rintro ⟨⟨entry,inside,rfl⟩,kept⟩
    exact ⟨entry,List.mem_filter.mpr ⟨inside,by simpa using kept⟩,rfl⟩

theorem Labels.delete_missing (labels : Labels) (key : String) (missing : labels.has key = false) :
    labels.delete key = labels := by
  refine List.filter_eq_self.mpr (fun entry member => ?_)
  have other : entry.1 ≠ key := by
    intro same
    have present := (labels.has_iff key).mpr ⟨entry,member,same⟩
    rw [missing] at present
    cases present
  simpa using other

theorem Labels.delete_delete (labels : Labels) (key : String) : (labels.delete key).delete key = labels.delete key :=
  delete_missing _ _ (by simp [has_delete])

/-- Dropping the labels that are missing after a deletion is that deletion. -/
theorem Labels.filter_delete (labels : Labels) (key : String) :
    labels.filter (fun entry => !(labels.has entry.1 && !(labels.delete key).has entry.1)) = labels.delete key := by
  refine List.filter_congr (fun entry member => ?_)
  have present : labels.has entry.1 = true := (labels.has_iff _).mpr ⟨entry,member,rfl⟩
  rw [has_delete,present]
  simp

abbrev Payload := Json Literal

structure OwnerReference where
  apiVersion : String
  kind : String
  name : String
  uid : Nat
  controller : Bool
deriving DecidableEq

structure ObjectMeta where
  ns : String
  name : String
  uid : Nat := 0
  generation : Int := 1
  labels : Labels := []
  annotations : Labels := []
  finalizers : List String := []
  deleting : Bool := false
  ownerReferences : List OwnerReference := []
deriving DecidableEq

def ObjectMeta.key (m : ObjectMeta) : NamespacedName := ⟨m.ns,m.name⟩

/-- `metav1.GetControllerOf`. -/
def ObjectMeta.controllerOf (m : ObjectMeta) : Option OwnerReference :=
  m.ownerReferences.find? (fun owner => owner.controller)

inductive StatusReason where
  | notFound
  | alreadyExists
  | invalid
  | forbidden
  | unknown
deriving DecidableEq

structure ApiError where
  reason : StatusReason
  message : String
deriving DecidableEq

namespace ApiError

def text (message : String) : ApiError := ⟨.unknown,message⟩

/-- `fmt.Errorf("%s: %w")`: the reason is still found behind the new text. -/
def wrap (err : ApiError) (context : String) : ApiError := ⟨err.reason,context ++ ": " ++ err.message⟩

def isNotFound (err : ApiError) : Bool := err.reason = .notFound

def isAlreadyExists (err : ApiError) : Bool := err.reason = .alreadyExists

end ApiError

/-- The characters `strconv.Quote` escapes by a letter. -/
def shortEscape (c : Char) : Option Char :=
  ['a','b','t','n','v','f','r'][c.toNat - 7]?.filter (fun _ => 7 ≤ c.toNat)

def hexDigits (width n : Nat) : List Char := (List.range width).reverse.map (fun place => Nat.digitChar (n / 16 ^ place % 16))

/-- One character of `strconv.Quote`. What it has in its tables beyond Latin-1 is taken to be printable. -/
def escaped (c : Char) : List Char :=
  if c = '"' ∨ c = '\\' then ['\\',c]
  else if (0x20 ≤ c.toNat ∧ c.toNat < 0x7F) ∨ (0xA0 < c.toNat ∧ c.toNat ≠ 0xAD) then [c]
  else
    match shortEscape c with
    | some letter => ['\\',letter]
    | none => if c.toNat < 0x80 then ['\\','x']++hexDigits 2 c.toNat else ['\\','u']++hexDigits 4 c.toNat

/-- Go's `%q`. -/
def quote (text : String) : String := String.ofList (['"']++text.toList.flatMap escaped++['"'])

/-! Pod templates. -/

inductive Protocol where
  | unset
  | tcp
  | udp
  | sctp
deriving DecidableEq

def Protocol.text : Protocol → String
  | .unset => ""
  | .tcp => "TCP"
  | .udp => "UDP"
  | .sctp => "SCTP"

structure ContainerPort where
  name : String := ""
  containerPort : Int
  hostPort : Int := 0
  hostIP : String := ""
  protocol : Protocol := .unset
deriving DecidableEq

inductive IntOrString where
  | int (value : Int)
  | str (value : String)
deriving DecidableEq

structure Probe where
  httpGet : Option IntOrString := none
  tcpSocket : Option IntOrString := none
  rest : Payload := .null
deriving DecidableEq

structure EnvVarSource where
  fieldRef : Option Payload := none
  resourceFieldRef : Option Payload := none
  rest : Payload := .null
deriving DecidableEq

structure EnvVar where
  name : String
  value : String := ""
  valueFrom : Option EnvVarSource := none
deriving DecidableEq

structure VolumeMount where
  name : String
  rest : Payload := .null
deriving DecidableEq

structure Volume where
  name : String
  configMap : Option Payload := none
  secret : Option Payload := none
  emptyDir : Option Payload := none
  projected : Option Payload := none
  downwardAPI : Option Payload := none
  rest : Payload := .null
deriving DecidableEq

structure Container where
  name : String
  image : String := ""
  command : List String := []
  args : List String := []
  workingDir : String := ""
  ports : List ContainerPort := []
  envFrom : Payload := .null
  env : List EnvVar := []
  resources : Payload := .null
  volumeMounts : List VolumeMount := []
  livenessProbe : Option Probe := none
  readinessProbe : Option Probe := none
  startupProbe : Option Probe := none
  terminationMessagePath : String := ""
  terminationMessagePolicy : String := ""
  imagePullPolicy : String := ""
  securityContext : Payload := .null
  lifecycle : Payload := .null
  volumeDevices : Payload := .null
  stdin : Bool := false
  stdinOnce : Bool := false
  tty : Bool := false
deriving DecidableEq

structure PodSpec where
  hostNetwork : Bool := false
  hostPID : Bool := false
  hostIPC : Bool := false
  serviceAccountName : String := ""
  imagePullSecrets : Payload := .null
  volumes : List Volume := []
  containers : List Container := []
  rest : Payload := .null
deriving DecidableEq

structure DeploymentSpec where
  replicas : Option Int
  template : PodSpec
  rest : Payload := .null
deriving DecidableEq

structure Deployment extends ObjectMeta where
  spec : DeploymentSpec
deriving DecidableEq

/-! Core Services. -/

inductive ServiceType where
  | unset
  | clusterIP
  | nodePort
  | loadBalancer
  | externalName
deriving DecidableEq

def ServiceType.text : ServiceType → String
  | .unset => ""
  | .clusterIP => "ClusterIP"
  | .nodePort => "NodePort"
  | .loadBalancer => "LoadBalancer"
  | .externalName => "ExternalName"

structure ServicePort where
  port : Int
  rest : Payload := .null
deriving DecidableEq

structure ServiceSpec where
  type : ServiceType := .clusterIP
  clusterIP : String := ""
  clusterIPs : List String := []
  ports : List ServicePort := []
  rest : Payload := .null
deriving DecidableEq

structure Service extends ObjectMeta where
  spec : ServiceSpec
deriving DecidableEq

/-! Knative Services. -/

structure RevisionTemplate where
  annotations : Labels := []
  labels : Labels := []
  spec : PodSpec := {}
deriving DecidableEq

inductive ConditionStatus where
  | true
  | false
  | unknown
deriving DecidableEq

structure KServiceCondition where
  type : String
  status : ConditionStatus
deriving DecidableEq

structure KServiceStatus where
  url : Option String := none
  conditions : List KServiceCondition := []
deriving DecidableEq

structure KService extends ObjectMeta where
  template : RevisionTemplate
  status : KServiceStatus := {}
deriving DecidableEq

/-! Pods and autoscalers. -/

inductive PodPhase where
  | pending
  | running
  | succeeded
  | failed
  | unknown
deriving DecidableEq

structure Pod extends ObjectMeta where
  phase : PodPhase
  containers : List Container := []
deriving DecidableEq

structure HorizontalPodAutoscaler extends ObjectMeta where
  targetKind : String
  targetAPIVersion : String := ""
  targetName : String
deriving DecidableEq

/-! Istio objects. -/

inductive TrafficKind where
  | virtualService
  | destinationRule
deriving DecidableEq

def TrafficKind.text : TrafficKind → String
  | .virtualService => "VirtualService"
  | .destinationRule => "DestinationRule"

/-- The member `spec` is absent or an object, as the schema of these kinds asks. -/
def specShaped {ν : Type} (body : Obj ν) : Bool :=
  match body.get "spec" with
  | none => true
  | some spec => spec.asObj.isSome

structure TrafficKey where
  kind : TrafficKind
  key : NamespacedName
deriving DecidableEq

/-- A stored VirtualService or DestinationRule. `body` has the members of the object
other than its type and its metadata. -/
structure TrafficObject where
  key : TrafficKey
  body : Obj Literal
  shaped : specShaped body = true
deriving DecidableEq

/-! The KnativeAdoption resource. -/

inductive Mode where
  | unset
  | serving
  | eventing
  | other (text : String)
deriving DecidableEq

inductive SourceKind where
  | unset
  | deployment
  | other (text : String)
deriving DecidableEq

structure SourceRef where
  kind : SourceKind := .deployment
  name : String
  ns : String := ""
deriving DecidableEq

structure Autoscaling where
  minScale : Option Int := none
  maxScale : Option Int := none
  targetConcurrency : Option Int := none
deriving DecidableEq

structure ScaleDownProbe where
  path : String := ""
  port : Option Int := none
  intervalSeconds : Int := 0
  timeoutSeconds : Int := 0
  consecutiveFailureThreshold : Int := 0
deriving DecidableEq

inductive TrafficMode where
  | unset
  | inplace
  | other (text : String)
deriving DecidableEq

structure IstioTraffic where
  virtualServiceRefs : List String := []
  destinationRuleRefs : List String := []
deriving DecidableEq

structure Traffic where
  enabled : Bool := false
  mode : TrafficMode := .unset
  istio : Option IstioTraffic := none
  servicePort : Option Int := none
deriving DecidableEq

structure KnativeAdoptionSpec where
  sourceRef : SourceRef
  mode : Mode := .unset
  primaryContainer : String := ""
  autoscaling : Autoscaling := {}
  scaleDownProbe : ScaleDownProbe := {}
  eventingBroker : Option String := none
  traffic : Option Traffic := none
deriving DecidableEq

/-- The raw JSON of a snapshotted spec: nothing, or an object as the schema asks. -/
abbrev RawExtension := Option (Obj Literal)

structure TrafficObjectSnapshot where
  name : String
  spec : RawExtension
deriving DecidableEq

structure TrafficSnapshot where
  virtualServices : List TrafficObjectSnapshot := []
  destinationRules : List TrafficObjectSnapshot := []
deriving DecidableEq

structure SourceSnapshot where
  replicas : Option Int := none
  service : Option ServiceSpec := none
  traffic : Option TrafficSnapshot := none
deriving DecidableEq

inductive ProbeResult where
  | unset
  | true
  | false
  | unknown
deriving DecidableEq

structure ProbeStatus where
  result : ProbeResult
  message : String
  consecutiveErrors : Int
deriving DecidableEq

inductive RouteType where
  | traffic
  | object (kind : TrafficKind)
deriving DecidableEq

structure ObservedRoute where
  type : RouteType
  name : String
  ready : Option Bool
  message : String
deriving DecidableEq

structure TrafficStatus where
  observedRoutes : List ObservedRoute
deriving DecidableEq

inductive ConditionType where
  | adopted
  | sourceQuiesced
  | serviceAdopted
  | scaleDownAllowed
  | eventingReady
  | trafficReady
  | trafficDegraded
  | ready
  | degraded
  | sourceMissing
  | translationDegraded
  | serviceAdoptionRefused
deriving DecidableEq

def ConditionType.text : ConditionType → String
  | .adopted => "Adopted"
  | .sourceQuiesced => "SourceQuiesced"
  | .serviceAdopted => "ServiceAdopted"
  | .scaleDownAllowed => "ScaleDownAllowed"
  | .eventingReady => "EventingReady"
  | .trafficReady => "TrafficReady"
  | .trafficDegraded => "TrafficDegraded"
  | .ready => "Ready"
  | .degraded => "Degraded"
  | .sourceMissing => "SourceMissing"
  | .translationDegraded => "TranslationDegraded"
  | .serviceAdoptionRefused => "ServiceAdoptionRefused"

inductive Reason where
  | adopted
  | sourceMissing
  | translationFailed
  | serviceApplyFailed
  | knativeServiceNotReady
  | knativeServiceReady
  | sourceQuiesced
  | sourceScaleFailed
  | reconciling
  | trafficReady
  | trafficReconcileFailed
  | serviceSwapping
  | serviceSwapTypeRefuse
  | serviceSwapOwnedByOS
  | serviceSwapDeleteFail
  | scaleDownAllowed
  | scaleDownBlocked
  | scaleDownProbeError
  | guardSkipped
  | awaitingChildrenGC
  | restoringService
  | restoringSource
  | restoreFailed
  | released
deriving DecidableEq

structure Condition where
  type : ConditionType
  status : ConditionStatus
  reason : Reason
  message : String
  observedGeneration : Int
deriving DecidableEq

structure KnativeAdoptionStatus where
  conditions : List Condition := []
  url : String := ""
  sourceSnapshot : Option SourceSnapshot := none
  lastScaleDownProbe : Option ProbeStatus := none
  traffic : Option TrafficStatus := none
deriving DecidableEq

structure KnativeAdoption extends ObjectMeta where
  spec : KnativeAdoptionSpec
  status : KnativeAdoptionStatus := {}
deriving DecidableEq

/-- A decision handed to the flusher. -/
structure Decision where
  ns : String
  ksvcName : String
  adoptionName : String
  desiredMinScale : Int
  reason : String
deriving DecidableEq

def Decision.key (d : Decision) : NamespacedName := ⟨d.ns,d.ksvcName⟩

/-! Names shared by the controllers. -/

def finalizerRestoreSourceService : String := "ifaas.ifbiu.com/restore-source-service"

def finalizerRestoreSource : String := "ifaas.ifbiu.com/restore-source"

def annoServiceManagedBy : String := "ifaas.ifbiu.com/managed-by"

def annoServiceManagedByValue : String := "knative-autopilot"

def labelEnabled : String := "ifaas.ifbiu.com/knative-autopilot"

def labelEnabledValue : String := "enabled"

def labelManagedByWatcher : String := "ifaas.ifbiu.com/managed-by-watcher"

def labelManagedByWatcherValue : String := "true"

def knativeServingAPIVersion : String := "serving.knative.dev/v1"

def sourceName (a : KnativeAdoption) : String :=
  if a.spec.sourceRef.name ≠ "" then a.spec.sourceRef.name else a.name

end Ifaas
