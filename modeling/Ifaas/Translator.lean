import Ifaas.Api

/-! The translator: a Deployment and its KnativeAdoption become a Knative Service, or
an error that says why the Deployment cannot be adopted. -/
namespace Ifaas

inductive TranslateError where
  | noContainer
  | ambiguousPrimary
  | primaryNotFound (container : String)
  | noContainerPort
  | unsupportedProtocol (protocol : Protocol)
  | hostNetwork
  | hostPID
  | hostIPC
  | hostPort (container : String) (port : Int)
deriving DecidableEq

def TranslateError.message : TranslateError → String
  | .noContainer => "translator: deployment has no containers"
  | .ambiguousPrimary => "translator: deployment has >1 container but spec.primaryContainer is empty"
  | .primaryNotFound container =>
    "translator: spec.primaryContainer does not match any container in deployment: " ++ quote container
  | .noContainerPort => "translator: primary container has no ports"
  | .unsupportedProtocol protocol =>
    "translator: primary container port protocol must be TCP: " ++ protocol.text
  | .hostNetwork => "translator: hostNetwork is rejected by Knative"
  | .hostPID => "translator: hostPID is rejected by Knative"
  | .hostIPC => "translator: hostIPC is rejected by Knative"
  | .hostPort container port =>
    "translator: hostPort is rejected by Knative: container " ++ quote container ++ " port " ++ toString port

def autoscalingMinScaleAnnotation : String := "autoscaling.knative.dev/min-scale"

def autoscalingMaxScaleAnnotation : String := "autoscaling.knative.dev/max-scale"

def autoscalingTargetAnnotation : String := "autoscaling.knative.dev/target"

def managedByLabel : String := "ifaas.ifbiu.com/managed-by"

def managedByValue : String := "knative-autopilot"

def ownerLabel : String := "ifaas.ifbiu.com/owner"

/-- The first port with a host port, container by container. -/
def firstHostPort (containers : List Container) : Option (String × Int) :=
  containers.findSome? (fun c =>
    (c.ports.find? (fun p => p.hostPort ≠ 0)).map (fun p => (c.name,p.hostPort)))

def guardPodSpec (s : PodSpec) : Except TranslateError Unit :=
  if s.hostNetwork then .error .hostNetwork
  else if s.hostPID then .error .hostPID
  else if s.hostIPC then .error .hostIPC
  else match firstHostPort s.containers with
    | some (container,port) => .error (.hostPort container port)
    | none => .ok ()

def pickPrimaryContainer (dep : Deployment) (a : KnativeAdoption) : Except TranslateError Container :=
  match dep.spec.template.containers with
  | [] => .error .noContainer
  | first::rest =>
    if a.spec.primaryContainer ≠ "" then
      match (first::rest).find? (fun c => c.name = a.spec.primaryContainer) with
      | some c => .ok c
      | none => .error (.primaryNotFound a.spec.primaryContainer)
    else if rest ≠ [] then .error .ambiguousPrimary
    else .ok first

def pickUserPort (c : Container) : Except TranslateError Int :=
  match c.ports with
  | [] => .error .noContainerPort
  | p::_ =>
    if p.protocol ≠ .unset ∧ p.protocol ≠ .tcp then .error (.unsupportedProtocol p.protocol)
    else .ok p.containerPort

def guardBlocked (a : KnativeAdoption) : Bool :=
  match a.status.lastScaleDownProbe with
  | none => false
  | some probe => probe.result = .false

def effectiveMinScale (a : KnativeAdoption) : Int :=
  let base := a.spec.autoscaling.minScale.getD 0
  if base = 0 ∧ guardBlocked a then 1 else base

def buildKPAAnnotations (a : KnativeAdoption) : Labels :=
  [( autoscalingMinScaleAnnotation,toString (effectiveMinScale a))] ++
  (match a.spec.autoscaling.maxScale with
    | some maxScale => [( autoscalingMaxScaleAnnotation,toString maxScale)]
    | none => []) ++
  (match a.spec.autoscaling.targetConcurrency with
    | some target => [( autoscalingTargetAnnotation,toString target)]
    | none => [])

theorem buildKPAAnnotations_minScale (a : KnativeAdoption) :
    (buildKPAAnnotations a).lookup autoscalingMinScaleAnnotation = some (toString (effectiveMinScale a)) := by
  unfold buildKPAAnnotations
  rw [List.append_assoc]
  exact List.lookup_cons_self

def sanitizeEnv (src : List EnvVar) : List EnvVar :=
  src.filter (fun e =>
    match e.valueFrom with
    | none => true
    | some from_ => from_.fieldRef.isNone && from_.resourceFieldRef.isNone)

def sanitizePorts (ports : List ContainerPort) : List ContainerPort :=
  match ports with
  | [] => []
  | p::_ => [{ p with name := "", hostPort := 0, hostIP := "" }]

def sanitizeVolumes (src : List Volume) : List Volume :=
  src.filter (fun v =>
    v.configMap.isSome || v.secret.isSome || v.emptyDir.isSome || v.projected.isSome || v.downwardAPI.isSome)

/-- The container restricted to the fields stock Knative accepts. -/
def sanitizeContainer (src : Container) : Container where
  name := src.name
  image := src.image
  command := src.command
  args := src.args
  workingDir := src.workingDir
  ports := sanitizePorts src.ports
  envFrom := src.envFrom
  env := sanitizeEnv src.env
  resources := src.resources
  volumeMounts := src.volumeMounts
  livenessProbe := src.livenessProbe
  readinessProbe := src.readinessProbe
  startupProbe := src.startupProbe
  terminationMessagePath := src.terminationMessagePath
  terminationMessagePolicy := src.terminationMessagePolicy
  imagePullPolicy := src.imagePullPolicy
  securityContext := src.securityContext

def translateLabels (a : KnativeAdoption) : Labels := [(managedByLabel,managedByValue),(ownerLabel,a.name)]

/-- The Knative Service for a Deployment whose primary container is `primary`. -/
def composeKService (dep : Deployment) (a : KnativeAdoption) (primary : Container) : KService where
  ns := dep.ns
  name := dep.name
  labels := translateLabels a
  template :=
    { annotations := buildKPAAnnotations a
      labels := translateLabels a
      spec :=
        { serviceAccountName := dep.spec.template.serviceAccountName
          imagePullSecrets := dep.spec.template.imagePullSecrets
          volumes := sanitizeVolumes dep.spec.template.volumes
          containers := [sanitizeContainer primary] } }

def translate (dep : Deployment) (a : KnativeAdoption) : Except TranslateError KService := do
  guardPodSpec dep.spec.template
  let primary ← pickPrimaryContainer dep a
  let _ ← pickUserPort primary
  return composeKService dep a primary

theorem translate_primary (dep : Deployment) (a : KnativeAdoption) (ksvc : KService)
    (accepted : translate dep a = .ok ksvc) :
    ∃ primary port, pickPrimaryContainer dep a = .ok primary ∧ pickUserPort primary = .ok port ∧
      ksvc = composeKService dep a primary := by
  unfold translate at accepted
  cases guard : guardPodSpec dep.spec.template with
  | error err => simp [guard,bind,Except.bind] at accepted
  | ok checked =>
    cases chosen : pickPrimaryContainer dep a with
    | error err => simp [guard,chosen,bind,Except.bind] at accepted
    | ok primary =>
      cases port : pickUserPort primary with
      | error err => simp [guard,chosen,port,bind,Except.bind] at accepted
      | ok number =>
        refine ⟨primary,number,rfl,port,?_⟩
        simpa [guard,chosen,port,bind,Except.bind,pure,Except.pure] using accepted.symm

theorem translate_ok (dep : Deployment) (a : KnativeAdoption) (ksvc : KService)
    (accepted : translate dep a = .ok ksvc) : ∃ primary, ksvc = composeKService dep a primary := by
  obtain ⟨primary,_,_,_,composed⟩ := translate_primary dep a ksvc accepted
  exact ⟨primary,composed⟩

theorem translate_key (dep : Deployment) (a : KnativeAdoption) (ksvc : KService)
    (accepted : translate dep a = .ok ksvc) : ksvc.key = dep.key := by
  obtain ⟨primary,rfl⟩ := translate_ok dep a ksvc accepted
  rfl

end Ifaas
