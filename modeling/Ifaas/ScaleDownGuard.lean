import Ifaas.Cluster
import Ifaas.Translator

/-! The scale-down guard. One round lists the running pods of the Knative Service,
probes each of them, votes, and writes the verdict into the status of the adoption;
a flusher, when there is one, is handed the min-scale that follows from it. -/
namespace Ifaas
open Library

structure KnativeAdoptionReconciler where
  serviceReady : Option (KService → Bool × String) := none
  prober : Bool := true
  flusher : Bool := true

structure GuardConfig where
  path : String
  interval : Int
  timeout : Int
  failureThreshold : Int
deriving DecidableEq

def positiveOr (value default : Int) : Int := if value ≤ 0 then default else value

def guardConfig (a : KnativeAdoption) : GuardConfig where
  path := if a.spec.scaleDownProbe.path = "" then "/scaledownz" else a.spec.scaleDownProbe.path
  interval := positiveOr a.spec.scaleDownProbe.intervalSeconds 30
  timeout := positiveOr a.spec.scaleDownProbe.timeoutSeconds 2
  failureThreshold := positiveOr a.spec.scaleDownProbe.consecutiveFailureThreshold 20

def guardEnabled (a : KnativeAdoption) : Bool :=
  match a.spec.autoscaling.minScale with
  | none => true
  | some minScale => minScale = 0

def guardRequeueAfter (a : KnativeAdoption) : Int := (guardConfig a).interval

/-- Addition of one in int32. -/
def succ32 (count : Int) : Int := Int.bmod (count + 1) (2 ^ 32)

def KnativeAdoption.withProbe (a : KnativeAdoption) (probe : ProbeStatus) : KnativeAdoption :=
  { a with status := { a.status with lastScaleDownProbe := some probe } }

def mergeProbeStatus (prev : Option ProbeStatus) (outcome : ScaleDown.Outcome) (msg : String)
    (hadError : Bool) : ProbeStatus where
  result :=
    match outcome with
    | .allowZero => .true
    | .block => .false
    | .noPods => .unknown
  message := msg
  consecutiveErrors :=
    match hadError,prev with
    | true,some status => succ32 status.consecutiveErrors
    | true,none => 1
    | false,_ => 0

def bumpProbeError (a : KnativeAdoption) (msg : String) : KnativeAdoption :=
  a.withProbe
    { result := .unknown
      message := msg
      consecutiveErrors :=
        match a.status.lastScaleDownProbe with
        | some prev => succ32 prev.consecutiveErrors
        | none => 1 }

def maybeMarkDegraded (a : KnativeAdoption) (threshold : Int) : KnativeAdoption :=
  match a.status.lastScaleDownProbe with
  | none => a
  | some probe =>
    if probe.consecutiveErrors < threshold then a
    else setCondition a .degraded .true .scaleDownProbeError
      ("consecutive /scaledownz failures = " ++ toString probe.consecutiveErrors ++
        ", threshold = " ++ toString threshold)

/-- The pods that can be asked: running and not terminating. -/
def probedPods (pods : List Pod) : List Pod := pods.filter (fun p => !p.deleting && p.phase = .running)

def listKSvcPods (ns ksvcName : String) : Op (Except ApiError (List Pod)) := do
  match ← Client.listPods ns ksvcName with
  | .error err => return .error (err.wrap "list ksvc pods")
  | .ok items => return .ok (probedPods items)

def resolveProbePort (a : KnativeAdoption) (pod : Pod) : Int :=
  match a.spec.scaleDownProbe.port with
  | some port => if port > 0 then port else userPort
  | none => userPort
where
  userPort : Int :=
    match pod.containers with
    | [] => 0
    | first::rest =>
      let c := ((first::rest).find? (fun c => c.name = "user-container")).getD first
      match c.ports with
      | [] => 0
      | p::_ => p.containerPort

def probeAll (a : KnativeAdoption) (path : String) (timeout : Int) : List Pod → Op (List ScaleDown.Result)
  | [] => return []
  | pod::rest => do
    let result ← Client.probe pod.ns pod.name (resolveProbePort a pod) path timeout
    let results ← probeAll a path timeout rest
    return result::results

def enqueueMinScale (r : KnativeAdoptionReconciler) (a : KnativeAdoption) (desired : Int) (reason : String) :
    Op Unit := do
  if r.flusher then
    let _ ← Client.enqueue ⟨a.ns,a.name,a.name,desired,reason⟩
    return ()
  else return ()

def roundMessage (results : List ScaleDown.Result) : String :=
  let t := ScaleDown.tally results
  "ok=" ++ toString t.ok ++ " refused=" ++ toString t.refused ++ " errored=" ++ toString t.errored ++
    " (n=" ++ toString results.length ++ ")"

/-- The conditions and the decision that follow from a vote. -/
def recordOutcome (r : KnativeAdoptionReconciler) (a : KnativeAdoption) (outcome : ScaleDown.Outcome)
    (msg : String) : Op KnativeAdoption := do
  match outcome with
  | .allowZero =>
    let a := setCondition a .scaleDownAllowed .true .scaleDownAllowed msg
    let a := clearConditionIfReason a .degraded .scaleDownProbeError
    enqueueMinScale r a 0 "scaledownz=true"
    return a
  | .block =>
    let a := setCondition a .scaleDownAllowed .false .scaleDownBlocked msg
    enqueueMinScale r a 1 "ScaleDownBlocked"
    return a
  | .noPods =>
    let a := setCondition a .scaleDownAllowed .true .scaleDownAllowed "ksvc already at zero; no pods to probe"
    let a := clearConditionIfReason a .degraded .scaleDownProbeError
    enqueueMinScale r a 0 "no-pods"
    return a

def runScaleDownGuard (r : KnativeAdoptionReconciler) (a : KnativeAdoption) :
    Op (KnativeAdoption × ScaleDown.Outcome × Int) := do
  let config := guardConfig a
  if !r.prober then
    return (setCondition a .scaleDownAllowed .unknown .guardSkipped "prober not configured",.noPods,config.interval)
  else
    match ← listKSvcPods a.ns a.name with
    | .error err =>
      let a := bumpProbeError a ("list pods: " ++ err.message)
      let a := setCondition a .scaleDownAllowed .unknown .scaleDownProbeError err.message
      return (maybeMarkDegraded a config.failureThreshold,.block,config.interval)
    | .ok pods =>
      let results ← probeAll a config.path config.timeout pods
      let outcome := ScaleDown.vote results
      let msg := roundMessage results
      let a := a.withProbe (mergeProbeStatus a.status.lastScaleDownProbe outcome msg
        ((ScaleDown.tally results).errored > 0))
      let a ← recordOutcome r a outcome msg
      return (maybeMarkDegraded a config.failureThreshold,outcome,config.interval)

end Ifaas
