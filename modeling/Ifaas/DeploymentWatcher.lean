import Ifaas.Cluster

/-! The Deployment watcher and the projector behind it: a labelled Deployment gets a
KnativeAdoption whose spec is read from the Deployment's annotations, and an
adoption the watcher made goes away with the label. -/
namespace Ifaas
open Library

/-! Projection of annotations. -/

inductive ParsedInt where
  | value (n : Int)
  | malformed
  | outOfRange
deriving DecidableEq

/-- The loop of `strconv.ParseUint(digits, 10, 32)`: a number that gets too large is reported before
the rest of the text is looked at. -/
def scanDigits (n : Nat) : List Char → ParsedInt
  | [] => .value n
  | c::rest =>
    if c.isDigit then
      if 10 * n + (c.toNat - '0'.toNat) < 2 ^ 32 then scanDigits (10 * n + (c.toNat - '0'.toNat)) rest else .outOfRange
    else .malformed

def parseDigits (digits : List Char) : ParsedInt := if digits = [] then .malformed else scanDigits 0 digits

def inInt32 (n : Int) : ParsedInt := if -(2 ^ 31) ≤ n ∧ n < 2 ^ 31 then .value n else .outOfRange

/-- `strconv.ParseInt(raw, 10, 32)`. -/
def parseIntText (raw : String) : ParsedInt :=
  let (negative,digits) :=
    match raw.toList with
    | '-'::rest => (true,rest)
    | '+'::rest => (false,rest)
    | chars => (false,chars)
  match parseDigits digits with
  | .value n => inInt32 (if negative then -n else n)
  | failure => failure

def invalidInt32 (key raw cause : String) : String :=
  "annotation " ++ key ++ "=" ++ quote raw ++ " is not a valid int32: strconv.ParseInt: parsing " ++ quote raw ++
    ": " ++ cause

/-- The number under an annotation, with the warnings so far. -/
def parseInt32 (ann : Labels) (key : String) (warnings : List String) : Option Int × List String :=
  match ann.lookup key with
  | none => (none,warnings)
  | some raw =>
    if raw = "" then (none,warnings)
    else
      match parseIntText raw with
      | .value n => (some n,warnings)
      | .malformed => (none,warnings++[invalidInt32 key raw "invalid syntax"])
      | .outOfRange => (none,warnings++[invalidInt32 key raw "value out of range"])

def annoMode : String := "ifaas.ifbiu.com/mode"

def annoPrimaryContainer : String := "ifaas.ifbiu.com/primary-container"

def annoMinScale : String := "ifaas.ifbiu.com/min-scale"

def annoMaxScale : String := "ifaas.ifbiu.com/max-scale"

def annoTargetConcurrency : String := "ifaas.ifbiu.com/target-concurrency"

def annoScaleDownPath : String := "ifaas.ifbiu.com/scaledown-path"

def annoScaleDownPort : String := "ifaas.ifbiu.com/scaledown-port"

def annoScaleDownIntervalSeconds : String := "ifaas.ifbiu.com/scaledown-interval-seconds"

def annoScaleDownTimeoutSeconds : String := "ifaas.ifbiu.com/scaledown-timeout-seconds"

def annoScaleDownFailureThreshold : String := "ifaas.ifbiu.com/scaledown-failure-threshold"

def annoEventingBroker : String := "ifaas.ifbiu.com/eventing-broker"

def projectAutoscaling (ann : Labels) (warnings : List String) : Autoscaling × List String :=
  let (minScale,warnings) := parseInt32 ann annoMinScale warnings
  let (maxScale,warnings) := parseInt32 ann annoMaxScale warnings
  let (target,warnings) := parseInt32 ann annoTargetConcurrency warnings
  ({ minScale := minScale, maxScale := maxScale, targetConcurrency := target },warnings)

def projectScaleDownProbe (ann : Labels) (warnings : List String) : ScaleDownProbe × List String :=
  let (port,warnings) := parseInt32 ann annoScaleDownPort warnings
  let (interval,warnings) := parseInt32 ann annoScaleDownIntervalSeconds warnings
  let (timeout,warnings) := parseInt32 ann annoScaleDownTimeoutSeconds warnings
  let (threshold,warnings) := parseInt32 ann annoScaleDownFailureThreshold warnings
  ({ path := ann.value annoScaleDownPath
     port := port
     intervalSeconds := interval.getD 0
     timeoutSeconds := timeout.getD 0
     consecutiveFailureThreshold := threshold.getD 0 },warnings)

def Mode.ofText (text : String) : Mode :=
  if text = "serving" then .serving else if text = "eventing" then .eventing else .other text

def fromDeployment (dep : Deployment) : KnativeAdoptionSpec × List String :=
  let ann := dep.annotations
  let (autoscaling,warnings) := projectAutoscaling ann []
  let (probe,warnings) := projectScaleDownProbe ann warnings
  ({ sourceRef := { kind := .deployment, name := dep.name }
     mode := if ann.value annoMode = "" then .serving else Mode.ofText (ann.value annoMode)
     primaryContainer := ann.value annoPrimaryContainer
     autoscaling := autoscaling
     scaleDownProbe := probe
     eventingBroker := if ann.value annoEventingBroker = "" then none else some (ann.value annoEventingBroker) },
   warnings)

/-! The watcher. -/

namespace DeploymentWatcher

def isAdoptionLabelEnabled (dep : Deployment) : Bool := dep.labels.value labelEnabled = labelEnabledValue

def watcherOwned (a : KnativeAdoption) : Bool := a.labels.value labelManagedByWatcher = labelManagedByWatcherValue

def deleteIfWatcherOwned (key : NamespacedName) : Op (Option ApiError) := do
  match ← Client.getAdoption key with
  | .error err => if err.isNotFound then return none else return some err
  | .ok existing =>
    if watcherOwned existing then
      match ← Client.deleteAdoption existing.key with
      | .error err =>
        if err.isNotFound then return none else return some (err.wrap "delete watcher-owned adoption")
      | .ok _ => return none
    else return none

def watcherLabels : Labels :=
  [(labelManagedByWatcher,labelManagedByWatcherValue),(labelEnabled,labelEnabledValue)]

def submitAdoption (dep : Deployment) : Op (Option ApiError) := do
  match ← Client.applyAdoption dep.key watcherLabels (fromDeployment dep).1 with
  | .error err => return some (err.wrap "ssa watcher-owned adoption")
  | .ok _ => return none

def applyAdoption (dep : Deployment) : Op (Option ApiError) := do
  match ← Client.getAdoption dep.key with
  | .ok existing => if watcherOwned existing then submitAdoption dep else return none
  | .error err => if err.isNotFound then submitAdoption dep else return some err

def reconcile (key : NamespacedName) : Op (Option ApiError) := do
  match ← Client.getDeployment key with
  | .error err => if err.isNotFound then deleteIfWatcherOwned key else return some err
  | .ok dep => if isAdoptionLabelEnabled dep then applyAdoption dep else deleteIfWatcherOwned key

end DeploymentWatcher
end Ifaas
