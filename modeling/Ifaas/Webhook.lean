import Ifaas.TrafficAdapter

/-! The admission webhook of KnativeAdoptions: defaulting of the source namespace and
validation against the live cluster. -/
namespace Ifaas.Webhook
open Library

def SourceKind.text : SourceKind → String
  | .unset => ""
  | .deployment => "Deployment"
  | .other text => text

def default (a : KnativeAdoption) : KnativeAdoption :=
  if a.spec.sourceRef.ns = "" then
    { a with spec := { a.spec with sourceRef := { a.spec.sourceRef with ns := a.ns } } }
  else a

def reservedLabels : List String := ["ifaas.ifbiu.com/managed-by","ifaas.ifbiu.com/owner"]

def reservedAnnotations : List String := ["ifaas.ifbiu.com/managed-by","ifaas.ifbiu.com/managed-by-watcher"]

def checkReservedKeys (a : KnativeAdoption) : Option ApiError :=
  match reservedLabels.find? (fun k => a.labels.has k) with
  | some k => some (.text ("label " ++ quote k ++ " is reserved for the operator"))
  | none =>
    match reservedAnnotations.find? (fun k => a.annotations.has k) with
    | some k => some (.text ("annotation " ++ quote k ++ " is reserved for the operator"))
    | none => none

def checkEventing (a : KnativeAdoption) : Option ApiError :=
  if a.spec.mode ≠ .eventing then none
  else if trimSpace (a.spec.eventingBroker.getD "").toList = [] then
    some (.text "spec.eventing.broker is required when spec.mode=eventing")
  else none

def checkSourceExists (a : KnativeAdoption) : Op (Except ApiError Deployment) := do
  let ref := a.spec.sourceRef
  if ref.kind ≠ .unset ∧ ref.kind ≠ .deployment then
    return .error (.text ("spec.sourceRef.kind=" ++ quote (SourceKind.text ref.kind) ++
      " is not supported in M1 (only Deployment)"))
  else if ref.name = "" then return .error (.text "spec.sourceRef.name is required")
  else
    let ns := if ref.ns = "" then a.ns else ref.ns
    if ns ≠ a.ns then
      return .error (.text ("cross-namespace adoption is not supported in M1 (sourceRef.namespace=" ++ quote ns ++
        ", CR namespace=" ++ quote a.ns ++ ")"))
    else
      match ← Client.getDeployment ⟨ns,ref.name⟩ with
      | .error err =>
        if err.isNotFound then
          return .error (.text ("spec.sourceRef points at Deployment " ++ ns ++ "/" ++ ref.name ++
            " which does not exist"))
        else return .error (err.wrap "lookup source Deployment")
      | .ok dep => return .ok dep

def checkPrimaryContainer (a : KnativeAdoption) (dep : Deployment) : Option ApiError :=
  let containers := dep.spec.template.containers
  if a.spec.primaryContainer ≠ "" then
    if containers.any (fun c => c.name = a.spec.primaryContainer) then none
    else some (.text ("spec.primaryContainer=" ++ quote a.spec.primaryContainer ++
      " not found in source Deployment containers"))
  else if containers.length > 1 then
    some (.text ("source Deployment has " ++ toString containers.length ++
      " containers; spec.primaryContainer must be set"))
  else none

def targetsDeployment (dep : Deployment) (h : HorizontalPodAutoscaler) : Bool :=
  h.targetKind = "Deployment" && (h.targetAPIVersion = "" || h.targetAPIVersion = "apps/v1") &&
    h.targetName = dep.name

def checkNoHPA (a : KnativeAdoption) (dep : Deployment) : Op (Option ApiError) := do
  match ← Client.listHPAs a.ns with
  | .error err => return some (err.wrap "scan HPAs")
  | .ok items =>
    match items.find? (targetsDeployment dep) with
    | some h =>
      return some (.text ("source Deployment " ++ dep.ns ++ "/" ++ dep.name ++ " is the scale target of HPA " ++
        quote h.name ++ "; remove the HPA before adopting"))
    | none => return none

def validateSpec (a : KnativeAdoption) : Op (Option ApiError) := do
  match checkReservedKeys a with
  | some err => return some err
  | none =>
    match checkEventing a with
    | some err => return some err
    | none =>
      match ← checkSourceExists a with
      | .error err => return some err
      | .ok dep =>
        match checkPrimaryContainer a dep with
        | some err => return some err
        | none => checkNoHPA a dep

def validateCreate (a : KnativeAdoption) : Op (Option ApiError) := validateSpec a

def sourceRefText (ref : SourceRef) : String :=
  "\x7bKind:" ++ SourceKind.text ref.kind ++ " Name:" ++ ref.name ++ " Namespace:" ++ ref.ns ++ "\x7d"

def validateUpdate (old new : KnativeAdoption) : Op (Option ApiError) := do
  if old.spec.sourceRef ≠ new.spec.sourceRef then
    return some (.text ("spec.sourceRef is immutable: " ++ sourceRefText old.spec.sourceRef ++ " → " ++
      sourceRefText new.spec.sourceRef))
  else if new.deleting then return none
  else validateSpec new

end Ifaas.Webhook
