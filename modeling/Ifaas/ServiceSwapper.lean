import Ifaas.Cluster

/-! The Service swapper. A Service that has the name of the adoption is classified
before the Knative Service is applied: it is left alone, it makes the adoption
refuse, or its spec goes into the snapshot and it is deleted. -/
namespace Ifaas
open Library

inductive SwapDecision where
  | pass
  | takenOver
  | refused
deriving DecidableEq

/-- A decision with the reason and message for a condition. -/
inductive SwapVerdict where
  | pass (message : String)
  | takenOver
  | refused (reason : Reason) (message : String)
deriving DecidableEq

def SwapVerdict.decision : SwapVerdict → SwapDecision
  | .pass _ => .pass
  | .takenOver => .takenOver
  | .refused _ _ => .refused

def classifyServiceForSwap (svc : Option Service) : SwapVerdict :=
  match svc with
  | none => .pass ""
  | some svc =>
    if svc.annotations.value annoServiceManagedBy = annoServiceManagedByValue then
      .pass "service already adopted"
    else
      match svc.controllerOf with
      | some owner =>
        if owner.apiVersion = knativeServingAPIVersion then .pass "service derived from Knative Route"
        else .refused .serviceSwapOwnedByOS
          ("service is owned by " ++ owner.apiVersion ++ "/" ++ owner.kind ++ " and cannot be adopted")
      | none =>
        match svc.spec.type with
        | .loadBalancer | .nodePort | .externalName =>
          .refused .serviceSwapTypeRefuse
            ("service type " ++ quote svc.spec.type.text ++ " is not supported for adoption")
        | .clusterIP | .unset => .takenOver

/-- The spec without the addresses the apiserver assigns. -/
def ServiceSpec.stripAddresses (spec : ServiceSpec) : ServiceSpec := { spec with clusterIP := "", clusterIPs := [] }

/-- Change the snapshot, which is created empty where there is none. -/
def KnativeAdoption.withSnapshot (a : KnativeAdoption) (f : SourceSnapshot → SourceSnapshot) : KnativeAdoption :=
  { a with status := { a.status with sourceSnapshot := some (f (a.status.sourceSnapshot.getD {})) } }

/-- Record the spec of the Service unless one is recorded already. -/
def snapshotService (a : KnativeAdoption) (svc : Service) : KnativeAdoption :=
  a.withSnapshot (fun snapshot =>
    { snapshot with service := snapshot.service.or (some svc.spec.stripAddresses) })

def snapshotAndDeleteService (a : KnativeAdoption) (svc : Service) :
    Op (KnativeAdoption × Except ApiError Unit) := do
  let a := snapshotService a svc
  match ← Client.deleteService svc.key with
  | .error err =>
    if err.isNotFound then return (a,.ok ())
    else return (a,.error (err.wrap "delete pre-existing service"))
  | .ok _ => return (a,.ok ())

def serviceSwapping (a : KnativeAdoption) : KnativeAdoption :=
  setCondition (removeCondition a .serviceAdoptionRefused) .serviceAdopted .false .serviceSwapping
    "deleting pre-existing same-name Service before creating KSvc"

/-- Record the Service and delete it. -/
def takeOver (a : KnativeAdoption) (svc : Service) : Op (KnativeAdoption × Except ApiError SwapDecision) := do
  match ← snapshotAndDeleteService (serviceSwapping a) svc with
  | (a,.error err) =>
    return (setCondition a .degraded .true .serviceSwapDeleteFail err.message,.error err)
  | (a,.ok _) => return (a,.ok .takenOver)

/-- Act on the Service found under the adoption's name. -/
def swapFound (a : KnativeAdoption) (svc : Option Service) :
    Op (KnativeAdoption × Except ApiError SwapDecision) := do
  match classifyServiceForSwap svc with
  | .pass _ => return (removeCondition a .serviceAdoptionRefused,.ok .pass)
  | .refused reason msg =>
    let a := setCondition a .serviceAdoptionRefused .true reason msg
    let a := setCondition a .serviceAdopted .false reason msg
    return (a,.ok .refused)
  | .takenOver =>
    match svc with
    | some svc => takeOver a svc
    | none => return (a,.ok .pass)

def swapService (a : KnativeAdoption) : Op (KnativeAdoption × Except ApiError SwapDecision) := do
  match ← Client.getService a.key with
  | .error err =>
    if err.isNotFound then swapFound a none
    else return (a,.error (err.wrap "get same-name service"))
  | .ok svc => swapFound a (some svc)

theorem classify_knativeOwned (svc : Service) (owned : knativeOwned svc = true) :
    (classifyServiceForSwap (some svc)).decision = .pass := by
  unfold knativeOwned at owned
  cases held : svc.controllerOf with
  | none => simp [held] at owned
  | some owner =>
    simp only [held,decide_eq_true_eq] at owned
    simp only [classifyServiceForSwap,held,owned,if_true]
    split <;> rfl

theorem classify_takenOver_unowned (svc : Service)
    (taken : (classifyServiceForSwap (some svc)).decision = .takenOver) : knativeOwned svc = false := by
  cases owned : knativeOwned svc with
  | false => rfl
  | true => rw [classify_knativeOwned svc owned] at taken; cases taken

theorem classify_managed (svc : Service)
    (managed : svc.annotations.value annoServiceManagedBy = annoServiceManagedByValue) :
    classifyServiceForSwap (some svc) = .pass "service already adopted" := by
  simp [classifyServiceForSwap,managed]

end Ifaas
