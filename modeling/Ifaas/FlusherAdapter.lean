import Ifaas.Cluster
import Ifaas.Translator

/-! What the flusher does with a decision: the min-scale annotation of the Knative Service is
compared with the decision and patched where it differs. A decision that keeps failing is
reported on its adoption. -/
namespace Ifaas
open Library

def buildMinScaleMergePatch (value : String) : Labels := [( autoscalingMinScaleAnnotation,value)]

/-- `KSvcMinScalePatcher.Patch`: the answer says whether there was nothing to do. -/
def patchMinScale (d : Decision) : Op (Except ApiError Bool) := do
  match ← Client.getKService d.key with
  | .error err => if err.isNotFound then return .ok true else return .error (err.wrap "get ksvc")
  | .ok live =>
    let desired := toString d.desiredMinScale
    if live.template.annotations.value autoscalingMinScaleAnnotation = desired then return .ok true
    else
      match ← Client.patchKService live.key (buildMinScaleMergePatch desired) with
      | .error err => return .error (err.wrap "patch ksvc min-scale")
      | .ok _ => return .ok false

/-- `NewFlusherFailureSink`: Degraded is written to the adoption the decision came from, as far
as it can be read and patched. -/
def newFlusherFailureSink (d : Decision) (attempts : Nat) (lastErr : ApiError) : Op Unit := do
  match ← Client.getAdoption ⟨d.ns,d.adoptionName⟩ with
  | .error _ => return ()
  | .ok a =>
    let msg := "guard flush failed " ++ toString attempts ++ " times in a row: " ++ lastErr.message
    let _ ← Client.patchStatus a (setCondition a .degraded .true .scaleDownProbeError msg)
    return ()

end Ifaas
