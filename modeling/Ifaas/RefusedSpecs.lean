import Ifaas.Course
import Ifaas.Webhook

/-! Adoptions the webhook would turn down. The webhook is installed fail-open, so a source of
another kind or namespace, or one with an autoscaler, can reach the controller. A pass looks
at none of the three: whether it writes depends on the stages it has for everything else. -/
namespace Ifaas
open Library

/-- The webhook rejects the source reference, or finds an autoscaler on the source. -/
inductive Illegal (a : KnativeAdoption) (c : Cluster) : Prop where
  | kind (set : a.spec.sourceRef.kind ≠ .unset) (other : a.spec.sourceRef.kind ≠ .deployment)
  | crossNamespace (set : a.spec.sourceRef.ns ≠ "") (away : a.spec.sourceRef.ns ≠ a.ns)
  | autoscaled (dep : Deployment) (found : (apiserver.succeed (Webhook.checkSourceExists a) c).1 = .ok dep)
      (h : HorizontalPodAutoscaler) (listed : h ∈ c.hpas) (here : h.ns = a.ns)
      (targets : Webhook.targetsDeployment dep h = true)

/-- One of the two checks against the cluster ends with an error. -/
def Rejected (a : KnativeAdoption) (c : Cluster) : Prop :=
  (∃ err, (apiserver.succeed (Webhook.checkSourceExists a) c).1 = .error err) ∨
    ∃ dep err, (apiserver.succeed (Webhook.checkSourceExists a) c).1 = .ok dep ∧
      (apiserver.succeed (Webhook.checkNoHPA a dep) c).1 = some err

theorem rejected_of_illegal (a : KnativeAdoption) (c : Cluster) (illegal : Illegal a c) : Rejected a c := by
  cases illegal with
  | kind set other =>
    left
    unfold Webhook.checkSourceExists
    rw [if_pos ⟨set,other⟩]
    exact ⟨_,rfl⟩
  | crossNamespace set away =>
    left
    unfold Webhook.checkSourceExists
    dsimp only
    split
    · exact ⟨_,rfl⟩
    · split
      · exact ⟨_,rfl⟩
      · exact ⟨_,rfl⟩
  | autoscaled dep found h listed here targets =>
    right
    have some_ : ((c.hpas.filter (fun h => h.ns = a.ns)).find? (Webhook.targetsDeployment dep)).isSome = true :=
      List.find?_isSome.mpr ⟨h,List.mem_filter.mpr ⟨listed,decide_eq_true here⟩,targets⟩
    obtain ⟨first,scan⟩ := Option.isSome_iff_exists.mp some_
    refine ⟨dep,?_⟩
    unfold Webhook.checkNoHPA Client.listHPAs
    have listing : (apiserver.effect c (.listHPAs a.ns)).2 = .ok (c.hpas.filter (fun h => h.ns = a.ns)) := rfl
    rw [succeed_ask,listing]
    dsimp only
    rw [scan]
    exact ⟨_,found,rfl⟩

/-- A pass leaves Deployments, Services and Knative Services alone exactly if it turns off before
its first write. -/
theorem calm_iff_stops (env : Cluster → Cluster → Prop) (r : KnativeAdoptionReconciler) (a : KnativeAdoption) (c d : Cluster)
    (log : CallLog) (done : Reconciled) (run : Run apiserver env (reconcileAdoption r a) c log (some done) d) :
    Calm [.adoptions,.traffic] log ↔ (turn a log).stops = true := by
  have wrote := wrote_of_run r a c d log done run
  generalize turn a log = off at wrote ⊢
  cases wrote with
  | nothing _ _ stops calm => exact iff_of_true calm stops
  | deleted front before fault key answer calm =>
    refine iff_of_false (fun quiet => ?_) Bool.false_ne_true
    have written := quiet ⟨before,fault,.deleteService key,answer⟩ (by simp) .services rfl
    simp at written
  | applied front tail before fault sent answer key owner others reached =>
    refine iff_of_false (fun quiet => ?_) Bool.false_ne_true
    have written := quiet ⟨before,fault,.applyKService sent,answer⟩ (by simp) .ksvcs rfl
    simp at written

/-- What the webhook turns down is left alone exactly in the passes that turn off before their
first write: the source is missing, unread or not translatable, the Service of the adoption's
name is unread or refused, or the traffic stage fails. -/
theorem refused_untouched_iff (env : Cluster → Cluster → Prop) (r : KnativeAdoptionReconciler) (a : KnativeAdoption)
    (c d : Cluster) (log : CallLog) (done : Reconciled)
    (run : Run apiserver env (reconcileAdoption r a) c log (some done) d) :
    (Illegal a c → Rejected a c) ∧
      ((Illegal a c → Calm [.adoptions,.traffic] log) ↔ (Illegal a c → (turn a log).stops = true)) :=
  ⟨rejected_of_illegal a c,imp_congr_right (fun _ => calm_iff_stops env r a c d log done run)⟩

namespace Sample

def statefulSet : KnativeAdoption :=
  { adoption with spec := { adoption.spec with sourceRef := { adoption.spec.sourceRef with kind := .other "StatefulSet" } } }

/-- One of its routes has no name. -/
def blankRoute : KnativeAdoption :=
  { statefulSet with spec := { statefulSet.spec with
      traffic := some { enabled := true, istio := some { virtualServiceRefs := [""] } } } }

/-- The source is in another namespace; the adopted namespace has a Deployment of its name. -/
def elsewhere : KnativeAdoption :=
  { adoption with spec := { adoption.spec with sourceRef := { adoption.spec.sourceRef with ns := "staging" } } }

def autoscaler : HorizontalPodAutoscaler where
  ns := "prod"
  name := "web"
  targetKind := "Deployment"
  targetAPIVersion := "apps/v1"
  targetName := "web"

/-- An autoscaler scales the source. -/
def autoscaled : Cluster := { cluster with hpas := [autoscaler] }

def adoptedAnyway (a : KnativeAdoption) (c : Cluster) : CallLog × Option Reconciled × Cluster :=
  apiserver.exec (reconcileAdoption reconciler a) (List.replicate 8 .none) c

/-- A pass without a fault ends well and writes a Service, though the webhook would say no. -/
structure AdoptedIllegally (a : KnativeAdoption) (c : Cluster) : Prop where
  illegal : Illegal a c
  ends : (adoptedAnyway a c).2.1.any (fun done => done.err.isNone) = true
  writes : (adoptedAnyway a c).1.any (fun e => e.request.part = some .services) = true

end Sample

/-- A StatefulSet whose routes name no VirtualService is left alone, though its pass goes as far as
the traffic stage. -/
theorem refused_untouched_sample :
    let c := { Sample.cluster with services := .ofList [] }
    let pass := Sample.adoptedAnyway Sample.blankRoute c
    Illegal Sample.blankRoute c ∧ turn Sample.blankRoute pass.1 = .unrouted ∧ pass.2.1.isSome = true ∧
      Calm [.adoptions,.traffic] pass.1 := by
  intro c pass
  have illegal : Illegal Sample.blankRoute c := .kind nofun nofun
  have finished : pass.2.1.isSome = true := by decide +kernel
  have off : turn Sample.blankRoute pass.1 = .unrouted := by decide +kernel
  obtain ⟨done,ended⟩ := Option.isSome_iff_exists.mp finished
  have run : Run apiserver Drift (reconcileAdoption Sample.reconciler Sample.blankRoute) c pass.1 (some done) pass.2.2 := by
    rw [← ended]
    exact run_exec apiserver Drift Drift.refl _ _ _
  refine ⟨illegal,off,finished,(refused_untouched_iff Drift _ _ c _ _ done run).2.mpr (fun _ => ?_) illegal⟩
  rw [off]
  rfl

/-- A StatefulSet, a source of another namespace and a source with an autoscaler are adopted. -/
theorem illegal_adopted :
    Sample.AdoptedIllegally Sample.statefulSet Sample.cluster ∧ Sample.AdoptedIllegally Sample.elsewhere Sample.cluster ∧
      Sample.AdoptedIllegally Sample.adoption Sample.autoscaled := by
  refine ⟨⟨.kind nofun nofun,?_,?_⟩,⟨.crossNamespace (by decide) (by decide),?_,?_⟩,⟨?_,?_,?_⟩⟩
  case refine_5 =>
    exact .autoscaled Sample.deployment rfl Sample.autoscaler (List.mem_singleton_self _) rfl (by decide +kernel)
  all_goals decide +kernel

end Ifaas
