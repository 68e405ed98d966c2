import Ifaas.Footprint
import Ifaas.WriteAhead
import Ifaas.Library.Isolation

/-! Namespaces do not interfere. Every call of a pass names an object of the adoption's
namespace, and what the apiserver answers to it and makes of it depends on that namespace
alone; so the passes over the adoptions of one namespace go on as if there were no others. -/
namespace Ifaas
open Library

/-- The namespace a call is about. -/
def Request.ns : Request → String
  | .getAdoption key | .patchFinalizers key _ | .applyAdoption key _ _ | .deleteAdoption key => key.ns
  | .updateAdoption a => a.ns
  | .patchStatus _ current => current.ns
  | .getDeployment key | .applyReplicas key _ => key.ns
  | .patchDeployment _ modified => modified.ns
  | .getService key | .deleteService key => key.ns
  | .createService svc => svc.ns
  | .getKService key | .deleteKService key | .patchKService key _ => key.ns
  | .applyKService ksvc => ksvc.ns
  | .getTraffic key | .createTraffic key _ | .patchTraffic key _ => key.key.ns
  | .listPods ns _ | .probe ns _ _ _ _ | .listHPAs ns => ns
  | .enqueue decision => decision.ns

/-- A call about the namespace that does not create an adoption: a new one gets the next of the
identities, which all namespaces share. -/
def Request.Stays (ns : String) : Request → Prop
  | .applyAdoption _ _ _ => False
  | r => r.ns = ns

theorem Request.Stays.place {ns : String} {r : Request} (stays : r.Stays ns) : r.ns = ns := by
  cases r with
  | applyAdoption key labels spec => exact stays.elim
  | _ => exact stays

/-! The part of the cluster in a namespace. -/

structure Agree (ns : String) (c d : Cluster) : Prop where
  adoptions : ∀ key : NamespacedName, key.ns = ns → d.adoptions.get key = c.adoptions.get key
  deployments : ∀ key : NamespacedName, key.ns = ns → d.deployments.get key = c.deployments.get key
  services : ∀ key : NamespacedName, key.ns = ns → d.services.get key = c.services.get key
  ksvcs : ∀ key : NamespacedName, key.ns = ns → d.ksvcs.get key = c.ksvcs.get key
  traffic : ∀ key : TrafficKey, key.key.ns = ns → d.traffic.get key = c.traffic.get key
  pods : d.pods.filter (fun p => p.ns = ns) = c.pods.filter (fun p => p.ns = ns)
  probes : d.probes ns = c.probes ns
  addresses : ∀ key : NamespacedName, key.ns = ns → d.addresses key = c.addresses key
  queue : d.queue.filter (fun decision => decision.ns = ns) = c.queue.filter (fun decision => decision.ns = ns)
  hpas : d.hpas.filter (fun h => h.ns = ns) = c.hpas.filter (fun h => h.ns = ns)

namespace Agree
variable {ns : String} {c d e : Cluster}

theorem refl (c : Cluster) : Agree ns c c :=
  ⟨fun _ _ => rfl,fun _ _ => rfl,fun _ _ => rfl,fun _ _ => rfl,fun _ _ => rfl,rfl,rfl,fun _ _ => rfl,rfl,rfl⟩

theorem symm (agree : Agree ns c d) : Agree ns d c where
  adoptions key inside := (agree.adoptions key inside).symm
  deployments key inside := (agree.deployments key inside).symm
  services key inside := (agree.services key inside).symm
  ksvcs key inside := (agree.ksvcs key inside).symm
  traffic key inside := (agree.traffic key inside).symm
  pods := agree.pods.symm
  probes := agree.probes.symm
  addresses key inside := (agree.addresses key inside).symm
  queue := agree.queue.symm
  hpas := agree.hpas.symm

theorem trans (first : Agree ns c d) (second : Agree ns d e) : Agree ns c e where
  adoptions key inside := (second.adoptions key inside).trans (first.adoptions key inside)
  deployments key inside := (second.deployments key inside).trans (first.deployments key inside)
  services key inside := (second.services key inside).trans (first.services key inside)
  ksvcs key inside := (second.ksvcs key inside).trans (first.ksvcs key inside)
  traffic key inside := (second.traffic key inside).trans (first.traffic key inside)
  pods := second.pods.trans first.pods
  probes := second.probes.trans first.probes
  addresses key inside := (second.addresses key inside).trans (first.addresses key inside)
  queue := second.queue.trans first.queue
  hpas := second.hpas.trans first.hpas

/-! Writing the same object on both sides. -/

theorem put_congr {κ α : Type} [DecidableEq κ] {keyOf : α → κ} (P : κ → Prop) (s t : Store κ α keyOf)
    (same : ∀ key, P key → t.get key = s.get key) (o : α) (key : κ) (inside : P key) : (t.put o).get key = (s.put o).get key := by
  rw [Store.get_put,Store.get_put,same key inside]

theorem remove_congr {κ α : Type} [DecidableEq κ] {keyOf : α → κ} (P : κ → Prop) (s t : Store κ α keyOf)
    (same : ∀ key, P key → t.get key = s.get key) (gone key : κ) (inside : P key) :
    (t.remove gone).get key = (s.remove gone).get key := by
  rw [Store.get_remove,Store.get_remove,same key inside]

theorem putAdoption (agree : Agree ns c d) (a : KnativeAdoption) :
    Agree ns { c with adoptions := c.adoptions.put a } { d with adoptions := d.adoptions.put a } :=
  { agree with adoptions := put_congr _ _ _ agree.adoptions a }

theorem removeAdoption (agree : Agree ns c d) (key : NamespacedName) :
    Agree ns { c with adoptions := c.adoptions.remove key } { d with adoptions := d.adoptions.remove key } :=
  { agree with adoptions := remove_congr _ _ _ agree.adoptions key }

theorem putDeployment (agree : Agree ns c d) (dep : Deployment) :
    Agree ns { c with deployments := c.deployments.put dep } { d with deployments := d.deployments.put dep } :=
  { agree with deployments := put_congr _ _ _ agree.deployments dep }

theorem putService (agree : Agree ns c d) (svc : Service) :
    Agree ns { c with services := c.services.put svc } { d with services := d.services.put svc } :=
  { agree with services := put_congr _ _ _ agree.services svc }

theorem removeService (agree : Agree ns c d) (key : NamespacedName) :
    Agree ns { c with services := c.services.remove key } { d with services := d.services.remove key } :=
  { agree with services := remove_congr _ _ _ agree.services key }

theorem putKService (agree : Agree ns c d) (ksvc : KService) :
    Agree ns { c with ksvcs := c.ksvcs.put ksvc } { d with ksvcs := d.ksvcs.put ksvc } :=
  { agree with ksvcs := put_congr _ _ _ agree.ksvcs ksvc }

theorem putTraffic (agree : Agree ns c d) (o : TrafficObject) :
    Agree ns { c with traffic := c.traffic.put o } { d with traffic := d.traffic.put o } :=
  { agree with traffic := put_congr _ _ _ agree.traffic o }

end Agree

/-! A call about the namespace, store by store: clusters that agree on the namespace go on to agree, and answer alike. -/

def Alike {α : Type} (ns : String) (x y : Cluster × α) : Prop := Agree ns x.1 y.1 ∧ x.2 = y.2

namespace Agree
variable {ns : String} {c d : Cluster} (agree : Agree ns c d)
include agree

theorem patchFinalizers (key : NamespacedName) (here : key.ns = ns) (finalizers : List String) :
    Alike ns (c.patchFinalizers key finalizers) (d.patchFinalizers key finalizers) := by
  simp only [Cluster.patchFinalizers,agree.adoptions key here]
  cases c.adoptions.get key with
  | none => exact ⟨agree,rfl⟩
  | some stored =>
    dsimp only
    split
    · exact ⟨agree,rfl⟩
    · exact ⟨agree.putAdoption _,rfl⟩

theorem updateAdoption (a : KnativeAdoption) (here : a.ns = ns) : Alike ns (c.updateAdoption a) (d.updateAdoption a) := by
  simp only [Cluster.updateAdoption,agree.adoptions a.key here]
  cases c.adoptions.get a.key with
  | none => exact ⟨agree,rfl⟩
  | some stored =>
    dsimp only
    split
    · exact ⟨agree,rfl⟩
    · split
      · exact ⟨agree.removeAdoption _,rfl⟩
      · exact ⟨agree.putAdoption _,rfl⟩

theorem patchStatus (original current : KnativeAdoption) (here : current.ns = ns) :
    Alike ns (c.patchStatus original current) (d.patchStatus original current) := by
  simp only [Cluster.patchStatus,agree.adoptions current.key here]
  cases c.adoptions.get current.key with
  | none => exact ⟨agree,rfl⟩
  | some stored => exact ⟨agree.putAdoption _,rfl⟩

theorem deleteAdoption (key : NamespacedName) (here : key.ns = ns) : Alike ns (c.deleteAdoption key) (d.deleteAdoption key) := by
  simp only [Cluster.deleteAdoption,agree.adoptions key here]
  cases c.adoptions.get key with
  | none => exact ⟨agree,rfl⟩
  | some stored =>
    dsimp only
    split
    · exact ⟨agree.removeAdoption _,rfl⟩
    · exact ⟨agree.putAdoption _,rfl⟩

theorem applyReplicas (key : NamespacedName) (here : key.ns = ns) (replicas : Int) :
    Alike ns (c.applyReplicas key replicas) (d.applyReplicas key replicas) := by
  simp only [Cluster.applyReplicas,agree.deployments key here]
  cases c.deployments.get key with
  | none => exact ⟨agree,rfl⟩
  | some stored => exact ⟨agree.putDeployment _,rfl⟩

theorem patchDeployment (original modified : Deployment) (here : modified.ns = ns) :
    Alike ns (c.patchDeployment original modified) (d.patchDeployment original modified) := by
  simp only [Cluster.patchDeployment,agree.deployments modified.key here]
  cases c.deployments.get modified.key with
  | none => exact ⟨agree,rfl⟩
  | some stored => exact ⟨agree.putDeployment _,rfl⟩

theorem createService (svc : Service) (here : svc.ns = ns) : Alike ns (c.createService svc) (d.createService svc) := by
  have allocated : d.allocate svc = c.allocate svc := by
    unfold Cluster.allocate
    rw [agree.addresses svc.key here]
  simp only [Cluster.createService,agree.services svc.key here,allocated]
  cases c.services.get svc.key with
  | none => exact ⟨agree.putService _,rfl⟩
  | some stored => exact ⟨agree,rfl⟩

theorem deleteService (key : NamespacedName) (here : key.ns = ns) : Alike ns (c.deleteService key) (d.deleteService key) := by
  simp only [Cluster.deleteService,agree.services key here]
  cases c.services.get key with
  | none => exact ⟨agree,rfl⟩
  | some stored => exact ⟨agree.removeService _,rfl⟩

theorem applyKService (ksvc : KService) (here : ksvc.ns = ns) : Alike ns (c.applyKService ksvc) (d.applyKService ksvc) := by
  simp only [Cluster.applyKService,agree.ksvcs ksvc.key here]
  cases c.ksvcs.get ksvc.key with
  | none => exact ⟨agree.putKService _,rfl⟩
  | some stored =>
    dsimp only
    split
    · exact ⟨agree,rfl⟩
    · exact ⟨agree.putKService _,rfl⟩

theorem deleteKService (key : NamespacedName) (here : key.ns = ns) : Alike ns (c.deleteKService key) (d.deleteKService key) := by
  simp only [Cluster.deleteKService,agree.ksvcs key here]
  cases c.ksvcs.get key with
  | none => exact ⟨agree,rfl⟩
  | some stored => exact ⟨agree.putKService _,rfl⟩

theorem patchKService (key : NamespacedName) (here : key.ns = ns) (annotations : Labels) :
    Alike ns (c.patchKService key annotations) (d.patchKService key annotations) := by
  simp only [Cluster.patchKService,agree.ksvcs key here]
  cases c.ksvcs.get key with
  | none => exact ⟨agree,rfl⟩
  | some stored => exact ⟨agree.putKService _,rfl⟩

theorem createTraffic (key : TrafficKey) (here : key.key.ns = ns) (body : Obj Literal) :
    Alike ns (c.createTraffic key body) (d.createTraffic key body) := by
  simp only [Cluster.createTraffic,agree.traffic key here]
  cases c.traffic.get key with
  | none =>
    dsimp only
    split
    · exact ⟨agree.putTraffic _,rfl⟩
    · exact ⟨agree,rfl⟩
  | some stored => exact ⟨agree,rfl⟩

theorem patchTraffic (key : TrafficKey) (here : key.key.ns = ns) (patch : Obj Literal) :
    Alike ns (c.patchTraffic key patch) (d.patchTraffic key patch) := by
  simp only [Cluster.patchTraffic,agree.traffic key here]
  cases c.traffic.get key with
  | none => exact ⟨agree,rfl⟩
  | some stored =>
    dsimp only
    split
    · exact ⟨agree.putTraffic _,rfl⟩
    · exact ⟨agree,rfl⟩

theorem found {α : Type} {κ : Type} {keyOf : α → κ} (s t : Store κ α keyOf) (key : κ) (same : t.get key = s.get key)
    (missing : ApiError) : Alike ns (c,found s key missing) (d,found t key missing) := by
  refine ⟨agree,?_⟩
  unfold Ifaas.found
  dsimp only
  rw [same]

theorem listPods (service : String) :
    c.pods.filter (fun p => p.ns = ns && p.labels.value "serving.knative.dev/service" = service) =
      d.pods.filter (fun p => p.ns = ns && p.labels.value "serving.knative.dev/service" = service) := by
  have listed (pods : List Pod) : pods.filter (fun p => p.ns = ns && p.labels.value "serving.knative.dev/service" = service) =
      (pods.filter (fun p => p.ns = ns)).filter (fun p => p.labels.value "serving.knative.dev/service" = service) := by
    rw [List.filter_filter]
    exact List.filter_congr (fun p _ => Bool.and_comm _ _)
  rw [listed,listed,agree.pods]

end Agree

/-- What the apiserver makes of a call from the namespace, and answers to it, is the same for
clusters that agree on the namespace. -/
theorem agree_effect (ns : String) (c d : Cluster) (r : Request) (stays : r.Stays ns) (agree : Agree ns c d) :
    Alike ns (c.effect r) (d.effect r) := by
  have here := stays.place
  cases r with
  | getAdoption key => exact agree.found _ _ key (agree.adoptions key here) _
  | patchFinalizers key finalizers => exact agree.patchFinalizers key here finalizers
  | updateAdoption a => exact agree.updateAdoption a here
  | patchStatus original current => exact agree.patchStatus original current here
  | applyAdoption key labels spec => exact stays.elim
  | deleteAdoption key => exact agree.deleteAdoption key here
  | getDeployment key => exact agree.found _ _ key (agree.deployments key here) _
  | applyReplicas key replicas => exact agree.applyReplicas key here replicas
  | patchDeployment original modified => exact agree.patchDeployment original modified here
  | getService key => exact agree.found _ _ key (agree.services key here) _
  | createService svc => exact agree.createService svc here
  | deleteService key => exact agree.deleteService key here
  | getKService key => exact agree.found _ _ key (agree.ksvcs key here) _
  | applyKService ksvc => exact agree.applyKService ksvc here
  | deleteKService key => exact agree.deleteKService key here
  | patchKService key annotations => exact agree.patchKService key here annotations
  | getTraffic key => exact agree.found _ _ key (agree.traffic key here) _
  | createTraffic key body => exact agree.createTraffic key here body
  | patchTraffic key patch => exact agree.patchTraffic key here patch
  | listPods name service =>
    obtain rfl : name = ns := here
    exact ⟨agree,congrArg Except.ok (agree.listPods service)⟩
  | probe name pod port path timeout =>
    obtain rfl : name = ns := here
    exact ⟨agree,congrFun (congrFun (congrFun (congrFun agree.probes.symm pod) port) path) timeout⟩
  | enqueue decision =>
    refine ⟨{ agree with queue := ?_ },rfl⟩
    simp only [Cluster.effect,List.filter_append,agree.queue]
  | listHPAs name =>
    obtain rfl : name = ns := here
    exact ⟨agree,congrArg Except.ok agree.hpas.symm⟩

/-! A call about another namespace. -/

namespace Agree
variable {ns : String}

theorem put_elsewhere {κ α : Type} [DecidableEq κ] {keyOf : α → κ} (P : κ → Prop) (s : Store κ α keyOf) (o : α)
    (away : ¬ P (keyOf o)) (key : κ) (inside : P key) : (s.put o).get key = s.get key :=
  s.get_put_other o key (fun same => away (same ▸ inside))

theorem remove_elsewhere {κ α : Type} [DecidableEq κ] {keyOf : α → κ} (P : κ → Prop) (s : Store κ α keyOf) (gone : κ)
    (away : ¬ P gone) (key : κ) (inside : P key) : (s.remove gone).get key = s.get key := by
  have other : key ≠ gone := fun same => away (same ▸ inside)
  rw [Store.get_remove,if_neg other]

theorem adoptionElsewhere (c : Cluster) (a : KnativeAdoption) (away : a.ns ≠ ns) :
    Agree ns c { c with adoptions := c.adoptions.put a } :=
  { refl c with adoptions := put_elsewhere _ c.adoptions a away }

theorem deploymentElsewhere (c : Cluster) (dep : Deployment) (away : dep.ns ≠ ns) :
    Agree ns c { c with deployments := c.deployments.put dep } :=
  { refl c with deployments := put_elsewhere _ c.deployments dep away }

theorem serviceElsewhere (c : Cluster) (svc : Service) (away : svc.ns ≠ ns) :
    Agree ns c { c with services := c.services.put svc } :=
  { refl c with services := put_elsewhere _ c.services svc away }

theorem ksvcElsewhere (c : Cluster) (ksvc : KService) (away : ksvc.ns ≠ ns) :
    Agree ns c { c with ksvcs := c.ksvcs.put ksvc } :=
  { refl c with ksvcs := put_elsewhere _ c.ksvcs ksvc away }

theorem trafficElsewhere (c : Cluster) (o : TrafficObject) (away : o.key.key.ns ≠ ns) :
    Agree ns c { c with traffic := c.traffic.put o } :=
  { refl c with traffic := put_elsewhere _ c.traffic o away }

end Agree

theorem away_of_held {α : Type} {keyOf : α → NamespacedName} {ns : String} (s : Store NamespacedName α keyOf) (key : NamespacedName)
    (o : α) (held : s.get key = some o) (away : key.ns ≠ ns) : (keyOf o).ns ≠ ns := by
  rw [s.keyed key o held]
  exact away

section Elsewhere
variable {ns : String} (c : Cluster)

theorem patchFinalizers_elsewhere (key : NamespacedName) (away : key.ns ≠ ns) (finalizers : List String) :
    Agree ns c (c.patchFinalizers key finalizers).1 := by
  unfold Cluster.patchFinalizers
  split
  · exact .refl c
  next stored held =>
    dsimp only
    split
    · exact .refl c
    · exact .adoptionElsewhere c _ (away_of_held _ key stored held away)

theorem updateAdoption_elsewhere (a : KnativeAdoption) (away : a.ns ≠ ns) : Agree ns c (c.updateAdoption a).1 := by
  unfold Cluster.updateAdoption
  split
  · exact .refl c
  next stored held =>
    dsimp only
    split
    · exact .refl c
    · split
      · exact { Agree.refl c with adoptions := Agree.remove_elsewhere _ c.adoptions a.key away }
      · exact .adoptionElsewhere c _ (away_of_held _ a.key stored held away)

theorem patchStatus_elsewhere (original current : KnativeAdoption) (away : current.ns ≠ ns) :
    Agree ns c (c.patchStatus original current).1 := by
  unfold Cluster.patchStatus
  split
  · exact .refl c
  next stored held => exact .adoptionElsewhere c _ (away_of_held _ current.key stored held away)

theorem applyAdoption_elsewhere (key : NamespacedName) (away : key.ns ≠ ns) (labels : Labels) (spec : KnativeAdoptionSpec) :
    Agree ns c (c.applyAdoption key labels spec).1 := by
  unfold Cluster.applyAdoption
  split
  · exact { Agree.adoptionElsewhere c _ away with }
  next stored held => exact .adoptionElsewhere c _ (away_of_held _ key stored held away)

theorem deleteAdoption_elsewhere (key : NamespacedName) (away : key.ns ≠ ns) : Agree ns c (c.deleteAdoption key).1 := by
  unfold Cluster.deleteAdoption
  split
  · exact .refl c
  next stored held =>
    split
    · exact { Agree.refl c with adoptions := Agree.remove_elsewhere _ c.adoptions key away }
    · exact .adoptionElsewhere c _ (away_of_held _ key stored held away)

theorem applyReplicas_elsewhere (key : NamespacedName) (away : key.ns ≠ ns) (replicas : Int) :
    Agree ns c (c.applyReplicas key replicas).1 := by
  unfold Cluster.applyReplicas
  split
  · exact .refl c
  next stored held => exact .deploymentElsewhere c _ (away_of_held _ key stored held away)

theorem patchDeployment_elsewhere (original modified : Deployment) (away : modified.ns ≠ ns) :
    Agree ns c (c.patchDeployment original modified).1 := by
  unfold Cluster.patchDeployment
  split
  · exact .refl c
  next stored held => exact .deploymentElsewhere c _ (away_of_held _ modified.key stored held away)

theorem createService_elsewhere (svc : Service) (away : svc.ns ≠ ns) : Agree ns c (c.createService svc).1 := by
  unfold Cluster.createService
  split
  · exact .refl c
  · have key := congrArg NamespacedName.ns (c.allocate_key svc)
    exact .serviceElsewhere c _ (fun same => away (key.symm.trans same))

theorem deleteService_elsewhere (key : NamespacedName) (away : key.ns ≠ ns) : Agree ns c (c.deleteService key).1 := by
  unfold Cluster.deleteService
  split
  · exact .refl c
  · exact { Agree.refl c with services := Agree.remove_elsewhere _ c.services key away }

theorem applyKService_elsewhere (ksvc : KService) (away : ksvc.ns ≠ ns) : Agree ns c (c.applyKService ksvc).1 := by
  unfold Cluster.applyKService
  split
  · exact .ksvcElsewhere c _ away
  next stored held =>
    dsimp only
    split
    · exact .refl c
    · exact .ksvcElsewhere c _ (away_of_held _ ksvc.key stored held away)

theorem deleteKService_elsewhere (key : NamespacedName) (away : key.ns ≠ ns) : Agree ns c (c.deleteKService key).1 := by
  unfold Cluster.deleteKService
  split
  · exact .refl c
  next stored held => exact .ksvcElsewhere c _ (away_of_held _ key stored held away)

theorem patchKService_elsewhere (key : NamespacedName) (away : key.ns ≠ ns) (annotations : Labels) :
    Agree ns c (c.patchKService key annotations).1 := by
  unfold Cluster.patchKService
  split
  · exact .refl c
  next stored held => exact .ksvcElsewhere c _ (away_of_held _ key stored held away)

theorem createTraffic_elsewhere (key : TrafficKey) (away : key.key.ns ≠ ns) (body : Obj Literal) :
    Agree ns c (c.createTraffic key body).1 := by
  unfold Cluster.createTraffic
  split
  · exact .refl c
  · split
    · exact .trafficElsewhere c _ away
    · exact .refl c

theorem patchTraffic_elsewhere (key : TrafficKey) (away : key.key.ns ≠ ns) (patch : Obj Literal) :
    Agree ns c (c.patchTraffic key patch).1 := by
  unfold Cluster.patchTraffic
  split
  · exact .refl c
  · split
    · exact .trafficElsewhere c _ away
    · exact .refl c

end Elsewhere

/-- A call about another namespace leaves the namespace alone. -/
theorem effect_elsewhere (ns : String) (c : Cluster) (r : Request) (away : r.ns ≠ ns) : Agree ns c (c.effect r).1 := by
  cases r with
  | patchFinalizers key finalizers => exact patchFinalizers_elsewhere c key away finalizers
  | updateAdoption a => exact updateAdoption_elsewhere c a away
  | patchStatus original current => exact patchStatus_elsewhere c original current away
  | applyAdoption key labels spec => exact applyAdoption_elsewhere c key away labels spec
  | deleteAdoption key => exact deleteAdoption_elsewhere c key away
  | applyReplicas key replicas => exact applyReplicas_elsewhere c key away replicas
  | patchDeployment original modified => exact patchDeployment_elsewhere c original modified away
  | createService svc => exact createService_elsewhere c svc away
  | deleteService key => exact deleteService_elsewhere c key away
  | applyKService ksvc => exact applyKService_elsewhere c ksvc away
  | deleteKService key => exact deleteKService_elsewhere c key away
  | patchKService key annotations => exact patchKService_elsewhere c key away annotations
  | createTraffic key body => exact createTraffic_elsewhere c key away body
  | patchTraffic key patch => exact patchTraffic_elsewhere c key away patch
  | enqueue decision =>
    have other : decision.ns ≠ ns := away
    have unseen : [decision].filter (fun decision => decision.ns = ns) = [] := by simp [other]
    refine { Agree.refl c with queue := ?_ }
    simp only [Cluster.effect,List.filter_append,unseen,List.append_nil]
  | _ => exact .refl c

/-- A namespace is a place of the apiserver. -/
theorem namespace_place (ns : String) :
    Place apiserver (Agree ns) (Request.Stays ns) (fun r => r.ns ≠ ns) where
  trans _ _ _ first second := first.trans second
  symm _ _ agree := agree.symm
  answers fault c d r stays agree := by
    cases fault with
    | none => exact (agree_effect ns c d r stays agree).2
    | refused message => rfl
    | lost message => rfl
  moves fault c d r stays agree := by
    cases fault with
    | none => exact (agree_effect ns c d r stays agree).1
    | refused message => exact agree
    | lost message => exact (agree_effect ns c d r stays agree).1
  spares fault c r away := by
    cases fault with
    | none => exact effect_elsewhere ns c r away
    | refused message => exact .refl c
    | lost message => exact effect_elsewhere ns c r away

/-- What happens between the calls happens in each namespace by itself. -/
theorem drift_agrees (ns : String) (c d u : Cluster) (agree : Agree ns c d) (moved : Drift c u) :
    ∃ v, Drift d v ∧ Agree ns u v := by
  let inside (key : NamespacedName) : Bool := key.ns = ns
  have still := Drift.refl d
  refine ⟨{ u with
    adoptions := u.adoptions.splice inside d.adoptions
    deployments := d.deployments
    services := u.services.splice inside d.services
    ksvcs := u.ksvcs.splice inside d.ksvcs
    traffic := d.traffic },⟨rfl,rfl,fun key => ?_,fun key => ?_,fun key => ?_⟩,⟨fun key here => ?_,fun key here => ?_,
      fun key here => ?_,fun key here => ?_,fun key here => ?_,rfl,rfl,fun _ _ => rfl,rfl,rfl⟩⟩
  · rw [Store.get_splice]
    by_cases here : key.ns = ns
    · rw [if_pos (decide_eq_true here),agree.adoptions key here]
      exact moved.adoptions key
    · rw [if_neg (by simpa [inside] using here)]
      exact still.adoptions key
  · rw [Store.get_splice]
    by_cases here : key.ns = ns
    · rw [if_pos (decide_eq_true here),agree.ksvcs key here]
      exact moved.ksvcs key
    · rw [if_neg (by simpa [inside] using here)]
      exact still.ksvcs key
  · rw [Store.get_splice]
    by_cases here : key.ns = ns
    · rw [if_pos (decide_eq_true here),agree.ksvcs key here,agree.services key here]
      exact moved.services key
    · rw [if_neg (by simpa [inside] using here)]
      exact still.services key
  · rw [Store.get_splice,if_pos (decide_eq_true here)]
  · rw [moved.deployments]
    exact agree.deployments key here
  · rw [Store.get_splice,if_pos (decide_eq_true here)]
  · rw [Store.get_splice,if_pos (decide_eq_true here)]
  · rw [moved.traffic]
    exact agree.traffic key here

/-! The activities of a namespace. -/

/-- A pass calls about the namespace of its adoption. -/
theorem Footprint.stays {Q : KnativeAdoption → Prop} {a : KnativeAdoption} {r : Request} (inside : Footprint Q a r) : r.Stays a.ns := by
  have place {key : NamespacedName} (same : key = a.key) : key.ns = a.ns := congrArg NamespacedName.ns same
  have source {key : NamespacedName} (same : key = sourceKey a) : key.ns = a.ns := congrArg NamespacedName.ns same
  cases r with
  | getAdoption key => exact place inside
  | patchFinalizers key finalizers => exact place inside
  | updateAdoption b => exact place inside.1
  | patchStatus original current => exact place inside.1
  | getDeployment key => exact source inside
  | applyReplicas key replicas => exact source inside.1
  | patchDeployment original modified => exact source inside
  | getService key => exact inside.elim place source
  | createService svc => exact place inside
  | deleteService key => exact place inside
  | getKService key => exact inside.elim place source
  | applyKService ksvc => exact source inside
  | deleteKService key => exact place inside
  | getTraffic key => exact inside.1
  | createTraffic key body => exact inside.1
  | patchTraffic key patch => exact inside.1
  | listPods ns service => exact inside.1
  | probe ns pod port path timeout => exact inside
  | enqueue d => exact place inside.1
  | applyAdoption key labels spec => exact inside.elim
  | deleteAdoption key => exact inside.elim
  | patchKService key annotations => exact inside.elim
  | listHPAs ns => exact inside.elim

namespace Activity

def ns : Activity → String
  | pass _ key => key.ns
  | flush d => d.ns
  | report d _ _ => d.ns

theorem Calls.stays {Q : KnativeAdoption → Prop} {who : Activity} {r : Request} (call : who.Calls Q r) : r.Stays who.ns := by
  cases who with
  | pass reconciler key =>
    rcases call with rfl | ⟨a,same,-,inside⟩
    · rfl
    · have stays := inside.stays
      rw [show a.ns = key.ns from congrArg NamespacedName.ns same] at stays
      exact stays
  | flush d => rcases call with rfl | ⟨annotations,rfl⟩ <;> rfl
  | report d attempts lastErr =>
    rcases call with rfl | ⟨original,current,rfl,same,-⟩
    · rfl
    · exact congrArg NamespacedName.ns same

/-- Who is of the namespace calls about it alone. -/
theorem keeps_namespace (who : Activity) : who.code.Keeps (Filed (fun _ => True)) (Request.Stays who.ns) (fun _ => True) :=
  Program.keeps_mono _ _ _ _ (fun _ call => Calls.stays call) (fun _ done => done) (keeps_code (fun _ => True) who)

/-- Whether the activity is one of the namespace. -/
def within (ns : String) (who : Activity) : Bool := who.ns = ns

/-- What starts an activity of the namespace happens in the namespace. -/
theorem starts_within (ns : String) (past alone : List (Turn Activity Request Response String Cluster)) (who : Activity)
    (inside : who.within ns = true) (apart : ∀ turn ∈ past, turn.who.within ns = false → turn.event.request.ns ≠ ns)
    (same : seen (within ns) alone = seen (within ns) past) (started : starts past who) : starts alone who := by
  have carried (d : Decision) (home : d.ns = ns) (enqueued : ∃ turn ∈ past, turn.event.request = .enqueue d) :
      ∃ turn ∈ alone, turn.event.request = .enqueue d := by
    obtain ⟨turn,member,request⟩ := enqueued
    have here : turn.who.within ns = true := by
      cases place : turn.who.within ns with
      | true => rfl
      | false =>
        refine absurd ?_ (apart turn member place)
        rw [request]
        exact home
    have listed : (turn.who,turn.event.exchange) ∈ seen (within ns) past :=
      List.mem_map.mpr ⟨turn,List.mem_filter.mpr ⟨member,here⟩,rfl⟩
    rw [← same] at listed
    obtain ⟨twin,kept,pair⟩ := List.mem_map.mp listed
    have exchanged : twin.event.exchange = turn.event.exchange := congrArg Prod.snd pair
    exact ⟨twin,(List.mem_filter.mp kept).1,(congrArg Exchange.request exchanged).trans request⟩
  cases who with
  | pass r key => trivial
  | flush d => exact carried d (of_decide_eq_true inside) started
  | report d attempts lastErr => exact carried d (of_decide_eq_true inside) started

end Activity

/-- Whatever the operator does in other namespaces, and in whichever order the calls interleave,
its activities of one namespace make the calls, get the answers and leave the objects they would
if those of the other namespaces never got a turn. -/
theorem namespaces_isolated (ns : String) (first : Cluster) (scene : Scene Activity Request Response String Cluster)
    (run : Interleaved apiserver Activity.code Drift Activity.starts first scene) :
    ∃ alone, Interleaved apiserver Activity.code Drift
        (fun past who => who.within ns = true → Activity.starts past who) first alone ∧
      Shadow (Activity.within ns) (Agree ns) scene alone := by
  refine interleaved_shadow (Activity.within ns) (namespace_place ns)
    (fun fault c r => apiserver_files _ (fun _ _ _ => trivial) fault c r (fun _ _ _ => trivial)) (fun who inside => ?_)
    (fun who outside => ?_) (fun c d u agree moved => drift_agrees ns c d u agree moved)
    (fun past alone who inside apart same started => Activity.starts_within ns past alone who inside apart same started)
    first (.refl first) scene run
  · have home : who.ns = ns := of_decide_eq_true inside
    exact home ▸ who.keeps_namespace
  · have away : who.ns ≠ ns := of_decide_eq_false outside
    exact Program.keeps_mono _ _ _ _ (fun r stays place => away (stays.place.symm.trans place)) (fun _ done => done) who.keeps_namespace

namespace Sample

/-- The same workload in two namespaces. -/
def twice : Cluster where
  adoptions := .ofList [adoption,{ adoption with ns := "dev", uid := 8 }]
  deployments := .ofList [deployment,{ deployment with ns := "dev" }]
  services := .ofList [service,{ service with ns := "dev" }]
  traffic := .ofList [destinationRule]

/-- A pass over each, the calls of one among those of the other; one call fails. -/
def crossed : Scene Activity Request Response String Cluster :=
  let begun : Scene Activity Request Response String Cluster := ⟨[],[],twice⟩
  let both := (begun.spawn Activity.code (.pass reconciler ⟨"prod","web"⟩)).spawn Activity.code (.pass reconciler ⟨"dev","web"⟩)
  (((both.turns apiserver 0 [.none,.none,.none]).turns apiserver 1 [.none,.none]).turns apiserver 0
    [.none,.none,.none,.none]).turns apiserver 1 [.none,.refused "timeout"]

theorem interleaved_crossed : Interleaved apiserver Activity.code Drift Activity.starts twice crossed :=
  interleaved_turns _ _ _ (interleaved_turns _ _ _ (interleaved_turns _ _ _ (interleaved_turns _ _ _
    (.spawn _ _ (.spawn _ _ .start trivial) trivial))))

end Sample

theorem namespaces_isolated_sample :
    (Sample.crossed.history.map (fun turn => turn.who.ns) =
      ["prod","prod","prod","dev","dev","prod","prod","prod","prod","dev","dev"] ∧
      Sample.crossed.state.services.get ⟨"prod","web"⟩ = none ∧
      (Sample.crossed.state.services.get ⟨"dev","web"⟩).isSome = true) ∧
      ∃ alone, Interleaved apiserver Activity.code Drift
          (fun past who => who.within "dev" = true → Activity.starts past who) Sample.twice alone ∧
        Shadow (Activity.within "dev") (Agree "dev") Sample.crossed alone :=
  ⟨by decide +kernel,namespaces_isolated "dev" Sample.twice Sample.crossed Sample.interleaved_crossed⟩

end Ifaas
