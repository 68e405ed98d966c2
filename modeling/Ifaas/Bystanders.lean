import Ifaas.Footprint
import Ifaas.StaleReads
import Ifaas.WriteAhead

/-! Bystanders. A workload that no adoption is about, and a traffic object that no adoption names
in its spec or holds a snapshot of, are left alone by everything the operator does, whatever else
is going on. -/
namespace Ifaas
open Library

/-- The adoption is not about the workload of this name, and neither names the traffic object in its
spec nor holds a snapshot of it. -/
structure Stranger (X : NamespacedName) (K : TrafficKey) (a : KnativeAdoption) : Prop where
  key : a.key ≠ X
  source : sourceKey a ≠ X
  traffic : ¬ Mentions a K

/-- The Deployment, the Service and the Knative Service of this name and the traffic object are as they were. -/
structure SameAt (X : NamespacedName) (K : TrafficKey) (c d : Cluster) : Prop where
  deployments : d.deployments.get X = c.deployments.get X
  services : d.services.get X = c.services.get X
  ksvcs : d.ksvcs.get X = c.ksvcs.get X
  traffic : d.traffic.get K = c.traffic.get K

section Untouched
variable (X : NamespacedName) (K : TrafficKey)

theorem SameAt.refl (c : Cluster) : SameAt X K c c := ⟨rfl,rfl,rfl,rfl⟩

theorem stranger_finalizerFree : FinalizerFree (Stranger X K) :=
  fun _ _ stranger => ⟨stranger.key,stranger.source,stranger.traffic⟩

/-- What the other activities may assume of a decision: an adoption made it. -/
def Attributed : Activity → Prop
  | .flush d => ∃ a, Stranger X K a ∧ a.key = d.key
  | _ => True

/-- The calls of the operator where all adoptions are strangers. -/
def Allowed (who : Activity) (r : Request) : Prop := Attributed X K who ∧ who.Calls (Stranger X K) r

variable {X K}

/-- A call that writes adoptions at most. -/
theorem sameAt_adoptions (c : Cluster) (r : Request) (only : ∀ part, r.part = some part → part = .adoptions) :
    SameAt X K c (c.effect r).1 := by
  have kept (part : Part) (other : part ≠ .adoptions) : part.Same c (c.effect r).1 :=
    effect_same part c r (fun writes => other (only part writes))
  exact ⟨congrArg (fun s => s.get X) (kept .deployments nofun),congrArg (fun s => s.get X) (kept .services nofun),
    congrArg (fun s => s.get X) (kept .ksvcs nofun),congrArg (fun s => s.get K) (kept .traffic nofun)⟩

/-- A call of a pass leaves a stranger's objects alone. -/
theorem sameAt_footprint (a : KnativeAdoption) (stranger : Stranger X K a) (c : Cluster) (r : Request)
    (inside : Footprint (Stranger X K) a r) : SameAt X K c (c.effect r).1 := by
  have unchanged := SameAt.refl X K c
  have away {key : NamespacedName} (same : key = a.key) : X ≠ key := fun equal => stranger.key (same.symm.trans equal.symm)
  have apart {key : NamespacedName} (same : key = sourceKey a) : X ≠ key := fun equal => stranger.source (same.symm.trans equal.symm)
  have undeclared {key : TrafficKey} (declared : Mentions a key) : K ≠ key := fun equal => stranger.traffic (equal ▸ declared)
  have filed {α : Type} {keyOf : α → NamespacedName} (s : Store NamespacedName α keyOf) (key : NamespacedName) (o : α)
      (held : s.get key = some o) (other : X ≠ key) : X ≠ keyOf o := by
    rw [s.keyed key o held]
    exact other
  cases r with
  | applyReplicas key replicas =>
    simp only [Cluster.effect,Cluster.applyReplicas]
    split
    · exact unchanged
    next stored held =>
      exact { unchanged with deployments := c.deployments.get_put_other _ X (filed _ key stored held (apart inside.1)) }
  | patchDeployment original modified =>
    simp only [Cluster.effect,Cluster.patchDeployment]
    split
    · exact unchanged
    next stored held =>
      exact { unchanged with deployments := c.deployments.get_put_other _ X (filed _ modified.key stored held (apart inside)) }
  | createService svc =>
    simp only [Cluster.effect,Cluster.createService]
    split
    · exact unchanged
    · exact { unchanged with services := c.services.get_put_other _ X (away ((c.allocate_key svc).trans inside)) }
  | deleteService key =>
    simp only [Cluster.effect,Cluster.deleteService]
    split
    · exact unchanged
    · refine { unchanged with services := ?_ }
      rw [Store.get_remove,if_neg (away inside)]
  | applyKService ksvc =>
    simp only [Cluster.effect,Cluster.applyKService]
    split
    · exact { unchanged with ksvcs := c.ksvcs.get_put_other _ X (apart inside) }
    next stored held =>
      split
      · exact unchanged
      · exact { unchanged with ksvcs := c.ksvcs.get_put_other _ X (filed _ ksvc.key stored held (apart inside)) }
  | deleteKService key =>
    simp only [Cluster.effect,Cluster.deleteKService]
    split
    · exact unchanged
    next stored held => exact { unchanged with ksvcs := c.ksvcs.get_put_other _ X (filed _ key stored held (away inside)) }
  | createTraffic key body =>
    simp only [Cluster.effect,Cluster.createTraffic]
    split
    · exact unchanged
    · split
      · exact { unchanged with traffic := c.traffic.get_put_other _ K (undeclared inside) }
      · exact unchanged
  | patchTraffic key patch =>
    simp only [Cluster.effect,Cluster.patchTraffic]
    split
    · exact unchanged
    · split
      · exact { unchanged with traffic := c.traffic.get_put_other _ K (undeclared inside) }
      · exact unchanged
  | patchKService key annotations => exact inside.elim
  | _ => exact sameAt_adoptions c _ (by simp [Request.part])

/-- So does the flush of a decision that an adoption made, and its report. -/
theorem sameAt_effect (who : Activity) (c : Cluster) (r : Request) (allowed : Allowed X K who r) : SameAt X K c (c.effect r).1 := by
  obtain ⟨owned,call⟩ := allowed
  cases who with
  | pass reconciler key =>
    rcases call with rfl | ⟨a,-,stranger,inside⟩
    · exact .refl X K c
    · exact sameAt_footprint a stranger c r inside
  | flush d =>
    obtain ⟨a,stranger,same⟩ := owned
    rcases call with rfl | ⟨annotations,rfl⟩
    · exact .refl X K c
    · simp only [Cluster.effect,Cluster.patchKService]
      split
      · exact .refl X K c
      next stored held =>
        have filed : stored.key = d.key := c.ksvcs.keyed d.key stored held
        have other : X ≠ stored.key := fun equal => stranger.key (same.trans (filed.symm.trans equal.symm))
        exact { SameAt.refl X K c with ksvcs := c.ksvcs.get_put_other _ X other }
  | report d attempts lastErr =>
    rcases call with rfl | ⟨original,current,rfl,-⟩
    · exact .refl X K c
    · exact sameAt_adoptions c _ (by simp [Request.part])

/-! The operator's own writes make no adoption one of the workload's. -/

theorem holds_put (Q : KnativeAdoption → Prop) (c : Cluster) (next : KnativeAdoption) (holds : c.Holds Q) (fine : Q next) :
    Cluster.Holds { c with adoptions := c.adoptions.put next } Q := by
  intro key a held
  dsimp only at held
  rw [Store.get_put] at held
  split at held
  · cases held
    exact fine
  · exact holds key a held

theorem stranger_merged (stored original current : KnativeAdoption) (stranger : Stranger X K stored)
    (same : current.key = stored.key) (vouched : Vouched (Stranger X K) current) :
    Stranger X K { stored with status := mergeStatus stored.status original.status current.status } := by
  refine ⟨stranger.key,stranger.source,fun declared => ?_⟩
  obtain ⟨inside,named | ⟨item,member,called⟩⟩ := declared
  · exact stranger.traffic ⟨inside,Or.inl named⟩
  · rcases mergeStatus_items stored.status original.status current.status K.kind with kept | sent
    · rw [kept] at member
      exact stranger.traffic ⟨inside,Or.inr ⟨item,member,called⟩⟩
    · rw [sent] at member
      have home : K.key.ns = current.ns := inside.trans (congrArg NamespacedName.ns same).symm
      obtain ⟨v,other,declared⟩ := vouched K ⟨home,Or.inr ⟨item,member,called⟩⟩
      exact other.traffic declared

theorem stranger_updated (stored a b : KnativeAdoption) (stranger : Stranger X K stored) (version : Stranger X K a)
    (key : b.key = a.key) (spec : b.spec = a.spec) (same : stored.key = b.key) :
    Stranger X K { stored with labels := b.labels, annotations := b.annotations, finalizers := b.finalizers, spec := b.spec } := by
  have home : stored.ns = a.ns := congrArg NamespacedName.ns (same.trans key)
  have name : stored.name = a.name := congrArg NamespacedName.name (same.trans key)
  refine ⟨stranger.key,fun equal => version.source (Eq.trans ?_ equal),fun declared => ?_⟩
  · unfold sourceKey sourceName
    simp only [home,name,spec]
  · obtain ⟨inside,named | snapped⟩ := declared
    · refine version.traffic ⟨inside.trans home,Or.inl ?_⟩
      unfold refsOf virtualServiceRefs destinationRuleRefs istioTraffic at named ⊢
      rwa [← spec]
    · exact stranger.traffic ⟨inside,Or.inr snapped⟩

theorem holds_patchStatus (c : Cluster) (original current : KnativeAdoption) (holds : c.Holds (Stranger X K))
    (vouched : Vouched (Stranger X K) current) : (c.patchStatus original current).1.Holds (Stranger X K) := by
  unfold Cluster.patchStatus
  split
  · exact holds
  next stored held =>
    exact holds_put _ c _ holds (stranger_merged stored original current (holds _ stored held)
      (c.adoptions.keyed _ stored held).symm vouched)

theorem holds_footprint (a : KnativeAdoption) (version : Stranger X K a) (c : Cluster) (r : Request)
    (inside : Footprint (Stranger X K) a r) (holds : c.Holds (Stranger X K)) : (c.effect r).1.Holds (Stranger X K) := by
  have unwritten (other : r.part ≠ some .adoptions) : (c.effect r).1.Holds (Stranger X K) := by
    intro key b held
    have kept : (c.effect r).1.adoptions = c.adoptions := effect_same .adoptions c r other
    rw [kept] at held
    exact holds key b held
  cases r with
  | patchFinalizers key finalizers =>
    simp only [Cluster.effect,Cluster.patchFinalizers]
    split
    · exact holds
    next stored held =>
      split
      · exact holds
      · exact holds_put _ c _ holds (stranger_finalizerFree X K stored finalizers (holds key stored held))
  | updateAdoption b =>
    simp only [Cluster.effect,Cluster.updateAdoption]
    split
    · exact holds
    next stored held =>
      split
      · exact holds
      · split
        · intro key other there
          dsimp only at there
          rw [Store.get_remove] at there
          split at there
          · cases there
          · exact holds key other there
        · exact holds_put _ c _ holds (stranger_updated stored a b (holds _ stored held) version inside.1 inside.2
            (c.adoptions.keyed _ stored held))
  | patchStatus original current => exact holds_patchStatus c original current holds inside.2
  | applyAdoption key labels spec => exact inside.elim
  | deleteAdoption key => exact inside.elim
  | _ => exact unwritten (by simp [Request.part])

theorem holds_serve (who : Activity) (fault : Fault String) (c : Cluster) (r : Request) (holds : c.Holds (Stranger X K))
    (allowed : Allowed X K who r) : (apiserver.serve fault c r).1.Holds (Stranger X K) := by
  rcases apiserver.serve_state fault c r with same | ⟨same,_⟩
  · rw [same]
    exact holds
  · rw [same]
    obtain ⟨-,call⟩ := allowed
    cases who with
    | pass reconciler key =>
      rcases call with rfl | ⟨a,-,stranger,inside⟩
      · exact holds
      · exact holds_footprint a stranger c r inside holds
    | flush d =>
      rcases call with rfl | ⟨annotations,rfl⟩
      · exact holds
      · intro key b held
        rw [show (apiserver.effect c (.patchKService d.key annotations)).1.adoptions = c.adoptions from
          effect_same .adoptions c _ nofun] at held
        exact holds key b held
    | report d attempts lastErr =>
      rcases call with rfl | ⟨original,current,rfl,-,vouched⟩
      · exact holds
      · exact holds_patchStatus c original current holds vouched

/-- While all adoptions are strangers the operator's activities make allowed calls, and those
keep them strangers. -/
theorem strangers_assured : Assured apiserver Activity.code (fun _ d => d.Holds (Stranger X K)) Activity.starts
    (fun c => c.Holds (Stranger X K)) (Filed (Stranger X K)) (Allowed X K) where
  answers fault c r holds := apiserver_files _ (stranger_finalizerFree X K) fault c r holds
  calls past who allowed started := by
    have owned : Attributed X K who := by
      cases who with
      | pass reconciler key => trivial
      | report d attempts lastErr => trivial
      | flush d =>
        obtain ⟨turn,member,request⟩ := started
        have call := (allowed turn member).2
        rw [request] at call
        cases decided : turn.who with
        | pass reconciler key =>
          rw [decided] at call
          obtain ⟨a,-,stranger,inside⟩ := call.resolve_left nofun
          exact ⟨a,stranger,inside.1.symm⟩
        | flush other =>
          rw [decided] at call
          rcases call with same | ⟨_,same⟩ <;> cases same
        | report other attempts lastErr =>
          rw [decided] at call
          rcases call with same | ⟨_,_,same,-⟩ <;> cases same
    exact Program.keeps_mono _ _ _ _ (fun _ call => ⟨owned,call⟩) (fun _ done => done) (Activity.keeps_code _ who)
  keeps who fault c r holds allowed := holds_serve who fault c r holds allowed
  drifts _ _ _ moved := moved

end Untouched

/-- Whatever the others do, as long as no adoption is about the workload `X`, names the traffic
object `K` or holds a snapshot of it, no call of the operator changes the Deployment, the Service
or the Knative Service `X` or the object `K`: in every interleaving of its passes, flushes and
reports, with any calls failing. -/
theorem bystanders_untouched (X : NamespacedName) (K : TrafficKey) (first : Cluster)
    (scene : Scene Activity Request Response String Cluster) (strangers : first.Holds (Stranger X K))
    (run : Interleaved apiserver Activity.code (fun _ d => d.Holds (Stranger X K)) Activity.starts first scene) :
    ∀ turn ∈ scene.history,
      SameAt X K turn.event.before (apiserver.serve turn.event.fault turn.event.before turn.event.request).1 := by
  intro turn member
  have allowed := ((interleaved_assured strangers_assured strangers scene run).2.2 turn member).1
  rcases apiserver.serve_state turn.event.fault turn.event.before turn.event.request with same | ⟨same,_⟩
  · rw [same]
    exact .refl X K _
  · rw [same]
    exact sameAt_effect turn.who _ _ allowed

namespace Sample

def api : NamespacedName := ⟨"prod","api"⟩

/-- Another workload beside the one that is adopted, with a rule of its own. -/
def neighbours : Cluster :=
  { cluster with
    deployments := .ofList [deployment,{ deployment with name := "api" }]
    services := .ofList [service,{ service with name := "api" }]
    traffic := .ofList [destinationRule,{ destinationRule with key := ⟨.destinationRule,api⟩ }] }

/-- The workload is adopted in two passes. -/
def nextDoor : Scene Activity Request Response String Cluster :=
  let begun : Scene Activity Request Response String Cluster := ⟨[],[],neighbours⟩
  let swapped := (begun.spawn Activity.code (.pass reconciler adoption.key)).turns apiserver 0 (List.replicate 7 .none)
  (swapped.spawn Activity.code (.pass reconciler adoption.key)).turns apiserver 1 (List.replicate 11 .none)

theorem neighbours_strangers : neighbours.Holds (Stranger api ⟨.destinationRule,api⟩) := by
  have stranger : Stranger api ⟨.destinationRule,api⟩ adoption := by
    refine ⟨by decide,by decide,fun declared => ?_⟩
    obtain ⟨-,named | ⟨item,member,-⟩⟩ := declared
    · exact absurd named (by decide)
    · cases member
  have vacuous : Cluster.Holds { neighbours with adoptions := .empty } (Stranger api ⟨.destinationRule,api⟩) := by
    intro key a held
    have absent : (none : Option KnativeAdoption) = some a := held
    cases absent
  exact holds_put _ _ adoption vacuous stranger

end Sample

theorem bystanders_untouched_sample :
    (Sample.nextDoor.history.length = 18 ∧
      (Sample.nextDoor.state.deployments.get Sample.adoption.key).map (fun dep => dep.spec.replicas) = some (some 0)) ∧
      ∀ turn ∈ Sample.nextDoor.history, SameAt Sample.api ⟨.destinationRule,Sample.api⟩ turn.event.before
        (apiserver.serve turn.event.fault turn.event.before turn.event.request).1 :=
  ⟨by decide +kernel,bystanders_untouched Sample.api _ Sample.neighbours Sample.nextDoor Sample.neighbours_strangers
    (interleaved_turns _ _ _ (.spawn _ _ (interleaved_turns _ _ _ (.spawn _ _ .start trivial)) trivial))⟩

end Ifaas
