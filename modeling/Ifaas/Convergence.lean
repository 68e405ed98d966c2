import Ifaas.SteadyState

/-! Adoptions complete. From every state in which nothing stands in the way, and as long as the
calls are answered, no pass fails whatever Knative does between the passes; the second pass at the
latest applies the Knative Service, and from then on every pass that finds it ready ends Ready. -/
namespace Ifaas
open Library

/-! The traffic stage, where the declared objects are there and can be read. -/

/-- The declared object is there, and can be rewritten for whichever port. -/
def Routable (a : KnativeAdoption) (c : Cluster) (ref : TrafficKind × String) : Prop :=
  ref.2 ≠ "" ∧ ∃ o, c.traffic.get ⟨ref.1,⟨a.ns,ref.2⟩⟩ = some o ∧
    ∀ port, ∃ result, rewriteOf ref.1 (routeTarget a port) (o.body.map Literal.read) = .ok result

theorem strip_readable (vs : Obj GoNumber) (t : RouteTarget) :
    (∃ result, stripSubsetFromTargetDestinations vs t = .ok result) ↔ ∃ https, nestedSlice vs ["spec","http"] = .ok https := by
  unfold stripSubsetFromTargetDestinations
  cases read : nestedSlice vs ["spec","http"] with
  | error err => simp
  | ok https =>
    cases https with
    | none => simp
    | some https =>
      refine iff_of_true ?_ ⟨_,rfl⟩
      dsimp only
      split
      · have found : ∃ value, nestedField vs ["spec","http"] = .ok (some value) := by
          unfold nestedSlice at read
          cases entry : nestedField vs ["spec","http"] with
          | error err => rw [entry] at read; cases read
          | ok value =>
            rw [entry] at read
            cases value with
            | none => cases read
            | some value => exact ⟨value,rfl⟩
        obtain ⟨value,entry⟩ := found
        obtain ⟨spec,held,-⟩ := spec_of_nested vs "http" value entry
        simp only [setInSpec,held,Obj.json]
        exact ⟨_,rfl⟩
      · exact ⟨_,rfl⟩

/-- What a rewrite leaves can be rewritten for another port. -/
theorem rewriteOf_readable (a : KnativeAdoption) (kind : TrafficKind) (port other : Option Int) (body result : Obj GoNumber)
    (changed : Bool) (done : rewriteOf kind (routeTarget a port) body = .ok (result,changed)) :
    ∃ next, rewriteOf kind (routeTarget a other) result = .ok next := by
  cases kind with
  | destinationRule =>
    refine ⟨(result,false),?_⟩
    exact stripSubsets_again (routeTarget a port) body result changed done
  | virtualService =>
    refine (strip_readable result _).mpr ?_
    obtain ⟨https,read⟩ := (strip_readable body _).mp ⟨_,done⟩
    cases specChange_strip _ body result changed done with
    | none => exact ⟨https,read⟩
    | http spec size items held =>
      refine ⟨some ⟨size,items⟩,?_⟩
      unfold nestedSlice
      rw [nestedField_inSpec _ (spec.set "http" (.arr size items)) "http" (by simp)]
      simp
    | subsets spec held =>
      unfold nestedSlice at read ⊢
      rw [nestedField_inSpec _ _ "http" held] at read
      rw [nestedField_inSpec _ (spec.erase "subsets") "http" (by simp)]
      exact ⟨https,by simpa using read⟩

/-- The traffic objects have moved on, to a state in which as many can be rewritten. -/
def Rerouted (a : KnativeAdoption) (c d : Cluster) : Prop :=
  (∃ traffic, d = { c with traffic := traffic }) ∧ ∀ ref, Routable a c ref → Routable a d ref

theorem Rerouted.refl (a : KnativeAdoption) (c : Cluster) : Rerouted a c c := ⟨⟨c.traffic,rfl⟩,fun _ routable => routable⟩

theorem Rerouted.trans {a : KnativeAdoption} {c d e : Cluster} (first : Rerouted a c d) (second : Rerouted a d e) : Rerouted a c e := by
  obtain ⟨⟨traffic,rfl⟩,kept⟩ := first
  obtain ⟨⟨more,rfl⟩,keeps⟩ := second
  exact ⟨⟨more,rfl⟩,fun ref routable => keeps ref (kept ref routable)⟩

section Traffic
variable (a : KnativeAdoption) (port : Option Int) (narrow : ∀ p, port = some p → toInt32 p = p)
include narrow

/-- What an object is rewritten to can be rewritten again. -/
theorem rerouted_put (c : Cluster) (o stored : TrafficObject) (form : Rewritten (routeTarget a port) o stored) :
    Rerouted a c { c with traffic := c.traffic.put stored } := by
  refine ⟨⟨_,rfl⟩,fun ref routable => ?_⟩
  obtain ⟨named,held,there,readable⟩ := routable
  by_cases here : (⟨ref.1,⟨a.ns,ref.2⟩⟩ : TrafficKey) = stored.key
  · refine ⟨named,stored,by rw [here]; exact Store.get_put_same _ _,fun other => ?_⟩
    obtain ⟨result,changed,done,body⟩ := form.body
    have canonical := canonical_rewriteOf (routeTarget a port) narrow _ _ _ _ (Obj.canonical_read o.body) done
    rw [body,Obj.read_encode result canonical]
    have kind : ref.1 = o.key.kind := by rw [← form.key,← here]
    rw [kind]
    exact rewriteOf_readable a _ port other _ result changed done
  · exact ⟨named,held,(Store.get_put_other _ _ _ here).trans there,readable⟩

theorem reconcileKind_reroutes (kind : TrafficKind) (b : KnativeAdoption) (face : SameFace a b) (name : String) (c : Cluster)
    (routable : Routable a c (kind,name)) :
    ∃ next changed d, apiserver.succeed (reconcileKind kind port b name) c = ((next,.ok changed),d) ∧ Rerouted a c d := by
  obtain ⟨-,o,held,readable⟩ := routable
  obtain ⟨⟨result,changed⟩,done⟩ := readable port
  have ns : b.ns = a.ns := congrArg ObjectMeta.ns face.metadata
  have filed : o.key = ⟨kind,⟨a.ns,name⟩⟩ := c.traffic.keyed _ o held
  have answer : apiserver.effect c (.getTraffic ⟨kind,⟨a.ns,name⟩⟩) = (c,.ok o) := Prod.ext rfl (found_some held _)
  have taken := snapshotTrafficOnce_taken kind b name o
  unfold reconcileKind reconcileTrafficObject
  rw [routeTarget_face port a b face,ns]
  dsimp only
  rw [succeed_ask,answer]
  dsimp only
  generalize snapshotTrafficOnce kind b name (o.body.map Literal.read) = pair at taken
  obtain ⟨next,outcome⟩ := pair
  subst taken
  dsimp only
  rw [done]
  cases changed with
  | false => exact ⟨next,false,c,rfl,.refl a c⟩
  | true =>
    have kinded : rewriteOf o.key.kind (routeTarget a port) (o.body.map Literal.read) = .ok (result,true) := by
      rw [filed]
      exact done
    obtain ⟨stored,form,patched⟩ := patchTraffic_rewrites c (routeTarget a port) o result true (by rw [filed]; exact held) kinded
    rw [filed] at patched
    refine ⟨next,true,{ c with traffic := c.traffic.put stored },?_,rerouted_put a port narrow c o stored form⟩
    dsimp only
    rw [succeed_ask,show apiserver.effect c (.patchTraffic ⟨kind,⟨a.ns,name⟩⟩ _) = _ from patched]
    rfl

theorem reconcileRefs_reroutes (kind : TrafficKind) (names : List String) (b : KnativeAdoption) (face : SameFace a b)
    (observed : List ObservedRoute) (c : Cluster) (routable : ∀ name ∈ names, Routable a c (kind,name)) :
    ∃ next routes d, apiserver.succeed (reconcileRefs kind (reconcileKind kind port) names b observed none) c = ((next,routes,none),d) ∧
      SameFace a next ∧ Rerouted a c d := by
  induction names generalizing b observed c with
  | nil => exact ⟨b,observed,c,rfl,face,.refl a c⟩
  | cons name rest ih =>
    have first := routable name List.mem_cons_self
    obtain ⟨next,changed,d,ran,rerouted⟩ := reconcileKind_reroutes a port narrow kind b face name c first
    have moved : SameFace b next := by
      have kept := succeed_returns _ _ (returns_reconcileTrafficObject trafficAlong_sameFace kind (rewriteOf kind (routeTarget b port)) b name) c
      rw [show apiserver.succeed (reconcileTrafficObject kind (snapshotTrafficOnce kind) (rewriteOf kind (routeTarget b port)) b name) c = _ from ran] at kept
      exact kept
    have through := face.trans _ _ _ moved
    obtain ⟨last,routes,e,went,kept,later⟩ := ih next through
      (observed++[newObservedRoute (.object kind) name true (if changed then changedMessage kind else "already converged")]) d
      (fun other member => rerouted.2 _ (routable other (List.mem_cons_of_mem _ member)))
    refine ⟨last,routes,e,?_,kept,rerouted.trans later⟩
    have one : apiserver.succeed (reconcileRef kind (reconcileKind kind port) b name) c =
        ((next,newObservedRoute (.object kind) name true (if changed then changedMessage kind else "already converged"),none),d) := by
      unfold reconcileRef
      rw [if_neg first.1]
      exact succeed_then ran _
    unfold reconcileRefs
    exact (succeed_then one _).trans went

omit narrow in
theorem adaptTraffic_reroutes (c : Cluster) (narrow : ∀ p, livePort a c = some p → toInt32 p = p)
    (routes : trafficEnabled a = true → trafficMode a = .inplace ∧ ∀ ref ∈ trafficRefs a, Routable a c ref) :
    ∃ b d, apiserver.succeed (adaptTraffic a) c = (.ok b,d) ∧ SameObject a b ∧
      standing b = trafficStanding (trafficEnabled a) (standing a) ∧ Rerouted a c d := by
  have ends : ∃ b d, apiserver.succeed (adaptTraffic a) c = (.ok b,d) ∧ Rerouted a c d := by
    unfold adaptTraffic
    by_cases enabled : trafficEnabled a = true
    · obtain ⟨inplace,routable⟩ := routes enabled
      obtain ⟨x,seen,d,virtual,face,first⟩ := reconcileRefs_reroutes a (livePort a c) narrow .virtualService (virtualServiceRefs a) a (.refl a) [] c
        (fun name member => routable _ (List.mem_append_left _ (List.mem_map_of_mem member)))
      have refs : destinationRuleRefs x = destinationRuleRefs a := by
        unfold destinationRuleRefs istioTraffic
        rw [face.spec]
      obtain ⟨y,all,e,rules,-,second⟩ := reconcileRefs_reroutes a (livePort a c) narrow .destinationRule (destinationRuleRefs a) x face seen d
        (fun name member => first.2 _ (routable _ (List.mem_append_right _ (List.mem_map_of_mem member))))
      have ran : apiserver.succeed (reconcileTraffic a) c = ((setObservedRoutes y all,none),e) := by
        unfold reconcileTraffic
        rw [enabled,inplace]
        refine (succeed_then (succeed_resolve c a) _).trans ?_
        refine (succeed_then virtual _).trans ?_
        dsimp only
        rw [refs]
        exact succeed_then rules _
      rw [if_pos enabled]
      exact ⟨_,e,succeed_then ran _,first.trans second⟩
    · rw [if_neg enabled]
      exact ⟨_,c,rfl,.refl a c⟩
  obtain ⟨b,d,ran,rerouted⟩ := ends
  have stands := succeed_returns _ _ (adaptTraffic_standing a) c
  rw [ran] at stands
  obtain ⟨metadata,spec,stands⟩ := stands.2 b rfl
  exact ⟨b,d,ran,⟨metadata,spec⟩,stands,rerouted⟩

end Traffic

/-! The Knative Service, where no other controller owns it. -/

section Serve
variable (r : KnativeAdoptionReconciler) (a b : KnativeAdoption) (dep : Deployment) (ksvc : KService) (c : Cluster)

theorem applyKnativeService_applies (owned : ksvc.ownerReferences = [ownerReferenceOf a])
    (own : ∀ live, c.ksvcs.get ksvc.key = some live → Sole a live) :
    ∃ next, apiserver.succeed (applyKnativeService ksvc) c = (.ok (),{ c with ksvcs := c.ksvcs.put next }) ∧
      next.key = ksvc.key ∧ Sole a next ∧ ∀ live, c.ksvcs.get ksvc.key = some live → next.status = live.status := by
  cases held : c.ksvcs.get ksvc.key with
  | none =>
    have effect : apiserver.effect c (.applyKService ksvc) = ({ c with ksvcs := c.ksvcs.put { ksvc with status := {} } },.ok ()) := by
      change c.applyKService ksvc = _
      unfold Cluster.applyKService
      rw [held]
    have fine : (apiserver.succeed (applyKnativeService ksvc) c).1 = .ok () := by
      unfold applyKnativeService
      rw [succeed_ask,effect]
      rfl
    obtain ⟨next,after,filed,sole⟩ := applyKnativeService_owns a ksvc c owned fine
    exact ⟨next,Prod.ext fine after,filed,sole,fun _ there => by cases there⟩
  | some live =>
    have ran := succeed_applyKnativeService c a ksvc live owned held (own live held)
    have fine : (apiserver.succeed (applyKnativeService ksvc) c).1 = .ok () := congrArg Prod.fst ran
    refine ⟨_,ran,c.ksvcs.keyed _ live held,?_,fun other same => by cases same; rfl⟩
    unfold Sole
    change ((Cluster.mergeOwners (Cluster.mergeOwners live.ownerReferences ksvc.ownerReferences) _).filter _).length ≤ 1
    rw [← owned,mergeOwners_again,owned]
    exact own live held

/-- The last stages go through, and come to the end if the Knative Service is ready. -/
theorem applyAdopted_advances (byStatus : r.ByStatus) (same : SameObject a b) (filed : ksvc.key = sourceKey a)
    (stored : c.deployments.get (sourceKey a) = some dep) (own : ∀ live, c.ksvcs.get (sourceKey a) = some live → Sole a live) :
    ∃ done next replicas, apiserver.succeed (applyAdopted r b dep ksvc) c = (done,{ c with
        ksvcs := c.ksvcs.put next, deployments := c.deployments.put { dep with spec := { dep.spec with replicas := replicas } } }) ∧
      done.err = none ∧ next.key = sourceKey a ∧ Sole a next ∧
      (∀ t, t = .degraded ∨ t = .trafficDegraded → standing done.adoption t = appliedStanding (standing b) t) ∧
      ∀ live, c.ksvcs.get (sourceKey a) = some live → (r.ready live).1 = true →
        standing done.adoption = finishedStanding (appliedStanding (standing b)) ∧
        ({ dep.spec with replicas := replicas } : DeploymentSpec).effectiveReplicas = 0 := by
  have near : ksvc.ns = a.ns := congrArg NamespacedName.ns filed
  have there : c.deployments.get dep.key = some dep := by
    rw [c.deployments.keyed _ dep stored]
    exact stored
  have reference : ownerReferenceOf b = ownerReferenceOf a := by
    unfold ownerReferenceOf
    rw [same.metadata]
  have referenced : setControllerReference b ksvc = .ok { ksvc with ownerReferences := [ownerReferenceOf a] } := by
    unfold setControllerReference
    rw [near,same.metadata,if_neg (fun differ => differ rfl),← reference]
    unfold ownerReferenceOf
    rw [same.metadata]
  rw [← filed] at own ⊢
  obtain ⟨next,applied,key,sole,status⟩ := applyKnativeService_applies a { ksvc with ownerReferences := [ownerReferenceOf a] } c rfl own
  generalize sent : setCondition (clearConditionIfReason b .degraded .serviceApplyFailed) .adopted .true .adopted
    "KnativeService applied" = x
  have stands : standing x = appliedStanding (standing b) := by
    rw [← sent,standing_setCondition,standing_clearConditionIfReason]
    rfl
  have linked (url : String) : standing { x with status := { x.status with url := url } } = appliedStanding (standing b) :=
    (standing_conditions x _ rfl).trans stands
  have found : ({ c with ksvcs := c.ksvcs.put next } : Cluster).ksvcs.get
      ({ ksvc with ownerReferences := [ownerReferenceOf a] } : KService).key = some next := by
    rw [← key]
    exact Store.get_put_same _ _
  have began : apiserver.succeed (applyAdopted r b dep ksvc) c = apiserver.succeed (awaitKService r x dep
      { ksvc with ownerReferences := [ownerReferenceOf a] }) { c with ksvcs := c.ksvcs.put next } := by
    unfold applyAdopted
    rw [referenced]
    dsimp only
    rw [succeed_then applied,← sent]
  rw [began]
  by_cases ready : (r.ready next).1 = true
  · rw [succeed_awaitKService r _ x dep _ next found ready]
    generalize shown : setCondition { x with status := { x.status with url := (r.ready next).2 } } .serviceAdopted .true
      .knativeServiceReady "KSvc Ready" = y
    obtain ⟨z,result,replicas,face,zero,ended⟩ := finishAdoption_ends y dep { c with ksvcs := c.ksvcs.put next } there
    have final : standing (setReady (setCondition z .sourceQuiesced .true .sourceQuiesced "Deployment scaled to 0") .true .adopted
        "adoption complete") = finishedStanding (appliedStanding (standing b)) := by
      rw [setReady,standing_setCondition,standing_setCondition,standing_conditions y z face.conditions,← shown,standing_setCondition,
        linked]
      rfl
    refine ⟨_,next,replicas,ended,rfl,key,sole,fun t failure => (congrFun final t).trans ?_,fun _ _ _ => ⟨final,zero⟩⟩
    rcases failure with rfl | rfl <;> rfl
  · have waits : apiserver.succeed (awaitKService r x dep { ksvc with ownerReferences := [ownerReferenceOf a] })
        { c with ksvcs := c.ksvcs.put next } =
          ({ adoption := setReady (setCondition { x with status := { x.status with url := (r.ready next).2 } } .serviceAdopted .false
               .knativeServiceNotReady "waiting for KSvc Ready") .false .knativeServiceNotReady "KSvc not Ready"
             result := ⟨requeueAfterKSvcPending⟩ },{ c with ksvcs := c.ksvcs.put next }) := by
      unfold awaitKService
      rw [succeed_ask,show (apiserver.effect { c with ksvcs := c.ksvcs.put next } (.getKService _)).2 = .ok next from found_some found _]
      dsimp only
      rw [if_neg ready]
      rfl
    have final (t : ConditionType) (other : t ≠ .ready ∧ t ≠ .serviceAdopted) :
        standing (setReady (setCondition { x with status := { x.status with url := (r.ready next).2 } } .serviceAdopted .false
          .knativeServiceNotReady "waiting for KSvc Ready") .false .knativeServiceNotReady "KSvc not Ready") t =
            appliedStanding (standing b) t := by
      rw [setReady,standing_setCondition,Function.update_of_ne other.1,standing_setCondition,Function.update_of_ne other.2,linked]
    have unscaled : c.deployments.put { dep with spec := { dep.spec with replicas := dep.spec.replicas } } = c.deployments :=
      Store.put_get _ _ there
    refine ⟨_,next,dep.spec.replicas,waits.trans (by rw [unscaled]),rfl,key,sole,fun t failure => final t ?_,fun live held up => ?_⟩
    · rcases failure with rfl | rfl <;> decide
    · rw [← byStatus live next (status live held)] at up
      exact absurd up ready

end Serve

/-! The stages together. -/

/-- The ports that destinations may be pointed at are 32 bits wide. -/
def PortsFit (a : KnativeAdoption) (c : Cluster) : Prop :=
  (∀ svc port, c.services.get (sourceKey a) = some svc → firstServicePort svc = some port → toInt32 port = port) ∧
    ∀ port, specTrafficServicePort a = some port → toInt32 port = port

theorem PortsFit.live {a : KnativeAdoption} {c : Cluster} (fit : PortsFit a c) (port : Int) (live : livePort a c = some port) :
    toInt32 port = port := by
  unfold livePort at live
  rcases Option.or_eq_some_iff.mp live with first | ⟨-,declared⟩
  · obtain ⟨svc,held,first⟩ := Option.bind_eq_some_iff.mp first
    exact fit.1 svc port held first
  · exact fit.2 port declared

/-- Nothing in the cluster stands in the way of the adoption. -/
structure Clear (c : Cluster) (a : KnativeAdoption) (dep : Deployment) : Prop where
  source : c.deployments.get (sourceKey a) = some dep
  accepted : (classifyServiceForSwap (c.services.get a.key)).decision ≠ .refused
  ports : PortsFit a c
  routes : trafficEnabled a = true → trafficMode a = .inplace ∧ ∀ ref ∈ trafficRefs a, Routable a c ref
  own : ∀ live, c.ksvcs.get (sourceKey a) = some live → Sole a live
  answers : ∀ ns name port path timeout, (c.probes ns name port path timeout).err = none

/-- What stands against the adoption goes away on the way. -/
structure Mendable (a b : KnativeAdoption) : Prop where
  degraded : clears (standing b .degraded) .serviceApplyFailed = true
  trafficDegraded : trafficEnabled a = true → clears (standing b .trafficDegraded) .trafficReconcileFailed = true

/-- The Service of the adoption's name does not hold a pass up. -/
def Vacated (a : KnativeAdoption) (c : Cluster) : Prop := (classifyServiceForSwap (c.services.get a.key)).decision = .pass

/-- Nor does the Knative Service. -/
def Poised (r : KnativeAdoptionReconciler) (a : KnativeAdoption) (c : Cluster) : Prop :=
  Vacated a c ∧ ∃ live, c.ksvcs.get (sourceKey a) = some live ∧ (r.ready live).1 = true

/-- A pass ends without an error and leaves nothing in the way of the next one. It takes the
Service over, or else applies the Knative Service; and if that was ready, it comes to the end. -/
structure Advance (r : KnativeAdoptionReconciler) (a : KnativeAdoption) (dep : Deployment) (c d : Cluster) (done : Reconciled)
    (replicas : Option Int) : Prop where
  fine : done.err = none
  mendable : Mendable a done.adoption
  clear : Clear d a { dep with spec := { dep.spec with replicas := replicas } }
  vacated : Vacated a d
  applied : Vacated a c → ∃ live, d.ksvcs.get (sourceKey a) = some live
  completes : Poised r a c → complete done.adoption = true ∧
    ({ dep.spec with replicas := replicas } : DeploymentSpec).effectiveReplicas = 0

section Stages
variable {r : KnativeAdoptionReconciler} {a : KnativeAdoption} {dep : Deployment} {c : Cluster}

theorem swapService_takes (a : KnativeAdoption) (svc : Service) (held : c.services.get a.key = some svc)
    (taken : classifyServiceForSwap (some svc) = .takenOver) :
    apiserver.succeed (swapService a) c =
      ((snapshotService (serviceSwapping a) svc,.ok .takenOver),{ c with services := c.services.remove a.key }) := by
  have key : svc.key = a.key := c.services.keyed _ svc held
  have effect : apiserver.effect c (.deleteService a.key) = ({ c with services := c.services.remove a.key },.ok ()) := by
    change c.deleteService a.key = _
    unfold Cluster.deleteService
    rw [held]
  have deleted : apiserver.succeed (snapshotAndDeleteService (serviceSwapping a) svc) c =
      ((snapshotService (serviceSwapping a) svc,.ok ()),{ c with services := c.services.remove a.key }) := by
    unfold snapshotAndDeleteService
    rw [key]
    refine (succeed_ask apiserver _ _ c).trans ?_
    rw [effect]
    rfl
  unfold swapService
  refine (succeed_ask apiserver _ _ c).trans ?_
  rw [show apiserver.effect c (.getService a.key) = (c,.ok svc) from Prod.ext rfl (found_some held _)]
  dsimp only
  unfold swapFound
  rw [taken]
  exact succeed_then deleted _

/-- The Service that holds the pass up is taken over. -/
theorem adoptTranslated_takes (clear : Clear c a dep) (x : KnativeAdoption) (same : SameObject a x) (mendable : Mendable a x)
    (ksvc : KService) (held : ¬ Vacated a c) :
    ∃ done d replicas, apiserver.succeed (adoptTranslated r x dep ksvc) c = (done,d) ∧ Advance r a dep c d done replicas := by
  have taken : ∃ svc, c.services.get a.key = some svc ∧ classifyServiceForSwap (some svc) = .takenOver := by
    have accepted := clear.accepted
    unfold Vacated at held
    cases there : c.services.get a.key with
    | none =>
      rw [there] at held
      exact absurd rfl held
    | some svc =>
      rw [there] at held accepted
      refine ⟨svc,rfl,?_⟩
      cases verdict : classifyServiceForSwap (some svc) with
      | takenOver => rfl
      | pass msg =>
        rw [verdict] at held
        exact absurd rfl held
      | refused reason msg =>
        rw [verdict] at accepted
        exact absurd rfl accepted
  obtain ⟨svc,there,verdict⟩ := taken
  have key : x.key = a.key := congrArg ObjectMeta.key same.metadata
  have took := swapService_takes x svc (key ▸ there) verdict
  rw [key] at took
  have stands (t : ConditionType) (other : t ≠ .serviceAdopted ∧ t ≠ .serviceAdoptionRefused) :
      standing (snapshotService (serviceSwapping x) svc) t = standing x t := by
    rw [standing_conditions (serviceSwapping x) (snapshotService (serviceSwapping x) svc) rfl,serviceSwapping,standing_setCondition,
      Function.update_of_ne other.1,standing_removeCondition,Function.update_of_ne other.2]
  have gone (other : NamespacedName) (svc : Service) (left : (c.services.remove a.key).get other = some svc) :
      c.services.get other = some svc := by
    rw [Store.get_remove] at left
    split at left
    · cases left
    · exact left
  have vacated : Vacated a { c with services := c.services.remove a.key } := by
    unfold Vacated
    dsimp only
    rw [Store.get_remove,if_pos rfl]
    rfl
  refine ⟨{ adoption := snapshotService (serviceSwapping x) svc, result := ⟨requeueAfterServiceSwap⟩ },
    { c with services := c.services.remove a.key },dep.spec.replicas,?_,rfl,⟨?_,fun enabled => ?_⟩,?_,vacated,
    fun free => absurd free held,fun poised => absurd poised.1 held⟩
  · unfold adoptTranslated
    exact succeed_then took _
  · rw [stands _ (by decide)]
    exact mendable.degraded
  · rw [stands _ (by decide)]
    exact mendable.trafficDegraded enabled
  · refine ⟨clear.source,?_,⟨fun svc port left => clear.ports.1 svc port (gone _ _ left),clear.ports.2⟩,clear.routes,clear.own,clear.answers⟩
    rw [show (classifyServiceForSwap _).decision = _ from vacated]
    decide

/-- Where none does, the Knative Service is applied. -/
theorem adoptTranslated_applies (byStatus : r.ByStatus) (clear : Clear c a dep) (x : KnativeAdoption) (same : SameObject a x)
    (mendable : Mendable a x) (missing : standing x .sourceMissing = none) (translated : standing x .translationDegraded = none)
    (ksvc : KService) (filed : ksvc.key = sourceKey a) (vacated : Vacated a c) :
    ∃ done d replicas, apiserver.succeed (adoptTranslated r x dep ksvc) c = (done,d) ∧ Advance r a dep c d done replicas := by
  obtain ⟨status,rfl⟩ : ∃ status, x = { a with status := status } := by
    refine ⟨x.status,?_⟩
    rw [← same.metadata,← same.spec]
  generalize seen : ({ a with status := status } : KnativeAdoption) = x at *
  have passes := succeed_swapService c x (seen ▸ vacated)
  obtain ⟨z,m,routed,object,stands,⟨⟨traffic,rfl⟩,kept⟩⟩ := adaptTraffic_reroutes (removeCondition x .serviceAdoptionRefused) c
    (seen ▸ clear.ports.live) (seen ▸ clear.routes)
  have near : SameObject a z := ⟨object.metadata.trans same.metadata,object.spec.trans same.spec⟩
  obtain ⟨done,next,replicas,ran,fine,key,sole,failures,ends⟩ := applyAdopted_advances r a z dep ksvc { c with traffic := traffic }
    byStatus near filed clear.source clear.own
  have after : apiserver.succeed (adoptTranslated r x dep ksvc) c =
      apiserver.succeed (applyAdopted r z dep ksvc) { c with traffic := traffic } := by
    unfold adoptTranslated
    exact (succeed_then passes _).trans (succeed_then routed _)
  have adapted : standing z = trafficStanding (trafficEnabled a) (Function.update (standing x) .serviceAdoptionRefused none) := by
    rw [stands,standing_removeCondition,← seen]
    rfl
  have degraded : standing done.adoption .degraded = none := by
    rw [failures _ (Or.inl rfl),adapted]
    have calm := (clears_iff _ _).mp mendable.degraded
    cases trafficEnabled a <;> exact calm
  have trafficDegraded : standing done.adoption .trafficDegraded = none := by
    rw [failures _ (Or.inr rfl),adapted]
    cases enabled : trafficEnabled a with
    | false => rfl
    | true => exact (clears_iff _ _).mp (mendable.trafficDegraded enabled)
  refine ⟨done,_,replicas,after.trans ran,fine,⟨by rw [degraded]; rfl,fun _ => by rw [trafficDegraded]; rfl⟩,?_,vacated,
    fun _ => ⟨next,key ▸ Store.get_put_same _ _⟩,?_⟩
  · refine ⟨?_,clear.accepted,clear.ports,fun enabled => ?_,fun live held => ?_,clear.answers⟩
    · rw [← c.deployments.keyed _ dep clear.source]
      exact if_pos rfl
    · obtain ⟨inplace,routable⟩ := clear.routes enabled
      subst seen
      exact ⟨inplace,fun ref declared => kept ref (routable ref declared)⟩
    · rw [← key] at held
      cases (Store.get_put_same c.ksvcs next).symm.trans held
      exact sole
  · rintro ⟨-,live,held,ready⟩
    obtain ⟨final,zero⟩ := ends live held ready
    rw [adapted] at final
    have enabled_ : trafficEnabled done.adoption = trafficEnabled a := by
      have moved := succeed_returns _ _ (returns_applyAdopted along_sameObject.moves r z dep ksvc) { c with traffic := traffic }
      rw [ran] at moved
      exact trafficEnabled_spec a _ (moved.spec.trans near.spec)
    refine ⟨(complete_iff _).mpr ⟨degraded,trafficDegraded,?_⟩,zero⟩
    rw [final,enabled_]
    cases trafficEnabled a with
    | false =>
      exact ⟨translated,rfl,missing,Option.some_ne_none Reason.adopted,Option.some_ne_none Reason.knativeServiceReady,
        Option.some_ne_none Reason.sourceQuiesced,fun enabled => absurd enabled (by decide)⟩
    | true =>
      exact ⟨translated,rfl,missing,Option.some_ne_none Reason.adopted,Option.some_ne_none Reason.knativeServiceReady,
        Option.some_ne_none Reason.sourceQuiesced,fun _ => Option.some_ne_none Reason.trafficReady⟩

theorem adoptTranslated_advances (byStatus : r.ByStatus) (clear : Clear c a dep) (x : KnativeAdoption) (same : SameObject a x)
    (mendable : Mendable a x) (missing : standing x .sourceMissing = none) (translated : standing x .translationDegraded = none)
    (ksvc : KService) (filed : ksvc.key = sourceKey a) :
    ∃ done d replicas, apiserver.succeed (adoptTranslated r x dep ksvc) c = (done,d) ∧ Advance r a dep c d done replicas := by
  by_cases vacated : Vacated a c
  · exact adoptTranslated_applies byStatus clear x same mendable missing translated ksvc filed vacated
  · exact adoptTranslated_takes clear x same mendable ksvc vacated

/-- A guard that every pod answers only takes away from the conditions of the others. -/
theorem guarded_lessens (x : KnativeAdoption) (answered : Answered r c x) (t : ConditionType) (other : t ≠ .scaleDownAllowed) :
    standing (guarded r c x) t = none ∨ standing (guarded r c x) t = standing x t := by
  have unset : ∀ e ∈ guardEdits r c x, e.type ≠ t ∨ e.lessens = true := by
    intro e member
    rcases (guardEdits_type r c x).2 e member with type | ⟨-,less⟩
    · exact Or.inl (type ▸ Ne.symm other)
    · exact Or.inr less
  rw [guarded_answered r c x answered]
  unfold standing
  dsimp only
  rcases find_edited_lessened _ x.status.conditions t unset with none | same
  · exact Or.inl (by rw [none])
  · exact Or.inr (by rw [same])

theorem Clear.answered (clear : Clear c a dep) (x : KnativeAdoption) : Answered r c x := by
  intro _ _
  rw [ScaleDown.errored_tally]
  refine List.countP_eq_zero.mpr (fun result member => ?_)
  obtain ⟨pod,-,rfl⟩ := List.mem_map.mp member
  rw [clear.answers]
  decide

theorem clears_lessened (before after : Option Reason) (reason : Reason) (less : after = none ∨ after = before)
    (fine : clears before reason = true) : clears after reason = true := by
  rcases less with rfl | rfl
  · rfl
  · exact fine

theorem reconcileAdoption_advances (byStatus : r.ByStatus) (clear : Clear c a dep) (mendable : Mendable a a)
    (translates : ∃ ksvc, translate dep a = .ok ksvc) :
    ∃ done d replicas, apiserver.succeed (reconcileAdoption r a) c = (done,d) ∧ Advance r a dep c d done replicas := by
  have source : apiserver.succeed (getSourceDeployment a) c = (.ok (some dep),c) := by
    unfold getSourceDeployment
    rw [succeed_ask,show (apiserver.effect c (.getDeployment ⟨a.ns,sourceName a⟩)).2 = .ok dep from found_some clear.source _]
    rfl
  have guard := succeed_maybeRunGuard r c (removeCondition a .sourceMissing)
  have object := (succeed_returns _ _ (returns_maybeRunGuard guardAlong_sameLedger r (removeCondition a .sourceMissing)) c).object
  have less := guarded_lessens (removeCondition a .sourceMissing) (clear.answered (removeCondition a .sourceMissing) (r := r))
  have started (t : ConditionType) (other : t ≠ .sourceMissing) : standing (removeCondition a .sourceMissing) t = standing a t := by
    rw [standing_removeCondition,Function.update_of_ne other]
  have found : standing (removeCondition a .sourceMissing) .sourceMissing = none := by
    rw [standing_removeCondition,Function.update_self]
  obtain ⟨ksvc,accepted⟩ := translates
  obtain ⟨primary,again⟩ := translate_again a dep ksvc accepted dep.spec.replicas
  unfold reconcileAdoption
  rw [succeed_then source]
  dsimp only
  rw [guard] at object
  rw [succeed_then guard]
  generalize guarded r c (removeCondition a .sourceMissing) = b at *
  have translated : translate dep b = .ok (composeKService dep b primary) := again b object.spec
  rw [translated]
  have cleared (t : ConditionType) (other : t ≠ .translationDegraded) : standing (removeCondition b .translationDegraded) t = standing b t := by
    rw [standing_removeCondition,Function.update_of_ne other]
  have mended : Mendable a (removeCondition b .translationDegraded) := by
    refine ⟨?_,fun enabled => ?_⟩
    · rw [cleared _ (by decide)]
      exact clears_lessened _ _ _ (less .degraded (by decide)) (by rw [started _ (by decide)]; exact mendable.degraded)
    · rw [cleared _ (by decide)]
      exact clears_lessened _ _ _ (less .trafficDegraded (by decide))
        (by rw [started _ (by decide)]; exact mendable.trafficDegraded enabled)
  have there : standing (removeCondition b .translationDegraded) .sourceMissing = none := by
    rw [cleared _ (by decide)]
    exact (less .sourceMissing (by decide)).elim id (fun same => same.trans found)
  have fine : standing (removeCondition b .translationDegraded) .translationDegraded = none := by
    rw [standing_removeCondition,Function.update_self]
  have filed : (composeKService dep b primary).key = sourceKey a :=
    (translate_key dep b _ translated).trans (c.deployments.keyed _ dep clear.source)
  have waiting : Clear { c with queue := c.queue++handed r c (removeCondition a .sourceMissing) } a dep :=
    ⟨clear.source,clear.accepted,clear.ports,clear.routes,clear.own,clear.answers⟩
  obtain ⟨done,d,replicas,ran,advance⟩ := adoptTranslated_advances byStatus waiting (removeCondition b .translationDegraded)
    ⟨object.metadata,object.spec⟩ mended there fine (composeKService dep b primary) filed
  exact ⟨done,d,replicas,ran,advance.fine,advance.mendable,advance.clear,advance.vacated,advance.applied,advance.completes⟩

end Stages

/-! One pass after the other. -/

/-- The adoption can complete: nothing stands in its way, in the cluster or in its conditions. -/
structure Adoptable (c : Cluster) (a : KnativeAdoption) (dep : Deployment) : Prop extends Clear c a dep where
  stored : c.adoptions.get a.key = some a
  alive : a.deleting = false
  translates : ∃ ksvc, translate dep a = .ok ksvc
  mendable : Mendable a a

/-- What happens between two passes: Knative works, and nobody edits the adoption. -/
structure Attends (a : KnativeAdoption) (c d : Cluster) : Prop extends Drift c d where
  still : d.adoptions = c.adoptions
  ports : PortsFit a d
  answers : ∀ ns name port path timeout, (d.probes ns name port path timeout).err = none

/-- Some passes, and what happens after each of them. -/
inductive Rounds (r : KnativeAdoptionReconciler) (a : KnativeAdoption) (c : Cluster) : Nat → Cluster → Prop
  | start : Rounds r a c 0 c
  | round {n : Nat} (d e : Cluster) (before : Rounds r a c n d) (attends : Attends a (afterPass r a.key d) e) : Rounds r a c (n + 1) e

/-- The same adoption at another time. -/
structure Later (a s : KnativeAdoption) : Prop where
  key : s.key = a.key
  spec : s.spec = a.spec

theorem Later.trans {a s t : KnativeAdoption} (first : Later a s) (second : Later s t) : Later a t :=
  ⟨second.key.trans first.key,second.spec.trans first.spec⟩

theorem Later.source {a s : KnativeAdoption} (later : Later a s) : sourceKey s = sourceKey a := by
  unfold sourceKey sourceName
  rw [later.spec,show s.ns = a.ns from congrArg NamespacedName.ns later.key,
    show s.name = a.name from congrArg NamespacedName.name later.key]

theorem Later.ports {a s : KnativeAdoption} {c : Cluster} (later : Later a s) : PortsFit s c ↔ PortsFit a c := by
  unfold PortsFit specTrafficServicePort
  rw [later.source,later.spec]

section Rounds
variable {r : KnativeAdoptionReconciler} {a : KnativeAdoption} {dep : Deployment} {c d : Cluster}

/-- A pass over an adoption that can complete. -/
structure Adoptable.Passed (r : KnativeAdoptionReconciler) (a : KnativeAdoption) (c d : Cluster) (s : KnativeAdoption) (rested : Deployment) :
    Prop where
  later : Later a s
  adoptable : Adoptable d s rested
  vacated : Vacated s d
  applied : Vacated a c → ∃ live, d.ksvcs.get (sourceKey s) = some live
  completes : Poised r a c → isCondTrue s .ready = true ∧ rested.spec.effectiveReplicas = 0

theorem Adoptable.pass (adoptable : Adoptable c a dep) (byStatus : r.ByStatus) :
    (apiserver.succeed (reconcile r a.key) c).1.2 = none ∧ ∃ s rested, Adoptable.Passed r a c (afterPass r a.key c) s rested := by
  generalize seen : ({ a with finalizers := ensuredFinalizers a } : KnativeAdoption) = b
  have clear : Clear { c with adoptions := c.adoptions.put b } b dep := by
    subst seen
    exact ⟨adoptable.source,adoptable.accepted,adoptable.ports,adoptable.routes,adoptable.own,adoptable.answers⟩
  have mendable : Mendable b b := by
    subst seen
    exact ⟨adoptable.mendable.degraded,adoptable.mendable.trafficDegraded⟩
  have translates : ∃ ksvc, translate dep b = .ok ksvc := by
    subst seen
    exact adoptable.translates
  obtain ⟨done,d,replicas,ran,advance⟩ := reconcileAdoption_advances byStatus clear mendable translates
  obtain ⟨same,pass⟩ := succeed_reconcile r c d a b done adoptable.stored adoptable.alive seen ran
  have shown : standing (kept b (recomputeReady done.adoption)) = standing (recomputeReady done.adoption) := standing_kept _ _
  have stands (t : ConditionType) (other : t ≠ .ready) : standing (kept b (recomputeReady done.adoption)) t = standing done.adoption t := by
    rw [shown]
    exact standing_told _ _ t (told_recomputeReady done.adoption t other)
  have ready : isCondTrue (kept b (recomputeReady done.adoption)) .ready = complete done.adoption := by
    rw [isCondTrue_standing,shown,← isCondTrue_standing,recomputeReady_ready]
  have after : afterPass r a.key c = { d with adoptions := d.adoptions.put (kept b (recomputeReady done.adoption)) } :=
    congrArg Prod.snd pass
  refine ⟨by rw [pass]; exact advance.fine,kept b (recomputeReady done.adoption),{ dep with spec := { dep.spec with replicas := replicas } },?_⟩
  obtain ⟨status,stored⟩ := kept_status b _ same
  have mended : Mendable (kept b (recomputeReady done.adoption)) (kept b (recomputeReady done.adoption)) := by
    refine ⟨by rw [stands _ (by decide)]; exact advance.mendable.degraded,fun enabled => ?_⟩
    rw [stands _ (by decide)]
    rw [stored] at enabled
    exact advance.mendable.trafficDegraded enabled
  rw [after]
  generalize kept b (recomputeReady done.adoption) = s at *
  subst stored
  obtain ⟨ksvc,accepted⟩ := translates
  obtain ⟨primary,again⟩ := translate_again b dep ksvc accepted replicas
  subst seen
  refine ⟨⟨rfl,rfl⟩,?_,advance.vacated,advance.applied,fun poised => ?_⟩
  · exact {
      source := advance.clear.source
      accepted := advance.clear.accepted
      ports := advance.clear.ports
      routes := advance.clear.routes
      own := advance.clear.own
      answers := advance.clear.answers
      stored := Store.get_put_same _ _
      alive := adoptable.alive
      translates := ⟨_,again _ rfl⟩
      mendable := mended }
  · rw [ready]
    exact advance.completes poised

theorem Attends.vacated (attends : Attends a c d) (s : KnativeAdoption) (vacated : Vacated s c) : Vacated s d := by
  unfold Vacated at vacated ⊢
  rcases attends.services s.key with same | ⟨-,owned,-⟩
  · rw [same]
    exact vacated
  · cases held : d.services.get s.key with
    | none => rfl
    | some svc => exact classify_knativeOwned svc (owned svc held)

/-- What Knative does between two passes puts nothing in the way. -/
theorem Adoptable.attended {s : KnativeAdoption} (adoptable : Adoptable c s dep) (later : Later a s) (attends : Attends a c d) :
    Adoptable d s dep where
  source := by
    rw [attends.deployments]
    exact adoptable.source
  accepted := by
    rcases attends.services s.key with same | ⟨-,owned,-⟩
    · rw [same]
      exact adoptable.accepted
    · cases held : d.services.get s.key with
      | none => decide
      | some svc =>
        rw [classify_knativeOwned svc (owned svc held)]
        decide
  ports := later.ports.mpr attends.ports
  routes enabled := by
    obtain ⟨inplace,routable⟩ := adoptable.routes enabled
    refine ⟨inplace,fun ref declared => ?_⟩
    unfold Routable
    rw [attends.traffic]
    exact routable ref declared
  own live held := by
    obtain ⟨old,there,same⟩ := attends.ksvc_before _ live held
    unfold Sole
    rw [same]
    exact adoptable.own old there
  answers := attends.answers
  stored := by
    rw [attends.still]
    exact adoptable.stored
  alive := adoptable.alive
  translates := adoptable.translates
  mendable := adoptable.mendable

/-- Where some rounds have come to. -/
structure Rounds.At (a : KnativeAdoption) (n : Nat) (d : Cluster) (s : KnativeAdoption) (rested : Deployment) : Prop where
  later : Later a s
  adoptable : Adoptable d s rested
  vacated : 1 ≤ n → Vacated s d

theorem Rounds.reaches (adoptable : Adoptable c a dep) (byStatus : r.ByStatus) {n : Nat} (rounds : Rounds r a c n d) :
    ∃ s rested, Rounds.At a n d s rested := by
  induction rounds with
  | start => exact ⟨a,dep,⟨rfl,rfl⟩,adoptable,fun early => absurd early (by decide)⟩
  | @round n d e before attends ih =>
    obtain ⟨s,rested,reached⟩ := ih
    obtain ⟨-,next,scaled,passed⟩ := reached.adoptable.pass byStatus
    rw [reached.later.key] at passed
    have later := reached.later.trans passed.later
    exact ⟨next,scaled,later,passed.adoptable.attended later attends,fun _ => attends.vacated next passed.vacated⟩

end Rounds

/-- If nothing stands in the way of an adoption, no pass fails, whatever Knative does between the
passes. From the second one on each pass leaves the Knative Service applied, and one that finds it
ready leaves the adoption Ready and its source scaled down. -/
theorem adoption_completes (r : KnativeAdoptionReconciler) (byStatus : r.ByStatus) (a : KnativeAdoption) (dep : Deployment) (c d : Cluster)
    (adoptable : Adoptable c a dep) (n : Nat) (rounds : Rounds r a c n d) :
    (apiserver.succeed (reconcile r a.key) d).1.2 = none ∧
    (1 ≤ n → (∃ live, (afterPass r a.key d).ksvcs.get (sourceKey a) = some live) ∧
      ∀ live, d.ksvcs.get (sourceKey a) = some live → (r.ready live).1 = true →
        ∃ s rested, (afterPass r a.key d).adoptions.get a.key = some s ∧ isCondTrue s .ready = true ∧
          (afterPass r a.key d).deployments.get (sourceKey a) = some rested ∧ rested.spec.effectiveReplicas = 0) := by
  obtain ⟨s,rested,reached⟩ := rounds.reaches adoptable byStatus
  obtain ⟨fine,next,scaled,passed⟩ := reached.adoptable.pass byStatus
  rw [reached.later.key] at fine passed
  have later := reached.later.trans passed.later
  refine ⟨fine,fun second => ⟨?_,fun live held up => ?_⟩⟩
  · obtain ⟨live,applied⟩ := passed.applied (reached.vacated second)
    rw [later.source] at applied
    exact ⟨live,applied⟩
  · rw [← reached.later.source] at held
    obtain ⟨ready,zero⟩ := passed.completes ⟨reached.vacated second,live,held,up⟩
    refine ⟨next,scaled,?_,ready,?_,zero⟩
    · have stored := passed.adoptable.stored
      rw [later.key] at stored
      exact stored
    · have source := passed.adoptable.source
      rw [later.source] at source
      exact source

/-! Knative may take its time. -/

/-- Knative reports one status for all of its Services. -/
def reported (status : KServiceStatus) (c : Cluster) : Cluster where
  __ := c
  ksvcs := {
    get := fun key => (c.ksvcs.get key).map (fun k => { k with status := status })
    keyed := by
      intro key k held
      obtain ⟨old,there,rfl⟩ := Option.map_eq_some_iff.mp held
      exact c.ksvcs.keyed key old there }

theorem attends_reported (a : KnativeAdoption) (c : Cluster) (status : KServiceStatus) (ports : PortsFit a c)
    (answers : ∀ ns name port path timeout, (c.probes ns name port path timeout).err = none) : Attends a c (reported status c) where
  deployments := rfl
  traffic := rfl
  adoptions := (Drift.refl c).adoptions
  ksvcs key := by
    unfold reported
    dsimp only
    cases c.ksvcs.get key with
    | none => rfl
    | some k => exact Or.inr ⟨k.template.annotations,status,rfl⟩
  services := (Drift.refl c).services
  still := rfl
  ports := ports
  answers := answers

section Patience
variable {r : KnativeAdoptionReconciler} {a : KnativeAdoption} {dep : Deployment} {c : Cluster}

/-- Some rounds in which it does nothing. -/
theorem rounds_idle (adoptable : Adoptable c a dep) (byStatus : r.ByStatus) (n : Nat) : ∃ d, Rounds r a c n d := by
  induction n with
  | zero => exact ⟨c,.start⟩
  | succ n ih =>
    obtain ⟨d,rounds⟩ := ih
    obtain ⟨s,rested,reached⟩ := rounds.reaches adoptable byStatus
    obtain ⟨-,next,scaled,passed⟩ := reached.adoptable.pass byStatus
    rw [reached.later.key] at passed
    exact ⟨_,.round d _ rounds {
      toDrift := .refl _
      still := rfl
      ports := (reached.later.trans passed.later).ports.mp passed.adoptable.ports
      answers := passed.adoptable.answers }⟩

/-- And then it reports a status. -/
theorem rounds_reported (adoptable : Adoptable c a dep) (byStatus : r.ByStatus) (n : Nat) (status : KServiceStatus) :
    ∃ d live, Rounds r a c (n + 2) d ∧ d.ksvcs.get (sourceKey a) = some live ∧ live.status = status := by
  obtain ⟨d,rounds⟩ := rounds_idle adoptable byStatus (n + 1)
  obtain ⟨s,rested,reached⟩ := rounds.reaches adoptable byStatus
  obtain ⟨-,next,scaled,passed⟩ := reached.adoptable.pass byStatus
  rw [reached.later.key] at passed
  have later := reached.later.trans passed.later
  obtain ⟨live,applied⟩ := passed.applied (reached.vacated (Nat.le_add_left 1 n))
  rw [later.source] at applied
  refine ⟨reported status (afterPass r a.key d),{ live with status := status },.round d _ rounds (attends_reported a _ status
    (later.ports.mp passed.adoptable.ports) passed.adoptable.answers),?_,rfl⟩
  change ((afterPass r a.key d).ksvcs.get (sourceKey a)).map _ = _
  rw [applied]
  rfl

end Patience

theorem accepts {ε α : Type} (x : Except ε α) (fine : x.toOption.isSome = true) : ∃ y, x = .ok y := by
  cases x with
  | ok y => exact ⟨y,rfl⟩
  | error err => cases fine

theorem adoptable_sample : Adoptable Sample.cluster Sample.adoption Sample.deployment where
  source := by decide +kernel
  accepted := by decide +kernel
  ports := by
    refine ⟨fun svc port held first => ?_,by decide +kernel⟩
    have there : Sample.cluster.services.get (sourceKey Sample.adoption) = some Sample.service := by decide +kernel
    cases there.symm.trans held
    revert port first
    decide +kernel
  routes _ := by
    refine ⟨rfl,fun ref declared => ?_⟩
    have only : trafficRefs Sample.adoption = [(.destinationRule,"web")] := by decide +kernel
    rw [only] at declared
    rw [List.mem_singleton.mp declared]
    refine ⟨by decide,Sample.destinationRule,by decide +kernel,fun port => ?_⟩
    exact accepts (rewriteOf .destinationRule (routeTarget Sample.adoption none) _) (by decide +kernel)
  own live held := by
    have none : Sample.cluster.ksvcs.get (sourceKey Sample.adoption) = none := by decide +kernel
    cases none.symm.trans held
  answers _ _ _ _ _ := rfl
  stored := by decide +kernel
  alive := rfl
  translates := accepts _ (by decide +kernel)
  mendable := ⟨by decide +kernel,fun _ => by decide +kernel⟩

namespace Sample

def up : KServiceStatus := { url := some "http://web.prod.example.com", conditions := [{ type := "Ready", status := .true }] }

end Sample

/-- The first pass takes the Service over, the second applies the Knative Service, and the third
finds it not ready; the fourth completes. -/
theorem adoption_completes_sample :
    ∃ d live, Rounds {} Sample.adoption Sample.cluster 3 d ∧ d.ksvcs.get (sourceKey Sample.adoption) = some live ∧
      live.status = Sample.up ∧ (apiserver.succeed (reconcile {} Sample.adoption.key) d).1.2 = none ∧
      ∃ s rested, (afterPass {} Sample.adoption.key d).adoptions.get Sample.adoption.key = some s ∧ isCondTrue s .ready = true ∧
        (afterPass {} Sample.adoption.key d).deployments.get (sourceKey Sample.adoption) = some rested ∧
        rested.spec.effectiveReplicas = 0 := by
  have byStatus : KnativeAdoptionReconciler.ByStatus {} := by
    intro k l same
    change knativeServiceReady l = knativeServiceReady k
    unfold knativeServiceReady
    rw [same]
  obtain ⟨d,live,rounds,held,status⟩ := rounds_reported (r := {}) adoptable_sample byStatus 1 Sample.up
  have ready : (KnativeAdoptionReconciler.ready {} live).1 = true := by
    change (knativeServiceReady live).1 = true
    unfold knativeServiceReady
    rw [status]
    rfl
  obtain ⟨fine,completes⟩ := adoption_completes {} byStatus Sample.adoption Sample.deployment Sample.cluster d adoptable_sample 3 rounds
  exact ⟨d,live,rounds,held,status,fine,(completes (by decide)).2 live held ready⟩

end Ifaas
