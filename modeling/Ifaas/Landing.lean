import Ifaas.SteadyPass

/-! A fault-free pass that ends without an error and leaves the adoption complete has done
everything: each stage is read backwards from there, and the cluster at its end is one in which
the adoption has landed. -/
namespace Ifaas
open Library

/-- A part of the cluster that the program does not write is as it was. -/
theorem succeed_same {α : Type} {parts : List Part} (part : Part) (p : Op α) (within : Within parts p) (outside : part ∉ parts)
    (c : Cluster) : part.Same c (apiserver.succeed p c).2 := by
  obtain ⟨log,run,-⟩ := run_succeed apiserver Eq (fun _ => rfl) p c
  exact run_same part (same_of_eq part) within outside run

/-! The source. -/

section Source
variable (a : KnativeAdoption) (dep : Deployment) (c : Cluster)

/-- The last stage scales the source down, if it is not down already. -/
theorem finishAdoption_ends (stored : c.deployments.get dep.key = some dep) :
    ∃ x result replicas, SameFace a x ∧ ({ dep.spec with replicas := replicas } : DeploymentSpec).effectiveReplicas = 0 ∧
      apiserver.succeed (finishAdoption a dep) c =
        ({ adoption := setReady (setCondition x .sourceQuiesced .true .sourceQuiesced "Deployment scaled to 0") .true .adopted
             "adoption complete"
           result := result },
          { c with deployments := c.deployments.put { dep with spec := { dep.spec with replicas := replicas } } }) := by
  by_cases zero : dep.spec.effectiveReplicas = 0
  · refine ⟨a,⟨if guardEnabled a = true then guardRequeueAfter a else 0⟩,dep.spec.replicas,.refl a,zero,
      (succeed_finishAdoption c a dep zero).trans ?_⟩
    exact Prod.ext rfl (congrArg (fun store => { c with deployments := store }) (Store.put_get _ _ stored).symm)
  · have effect : apiserver.effect c (.applyReplicas dep.key 0) =
        ({ c with deployments := c.deployments.put { dep with spec := { dep.spec with replicas := some 0 } } },.ok ()) := by
      change c.applyReplicas dep.key 0 = _
      unfold Cluster.applyReplicas
      rw [stored]
    have quieted : apiserver.succeed (quiesceSource a dep) c = ((snapshotReplicas a dep.spec.effectiveReplicas,none),
        { c with deployments := c.deployments.put { dep with spec := { dep.spec with replicas := some 0 } } }) := by
      unfold quiesceSource
      rw [if_neg zero]
      refine (succeed_ask apiserver _ _ c).trans ?_
      rw [effect]
      rfl
    have face : SameFace a (snapshotReplicas a dep.spec.effectiveReplicas) := by
      unfold snapshotReplicas
      split <;> exact ⟨⟨rfl,rfl⟩,rfl⟩
    have ends (x : KnativeAdoption) (e : Cluster) : ∃ result, apiserver.succeed (if guardEnabled x = true then
        (pure { adoption := x, result := ⟨guardRequeueAfter x⟩ } : Op Reconciled) else pure { adoption := x }) e =
          ({ adoption := x, result := result },e) := by
      split <;> exact ⟨_,rfl⟩
    obtain ⟨result,ended⟩ := ends (setReady (setCondition (snapshotReplicas a dep.spec.effectiveReplicas) .sourceQuiesced .true
      .sourceQuiesced "Deployment scaled to 0") .true .adopted "adoption complete")
      { c with deployments := c.deployments.put { dep with spec := { dep.spec with replicas := some 0 } } }
    refine ⟨_,result,some 0,face,rfl,?_⟩
    unfold finishAdoption
    exact (succeed_then quieted _).trans ended

theorem finishAdoption_rests (stored : c.deployments.get dep.key = some dep) :
    ∃ replicas, ({ dep.spec with replicas := replicas } : DeploymentSpec).effectiveReplicas = 0 ∧
      (apiserver.succeed (finishAdoption a dep) c).2.deployments.get dep.key =
        some { dep with spec := { dep.spec with replicas := replicas } } := by
  obtain ⟨x,result,replicas,-,zero,ended⟩ := finishAdoption_ends a dep c stored
  rw [ended]
  exact ⟨replicas,zero,if_pos rfl⟩

/-- The translation does not look at the replicas, nor at anything of the adoption but its
specification and its name. -/
theorem translate_again (ksvc : KService) (accepted : translate dep a = .ok ksvc) (replicas : Option Int) :
    ∃ primary, ∀ b : KnativeAdoption, b.spec = a.spec →
      translate { dep with spec := { dep.spec with replicas := replicas } } b =
        .ok (composeKService { dep with spec := { dep.spec with replicas := replicas } } b primary) := by
  have checked : ∃ fine, guardPodSpec dep.spec.template = .ok fine := by
    cases guard : guardPodSpec dep.spec.template with
    | ok fine => exact ⟨fine,rfl⟩
    | error err =>
      unfold translate at accepted
      rw [guard] at accepted
      cases accepted
  obtain ⟨fine,guard⟩ := checked
  obtain ⟨primary,port,chosen,user,-⟩ := translate_primary dep a ksvc accepted
  refine ⟨primary,fun b same => ?_⟩
  have picked : pickPrimaryContainer { dep with spec := { dep.spec with replicas := replicas } } b = .ok primary := by
    rw [← chosen]
    unfold pickPrimaryContainer
    rw [same]
  unfold translate
  rw [picked]
  change (do let _ ← guardPodSpec dep.spec.template; let x ← Except.ok primary; let _ ← pickUserPort x; return _) = _
  rw [guard]
  change (do let _ ← pickUserPort primary; return _) = _
  rw [user]
  rfl

end Source

/-! The Knative Service. -/

section Serve
variable (r : KnativeAdoptionReconciler) (a : KnativeAdoption) (dep : Deployment) (ksvc : KService) (c : Cluster)

theorem awaitKService_ready (fine : (apiserver.succeed (awaitKService r a dep ksvc) c).1.err = none)
    (whole : complete (apiserver.succeed (awaitKService r a dep ksvc) c).1.adoption = true) :
    ∃ live b, c.ksvcs.get ksvc.key = some live ∧ (r.ready live).1 = true ∧
      apiserver.succeed (awaitKService r a dep ksvc) c = apiserver.succeed (finishAdoption b dep) c := by
  cases held : c.ksvcs.get ksvc.key with
  | none =>
    unfold awaitKService at fine
    rw [succeed_ask,show (apiserver.effect c (.getKService ksvc.key)).2 = .error _ from found_none held _] at fine
    cases fine
  | some live =>
    by_cases ready : (r.ready live).1 = true
    · exact ⟨live,_,rfl,ready,succeed_awaitKService r c a dep ksvc live held ready⟩
    · unfold awaitKService at whole
      rw [succeed_ask,show (apiserver.effect c (.getKService ksvc.key)).2 = .ok live from found_some held _] at whole
      dsimp only at whole
      rw [if_neg ready] at whole
      refine absurd whole (Bool.eq_false_iff.mp (complete_of_missing _ .serviceAdopted (by decide) ?_))
      change standing (setReady (setCondition _ .serviceAdopted .false _ _) _ _ _) .serviceAdopted = none
      rw [setReady,standing_setCondition,Function.update_of_ne (by decide),standing_setCondition,Function.update_self]
      rfl

/-- What an apply that was accepted leaves. -/
theorem applyKnativeService_owns (owned : ksvc.ownerReferences = [ownerReferenceOf a])
    (fine : (apiserver.succeed (applyKnativeService ksvc) c).1 = .ok ()) :
    ∃ next, (apiserver.succeed (applyKnativeService ksvc) c).2 = { c with ksvcs := c.ksvcs.put next } ∧
      next.key = ksvc.key ∧ Sole a next := by
  have ran (next : Cluster) (answer : Except ApiError Unit) (effect : c.applyKService ksvc = (next,answer)) :
      (apiserver.succeed (applyKnativeService ksvc) c).2 = next ∧
        ((apiserver.succeed (applyKnativeService ksvc) c).1 = .ok () → answer = .ok ()) := by
    unfold applyKnativeService
    rw [succeed_ask,show apiserver.effect c (.applyKService ksvc) = (next,answer) from effect]
    cases answer with
    | ok done => exact ⟨rfl,fun _ => rfl⟩
    | error err => exact ⟨rfl,nofun⟩
  have sole : Sole a { ksvc with status := {} } := by
    unfold Sole
    rw [owned]
    simp [Cluster.mergeOwners,ownerReferenceOf]
  cases held : c.ksvcs.get ksvc.key with
  | none =>
    have effect : c.applyKService ksvc = ({ c with ksvcs := c.ksvcs.put { ksvc with status := {} } },.ok ()) := by
      unfold Cluster.applyKService
      rw [held]
    exact ⟨_,(ran _ _ effect).1,rfl,sole⟩
  | some stored =>
    by_cases many : ((Cluster.appliedKService stored ksvc).ownerReferences.filter (fun owner => owner.controller)).length > 1
    · have effect : c.applyKService ksvc = (c,.error ⟨.invalid,"Only one reference can have Controller set to true"⟩) := by
        unfold Cluster.applyKService
        rw [held]
        exact if_pos many
      cases (ran _ _ effect).2 fine
    · have effect : c.applyKService ksvc = ({ c with ksvcs := c.ksvcs.put (Cluster.appliedKService stored ksvc) },.ok ()) := by
        unfold Cluster.applyKService
        rw [held]
        exact if_neg many
      refine ⟨_,(ran _ _ effect).1,c.ksvcs.keyed _ stored held,?_⟩
      unfold Sole
      change ((Cluster.mergeOwners (Cluster.mergeOwners stored.ownerReferences ksvc.ownerReferences) _).filter _).length ≤ 1
      rw [← owned,mergeOwners_again]
      exact Nat.not_lt.mp many

/-- The last stages: the Knative Service is owned and ready, and the source is scaled down. -/
theorem applyAdopted_lands (stored : c.deployments.get dep.key = some dep)
    (fine : (apiserver.succeed (applyAdopted r a dep ksvc) c).1.err = none)
    (whole : complete (apiserver.succeed (applyAdopted r a dep ksvc) c).1.adoption = true) :
    ∃ live replicas, (apiserver.succeed (applyAdopted r a dep ksvc) c).2.ksvcs.get ksvc.key = some live ∧ Sole a live ∧
      (r.ready live).1 = true ∧ ({ dep.spec with replicas := replicas } : DeploymentSpec).effectiveReplicas = 0 ∧
      (apiserver.succeed (applyAdopted r a dep ksvc) c).2.deployments.get dep.key =
        some { dep with spec := { dep.spec with replicas := replicas } } := by
  unfold applyAdopted at fine whole ⊢
  cases referenced : setControllerReference a ksvc with
  | error err =>
    rw [referenced] at fine
    cases fine
  | ok own =>
    have owned : own.ownerReferences = [ownerReferenceOf a] ∧ own.key = ksvc.key := by
      unfold setControllerReference at referenced
      split at referenced
      · cases referenced
      · cases referenced
        exact ⟨rfl,rfl⟩
    rw [referenced] at fine whole
    dsimp only at fine whole ⊢
    cases applied : (apiserver.succeed (applyKnativeService own) c).1 with
    | error err =>
      rw [succeed_bind,applied] at fine
      cases fine
    | ok done =>
      obtain ⟨next,after,filed,sole⟩ := applyKnativeService_owns a own c owned.1 applied
      have ran : apiserver.succeed (applyKnativeService own) c = (.ok (),{ c with ksvcs := c.ksvcs.put next }) :=
        Prod.ext applied after
      rw [succeed_then ran] at fine whole ⊢
      obtain ⟨live,b,found,ready,same⟩ := awaitKService_ready r _ dep own _ fine whole
      rw [same] at fine ⊢
      obtain ⟨replicas,zero,rested⟩ := finishAdoption_rests b dep { c with ksvcs := c.ksvcs.put next } stored
      have kept : (apiserver.succeed (finishAdoption b dep) { c with ksvcs := c.ksvcs.put next }).2.ksvcs = c.ksvcs.put next :=
        succeed_same .ksvcs _ (within_finishAdoption b dep) (by decide) _
      have own_ : live = next := by
        rw [← filed] at found
        exact Option.some.inj (found.symm.trans (Store.get_put_same c.ksvcs next))
      subst own_
      refine ⟨live,replicas,?_,sole,ready,zero,rested⟩
      rw [kept,← owned.2]
      exact found

end Serve

/-! The traffic objects. -/

/-- What the traffic stage let through has converged. -/
theorem adaptTraffic_converges (a b : KnativeAdoption) (c : Cluster)
    (narrow : ∀ port, livePort a c = some port → toInt32 port = port)
    (fine : (apiserver.succeed (adaptTraffic a) c).1 = .ok b) (enabled : trafficEnabled a = true) :
    trafficMode a = .inplace ∧
      ∀ ref ∈ trafficRefs a, AtRest (routeTarget a (livePort a c)) (apiserver.succeed (adaptTraffic a) c).2 ref := by
  have ran : ∃ x, apiserver.succeed (reconcileTraffic a) c = ((x,none),(apiserver.succeed (adaptTraffic a) c).2) := by
    unfold adaptTraffic at fine ⊢
    rw [if_pos enabled] at fine ⊢
    obtain ⟨⟨x,err⟩,after⟩ : ∃ result, apiserver.succeed (reconcileTraffic a) c =
        (result,(apiserver.succeed (reconcileTraffic a) c).2) := ⟨_,rfl⟩
    rw [succeed_then after] at fine ⊢
    cases err with
    | some err => cases fine
    | none => exact ⟨x,after⟩
  obtain ⟨x,ended⟩ := ran
  obtain ⟨log,run,-⟩ := run_succeed apiserver Eq (fun _ => rfl) (reconcileTraffic a) c
  rw [ended] at run
  have still (c d : Cluster) (same : c = d) : d.traffic = c.traffic := same ▸ rfl
  obtain ⟨inplace,first,rest,m,port,rfl,resolved⟩ := run_stage a x enabled c _ log run
  obtain ⟨rfl,rfl⟩ := run_resolve a c m first port resolved
  obtain ⟨reports,isolated⟩ := isolated_of_run still a x enabled inplace _ narrow c c _ first rest none resolved run
  refine ⟨inplace,fun ref declared => ?_⟩
  rw [← isolated.refs] at declared
  obtain ⟨report,member,rfl⟩ := List.mem_map.mp declared
  have calm := List.findSome?_eq_none_iff.mp isolated.error.symm report member
  obtain ⟨o,stored,held,form,found⟩ := isolated.rewritten report member calm
  have filed : stored.key = report.key (routeTarget a (livePort a c)) := form.key.trans (c.traffic.keyed _ o held)
  have again := rewritten_again (routeTarget a (livePort a c)) narrow o stored form
  rw [filed] at again
  refine ⟨fun blank => ?_,stored,_,found,again⟩
  unfold RefReport.error at calm
  rw [if_pos blank] at calm
  cases calm

/-! The Service of the adoption's name. -/

theorem succeed_returns {α : Type} (P : α → Prop) (p : Op α) (returns : p.Returns P) (c : Cluster) : P (apiserver.succeed p c).1 := by
  obtain ⟨log,run,-⟩ := run_succeed apiserver Eq (fun _ => rfl) p c
  exact run_returns returns run

theorem takeOver_swapping (a : KnativeAdoption) (svc : Service) :
    (takeOver a svc).Returns (fun result => ∀ decision, result.2 = .ok decision →
      decision = .takenOver ∧ standing result.1 .serviceAdopted = none) := by
  have swapping : standing (snapshotService (serviceSwapping a) svc) .serviceAdopted = none := by
    change standing (serviceSwapping a) .serviceAdopted = none
    unfold serviceSwapping
    rw [standing_setCondition,Function.update_self]
    rfl
  have deleted : (snapshotAndDeleteService (serviceSwapping a) svc).Returns
      (fun result => result.1 = snapshotService (serviceSwapping a) svc) := by
    unfold snapshotAndDeleteService
    refine Program.returns_bind _ (Program.returns_true _) (fun answer _ => ?_)
    cases answer with
    | ok done => exact Program.returns_pure _ _ rfl
    | error err =>
      dsimp only
      split <;> exact Program.returns_pure _ _ rfl
  unfold takeOver
  refine Program.returns_bind _ deleted (fun result same => ?_)
  obtain ⟨b,outcome⟩ := result
  subst same
  cases outcome with
  | error err => exact Program.returns_pure _ _ nofun
  | ok done =>
    refine Program.returns_pure _ _ (fun decision taken => ?_)
    cases taken
    exact ⟨rfl,swapping⟩

/-- A swap that does not stop the pass leaves the Service alone; one that does leaves the
adoption without its Service, or refused. -/
theorem swapService_ends (a b : KnativeAdoption) (c d : Cluster) (decision : SwapDecision)
    (ran : apiserver.succeed (swapService a) c = ((b,.ok decision),d)) :
    (decision = .pass ∧ d = c ∧ b = removeCondition a .serviceAdoptionRefused ∧
      (classifyServiceForSwap (c.services.get a.key)).decision = .pass) ∨
    (decision ≠ .pass ∧ standing b .serviceAdopted = none) := by
  have acts (svc : Option Service) (same : c.services.get a.key = svc) (found_ : apiserver.succeed (swapFound a svc) c = ((b,.ok decision),d)) :
      (decision = .pass ∧ d = c ∧ b = removeCondition a .serviceAdoptionRefused ∧
        (classifyServiceForSwap (c.services.get a.key)).decision = .pass) ∨
      (decision ≠ .pass ∧ standing b .serviceAdopted = none) := by
    rw [same]
    unfold swapFound at found_
    cases verdict : classifyServiceForSwap svc with
    | pass msg =>
      rw [verdict] at found_
      cases found_
      exact Or.inl ⟨rfl,rfl,rfl,rfl⟩
    | refused reason msg =>
      rw [verdict] at found_
      cases found_
      refine Or.inr ⟨nofun,?_⟩
      rw [standing_setCondition,Function.update_self]
      rfl
    | takenOver =>
      rw [verdict] at found_
      cases svc with
      | none => cases verdict
      | some svc =>
        have taken := succeed_returns _ _ (takeOver_swapping a svc) c
        rw [show apiserver.succeed (takeOver a svc) c = _ from found_] at taken
        obtain ⟨rfl,missing⟩ := taken decision rfl
        exact Or.inr ⟨nofun,missing⟩
  unfold swapService at ran
  rw [show (Client.getService a.key >>= _) = (Program.request _ >>= _) from rfl,succeed_ask] at ran
  cases held : c.services.get a.key with
  | none =>
    rw [show (apiserver.effect c (.getService a.key)).2 = .error _ from found_none held _] at ran
    exact held ▸ acts none held ran
  | some svc =>
    rw [show (apiserver.effect c (.getService a.key)).2 = .ok svc from found_some held _] at ran
    exact held ▸ acts (some svc) held ran

/-! The whole pass, read backwards. -/

section Backwards
variable (r : KnativeAdoptionReconciler) (a : KnativeAdoption) (c : Cluster)

/-- What is in place at the end of a pass that is done. -/
structure Arrived (d : Cluster) (dep : Deployment) (primary : Container) (live : KService) : Prop where
  source : d.deployments.get ⟨a.ns,sourceName a⟩ = some dep
  quiesced : dep.spec.effectiveReplicas = 0
  translates : ∀ b : KnativeAdoption, b.spec = a.spec → translate dep b = .ok (composeKService dep b primary)
  passes : (classifyServiceForSwap (d.services.get a.key)).decision = .pass
  routes : trafficEnabled a = true → trafficMode a = .inplace ∧
    ∀ ref ∈ trafficRefs a, AtRest (routeTarget a (livePort a d)) d ref
  held : d.ksvcs.get ⟨a.ns,sourceName a⟩ = some live
  sole : Sole a live
  ready : (r.ready live).1 = true

theorem within_applyAdopted (b : KnativeAdoption) (dep : Deployment) (ksvc : KService) :
    Within [.ksvcs,.deployments] (applyAdopted r b dep ksvc) := by
  unfold applyAdopted
  split
  · exact within_pure _
  · refine within_bind (within_mono _ (within_applyKnativeService _) (by simp)) (fun answer => ?_)
    cases answer with
    | error err => exact within_pure _
    | ok done => exact within_mono _ (within_awaitKService r _ dep _) (by simp)

/-- The stages after the swap. -/
theorem routed_arrives (narrow : ∀ port, livePort a c = some port → toInt32 port = port) (b : KnativeAdoption)
    (same : SameObject a b) (y : KnativeAdoption) (near : SameObject a y) (dep : Deployment) (ksvc : KService)
    (stored : c.deployments.get ⟨a.ns,sourceName a⟩ = some dep) (accepted : translate dep b = .ok ksvc)
    (passes : (classifyServiceForSwap (c.services.get a.key)).decision = .pass) {rest : Except Reconciled KnativeAdoption → Op Reconciled}
    (rest_ok : ∀ z, rest (.ok z) = applyAdopted r z dep ksvc) (rest_error : ∀ ended, rest (.error ended) = pure ended)
    (fine : (apiserver.succeed (adaptTraffic y >>= rest) c).1.err = none)
    (whole : complete (apiserver.succeed (adaptTraffic y >>= rest) c).1.adoption = true) :
    ∃ rested primary live, Arrived r a (apiserver.succeed (adaptTraffic y >>= rest) c).2 rested primary live := by
  have filed : dep.key = ⟨a.ns,sourceName a⟩ := c.deployments.keyed _ dep stored
  obtain ⟨status,rfl⟩ : ∃ status, y = { a with status := status } := by
    refine ⟨y.status,?_⟩
    rw [← near.metadata,← near.spec]
  obtain ⟨adapted,k,routed⟩ : ∃ result k, apiserver.succeed (adaptTraffic { a with status := status }) c = (result,k) := ⟨_,_,rfl⟩
  have ended := succeed_returns _ _ (adaptTraffic_standing { a with status := status }) c
  have deployments : k.deployments = c.deployments := by
    have kept := succeed_same .deployments _ (within_adaptTraffic { a with status := status }) (by decide) c
    rwa [routed] at kept
  have services : k.services = c.services := by
    have kept := succeed_same .services _ (within_adaptTraffic { a with status := status }) (by decide) c
    rwa [routed] at kept
  rw [routed] at ended
  rw [succeed_then routed] at fine whole ⊢
  cases adapted with
  | error stopped =>
    rw [rest_error] at fine
    exact absurd fine (ended.1 stopped rfl).1
  | ok z =>
    rw [rest_ok] at fine whole ⊢
    have converges := adaptTraffic_converges { a with status := status } z c narrow (congrArg Prod.fst routed)
    rw [routed] at converges
    obtain ⟨metadata,-,-⟩ := ended.2 z rfl
    have there : k.deployments.get dep.key = some dep := by rw [deployments,filed]; exact stored
    obtain ⟨live,replicas,held,sole,ready,zero,rested⟩ := applyAdopted_lands r z dep ksvc k there fine whole
    obtain ⟨primary,translates⟩ := translate_again b dep ksvc accepted replicas
    have ported := succeed_same .services _ (within_applyAdopted r z dep ksvc) (by decide) k
    have carried := succeed_same .traffic _ (within_applyAdopted r z dep ksvc) (by decide) k
    generalize apiserver.succeed (applyAdopted r z dep ksvc) k = final at *
    have sameServices : final.2.services = c.services := Eq.trans ported services
    have sameTraffic : final.2.traffic = k.traffic := carried
    refine ⟨_,primary,live,?_,zero,fun x spec => translates x (spec.trans same.spec.symm),?_,fun enabled => ?_,?_,?_,ready⟩
    · rw [← filed]
      exact rested
    · rw [sameServices]
      exact passes
    · obtain ⟨inplace,all⟩ := converges enabled
      refine ⟨inplace,fun ref member => ?_⟩
      have port : livePort a final.2 = livePort a c := by
        unfold livePort
        rw [sameServices]
      unfold AtRest
      rw [port,sameTraffic]
      exact all ref member
    · rw [← filed,← translate_key dep b ksvc accepted]
      exact held
    · unfold Sole ownerReferenceOf at sole ⊢
      rw [metadata] at sole
      exact sole

theorem adoptTranslated_arrives (narrow : ∀ port, livePort a c = some port → toInt32 port = port) (b : KnativeAdoption)
    (same : SameObject a b) (dep : Deployment) (ksvc : KService) (stored : c.deployments.get ⟨a.ns,sourceName a⟩ = some dep)
    (accepted : translate dep b = .ok ksvc)
    (fine : (apiserver.succeed (adoptTranslated r (removeCondition b .translationDegraded) dep ksvc) c).1.err = none)
    (whole : complete (apiserver.succeed (adoptTranslated r (removeCondition b .translationDegraded) dep ksvc) c).1.adoption = true) :
    ∃ rested primary live,
      Arrived r a (apiserver.succeed (adoptTranslated r (removeCondition b .translationDegraded) dep ksvc) c).2 rested primary live := by
  have moves (x : KnativeAdoption) (t : ConditionType) : SameObject x (removeCondition x t) := ⟨rfl,rfl⟩
  have filed : dep.key = ⟨a.ns,sourceName a⟩ := c.deployments.keyed _ dep stored
  generalize cleared : removeCondition b .translationDegraded = x at *
  have face : SameObject a x := .trans _ _ _ same (cleared ▸ moves b _)
  obtain ⟨⟨y,outcome⟩,m,swapped⟩ : ∃ result m, apiserver.succeed (swapService x) c = (result,m) := ⟨_,_,rfl⟩
  unfold adoptTranslated at fine whole ⊢
  rw [succeed_then swapped] at fine whole ⊢
  cases outcome with
  | error err => cases fine
  | ok decision =>
    rcases swapService_ends x y c m decision swapped with ⟨rfl,rfl,seen,passes⟩ | ⟨stopped,missing⟩
    · have near : SameObject a y := .trans _ _ _ face (seen ▸ moves x _)
      dsimp only at fine whole ⊢
      have classified : (classifyServiceForSwap (m.services.get a.key)).decision = .pass := by
        unfold ObjectMeta.key at passes ⊢
        rw [face.metadata] at passes
        exact passes
      exact routed_arrives r a m narrow b same y near dep ksvc stored accepted classified (fun _ => rfl) (fun _ => rfl) fine whole
    · exfalso
      have incomplete (z : KnativeAdoption) (none : standing z .serviceAdopted = none) (all : complete z = true) : False :=
        absurd all (Bool.eq_false_iff.mp (complete_of_missing z .serviceAdopted (by decide) none))
      cases decision with
      | pass => exact stopped rfl
      | takenOver => exact incomplete y missing whole
      | refused =>
        refine incomplete _ ?_ whole
        change standing (setReady (setCondition y .adopted _ _ _) _ _ _) .serviceAdopted = none
        rw [setReady,standing_setCondition,Function.update_of_ne (by decide),standing_setCondition,
          Function.update_of_ne (by decide)]
        exact missing

theorem reconcileAdoption_arrives (narrow : ∀ port, livePort a c = some port → toInt32 port = port)
    (fine : (apiserver.succeed (reconcileAdoption r a) c).1.err = none)
    (whole : complete (apiserver.succeed (reconcileAdoption r a) c).1.adoption = true) :
    ∃ dep primary live, Arrived r a (apiserver.succeed (reconcileAdoption r a) c).2 dep primary live := by
  have failed (x : KnativeAdoption) (t : ConditionType) (failure : t ∈ readyAggregateFailures) (stands : standing x t ≠ none)
      (all : complete x = true) : False :=
    absurd all (Bool.eq_false_iff.mp (complete_of_failure x t failure stands))
  have marked (x : KnativeAdoption) (t : ConditionType) (reason other : Reason) (msg text : String) (differ : t ≠ .adopted ∧ t ≠ .ready) :
      standing (setReady (setCondition (setCondition x t .true reason msg) .adopted .false other text) .false other text) t ≠ none := by
    rw [setReady,standing_setCondition,Function.update_of_ne differ.2,standing_setCondition,Function.update_of_ne differ.1,
      standing_setCondition,Function.update_self]
    exact Option.some_ne_none reason
  unfold reconcileAdoption at fine whole ⊢
  cases held : c.deployments.get ⟨a.ns,sourceName a⟩ with
  | none =>
    have source : apiserver.succeed (getSourceDeployment a) c = (.ok none,c) := by
      unfold getSourceDeployment
      rw [succeed_ask,show (apiserver.effect c (.getDeployment ⟨a.ns,sourceName a⟩)).2 = .error _ from found_none held _]
      rfl
    rw [succeed_then source] at whole
    exact (failed _ .sourceMissing (by decide) (marked _ _ _ _ _ _ (by decide)) whole).elim
  | some dep =>
    have source : apiserver.succeed (getSourceDeployment a) c = (.ok (some dep),c) := by
      unfold getSourceDeployment
      rw [succeed_ask,show (apiserver.effect c (.getDeployment ⟨a.ns,sourceName a⟩)).2 = .ok dep from found_some held _]
      rfl
    have guard := succeed_maybeRunGuard r c (removeCondition a .sourceMissing)
    have same := (succeed_returns _ _ (returns_maybeRunGuard guardAlong_sameLedger r (removeCondition a .sourceMissing)) c).object
    rw [guard] at same
    rw [succeed_then source] at fine whole ⊢
    dsimp only at fine whole ⊢
    rw [succeed_then guard] at fine whole ⊢
    generalize guarded r c (removeCondition a .sourceMissing) = b at *
    cases accepted : translate dep b with
    | error err =>
      rw [accepted] at whole
      exact (failed _ .translationDegraded (by decide) (marked b _ _ _ _ _ (by decide)) whole).elim
    | ok ksvc =>
      rw [accepted] at fine whole
      exact adoptTranslated_arrives r a { c with queue := c.queue++handed r c (removeCondition a .sourceMissing) } narrow b ⟨same.metadata,same.spec⟩ dep ksvc held accepted fine whole

end Backwards

end Ifaas
