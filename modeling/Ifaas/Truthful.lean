import Ifaas.RefusedSpecs
import Ifaas.SteadyState
import Ifaas.Wakeups

/-! The status at rest. An adoption that is neither being reconciled nor enqueued says in its
status how things stand: why it is refused, or that its Knative Service is not ready yet, or
that it is adopted, whatever was changed in between and by whom. No timer is needed for that. -/
namespace Ifaas
open Library

/-! How things stand, and what a status says about it. -/

inductive Verdict where
  | sourceMissing
  | untranslatable (err : TranslateError)
  | refused (reason : Reason) (message : String)
  | swapping
  | unapplied
  | waiting (url : String)
  | running
  | adopted (url : String)

/-- How things stand for an adoption, by what it looks at. -/
def verdict (r : KnativeAdoptionReconciler) (w : Outlook) : Verdict :=
  match w.source with
  | none => .sourceMissing
  | some dep =>
    match translate dep w.adoption with
    | .error err => .untranslatable err
    | .ok _ =>
      match classifyServiceForSwap w.service with
      | .takenOver => .swapping
      | .refused reason message => .refused reason message
      | .pass _ =>
        match w.ksvc with
        | none => .unapplied
        | some live =>
          if (r.ready live).1 then
            if dep.spec.effectiveReplicas = 0 then .adopted (r.ready live).2 else .running
          else .waiting (r.ready live).2

section Translated
variable (r : KnativeAdoptionReconciler) {w : Outlook} {dep : Deployment} (source : w.source = some dep)
  (accepted : ∃ ksvc, translate dep w.adoption = .ok ksvc)
include source accepted

theorem verdict_refused {reason : Reason} {message : String} (classified : classifyServiceForSwap w.service = .refused reason message) :
    verdict r w = .refused reason message := by
  obtain ⟨ksvc,accepted⟩ := accepted
  simp only [verdict,source,accepted,classified]

theorem verdict_served {message : String} (classified : classifyServiceForSwap w.service = .pass message) (live : KService)
    (own : w.ksvc = some live) : verdict r w = if (r.ready live).1 then
      if dep.spec.effectiveReplicas = 0 then .adopted (r.ready live).2 else .running else .waiting (r.ready live).2 := by
  obtain ⟨ksvc,accepted⟩ := accepted
  simp only [verdict,source,accepted,classified,own]

end Translated

/-- The source was found and translated, and no Service is in the way. -/
def Unobstructed (a : KnativeAdoption) : Prop :=
  told a .sourceMissing = none ∧ told a .translationDegraded = none ∧ told a .serviceAdoptionRefused = none

/-- The status says how things stand. Where the controller still has something to do no status does. -/
def Says (a : KnativeAdoption) : Verdict → Prop
  | .sourceMissing =>
    told a .sourceMissing = some (.true,.sourceMissing,"Deployment " ++ a.ns ++ "/" ++ sourceName a ++ " not found")
  | .untranslatable err =>
    told a .sourceMissing = none ∧ told a .translationDegraded = some (.true,.translationFailed,err.message)
  | .refused reason message =>
    told a .sourceMissing = none ∧ told a .translationDegraded = none ∧
      told a .serviceAdoptionRefused = some (.true,reason,message)
  | .waiting url =>
    Unobstructed a ∧ told a .adopted = some (.true,.adopted,"KnativeService applied") ∧
      told a .serviceAdopted = some (.false,.knativeServiceNotReady,"waiting for KSvc Ready") ∧ a.status.url = url
  | .adopted url =>
    Unobstructed a ∧ told a .adopted = some (.true,.adopted,"KnativeService applied") ∧
      told a .serviceAdopted = some (.true,.knativeServiceReady,"KSvc Ready") ∧
      told a .sourceQuiesced = some (.true,.sourceQuiesced,"Deployment scaled to 0") ∧ a.status.url = url
  | .swapping | .unapplied | .running => False

theorem Says.congr {a b : KnativeAdoption} {v : Verdict} (said : Says a v) (same : SameObject a b) (url : b.status.url = a.status.url)
    (conditions : ∀ t, t ≠ .ready → told b t = told a t) : Says b v := by
  have name := same.sourceName
  have ns : b.ns = a.ns := congrArg ObjectMeta.ns same.metadata
  cases v <;> unfold Says Unobstructed at * <;>
    first
      | exact said
      | simpa [conditions,name,ns,url] using said

/-! Answers to a pass while nothing that it looks at changes. -/

abbrev Unmoved (key : NamespacedName) (w : Outlook) := Watch.Unmoved apiserver (outlook key) (some w)

section Answers
variable {key : NamespacedName} {w : Outlook} {c : Cluster}

theorem outlook_eq (seen : outlook key c = some w) : c.adoptions.get key = some w.adoption ∧ w = outlookOf w.adoption key c := by
  obtain ⟨a,held,same⟩ := Option.map_eq_some_iff.mp seen
  subst same
  exact ⟨held,rfl⟩

theorem outlook_source (seen : outlook key c = some w) : c.deployments.get (sourceKey w.adoption) = w.source :=
  (congrArg Outlook.source (outlook_eq seen).2).symm

theorem outlook_service (seen : outlook key c = some w) : c.services.get key = w.service :=
  (congrArg Outlook.service (outlook_eq seen).2).symm

theorem outlook_ksvc (seen : outlook key c = some w) :
    (c.ksvcs.get (sourceKey w.adoption)).filter (fun k => ownerRequest k = some key) = w.ksvc :=
  (congrArg Outlook.ksvc (outlook_eq seen).2).symm

theorem unmoved_getAdoption (answer : Except ApiError KnativeAdoption) (unmoved : Unmoved key w (.getAdoption key) answer) :
    (∀ a, answer = .ok a → a = w.adoption) ∧ ∀ err, answer = .error err → err.isNotFound = false := by
  obtain ⟨fault,c,seen,answered,-⟩ := unmoved
  have held := (outlook_eq seen).1
  refine ⟨fun a ok => Option.some.inj ((getAdoption_ok (answered.trans ok)).symm.trans held),fun err fails => ?_⟩
  have failing := answered.trans fails
  cases fault with
  | none =>
    have absent : c.adoptions.get key = none := found_error failing
    rw [held] at absent
    cases absent
  | refused | lost => cases failing; rfl

theorem unmoved_getDeployment (dep : Deployment) (unmoved : Unmoved key w (.getDeployment (sourceKey w.adoption)) (.ok dep)) :
    w.source = some dep := by
  obtain ⟨fault,c,seen,answered,-⟩ := unmoved
  rw [← outlook_source seen]
  exact getDeployment_ok answered

theorem unmoved_getDeployment_missing (err : ApiError) (gone : err.isNotFound = true)
    (unmoved : Unmoved key w (.getDeployment (sourceKey w.adoption)) (.error err)) : w.source = none := by
  obtain ⟨fault,c,seen,answered,-⟩ := unmoved
  rw [← outlook_source seen]
  exact getDeployment_missing answered gone

theorem unmoved_getService (svc : Service) (unmoved : Unmoved key w (.getService key) (.ok svc)) : w.service = some svc := by
  obtain ⟨fault,c,seen,answered,-⟩ := unmoved
  rw [← outlook_service seen]
  exact getService_ok answered

theorem unmoved_getService_missing (err : ApiError) (gone : err.isNotFound = true)
    (unmoved : Unmoved key w (.getService key) (.error err)) : w.service = none := by
  obtain ⟨fault,c,seen,answered,-⟩ := unmoved
  rw [← outlook_service seen]
  exact getService_missing answered gone

theorem unmoved_getKService (k live : KService) (own : w.ksvc = some live)
    (unmoved : Unmoved key w (.getKService (sourceKey w.adoption)) (.ok k)) : k = live := by
  obtain ⟨fault,c,seen,answered,-⟩ := unmoved
  have there := outlook_ksvc seen
  rw [getKService_ok answered,own] at there
  exact (Option.filter_eq_some_iff.mp there).1 |> Option.some.inj

/-! Writes that would change what the pass looks at are not answered that way. -/

theorem moved_patchFinalizers (finalizers : List String) (b : KnativeAdoption) (differ : finalizers ≠ w.adoption.finalizers)
    (unmoved : Unmoved key w (.patchFinalizers key finalizers) (.ok b)) : False := by
  obtain ⟨fault,c,seen,answered,after⟩ := unmoved
  cases fault with
  | refused | lost => cases answered
  | none =>
    have held := (outlook_eq seen).1
    have later := (outlook_eq after).1
    change (c.patchFinalizers key finalizers).2 = .ok b at answered
    change (c.patchFinalizers key finalizers).1.adoptions.get key = _ at later
    unfold Cluster.patchFinalizers at answered later
    rw [held] at answered later
    dsimp only at answered later
    split at answered
    · cases answered
    next allowed =>
      rw [if_neg allowed] at later
      have filed : w.adoption.key = key := c.adoptions.keyed _ _ held
      have written : (c.adoptions.put { w.adoption with finalizers := finalizers }).get key = some { w.adoption with finalizers := finalizers } := by
        rw [← filed]
        exact Store.get_put_same _ _
      exact differ (congrArg (fun a : KnativeAdoption => a.finalizers) (Option.some.inj (written.symm.trans later)))

theorem moved_deleteService (svc : Service) (there : w.service = some svc) (answer : Except ApiError Unit)
    (unmoved : Unmoved key w (.deleteService key) answer) : ∃ err, answer = .error err ∧ err.isNotFound = false := by
  obtain ⟨fault,c,seen,answered,after⟩ := unmoved
  cases fault with
  | refused message | lost message => exact ⟨_,answered.symm,rfl⟩
  | none =>
    have held : c.services.get key = some svc := (outlook_service seen).trans there
    have later : (c.deleteService key).1.services.get key = some svc := (outlook_service after).trans there
    unfold Cluster.deleteService at later
    rw [held] at later
    simp at later

/-- An apply that is accepted leaves a Knative Service that is the adoption's own. -/
theorem unmoved_applyKService (ksvc : KService) (placed : ksvc.key = sourceKey w.adoption)
    (owned : ksvc.ownerReferences = [ownerReferenceOf w.adoption]) (unmoved : Unmoved key w (.applyKService ksvc) (.ok ())) :
    ∃ live, w.ksvc = some live := by
  obtain ⟨fault,c,seen,answered,after⟩ := unmoved
  cases fault with
  | refused | lost => cases answered
  | none =>
    have filed : w.adoption.key = key := c.adoptions.keyed _ _ (outlook_eq seen).1
    have requested (next : KService) (same : next.key = ksvc.key)
        (owners : ∃ rest, next.ownerReferences = ownerReferenceOf w.adoption::rest) : ownerRequest next = some key := by
      obtain ⟨rest,owners⟩ := owners
      have ns : next.ns = w.adoption.ns := congrArg NamespacedName.ns (same.trans placed)
      have owner : next.controllerOf = some (ownerReferenceOf w.adoption) := by
        unfold ObjectMeta.controllerOf
        rw [owners]
        rfl
      unfold ownerRequest
      rw [owner]
      dsimp only
      rw [if_pos ⟨rfl,show apiGroup "ifaas.ifbiu.com/v1alpha1" = _ by decide⟩,ns]
      exact congrArg some filed
    have landed (next : KService) (same : next.key = ksvc.key)
        (owners : ∃ rest, next.ownerReferences = ownerReferenceOf w.adoption::rest)
        (stored : (c.applyKService ksvc).1.ksvcs = c.ksvcs.put next) : w.ksvc = some next := by
      rw [← outlook_ksvc after]
      change ((c.applyKService ksvc).1.ksvcs.get (sourceKey w.adoption)).filter _ = _
      rw [stored,← placed,← same,Store.get_put_same,Option.filter_some,if_pos (by simpa using requested next same owners)]
    change (c.applyKService ksvc).2 = .ok () at answered
    unfold Cluster.applyKService at answered
    cases held : c.ksvcs.get ksvc.key with
    | none =>
      refine ⟨_,landed { ksvc with status := {} } rfl ⟨[],owned⟩ ?_⟩
      unfold Cluster.applyKService
      rw [held]
    | some stored =>
      rw [held] at answered
      dsimp only at answered
      split at answered
      · cases answered
      next sole =>
        have owners : ∃ rest, (Cluster.appliedKService stored ksvc).ownerReferences = ownerReferenceOf w.adoption::rest :=
          ⟨_,congrArg (Cluster.mergeOwners stored.ownerReferences) owned⟩
        refine ⟨_,landed (Cluster.appliedKService stored ksvc) (c.ksvcs.keyed _ stored held) owners ?_⟩
        unfold Cluster.applyKService
        rw [held]
        dsimp only
        rw [if_neg sole]

theorem moved_applyReplicas (dep : Deployment) (there : w.source = some dep) (up : dep.spec.effectiveReplicas ≠ 0)
    (unmoved : Unmoved key w (.applyReplicas (sourceKey w.adoption) 0) (.ok ())) : False := by
  obtain ⟨fault,c,seen,answered,after⟩ := unmoved
  cases fault with
  | refused | lost => cases answered
  | none =>
    have held : c.deployments.get (sourceKey w.adoption) = some dep := (outlook_source seen).trans there
    have later : (c.applyReplicas (sourceKey w.adoption) 0).1.deployments.get (sourceKey w.adoption) = some dep :=
      (outlook_source after).trans there
    have filed : dep.key = sourceKey w.adoption := c.deployments.keyed _ _ held
    unfold Cluster.applyReplicas at later
    rw [held] at later
    dsimp only at later
    rw [← filed] at later
    have written := (Store.get_put_same c.deployments { dep with spec := { dep.spec with replicas := some 0 } }).symm.trans later
    exact up (by rw [← Option.some.inj written]; rfl)

theorem moved_patchStatus (current : KnativeAdoption) (same : SameObject w.adoption current)
    (differ : statusEqual w.adoption current = false) (unmoved : Unmoved key w (.patchStatus w.adoption current) (.ok ())) : False := by
  obtain ⟨fault,c,seen,answered,after⟩ := unmoved
  cases fault with
  | refused | lost => cases answered
  | none =>
    have held := (outlook_eq seen).1
    have filed : w.adoption.key = key := c.adoptions.keyed _ _ held
    have placed : current.key = key := by
      rw [← filed]
      unfold ObjectMeta.key
      rw [same.metadata]
    have later : (c.patchStatus w.adoption current).1.adoptions.get key = some w.adoption := (outlook_eq after).1
    unfold Cluster.patchStatus at later
    rw [placed,held] at later
    dsimp only at later
    rw [mergeStatus_fresh,← filed] at later
    have written := (Store.get_put_same c.adoptions { w.adoption with status := current.status }).symm.trans later
    have equal : current.status = w.adoption.status := congrArg (fun o : Option KnativeAdoption => (o.getD current).status) written
    rw [statusEqual_same _ _ equal] at differ
    cases differ

end Answers

/-! The stages of a pass, as long as it sees the same. -/

section Stages
variable {key : NamespacedName} {w : Outlook} (r : KnativeAdoptionReconciler)

/-- The stage ends with an error, or with a status that says how things stand. -/
def Concludes (key : NamespacedName) (w : Outlook) (r : KnativeAdoptionReconciler) (p : Op Reconciled) : Prop :=
  p.Keeps (Unmoved key w) (fun _ => True) (fun done =>
    done.err = none → SameObject w.adoption done.adoption ∧ Says done.adoption (verdict r w))

/-- The guard writes about itself. -/
theorem maybeRunGuard_told (a : KnativeAdoption) (t : ConditionType) (allowed : t ≠ .scaleDownAllowed) (degraded : t ≠ .degraded) :
    (maybeRunGuard r a).Returns (fun b => told b t = told a t) := by
  have set (b : KnativeAdoption) (s : ConditionStatus) (reason : Reason) (msg : String) :
      told (setCondition b .scaleDownAllowed s reason msg) t = told b t := by
    rw [told_setCondition,Function.update_of_ne allowed]
  have marked (b : KnativeAdoption) (threshold : Int) : told (maybeMarkDegraded b threshold) t = told b t := by
    unfold maybeMarkDegraded
    split
    · rfl
    · split
      · rfl
      · rw [told_setCondition,Function.update_of_ne degraded]
  have outcome (b : KnativeAdoption) (outcome : ScaleDown.Outcome) (msg : String) :
      (recordOutcome r b outcome msg).Returns (fun d => told d t = told b t) := by
    have after (d : KnativeAdoption) (desired : Int) (reason : String) (same : told d t = told b t) :
        (enqueueMinScale r d desired reason >>= fun _ => pure d).Returns (fun d => told d t = told b t) :=
      Program.returns_bind _ (Program.returns_true _) (fun _ _ => same)
    cases outcome with
    | block => exact after _ _ _ (set ..)
    | allowZero => exact after _ _ _ ((told_clearConditionIfReason _ _ _ _ degraded).trans (set ..))
    | noPods => exact after _ _ _ ((told_clearConditionIfReason _ _ _ _ degraded).trans (set ..))
  have round : (runScaleDownGuard r a).Returns (fun result => told result.1 t = told a t) := by
    unfold runScaleDownGuard
    dsimp only
    split
    · exact set ..
    · refine Program.returns_bind _ (Program.returns_true _) (fun pods _ => ?_)
      cases pods with
      | error err => exact (marked ..).trans (set ..)
      | ok pods =>
        refine Program.returns_bind _ (Program.returns_true _) (fun results _ => ?_)
        exact Program.returns_bind _ (outcome ..) (fun b same => (marked ..).trans same)
  unfold maybeRunGuard
  split
  · rfl
  · refine Program.returns_bind _ (Program.returns_true _) (fun response _ => ?_)
    cases response with
    | error err => rfl
    | ok prev =>
      dsimp only
      split
      · exact Program.returns_bind _ round (fun _ same => same)
      · rfl

theorem setCondition_url (a : KnativeAdoption) (t : ConditionType) (s : ConditionStatus) (reason : Reason) (msg : String) :
    (setCondition a t s reason msg).status.url = a.status.url := rfl

/-- What the pass has found out before it scales the source down. -/
structure Served (w : Outlook) (r : KnativeAdoptionReconciler) (a : KnativeAdoption) (dep : Deployment) : Prop where
  object : SameObject w.adoption a
  source : w.source = some dep
  placed : dep.key = sourceKey w.adoption
  clear : Unobstructed a
  applied : told a .adopted = some (.true,.adopted,"KnativeService applied")

theorem finishAdoption_concludes (a : KnativeAdoption) (dep : Deployment) (served : Served w r a dep)
    (stands : verdict r w = if dep.spec.effectiveReplicas = 0 then .adopted a.status.url else .running)
    (ready : told a .serviceAdopted = some (.true,.knativeServiceReady,"KSvc Ready")) :
    Concludes key w r (finishAdoption a dep) := by
  unfold Concludes finishAdoption quiesceSource
  by_cases down : dep.spec.effectiveReplicas = 0
  · rw [if_pos down] at stands ⊢
    have finished : SameObject w.adoption (setReady (setCondition a .sourceQuiesced .true .sourceQuiesced
          "Deployment scaled to 0") .true .adopted "adoption complete") ∧
        Says (setReady (setCondition a .sourceQuiesced .true .sourceQuiesced "Deployment scaled to 0") .true .adopted
          "adoption complete") (verdict r w) := by
      refine ⟨served.object.trans _ _ _ ⟨rfl,rfl⟩,?_⟩
      rw [stands]
      unfold Says setReady
      simpa [told_setCondition,Function.update_apply,setCondition_url,served.applied,ready,Unobstructed] using served.clear
    change Program.Keeps _ _ _ (if _ then _ else _)
    split <;> exact fun _ => finished
  · rw [if_neg down]
    refine Program.keeps_call _ (Request.applyReplicas dep.key 0) _ trivial (fun answer unmoved => ?_)
    cases answer with
    | error err => exact nofun
    | ok done =>
      rw [served.placed] at unmoved
      exact absurd unmoved (moved_applyReplicas dep served.source down)

theorem awaitKService_concludes (a : KnativeAdoption) (dep : Deployment) (ksvc live : KService) (served : Served w r a dep)
    (same : ksvc.key = sourceKey w.adoption) (own : w.ksvc = some live)
    (stands : verdict r w = if (r.ready live).1 then
      if dep.spec.effectiveReplicas = 0 then .adopted (r.ready live).2 else .running else .waiting (r.ready live).2) :
    Concludes key w r (awaitKService r a dep ksvc) := by
  unfold Concludes awaitKService
  refine Program.keeps_call _ (Request.getKService ksvc.key) _ trivial (fun answer unmoved => ?_)
  cases answer with
  | error err => exact nofun
  | ok k =>
    rw [same] at unmoved
    rw [unmoved_getKService k live own unmoved]
    dsimp only
    have located : Served w r { a with status := { a.status with url := (r.ready live).2 } } dep :=
      ⟨served.object.trans _ _ _ ⟨rfl,rfl⟩,served.source,served.placed,served.clear,served.applied⟩
    generalize address : ({ a with status := { a.status with url := (r.ready live).2 } } : KnativeAdoption) = b at located ⊢
    have url : b.status.url = (r.ready live).2 := by rw [← address]
    have clear := located.clear
    rw [← url] at stands
    split
    next ready =>
      rw [if_pos ready] at stands
      refine finishAdoption_concludes r _ dep ⟨located.object.trans _ _ _ ⟨rfl,rfl⟩,located.source,located.placed,?_,?_⟩ stands ?_
      · unfold Unobstructed at *
        simpa [told_setCondition,Function.update_apply] using clear
      · rw [told_setCondition,Function.update_of_ne (by decide)]
        exact located.applied
      · rw [told_setCondition,Function.update_self]
    next waits =>
      rw [if_neg waits] at stands
      refine fun _ => ⟨located.object.trans _ _ _ ⟨rfl,rfl⟩,?_⟩
      rw [stands]
      unfold Says setReady
      simpa [told_setCondition,Function.update_apply,setCondition_url,located.applied,Unobstructed] using clear

theorem applyAdopted_concludes (a : KnativeAdoption) (dep : Deployment) (ksvc : KService) (object : SameObject w.adoption a)
    (source : w.source = some dep) (placed : dep.key = sourceKey w.adoption) (same : ksvc.key = dep.key) (clear : Unobstructed a)
    (stands : ∀ live, w.ksvc = some live → verdict r w = if (r.ready live).1 then
      if dep.spec.effectiveReplicas = 0 then .adopted (r.ready live).2 else .running else .waiting (r.ready live).2) :
    Concludes key w r (applyAdopted r a dep ksvc) := by
  unfold Concludes applyAdopted setControllerReference
  split
  next err refused => exact nofun
  next owned set =>
    split at set
    · cases set
    · cases set
      refine Program.keeps_bind (fun done => done = .ok () → ∃ live, w.ksvc = some live) _ _ _ ?_ (fun done applied => ?_)
      · unfold applyKnativeService
        refine Program.keeps_call _ (Request.applyKService _) _ trivial (fun answer unmoved => ?_)
        cases answer with
        | error err => exact nofun
        | ok done =>
          refine fun _ => unmoved_applyKService { ksvc with ownerReferences := [ownerReferenceOf a] } (same.trans placed) ?_ unmoved
          have name : a.name = w.adoption.name := congrArg ObjectMeta.name object.metadata
          have uid : a.uid = w.adoption.uid := congrArg ObjectMeta.uid object.metadata
          unfold ownerReferenceOf
          rw [name,uid]
      · cases done with
        | error err => exact nofun
        | ok done =>
          obtain ⟨live,own⟩ := applied rfl
          refine awaitKService_concludes r _ dep _ live ⟨?_,source,placed,?_,?_⟩ (same.trans placed) own (stands live own)
          · refine object.trans _ _ _ ((SameButConditions.sameLedger _ _ (sameButConditions_clearConditionIfReason a _ _)).object.trans _ _ _ ⟨rfl,rfl⟩)
          · unfold Unobstructed at *
            simpa [told_setCondition,Function.update_apply,told_clearConditionIfReason] using clear
          · rw [told_setCondition,Function.update_self]

/-- The traffic stage writes about traffic. -/
theorem adaptTraffic_told (a : KnativeAdoption) :
    (adaptTraffic a).Returns (fun result => (∀ ended, result = .error ended → ended.err ≠ none) ∧
      ∀ b, result = .ok b → SameObject a b ∧ ∀ t, t ≠ .trafficReady → t ≠ .trafficDegraded → told b t = told a t) := by
  unfold adaptTraffic
  split
  · refine Program.returns_bind _ (returns_reconcileTraffic trafficAlong_sameFace a) (fun result face => ?_)
    obtain ⟨b,outcome⟩ := result
    cases outcome with
    | some err =>
      refine ⟨fun ended equal => ?_,fun _ equal => (by cases equal)⟩
      cases equal
      exact Option.some_ne_none err
    | none =>
      refine ⟨fun _ equal => (by cases equal),fun next equal => ?_⟩
      cases equal
      have cleared := SameButConditions.sameLedger _ _ (sameButConditions_clearConditionIfReason
        (setCondition b .trafficReady .true .trafficReady "traffic adaptation reconciled") .trafficDegraded .trafficReconcileFailed)
      refine ⟨face.toSameObject.trans _ _ _ ((sameLedger_setCondition b _ _ _ _).object.trans _ _ _ cleared.object),fun t ready degraded => ?_⟩
      rw [told_clearConditionIfReason _ _ _ _ degraded,told_setCondition,Function.update_of_ne ready,
        told_conditions a b face.conditions]
  · refine ⟨fun _ equal => (by cases equal),fun next equal => ?_⟩
    cases equal
    refine ⟨⟨rfl,rfl⟩,fun t ready degraded => ?_⟩
    rw [told_removeCondition,Function.update_of_ne degraded,told_removeCondition,Function.update_of_ne ready]

/-- What the swap stage has found out. -/
def SwapVetted (w : Outlook) (a b : KnativeAdoption) : Except ApiError SwapDecision → Prop
  | .error _ => True
  | .ok .takenOver => False
  | .ok .pass => (∃ message, classifyServiceForSwap w.service = .pass message) ∧ SameObject a b ∧
      (∀ t, t ≠ .serviceAdoptionRefused → t ≠ .serviceAdopted → told b t = told a t) ∧ told b .serviceAdoptionRefused = none
  | .ok .refused => ∃ reason message, classifyServiceForSwap w.service = .refused reason message ∧ SameObject a b ∧
      (∀ t, t ≠ .serviceAdoptionRefused → t ≠ .serviceAdopted → told b t = told a t) ∧
      told b .serviceAdoptionRefused = some (.true,reason,message)

theorem swapService_vetted (a : KnativeAdoption) (placed : a.key = key) :
    (swapService a).Keeps (Unmoved key w) (fun _ => True) (fun result => SwapVetted w a result.1 result.2) := by
  have found (filed : ∀ svc, w.service = some svc → svc.key = key) :
      (swapFound a w.service).Keeps (Unmoved key w) (fun _ => True) (fun result => SwapVetted w a result.1 result.2) := by
    unfold swapFound
    cases classified : classifyServiceForSwap w.service with
    | pass message =>
      refine ⟨⟨message,classified⟩,⟨rfl,rfl⟩,fun t refused adopted => ?_,?_⟩
      · rw [told_removeCondition,Function.update_of_ne refused]
      · rw [told_removeCondition,Function.update_self]
    | refused reason message =>
      refine ⟨reason,message,classified,⟨rfl,rfl⟩,fun t refused adopted => ?_,?_⟩
      · rw [told_setCondition,Function.update_of_ne adopted,told_setCondition,Function.update_of_ne refused]
      · rw [told_setCondition,Function.update_of_ne (by decide),told_setCondition,Function.update_self]
    | takenOver =>
      cases there : w.service with
      | none =>
        rw [there] at classified
        cases classified
      | some svc =>
        -- a Service that is there when the pass looks and also when it has been deleted
        unfold takeOver snapshotAndDeleteService
        refine Program.keeps_bind (fun result => ∃ err, result.2 = .error err) _ _ _ ?_ (fun result fails => ?_)
        · refine Program.keeps_call _ (Request.deleteService svc.key) _ trivial (fun answer unmoved => ?_)
          rw [filed svc there] at unmoved
          obtain ⟨err,rfl,other⟩ := moved_deleteService svc there answer unmoved
          dsimp only
          rw [other]
          exact ⟨_,rfl⟩
        · obtain ⟨b,outcome⟩ := result
          obtain ⟨err,rfl⟩ := fails
          trivial
  unfold swapService
  rw [placed]
  refine Program.keeps_call _ (Request.getService key) _ trivial (fun answer unmoved => ?_)
  have filed (svc : Service) (there : w.service = some svc) : svc.key = key := by
    obtain ⟨fault,c,seen,-⟩ := unmoved
    exact c.services.keyed _ svc ((outlook_service seen).trans there)
  cases answer with
  | error err =>
    dsimp only
    split
    next gone =>
      have absent := unmoved_getService_missing err gone unmoved
      rw [← absent]
      exact found filed
    next other => trivial
  | ok svc =>
    have there := unmoved_getService svc unmoved
    dsimp only
    rw [← there]
    exact found filed

theorem adoptTranslated_concludes (a : KnativeAdoption) (dep : Deployment) (ksvc : KService) (object : SameObject w.adoption a)
    (filed : w.adoption.key = key) (source : w.source = some dep) (placed : dep.key = sourceKey w.adoption)
    (same : ksvc.key = dep.key) (missing : told a .sourceMissing = none) (degraded : told a .translationDegraded = none)
    (accepted : ∃ ksvc, translate dep w.adoption = .ok ksvc) : Concludes key w r (adoptTranslated r a dep ksvc) := by
  have here : a.key = key := by
    rw [← filed]
    unfold ObjectMeta.key
    rw [object.metadata]
  unfold Concludes adoptTranslated
  refine Program.keeps_bind _ _ _ _ (swapService_vetted a here) (fun result vetted => ?_)
  obtain ⟨b,outcome⟩ := result
  rcases outcome with err | (_ | _ | _)
  · exact nofun
  · obtain ⟨⟨message,classified⟩,swapped,conditions,clear⟩ := vetted
    refine Program.keeps_bind _ _ _ _ (Program.keeps_returns _ _ _ (Program.keeps_true _) (adaptTraffic_told b)) (fun result adapted => ?_)
    cases result with
    | error ended => exact fun fine => absurd fine (adapted.1 ended rfl)
    | ok next =>
      obtain ⟨moved,others⟩ := adapted.2 next rfl
      have through := object.trans _ _ _ (swapped.trans _ _ _ moved)
      refine applyAdopted_concludes r next dep ksvc through source placed same ?_ (verdict_served r source accepted classified)
      unfold Unobstructed
      rw [others _ (by decide) (by decide),others _ (by decide) (by decide),others _ (by decide) (by decide),
        conditions _ (by decide) (by decide),conditions _ (by decide) (by decide)]
      exact ⟨missing,degraded,clear⟩
  · exact absurd vetted id
  · obtain ⟨reason,message,classified,swapped,conditions,refused⟩ := vetted
    refine fun _ => ⟨object.trans _ _ _ (swapped.trans _ _ _ ⟨rfl,rfl⟩),?_⟩
    rw [verdict_refused r source accepted classified]
    unfold Says setReady
    simp [told_setCondition,conditions,missing,degraded,refused]

theorem reconcileAdoption_concludes (filed : w.adoption.key = key) : Concludes key w r (reconcileAdoption r w.adoption) := by
  unfold Concludes reconcileAdoption getSourceDeployment
  refine Program.keeps_bind (fun result => ∀ source, result = .ok source → w.source = source ∧
    ∀ dep, source = some dep → dep.key = sourceKey w.adoption) _ _ _ ?_ (fun result read => ?_)
  · refine Program.keeps_call _ (Request.getDeployment (sourceKey w.adoption)) _ trivial (fun answer unmoved => ?_)
    have placed (dep : Deployment) (there : w.source = some dep) : dep.key = sourceKey w.adoption := by
      obtain ⟨fault,c,seen,-⟩ := unmoved
      exact c.deployments.keyed _ dep ((outlook_source seen).trans there)
    cases answer with
    | error err =>
      dsimp only
      split
      next gone =>
        intro source equal
        cases equal
        exact ⟨unmoved_getDeployment_missing err gone unmoved,nofun⟩
      next other => exact nofun
    | ok dep =>
      intro source equal
      cases equal
      have there := unmoved_getDeployment dep unmoved
      exact ⟨there,fun dep equal => placed dep (there.trans equal)⟩
  · rcases result with err | (_ | dep)
    · exact nofun
    · obtain ⟨source,-⟩ := read none rfl
      refine fun _ => ⟨⟨rfl,rfl⟩,?_⟩
      have stands : verdict r w = .sourceMissing := by simp only [verdict,source]
      rw [stands]
      unfold Says sourceMissing setReady
      simp only [told_setCondition,Function.update_apply,reduceCtorEq,if_false,if_true]
      rfl
    · obtain ⟨source,placed⟩ := read (some dep) rfl
      have object := returns_maybeRunGuard along_sameObject.moves.toGuardAlong r (removeCondition w.adoption .sourceMissing)
      have missing := maybeRunGuard_told r (removeCondition w.adoption .sourceMissing) .sourceMissing (by decide) (by decide)
      refine Program.keeps_bind _ _ _ _ (Program.keeps_returns _ _ _ (Program.keeps_true _) (Program.returns_and _ _ _ object missing))
        (fun b moved => ?_)
      obtain ⟨moved,missing⟩ := moved
      rw [told_removeCondition,Function.update_self] at missing
      have same : SameObject w.adoption b := SameObject.trans _ (removeCondition w.adoption .sourceMissing) _ ⟨rfl,rfl⟩ moved
      cases translated : translate dep b with
      | error err =>
        have stands : verdict r w = .untranslatable err := by
          simp only [verdict,source,(translate_rejected w.adoption b same.spec dep err).mp translated]
        refine fun _ => ⟨same.trans _ _ _ ⟨rfl,rfl⟩,?_⟩
        rw [stands]
        unfold Says translationRefused setReady
        simp [told_setCondition,missing]
      | ok ksvc =>
        have accepted : ∃ ksvc, translate dep w.adoption = .ok ksvc := by
          cases before : translate dep w.adoption with
          | ok other => exact ⟨other,rfl⟩
          | error err => cases translated.symm.trans ((translate_rejected w.adoption b same.spec dep err).mpr before)
        refine adoptTranslated_concludes r _ dep ksvc (same.trans _ _ _ ⟨rfl,rfl⟩) filed source (placed dep rfl)
          (translate_key dep b ksvc translated) ?_ ?_ accepted
        · rw [told_removeCondition,Function.update_of_ne (by decide),missing]
        · rw [told_removeCondition,Function.update_self]

/-- What holds of an adoption at rest: Ready is what the other conditions make it, and the status says how things stand. -/
def Truthful (r : KnativeAdoptionReconciler) (w : Outlook) : Prop :=
  isCondTrue w.adoption .ready = complete w.adoption ∧ Says w.adoption (verdict r w)

theorem patchStatus_truthful (b : KnativeAdoption) (same : SameObject w.adoption b) (said : Says b (verdict r w)) :
    (patchStatus w.adoption (recomputeReady b)).Keeps (Unmoved key w) (fun _ => True)
      (fun result => result = .ok () → Truthful r w) := by
  obtain ⟨conditions,written⟩ := sameButConditions_recomputeReady b
  have object : SameObject b (recomputeReady b) := by
    rw [written]
    exact ⟨rfl,rfl⟩
  unfold patchStatus
  split
  next equal =>
    refine fun _ => ?_
    have conditions := statusEqual_told _ _ equal
    have url : w.adoption.status.url = (recomputeReady b).status.url := by
      unfold statusEqual at equal
      simp only [Bool.and_eq_true,decide_eq_true_eq] at equal
      exact equal.1.1.1.1
    have back : SameObject (recomputeReady b) w.adoption :=
      ⟨(object.metadata.trans same.metadata).symm,(object.spec.trans same.spec).symm⟩
    refine ⟨?_,?_⟩
    · have stands (t : ConditionType) := standing_told _ _ t (congrFun conditions t)
      rw [isCondTrue_standing,stands,← isCondTrue_standing,recomputeReady_ready]
      refine (complete_same b w.adoption same.spec.symm (fun t other => ?_)).symm
      exact (stands t).trans (standing_told _ _ t (told_recomputeReady b t other))
    · refine (said.congr object ?_ (fun t other => told_recomputeReady b t other)).congr back url (fun t _ => congrFun conditions t)
      rw [written]
      rfl
  next differ =>
    refine Program.keeps_call _ (Request.patchStatus w.adoption (recomputeReady b)) _ trivial (fun answer unmoved => ?_)
    cases answer with
    | error err => exact nofun
    | ok done => exact absurd unmoved (moved_patchStatus _ (same.trans _ _ _ object) (Bool.eq_false_iff.mpr differ))

theorem reconcileLive_truthful (filed : w.adoption.key = key) :
    (reconcileLive r w.adoption).Keeps (Unmoved key w) (fun _ => True) (fun out => ¬ out.2 ≠ none → Truthful r w) := by
  unfold reconcileLive
  refine Program.keeps_bind (fun result => ∀ original, result = .ok original → original = w.adoption) _ _ _ ?_ (fun result ensured => ?_)
  · unfold ensureFinalizers
    dsimp only
    split
    next there =>
      intro original equal
      cases equal
      rfl
    next missing =>
      rw [filed]
      refine Program.keeps_call _ (Request.patchFinalizers key _) _ trivial (fun answer unmoved => ?_)
      cases answer with
      | error err => exact fun _ equal => (by cases equal)
      | ok stored => exact absurd unmoved (moved_patchFinalizers _ stored missing)
  · cases result with
    | error err => exact fun again => absurd (Option.some_ne_none err) again
    | ok original =>
      rw [ensured original rfl]
      refine Program.keeps_bind _ _ _ _ (reconcileAdoption_concludes r filed) (fun done concludes => ?_)
      by_cases fine : done.err = none
      · obtain ⟨same,said⟩ := concludes fine
        refine Program.keeps_bind _ _ _ _ (patchStatus_truthful r done.adoption same said) (fun answer truthful => ?_)
        cases answer with
        | error err =>
          refine fun again => absurd ?_ again
          change done.err.or (some err) ≠ none
          rw [fine]
          exact Option.some_ne_none err
        | ok _ => exact fun _ => truthful rfl
      · refine Program.keeps_bind _ _ _ _ (Program.keeps_true _) (fun answer _ => ?_)
        obtain ⟨err,failing⟩ := Option.ne_none_iff_exists'.mp fine
        cases answer with
        | error statusErr =>
          refine fun again => absurd ?_ again
          change done.err.or (some statusErr) ≠ none
          rw [failing]
          exact Option.some_ne_none err
        | ok _ => exact fun again => absurd fine again

end Stages

/-! The loop. -/

/-- The controller: a pass is repeated where it ended with an error. Nothing is assumed of the timers a pass asks for. -/
def controller (r : KnativeAdoptionReconciler) : Watch Request Response Cluster NamespacedName MapReads (Result × Option ApiError) where
  code := reconcile r
  reads n c := n.Answered c
  woken := Woken
  misses := Missed
  again out := out.2 ≠ none

/-- What is to hold of a key, by what it looks at. -/
def UpToDate (r : KnativeAdoptionReconciler) : Option Outlook → Prop
  | none => True
  | some w => w.adoption.deleting = false → Truthful r w

theorem controller_sound (r : KnativeAdoptionReconciler) : (controller r).Sound apiserver outlook (fun _ => UpToDate r) where
  told n c d key read untold heard := outlook_told n c d key read untold heard
  establishes key v := by
    have trivially (all : UpToDate r v) : Program.Keeps (Watch.Unmoved apiserver (outlook key) v) (fun _ => True)
        (fun value => ¬ (controller r).again value → UpToDate r v) ((controller r).code key) :=
      Program.keeps_mono _ _ _ _ (fun _ _ => trivial) (fun _ _ _ => all) (Program.keeps_true _)
    cases v with
    | none => exact trivially trivial
    | some w =>
      by_cases gone : w.adoption.deleting = true
      · exact trivially (fun live => absurd (gone.symm.trans live) (by decide))
      · change Program.Keeps _ _ _ (reconcile r key)
        unfold reconcile
        refine Program.keeps_call _ (Request.getAdoption key) _ trivial (fun answer unmoved => ?_)
        have filed : w.adoption.key = key := by
          obtain ⟨fault,c,seen,-⟩ := unmoved
          exact c.adoptions.keyed _ _ (outlook_eq seen).1
        obtain ⟨read,fails⟩ := unmoved_getAdoption answer unmoved
        cases answer with
        | error err =>
          dsimp only
          rw [fails err rfl]
          exact fun again => absurd (Option.some_ne_none err) again
        | ok a =>
          rw [read a rfl]
          dsimp only
          rw [if_neg gone]
          exact Program.keeps_mono _ _ _ _ (fun _ _ => trivial) (fun _ truthful again _ => truthful again) (reconcileLive_truthful r filed)

/-- An adoption that is not pending and not being reconciled tells the truth, as long as no event was
dropped since its last pass began: its status says how things stand in the cluster, whatever the
controller, users and Knative have done before, whichever calls failed and however often the
controller was restarted. -/
theorem truthful_at_rest (r : KnativeAdoptionReconciler) (env : Cluster → Cluster → Prop) (c : Cluster)
    (l : Loop Request Response Cluster NamespacedName (Result × Option ApiError))
    (run : (controller r).Reaches apiserver env ⟨c,fun _ => True,fun _ => False,fun _ => none⟩ l) (key : NamespacedName)
    (a : KnativeAdoption) (stored : l.state.adoptions.get key = some a) (live : a.deleting = false) (rested : ¬ l.pending key)
    (heard : ¬ l.missed key) (free : l.running key = none) :
    isCondTrue a .ready = complete a ∧ Says a (verdict r (outlookOf a key l.state)) := by
  have fresh := Watch.rest_fresh (controller_sound r) (fun _ => trivial) run key rested heard free
  have seen : outlook key l.state = some (outlookOf a key l.state) := by
    unfold outlook
    rw [stored]
    rfl
  rw [seen] at fresh
  exact fresh live

namespace Sample

def bereft : KnativeAdoption :=
  recomputeReady (sourceMissing
    { ns := "prod", name := "web", uid := 7, finalizers := [finalizerRestoreSourceService,finalizerRestoreSource]
      spec := { sourceRef := { name := "web" } } })

def orphanage : Cluster := { adoptions := .ofList [bereft] }

/-- The source of the adoption is there. -/
def housed : Cluster := { orphanage with deployments := .ofList [deployment] }

/-- The loop at its start: everything is to be looked at. -/
def starting : Loop Request Response Cluster NamespacedName (Result × Option ApiError) :=
  ⟨orphanage,fun _ => True,fun _ => False,fun _ => none⟩

/-- The List of the namespace succeeds. -/
def listing : MapReads := ⟨fun dep => .ok (if dep.ns = "prod" then [bereft] else []),fun _ => .error (.text "timeout")⟩

/-- The map functions cannot read. -/
def deaf : MapReads := ⟨fun _ => .error (.text "timeout"),fun _ => .error (.text "timeout")⟩

end Sample

theorem unwoken (n : MapReads) (c : Cluster) (key : NamespacedName) : ¬ Woken n c c key := by
  intro woken
  cases woken with
  | adoption changed => exact changed rfl
  | deployment place dep event mapped => exact event.1 rfl
  | service place svc event mapped => exact event.1 rfl
  | ksvc place k event mapped => exact event.1 rfl

theorem unmissed (n : MapReads) (c : Cluster) (key : NamespacedName) : ¬ Missed n c c key := by
  intro missed
  cases missed with
  | deployment place dep event err failed about => exact event.1 rfl
  | service place svc event err failed about there => exact event.1 rfl

theorem deaf_answered (c : Cluster) : Sample.deaf.Answered c :=
  ⟨by simp [Sample.deaf],by simp [Sample.deaf]⟩

theorem listing_answered : Sample.listing.Answered Sample.orphanage := by
  refine ⟨fun dep items listed a => ?_,by simp [Sample.listing]⟩
  obtain rfl : (if dep.ns = "prod" then [Sample.bereft] else []) = items := Except.ok.inj listed
  have held : Sample.orphanage.adoptions.get a.key = if a.key = Sample.bereft.key then some Sample.bereft else none := rfl
  rw [held]
  constructor
  · intro member
    split at member
    next here =>
      cases List.mem_singleton.mp member
      exact ⟨if_pos rfl,here.symm⟩
    next => cases member
  · rintro ⟨stored,near⟩
    split at stored
    next =>
      cases stored
      rw [if_pos (show dep.ns = "prod" from near.symm)]
      exact List.mem_singleton_self _
    next => cases stored

/-- The source appears, but the List of the map function fails: the adoption stays at rest and does not know. The
source goes again, the adoption is told, and the next pass finds nothing to correct. -/
theorem truthful_at_rest_sample :
    ∃ l m, (controller Sample.reconciler).Reaches apiserver (fun _ _ => True) Sample.starting l ∧
      ¬ l.pending Sample.bereft.key ∧ l.running Sample.bereft.key = none ∧ l.missed Sample.bereft.key ∧
      ¬ Says Sample.bereft (verdict Sample.reconciler (outlookOf Sample.bereft Sample.bereft.key l.state)) ∧
      (controller Sample.reconciler).Reaches apiserver (fun _ _ => True) Sample.starting m ∧
      m.state.adoptions.get Sample.bereft.key = some Sample.bereft ∧ ¬ m.pending Sample.bereft.key ∧
      ¬ m.missed Sample.bereft.key ∧ m.running Sample.bereft.key = none ∧
      isCondTrue Sample.bereft .ready = complete Sample.bereft ∧
      Says Sample.bereft (verdict Sample.reconciler (outlookOf Sample.bereft Sample.bereft.key m.state)) := by
  have begun : (controller Sample.reconciler).Reaches apiserver (fun _ _ => True) Sample.starting Sample.starting := .start
  have taken := begun.take _ Sample.bereft.key trivial rfl
  have read := taken.call _ Sample.bereft.key (.getAdoption Sample.bereft.key) _ .none Sample.deaf rfl (deaf_answered _)
  have looked := read.call _ Sample.bereft.key (.getDeployment (sourceKey Sample.bereft)) _ .none Sample.deaf rfl (deaf_answered _)
  have done := looked.finish _ Sample.bereft.key (⟨30⟩,none) rfl
  have unheard := done.drift _ Sample.housed Sample.deaf trivial (deaf_answered _)
  have told := unheard.drift _ Sample.orphanage Sample.listing trivial listing_answered
  have woken : Woken Sample.listing Sample.housed Sample.orphanage Sample.bereft.key :=
    .deployment ⟨"prod","web"⟩ _ ⟨by decide +kernel,Or.inl rfl⟩ (by decide +kernel)
  have retaken := told.take _ Sample.bereft.key (Or.inr woken) rfl
  have reread := retaken.call _ Sample.bereft.key (.getAdoption Sample.bereft.key) _ .none Sample.deaf rfl (deaf_answered _)
  have relooked := reread.call _ Sample.bereft.key (.getDeployment (sourceKey Sample.bereft)) _ .none Sample.deaf rfl (deaf_answered _)
  have redone := relooked.finish _ Sample.bereft.key (⟨30⟩,none) rfl
  have quiet : ¬ Woken Sample.deaf Sample.orphanage Sample.housed Sample.bereft.key := by
    intro woken
    cases woken with
    | adoption changed => exact changed rfl
    | deployment place dep event mapped => cases mapped
    | service place svc event mapped => exact event.1 rfl
    | ksvc place k event mapped => exact event.1 rfl
  have rested : ¬ ((((False ∨ Woken Sample.deaf Sample.orphanage Sample.orphanage Sample.bereft.key) ∨
      Woken Sample.deaf Sample.orphanage Sample.orphanage Sample.bereft.key) ∨ (none : Option ApiError) ≠ none) ∨
      Woken Sample.deaf Sample.orphanage Sample.housed Sample.bereft.key) := by
    simp [unwoken,quiet]
  have missed : Missed Sample.deaf Sample.orphanage Sample.housed Sample.bereft.key :=
    .deployment ⟨"prod","web"⟩ _ ⟨by decide +kernel,Or.inr rfl⟩ _ rfl (by decide +kernel)
  have unsaid : ¬ Says Sample.bereft (verdict Sample.reconciler (outlookOf Sample.bereft Sample.bereft.key Sample.housed)) := by
    have stands : verdict Sample.reconciler (outlookOf Sample.bereft Sample.bereft.key Sample.housed) = .unapplied := rfl
    rw [stands]
    exact id
  have again : ¬ (((False ∨ Woken Sample.deaf Sample.orphanage Sample.orphanage Sample.bereft.key) ∨
      Woken Sample.deaf Sample.orphanage Sample.orphanage Sample.bereft.key) ∨ (none : Option ApiError) ≠ none) := by
    simp [unwoken]
  have heard : ¬ ((False ∨ Missed Sample.deaf Sample.orphanage Sample.orphanage Sample.bereft.key) ∨
      Missed Sample.deaf Sample.orphanage Sample.orphanage Sample.bereft.key) := by
    simp [unmissed]
  exact ⟨_,_,unheard,rested,rfl,Or.inr missed,unsaid,redone,rfl,again,heard,rfl,
    truthful_at_rest _ _ _ _ redone Sample.bereft.key Sample.bereft rfl rfl again heard rfl⟩

end Ifaas
