import Ifaas.Controller

/-! Which part of the cluster a call can write, and which calls the functions of the
controllers make. What a run of a function leaves alone follows from its footprint. -/
namespace Ifaas
open Library

inductive Part where
  | adoptions
  | deployments
  | services
  | ksvcs
  | traffic
deriving DecidableEq

/-- The part of the cluster that a call may write. -/
def Request.part : Request → Option Part
  | .patchFinalizers _ _ | .updateAdoption _ | .patchStatus _ _ | .applyAdoption _ _ _ | .deleteAdoption _ =>
    some .adoptions
  | .applyReplicas _ _ | .patchDeployment _ _ => some .deployments
  | .createService _ | .deleteService _ => some .services
  | .applyKService _ | .deleteKService _ | .patchKService _ _ => some .ksvcs
  | .createTraffic _ _ | .patchTraffic _ _ => some .traffic
  | .getAdoption _ | .getDeployment _ | .getService _ | .getKService _ | .getTraffic _ | .listPods _ _
  | .probe _ _ _ _ _ | .enqueue _ | .listHPAs _ => none

/-- The call writes nothing at all. -/
def Request.isRead : Request → Bool
  | .getAdoption _ | .getDeployment _ | .getService _ | .getKService _ | .getTraffic _ | .listPods _ _
  | .probe _ _ _ _ _ | .listHPAs _ => true
  | _ => false

/-- The two clusters have the same objects in a part. -/
def Part.Same (part : Part) (c d : Cluster) : Prop :=
  match part with
  | .adoptions => d.adoptions = c.adoptions
  | .deployments => d.deployments = c.deployments
  | .services => d.services = c.services
  | .ksvcs => d.ksvcs = c.ksvcs
  | .traffic => d.traffic = c.traffic

theorem Part.Same.refl (part : Part) (c : Cluster) : part.Same c c := by cases part <;> rfl

theorem Part.Same.trans (part : Part) (c d e : Cluster) (first : part.Same c d) (second : part.Same d e) :
    part.Same c e := by
  cases part <;> exact Eq.trans second first

theorem effect_same (part : Part) (c : Cluster) (r : Request) (other : r.part ≠ some part) :
    part.Same c (c.effect r).1 := by
  cases r <;> cases part <;> first
    | rfl
    | exact absurd rfl other
    | simp only [Part.Same,Cluster.effect,Cluster.patchFinalizers,Cluster.updateAdoption,Cluster.patchStatus,
        Cluster.applyAdoption,Cluster.deleteAdoption,Cluster.applyReplicas,Cluster.patchDeployment,
        Cluster.createService,Cluster.deleteService,Cluster.applyKService,Cluster.deleteKService,Cluster.patchKService,
        Cluster.createTraffic,Cluster.patchTraffic]
      repeat' split
      all_goals rfl

section Serving
variable (fault : Fault String) (c : Cluster) (r : Request)

theorem serve_same (part : Part) (other : r.part ≠ some part) :
    part.Same c (apiserver.serve fault c r).1 := by
  rcases apiserver.serve_state fault c r with same | ⟨same,_⟩
  · rw [same]
    exact .refl part c
  · rw [same]
    exact effect_same part c r other

theorem serve_adoptions (other : r.part ≠ some .adoptions) :
    (apiserver.serve fault c r).1.adoptions = c.adoptions := serve_same fault c r .adoptions other

theorem serve_deployments (other : r.part ≠ some .deployments) :
    (apiserver.serve fault c r).1.deployments = c.deployments := serve_same fault c r .deployments other

theorem serve_services (other : r.part ≠ some .services) :
    (apiserver.serve fault c r).1.services = c.services := serve_same fault c r .services other

theorem serve_ksvcs (other : r.part ≠ some .ksvcs) :
    (apiserver.serve fault c r).1.ksvcs = c.ksvcs := serve_same fault c r .ksvcs other

theorem serve_traffic (other : r.part ≠ some .traffic) :
    (apiserver.serve fault c r).1.traffic = c.traffic := serve_same fault c r .traffic other

theorem serve_addresses : (apiserver.serve fault c r).1.addresses = c.addresses := by
  have effect : (c.effect r).1.addresses = c.addresses := by
    cases r <;> first
      | rfl
      | simp only [Cluster.effect,Cluster.patchFinalizers,Cluster.updateAdoption,Cluster.patchStatus,
          Cluster.applyAdoption,Cluster.deleteAdoption,Cluster.applyReplicas,Cluster.patchDeployment,
          Cluster.createService,Cluster.deleteService,Cluster.applyKService,Cluster.deleteKService,Cluster.patchKService,
          Cluster.createTraffic,Cluster.patchTraffic]
        repeat' split
        all_goals rfl
  rcases apiserver.serve_state fault c r with same | ⟨same,_⟩
  · rw [same]
  · rw [same]
    exact effect

end Serving

/-! What an answer says about the cluster. -/

section Answers
variable {fault : Fault String} {c : Cluster}

theorem found_ok {κ α : Type} {keyOf : α → κ} {store : Store κ α keyOf} {key : κ} {missing : ApiError} {o : α}
    (answer : found store key missing = .ok o) : store.get key = some o := by
  unfold found at answer
  cases held : store.get key with
  | none => simp [held] at answer
  | some x =>
    simp only [held,Except.ok.injEq] at answer
    rw [answer]

theorem found_error {κ α : Type} {keyOf : α → κ} {store : Store κ α keyOf} {key : κ} {missing err : ApiError}
    (answer : found store key missing = .error err) : store.get key = none := by
  unfold found at answer
  cases held : store.get key with
  | none => rfl
  | some x => simp [held] at answer

theorem found_error_notFound {κ α : Type} {keyOf : α → κ} {store : Store κ α keyOf} {key : κ}
    {resource name : String} {err : ApiError} (answer : found store key (notFound resource name) = .error err) :
    err.isNotFound = true := by
  unfold found at answer
  split at answer
  · cases answer
    rfl
  · cases answer

theorem serve_read (r : Request) (reads : r.isRead = true) : (apiserver.serve fault c r).1 = c := by
  rcases apiserver.serve_state fault c r with same | ⟨same,_⟩
  · exact same
  · rw [same]
    cases r <;> first
      | rfl
      | cases reads

theorem getAdoption_ok {key : NamespacedName} {a : KnativeAdoption}
    (answer : (apiserver.serve fault c (.getAdoption key)).2 = .ok a) : c.adoptions.get key = some a := by
  cases fault with
  | none => exact found_ok answer
  | refused | lost => cases answer

theorem getDeployment_ok {key : NamespacedName} {dep : Deployment}
    (answer : (apiserver.serve fault c (.getDeployment key)).2 = .ok dep) : c.deployments.get key = some dep := by
  cases fault with
  | none => exact found_ok answer
  | refused | lost => cases answer

theorem getDeployment_missing {key : NamespacedName} {err : ApiError}
    (answer : (apiserver.serve fault c (.getDeployment key)).2 = .error err) (gone : err.isNotFound = true) :
    c.deployments.get key = none := by
  cases fault with
  | none => exact found_error answer
  | refused | lost => cases answer; cases gone

theorem getService_ok {key : NamespacedName} {svc : Service}
    (answer : (apiserver.serve fault c (.getService key)).2 = .ok svc) : c.services.get key = some svc := by
  cases fault with
  | none => exact found_ok answer
  | refused | lost => cases answer

theorem getService_missing {key : NamespacedName} {err : ApiError}
    (answer : (apiserver.serve fault c (.getService key)).2 = .error err) (gone : err.isNotFound = true) :
    c.services.get key = none := by
  cases fault with
  | none => exact found_error answer
  | refused | lost => cases answer; cases gone

theorem getKService_ok {key : NamespacedName} {ksvc : KService}
    (answer : (apiserver.serve fault c (.getKService key)).2 = .ok ksvc) : c.ksvcs.get key = some ksvc := by
  cases fault with
  | none => exact found_ok answer
  | refused | lost => cases answer

theorem getKService_missing {key : NamespacedName} {err : ApiError}
    (answer : (apiserver.serve fault c (.getKService key)).2 = .error err) (gone : err.isNotFound = true) :
    c.ksvcs.get key = none := by
  cases fault with
  | none => exact found_error answer
  | refused | lost => cases answer; cases gone

theorem getTraffic_ok {key : TrafficKey} {o : TrafficObject}
    (answer : (apiserver.serve fault c (.getTraffic key)).2 = .ok o) : c.traffic.get key = some o := by
  cases fault with
  | none => exact found_ok answer
  | refused | lost => cases answer

theorem getTraffic_missing {key : TrafficKey} {err : ApiError}
    (answer : (apiserver.serve fault c (.getTraffic key)).2 = .error err) (gone : err.isNotFound = true) :
    c.traffic.get key = none := by
  cases fault with
  | none => exact found_error answer
  | refused | lost => cases answer; cases gone

theorem patchFinalizers_answer (key : NamespacedName) (finalizers : List String)
    (b : KnativeAdoption) (answer : (apiserver.serve fault c (.patchFinalizers key finalizers)).2 = .ok b) :
    ∃ st, c.adoptions.get key = some st ∧ b = { st with finalizers := finalizers } := by
  cases fault with
  | refused error => cases answer
  | lost error => cases answer
  | none =>
    change (c.patchFinalizers key finalizers).2 = .ok b at answer
    unfold Cluster.patchFinalizers at answer
    split at answer
    · cases answer
    next st held =>
      split at answer
      · cases answer
      · cases answer
        exact ⟨st,held,rfl⟩

theorem updateAdoption_answer (a b : KnativeAdoption)
    (answer : (apiserver.serve fault c (.updateAdoption a)).2 = .ok b) :
    ∃ st, c.adoptions.get a.key = some st ∧ b = { st with
      labels := a.labels, annotations := a.annotations, finalizers := a.finalizers, spec := a.spec } := by
  cases fault with
  | refused error => cases answer
  | lost error => cases answer
  | none =>
    change (c.updateAdoption a).2 = .ok b at answer
    unfold Cluster.updateAdoption at answer
    split at answer
    · cases answer
    next st held =>
      dsimp only at answer
      split at answer
      · cases answer
      · split at answer <;> (cases answer; exact ⟨st,held,rfl⟩)

end Answers

/-! What the writes to an adoption leave. -/

section Adoptions
variable (c : Cluster) (key other : NamespacedName)

theorem get_deleteAdoption : (c.deleteAdoption key).1.adoptions.get other =
    if other = key then
      (c.adoptions.get other).bind (fun st => if st.finalizers = [] then none else some { st with deleting := true })
    else c.adoptions.get other := by
  unfold Cluster.deleteAdoption
  cases held : c.adoptions.get key with
  | none =>
    dsimp only
    split
    next here => rw [here,held]; rfl
    next => rfl
  | some st =>
    have filed : st.key = key := c.adoptions.keyed _ _ held
    dsimp only
    by_cases here : other = key
    · rw [if_pos here,here,held]
      dsimp only [Option.bind_some]
      split
      · exact if_pos rfl
      · exact if_pos filed.symm
    · rw [if_neg here]
      split
      · exact if_neg here
      · exact if_neg (fun same => here (same.trans filed))

theorem deleteAdoption_frame : (c.deleteAdoption key).1 = { c with adoptions := (c.deleteAdoption key).1.adoptions } := by
  unfold Cluster.deleteAdoption
  split
  · rfl
  · split <;> rfl

/-- What is left of an adoption after a delete has at most a mark more. -/
theorem deleteAdoption_back (st : KnativeAdoption) (found : (c.deleteAdoption key).1.adoptions.get other = some st) :
    ∃ old deleting, c.adoptions.get other = some old ∧ st = { old with deleting := deleting } := by
  rw [get_deleteAdoption] at found
  split at found
  next =>
    obtain ⟨old,held,marked⟩ := Option.bind_eq_some_iff.mp found
    split at marked
    · cases marked
    · cases marked
      exact ⟨old,true,held,rfl⟩
  next => exact ⟨st,st.deleting,found,rfl⟩

theorem updateAdoption_cases (b : KnativeAdoption) :
    (c.updateAdoption b).1 = c ∨ ∃ st, c.adoptions.get b.key = some st ∧
      (b.finalizers = [] ∧ (c.updateAdoption b).1 = { c with adoptions := c.adoptions.remove b.key } ∨
        (c.updateAdoption b).1 = { c with adoptions := c.adoptions.put { st with
          labels := b.labels, annotations := b.annotations, finalizers := b.finalizers, spec := b.spec } }) := by
  unfold Cluster.updateAdoption
  cases held : c.adoptions.get b.key with
  | none => exact Or.inl rfl
  | some st =>
    dsimp only
    split
    · exact Or.inl rfl
    · refine Or.inr ⟨st,rfl,?_⟩
      split
      next last =>
        simp only [Bool.and_eq_true,decide_eq_true_eq] at last
        exact Or.inl ⟨last.2,rfl⟩
      next => exact Or.inr rfl

end Adoptions

/-- The program writes no part of the cluster outside `parts`. -/
def Within (parts : List Part) {α : Type} (p : Op α) : Prop :=
  p.Uses (fun r => ∀ part, r.part = some part → part ∈ parts)

section Footprints
variable {α β : Type} {parts : List Part}

theorem within_pure (value : α) : Within parts (pure value : Op α) := trivial

theorem within_ask (r : Request) (inside : ∀ part, r.part = some part → part ∈ parts) :
    Within parts (Client.ask r) := Program.uses_request inside

theorem within_read (r : Request) (reads : r.part = none) : Within parts (Client.ask r) :=
  within_ask r (by simp [reads])

theorem within_bind {p : Op α} {f : α → Op β} (first : Within parts p) (rest : ∀ value, Within parts (f value)) :
    Within parts (p >>= f) := Program.uses_bind first rest

theorem within_mono {more : List Part} (p : Op α) (within : Within parts p) (inside : parts ⊆ more) :
    Within more p :=
  Program.uses_mono _ _ p (fun _ fine part found => inside (fine part found)) within

theorem same_of_eq (part : Part) (c d : Cluster) (equal : c = d) : part.Same c d := equal ▸ .refl part c

/-- A part outside the footprint is changed by drift only. -/
theorem run_same (part : Part) {drift : Cluster → Cluster → Prop} (steady : ∀ c d, drift c d → part.Same c d)
    {p : Op α} (within : Within parts p) (outside : part ∉ parts) {s t : Cluster} {log : CallLog}
    {out : Option α} (run : Run apiserver drift p s log out t) : part.Same s t := by
  induction run with
  | stop | done => exact .refl part _
  | call r next s m t fault log out moved rest ih =>
    have other : r.part ≠ some part := fun found => outside (within.1 part found)
    exact .trans part _ _ _ (steady s m moved)
      (.trans part _ _ _ (serve_same fault m r part other) (ih (within.2 _)))

/-- `Ensures` with the fact that the Deployments are as before. -/
theorem ensures_deployments {I : Cluster → CallLog → Prop} {Q : α → Cluster → CallLog → Prop} (p : Op α)
    (within : Within parts p) (outside : .deployments ∉ parts) (c : Cluster) (log : CallLog)
    (holds : Ensures apiserver Drift I p Q c log) :
    Ensures apiserver Drift I p (fun value d past => d.deployments = c.deployments ∧ Q value d past) c log :=
  ensures_mono holds (fun _ _ _ run post =>
    ⟨run_same .deployments (fun _ _ moved => moved.deployments) within outside run,post⟩)

end Footprints

/-! The adoption path. -/

/-- The calls of the scale-down guard of an adoption. -/
inductive GuardCall (a : KnativeAdoption) : Request → Prop
  | ksvc : GuardCall a (.getKService a.key)
  | pods : GuardCall a (.listPods a.ns a.name)
  | probe (ns pod : String) (port : Int) (path : String) (timeout : Int) : GuardCall a (.probe ns pod port path timeout)
  | enqueue (desired : Int) (reason : String) (enabled : guardEnabled a = true) (bit : desired = 0 ∨ desired = 1) :
      GuardCall a (.enqueue ⟨a.ns,a.name,a.name,desired,reason⟩)

theorem GuardCall.reads (a : KnativeAdoption) (r : Request) (call : GuardCall a r) : r.part = none := by
  cases call <;> rfl

section Guard
variable (r : KnativeAdoptionReconciler) (a : KnativeAdoption)

theorem uses_probeAll {allowed : Request → Prop}
    (probes : ∀ ns pod port path timeout, allowed (.probe ns pod port path timeout)) (path : String) (timeout : Int)
    (pods : List Pod) : (probeAll a path timeout pods).Uses allowed := by
  induction pods with
  | nil => trivial
  | cons pod rest ih =>
    exact Program.uses_bind (Program.uses_request (probes _ _ _ _ _))
      (fun _ => Program.uses_bind ih (fun _ => trivial))

theorem uses_recordOutcome (enabled : guardEnabled a = true) (b : KnativeAdoption) (same : b.key = a.key)
    (outcome : ScaleDown.Outcome) (msg : String) : (recordOutcome r b outcome msg).Uses (GuardCall a) := by
  have enqueues (x : KnativeAdoption) (filed : x.key = a.key) (desired : Int) (reason : String)
      (bit : desired = 0 ∨ desired = 1) : (enqueueMinScale r x desired reason).Uses (GuardCall a) := by
    have ns : x.ns = a.ns := congrArg NamespacedName.ns filed
    have name : x.name = a.name := congrArg NamespacedName.name filed
    unfold enqueueMinScale
    rw [ns,name]
    split
    · exact Program.uses_bind (Program.uses_request (.enqueue desired reason enabled bit)) (fun _ => trivial)
    · trivial
  have cleared (x : KnativeAdoption) (filed : x.key = a.key) :
      (clearConditionIfReason x .degraded .scaleDownProbeError).key = a.key := by
    obtain ⟨_,kept⟩ := sameButConditions_clearConditionIfReason x .degraded .scaleDownProbeError
    rw [kept]
    exact filed
  cases outcome with
  | allowZero =>
    refine Program.uses_bind (enqueues _ (cleared _ ?_) _ _ (Or.inl rfl)) (fun _ => trivial)
    exact same
  | block => exact Program.uses_bind (enqueues _ same _ _ (Or.inr rfl)) (fun _ => trivial)
  | noPods =>
    refine Program.uses_bind (enqueues _ (cleared _ ?_) _ _ (Or.inl rfl)) (fun _ => trivial)
    exact same

theorem uses_runScaleDownGuard (enabled : guardEnabled a = true) : (runScaleDownGuard r a).Uses (GuardCall a) := by
  unfold runScaleDownGuard
  dsimp only
  split
  · trivial
  · refine Program.uses_bind (Program.uses_bind (Program.uses_request .pods) (fun response => ?_))
      (fun pods => ?_)
    · cases response <;> trivial
    · cases pods with
      | error err => trivial
      | ok pods =>
        refine Program.uses_bind (uses_probeAll a .probe _ _ _) (fun results => ?_)
        refine Program.uses_bind (uses_recordOutcome r a enabled _ ?_ _ _) (fun _ => trivial)
        rfl

theorem uses_maybeRunGuard : (maybeRunGuard r a).Uses (GuardCall a) := by
  unfold maybeRunGuard
  split
  · trivial
  next on =>
    refine Program.uses_bind (Program.uses_request .ksvc) (fun response => ?_)
    cases response with
    | error err => trivial
    | ok prev =>
      dsimp only
      split
      · exact Program.uses_bind (uses_runScaleDownGuard r a (by simpa using on)) (fun _ => trivial)
      · trivial

theorem within_maybeRunGuard : Within [] (maybeRunGuard r a) :=
  Program.uses_mono _ _ _ (fun request call part found => by simp [call.reads] at found) (uses_maybeRunGuard r a)

end Guard

theorem within_ensureFinalizers (a : KnativeAdoption) : Within [.adoptions] (ensureFinalizers a) := by
  unfold ensureFinalizers
  dsimp only
  split
  · exact within_pure _
  · refine within_bind (within_ask _ (by simp [Request.part])) (fun response => ?_)
    cases response <;> exact within_pure _

theorem within_getSourceDeployment (a : KnativeAdoption) : Within [] (getSourceDeployment a) := by
  refine within_bind (within_read _ rfl) (fun response => ?_)
  cases response with
  | error err => dsimp only; split <;> exact within_pure _
  | ok dep => exact within_pure _

theorem within_snapshotAndDeleteService (a : KnativeAdoption) (svc : Service) :
    Within [.services] (snapshotAndDeleteService a svc) := by
  refine within_bind (within_ask _ (by simp [Request.part])) (fun response => ?_)
  cases response with
  | error err => dsimp only; split <;> exact within_pure _
  | ok done => exact within_pure _

theorem within_takeOver (a : KnativeAdoption) (svc : Service) : Within [.services] (takeOver a svc) := by
  refine within_bind (within_snapshotAndDeleteService _ _) (fun result => ?_)
  obtain ⟨a,_ | _⟩ := result <;> exact within_pure _

theorem within_swapFound (a : KnativeAdoption) (svc : Option Service) : Within [.services] (swapFound a svc) := by
  unfold swapFound
  split
  · exact within_pure _
  · exact within_pure _
  · cases svc with
    | none => exact within_pure _
    | some svc => exact within_takeOver a svc

theorem within_swapService (a : KnativeAdoption) : Within [.services] (swapService a) := by
  refine within_bind (within_read _ rfl) (fun response => ?_)
  cases response with
  | error err =>
    dsimp only
    split
    · exact within_swapFound a none
    · exact within_pure _
  | ok svc => exact within_swapFound a (some svc)

theorem within_reconcileTrafficObject (kind : TrafficKind)
    (snapshotOnce : KnativeAdoption → String → Obj GoNumber → KnativeAdoption × Except ApiError Unit)
    (rewrite : Obj GoNumber → Except ApiError (Obj GoNumber × Bool)) (a : KnativeAdoption) (name : String) :
    Within [.traffic] (reconcileTrafficObject kind snapshotOnce rewrite a name) := by
  refine within_bind (within_read _ rfl) (fun response => ?_)
  cases response with
  | error err => exact within_pure _
  | ok obj =>
    dsimp only
    split
    · exact within_pure _
    · split
      · exact within_pure _
      · exact within_pure _
      · refine within_bind (within_ask _ (by simp [Request.part])) (fun response => ?_)
        cases response <;> exact within_pure _

theorem within_reconcileRef (kind : TrafficKind)
    (step : KnativeAdoption → String → Op (KnativeAdoption × Except ApiError Bool))
    (each : ∀ a name, Within [.traffic] (step a name)) (a : KnativeAdoption) (name : String) :
    Within [.traffic] (reconcileRef kind step a name) := by
  unfold reconcileRef
  split
  · exact within_pure _
  · refine within_bind (each a name) (fun result => ?_)
    obtain ⟨a,_ | _⟩ := result <;> exact within_pure _

theorem within_reconcileRefs (kind : TrafficKind)
    (step : KnativeAdoption → String → Op (KnativeAdoption × Except ApiError Bool))
    (each : ∀ a name, Within [.traffic] (step a name)) (names : List String) (a : KnativeAdoption)
    (observed : List ObservedRoute) (firstErr : Option ApiError) :
    Within [.traffic] (reconcileRefs kind step names a observed firstErr) := by
  induction names generalizing a observed firstErr with
  | nil => exact within_pure _
  | cons name rest ih => exact within_bind (within_reconcileRef kind step each a name) (fun _ => ih _ _ _)

theorem within_resolveTrafficTargetServicePort (a : KnativeAdoption) :
    Within [] (resolveTrafficTargetServicePort a) := by
  refine within_bind (within_read _ rfl) (fun response => ?_)
  cases response with
  | error err => dsimp only; split <;> exact within_pure _
  | ok svc => exact within_pure _

theorem within_reconcileTraffic (a : KnativeAdoption) : Within [.traffic] (reconcileTraffic a) := by
  unfold reconcileTraffic
  split
  · exact within_pure _
  · split
    · exact within_pure _
    · refine within_bind (within_mono _ (within_resolveTrafficTargetServicePort a) (by simp)) (fun port => ?_)
      cases port with
      | error err => exact within_pure _
      | ok port =>
        refine within_bind (within_reconcileRefs _ _ (fun _ _ => within_reconcileTrafficObject _ _ _ _ _) _ _ _ _)
          (fun first => ?_)
        exact within_bind (within_reconcileRefs _ _ (fun _ _ => within_reconcileTrafficObject _ _ _ _ _) _ _ _ _)
          (fun _ => within_pure _)

theorem within_adaptTraffic (a : KnativeAdoption) : Within [.traffic] (adaptTraffic a) := by
  unfold adaptTraffic
  split
  · refine within_bind (within_reconcileTraffic a) (fun result => ?_)
    obtain ⟨a,_ | _⟩ := result <;> exact within_pure _
  · exact within_pure _

theorem within_applyKnativeService (ksvc : KService) : Within [.ksvcs] (applyKnativeService ksvc) := by
  refine within_bind (within_ask _ (by simp [Request.part])) (fun response => ?_)
  cases response <;> exact within_pure _

theorem within_quiesceSource (a : KnativeAdoption) (dep : Deployment) :
    Within [.deployments] (quiesceSource a dep) := by
  unfold quiesceSource
  split
  · exact within_pure _
  · refine within_bind (within_ask _ (by simp [Request.part])) (fun response => ?_)
    cases response <;> exact within_pure _

theorem within_finishAdoption (a : KnativeAdoption) (dep : Deployment) :
    Within [.deployments] (finishAdoption a dep) := by
  refine within_bind (within_quiesceSource a dep) (fun result => ?_)
  obtain ⟨a,_ | _⟩ := result
  · dsimp only
    split <;> exact within_pure _
  · exact within_pure _

theorem within_awaitKService (r : KnativeAdoptionReconciler) (a : KnativeAdoption) (dep : Deployment)
    (ksvc : KService) : Within [.deployments] (awaitKService r a dep ksvc) := by
  refine within_bind (within_read _ rfl) (fun response => ?_)
  cases response with
  | error err => exact within_pure _
  | ok live =>
    dsimp only
    split
    · exact within_finishAdoption _ _
    · exact within_pure _

/-! The deletion path. -/

def Request.ofRelease : Request → Bool
  | .getKService _ => true
  | .deleteKService _ => true
  | .getService _ => true
  | .createService _ => true
  | .getTraffic _ => true
  | .createTraffic _ _ => true
  | .patchTraffic _ _ => true
  | .getDeployment _ => true
  | .patchDeployment _ _ => true
  | .updateAdoption _ => true
  | _ => false

/-- The program makes calls of the deletion path only, and writes no part outside `parts`. -/
def ReleaseCalls (parts : List Part) {α : Type} (p : Op α) : Prop :=
  p.Uses (fun r => r.ofRelease = true ∧ ∀ part, r.part = some part → part ∈ parts)

/-- A call of a deletion pass over `a`, which writes a Knative Service only to delete the one with its name. -/
def DeletionCall (a : KnativeAdoption) (r : Request) : Prop :=
  r.ofRelease = true ∧
    (r.part = some .ksvcs → r = .deleteKService a.key ∧ finalizerRestoreSourceService ∈ a.finalizers)

section Deletion
variable {α β : Type} {parts : List Part}

theorem releaseCalls_ask (r : Request) (release : r.ofRelease = true) (inside : ∀ part, r.part = some part → part ∈ parts) :
    ReleaseCalls parts (Client.ask r) := Program.uses_request ⟨release,inside⟩

theorem releaseCalls_read (r : Request) (release : r.ofRelease = true) (reads : r.part = none) : ReleaseCalls parts (Client.ask r) :=
  releaseCalls_ask r release (by simp [reads])

theorem releaseCalls_bind (p : Op α) (f : α → Op β) (first : ReleaseCalls parts p) (rest : ∀ value, ReleaseCalls parts (f value)) :
    ReleaseCalls parts (p >>= f) := Program.uses_bind first rest

theorem ReleaseCalls.within (p : Op α) (calls : ReleaseCalls parts p) : Within parts p :=
  Program.uses_mono _ _ p (fun _ fine => fine.2) calls

theorem ReleaseCalls.calls (a : KnativeAdoption) (p : Op α) (calls : ReleaseCalls parts p) (outside : .ksvcs ∉ parts) :
    p.Uses (DeletionCall a) :=
  Program.uses_mono _ _ p (fun _ fine => ⟨fine.1,fun part => absurd (fine.2 _ part) outside⟩) calls

end Deletion

theorem releaseCalls_deleteKSvcIfPresent (a : KnativeAdoption) : ReleaseCalls [.ksvcs] (deleteKSvcIfPresent a) := by
  refine releaseCalls_bind _ _ (releaseCalls_ask _ rfl (by simp [Request.part])) (fun response => ?_)
  cases response with
  | error err => dsimp only; split <;> trivial
  | ok done => trivial

theorem releaseCalls_isKSvcGone (a : KnativeAdoption) : ReleaseCalls [] (isKSvcGone a) := by
  refine releaseCalls_bind _ _ (releaseCalls_read _ rfl rfl) (fun response => ?_)
  cases response with
  | error err => dsimp only; split <;> trivial
  | ok ksvc => trivial

theorem releaseCalls_isDerivedServiceGone (a : KnativeAdoption) : ReleaseCalls [] (isDerivedServiceGone a) := by
  refine releaseCalls_bind _ _ (releaseCalls_read _ rfl rfl) (fun response => ?_)
  cases response with
  | error err => dsimp only; split <;> trivial
  | ok svc => trivial

theorem releaseCalls_restoreTrafficObjectSnapshot (ns : String) (kind : TrafficKind) (item : TrafficObjectSnapshot) :
    ReleaseCalls [.traffic] (restoreTrafficObjectSnapshot ns kind item) := by
  unfold restoreTrafficObjectSnapshot
  dsimp only
  split
  · trivial
  · refine releaseCalls_bind _ _ (releaseCalls_read _ rfl rfl) (fun response => ?_)
    cases response with
    | error err =>
      dsimp only
      split
      · refine releaseCalls_bind _ _ (releaseCalls_ask _ rfl (by simp [Request.part])) (fun response => ?_)
        cases response with
        | error err => dsimp only; split <;> trivial
        | ok done => trivial
      · trivial
    | ok obj =>
      dsimp only
      split
      · trivial
      · refine releaseCalls_bind _ _ (releaseCalls_ask _ rfl (by simp [Request.part])) (fun response => ?_)
        cases response <;> trivial

theorem releaseCalls_restoreTrafficSnapshotList (ns : String) (kind : TrafficKind) (items : List TrafficObjectSnapshot) :
    ReleaseCalls [.traffic] (restoreTrafficSnapshotList ns kind items) := by
  induction items with
  | nil => trivial
  | cons item rest ih =>
    refine releaseCalls_bind _ _ (releaseCalls_restoreTrafficObjectSnapshot ns kind item) (fun err => ?_)
    cases err with
    | none => exact ih
    | some err => trivial

theorem releaseCalls_restoreTrafficSnapshots (a : KnativeAdoption) : ReleaseCalls [.traffic] (restoreTrafficSnapshots a) := by
  unfold restoreTrafficSnapshots
  split
  · trivial
  · refine releaseCalls_bind _ _ (releaseCalls_restoreTrafficSnapshotList _ _ _) (fun err => ?_)
    cases err with
    | none => exact releaseCalls_restoreTrafficSnapshotList _ _ _
    | some err => trivial

theorem releaseCalls_rebuildSnapshotService (a : KnativeAdoption) : ReleaseCalls [.services] (rebuildSnapshotService a) := by
  unfold rebuildSnapshotService
  split
  · trivial
  · refine releaseCalls_bind _ _ (releaseCalls_ask _ rfl (by simp [Request.part])) (fun response => ?_)
    cases response with
    | error err => dsimp only; split <;> trivial
    | ok done => trivial

theorem releaseCalls_restoreDeploymentSpec (a : KnativeAdoption) : ReleaseCalls [.deployments] (restoreDeploymentSpec a) := by
  unfold restoreDeploymentSpec
  split
  · trivial
  · refine releaseCalls_bind _ _ (releaseCalls_read _ rfl rfl) (fun response => ?_)
    cases response with
    | error err => dsimp only; split <;> trivial
    | ok dep =>
      dsimp only
      split
      · trivial
      · refine releaseCalls_bind _ _ (releaseCalls_ask _ rfl (by simp [Request.part])) (fun response => ?_)
        cases response <;> trivial

theorem releaseCalls_removeFinalizer (a : KnativeAdoption) (name : String) :
    ReleaseCalls [.adoptions] (removeFinalizer a name) := by
  unfold removeFinalizer
  split
  · refine releaseCalls_bind _ _ (releaseCalls_ask _ rfl (by simp [Request.part])) (fun response => ?_)
    cases response <;> trivial
  · trivial

theorem within_deleteKSvcIfPresent (a : KnativeAdoption) : Within [.ksvcs] (deleteKSvcIfPresent a) :=
  (releaseCalls_deleteKSvcIfPresent a).within _

theorem within_isKSvcGone (a : KnativeAdoption) : Within [] (isKSvcGone a) := (releaseCalls_isKSvcGone a).within _

theorem within_isDerivedServiceGone (a : KnativeAdoption) : Within [] (isDerivedServiceGone a) :=
  (releaseCalls_isDerivedServiceGone a).within _

theorem within_restoreTrafficSnapshots (a : KnativeAdoption) : Within [.traffic] (restoreTrafficSnapshots a) :=
  (releaseCalls_restoreTrafficSnapshots a).within _

theorem within_rebuildSnapshotService (a : KnativeAdoption) : Within [.services] (rebuildSnapshotService a) :=
  (releaseCalls_rebuildSnapshotService a).within _

theorem within_restoreDeploymentSpec (a : KnativeAdoption) : Within [.deployments] (restoreDeploymentSpec a) :=
  (releaseCalls_restoreDeploymentSpec a).within _

theorem uses_restoreChildren (a b : KnativeAdoption) : (restoreChildren b).Uses (DeletionCall a) := by
  refine Program.uses_bind ((releaseCalls_restoreTrafficSnapshots _).calls a _ (by simp)) (fun restored => ?_)
  cases restored with
  | some err => trivial
  | none =>
    refine Program.uses_bind ((releaseCalls_rebuildSnapshotService _).calls a _ (by simp)) (fun rebuilt => ?_)
    cases rebuilt with
    | some err => trivial
    | none =>
      refine Program.uses_bind ((releaseCalls_removeFinalizer _ _).calls a _ (by simp)) (fun removed => ?_)
      obtain ⟨next,_ | err⟩ := removed <;> trivial

theorem uses_releaseService (a : KnativeAdoption) : (releaseService a).Uses (DeletionCall a) := by
  unfold releaseService
  split
  next pending =>
    have deletes : (deleteKSvcIfPresent a).Uses (DeletionCall a) := by
      refine Program.uses_bind (Program.uses_request ⟨rfl,fun _ => ⟨rfl,pending⟩⟩) (fun response => ?_)
      cases response with
      | error err => dsimp only; split <;> trivial
      | ok done => trivial
    refine Program.uses_bind deletes (fun deleted => ?_)
    cases deleted with
    | some err => trivial
    | none =>
      refine Program.uses_bind ((releaseCalls_isKSvcGone a).calls a _ (by simp)) (fun gone => ?_)
      rcases gone with err | _ | _
      · trivial
      · trivial
      · refine Program.uses_bind ((releaseCalls_isDerivedServiceGone a).calls a _ (by simp)) (fun derived => ?_)
        rcases derived with err | _ | _
        · trivial
        · trivial
        · exact uses_restoreChildren a a
  next => trivial

theorem uses_releaseSource (a b : KnativeAdoption) : (releaseSource b).Uses (DeletionCall a) := by
  unfold releaseSource
  split
  · refine Program.uses_bind ((releaseCalls_restoreDeploymentSpec _).calls a _ (by simp)) (fun restored => ?_)
    cases restored with
    | some err => trivial
    | none =>
      refine Program.uses_bind ((releaseCalls_removeFinalizer _ _).calls a _ (by simp)) (fun removed => ?_)
      obtain ⟨next,_ | err⟩ := removed <;> trivial
  · trivial

theorem uses_handleDeletion (a : KnativeAdoption) : (handleDeletion a).Uses (DeletionCall a) := by
  refine Program.uses_bind (uses_releaseService a) (fun released => ?_)
  cases released with
  | error ended => trivial
  | ok next =>
    refine Program.uses_bind (uses_releaseSource a next) (fun result => ?_)
    cases result <;> trivial

theorem within_patchStatus (original current : KnativeAdoption) :
    Within [.adoptions] (patchStatus original current) := by
  unfold patchStatus
  split
  · exact within_pure _
  · exact within_ask _ (by simp [Request.part])

end Ifaas
