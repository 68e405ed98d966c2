import Ifaas.ConditionEdits
import Ifaas.Readiness
import Ifaas.TrafficIsolation

/-! A pass over an adoption that has landed: its source is scaled down, its Knative Service is
ready, its traffic objects are rewritten. What a fault-free pass leaves of it is computed here
stage by stage, as a function of the adoption and the cluster it starts from. -/
namespace Ifaas
open Library

/-! What is stored is found. -/

theorem found_some {κ α : Type} {keyOf : α → κ} {store : Store κ α keyOf} {key : κ} {o : α} (held : store.get key = some o)
    (missing : ApiError) : found store key missing = .ok o := by
  unfold found
  rw [held]

theorem found_none {κ α : Type} {keyOf : α → κ} {store : Store κ α keyOf} {key : κ} (absent : store.get key = none)
    (missing : ApiError) : found store key missing = .error missing := by
  unfold found
  rw [absent]

/-! The guard. -/

/-- The guard has a round: it is enabled and the Knative Service it looks at is ready. -/
def guardRuns (r : KnativeAdoptionReconciler) (c : Cluster) (a : KnativeAdoption) : Bool :=
  guardEnabled a &&
    match c.ksvcs.get a.key with
    | none => false
    | some live => (r.ready live).1

/-- What the pods answer. -/
def polled (c : Cluster) (a : KnativeAdoption) : List ScaleDown.Result :=
  (probedPods (c.pods.filter (fun p => p.ns = a.ns && p.labels.value "serving.knative.dev/service" = a.name))).map
    (fun pod => c.probes pod.ns pod.name (resolveProbePort a pod) (guardConfig a).path (guardConfig a).timeout)

def guarded (r : KnativeAdoptionReconciler) (c : Cluster) (a : KnativeAdoption) : KnativeAdoption :=
  if guardRuns r c a then
    if r.prober then voted a (polled c a)
    else setCondition a .scaleDownAllowed .unknown .guardSkipped "prober not configured"
  else a

/-- What a pass hands to the flusher. -/
def handed (r : KnativeAdoptionReconciler) (c : Cluster) (a : KnativeAdoption) : List Decision :=
  if guardRuns r c a && r.prober && r.flusher then [decided a (ScaleDown.vote (polled c a))] else []

section Guard
variable (r : KnativeAdoptionReconciler) (c : Cluster) (a : KnativeAdoption)

theorem succeed_probeAll (path : String) (timeout : Int) (pods : List Pod) :
    apiserver.succeed (probeAll a path timeout pods) c =
      (pods.map (fun pod => c.probes pod.ns pod.name (resolveProbePort a pod) path timeout),c) := by
  induction pods with
  | nil => rfl
  | cons pod rest ih =>
    unfold probeAll
    rw [succeed_ask]
    exact succeed_then ih _

theorem succeed_recordOutcome (outcome : ScaleDown.Outcome) (msg : String) :
    apiserver.succeed (recordOutcome r a outcome msg) c =
      (recorded a outcome msg,{ c with queue := c.queue++(if r.flusher then [decided a outcome] else []) }) := by
  have sent (x : KnativeAdoption) (same : SameButConditions a x) (desired : Int) (reason : String) :
      apiserver.succeed (do enqueueMinScale r x desired reason; return x) c =
        (x,{ c with queue := c.queue++(if r.flusher then [⟨a.ns,a.name,a.name,desired,reason⟩] else []) }) := by
    obtain ⟨conditions,rfl⟩ := same
    unfold enqueueMinScale
    cases r.flusher with
    | true => rfl
    | false => exact Prod.ext rfl (by simp only [Bool.false_eq_true,if_false,List.append_nil]; rfl)
  have same := sameButConditions_recorded a outcome msg
  cases outcome <;> exact sent _ same _ _

theorem succeed_runScaleDownGuard (prober : r.prober = true) :
    apiserver.succeed (runScaleDownGuard r a) c =
      ((voted a (polled c a),ScaleDown.vote (polled c a),(guardConfig a).interval),
        { c with queue := c.queue++(if r.flusher then [decided a (ScaleDown.vote (polled c a))] else []) }) := by
  unfold runScaleDownGuard
  rw [prober]
  have listed : apiserver.succeed (listKSvcPods a.ns a.name) c =
      (.ok (probedPods (c.pods.filter (fun p => p.ns = a.ns && p.labels.value "serving.knative.dev/service" = a.name))),c) := rfl
  refine (succeed_then listed _).trans ?_
  refine (succeed_then (succeed_probeAll c a _ _ _) _).trans ?_
  exact succeed_then (succeed_recordOutcome r c _ _ _) _

theorem succeed_maybeRunGuard :
    apiserver.succeed (maybeRunGuard r a) c = (guarded r c a,{ c with queue := c.queue++handed r c a }) := by
  have quiet (off : guardRuns r c a = false) : (a,c) = (guarded r c a,{ c with queue := c.queue++handed r c a }) := by
    unfold guarded handed
    simp [off]
  unfold maybeRunGuard
  by_cases enabled : guardEnabled a = true
  · rw [enabled]
    refine (succeed_ask apiserver _ _ c).trans ?_
    cases held : c.ksvcs.get a.key with
    | none =>
      rw [show (apiserver.effect c (.getKService a.key)).2 = .error _ from found_none held _]
      exact quiet (by simp [guardRuns,held])
    | some live =>
      rw [show (apiserver.effect c (.getKService a.key)).2 = .ok live from found_some held _]
      have runs : guardRuns r c a = (r.ready live).1 := by simp [guardRuns,held,enabled]
      dsimp only
      by_cases up : (r.ready live).1 = true
      · rw [if_pos up]
        cases prober : r.prober with
        | true =>
          refine (succeed_then (succeed_runScaleDownGuard r c a prober) _).trans ?_
          unfold guarded handed
          simp only [runs,up,prober,if_true,Bool.true_and]
          rfl
        | false =>
          unfold guarded handed runScaleDownGuard
          simp only [runs,up,prober,if_true,Bool.not_false,Bool.false_and,Bool.and_false,Bool.false_eq_true,if_false,List.append_nil]
          rfl
      · rw [if_neg up]
        exact quiet (runs.trans (by simpa using up))
  · rw [Bool.eq_false_iff.mpr enabled]
    exact quiet (by simp [guardRuns,Bool.eq_false_iff.mpr enabled])

/-- No pod fails to answer the guard. -/
def Answered : Prop := guardRuns r c a = true → r.prober = true → (ScaleDown.tally (polled c a)).errored = 0

/-- What a round with answers leaves in the conditions. -/
def voteEdits (generation : Int) (results : List ScaleDown.Result) : List ConditionEdit :=
  match ScaleDown.vote results with
  | .allowZero => [.set ⟨.scaleDownAllowed,.true,.scaleDownAllowed,roundMessage results,generation⟩,
      .clear .degraded .scaleDownProbeError]
  | .block => [.set ⟨.scaleDownAllowed,.false,.scaleDownBlocked,roundMessage results,generation⟩]
  | .noPods => [.set ⟨.scaleDownAllowed,.true,.scaleDownAllowed,"ksvc already at zero; no pods to probe",generation⟩,
      .clear .degraded .scaleDownProbeError]

def guardEdits : List ConditionEdit :=
  if guardRuns r c a then
    if r.prober then voteEdits a.generation (polled c a)
    else [.set ⟨.scaleDownAllowed,.unknown,.guardSkipped,"prober not configured",a.generation⟩]
  else []

def guardProbe : Option ProbeStatus :=
  if guardRuns r c a && r.prober then
    some (mergeProbeStatus none (ScaleDown.vote (polled c a)) (roundMessage (polled c a)) false)
  else a.status.lastScaleDownProbe

theorem recorded_edits (results : List ScaleDown.Result) :
    recorded a (ScaleDown.vote results) (roundMessage results) =
      a.withConditions (edited (voteEdits a.generation results) a.status.conditions) := by
  unfold recorded voteEdits
  cases ScaleDown.vote results with
  | block => rfl
  | allowZero | noPods =>
    dsimp only
    rw [clearConditionIfReason_edit]
    rfl

theorem voted_answered (results : List ScaleDown.Result) (answered : (ScaleDown.tally results).errored = 0) :
    voted a results = (a.withProbe (mergeProbeStatus none (ScaleDown.vote results) (roundMessage results) false)).withConditions
      (edited (voteEdits a.generation results) a.status.conditions) := by
  have calm : decide ((ScaleDown.tally results).errored > 0) = false := by simp [answered]
  have fresh : mergeProbeStatus a.status.lastScaleDownProbe (ScaleDown.vote results) (roundMessage results) false =
      mergeProbeStatus none (ScaleDown.vote results) (roundMessage results) false := rfl
  unfold voted
  rw [calm,fresh,recorded_edits]
  exact if_pos (threshold_positive a)

theorem guarded_answered (answered : Answered r c a) :
    guarded r c a = { a with status := { a.status with
      conditions := edited (guardEdits r c a) a.status.conditions, lastScaleDownProbe := guardProbe r c a } } := by
  unfold guarded guardEdits guardProbe
  cases runs : guardRuns r c a with
  | false => rfl
  | true =>
    cases prober : r.prober with
    | false => rfl
    | true =>
      simp only [if_true,Bool.true_and]
      exact voted_answered a _ (answered runs prober)

end Guard

/-! The traffic stage where every object is in its rewritten form. -/

/-- The snapshot after an object was looked at. -/
def entered (kind : TrafficKind) (name : String) (body : Obj GoNumber) (snapshot : Option SourceSnapshot) : Option SourceSnapshot :=
  let held := snapshot.getD {}
  let traffic := held.traffic.getD {}
  if name = "" then snapshot
  else if hasTrafficObjectSnapshot (traffic.items kind) name then some { held with traffic := some traffic }
  else
    match rawSpecSnapshot body with
    | .error _ => some { held with traffic := some traffic }
    | .ok spec => some { held with traffic := some (traffic.append kind ⟨name,spec⟩) }

theorem snapshotTrafficOnce_entered (kind : TrafficKind) (a : KnativeAdoption) (name : String) (body : Obj GoNumber) :
    (snapshotTrafficOnce kind a name body).1 =
      { a with status := { a.status with sourceSnapshot := entered kind name body a.status.sourceSnapshot } } := by
  unfold snapshotTrafficOnce entered
  dsimp only
  split
  · rfl
  next named =>
    have items : trafficItems (ensureTrafficSnapshot a) kind = ((a.status.sourceSnapshot.getD {}).traffic.getD {}).items kind := rfl
    rw [items]
    split
    · rfl
    · cases rawSpecSnapshot body <;> rfl

/-- The snapshot after one of the declared objects was looked at. -/
def jot (c : Cluster) (ns : String) (snapshot : Option SourceSnapshot) (ref : TrafficKind × String) : Option SourceSnapshot :=
  match c.traffic.get ⟨ref.1,⟨ns,ref.2⟩⟩ with
  | none => snapshot
  | some o => entered ref.1 ref.2 (o.body.map Literal.read) snapshot

/-- The object has its entry, or will not get one. -/
def Jotted (c : Cluster) (ns : String) (ref : TrafficKind × String) (snapshot : Option SourceSnapshot) : Prop :=
  ref.2 = "" ∨ c.traffic.get ⟨ref.1,⟨ns,ref.2⟩⟩ = none ∨
    ∃ held traffic, snapshot = some held ∧ held.traffic = some traffic ∧
      hasTrafficObjectSnapshot (traffic.items ref.1) ref.2 = true

theorem has_append (traffic : TrafficSnapshot) (kind other : TrafficKind) (item : TrafficObjectSnapshot) (name : String) :
    hasTrafficObjectSnapshot ((traffic.append kind item).items other) name =
      (hasTrafficObjectSnapshot (traffic.items other) name || (other = kind && item.name = name)) := by
  unfold hasTrafficObjectSnapshot
  cases kind <;> cases other <;> simp [TrafficSnapshot.append,TrafficSnapshot.items]

/-- What is there after an object was looked at: what was there, and its own entry. -/
theorem entered_cases (kind : TrafficKind) (name : String) (named : name ≠ "") (o : TrafficObject) (snapshot : Option SourceSnapshot) :
    ∃ held traffic, entered kind name (o.body.map Literal.read) snapshot = some held ∧ held.traffic = some traffic ∧
      hasTrafficObjectSnapshot (traffic.items kind) name = true ∧
      ∀ other title, hasTrafficObjectSnapshot (((snapshot.getD {}).traffic.getD {}).items other) title = true →
        hasTrafficObjectSnapshot (traffic.items other) title = true := by
  unfold entered
  dsimp only
  rw [if_neg named]
  split
  next there => exact ⟨_,_,rfl,rfl,there,fun _ _ held => held⟩
  next =>
    obtain ⟨spec,taken⟩ := rawSpecSnapshot_taken o
    rw [taken]
    refine ⟨_,_,rfl,rfl,?_,fun other title held => ?_⟩
    · rw [has_append]
      simp
    · rw [has_append,held,Bool.true_or]

theorem jots_settle (c : Cluster) (ns : String) : Settles (jot c ns) (Jotted c ns) (fun _ _ => True) where
  reached snapshot ref := by
    unfold jot Jotted
    by_cases named : ref.2 = ""
    · exact Or.inl named
    · refine Or.inr ?_
      cases c.traffic.get ⟨ref.1,⟨ns,ref.2⟩⟩ with
      | none => exact Or.inl rfl
      | some o =>
        obtain ⟨held,traffic,after,there,own,_⟩ := entered_cases ref.1 ref.2 named o snapshot
        exact Or.inr ⟨held,traffic,after,there,own⟩
  kept snapshot ref other _ jotted := by
    rcases jotted with blank | missing | ⟨held,traffic,rfl,there,own⟩
    · exact Or.inl blank
    · exact Or.inr (Or.inl missing)
    · refine Or.inr (Or.inr ?_)
      unfold jot
      cases c.traffic.get ⟨other.1,⟨ns,other.2⟩⟩ with
      | none => exact ⟨held,traffic,rfl,there,own⟩
      | some o =>
        by_cases named : other.2 = ""
        · refine ⟨held,traffic,?_,there,own⟩
          unfold entered
          exact if_pos named
        · obtain ⟨next,grown,after,now,_,more⟩ := entered_cases other.1 other.2 named o (some held)
          refine ⟨next,grown,after,now,more ref.1 ref.2 ?_⟩
          rw [Option.getD_some,there]
          exact own
  still snapshot ref jotted := by
    unfold jot
    rcases jotted with blank | missing | ⟨held,traffic,rfl,there,own⟩
    · cases c.traffic.get ⟨ref.1,⟨ns,ref.2⟩⟩ with
      | none => rfl
      | some o =>
        unfold entered
        exact if_pos blank
    · rw [missing]
    · cases c.traffic.get ⟨ref.1,⟨ns,ref.2⟩⟩ with
      | none => rfl
      | some o =>
        unfold entered
        dsimp only
        split
        · rfl
        · rw [Option.getD_some,there,Option.getD_some,if_pos own,← there]

/-- The declared object is there and the rewrite has nothing to change in it. -/
def AtRest (t : RouteTarget) (c : Cluster) (ref : TrafficKind × String) : Prop :=
  ref.2 ≠ "" ∧ ∃ o body, c.traffic.get ⟨ref.1,⟨t.ns,ref.2⟩⟩ = some o ∧ rewriteOf ref.1 t (o.body.map Literal.read) = .ok (body,false)

def KnativeAdoption.jotting (a : KnativeAdoption) (c : Cluster) (refs : List (TrafficKind × String)) : KnativeAdoption :=
  { a with status := { a.status with sourceSnapshot := refs.foldl (jot c a.ns) a.status.sourceSnapshot } }

def convergedRoute (ref : TrafficKind × String) : ObservedRoute := newObservedRoute (.object ref.1) ref.2 true "already converged"

section Traffic
variable (c : Cluster) (port : Option Int)

theorem succeed_reconcileKind (kind : TrafficKind) (a : KnativeAdoption) (name : String)
    (converged : AtRest (routeTarget a port) c (kind,name)) :
    apiserver.succeed (reconcileKind kind port a name) c = ((a.jotting c [(kind,name)],.ok false),c) := by
  obtain ⟨-,o,body,held,still⟩ := converged
  have answer : (apiserver.effect c (.getTraffic ⟨kind,⟨a.ns,name⟩⟩)).2 = .ok o := found_some held _
  have entry := snapshotTrafficOnce_entered kind a name (o.body.map Literal.read)
  have taken := snapshotTrafficOnce_taken kind a name o
  have noted : { a with status := { a.status with
      sourceSnapshot := entered kind name (o.body.map Literal.read) a.status.sourceSnapshot } } = a.jotting c [(kind,name)] := by
    have found_ : c.traffic.get ⟨kind,⟨a.ns,name⟩⟩ = some o := held
    unfold KnativeAdoption.jotting
    rw [List.foldl_cons,List.foldl_nil,jot,found_]
  unfold reconcileKind reconcileTrafficObject
  dsimp only
  rw [succeed_ask,answer]
  dsimp only
  generalize snapshotTrafficOnce kind a name (o.body.map Literal.read) = pair at entry taken
  obtain ⟨b,outcome⟩ := pair
  subst taken
  rw [noted] at entry
  subst entry
  dsimp only
  rw [still]
  rfl

theorem succeed_reconcileRefs (kind : TrafficKind) (names : List String) (a : KnativeAdoption) (observed : List ObservedRoute)
    (converged : ∀ name ∈ names, AtRest (routeTarget a port) c (kind,name)) :
    apiserver.succeed (reconcileRefs kind (reconcileKind kind port) names a observed none) c =
      ((a.jotting c (names.map (fun name => (kind,name))),
        observed++(names.map (fun name => (kind,name))).map convergedRoute,none),c) := by
  induction names generalizing a observed with
  | nil =>
    rw [List.map_nil,List.map_nil,List.append_nil]
    rfl
  | cons name rest ih =>
    have first := converged name List.mem_cons_self
    have ran : apiserver.succeed (reconcileRef kind (reconcileKind kind port) a name) c =
        ((a.jotting c [(kind,name)],convergedRoute (kind,name),none),c) := by
      unfold reconcileRef
      rw [if_neg first.1]
      exact succeed_then (succeed_reconcileKind c port kind a name first) _
    unfold reconcileRefs
    refine (succeed_then ran _).trans ?_
    refine (ih (a.jotting c [(kind,name)]) (observed++[convergedRoute (kind,name)])
      (fun other member => converged other (List.mem_cons_of_mem _ member))).trans ?_
    rw [List.append_assoc]
    rfl

theorem succeed_resolve (a : KnativeAdoption) :
    apiserver.succeed (resolveTrafficTargetServicePort a) c = (.ok (livePort a c),c) := by
  unfold resolveTrafficTargetServicePort livePort
  refine (succeed_ask apiserver _ _ c).trans ?_
  cases held : c.services.get ⟨a.ns,sourceName a⟩ with
  | none =>
    rw [show (apiserver.effect c (.getService ⟨a.ns,sourceName a⟩)).2 = .error _ from found_none held _]
    rfl
  | some svc =>
    rw [show (apiserver.effect c (.getService ⟨a.ns,sourceName a⟩)).2 = .ok svc from found_some held _]
    rfl

theorem succeed_reconcileTraffic (a : KnativeAdoption) (enabled : trafficEnabled a = true) (inplace : trafficMode a = .inplace)
    (converged : ∀ ref ∈ trafficRefs a, AtRest (routeTarget a (livePort a c)) c ref) :
    apiserver.succeed (reconcileTraffic a) c =
      ((setObservedRoutes (a.jotting c (trafficRefs a)) ((trafficRefs a).map convergedRoute),none),c) := by
  unfold reconcileTraffic
  rw [enabled,inplace]
  refine (succeed_then (succeed_resolve c a) _).trans ?_
  have virtual := succeed_reconcileRefs c (livePort a c) .virtualService (virtualServiceRefs a) a []
    (fun name member => converged _ (List.mem_append_left _ (List.mem_map_of_mem member)))
  refine (succeed_then virtual _).trans ?_
  have rules := succeed_reconcileRefs c (livePort a c) .destinationRule (destinationRuleRefs a)
    (a.jotting c ((virtualServiceRefs a).map (fun name => (.virtualService,name))))
    ([]++((virtualServiceRefs a).map (fun name => (.virtualService,name))).map convergedRoute)
    (fun name member => converged _ (List.mem_append_right _ (List.mem_map_of_mem member)))
  refine (succeed_then rules _).trans ?_
  unfold trafficRefs KnativeAdoption.jotting
  rw [List.nil_append,List.map_append,List.foldl_append]
  rfl

end Traffic

/-! The Knative Service, applied again. -/

theorem overlay_again (labels sent : Labels) : (labels.overlay sent).overlay sent = labels.overlay sent := by
  have own : sent.filter (fun entry => !sent.has entry.1) = [] := by
    refine List.filter_eq_nil_iff.mpr (fun entry member => ?_)
    rw [(Labels.has_iff sent entry.1).mpr ⟨entry,member,rfl⟩]
    decide
  unfold Labels.overlay
  rw [List.filter_append,own,List.filter_filter]
  simp

theorem mergeOwners_again (stored sent : List OwnerReference) :
    Cluster.mergeOwners (Cluster.mergeOwners stored sent) sent = Cluster.mergeOwners stored sent := by
  have own : sent.filter (fun owner => !sent.any (fun other => other.uid = owner.uid)) = [] := by
    refine List.filter_eq_nil_iff.mpr (fun owner member => ?_)
    simp only [Bool.not_eq_true,Bool.not_eq_false',List.any_eq_true]
    exact ⟨owner,member,by simp⟩
  unfold Cluster.mergeOwners
  rw [List.filter_append,own,List.filter_filter]
  simp

/-- Applying the same Knative Service again changes nothing. -/
theorem appliedKService_again (live ksvc : KService) :
    Cluster.appliedKService (Cluster.appliedKService live ksvc) ksvc = Cluster.appliedKService live ksvc := by
  unfold Cluster.appliedKService
  dsimp only
  rw [overlay_again,overlay_again,overlay_again,mergeOwners_again]

/-! The whole pass. -/

def trafficEdits (a : KnativeAdoption) : List ConditionEdit :=
  if trafficEnabled a then [.set ⟨.trafficReady,.true,.trafficReady,"traffic adaptation reconciled",a.generation⟩,
    .clear .trafficDegraded .trafficReconcileFailed]
  else [.remove .trafficReady,.remove .trafficDegraded]

/-- The edits after the translation. -/
def lateEdits (a : KnativeAdoption) : List ConditionEdit :=
  [.remove .serviceAdoptionRefused] ++ trafficEdits a ++ [.clear .degraded .serviceApplyFailed,
    .set ⟨.adopted,.true,.adopted,"KnativeService applied",a.generation⟩,
    .set ⟨.serviceAdopted,.true,.knativeServiceReady,"KSvc Ready",a.generation⟩,
    .set ⟨.sourceQuiesced,.true,.sourceQuiesced,"Deployment scaled to 0",a.generation⟩,
    .set ⟨.ready,.true,.adopted,"adoption complete",a.generation⟩]

def passEdits (r : KnativeAdoptionReconciler) (c : Cluster) (a : KnativeAdoption) : List ConditionEdit :=
  [.remove .sourceMissing] ++ guardEdits r c a ++ [.remove .translationDegraded] ++ lateEdits a

def observedSnapshot (c : Cluster) (a : KnativeAdoption) : Option SourceSnapshot :=
  if trafficEnabled a then (trafficRefs a).foldl (jot c a.ns) a.status.sourceSnapshot else a.status.sourceSnapshot

def observedTraffic (a : KnativeAdoption) : Option TrafficStatus :=
  if trafficEnabled a then
    if (trafficRefs a).map convergedRoute = [] then none else some ⟨(trafficRefs a).map convergedRoute⟩
  else a.status.traffic

/-- The adoption at the end of a pass that met nothing to do. -/
def passed (r : KnativeAdoptionReconciler) (c : Cluster) (url : String) (a : KnativeAdoption) : KnativeAdoption :=
  { a with status :=
    { conditions := edited (passEdits r c a) a.status.conditions
      url := url
      sourceSnapshot := observedSnapshot c a
      lastScaleDownProbe := guardProbe r c a
      traffic := observedTraffic a } }

/-- The Knative Service a pass applies. -/
def sent (r : KnativeAdoptionReconciler) (c : Cluster) (a : KnativeAdoption) (dep : Deployment) (primary : Container) : KService :=
  { composeKService dep { a with status := { a.status with lastScaleDownProbe := guardProbe r c a } } primary with
    ownerReferences := [ownerReferenceOf a] }

/-- Whether a Knative Service is ready is told by its status. -/
def KnativeAdoptionReconciler.ByStatus (r : KnativeAdoptionReconciler) : Prop :=
  ∀ k l : KService, l.status = k.status → r.ready l = r.ready k

section Stages
variable (r : KnativeAdoptionReconciler) (c : Cluster) (a : KnativeAdoption)

theorem succeed_swapService (passes : (classifyServiceForSwap (c.services.get a.key)).decision = .pass) :
    apiserver.succeed (swapService a) c = ((removeCondition a .serviceAdoptionRefused,.ok .pass),c) := by
  have acts (svc : Option Service) (fine : (classifyServiceForSwap svc).decision = .pass) :
      swapFound a svc = pure (removeCondition a .serviceAdoptionRefused,.ok .pass) := by
    unfold swapFound
    cases verdict : classifyServiceForSwap svc with
    | pass msg => rfl
    | takenOver | refused => rw [verdict] at fine; cases fine
  unfold swapService
  refine (succeed_ask apiserver _ _ c).trans ?_
  cases held : c.services.get a.key with
  | none =>
    rw [show (apiserver.effect c (.getService a.key)).2 = .error _ from found_none held _]
    rw [held] at passes
    change apiserver.succeed (swapFound a none) c = _
    rw [acts none passes]
    rfl
  | some svc =>
    rw [show (apiserver.effect c (.getService a.key)).2 = .ok svc from found_some held _]
    rw [held] at passes
    change apiserver.succeed (swapFound a (some svc)) c = _
    rw [acts (some svc) passes]
    rfl

theorem succeed_adaptTraffic
    (converged : trafficEnabled a = true → trafficMode a = .inplace ∧
      ∀ ref ∈ trafficRefs a, AtRest (routeTarget a (livePort a c)) c ref) :
    apiserver.succeed (adaptTraffic a) c = (.ok { a with status := { a.status with
      conditions := edited (trafficEdits a) a.status.conditions
      sourceSnapshot := observedSnapshot c a
      traffic := observedTraffic a } },c) := by
  unfold adaptTraffic trafficEdits observedSnapshot observedTraffic
  cases enabled : trafficEnabled a with
  | false => rfl
  | true =>
    obtain ⟨inplace,all⟩ := converged enabled
    refine (succeed_then (succeed_reconcileTraffic c a enabled inplace all) _).trans ?_
    dsimp only
    rw [clearConditionIfReason_edit]
    rfl

theorem succeed_finishAdoption (dep : Deployment) (quiesced : dep.spec.effectiveReplicas = 0) :
    apiserver.succeed (finishAdoption a dep) c =
      ({ adoption := setReady (setCondition a .sourceQuiesced .true .sourceQuiesced "Deployment scaled to 0") .true .adopted
           "adoption complete"
         result := ⟨if guardEnabled a then guardRequeueAfter a else 0⟩ },c) := by
  have rested : apiserver.succeed (quiesceSource a dep) c = ((a,none),c) := by
    unfold quiesceSource
    rw [if_pos quiesced]
    rfl
  unfold finishAdoption
  refine (succeed_then rested _).trans ?_
  have same : guardEnabled (setReady (setCondition a .sourceQuiesced .true .sourceQuiesced "Deployment scaled to 0") .true .adopted
      "adoption complete") = guardEnabled a := rfl
  dsimp only
  rw [same]
  cases guardEnabled a <;> rfl

theorem succeed_awaitKService (dep : Deployment) (ksvc live : KService)
    (held : c.ksvcs.get ksvc.key = some live) (ready : (r.ready live).1 = true) :
    apiserver.succeed (awaitKService r a dep ksvc) c =
      apiserver.succeed (finishAdoption (setCondition { a with status := { a.status with url := (r.ready live).2 } } .serviceAdopted
        .true .knativeServiceReady "KSvc Ready") dep) c := by
  unfold awaitKService
  rw [succeed_ask,show (apiserver.effect c (.getKService ksvc.key)).2 = .ok live from found_some held _]
  dsimp only
  rw [if_pos ready]
  rfl

theorem succeed_applyKnativeService (ksvc live : KService) (owned : ksvc.ownerReferences = [ownerReferenceOf a])
    (held : c.ksvcs.get ksvc.key = some live) (sole : Sole a live) :
    apiserver.succeed (applyKnativeService ksvc) c =
      (.ok (),{ c with ksvcs := c.ksvcs.put (Cluster.appliedKService live ksvc) }) := by
  have effect : apiserver.effect c (.applyKService ksvc) =
      ({ c with ksvcs := c.ksvcs.put (Cluster.appliedKService live ksvc) },.ok ()) := by
    change c.applyKService ksvc = _
    unfold Cluster.applyKService
    rw [held]
    refine if_neg (Nat.not_lt.mpr ?_)
    change ((Cluster.mergeOwners live.ownerReferences ksvc.ownerReferences).filter (fun owner => owner.controller)).length ≤ 1
    rw [owned]
    exact sole
  unfold applyKnativeService
  rw [succeed_ask,effect]
  rfl

/-- The adoption after the apply, and once the Knative Service is found ready. -/
def served (url : String) : KnativeAdoption :=
  let b := setCondition (clearConditionIfReason a .degraded .serviceApplyFailed) .adopted .true .adopted "KnativeService applied"
  setCondition { b with status := { b.status with url := url } } .serviceAdopted .true .knativeServiceReady "KSvc Ready"

theorem succeed_applyAdopted (dep : Deployment) (ksvc live : KService) (near : ksvc.ns = a.ns)
    (held : c.ksvcs.get ksvc.key = some live) (sole : Sole a live) (byStatus : r.ByStatus) (ready : (r.ready live).1 = true) :
    apiserver.succeed (applyAdopted r a dep ksvc) c =
      apiserver.succeed (finishAdoption (served a (r.ready live).2) dep)
        { c with ksvcs := c.ksvcs.put (Cluster.appliedKService live { ksvc with ownerReferences := [ownerReferenceOf a] }) } := by
  have referenced : setControllerReference a ksvc = .ok { ksvc with ownerReferences := [ownerReferenceOf a] } := by
    unfold setControllerReference
    rw [near,if_neg (fun differ => differ rfl)]
    rfl
  have filed : c.ksvcs.get ({ ksvc with ownerReferences := [ownerReferenceOf a] } : KService).key = some live := held
  have owned : ({ ksvc with ownerReferences := [ownerReferenceOf a] } : KService).ownerReferences = [ownerReferenceOf a] := rfl
  unfold applyAdopted
  rw [referenced]
  generalize ({ ksvc with ownerReferences := [ownerReferenceOf a] } : KService) = own at *
  have key : (Cluster.appliedKService live own).key = own.key := c.ksvcs.keyed _ live filed
  have unread : r.ready (Cluster.appliedKService live own) = r.ready live := byStatus _ _ rfl
  rw [← unread] at ready ⊢
  dsimp only
  refine (succeed_then (succeed_applyKnativeService c a own live owned filed sole) _).trans ?_
  dsimp only
  refine (succeed_awaitKService r _ _ dep own (Cluster.appliedKService live own) ?_ ready).trans rfl
  rw [← key]
  exact Store.get_put_same _ _

end Stages

/-- The adoption has landed: its source is scaled down and translates, the Service of its name
is no obstacle, its traffic objects have converged, and its Knative Service is there, its own
and ready. -/
structure Landed (r : KnativeAdoptionReconciler) (c : Cluster) (a : KnativeAdoption) (dep : Deployment) (primary : Container)
    (live : KService) : Prop where
  stored : c.adoptions.get a.key = some a
  alive : a.deleting = false
  finalizers : addFinalizer (addFinalizer a.finalizers finalizerRestoreSourceService) finalizerRestoreSource = a.finalizers
  source : c.deployments.get ⟨a.ns,sourceName a⟩ = some dep
  quiesced : dep.spec.effectiveReplicas = 0
  translates : ∀ b, b.spec = a.spec → translate dep b = .ok (composeKService dep b primary)
  passes : (classifyServiceForSwap (c.services.get a.key)).decision = .pass
  routes : trafficEnabled a = true → trafficMode a = .inplace ∧
    ∀ ref ∈ trafficRefs a, AtRest (routeTarget a (livePort a c)) c ref
  held : c.ksvcs.get ⟨a.ns,sourceName a⟩ = some live
  sole : Sole a live
  ready : (r.ready live).1 = true

section Pass
variable {r : KnativeAdoptionReconciler} {c : Cluster} {a : KnativeAdoption} {dep : Deployment} {primary : Container} {live : KService}

theorem Landed.adoptTranslated (landed : Landed r c a dep primary live) (byStatus : r.ByStatus) (b : KnativeAdoption)
    (status : KnativeAdoptionStatus) (seen : b = { a with status := status }) (queue : List Decision) (ksvc : KService) (filed : ksvc.key = ⟨a.ns,sourceName a⟩) :
    apiserver.succeed (adoptTranslated r b dep ksvc) { c with queue := queue } =
      ({ adoption := { b with status := { b.status with
           conditions := edited (lateEdits b) b.status.conditions
           url := (r.ready live).2
           sourceSnapshot := observedSnapshot c b
           traffic := observedTraffic b } }
         result := ⟨if guardEnabled a then guardRequeueAfter a else 0⟩ },
        { c with
          queue := queue
          ksvcs := c.ksvcs.put (Cluster.appliedKService live { ksvc with ownerReferences := [ownerReferenceOf a] }) }) := by
  have passes : (classifyServiceForSwap (c.services.get b.key)).decision = .pass := seen ▸ landed.passes
  have routes : trafficEnabled b = true → trafficMode b = .inplace ∧
      ∀ ref ∈ trafficRefs b, AtRest (routeTarget b (livePort b c)) c ref := seen ▸ landed.routes
  have sole : Sole b live := seen ▸ landed.sole
  have owner : ownerReferenceOf a = ownerReferenceOf b := by rw [seen]; rfl
  have guard : (if guardEnabled a then guardRequeueAfter a else 0) = if guardEnabled b then guardRequeueAfter b else 0 := by
    rw [seen]
    rfl
  have ns : a.ns = b.ns := by rw [seen]
  rw [owner,guard]
  have near : ksvc.ns = b.ns := (congrArg NamespacedName.ns filed).trans ns
  unfold Ifaas.adoptTranslated
  refine (succeed_then (succeed_swapService { c with queue := queue } b passes) _).trans ?_
  refine (succeed_then (succeed_adaptTraffic { c with queue := queue } (removeCondition b .serviceAdoptionRefused) routes) _).trans ?_
  refine (succeed_applyAdopted r { c with queue := queue } _ dep ksvc live ?_ ?_ ?_ byStatus landed.ready).trans ?_
  · exact near
  · rw [filed]
    exact landed.held
  · exact sole
  · refine (succeed_finishAdoption _ _ dep landed.quiesced).trans ?_
    unfold served lateEdits
    rw [clearConditionIfReason_edit,edited_append,edited_append]
    rfl

/-- What a pass over a landed adoption does before it writes the status. -/
theorem Landed.reconcileAdoption (landed : Landed r c a dep primary live) (byStatus : r.ByStatus) (answered : Answered r c a) :
    apiserver.succeed (reconcileAdoption r a) c =
      ({ adoption := passed r c (r.ready live).2 a, result := ⟨if guardEnabled a then guardRequeueAfter a else 0⟩ },
        { c with
          queue := c.queue++handed r c a
          ksvcs := c.ksvcs.put (Cluster.appliedKService live (sent r c a dep primary)) }) := by
  have source : apiserver.succeed (getSourceDeployment a) c = (.ok (some dep),c) := by
    unfold getSourceDeployment
    rw [succeed_ask,show (apiserver.effect c (.getDeployment ⟨a.ns,sourceName a⟩)).2 = .ok dep from found_some landed.source _]
    rfl
  have guard := succeed_maybeRunGuard r c (removeCondition a .sourceMissing)
  rw [guarded_answered r c (removeCondition a .sourceMissing) answered] at guard
  have filed : dep.key = ⟨a.ns,sourceName a⟩ := c.deployments.keyed _ _ landed.source
  unfold Ifaas.reconcileAdoption
  refine (succeed_then source _).trans ?_
  refine (succeed_then guard _).trans ?_
  generalize seen : ({ removeCondition a .sourceMissing with status := { (removeCondition a .sourceMissing).status with
    conditions := edited (guardEdits r c (removeCondition a .sourceMissing)) (removeCondition a .sourceMissing).status.conditions
    lastScaleDownProbe := guardProbe r c (removeCondition a .sourceMissing) } } : KnativeAdoption) = b
  rw [landed.translates b (by rw [← seen]; rfl)]
  refine (landed.adoptTranslated byStatus (removeCondition b .translationDegraded) _ (by rw [← seen]; rfl) _ _ filed).trans ?_
  subst seen
  unfold passed passEdits
  rw [edited_append,edited_append,edited_append]
  rfl

end Pass

end Ifaas
