import Ifaas.Course

/-! Which conditions a pass sets again. The answers of a pass decide where it turns off and with
that the condition types it sets; each of these is then observed at the generation of the object,
and every other one is kept or removed. -/
namespace Ifaas
open Library

/-- The answer to the first question for a Knative Service, which is the guard's where it runs. -/
def ksvcRead (log : CallLog) : Option (Except ApiError KService) :=
  log.findSome? (fun e =>
    match e with
    | ⟨_,_,.getKService _,answer⟩ => some answer
    | _ => none)

def KnativeAdoptionReconciler.seesReady (r : KnativeAdoptionReconciler) : Option (Except ApiError KService) → Bool
  | some (.ok live) => (r.ready live).1
  | _ => false

/-- The round failed, and not for the first times. -/
def degrades (a : KnativeAdoption) (told : Round) : Bool :=
  told.failed && decide (¬ failedRounds a < (guardConfig a).failureThreshold)

def renewedByGuard (r : KnativeAdoptionReconciler) (a : KnativeAdoption) (log : CallLog) : List ConditionType :=
  if guardEnabled a && r.seesReady (ksvcRead log) then
    if degrades a (round log) then [.degraded,.scaleDownAllowed] else [.scaleDownAllowed]
  else []

/-- The Service that was taken over could not be deleted. -/
def undeleted (log : CallLog) : Bool :=
  log.any (fun e =>
    match e with
    | ⟨_,_,.deleteService _,.error err⟩ => !err.isNotFound
    | _ => false)

/-- The answer to the apply. -/
def applyAnswer (log : CallLog) : Option (Except ApiError Unit) :=
  log.findSome? (fun e =>
    match e with
    | ⟨_,_,.applyKService _,answer⟩ => some answer
    | _ => none)

/-- From the answer to the apply on, and from what is read back. -/
def renewedAtEnd (r : KnativeAdoptionReconciler) :
    Option (Except ApiError Unit) → Option (Except ApiError KService) → List ConditionType
  | none,_ => []
  | some (.error _),_ => [.degraded]
  | some (.ok _),some (.ok live) => if (r.ready live).1 then [.adopted,.serviceAdopted,.sourceQuiesced] else [.adopted,.serviceAdopted]
  | some (.ok _),_ => [.adopted]

/-- The conditions that a pass with these answers sets, Ready apart. -/
def renewed (r : KnativeAdoptionReconciler) (a : KnativeAdoption) (log : CallLog) : List ConditionType :=
  match turn a log with
  | .sourceUnread => []
  | .sourceMissing => [.sourceMissing,.adopted]
  | .untranslated => [.translationDegraded,.adopted]++renewedByGuard r a log
  | .serviceUnread => renewedByGuard r a log
  | .serviceRefused => [.serviceAdoptionRefused,.serviceAdopted,.adopted]++renewedByGuard r a log
  | .serviceTakenOver => (if undeleted log then [.serviceAdopted,.degraded] else [.serviceAdopted])++renewedByGuard r a log
  | .unrouted => [.trafficReady,.trafficDegraded]++renewedByGuard r a log
  | .applied => renewedAtEnd r (applyAnswer log) (lastKService log)++
      ((if trafficEnabled a then [.trafficReady] else [])++renewedByGuard r a log)

/-- The conditions of these types are set for the generation of the object, the others are kept
or removed. -/
structure Stamped (types : List ConditionType) (a b : KnativeAdoption) : Prop where
  generation : b.generation = a.generation
  set : ∀ t ∈ types, ∃ c, findStatusCondition b.status.conditions t = some c ∧ c.observedGeneration = a.generation
  kept : ∀ t, t ∉ types → findStatusCondition b.status.conditions t = findStatusCondition a.status.conditions t ∨
    findStatusCondition b.status.conditions t = none

theorem Stamped.refl (a : KnativeAdoption) : Stamped [] a a := ⟨rfl,nofun,fun _ _ => Or.inl rfl⟩

section Stamps
variable {types : List ConditionType} {a b : KnativeAdoption} (stamped : Stamped types a b)
include stamped

theorem Stamped.same (c : KnativeAdoption) (generation : c.generation = b.generation)
    (conditions : c.status.conditions = b.status.conditions) : Stamped types a c := by
  refine ⟨generation.trans stamped.generation,fun t member => ?_,fun t other => ?_⟩
  · rw [conditions]
    exact stamped.set t member
  · rw [conditions]
    exact stamped.kept t other

theorem Stamped.setCondition (t : ConditionType) (s : ConditionStatus) (reason : Reason) (msg : String) :
    Stamped (t::types) a (setCondition b t s reason msg) := by
  refine ⟨stamped.generation,fun u member => ?_,fun u other => ?_⟩
  · rw [Ifaas.setCondition,KnativeAdoption.withConditions_conditions,find_set]
    split
    · exact ⟨_,rfl,stamped.generation⟩
    next away => exact stamped.set u ((List.mem_cons.mp member).resolve_left away)
  · obtain ⟨away,outside⟩ := not_or.mp (mt List.mem_cons.mpr other)
    rw [Ifaas.setCondition,KnativeAdoption.withConditions_conditions,find_set,if_neg away]
    exact stamped.kept u outside

theorem Stamped.removeCondition (t : ConditionType) (outside : t ∉ types) : Stamped types a (removeCondition b t) := by
  refine ⟨stamped.generation,fun u member => ?_,fun u other => ?_⟩
  · rw [Ifaas.removeCondition,KnativeAdoption.withConditions_conditions,find_remove,
      if_neg (fun same : u = t => outside (same ▸ member))]
    exact stamped.set u member
  · rw [Ifaas.removeCondition,KnativeAdoption.withConditions_conditions,find_remove]
    split
    · exact Or.inr rfl
    · exact stamped.kept u other

theorem Stamped.cleared (t : ConditionType) (reason : Reason)
    (spared : t ∈ types → ∀ c, findStatusCondition b.status.conditions t = some c → c.reason ≠ reason) :
    Stamped types a (clearConditionIfReason b t reason) := by
  unfold clearConditionIfReason
  split
  · exact stamped
  next c held =>
    split
    next same => exact stamped.removeCondition t (fun member => spared member c held same)
    · exact stamped

end Stamps

/-! The guard. -/

theorem stamped_maybeMarkDegraded {types : List ConditionType} {a b : KnativeAdoption} (stamped : Stamped types a b)
    (threshold : Int) (probe : ProbeStatus) (held : b.status.lastScaleDownProbe = some probe) :
    Stamped (if probe.consecutiveErrors < threshold then types else .degraded::types) a (maybeMarkDegraded b threshold) := by
  unfold maybeMarkDegraded
  rw [held]
  dsimp only
  split
  · exact stamped
  · exact stamped.setCondition _ _ _ _

theorem stamped_unlisted (a b : KnativeAdoption) (stamped : Stamped [] a b) (err : ApiError) :
    Stamped (if degrades b .unlisted then [.degraded,.scaleDownAllowed] else [.scaleDownAllowed]) a (unlisted b err) := by
  have set := (stamped.same (bumpProbeError b ("list pods: " ++ err.message)) rfl rfl).setCondition .scaleDownAllowed .unknown
    .scaleDownProbeError err.message
  have marked := stamped_maybeMarkDegraded set (guardConfig b).failureThreshold _ rfl
  change Stamped (if failedRounds b < (guardConfig b).failureThreshold then _ else _) a (unlisted b err) at marked
  by_cases few : failedRounds b < (guardConfig b).failureThreshold
  · simpa [degrades,Round.failed,few] using marked
  · simpa [degrades,Round.failed,few] using marked

theorem stamped_recorded (a b : KnativeAdoption) (stamped : Stamped [] a b) (outcome : ScaleDown.Outcome) (msg : String) :
    Stamped [.scaleDownAllowed] a (recorded b outcome msg) := by
  cases outcome with
  | block => exact stamped.setCondition _ _ _ _
  | allowZero => exact (stamped.setCondition _ _ _ _).cleared _ _ (fun member => absurd member (by decide))
  | noPods => exact (stamped.setCondition _ _ _ _).cleared _ _ (fun member => absurd member (by decide))

/-- The failures counted after a vote. -/
theorem voted_count (b : KnativeAdoption) (results : List ScaleDown.Result) :
    (mergeProbeStatus b.status.lastScaleDownProbe (ScaleDown.vote results) (roundMessage results)
      ((ScaleDown.tally results).errored > 0)).consecutiveErrors =
      if (ScaleDown.tally results).errored > 0 then failedRounds b else 0 := by
  by_cases failed : (ScaleDown.tally results).errored > 0
  · simp only [mergeProbeStatus,failed,decide_true,if_true,failedRounds]
    cases b.status.lastScaleDownProbe <;> rfl
  · simp only [mergeProbeStatus,failed,decide_false,if_false]

theorem stamped_voted (a b : KnativeAdoption) (stamped : Stamped [] a b) (results : List ScaleDown.Result) :
    Stamped (if degrades b (.probed results) then [.degraded,.scaleDownAllowed] else [.scaleDownAllowed]) a (voted b results) := by
  generalize probed : b.withProbe (mergeProbeStatus b.status.lastScaleDownProbe (ScaleDown.vote results) (roundMessage results)
    ((ScaleDown.tally results).errored > 0)) = x
  have set := stamped_recorded a x (stamped.same x (probed ▸ rfl) (probed ▸ rfl)) (ScaleDown.vote results) (roundMessage results)
  have held : (recorded x (ScaleDown.vote results) (roundMessage results)).status.lastScaleDownProbe =
      some (mergeProbeStatus b.status.lastScaleDownProbe (ScaleDown.vote results) (roundMessage results)
        ((ScaleDown.tally results).errored > 0)) := by
    obtain ⟨_,same⟩ := sameButConditions_recorded x (ScaleDown.vote results) (roundMessage results)
    rw [same,← probed]
    rfl
  have marked := stamped_maybeMarkDegraded set (guardConfig b).failureThreshold _ held
  rw [voted_count b results] at marked
  have whole : voted b results = maybeMarkDegraded (recorded x (ScaleDown.vote results) (roundMessage results))
      (guardConfig b).failureThreshold := by
    rw [← probed]
    rfl
  rw [whole]
  by_cases failed : (ScaleDown.tally results).errored > 0
  · by_cases few : failedRounds b < (guardConfig b).failureThreshold <;> simpa [degrades,Round.failed,failed,few] using marked
  · simpa [degrades,Round.failed,failed,threshold_positive b] using marked

/-- A Degraded that the guard set is not for a failed apply. -/
def Blameless (types : List ConditionType) (b : KnativeAdoption) : Prop :=
  .degraded ∈ types → standing b .degraded = some .scaleDownProbeError

theorem Blameless.reason {types : List ConditionType} {b : KnativeAdoption} (spares : Blameless types b) (member : .degraded ∈ types)
    (c : Condition) (held : findStatusCondition b.status.conditions .degraded = some c) : c.reason ≠ .serviceApplyFailed := by
  have stands := spares member
  unfold standing at stands
  rw [held] at stands
  dsimp only at stands
  split at stands
  · intro same
    rw [same] at stands
    cases stands
  · cases stands

theorem degradedAfter_degrades (a : KnativeAdoption) (told : Round) (failing : degrades a told = true) :
    degradedAfter a told = some .scaleDownProbeError := by
  obtain ⟨failed,many⟩ := Bool.and_eq_true_iff.mp failing
  have blamed : degradedByFailure a = some .scaleDownProbeError := if_neg (of_decide_eq_true many)
  cases told with
  | skipped => cases failed
  | unlisted => exact blamed
  | probed results => exact (if_pos (of_decide_eq_true failed)).trans blamed

theorem Rounded.stamps {a x b : KnativeAdoption} {told : Round} (rounded : Rounded x told b) (stamped : Stamped [] a x) :
    Stamped (if degrades x told then [.degraded,.scaleDownAllowed] else [.scaleDownAllowed]) a b ∧
      Blameless (if degrades x told then [.degraded,.scaleDownAllowed] else [.scaleDownAllowed]) b := by
  refine ⟨?_,fun member => ?_⟩
  · cases rounded with
    | unlisted err => exact stamped_unlisted a x stamped err
    | probed results => exact stamped_voted a x stamped results
  · rw [rounded.degraded]
    refine degradedAfter_degrades x told ?_
    by_contra calm
    rw [if_neg calm] at member
    exact absurd member (by decide)

section Guard
variable {env : Cluster → Cluster → Prop}

theorem run_runScaleDownGuard_stamps (r : KnativeAdoptionReconciler) (a b x : KnativeAdoption) (stamped : Stamped [] a x)
    (outcome : ScaleDown.Outcome) (after : Int) (c d : Cluster) (log : CallLog)
    (run : Run apiserver env (runScaleDownGuard r x) c log (some (b,outcome,after)) d) :
    Stamped (if degrades x (round log) then [.degraded,.scaleDownAllowed] else [.scaleDownAllowed]) a b ∧
      Blameless (if degrades x (round log) then [.degraded,.scaleDownAllowed] else [.scaleDownAllowed]) b := by
  cases prober : r.prober with
  | false =>
    unfold runScaleDownGuard at run
    simp only [prober,Bool.not_false,if_true] at run
    obtain ⟨rfl,-,⟨⟩⟩ := run_return run
    have calm : degrades x (round []) = false := rfl
    rw [calm]
    exact ⟨stamped.setCondition _ _ _ _,fun member => absurd member (by decide)⟩
  | true => exact (rounded_runScaleDownGuard env r x b outcome after _ _ log prober run).stamps stamped

theorem run_maybeRunGuard_stamps (r : KnativeAdoptionReconciler) (a b x : KnativeAdoption) (stamped : Stamped [] a x)
    (c d : Cluster) (log : CallLog) (run : Run apiserver env (maybeRunGuard r x) c log (some b) d) :
    Stamped (renewedByGuard r x log) a b ∧ Blameless (renewedByGuard r x log) b := by
  have untouched (skipped : renewedByGuard r x log = []) : Stamped (renewedByGuard r x log) a x ∧
      Blameless (renewedByGuard r x log) x := by
    rw [skipped]
    exact ⟨stamped,fun member => absurd member List.not_mem_nil⟩
  unfold maybeRunGuard at run
  cases enabled : guardEnabled x with
  | false =>
    simp only [enabled,Bool.not_false,if_true] at run
    obtain ⟨rfl,-,⟨⟩⟩ := run_return run
    exact untouched (by simp [renewedByGuard,enabled])
  | true =>
    simp only [enabled,Bool.not_true,Bool.false_eq_true,if_false] at run
    obtain ⟨response,before,fault,m,rest,-,-,rfl,following⟩ := run_ask run
    cases response with
    | error err =>
      obtain ⟨rfl,-,⟨⟩⟩ := run_return following
      exact untouched (by simp [renewedByGuard,ksvcRead,KnativeAdoptionReconciler.seesReady])
    | ok live =>
      cases ready : (r.ready live).1 with
      | false =>
        simp only [ready,Bool.false_eq_true,if_false] at following
        obtain ⟨rfl,-,⟨⟩⟩ := run_return following
        exact untouched (by simp [renewedByGuard,ksvcRead,KnativeAdoptionReconciler.seesReady,ready])
      | true =>
        simp only [ready,if_true] at following
        obtain ⟨⟨marked,outcome,after⟩,e,second,last,rfl,guarded,ended⟩ := run_bind_some following
        obtain ⟨rfl,rfl,⟨⟩⟩ := run_return ended
        have looked : renewedByGuard r x ([⟨before,fault,.getKService x.key,.ok live⟩]++(second++[])) =
            if degrades x (round second) then [.degraded,.scaleDownAllowed] else [.scaleDownAllowed] := by
          rw [List.append_nil]
          unfold renewedByGuard
          rw [enabled,show ksvcRead ([⟨before,fault,.getKService x.key,.ok live⟩]++second) = some (.ok live) from rfl,
            show round ([⟨before,fault,.getKService x.key,.ok live⟩]++second) = round second from rfl]
          simp [KnativeAdoptionReconciler.seesReady,ready]
        rw [looked]
        exact run_runScaleDownGuard_stamps r a marked x stamped outcome after _ _ second guarded

end Guard

/-! The stages after the guard. -/

theorem stamped_setReady {types : List ConditionType} {a b : KnativeAdoption} (stamped : Stamped types a b)
    (s : ConditionStatus) (reason : Reason) (msg : String) : Stamped (.ready::types) a (setReady b s reason msg) :=
  stamped.setCondition _ _ _ _

/-- The pass stamps what its answers say. -/
def Stamps (r : KnativeAdoptionReconciler) (a : KnativeAdoption) (log : CallLog) (b : KnativeAdoption) : Prop :=
  ∃ types, Stamped types a b ∧ ∀ t, t ≠ .ready → (t ∈ types ↔ t ∈ renewed r a log)

theorem adaptTraffic_stamps (x : KnativeAdoption) : (adaptTraffic x).Returns (fun result =>
    (∀ ended, result = .error ended → ∀ types a, Stamped types a x →
      Stamped (.ready::.trafficDegraded::.trafficReady::types) a ended.adoption) ∧
    ∀ next, result = .ok next → ∀ types a, Stamped types a x → .trafficReady ∉ types → .trafficDegraded ∉ types →
      Stamped ((if trafficEnabled x then [.trafficReady] else [])++types) a next ∧
        standing next .degraded = standing x .degraded) := by
  unfold adaptTraffic
  split
  next enabled =>
    refine Program.returns_bind _ (returns_reconcileTraffic trafficAlong_sameFace x) (fun result face => ?_)
    obtain ⟨b,outcome⟩ := result
    have generation : b.generation = x.generation := congrArg ObjectMeta.generation face.metadata
    cases outcome with
    | some err =>
      refine ⟨fun ended equal types a stamped => ?_,fun _ equal => by cases equal⟩
      cases equal
      exact stamped_setReady (((stamped.same b generation face.conditions).setCondition _ _ _ _).setCondition _ _ _ _) _ _ _
    | none =>
      refine ⟨fun _ equal => (by cases equal),fun next equal types a stamped unready undegraded => ?_⟩
      cases equal
      have set := (stamped.same b generation face.conditions).setCondition .trafficReady .true .trafficReady
        "traffic adaptation reconciled"
      refine ⟨?_,?_⟩
      · refine set.cleared .trafficDegraded .trafficReconcileFailed (fun member => absurd member ?_)
        simp [undegraded]
      · rw [standing_clearConditionIfReason,Function.update_of_ne (by decide),standing_setCondition,
          Function.update_of_ne (by decide),standing_conditions x b face.conditions]
  next disabled =>
    refine ⟨fun _ equal => (by cases equal),fun next equal types a stamped unready undegraded => ?_⟩
    cases equal
    refine ⟨?_,?_⟩
    · exact (stamped.removeCondition _ unready).removeCondition _ undegraded
    · rw [standing_removeCondition,Function.update_of_ne (by decide),standing_removeCondition,Function.update_of_ne (by decide)]

theorem finishAdoption_stamps (x : KnativeAdoption) (dep : Deployment) : (finishAdoption x dep).Returns (fun done =>
    ∀ types a, Stamped types a x → Stamped (.ready::.sourceQuiesced::types) a done.adoption) := by
  have quiesced : (quiesceSource x dep).Returns (fun result => SameFace x result.1) := by
    have face : SameFace x (snapshotReplicas x dep.spec.effectiveReplicas) := by
      unfold snapshotReplicas
      split
      · exact .refl x
      · exact ⟨⟨rfl,rfl⟩,rfl⟩
    unfold quiesceSource
    split
    · exact .refl x
    · refine Program.returns_bind _ (Program.returns_true _) (fun answer _ => ?_)
      cases answer <;> exact face
  unfold finishAdoption
  refine Program.returns_bind _ quiesced (fun result face => ?_)
  obtain ⟨b,err⟩ := result
  have set (s : ConditionStatus) (reason : Reason) (msg : String) (ready : ConditionStatus) (why : Reason) (words : String)
      (types : List ConditionType) (a : KnativeAdoption) (stamped : Stamped types a x) :
      Stamped (.ready::.sourceQuiesced::types) a
        (setReady (setCondition b .sourceQuiesced s reason msg) ready why words) :=
    stamped_setReady ((stamped.same b (congrArg ObjectMeta.generation face.metadata) face.conditions).setCondition _ _ _ _) _ _ _
  cases err with
  | some err => exact set _ _ _ _ _ _
  | none =>
    dsimp only
    split <;> exact set _ _ _ _ _ _

theorem uses_finishAdoption (x : KnativeAdoption) (dep : Deployment) :
    (finishAdoption x dep).Uses (fun q => ∃ key n, q = .applyReplicas key n) := by
  refine Program.uses_bind ?_ (fun result => ?_)
  · unfold quiesceSource
    split
    · trivial
    · refine Program.uses_bind (Program.uses_request ⟨_,_,rfl⟩) (fun answer => ?_)
      cases answer <;> trivial
  · obtain ⟨c,_ | err⟩ := result
    · dsimp only
      split <;> trivial
    · trivial

theorem lastKService_append (front log : CallLog) : lastKService (front++log) = (lastKService log).or (lastKService front) := by
  unfold lastKService
  rw [List.reverse_append,List.findSome?_append]

theorem lastKService_read (front log : CallLog) (before : Cluster) (fault : Fault String) (key : NamespacedName)
    (answer : Except ApiError KService) (scaled : ∀ e ∈ log, ∃ key n, e.request = .applyReplicas key n) :
    lastKService (front++([⟨before,fault,.getKService key,answer⟩]++log)) = some answer := by
  have silent : lastKService log = none := by
    refine List.findSome?_eq_none_iff.mpr (fun e member => ?_)
    obtain ⟨key,n,asks⟩ := scaled e (List.mem_reverse.mp member)
    obtain ⟨at_,failed,request,answer⟩ := e
    cases asks
    rfl
  rw [lastKService_append,lastKService_append,silent]
  rfl

section Apply
variable {env : Cluster → Cluster → Prop}

/-- The conditions set from the apply on. -/
theorem run_applyAdopted_stamps (r : KnativeAdoptionReconciler) (a x : KnativeAdoption) (dep : Deployment) (ksvc : KService)
    (together : x.ns = ksvc.ns) (types : List ConditionType) (stamped : Stamped types a x) (spares : Blameless types x)
    (c d : Cluster) (front log : CallLog) (done : Reconciled)
    (run : Run apiserver env (applyAdopted r x dep ksvc) c log (some done) d) :
    ∃ more, Stamped (more++types) a done.adoption ∧
      ∀ t, t ≠ .ready → (t ∈ more ↔ t ∈ renewedAtEnd r (applyAnswer log) (lastKService (front++log))) := by
  unfold applyAdopted setControllerReference at run
  rw [if_neg (not_not.mpr together)] at run
  dsimp only at run
  obtain ⟨outcome,m,first,rest,rfl,applying,ended⟩ := run_bind_some run
  cases run_applyKnativeService _ _ _ _ _ applying with
  | failed before fault err =>
    obtain ⟨rfl,-,⟨⟩⟩ := run_return ended
    refine ⟨[.ready,.degraded],stamped_setReady (stamped.setCondition _ _ _ _) _ _ _,fun t other => ?_⟩
    change t ∈ [.ready,.degraded] ↔ t ∈ [.degraded]
    simp [other]
  | stored before fault =>
    have applied := (stamped.cleared .degraded .serviceApplyFailed spares.reason).setCondition .adopted .true .adopted
      "KnativeService applied"
    generalize setCondition (clearConditionIfReason x .degraded .serviceApplyFailed) .adopted .true .adopted
      "KnativeService applied" = y at applied ended
    unfold awaitKService at ended
    obtain ⟨response,at_,failed,k,last,-,-,rfl,following⟩ := run_ask ended
    rw [← List.append_assoc front]
    cases response with
    | error err =>
      obtain ⟨rfl,-,⟨⟩⟩ := run_return following
      refine ⟨[.adopted],applied,fun t _ => ?_⟩
      rw [lastKService_read _ [] _ _ _ _ (fun e member => absurd member List.not_mem_nil)]
      rfl
    | ok live =>
      have located : Stamped (.adopted::types) a { y with status := { y.status with url := (r.ready live).2 } } :=
        applied.same _ rfl rfl
      cases ready : (r.ready live).1 with
      | false =>
        simp only [ready,Bool.false_eq_true,if_false] at following
        obtain ⟨rfl,-,⟨⟩⟩ := run_return following
        refine ⟨[.ready,.serviceAdopted,.adopted],stamped_setReady (located.setCondition _ _ _ _) _ _ _,fun t other => ?_⟩
        rw [lastKService_read _ [] _ _ _ _ (fun e member => absurd member List.not_mem_nil)]
        change _ ↔ t ∈ if (r.ready live).1 then _ else _
        simp [ready,other,or_comm]
      | true =>
        simp only [ready,if_true] at following
        have scaled := run_uses (uses_finishAdoption _ dep) following
        have finished := run_returns (finishAdoption_stamps _ dep) following _ a (located.setCondition
          .serviceAdopted .true .knativeServiceReady "KSvc Ready")
        refine ⟨[.ready,.sourceQuiesced,.serviceAdopted,.adopted],finished,fun t other => ?_⟩
        rw [lastKService_read _ last _ _ _ _ scaled]
        change _ ↔ t ∈ if (r.ready live).1 then _ else _
        simp only [ready,if_true,List.mem_cons,other,List.not_mem_nil,false_or,or_false]
        tauto

end Apply

/-! The whole pass. -/

theorem mem_renewedByGuard (r : KnativeAdoptionReconciler) (a : KnativeAdoption) (log : CallLog) (t : ConditionType)
    (member : t ∈ renewedByGuard r a log) : t = .degraded ∨ t = .scaleDownAllowed := by
  unfold renewedByGuard at member
  split at member
  · split at member <;> simp_all
  · exact absurd member List.not_mem_nil

theorem applyAnswer_front (front log : CallLog) (unsent : ∀ e ∈ front, e.request.part ≠ some .ksvcs) :
    applyAnswer (front++log) = applyAnswer log := by
  have silent : applyAnswer front = none := by
    refine List.findSome?_eq_none_iff.mpr (fun e member => ?_)
    have other := unsent e member
    obtain ⟨before,fault,request,answer⟩ := e
    cases request with
    | applyKService ksvc => exact absurd rfl other
    | _ => rfl
  unfold applyAnswer at silent ⊢
  rw [List.findSome?_append,silent]
  rfl

theorem undeleted_calm (log : CallLog) (calm : Calm [] log) : undeleted log = false := by
  refine List.any_eq_false.mpr (fun e member => ?_)
  obtain ⟨before,fault,request,answer⟩ := e
  cases request with
  | deleteService key => exact absurd (calm _ member .services rfl) List.not_mem_nil
  | _ => simp

section Whole
variable {env : Cluster → Cluster → Prop}

theorem run_maybeRunGuard_read (r : KnativeAdoptionReconciler) (x b : KnativeAdoption) (enabled : guardEnabled x = true)
    (c d : Cluster) (log : CallLog) (run : Run apiserver env (maybeRunGuard r x) c log (some b) d) :
    ∃ answer, ksvcRead log = some answer := by
  unfold maybeRunGuard at run
  simp only [enabled,Bool.not_true,Bool.false_eq_true,if_false] at run
  obtain ⟨response,before,fault,m,rest,-,-,rfl,-⟩ := run_ask run
  exact ⟨response,rfl⟩

/-- What the guard sets is told by its own part of the calls. -/
theorem renewedByGuard_whole (r : KnativeAdoptionReconciler) (a b : KnativeAdoption) (before c d : Cluster) (fault : Fault String)
    (dep : Deployment) (guard rest : CallLog) (quiet : ∀ e ∈ rest, e.request.asksPods = false)
    (run : Run apiserver env (maybeRunGuard r (removeCondition a .sourceMissing)) c guard (some b) d) :
    renewedByGuard r a ([⟨before,fault,.getDeployment (sourceKey a),.ok dep⟩]++guard++rest) =
      renewedByGuard r (removeCondition a .sourceMissing) guard := by
  have told : round ([⟨before,fault,.getDeployment (sourceKey a),.ok dep⟩]++guard++rest) = round guard := by
    rw [round_append _ rest quiet]
    rfl
  unfold renewedByGuard
  rw [told]
  change (if guardEnabled a && _ then if degrades a (round guard) then _ else _ else _) =
    if guardEnabled a && _ then if degrades a (round guard) then _ else _ else _
  cases enabled : guardEnabled a with
  | false => rfl
  | true =>
    obtain ⟨answer,read⟩ := run_maybeRunGuard_read r (removeCondition a .sourceMissing) b enabled _ _ guard run
    have first : ksvcRead ([⟨before,fault,.getDeployment (sourceKey a),.ok dep⟩]++guard++rest) = ksvcRead guard := by
      unfold ksvcRead at read ⊢
      rw [List.findSome?_append,List.findSome?_append,read]
      rfl
    rw [first]

/-- From the traffic stage on. -/
theorem Opened.stamps_applied {a b next : KnativeAdoption} {dep : Deployment} {front traffic last : CallLog}
    (opened : Opened a b dep front) (r : KnativeAdoptionReconciler) (ksvc : KService) (accepted : translate dep b = .ok ksvc)
    (filed : ksvc.key = sourceKey a) {e : Event Request Response String Cluster} {found : Option Service}
    (asks : Asks (removeCondition b .translationDegraded) e found) (passes : (classifyServiceForSwap found).decision = .pass)
    {m n d : Cluster} {done : Reconciled}
    (adapting : Run apiserver env (adaptTraffic (removeCondition (removeCondition b .translationDegraded)
      .serviceAdoptionRefused)) m traffic (some (.ok next)) n)
    (applying : Run apiserver env (applyAdopted r next dep ksvc) n last (some done) d) {types : List ConditionType}
    (guards : renewedByGuard r a (front++([e]++(traffic++last))) = types)
    (passed : Stamped types a (removeCondition (removeCondition b .translationDegraded) .serviceAdoptionRefused))
    (spares : Blameless types b) (within : ∀ t ∈ types, t = .degraded ∨ t = .scaleDownAllowed) :
    Stamps r a (front++([e]++(traffic++last))) done.adoption := by
  have outside (t : ConditionType) (away : t ≠ .degraded) (apart : t ≠ .scaleDownAllowed) : t ∉ types :=
    fun member => (within t member).elim away apart
  obtain ⟨-,goes⟩ := run_returns (adaptTraffic_stamps _) adapting
  obtain ⟨routed,stands⟩ := goes next rfl types a passed (outside _ (by decide) (by decide)) (outside _ (by decide) (by decide))
  have together : next.ns = ksvc.ns := (opened.object_routed adapting).ns_filed filed
  have enabled : trafficEnabled (removeCondition (removeCondition b .translationDegraded) .serviceAdoptionRefused) =
      trafficEnabled a := trafficEnabled_spec a _ opened.object.spec
  rw [enabled] at routed
  have unblamed : Blameless ((if trafficEnabled a then [.trafficReady] else [])++types) next := by
    intro member
    rw [stands,standing_removeCondition,Function.update_of_ne (by decide),standing_removeCondition,
      Function.update_of_ne (by decide)]
    refine spares ((List.mem_append.mp member).resolve_left (fun routes => ?_))
    split at routes <;> simp at routes
  obtain ⟨more,ended,same⟩ := run_applyAdopted_stamps r a next dep ksvc together _ routed unblamed _ _ (front++([e]++traffic))
    last done applying
  obtain ⟨before,fault,answer,tail,-,sent,ending⟩ := run_applyAdopted_sends r next dep ksvc together _ _ last done applying
  obtain ⟨unasked,routeless,-⟩ := serviceReads_ending tail ending
  have off := opened.turn_routed ksvc accepted asks passes adapting last (by rw [sent]; exact unasked)
    (by rw [sent]; exact routeless)
  have whole : front++([e]++(traffic++last)) = (front++([e]++traffic))++last := by simp
  have unsent (x : Event Request Response String Cluster) (member : x ∈ front++([e]++traffic)) :
      x.request.part ≠ some .ksvcs :=
    fun stored => absurd (opened.calm_routed asks adapting x member _ stored) (by simp)
  refine ⟨_,ended,fun t other => ?_⟩
  unfold renewed
  rw [off,guards,whole,applyAnswer_front _ last unsent]
  simp only [Except.isOk,Except.toBool,if_true,List.mem_append,same t other]

theorem Opened.stamps {a b : KnativeAdoption} {dep : Deployment} {front : CallLog} (opened : Opened a b dep front)
    (r : KnativeAdoptionReconciler) (ksvc : KService) (accepted : translate dep b = .ok ksvc) (filed : ksvc.key = sourceKey a)
    (c d : Cluster) (log : CallLog) (done : Reconciled) (stamped : Stamped (renewedByGuard r a (front++log)) a b)
    (spares : Blameless (renewedByGuard r a (front++log)) b)
    (within : ∀ t ∈ renewedByGuard r a (front++log), t = .degraded ∨ t = .scaleDownAllowed)
    (adopting : Adopting env r (removeCondition b .translationDegraded) dep ksvc c d log done) :
    Stamps r a (front++log) done.adoption := by
  have outside (t : ConditionType) (away : t ≠ .degraded) (apart : t ≠ .scaleDownAllowed) :
      t ∉ renewedByGuard r a (front++log) := fun member => (within t member).elim away apart
  have begun := stamped.removeCondition .translationDegraded (outside _ (by decide) (by decide))
  generalize guards : renewedByGuard r a (front++log) = types at stamped spares within outside begun
  cases adopting with
  | unread before fault err wrapped real =>
    refine ⟨_,stamped_setReady begun _ _ _,fun t other => ?_⟩
    unfold renewed
    rw [opened.turn_unread ksvc accepted before fault _ err real]
    simp [other,guards]
  | refused e found asks reason msg verdict =>
    refine ⟨_,stamped_setReady (((begun.setCondition _ _ _ _).setCondition _ _ _ _).setCondition _ _ _ _) _ _ _,
      fun t other => ?_⟩
    unfold renewed
    rw [opened.turn_refused ksvc accepted asks reason msg verdict]
    simp only [guards,List.mem_cons,List.mem_append,List.not_mem_nil,other,false_or,or_false]
    tauto
  | taken e svc asks verdict before fault answer gone =>
    have swapping := (begun.removeCondition .serviceAdoptionRefused (outside _ (by decide) (by decide))).setCondition
      .serviceAdopted .false .serviceSwapping "deleting pre-existing same-name Service before creating KSvc"
    have deleted : undeleted (front++[e,⟨before,fault,.deleteService svc.key,answer⟩]) = false := by
      rw [show front++[e,⟨before,fault,.deleteService svc.key,answer⟩] = (front++[e])++[_] from
        (List.append_assoc front [e] [_]).symm]
      unfold undeleted
      rw [List.any_append,show (front++[e]).any _ = false from undeleted_calm _ (opened.calm.append asks.calm)]
      cases answer with
      | ok done => rfl
      | error err => simp [gone err rfl]
    refine ⟨_,swapping.same (snapshotService (serviceSwapping (removeCondition b .translationDegraded)) svc) rfl rfl,
      fun t _ => ?_⟩
    unfold renewed
    rw [opened.turn_taken ksvc accepted asks verdict]
    simp [guards,deleted]
  | undeleted e svc asks verdict before fault err wrapped real =>
    have swapping := (begun.removeCondition .serviceAdoptionRefused (outside _ (by decide) (by decide))).setCondition
      .serviceAdopted .false .serviceSwapping "deleting pre-existing same-name Service before creating KSvc"
    have kept : undeleted (front++[e,⟨before,fault,.deleteService svc.key,.error err⟩]) = true :=
      List.any_eq_true.mpr ⟨⟨before,fault,.deleteService svc.key,.error err⟩,by simp,by simp [real]⟩
    refine ⟨_,stamped_setReady ((swapping.same (snapshotService (serviceSwapping (removeCondition b .translationDegraded)) svc)
      rfl rfl).setCondition .degraded .true .serviceSwapDeleteFail wrapped.message) _ _ _,fun t other => ?_⟩
    unfold renewed
    rw [opened.turn_taken ksvc accepted asks verdict]
    simp only [guards,kept,if_true,List.mem_cons,List.mem_append,List.not_mem_nil,other,false_or,or_false]
    tauto
  | unrouted e found asks passes n traffic ended adapting =>
    have passed := begun.removeCondition .serviceAdoptionRefused (outside _ (by decide) (by decide))
    obtain ⟨fails,-⟩ := run_returns (adaptTraffic_stamps _) adapting
    have off := opened.turn_routed ksvc accepted asks passes adapting [] rfl rfl
    rw [List.append_nil] at off
    refine ⟨_,fails _ rfl _ a passed,fun t other => ?_⟩
    unfold renewed
    rw [off]
    simp only [Except.isOk,Except.toBool,Bool.false_eq_true,if_false,guards,List.mem_cons,List.mem_append,List.not_mem_nil,other,
      false_or,or_false]
    tauto
  | applied e found asks passes n o traffic last next done swapping adapting applying =>
    have passed := begun.removeCondition .serviceAdoptionRefused (outside _ (by decide) (by decide))
    exact opened.stamps_applied r ksvc accepted filed asks passes adapting applying guards passed spares within

theorem run_reconcileAdoption_stamps (r : KnativeAdoptionReconciler) (a : KnativeAdoption) (c d : Cluster) (log : CallLog)
    (done : Reconciled) (run : Run apiserver env (reconcileAdoption r a) c log (some done) d) : Stamps r a log done.adoption := by
  have fresh := Stamped.refl a
  cases opening_of_run r a c d log done run with
  | unread before fault err real =>
    refine ⟨_,stamped_setReady fresh _ _ _,fun t other => ?_⟩
    unfold renewed
    rw [turn_sourceUnread a before fault err real]
    simp [other]
  | missing before fault err gone =>
    refine ⟨_,stamped_setReady ((fresh.setCondition _ _ _ _).setCondition _ _ _ _) _ _ _,fun t other => ?_⟩
    unfold renewed
    rw [turn_sourceMissing a before fault err gone]
    simp [other,or_comm]
  | found before m k fault dep filed b guard rest done asked guarded adopting =>
    have opened := opened_of_guard r a b before m k fault dep guard guarded
    have quiet := run_uses (quiet_adopts r b dep) adopting
    have whole := renewedByGuard_whole r a b before m k fault dep guard rest quiet guarded
    obtain ⟨stamped,spares⟩ := run_maybeRunGuard_stamps r a b _ (fresh.removeCondition .sourceMissing List.not_mem_nil) _ _ guard
      guarded
    have within := mem_renewedByGuard r (removeCondition a .sourceMissing) guard
    rw [← whole] at stamped spares within
    generalize ([⟨before,fault,.getDeployment (sourceKey a),.ok dep⟩]++guard : CallLog) = prior at *
    unfold adopts at adopting
    cases translated : translate dep b with
    | error err =>
      rw [translated] at adopting
      obtain ⟨rfl,-,⟨⟩⟩ := run_return adopting
      refine ⟨_,stamped_setReady ((stamped.setCondition _ _ _ _).setCondition _ _ _ _) _ _ _,fun t other => ?_⟩
      unfold renewed
      rw [List.append_nil,opened.turn_rejected err translated]
      simp [other,or_left_comm]
    | ok ksvc =>
      rw [translated] at adopting
      exact opened.stamps r ksvc translated ((translate_key dep b ksvc translated).trans filed) k d rest done stamped spares
        within (adopting_of_run r _ dep ksvc _ _ rest done adopting)

end Whole

end Ifaas
