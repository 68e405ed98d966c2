import Ifaas.GuardVerdict
import Ifaas.Pipeline
import Ifaas.WriteAhead

/-! Ready at the end of a pass. The failure conditions are sticky and every stage of the
pipeline refreshes its own; what Ready says after a pass is read off what stood before it,
the guard round and the call at which the pass ended. -/
namespace Ifaas
open Library

/-- What the guard of a pass was told, if it ran. -/
inductive Round where
  | skipped
  | unlisted
  | probed (results : List ScaleDown.Result)

def round (log : CallLog) : Round :=
  match podList log with
  | none => .skipped
  | some (.error _) => .unlisted
  | some (.ok _) => .probed ((probeAnswers log).map (fun answer => answer.2))

/-- The count of consecutive failed rounds after one more. -/
def failedRounds (a : KnativeAdoption) : Int :=
  match a.status.lastScaleDownProbe with
  | some probe => succ32 probe.consecutiveErrors
  | none => 1

/-- Degraded after a round that failed. -/
def degradedByFailure (a : KnativeAdoption) : Option Reason :=
  if failedRounds a < (guardConfig a).failureThreshold then standing a .degraded else some .scaleDownProbeError

def degradedAfter (a : KnativeAdoption) : Round → Option Reason
  | .skipped => standing a .degraded
  | .unlisted => degradedByFailure a
  | .probed results =>
    if (ScaleDown.tally results).errored > 0 then degradedByFailure a
    else if ScaleDown.vote results = .block then standing a .degraded
    else (standing a .degraded).filter (fun reason => reason ≠ .scaleDownProbeError)

theorem standing_maybeMarkDegraded (a : KnativeAdoption) (threshold : Int) (probe : ProbeStatus)
    (held : a.status.lastScaleDownProbe = some probe) (t : ConditionType) :
    standing (maybeMarkDegraded a threshold) t =
      if t = .degraded ∧ ¬ probe.consecutiveErrors < threshold then some .scaleDownProbeError else standing a t := by
  unfold maybeMarkDegraded
  simp only [held]
  by_cases few : probe.consecutiveErrors < threshold
  · simp [few]
  · rw [if_neg few,standing_setCondition]
    by_cases here : t = .degraded
    · subst here
      simp [few]
    · simp [here]

theorem threshold_positive (a : KnativeAdoption) : 0 < (guardConfig a).failureThreshold := by
  simp only [guardConfig,positiveOr]
  split <;> omega

theorem tally_errored (results : List ScaleDown.Result) (failed : (ScaleDown.tally results).errored > 0) :
    ScaleDown.vote results = .block := by
  rw [ScaleDown.errored_tally] at failed
  obtain ⟨r,member,erred⟩ := List.countP_pos_iff.mp failed
  refine (ScaleDown.vote_block_iff results).mpr ⟨r,member,fun confirms => ?_⟩
  rw [confirms.2] at erred
  cases erred

theorem standing_recorded (a : KnativeAdoption) (outcome : ScaleDown.Outcome) (msg : String) (t : ConditionType)
    (other : t ≠ .scaleDownAllowed) : standing (recorded a outcome msg) t =
      if t = .degraded ∧ outcome ≠ .block then (standing a .degraded).filter (fun reason => reason ≠ .scaleDownProbeError)
      else standing a t := by
  have untouched (s : ConditionStatus) (reason : Reason) (msg : String) (u : ConditionType) (away : u ≠ .scaleDownAllowed) :
      standing (setCondition a .scaleDownAllowed s reason msg) u = standing a u := by
    rw [standing_setCondition,Function.update_of_ne away]
  have cleared (msg : String) :
      standing (clearConditionIfReason (setCondition a .scaleDownAllowed .true .scaleDownAllowed msg) .degraded
        .scaleDownProbeError) t = if t = .degraded then (standing a .degraded).filter (fun reason => reason ≠ .scaleDownProbeError)
      else standing a t := by
    rw [standing_clearConditionIfReason]
    by_cases here : t = .degraded
    · subst here
      rw [Function.update_self,untouched _ _ _ _ other,if_pos rfl]
    · rw [Function.update_of_ne here,untouched _ _ _ _ other,if_neg here]
  cases outcome with
  | block => simp [recorded,untouched _ _ _ t other]
  | allowZero => simp [recorded,cleared]
  | noPods => simp [recorded,cleared]

/-- The guard touches ScaleDownAllowed and Degraded only. -/
structure GuardEffect (a b : KnativeAdoption) (log : CallLog) : Prop where
  same : SameObject a b
  others : ∀ t, t ≠ .scaleDownAllowed → t ≠ .degraded → standing b t = standing a t
  degraded : standing b .degraded = degradedAfter a (round log)

theorem unlisted_effect (a : KnativeAdoption) (err : ApiError) (t : ConditionType) (other : t ≠ .scaleDownAllowed) :
    standing (unlisted a err) t = if t = .degraded then degradedByFailure a else standing a t := by
  have before : standing (setCondition (bumpProbeError a ("list pods: " ++ err.message)) .scaleDownAllowed .unknown
      .scaleDownProbeError err.message) t = standing a t := by
    rw [standing_setCondition,Function.update_of_ne other]
    rfl
  unfold unlisted
  rw [standing_maybeMarkDegraded _ _ _ rfl,before]
  change (if t = .degraded ∧ ¬ failedRounds a < _ then _ else _) = _
  unfold degradedByFailure
  by_cases here : t = .degraded
  · subst here
    by_cases few : failedRounds a < (guardConfig a).failureThreshold <;> simp [few]
  · simp [here]

theorem voted_effect (a : KnativeAdoption) (results : List ScaleDown.Result) (t : ConditionType)
    (other : t ≠ .scaleDownAllowed) :
    standing (voted a results) t = if t = .degraded then degradedAfter a (.probed results) else standing a t := by
  have probe (x : KnativeAdoption) (outcome : ScaleDown.Outcome) (msg : String) :
      (recorded x outcome msg).status.lastScaleDownProbe = x.status.lastScaleDownProbe := by
    obtain ⟨_,same⟩ := sameButConditions_recorded x outcome msg
    rw [same]
    rfl
  have held := probe (a.withProbe (mergeProbeStatus a.status.lastScaleDownProbe (ScaleDown.vote results)
    (roundMessage results) ((ScaleDown.tally results).errored > 0))) (ScaleDown.vote results) (roundMessage results)
  unfold voted
  rw [standing_maybeMarkDegraded _ _ _ held,standing_recorded _ _ _ _ other]
  change (if _ ∧ ¬ (mergeProbeStatus _ _ _ _).consecutiveErrors < _ then _
    else if _ then (standing a .degraded).filter _ else standing a t) = _
  by_cases here : t = .degraded
  · subst here
    by_cases failed : (ScaleDown.tally results).errored > 0
    · have count : (mergeProbeStatus a.status.lastScaleDownProbe (ScaleDown.vote results) (roundMessage results)
          ((ScaleDown.tally results).errored > 0)).consecutiveErrors = failedRounds a := by
        simp only [mergeProbeStatus,failed,decide_true,failedRounds]
        cases a.status.lastScaleDownProbe <;> rfl
      rw [count,tally_errored results failed]
      by_cases few : failedRounds a < (guardConfig a).failureThreshold <;>
        simp [few,degradedAfter,degradedByFailure,failed]
    · have count : (mergeProbeStatus a.status.lastScaleDownProbe (ScaleDown.vote results) (roundMessage results)
          ((ScaleDown.tally results).errored > 0)).consecutiveErrors = 0 := by
        simp only [mergeProbeStatus,failed,decide_false]
      rw [count]
      by_cases blocked : ScaleDown.vote results = .block <;>
        simp [degradedAfter,failed,blocked,threshold_positive a]
  · simp [here]

/-- The adoption after a round of the guard. -/
inductive Rounded (a : KnativeAdoption) : Round → KnativeAdoption → Prop where
  | unlisted (err : ApiError) : Rounded a .unlisted (unlisted a err)
  | probed (results : List ScaleDown.Result) : Rounded a (.probed results) (voted a results)

theorem Rounded.degraded {a b : KnativeAdoption} {told : Round} (rounded : Rounded a told b) :
    standing b .degraded = degradedAfter a told := by
  cases rounded with
  | unlisted err =>
    rw [unlisted_effect a err _ (by decide),if_pos rfl]
    rfl
  | probed results => rw [voted_effect a results _ (by decide),if_pos rfl]

theorem Rounded.others {a b : KnativeAdoption} {told : Round} (rounded : Rounded a told b) (t : ConditionType)
    (other : t ≠ .scaleDownAllowed) (away : t ≠ .degraded) : standing b t = standing a t := by
  cases rounded with
  | unlisted err => rw [unlisted_effect a err t other,if_neg away]
  | probed results => rw [voted_effect a results t other,if_neg away]

theorem rounded_runScaleDownGuard (env : Cluster → Cluster → Prop) (r : KnativeAdoptionReconciler) (a b : KnativeAdoption)
    (outcome : ScaleDown.Outcome) (after : Int) (c d : Cluster) (log : CallLog) (prober : r.prober = true)
    (run : Run apiserver env (runScaleDownGuard r a) c log (some (b,outcome,after)) d) : Rounded a (round log) b := by
  obtain ⟨answers,heard,concludes⟩ := run_runScaleDownGuard r a b outcome after _ _ log prober run
  cases heard with
  | unlisted err refused unasked =>
    obtain ⟨rfl,-,-⟩ : b = unlisted a _ ∧ outcome = .block ∧ _ = _ := by simpa [concluded] using concludes
    unfold round
    rw [refused]
    exact .unlisted _
  | probed items listed asked =>
    obtain ⟨rfl,-,-⟩ : b = voted a _ ∧ outcome = ScaleDown.vote _ ∧ _ = _ := by simpa [concluded] using concludes
    unfold round
    rw [listed]
    exact .probed _

theorem GuardEffect.quiet (a : KnativeAdoption) (log : CallLog) (skipped : round log = .skipped) : GuardEffect a a log :=
  ⟨.refl a,fun _ _ _ => rfl,by rw [skipped]; rfl⟩

theorem run_maybeRunGuard (env : Cluster → Cluster → Prop) (r : KnativeAdoptionReconciler) (a b : KnativeAdoption)
    (c d : Cluster) (log : CallLog) (run : Run apiserver env (maybeRunGuard r a) c log (some b) d) :
    GuardEffect a b log := by
  have same : SameObject a b := (run_returns (returns_maybeRunGuard guardAlong_sameLedger r a) run).object
  rcases maybeRunGuard_cases r a b c d log run with ⟨rfl,unlisted,-⟩ | ⟨enabled,before,fault,live,rest,outcome,after,-,rfl,-,guarded⟩
  · exact .quiet b log (by unfold round; rw [unlisted])
  have told : round (apiserver.event fault before (.getKService a.key)::rest) = round rest := rfl
  cases prober : r.prober with
  | false =>
    unfold runScaleDownGuard at guarded
    simp only [prober,Bool.not_false,if_true] at guarded
    obtain ⟨rfl,-,⟨⟩⟩ := run_return guarded
    refine ⟨same,fun t other _ => ?_,?_⟩
    · rw [standing_setCondition,Function.update_of_ne other]
    · rw [standing_setCondition,Function.update_of_ne (by decide),told]
      rfl
  | true =>
    have rounded := rounded_runScaleDownGuard env r a b outcome after _ _ rest prober guarded
    exact ⟨same,rounded.others,rounded.degraded⟩

/-! The stages of the pipeline. -/

def Request.isGetService : Request → Bool
  | .getService _ => true
  | _ => false

/-- What stands after the traffic stage let the pass go on. -/
def trafficStanding (enabled : Bool) (stands : ConditionType → Option Reason) : ConditionType → Option Reason :=
  if enabled then
    Function.update (Function.update stands .trafficReady (some .trafficReady)) .trafficDegraded
      ((stands .trafficDegraded).filter (fun reason => reason ≠ .trafficReconcileFailed))
  else Function.update (Function.update stands .trafficReady none) .trafficDegraded none

theorem adaptTraffic_standing (a : KnativeAdoption) :
    (adaptTraffic a).Returns (fun result =>
      (∀ ended, result = .error ended → ended.err ≠ none ∧ complete ended.adoption = false) ∧
      ∀ b, result = .ok b → b.toObjectMeta = a.toObjectMeta ∧ b.spec = a.spec ∧
        standing b = trafficStanding (trafficEnabled a) (standing a)) := by
  unfold adaptTraffic trafficStanding
  split
  next enabled =>
    refine Program.returns_bind _ (returns_reconcileTraffic trafficAlong_sameFace a) (fun result same => ?_)
    obtain ⟨b,outcome⟩ := result
    have stands := standing_conditions a b same.conditions
    cases outcome with
    | some err =>
      refine ⟨fun ended equal => ?_,fun _ equal => by cases equal⟩
      cases equal
      refine ⟨nofun,complete_of_failure _ .trafficDegraded (by decide) ?_⟩
      rw [setReady,standing_setCondition,Function.update_of_ne (by decide),standing_setCondition,Function.update_self]
      simp
    | none =>
      refine ⟨fun _ equal => (by cases equal),fun next equal => ?_⟩
      cases equal
      obtain ⟨_,cleared⟩ := sameButConditions_clearConditionIfReason
        (setCondition b .trafficReady .true .trafficReady "traffic adaptation reconciled") .trafficDegraded
        .trafficReconcileFailed
      refine ⟨?_,?_,?_⟩
      · rw [cleared]
        exact same.metadata
      · rw [cleared]
        exact same.spec
      · rw [standing_clearConditionIfReason,standing_setCondition,stands,Function.update_of_ne (by decide)]
        rfl
  next disabled =>
    refine ⟨fun _ equal => (by cases equal),fun next equal => ?_⟩
    cases equal
    exact ⟨rfl,rfl,by rw [standing_removeCondition,standing_removeCondition]⟩

/-- The last stages write ServiceAdopted, SourceQuiesced and Ready. -/
theorem returns_finishAdoption_standing (a : KnativeAdoption) (dep : Deployment) (t : ConditionType)
    (other : t ≠ .sourceQuiesced ∧ t ≠ .ready) :
    (finishAdoption a dep).Returns (fun done => standing done.adoption t = standing a t) := by
  have quiesced : (quiesceSource a dep).Returns (fun result => standing result.1 t = standing a t) := by
    have kept : standing (snapshotReplicas a dep.spec.effectiveReplicas) t = standing a t := by
      unfold snapshotReplicas
      split <;> rfl
    unfold quiesceSource
    split
    · exact Program.returns_pure _ _ rfl
    · refine Program.returns_bind (fun _ => True) (Program.returns_true _) (fun answer _ => ?_)
      cases answer <;> exact Program.returns_pure _ _ kept
  unfold finishAdoption
  refine Program.returns_bind _ quiesced (fun result same => ?_)
  obtain ⟨b,err⟩ := result
  have marked (s : ConditionStatus) (reason : Reason) (msg : String) (ready : ConditionStatus) (why : Reason) (words : String) :
      standing (setReady (setCondition b .sourceQuiesced s reason msg) ready why words) t = standing a t := by
    rw [setReady,standing_setCondition,Function.update_of_ne other.2,standing_setCondition,Function.update_of_ne other.1]
    exact same
  cases err with
  | some err => exact Program.returns_pure _ _ (marked _ _ _ _ _ _)
  | none =>
    dsimp only
    split <;> exact Program.returns_pure _ _ (marked _ _ _ _ _ _)

theorem returns_awaitKService_standing (r : KnativeAdoptionReconciler) (a : KnativeAdoption) (dep : Deployment)
    (ksvc : KService) (t : ConditionType) (other : t ≠ .serviceAdopted ∧ t ≠ .sourceQuiesced ∧ t ≠ .ready) :
    (awaitKService r a dep ksvc).Returns (fun done => standing done.adoption t = standing a t) := by
  unfold awaitKService
  refine Program.returns_bind (fun _ => True) (Program.returns_true _) (fun answer _ => ?_)
  cases answer with
  | error err => exact Program.returns_pure _ _ rfl
  | ok live =>
    dsimp only
    split
    · refine Program.returns_mono _ _ _ (fun done same => ?_) (returns_finishAdoption_standing _ dep t other.2)
      rw [same,standing_setCondition,Function.update_of_ne other.1]
      rfl
    · refine Program.returns_pure _ _ ?_
      rw [setReady,standing_setCondition,Function.update_of_ne other.2.2,standing_setCondition,
        Function.update_of_ne other.1]
      rfl

/-! Where a pass ends. -/

/-- The reads whose failure ends a pass without a word in the other conditions. -/
inductive SilentRead where
  | source
  | service
  | readBack
deriving DecidableEq

def readKind (services : Nat) : Event Request Response String Cluster → Option SilentRead
  | ⟨_,_,.getDeployment _,_⟩ => some .source
  | ⟨_,_,.getService _,.error err⟩ => if err.isNotFound = false ∧ services = 1 then some .service else none
  | ⟨_,_,.getKService _,_⟩ => some .readBack
  | _ => none

/-- The silent read with which the pass ended: of the source, of the Service of the adoption's
name, which is the first Service it reads, or of the Knative Service it applied. -/
def silentRead (log : CallLog) : Option SilentRead :=
  log.getLast?.bind (readKind (log.countP (fun e => e.request.isGetService)))

/-- The Knative Service the pass applied. -/
def sentKService (log : CallLog) : Option KService :=
  log.findSome? (fun e =>
    match e with
    | ⟨_,_,.applyKService ksvc,_⟩ => some ksvc
    | _ => none)

/-- The last answer about a Knative Service. -/
def lastKService (log : CallLog) : Option (Except ApiError KService) :=
  log.reverse.findSome? (fun e =>
    match e with
    | ⟨_,_,.getKService _,answer⟩ => some answer
    | _ => none)

theorem silentRead_last (log : CallLog) (e : Event Request Response String Cluster) :
    silentRead (log++[e]) = readKind ((log++[e]).countP (fun e => e.request.isGetService)) e := by
  unfold silentRead
  rw [List.getLast?_concat]
  rfl

theorem lastKService_last (log : CallLog) (before : Cluster) (fault : Fault String) (key : NamespacedName)
    (answer : Except ApiError KService) : lastKService (log++[⟨before,fault,.getKService key,answer⟩]) = some answer := by
  unfold lastKService
  rw [List.reverse_append]
  rfl

/-- What stands when the pass has come to its end. -/
def finishedStanding (stands : ConditionType → Option Reason) : ConditionType → Option Reason :=
  Function.update (Function.update (Function.update stands .serviceAdopted (some .knativeServiceReady)) .sourceQuiesced
    (some .sourceQuiesced)) .ready (some .adopted)

/-- The ends of a pass that applies its Knative Service with these conditions standing. -/
inductive Ending (r : KnativeAdoptionReconciler) (spec : KnativeAdoptionSpec) (stands : ConditionType → Option Reason)
    (log : CallLog) (done : Reconciled) : Prop
  | unread (failed : done.err ≠ none) (ends : silentRead log = some .readBack) (kept : done.adoption.spec = spec)
      (same : standing done.adoption = stands)
  | handled (failed : done.err ≠ none) (ends : silentRead log = none) (incomplete : complete done.adoption = false)
  | halted (fine : done.err = none) (unsent : sentKService log = none)
  | waiting (fine : done.err = none)
      (unready : ∀ live, lastKService log = some (.ok live) → (r.ready live).1 = false)
  | finished (fine : done.err = none) (kept : done.adoption.spec = spec)
      (same : standing done.adoption = finishedStanding stands)

section Ends
variable {env : Cluster → Cluster → Prop}

theorem run_quiesceSource (a b : KnativeAdoption) (dep : Deployment) (err : Option ApiError) (c d : Cluster)
    (log : CallLog) (run : Run apiserver env (quiesceSource a dep) c log (some (b,err)) d) :
    SameFace a b ∧ (err = none ∨ ∃ before fault key n answer, log = [⟨before,fault,.applyReplicas key n,answer⟩]) := by
  unfold quiesceSource at run
  split at run
  · obtain ⟨-,-,⟨⟩⟩ := run_return run
    exact ⟨.refl a,Or.inl rfl⟩
  · have face : SameFace a (snapshotReplicas a dep.spec.effectiveReplicas) := by
      unfold snapshotReplicas
      split
      · exact .refl a
      · exact ⟨⟨rfl,rfl⟩,rfl⟩
    obtain ⟨answer,m,first,rest,rfl,asked,ended⟩ := run_bind_some run
    obtain ⟨before,fault,-,rfl,-⟩ := run_request asked
    cases answer with
    | error failure =>
      obtain ⟨rfl,-,⟨⟩⟩ := run_return ended
      exact ⟨face,Or.inr ⟨before,fault,_,_,_,rfl⟩⟩
    | ok done =>
      obtain ⟨-,-,⟨⟩⟩ := run_return ended
      exact ⟨face,Or.inl rfl⟩

theorem run_finishAdoption (r : KnativeAdoptionReconciler) (a : KnativeAdoption) (dep : Deployment)
    (stands : ConditionType → Option Reason)
    (before : standing a = Function.update stands .serviceAdopted (some .knativeServiceReady)) (c d : Cluster)
    (front log : CallLog) (done : Reconciled) (run : Run apiserver env (finishAdoption a dep) c log (some done) d) :
    Ending r a.spec stands (front++log) done := by
  unfold finishAdoption at run
  obtain ⟨⟨b,err⟩,m,first,rest,rfl,quiesced,ended⟩ := run_bind_some run
  obtain ⟨face,how⟩ := run_quiesceSource a b dep err _ _ _ quiesced
  have same := standing_conditions a b face.conditions
  cases err with
  | some failure =>
    obtain ⟨rfl,-,⟨⟩⟩ := run_return ended
    obtain ⟨at_,fault,key,n,answer,rfl⟩ := how.resolve_left nofun
    refine .handled nofun ?_ ?_
    · rw [List.append_nil,silentRead_last]
      rfl
    · refine complete_of_missing _ .sourceQuiesced (by decide) ?_
      rw [setReady,standing_setCondition,Function.update_of_ne (by decide),standing_setCondition,Function.update_self]
      rfl
  | none =>
    have scaled : standing (setReady (setCondition b .sourceQuiesced .true .sourceQuiesced "Deployment scaled to 0") .true
        .adopted "adoption complete") = finishedStanding stands := by
      rw [setReady,standing_setCondition,standing_setCondition,same,before]
      rfl
    dsimp only at ended
    split at ended
    · obtain ⟨-,-,⟨⟩⟩ := run_return ended
      exact .finished rfl face.spec scaled
    · obtain ⟨-,-,⟨⟩⟩ := run_return ended
      exact .finished rfl face.spec scaled

theorem run_awaitKService (r : KnativeAdoptionReconciler) (a : KnativeAdoption) (dep : Deployment) (ksvc : KService)
    (c d : Cluster) (front log : CallLog) (done : Reconciled)
    (run : Run apiserver env (awaitKService r a dep ksvc) c log (some done) d) :
    Ending r a.spec (standing a) (front++log) done := by
  unfold awaitKService at run
  obtain ⟨answer,m,first,rest,rfl,asked,ended⟩ := run_bind_some run
  obtain ⟨before,fault,-,rfl,served⟩ := run_request asked
  have heard : (apiserver.serve fault before (.getKService ksvc.key)).2 = answer := by rw [served]
  have event : apiserver.event fault before (.getKService ksvc.key) = ⟨before,fault,.getKService ksvc.key,answer⟩ := by
    rw [← heard]
    rfl
  rw [event,← List.append_assoc]
  cases answer with
  | error err =>
    obtain ⟨rfl,-,⟨⟩⟩ := run_return ended
    refine .unread nofun ?_ rfl rfl
    rw [List.append_nil,silentRead_last]
    rfl
  | ok live =>
    cases ready : (r.ready live).1 with
    | false =>
      simp only [ready,Bool.false_eq_true,if_false] at ended
      obtain ⟨rfl,-,⟨⟩⟩ := run_return ended
      refine .waiting rfl (fun other held => ?_)
      rw [List.append_nil,lastKService_last] at held
      cases held
      exact ready
    | true =>
      simp only [ready,if_true] at ended
      have ending := fun before past => run_finishAdoption r _ dep (standing a) before _ _ past rest done ended
      refine ending ?_ _
      rw [standing_setCondition]
      rfl

/-- What stands once the Knative Service is applied. -/
def appliedStanding (stands : ConditionType → Option Reason) : ConditionType → Option Reason :=
  Function.update (Function.update stands .degraded ((stands .degraded).filter (fun reason => reason ≠ .serviceApplyFailed)))
    .adopted (some .adopted)

/-- Applying the Knative Service is one call, and its answer decides. -/
inductive Applied (ksvc : KService) : CallLog → Except ApiError Unit → Prop
  | failed (before : Cluster) (fault : Fault String) (err : ApiError) :
      Applied ksvc [⟨before,fault,.applyKService ksvc,.error err⟩] (.error (err.wrap "ssa knative service"))
  | stored (before : Cluster) (fault : Fault String) : Applied ksvc [⟨before,fault,.applyKService ksvc,.ok ()⟩] (.ok ())

theorem run_applyKnativeService (ksvc : KService) (c d : Cluster) (log : CallLog) (answer : Except ApiError Unit)
    (run : Run apiserver env (applyKnativeService ksvc) c log (some answer) d) : Applied ksvc log answer := by
  unfold applyKnativeService at run
  obtain ⟨response,before,fault,m,rest,-,-,rfl,wrapped⟩ := run_ask run
  cases response with
  | error err =>
    obtain ⟨rfl,-,⟨⟩⟩ := run_return wrapped
    exact .failed before fault err
  | ok done =>
    obtain ⟨rfl,-,⟨⟩⟩ := run_return wrapped
    exact .stored before fault

theorem run_applyAdopted (r : KnativeAdoptionReconciler) (a : KnativeAdoption) (dep : Deployment) (ksvc : KService)
    (together : a.ns = ksvc.ns) (c d : Cluster) (front log : CallLog) (done : Reconciled)
    (run : Run apiserver env (applyAdopted r a dep ksvc) c log (some done) d) :
    Ending r a.spec (appliedStanding (standing a)) (front++log) done := by
  unfold applyAdopted setControllerReference at run
  rw [if_neg (not_not.mpr together)] at run
  dsimp only at run
  obtain ⟨answer,m,first,rest,rfl,asked,ended⟩ := run_bind_some run
  cases run_applyKnativeService _ _ _ _ _ asked with
  | failed before fault err =>
    obtain ⟨rfl,-,⟨⟩⟩ := run_return ended
    refine .handled nofun ?_ ?_
    · rw [List.append_nil,silentRead_last]
      rfl
    · refine complete_of_failure _ .degraded (by decide) ?_
      rw [setReady,standing_setCondition,Function.update_of_ne (by decide),standing_setCondition,Function.update_self]
      simp
  | stored before fault =>
    have cleared := sameLedger_clearConditionIfReason a .degraded .serviceApplyFailed
    have ending := fun past => run_awaitKService r _ dep _ _ _ past rest done ended
    rw [standing_setCondition,standing_clearConditionIfReason] at ending
    have spec : (setCondition (clearConditionIfReason a .degraded .serviceApplyFailed) .adopted .true .adopted
        "KnativeService applied").spec = a.spec := cleared.spec
    rw [spec] at ending
    rw [← List.append_assoc]
    exact ending _

/-- The Service of the adoption's name is recorded, and deleted unless the call fails. -/
inductive TakenOver (a : KnativeAdoption) (svc : Service) : CallLog → KnativeAdoption → Except ApiError SwapDecision → Prop
  | gone (before : Cluster) (fault : Fault String) (answer : Except ApiError Unit)
      (missing : ∀ err, answer = .error err → err.isNotFound = true) :
      TakenOver a svc [⟨before,fault,.deleteService svc.key,answer⟩] (snapshotService (serviceSwapping a) svc) (.ok .takenOver)
  | kept (before : Cluster) (fault : Fault String) (err wrapped : ApiError) (real : err.isNotFound = false) :
      TakenOver a svc [⟨before,fault,.deleteService svc.key,.error err⟩]
        (setCondition (snapshotService (serviceSwapping a) svc) .degraded .true .serviceSwapDeleteFail wrapped.message)
        (.error wrapped)

theorem run_takeOver (a b : KnativeAdoption) (svc : Service) (answer : Except ApiError SwapDecision) (c d : Cluster)
    (log : CallLog) (run : Run apiserver env (takeOver a svc) c log (some (b,answer)) d) : TakenOver a svc log b answer := by
  unfold takeOver snapshotAndDeleteService at run
  obtain ⟨result,m,first,rest,rfl,deleted,ended⟩ := run_bind_some run
  obtain ⟨response,before,fault,n,last,-,-,rfl,following⟩ := run_ask deleted
  cases response with
  | ok done =>
    obtain ⟨rfl,-,⟨⟩⟩ := run_return following
    obtain ⟨rfl,-,⟨⟩⟩ := run_return ended
    exact .gone before fault _ nofun
  | error err =>
    cases missing : err.isNotFound with
    | true =>
      simp only [missing,if_true] at following
      obtain ⟨rfl,-,⟨⟩⟩ := run_return following
      obtain ⟨rfl,-,⟨⟩⟩ := run_return ended
      refine .gone before fault _ (fun other same => ?_)
      cases same
      exact missing
    | false =>
      simp only [missing,Bool.false_eq_true,if_false] at following
      obtain ⟨rfl,-,⟨⟩⟩ := run_return following
      obtain ⟨rfl,-,⟨⟩⟩ := run_return ended
      exact .kept before fault err _ missing

/-- What the Service of the adoption's name does to a pass. -/
inductive Swapped (a : KnativeAdoption) : CallLog → KnativeAdoption → Except ApiError SwapDecision → Prop
  | unread (before : Cluster) (fault : Fault String) (err : ApiError) (real : err.isNotFound = false) :
      Swapped a [⟨before,fault,.getService a.key,.error err⟩] a (.error (err.wrap "get same-name service"))
  | undeleted (front : CallLog) (before : Cluster) (fault : Fault String) (key : NamespacedName)
      (answer : Except ApiError Unit) (b : KnativeAdoption) (err : ApiError) (stands : standing b .degraded ≠ none) :
      Swapped a (front++[⟨before,fault,.deleteService key,answer⟩]) b (.error err)
  | passed (e : Event Request Response String Cluster) (gets : e.request.isGetService = true)
      (read : ∀ n, readKind n e = none) : Swapped a [e] (removeCondition a .serviceAdoptionRefused) (.ok .pass)
  | halted (log : CallLog) (b : KnativeAdoption) (decision : SwapDecision) (other : decision ≠ .pass) :
      Swapped a log b (.ok decision)

theorem run_swapFound (a b : KnativeAdoption) (svc : Option Service) (answer : Except ApiError SwapDecision)
    (e : Event Request Response String Cluster) (gets : e.request.isGetService = true) (read : ∀ n, readKind n e = none)
    (c d : Cluster) (log : CallLog) (run : Run apiserver env (swapFound a svc) c log (some (b,answer)) d) :
    Swapped a (e::log) b answer := by
  unfold swapFound at run
  split at run
  · obtain ⟨rfl,-,⟨⟩⟩ := run_return run
    exact .passed e gets read
  · obtain ⟨rfl,-,⟨⟩⟩ := run_return run
    exact .halted _ _ _ nofun
  next decided =>
    cases svc with
    | none => cases decided
    | some svc =>
      cases run_takeOver a b svc answer _ _ log run with
      | gone before fault reply missing => exact .halted _ _ _ nofun
      | kept before fault err wrapped real =>
        refine .undeleted [e] before fault _ _ _ wrapped ?_
        rw [standing_setCondition,Function.update_self]
        simp

/-- The Service of the adoption's name is asked for, and what is found is acted on. -/
inductive ServiceAsked (env : Cluster → Cluster → Prop) (a b : KnativeAdoption) (answer : Except ApiError SwapDecision) :
    CallLog → Prop
  | found (before m d : Cluster) (fault : Fault String) (svc : Service) (rest : CallLog)
      (following : Run apiserver env (swapFound a (some svc)) m rest (some (b,answer)) d) :
      ServiceAsked env a b answer ([⟨before,fault,.getService a.key,.ok svc⟩]++rest)
  | missing (before m d : Cluster) (fault : Fault String) (err : ApiError) (gone : err.isNotFound = true) (rest : CallLog)
      (following : Run apiserver env (swapFound a none) m rest (some (b,answer)) d) :
      ServiceAsked env a b answer ([⟨before,fault,.getService a.key,.error err⟩]++rest)
  | unread (before : Cluster) (fault : Fault String) (err : ApiError) (real : err.isNotFound = false) (same : b = a)
      (failed : answer = .error (err.wrap "get same-name service")) :
      ServiceAsked env a b answer [⟨before,fault,.getService a.key,.error err⟩]

theorem swapService_asks (a b : KnativeAdoption) (answer : Except ApiError SwapDecision) (c d : Cluster) (log : CallLog)
    (run : Run apiserver env (swapService a) c log (some (b,answer)) d) : ServiceAsked env a b answer log := by
  unfold swapService at run
  obtain ⟨response,before,fault,m,rest,-,-,rfl,following⟩ := run_ask run
  cases response with
  | ok svc => exact .found before _ _ fault svc rest following
  | error err =>
    dsimp only at following
    split at following
    next gone => exact .missing before _ _ fault err gone rest following
    next real =>
      obtain ⟨rfl,-,⟨⟩⟩ := run_return following
      exact .unread before fault err (Bool.eq_false_iff.mpr real) rfl rfl

theorem run_swapService (a b : KnativeAdoption) (answer : Except ApiError SwapDecision) (c d : Cluster) (log : CallLog)
    (run : Run apiserver env (swapService a) c log (some (b,answer)) d) : Swapped a log b answer := by
  cases swapService_asks a b answer c d log run with
  | found before m d fault svc rest following =>
    exact run_swapFound a b (some svc) answer _ rfl (fun _ => rfl) _ _ rest following
  | missing before m d fault err gone rest following =>
    refine run_swapFound a b none answer _ rfl (fun n => ?_) _ _ rest following
    simp [readKind,gone]
  | unread before fault err real same failed =>
    subst same failed
    exact .unread before fault err real

theorem sentKService_append (front log : CallLog) (first : sentKService front = none) :
    sentKService (front++log) = sentKService log := by
  unfold sentKService at first ⊢
  rw [List.findSome?_append,first]
  rfl

theorem sentKService_within {α : Type} {parts : List Part} (p : Op α) (within : Within parts p) (outside : .ksvcs ∉ parts)
    (c d : Cluster) (log : CallLog) (out : Option α) (run : Run apiserver env p c log out d) : sentKService log = none := by
  refine List.findSome?_eq_none_iff.mpr (fun e member => ?_)
  have allowed := run_uses within run e member
  obtain ⟨before,fault,request,answer⟩ := e
  cases request with
  | applyKService ksvc => exact absurd (allowed .ksvcs rfl) outside
  | _ => rfl

theorem readKind_traffic (n : Nat) (e : Event Request Response String Cluster) (traffic : e.request.ofTraffic = true)
    (again : e.request.isGetService = true → n ≠ 1) : readKind n e = none := by
  obtain ⟨before,fault,request,answer⟩ := e
  cases request with
  | getService key =>
    cases answer with
    | ok svc => rfl
    | error err => simp [readKind,again rfl]
  | getTraffic key => rfl
  | patchTraffic key patch => rfl
  | _ => cases traffic

theorem silentRead_traffic (front log : CallLog) (e : Event Request Response String Cluster)
    (gets : e.request.isGetService = true) (read : ∀ n, readKind n e = none)
    (traffic : ∀ x ∈ log, x.request.ofTraffic = true) : silentRead (front++([e]++log)) = none := by
  rcases List.eq_nil_or_concat log with rfl | ⟨init,last,rfl⟩
  · rw [List.append_nil,silentRead_last]
    exact read _
  · rw [List.concat_eq_append,← List.append_assoc,← List.append_assoc,silentRead_last]
    refine readKind_traffic _ last (traffic last (by simp)) (fun again => ?_)
    simp only [List.countP_append,List.countP_cons,List.countP_nil,gets,again]
    simp

/-- What stands after the swap and the traffic stage let a pass go on, and the apply. -/
def passStanding (enabled : Bool) (stands : ConditionType → Option Reason) : ConditionType → Option Reason :=
  appliedStanding (trafficStanding enabled (Function.update stands .serviceAdoptionRefused none))

theorem run_adoptTranslated (r : KnativeAdoptionReconciler) (a : KnativeAdoption) (dep : Deployment) (ksvc : KService)
    (together : a.ns = ksvc.ns) (c d : Cluster) (front log : CallLog)
    (first : front.countP (fun e => e.request.isGetService) = 0) (unsent : sentKService front = none) (done : Reconciled)
    (run : Run apiserver env (adoptTranslated r a dep ksvc) c log (some done) d) :
    (done.err ≠ none ∧ silentRead (front++log) = some .service ∧ done.adoption.spec = a.spec ∧
      ∀ t, t ≠ .ready → standing done.adoption t = standing a t) ∨
    Ending r a.spec (passStanding (trafficEnabled a) (standing a)) (front++log) done := by
  unfold adoptTranslated at run
  obtain ⟨⟨b,answer⟩,m,swap,rest,rfl,swapped,following⟩ := run_bind_some run
  have quiet := sentKService_within _ (within_swapService a) (by simp) _ _ _ _ swapped
  cases run_swapService a b answer _ _ swap swapped with
  | unread before fault err real =>
    obtain ⟨rfl,-,⟨⟩⟩ := run_return following
    refine Or.inl ⟨Option.some_ne_none _,?_,rfl,fun t other => ?_⟩
    · rw [List.append_nil,silentRead_last,List.countP_append,first]
      exact if_pos ⟨real,rfl⟩
    · rw [setReady,standing_setCondition,Function.update_of_ne other]
  | undeleted past before fault key answered b err stands =>
    obtain ⟨rfl,-,⟨⟩⟩ := run_return following
    refine Or.inr (.handled (Option.some_ne_none _) ?_ (complete_of_failure _ .degraded (by decide) ?_))
    · rw [List.append_nil,← List.append_assoc,silentRead_last]
      rfl
    · rw [setReady,standing_setCondition,Function.update_of_ne (by decide)]
      exact stands
  | halted _ _ decision other =>
    cases decision with
    | pass => exact absurd rfl other
    | takenOver =>
      obtain ⟨rfl,-,⟨⟩⟩ := run_return following
      exact Or.inr (.halted rfl (by rw [sentKService_append _ _ unsent,List.append_nil,quiet]))
    | refused =>
      obtain ⟨rfl,-,⟨⟩⟩ := run_return following
      exact Or.inr (.halted rfl (by rw [sentKService_append _ _ unsent,List.append_nil,quiet]))
  | passed e gets read =>
    obtain ⟨adapted,n,traffic,last,rfl,adapting,ended⟩ := run_bind_some following
    obtain ⟨failing,going⟩ := run_returns (adaptTraffic_standing _) adapting
    cases adapted with
    | error failure =>
      obtain ⟨rfl,-,⟨⟩⟩ := run_return ended
      obtain ⟨failed,incomplete⟩ := failing _ rfl
      refine Or.inr (.handled failed ?_ incomplete)
      rw [List.append_nil]
      exact silentRead_traffic front traffic e gets read (run_uses (uses_adaptTraffic _) adapting)
    | ok next =>
      obtain ⟨metadata,spec,stands⟩ := going next rfl
      have ns : next.ns = ksvc.ns := (congrArg ObjectMeta.ns metadata).trans together
      have ending := fun past => run_applyAdopted r next dep ksvc ns _ _ past last done ended
      rw [stands,spec,standing_removeCondition] at ending
      have whole : front++([e]++(traffic++last)) = (front++([e]++traffic))++last := by simp
      rw [whole]
      exact Or.inr (ending _)

/-! The whole pass. -/

/-- The calls only the guard makes. -/
def Request.asksPods : Request → Bool
  | .listPods _ _ => true
  | .probe _ _ _ _ _ => true
  | .enqueue _ => true
  | _ => false

theorem uses_adoptTranslated_quiet (r : KnativeAdoptionReconciler) (a : KnativeAdoption) (dep : Deployment)
    (ksvc : KService) : (adoptTranslated r a dep ksvc).Uses (fun r => r.asksPods = false) := by
  refine uses_adoptTranslated (fun request stage => ?_) r a dep ksvc (fun _ _ => rfl)
  cases request with
  | listPods ns service => cases stage
  | probe ns pod port path timeout => cases stage
  | enqueue decision => cases stage
  | _ => rfl

theorem round_append (front log : CallLog) (quiet : ∀ e ∈ log, e.request.asksPods = false) :
    round (front++log) = round front := by
  have unlisted : podList log = none := by
    refine List.findSome?_eq_none_iff.mpr (fun e member => ?_)
    have silent := quiet e member
    obtain ⟨before,fault,request,answer⟩ := e
    cases request with
    | listPods ns service => cases silent
    | _ => rfl
  have unasked : probeAnswers log = [] := by
    refine List.filterMap_eq_nil_iff.mpr (fun e member => ?_)
    have silent := quiet e member
    obtain ⟨before,fault,request,answer⟩ := e
    cases request with
    | probe ns pod port path timeout => cases silent
    | _ => rfl
  have lists : podList (front++log) = podList front := by
    unfold podList at unlisted ⊢
    rw [List.findSome?_append,unlisted,Option.or_none]
  unfold round
  rw [lists,probeAnswers_append,unasked,List.append_nil]

/-- What stands, ScaleDownAllowed apart, when the swap begins. -/
def guardedStanding (a : KnativeAdoption) (log : CallLog) : ConditionType → Option Reason :=
  Function.update (Function.update (Function.update (standing a) .sourceMissing none) .degraded (degradedAfter a (round log)))
    .translationDegraded none

/-- The ends of a pass. -/
inductive PassEnd (r : KnativeAdoptionReconciler) (a : KnativeAdoption) (log : CallLog) (done : Reconciled) : Prop
  | unread (failed : done.err ≠ none) (ends : silentRead log = some .source) (kept : done.adoption.spec = a.spec)
      (same : ∀ t, t ≠ .ready → standing done.adoption t = standing a t)
  | halted (fine : done.err = none) (unsent : sentKService log = none)
  | blind (failed : done.err ≠ none) (ends : silentRead log = some .service) (kept : done.adoption.spec = a.spec)
      (same : ∀ t, t ≠ .ready → t ≠ .scaleDownAllowed → standing done.adoption t = guardedStanding a log t)
  | ending (stands : ConditionType → Option Reason)
      (same : ∀ t, t ≠ .scaleDownAllowed → stands t = guardedStanding a log t)
      (ends : Ending r a.spec (passStanding (trafficEnabled a) stands) log done)

theorem guarded_standing (a b : KnativeAdoption) (log : CallLog) (effect : GuardEffect (removeCondition a .sourceMissing) b log)
    (t : ConditionType) (other : t ≠ .scaleDownAllowed) :
    standing (removeCondition b .translationDegraded) t = guardedStanding a log t := by
  have degraded : degradedAfter (removeCondition a .sourceMissing) (round log) = degradedAfter a (round log) := by
    have same : standing (removeCondition a .sourceMissing) .degraded = standing a .degraded := by
      rw [standing_removeCondition,Function.update_of_ne (by decide)]
    have failure : degradedByFailure (removeCondition a .sourceMissing) = degradedByFailure a := by
      unfold degradedByFailure
      rw [same]
      rfl
    cases round log with
    | skipped => exact same
    | unlisted => exact failure
    | probed results =>
      unfold degradedAfter
      rw [same,failure]
  unfold guardedStanding
  rw [standing_removeCondition]
  by_cases translation : t = .translationDegraded
  · rw [translation,Function.update_self,Function.update_self]
  rw [Function.update_of_ne translation,Function.update_of_ne translation]
  by_cases here : t = .degraded
  · rw [here,Function.update_self,effect.degraded,degraded]
  rw [Function.update_of_ne here,effect.others t other here,standing_removeCondition]

/-- The pass once its first call, for the source, was answered. -/
theorem run_foundSource (r : KnativeAdoptionReconciler) (a : KnativeAdoption) (dep : Deployment) (within : dep.ns = a.ns)
    (e : Event Request Response String Cluster) (key : NamespacedName) (source : e.request = .getDeployment key)
    (c d : Cluster) (log : CallLog) (done : Reconciled)
    (run : Run apiserver env (do
      let b ← maybeRunGuard r (removeCondition a .sourceMissing)
      match translate dep b with
      | .error err => return { adoption := translationRefused b err }
      | .ok ksvc => adoptTranslated r (removeCondition b .translationDegraded) dep ksvc) c log (some done) d) :
    PassEnd r a ([e]++log) done := by
  obtain ⟨before,fault,request,answer⟩ := e
  cases source
  obtain ⟨b,m,guard,rest,rfl,guarded,adopting⟩ := run_bind_some run
  have effect := run_maybeRunGuard env r _ b _ _ guard guarded
  have unsent : sentKService ([⟨before,fault,.getDeployment key,answer⟩]++guard) = none :=
    (sentKService_append _ _ rfl).trans (sentKService_within _ (within_maybeRunGuard r _) (by simp) _ _ _ _ guarded)
  cases translated : translate dep b with
  | error err =>
    rw [translated] at adopting
    obtain ⟨rfl,-,⟨⟩⟩ := run_return adopting
    rw [List.append_nil]
    exact .halted rfl unsent
  | ok ksvc =>
    rw [translated] at adopting
    have together : (removeCondition b .translationDegraded).ns = ksvc.ns :=
      (congrArg ObjectMeta.ns effect.same.metadata).trans
        ((congrArg NamespacedName.ns (translate_key dep b ksvc translated)).trans within).symm
    have front : ([⟨before,fault,.getDeployment key,answer⟩]++guard : CallLog).countP (fun e => e.request.isGetService) = 0 := by
      have guards := run_uses (uses_maybeRunGuard r _) guarded
      refine (List.countP_cons_of_neg (by simp [Request.isGetService])).trans (List.countP_eq_zero.mpr (fun e member => ?_))
      have reads := guards e member
      obtain ⟨at_,failed,request,answer⟩ := e
      cases request with
      | getService key => cases reads
      | _ => simp [Request.isGetService]
    have told : round ([⟨before,fault,.getDeployment key,answer⟩]++guard++rest) = round guard := by
      rw [round_append _ rest (run_uses (uses_adoptTranslated_quiet r _ dep ksvc) adopting)]
      rfl
    have stands (t : ConditionType) (other : t ≠ .scaleDownAllowed) :
        standing (removeCondition b .translationDegraded) t =
          guardedStanding a ([⟨before,fault,.getDeployment key,answer⟩]++guard++rest) t := by
      rw [guarded_standing a b guard effect t other]
      unfold guardedStanding
      rw [told]
    have spec : (removeCondition b .translationDegraded).spec = a.spec := effect.same.spec
    have enabled : trafficEnabled (removeCondition b .translationDegraded) = trafficEnabled a := by
      unfold trafficEnabled
      rw [spec]
    rw [← List.append_assoc]
    rcases run_adoptTranslated r _ dep ksvc together _ _ _ rest front unsent done adopting with
      ⟨failed,ends,kept,same⟩ | ends
    · exact .blind failed ends (kept.trans spec) (fun t other away => (same t other).trans (stands t away))
    · rw [spec,enabled] at ends
      exact .ending _ stands ends

/-- The source Deployment is asked for under the adoption's own namespace. -/
inductive SourceAsked (a : KnativeAdoption) : CallLog → Except ApiError (Option Deployment) → Prop
  | found (before : Cluster) (fault : Fault String) (dep : Deployment) (filed : dep.key = ⟨a.ns,sourceName a⟩) :
      SourceAsked a [⟨before,fault,.getDeployment ⟨a.ns,sourceName a⟩,.ok dep⟩] (.ok (some dep))
  | missing (before : Cluster) (fault : Fault String) (err : ApiError) (gone : err.isNotFound = true) :
      SourceAsked a [⟨before,fault,.getDeployment ⟨a.ns,sourceName a⟩,.error err⟩] (.ok none)
  | unread (before : Cluster) (fault : Fault String) (err : ApiError) (real : err.isNotFound = false) :
      SourceAsked a [⟨before,fault,.getDeployment ⟨a.ns,sourceName a⟩,.error err⟩] (.error err)

theorem run_getSourceDeployment (a : KnativeAdoption) (c d : Cluster) (log : CallLog)
    (answer : Except ApiError (Option Deployment)) (run : Run apiserver env (getSourceDeployment a) c log (some answer) d) :
    SourceAsked a log answer := by
  unfold getSourceDeployment at run
  obtain ⟨response,m,first,rest,rfl,asked,ended⟩ := run_bind_some run
  obtain ⟨before,fault,-,rfl,served⟩ := run_request asked
  have heard : (apiserver.serve fault before (.getDeployment ⟨a.ns,sourceName a⟩)).2 = response := congrArg Prod.snd served
  rw [apiserver.event_answered heard]
  cases response with
  | ok dep =>
    obtain ⟨rfl,-,⟨⟩⟩ := run_return ended
    exact .found before fault dep (before.deployments.keyed _ _ (getDeployment_ok heard))
  | error err =>
    dsimp only at ended
    split at ended
    next gone =>
      obtain ⟨rfl,-,⟨⟩⟩ := run_return ended
      exact .missing before fault err gone
    next real =>
      obtain ⟨rfl,-,⟨⟩⟩ := run_return ended
      exact .unread before fault err (Bool.eq_false_iff.mpr real)

theorem run_reconcileAdoption (r : KnativeAdoptionReconciler) (a : KnativeAdoption) (c d : Cluster) (log : CallLog)
    (done : Reconciled) (run : Run apiserver env (reconcileAdoption r a) c log (some done) d) : PassEnd r a log done := by
  unfold reconcileAdoption at run
  obtain ⟨source,m,first,rest,rfl,asked,following⟩ := run_bind_some run
  cases run_getSourceDeployment a _ _ _ _ asked with
  | missing before fault err gone =>
    obtain ⟨rfl,-,⟨⟩⟩ := run_return following
    exact .halted rfl rfl
  | unread before fault err real =>
    obtain ⟨rfl,-,⟨⟩⟩ := run_return following
    refine .unread nofun rfl rfl (fun t other => ?_)
    rw [setReady,standing_setCondition,Function.update_of_ne other]
  | found before fault dep filed =>
    exact run_foundSource r a dep (congrArg NamespacedName.ns filed) _ _ rfl _ _ rest done following

end Ends

/-! Ready. -/

/-- Nothing stands here, or only for the reason that is cleared on the way. -/
def clears (held : Option Reason) (reason : Reason) : Bool := (held.filter (fun other => other ≠ reason)).isNone

theorem clears_iff (held : Option Reason) (reason : Reason) :
    clears held reason = true ↔ held.filter (fun other => other ≠ reason) = none := Option.isNone_iff_eq_none

theorem trafficEnabled_spec (a b : KnativeAdoption) (same : b.spec = a.spec) : trafficEnabled b = trafficEnabled a := by
  unfold trafficEnabled
  rw [same]

/-- A pass that fails at this read leaves Ready as the sticky conditions have it. -/
def hides (a : KnativeAdoption) (log : CallLog) : Bool :=
  match silentRead log with
  | none => false
  | some .source => complete a
  | some .service =>
    (degradedAfter a (round log)).isNone && (standing a .trafficDegraded).isNone &&
      (standing a .serviceAdoptionRefused).isNone && (requiredPositives a).all (fun t => (standing a t).isSome)
  | some .readBack =>
    clears (degradedAfter a (round log)) .serviceApplyFailed &&
      (!trafficEnabled a || clears (standing a .trafficDegraded) .trafficReconcileFailed) &&
      (standing a .serviceAdopted).isSome && (standing a .sourceQuiesced).isSome

theorem requiredPositives_iff (a : KnativeAdoption) (stands : ConditionType → Option Reason) :
    (requiredPositives a).all (fun t => (stands t).isSome) = true ↔
      stands .adopted ≠ none ∧ stands .serviceAdopted ≠ none ∧ stands .sourceQuiesced ≠ none ∧
        (trafficEnabled a = true → stands .trafficReady ≠ none) := by
  unfold requiredPositives readyAggregatePositives
  cases trafficEnabled a <;> simp [Option.isSome_iff_ne_none]

/-- A list or a probe of the round failed. -/
def Round.failed : Round → Bool
  | .skipped => false
  | .unlisted => true
  | .probed results => (ScaleDown.tally results).errored > 0

def Round.allows : Round → Bool
  | .probed results => ScaleDown.vote results ≠ .block
  | _ => false

/-- The failures that stand are of the kinds a pass clears that is told this. -/
def recovers (a : KnativeAdoption) (told : Round) : Bool :=
  (standing a .degraded).all
      (fun reason => reason = .serviceApplyFailed || (reason = .scaleDownProbeError && told.allows)) &&
    (!trafficEnabled a || (standing a .trafficDegraded).all (fun reason => reason = .trafficReconcileFailed))

theorem clears_all (held : Option Reason) (reason : Reason) : clears held reason = held.all (fun other => other = reason) := by
  cases held with
  | none => rfl
  | some other => by_cases same : other = reason <;> simp [clears,Option.filter,same]

theorem recovers_iff (a : KnativeAdoption) (told : Round) (calm : told.failed = false) :
    recovers a told = true ↔ clears (degradedAfter a told) .serviceApplyFailed = true ∧
      (trafficEnabled a = true → clears (standing a .trafficDegraded) .trafficReconcileFailed = true) := by
  have degraded : clears (degradedAfter a told) .serviceApplyFailed = (standing a .degraded).all
      (fun reason => reason = .serviceApplyFailed || (reason = .scaleDownProbeError && told.allows)) := by
    rw [clears_all]
    cases told with
    | skipped => simp [degradedAfter,Round.allows]
    | unlisted => cases calm
    | probed results =>
      have none_failed : ¬ (ScaleDown.tally results).errored > 0 := of_decide_eq_false calm
      by_cases blocked : ScaleDown.vote results = .block
      · simp [degradedAfter,Round.allows,none_failed,blocked]
      · cases held : standing a .degraded with
        | none => simp [degradedAfter,none_failed,blocked,held]
        | some reason =>
          by_cases probe : reason = .scaleDownProbeError <;>
            simp [degradedAfter,Round.allows,none_failed,blocked,held,probe,Option.filter]
  unfold recovers
  rw [degraded,clears_all]
  cases trafficEnabled a <;> simp

section Aggregated
variable (a b : KnativeAdoption) (log : CallLog) (kept : b.spec = a.spec)
include kept

/-- What the aggregation makes of a pass that ended before the swap. -/
theorem complete_guarded (same : ∀ t, t ≠ .ready → t ≠ .scaleDownAllowed → standing b t = guardedStanding a log t) :
    complete b = true ↔ degradedAfter a (round log) = none ∧ standing a .trafficDegraded = none ∧
      standing a .serviceAdoptionRefused = none ∧ (requiredPositives a).all (fun t => (standing a t).isSome) = true := by
  rw [complete_iff,requiredPositives_iff,trafficEnabled_spec a b kept]
  simp [same,guardedStanding]

variable (stands : ConditionType → Option Reason)
  (before : ∀ t, t ≠ .scaleDownAllowed → stands t = guardedStanding a log t)
include before

/-- What the aggregation makes of a pass that ended after the apply. -/
theorem complete_passStanding (same : standing b = passStanding (trafficEnabled a) stands) :
    complete b = true ↔ clears (degradedAfter a (round log)) .serviceApplyFailed = true ∧
      (trafficEnabled a = true → clears (standing a .trafficDegraded) .trafficReconcileFailed = true) ∧
      standing a .serviceAdopted ≠ none ∧ standing a .sourceQuiesced ≠ none := by
  rw [complete_iff,same,trafficEnabled_spec a b kept,clears_iff,clears_iff]
  cases trafficEnabled a <;>
    simp [passStanding,appliedStanding,trafficStanding,before,guardedStanding]

/-- What the aggregation makes of a pass that came to its end. -/
theorem complete_finishedStanding (same : standing b = finishedStanding (passStanding (trafficEnabled a) stands)) :
    complete b = true ↔ clears (degradedAfter a (round log)) .serviceApplyFailed = true ∧
      (trafficEnabled a = true → clears (standing a .trafficDegraded) .trafficReconcileFailed = true) := by
  rw [complete_iff,same,trafficEnabled_spec a b kept,clears_iff,clears_iff]
  cases trafficEnabled a <;>
    simp [finishedStanding,passStanding,appliedStanding,trafficStanding,before,guardedStanding]

end Aggregated

theorem complete_same (a b : KnativeAdoption) (kept : b.spec = a.spec)
    (same : ∀ t, t ≠ .ready → standing b t = standing a t) : complete b = complete a := by
  refine Bool.eq_iff_iff.mpr ?_
  rw [complete_iff,complete_iff,trafficEnabled_spec a b kept]
  simp [same]

section Passes
variable (env : Cluster → Cluster → Prop) (r : KnativeAdoptionReconciler) (a : KnativeAdoption) (c d : Cluster)
  (log : CallLog) (done : Reconciled) (run : Run apiserver env (reconcileAdoption r a) c log (some done) d)
include run

/-- After a pass that failed Ready is not True, unless the pass failed at a read that no
other condition tells of and what stood before says that all is well. -/
theorem failed_pass_unready (failed : done.err ≠ none) :
    isCondTrue (recomputeReady done.adoption) .ready = false ↔ hides a log = false := by
  rw [recomputeReady_ready]
  refine not_iff_not.mp ?_
  rw [Bool.not_eq_false,Bool.not_eq_false]
  unfold hides
  cases run_reconcileAdoption r a c d log done run with
  | unread _ ends kept same => rw [ends,complete_same a _ kept same]
  | halted fine _ => exact absurd fine failed
  | blind _ ends kept same =>
    rw [ends,complete_guarded a _ log kept same]
    simp [and_assoc]
  | ending stands before ends =>
    cases ends with
    | unread _ ends kept same =>
      rw [ends,complete_passStanding a _ log kept stands before same]
      cases trafficEnabled a <;> simp [and_assoc,Option.isSome_iff_ne_none]
    | handled _ ends incomplete => simp [ends,incomplete]
    | halted fine _ => exact absurd fine failed
    | waiting fine _ => exact absurd fine failed
    | finished fine _ _ => exact absurd fine failed

end Passes

namespace Sample

/-- Adopted in two passes, and Ready. -/
def settled : Cluster := (apiserver.execPasses pass [List.replicate 7 .none,List.replicate 11 .none] cluster).2

def ready : KnativeAdoption := (settled.adoptions.get adoption.key).getD adoption

/-- A pass over the settled adoption whose first call is refused. -/
def blind : CallLog × Option Reconciled × Cluster :=
  apiserver.exec (reconcileAdoption reconciler ready) [.refused "timeout"] settled

/-- A pass over the fresh adoption that cannot delete the Service. -/
def undeleted : CallLog × Option Reconciled × Cluster :=
  apiserver.exec (reconcileAdoption reconciler adoption) [.none,.none,.none,.refused "timeout"] cluster

end Sample

theorem failed_pass_unready_sample :
    ∃ done, Sample.undeleted.2.1 = some done ∧ done.err ≠ none ∧ isCondTrue (recomputeReady done.adoption) .ready = false := by
  have failed : Sample.undeleted.2.1.any (fun done => done.err.isSome) = true := by decide +kernel
  obtain ⟨done,ended,erred⟩ := (Option.any_eq_true _ _).mp failed
  have err := Option.isSome_iff_ne_none.mp erred
  refine ⟨done,ended,err,(failed_pass_unready Drift Sample.reconciler Sample.adoption Sample.cluster Sample.undeleted.2.2
    Sample.undeleted.1 done ?_ err).mpr (by decide +kernel)⟩
  rw [← ended]
  exact run_exec apiserver Drift Drift.refl _ _ _

/-- Ready stays True when the source can not be read. -/
theorem ready_hides_failure :
    Sample.settled.adoptions.get Sample.adoption.key = some Sample.ready ∧
      Sample.blind.2.1.any (fun done => done.err.isSome && isCondTrue (recomputeReady done.adoption) .ready) = true ∧
      (apiserver.exec Sample.pass [.none,.refused "timeout",.none] Sample.settled).2.1.any (fun out => out.2.isSome) = true ∧
      ((apiserver.exec Sample.pass [.none,.refused "timeout",.none] Sample.settled).2.2.adoptions.get
        Sample.adoption.key).any (fun st => isCondTrue st .ready) = true := by
  refine ⟨?_,by decide +kernel,by decide +kernel,by decide +kernel⟩
  have stored : (Sample.settled.adoptions.get Sample.adoption.key).isSome = true := by decide +kernel
  obtain ⟨st,held⟩ := Option.isSome_iff_exists.mp stored
  unfold Sample.ready
  rw [held]
  rfl

section Passes
variable (env : Cluster → Cluster → Prop) (r : KnativeAdoptionReconciler) (a : KnativeAdoption) (c d : Cluster)
  (log : CallLog) (done : Reconciled) (run : Run apiserver env (reconcileAdoption r a) c log (some done) d)
include run

/-- A pass in which everything succeeds ends Ready exactly if the failures that stood before
it are of the kinds such a pass clears. -/
theorem clean_pass_ready (fine : done.err = none) (sent : sentKService log ≠ none) (live : KService)
    (read : lastKService log = some (.ok live)) (ready : (r.ready live).1 = true) (calm : (round log).failed = false) :
    isCondTrue (recomputeReady done.adoption) .ready = true ↔ recovers a (round log) = true := by
  rw [recomputeReady_ready]
  cases run_reconcileAdoption r a c d log done run with
  | unread failed _ _ _ => exact absurd fine failed
  | halted _ unsent => exact absurd unsent sent
  | blind failed _ _ _ => exact absurd fine failed
  | ending stands before ends =>
    cases ends with
    | unread failed _ _ _ => exact absurd fine failed
    | handled failed _ _ => exact absurd fine failed
    | halted _ unsent => exact absurd unsent sent
    | waiting _ unready =>
      rw [unready live read] at ready
      cases ready
    | finished _ kept same =>
      rw [complete_finishedStanding a _ log kept stands before same,recovers_iff a _ calm]

end Passes

namespace Sample

/-- The pass that follows the swap of the Service, over the adoption it left. -/
def following (swapped : Cluster) : CallLog × Option Reconciled × Cluster :=
  apiserver.exec (reconcileAdoption reconciler ((swapped.adoptions.get adoption.key).getD adoption))
    (List.replicate 9 .none) swapped

def swapped : Cluster := (apiserver.execPasses pass [List.replicate 7 .none] cluster).2

/-- The first pass could not delete the Service, the second one did. -/
def swappedLate : List (Pass Request Response String Cluster (Result × Option ApiError)) × Cluster :=
  apiserver.execPasses pass [List.replicate 5 .none++[.refused "timeout",.none],List.replicate 6 .none] cluster

end Sample

theorem clean_pass_ready_sample :
    ∃ done, (Sample.following Sample.swapped).2.1 = some done ∧ isCondTrue (recomputeReady done.adoption) .ready = true := by
  have fine : (Sample.following Sample.swapped).2.1.any (fun done => done.err.isNone) = true := by decide +kernel
  obtain ⟨done,ended,none⟩ := (Option.any_eq_true _ _).mp fine
  have sent : (sentKService (Sample.following Sample.swapped).1).isSome = true := by decide +kernel
  have read : (lastKService (Sample.following Sample.swapped).1).any (fun answer => answer.toOption.isSome) = true := by
    decide +kernel
  obtain ⟨answer,last,ok⟩ := (Option.any_eq_true _ _).mp read
  refine ⟨done,ended,?_⟩
  cases answer with
  | error err => cases ok
  | ok live =>
    refine (clean_pass_ready Drift Sample.reconciler ((Sample.swapped.adoptions.get Sample.adoption.key).getD
      Sample.adoption) Sample.swapped (Sample.following Sample.swapped).2.2
      (Sample.following Sample.swapped).1 done ?_ (Option.isNone_iff_eq_none.mp none) (Option.isSome_iff_ne_none.mp sent) live
      last rfl (by decide +kernel)).mpr (by decide +kernel)
    rw [← ended]
    exact run_exec apiserver Drift Drift.refl _ _ _

/-- A Service that could not be deleted at once leaves Degraded for good. -/
theorem failed_delete_sticks :
    let done := (Sample.following Sample.swappedLate.2).2.1
    Passes apiserver Drift Sample.pass Sample.cluster Sample.swappedLate.1 Sample.swappedLate.2 ∧
      ((Sample.following Sample.swappedLate.2).1.all (fun e => e.fault = .none)) = true ∧
      (sentKService (Sample.following Sample.swappedLate.2).1).isSome = true ∧
      done.any (fun done => done.err.isNone && !isCondTrue (recomputeReady done.adoption) .ready) = true ∧
      done.any (fun done => standing done.adoption .degraded = some .serviceSwapDeleteFail) = true :=
  ⟨passes_exec apiserver Drift Drift.refl _ _ _,by decide +kernel,by decide +kernel,by decide +kernel,by decide +kernel⟩

end Ifaas
