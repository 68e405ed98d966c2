import Ifaas.ScaleDownGuard
import Ifaas.Frame

/-! What one round of the scale-down guard concludes from what it was told. The calls of
a round are the pod list, one probe for each pod that can be asked, and at most one
decision for the flusher; the adoption it leaves is a function of the answers. -/
namespace Ifaas
open Library

/-- The answer to the pod list call. -/
def podList (log : CallLog) : Option (Except ApiError (List Pod)) :=
  log.findSome? (fun e =>
    match e with
    | ⟨_,_,.listPods _ _,answer⟩ => some answer
    | _ => none)

/-- The pods that were probed, with their answers. -/
def probeAnswers (log : CallLog) : List (NamespacedName × ScaleDown.Result) :=
  log.filterMap (fun e =>
    match e with
    | ⟨_,_,.probe ns pod _ _ _,result⟩ => some (⟨ns,pod⟩,result)
    | _ => none)

/-- The decisions handed to the flusher. -/
def enqueued (log : CallLog) : List Decision :=
  log.filterMap (fun e =>
    match e with
    | ⟨_,_,.enqueue decision,_⟩ => some decision
    | _ => none)

theorem probeAnswers_append (log more : CallLog) : probeAnswers (log++more) = probeAnswers log++probeAnswers more :=
  List.filterMap_append

theorem enqueued_append (log more : CallLog) : enqueued (log++more) = enqueued log++enqueued more :=
  List.filterMap_append

/-- The adoption after a round whose pods could not be listed. -/
def unlisted (a : KnativeAdoption) (err : ApiError) : KnativeAdoption :=
  maybeMarkDegraded (setCondition (bumpProbeError a ("list pods: " ++ err.message)) .scaleDownAllowed .unknown
    .scaleDownProbeError err.message) (guardConfig a).failureThreshold

/-- The conditions that follow from a vote. -/
def recorded (a : KnativeAdoption) (outcome : ScaleDown.Outcome) (msg : String) : KnativeAdoption :=
  match outcome with
  | .allowZero => clearConditionIfReason (setCondition a .scaleDownAllowed .true .scaleDownAllowed msg) .degraded
      .scaleDownProbeError
  | .block => setCondition a .scaleDownAllowed .false .scaleDownBlocked msg
  | .noPods => clearConditionIfReason (setCondition a .scaleDownAllowed .true .scaleDownAllowed
      "ksvc already at zero; no pods to probe") .degraded .scaleDownProbeError

/-- The decision that follows from a vote. -/
def decided (a : KnativeAdoption) (outcome : ScaleDown.Outcome) : Decision :=
  match outcome with
  | .allowZero => ⟨a.ns,a.name,a.name,0,"scaledownz=true"⟩
  | .block => ⟨a.ns,a.name,a.name,1,"ScaleDownBlocked"⟩
  | .noPods => ⟨a.ns,a.name,a.name,0,"no-pods"⟩

/-- The adoption after a round with these results. -/
def voted (a : KnativeAdoption) (results : List ScaleDown.Result) : KnativeAdoption :=
  maybeMarkDegraded (recorded (a.withProbe (mergeProbeStatus a.status.lastScaleDownProbe (ScaleDown.vote results)
    (roundMessage results) ((ScaleDown.tally results).errored > 0))) (ScaleDown.vote results) (roundMessage results))
    (guardConfig a).failureThreshold

theorem sameButConditions_maybeMarkDegraded (a : KnativeAdoption) (threshold : Int) :
    SameButConditions a (maybeMarkDegraded a threshold) := by
  unfold maybeMarkDegraded
  split
  · exact .refl a
  · split
    · exact .refl a
    · exact ⟨_,rfl⟩

theorem sameButConditions_recorded (a : KnativeAdoption) (outcome : ScaleDown.Outcome) (msg : String) :
    SameButConditions a (recorded a outcome msg) := by
  cases outcome with
  | allowZero => exact .trans _ _ _ (sameButConditions_setCondition _ _ _ _ _) (sameButConditions_clearConditionIfReason _ _ _)
  | block => exact sameButConditions_setCondition _ _ _ _ _
  | noPods => exact .trans _ _ _ (sameButConditions_setCondition _ _ _ _ _) (sameButConditions_clearConditionIfReason _ _ _)

theorem unlisted_same (a : KnativeAdoption) (err : ApiError) :
    SameButConditions (bumpProbeError a ("list pods: " ++ err.message)) (unlisted a err) :=
  .trans _ _ _ (sameButConditions_setCondition _ _ _ _ _) (sameButConditions_maybeMarkDegraded _ _)

theorem voted_same (a : KnativeAdoption) (results : List ScaleDown.Result) :
    SameButConditions (a.withProbe (mergeProbeStatus a.status.lastScaleDownProbe (ScaleDown.vote results)
      (roundMessage results) ((ScaleDown.tally results).errored > 0))) (voted a results) :=
  .trans _ _ _ (sameButConditions_recorded _ _ _) (sameButConditions_maybeMarkDegraded _ _)

theorem effectiveMinScale_conditions (a b : KnativeAdoption) (same : SameButConditions a b) :
    effectiveMinScale b = effectiveMinScale a := by
  obtain ⟨conditions,rfl⟩ := same
  rfl

/-! The calls of a round. -/

section Rounds
variable {env : Cluster → Cluster → Prop}

theorem run_listKSvcPods (ns name : String) (c d : Cluster) (log : CallLog) (answer : Except ApiError (List Pod))
    (run : Run apiserver env (listKSvcPods ns name) c log (some answer) d) :
    ∃ before fault response, log = [⟨before,fault,.listPods ns name,response⟩] ∧
      answer = (match response with
        | .error err => .error (err.wrap "list ksvc pods")
        | .ok items => .ok (probedPods items)) := by
  unfold listKSvcPods at run
  obtain ⟨response,m,first,rest,rfl,asked,following⟩ := run_bind_some run
  · obtain ⟨before,fault,_,rfl,served⟩ := run_request asked
    have heard : (apiserver.serve fault before (.listPods ns name)).2 = response := by rw [served]
    refine ⟨before,fault,response,?_,?_⟩
    · rw [← heard]
      cases answered : (apiserver.serve fault before (.listPods ns name)).2 with
      | error err =>
        rw [← heard,answered] at following
        rw [(run_pure following).1]
        simp [Server.event,answered]
      | ok items =>
        rw [← heard,answered] at following
        rw [(run_pure following).1]
        simp [Server.event,answered]
    · cases response with
      | error err => exact (run_return following).2.2
      | ok items => exact (run_return following).2.2

/-- One probe for each pod, in order. -/
theorem run_probeAll (a : KnativeAdoption) (path : String) (timeout : Int) (pods : List Pod) (c d : Cluster)
    (log : CallLog) (results : List ScaleDown.Result)
    (run : Run apiserver env (probeAll a path timeout pods) c log (some results) d) :
    List.Forall₂ (fun pod answer => answer.1 = ⟨pod.ns,pod.name⟩) pods (probeAnswers log) ∧
      results = (probeAnswers log).map (fun answer => answer.2) ∧ enqueued log = [] := by
  induction pods generalizing c d log results with
  | nil =>
    obtain ⟨rfl,_,returned⟩ := run_return run
    exact ⟨.nil,returned,rfl⟩
  | cons pod rest ih =>
    unfold probeAll at run
    obtain ⟨result,m,first,others,rfl,asked,following⟩ := run_bind_some run
    · obtain ⟨before,fault,_,rfl,served⟩ := run_request asked
      obtain ⟨more,e,second,last,rfl,probed,ended⟩ := run_bind_some following
      · obtain ⟨rfl,_,returned⟩ := run_pure ended
        obtain ⟨answered,same,silent⟩ := ih m e second more probed
        have heard : (apiserver.serve fault before (.probe pod.ns pod.name (resolveProbePort a pod) path timeout)).2 =
            result := by rw [served]
        have head : probeAnswers ([apiserver.event fault before
            (.probe pod.ns pod.name (resolveProbePort a pod) path timeout)]++(second++[])) =
            (⟨pod.ns,pod.name⟩,result)::probeAnswers second := by
          rw [← heard,List.append_nil]
          rfl
        rw [head]
        refine ⟨.cons rfl answered,?_,?_⟩
        · rw [returned _ rfl,same]
          rfl
        · rw [List.append_nil]
          exact silent

theorem run_recordOutcome (r : KnativeAdoptionReconciler) (a b : KnativeAdoption) (outcome : ScaleDown.Outcome)
    (msg : String) (c d : Cluster) (log : CallLog)
    (run : Run apiserver env (recordOutcome r a outcome msg) c log (some b) d) :
    b = recorded a outcome msg ∧ podList log = none ∧ probeAnswers log = [] ∧
      enqueued log = if r.flusher then [decided a outcome] else [] := by
  have handed (b' : KnativeAdoption) (desired : Int) (reason : String) (same : b'.key = a.key)
      (run : Run apiserver env (enqueueMinScale r b' desired reason >>= fun _ => pure b') c log (some b) d) :
      b = b' ∧ podList log = none ∧ probeAnswers log = [] ∧
        enqueued log = if r.flusher then [⟨a.ns,a.name,a.name,desired,reason⟩] else [] := by
    have ns : b'.ns = a.ns := congrArg NamespacedName.ns same
    have name : b'.name = a.name := congrArg NamespacedName.name same
    unfold enqueueMinScale at run
    obtain ⟨_,m,first,rest,rfl,asked,ended⟩ := run_bind_some run
    · obtain ⟨rfl,_,returned⟩ := run_return ended
      refine ⟨returned,?_⟩
      cases wired : r.flusher with
      | false =>
        rw [wired] at asked
        obtain ⟨rfl,_,_⟩ := run_pure asked
        exact ⟨rfl,rfl,rfl⟩
      | true =>
        rw [wired] at asked
        obtain ⟨_,e,second,last,rfl,sent,closed⟩ := run_bind_some asked
        · obtain ⟨before,fault,_,rfl,_⟩ := run_request sent
          obtain ⟨rfl,_,_⟩ := run_pure closed
          rw [ns,name]
          exact ⟨rfl,rfl,rfl⟩
  have cleared (b' : KnativeAdoption) (t : ConditionType) (reason : Reason) :
      (clearConditionIfReason b' t reason).key = b'.key := by
    obtain ⟨_,same⟩ := sameButConditions_clearConditionIfReason b' t reason
    rw [same]
    rfl
  cases outcome with
  | allowZero => exact handed _ 0 _ (cleared _ _ _) run
  | block => exact handed _ 1 _ rfl run
  | noPods => exact handed _ 0 _ (cleared _ _ _) run

/-- What the round was told. -/
inductive Told (a : KnativeAdoption) (log : CallLog) : Except ApiError (List ScaleDown.Result) → Prop where
  | unlisted (err : ApiError) (refused : podList log = some (.error err)) (unasked : probeAnswers log = []) :
      Told a log (.error (err.wrap "list ksvc pods"))
  | probed (items : List Pod) (listed : podList log = some (.ok items))
      (asked : List.Forall₂ (fun pod answer => answer.1 = ⟨pod.ns,pod.name⟩) (probedPods items) (probeAnswers log)) :
      Told a log (.ok ((probeAnswers log).map (fun answer => answer.2)))

/-- The outcome, the adoption and the decisions of a round. -/
def concluded (r : KnativeAdoptionReconciler) (a : KnativeAdoption) :
    Except ApiError (List ScaleDown.Result) → KnativeAdoption × ScaleDown.Outcome × List Decision
  | .error err => (unlisted a err,.block,[])
  | .ok results => (voted a results,ScaleDown.vote results,if r.flusher then [decided a (ScaleDown.vote results)] else [])

/-- A finished round is what it was told. -/
theorem run_runScaleDownGuard (r : KnativeAdoptionReconciler) (a b : KnativeAdoption) (outcome : ScaleDown.Outcome)
    (after : Int) (c d : Cluster) (log : CallLog) (prober : r.prober = true)
    (run : Run apiserver env (runScaleDownGuard r a) c log (some (b,outcome,after)) d) :
    ∃ told, Told a log told ∧ (b,outcome,enqueued log) = concluded r a told := by
  unfold runScaleDownGuard at run
  simp only [prober,Bool.not_true,Bool.false_eq_true,if_false] at run
  obtain ⟨answer,m,first,rest,rfl,asked,following⟩ := run_bind_some run
  · obtain ⟨before,fault,response,rfl,same⟩ := run_listKSvcPods _ _ _ _ _ _ asked
    cases response with
    | error err =>
      rw [same] at following
      obtain ⟨rfl,_,⟨⟩⟩ := run_return following
      exact ⟨_,.unlisted err rfl rfl,rfl⟩
    | ok items =>
      rw [same] at following
      obtain ⟨results,e,second,last,rfl,probed,recording⟩ := run_bind_some following
      · obtain ⟨answered,heard,silent⟩ := run_probeAll _ _ _ _ _ _ _ _ probed
        obtain ⟨marked,f,third,tail,rfl,recordedRun,ended⟩ := run_bind_some recording
        · obtain ⟨rfl,_,⟨⟩⟩ := run_return ended
          obtain ⟨rfl,_,unasked,sent⟩ := run_recordOutcome _ _ _ _ _ _ _ _ recordedRun
          generalize whole : ([⟨before,fault,.listPods a.ns a.name,.ok items⟩]++(second++(third++[])) : CallLog) = log
          have answers : probeAnswers log = probeAnswers second := by
            rw [← whole]
            simp only [probeAnswers_append,unasked,List.append_nil]
            rfl
          have decisions : enqueued log = enqueued third := by
            rw [← whole]
            simp only [enqueued_append,silent,List.append_nil,List.nil_append]
            rfl
          rw [← answers] at answered heard
          refine ⟨_,.probed items ?_ answered,?_⟩
          · rw [← whole]
            rfl
          · rw [decisions,sent,← heard]
            rfl

/-- A pass skips the guard, or runs it after finding the Knative Service ready. -/
theorem maybeRunGuard_cases (r : KnativeAdoptionReconciler) (a b : KnativeAdoption) (c d : Cluster) (log : CallLog)
    (run : Run apiserver env (maybeRunGuard r a) c log (some b) d) :
    (b = a ∧ podList log = none ∧ enqueued log = []) ∨
    guardEnabled a = true ∧ ∃ before fault live rest outcome after, env c before ∧
      log = apiserver.event fault before (.getKService a.key)::rest ∧ before.ksvcs.get a.key = some live ∧
      Run apiserver env (runScaleDownGuard r a) before rest (some (b,outcome,after)) d := by
  unfold maybeRunGuard at run
  cases enabled : guardEnabled a with
  | false =>
    simp only [enabled,Bool.not_false,if_true] at run
    obtain ⟨rfl,-,returned⟩ := run_return run
    exact Or.inl ⟨returned,rfl,rfl⟩
  | true =>
    simp only [enabled,Bool.not_true,Bool.false_eq_true,if_false] at run
    obtain ⟨response,m,first,rest,rfl,asked,following⟩ := run_bind_some run
    obtain ⟨before,fault,moved,rfl,served⟩ := run_request asked
    cases response with
    | error err =>
      obtain ⟨rfl,-,returned⟩ := run_return following
      exact Or.inl ⟨returned,rfl,rfl⟩
    | ok prev =>
      cases ready : (r.ready prev).1 with
      | false =>
        simp only [ready,Bool.false_eq_true,if_false] at following
        obtain ⟨rfl,-,returned⟩ := run_return following
        exact Or.inl ⟨returned,rfl,rfl⟩
      | true =>
        simp only [ready,if_true] at following
        obtain ⟨result,e,second,last,rfl,guarded,ended⟩ := run_bind_some following
        obtain ⟨marked,outcome,after⟩ := result
        obtain ⟨rfl,rfl,⟨⟩⟩ := run_return ended
        have held : before.ksvcs.get a.key = some prev := getKService_ok (congrArg Prod.snd served)
        have unmoved : m = before := (congrArg Prod.fst served).symm.trans (serve_read _ rfl)
        subst unmoved
        exact Or.inr ⟨rfl,m,fault,prev,second,outcome,after,moved,by rw [List.append_nil]; rfl,held,guarded⟩

end Rounds

/-! The verdict on the minimum scale. -/

/-- The pods were listed, and each one that can be asked was asked and confirmed. -/
def Confirmed (log : CallLog) : Prop :=
  ∃ items, podList log = some (.ok items) ∧
    List.Forall₂ (fun pod answer => answer.1 = ⟨pod.ns,pod.name⟩) (probedPods items) (probeAnswers log) ∧
    ∀ answer ∈ probeAnswers log, answer.2.Confirms

/-- The minimum scale is zero only on full confirmation, and one in every other case. -/
structure FailClosed (log : CallLog) (outcome : ScaleDown.Outcome) (b : KnativeAdoption) : Prop where
  zero : effectiveMinScale b = 0 → Confirmed log
  doubted : ¬ Confirmed log → effectiveMinScale b = 1
  blocked : outcome = .block → effectiveMinScale b = 1

theorem guardEnabled_base (a : KnativeAdoption) (enabled : guardEnabled a = true) :
    a.spec.autoscaling.minScale.getD 0 = 0 := by
  unfold guardEnabled at enabled
  cases held : a.spec.autoscaling.minScale with
  | none => rfl
  | some minScale => simpa [held] using enabled

theorem effectiveMinScale_voted (a : KnativeAdoption) (results : List ScaleDown.Result) (enabled : guardEnabled a = true) :
    effectiveMinScale (voted a results) = if ScaleDown.vote results = .block then 1 else 0 := by
  have base : (a.withProbe (mergeProbeStatus a.status.lastScaleDownProbe (ScaleDown.vote results) (roundMessage results)
      ((ScaleDown.tally results).errored > 0))).spec.autoscaling.minScale.getD 0 = 0 := guardEnabled_base a enabled
  rw [effectiveMinScale_conditions _ _ (voted_same a results)]
  unfold effectiveMinScale
  rw [base]
  cases ScaleDown.vote results <;> simp [guardBlocked,KnativeAdoption.withProbe,mergeProbeStatus]

theorem effectiveMinScale_unlisted (a : KnativeAdoption) (err : ApiError) (enabled : guardEnabled a = true) :
    effectiveMinScale (unlisted a err) = 0 := by
  have base := guardEnabled_base a enabled
  rw [effectiveMinScale_conditions _ _ (unlisted_same a err)]
  simp only [effectiveMinScale,guardBlocked,bumpProbeError,KnativeAdoption.withProbe,base]
  rfl

theorem confirmed_iff_vote (log : CallLog) (items : List Pod) (listed : podList log = some (.ok items))
    (asked : List.Forall₂ (fun pod answer => answer.1 = ⟨pod.ns,pod.name⟩) (probedPods items) (probeAnswers log)) :
    Confirmed log ↔ ScaleDown.vote ((probeAnswers log).map (fun answer => answer.2)) ≠ .block := by
  rw [ne_eq,ScaleDown.vote_block_iff,not_exists]
  constructor
  · rintro ⟨_,_,_,confirmed⟩ result ⟨member,doubt⟩
    obtain ⟨answer,inside,rfl⟩ := List.mem_map.mp member
    exact doubt (confirmed answer inside)
  · intro sure
    refine ⟨items,listed,asked,fun answer inside => ?_⟩
    by_contra doubt
    exact sure answer.2 ⟨List.mem_map.mpr ⟨answer,inside,rfl⟩,doubt⟩

/-- A round fails closed exactly when the pods could be listed: after a list error the
probe is Unknown, which does not block. -/
theorem guard_failClosed (env : Cluster → Cluster → Prop) (r : KnativeAdoptionReconciler) (a b : KnativeAdoption)
    (outcome : ScaleDown.Outcome) (after : Int) (c d : Cluster) (log : CallLog) (enabled : guardEnabled a = true)
    (prober : r.prober = true) (run : Run apiserver env (runScaleDownGuard r a) c log (some (b,outcome,after)) d) :
    FailClosed log outcome b ↔ ∃ items, podList log = some (.ok items) := by
  obtain ⟨told,heard,same⟩ := run_runScaleDownGuard r a b outcome after c d log prober run
  cases heard with
  | unlisted err refused unasked =>
    obtain ⟨rfl,rfl,_⟩ : b = unlisted a _ ∧ outcome = .block ∧ _ = _ := by simpa [concluded] using same
    refine iff_of_false (fun closed => ?_) (fun ⟨items,listed⟩ => ?_)
    · have one := closed.blocked rfl
      rw [effectiveMinScale_unlisted a _ enabled] at one
      cases one
    · rw [refused] at listed
      cases listed
  | probed items listed asked =>
    obtain ⟨rfl,rfl,_⟩ : b = voted a _ ∧ outcome = ScaleDown.vote _ ∧ _ = _ := by simpa [concluded] using same
    have scale := effectiveMinScale_voted a ((probeAnswers log).map (fun answer => answer.2)) enabled
    have sure := confirmed_iff_vote log items listed asked
    refine iff_of_true ⟨fun zero => ?_,fun doubted => ?_,fun blocked => ?_⟩ ⟨items,listed⟩
    · refine sure.mpr (fun blocked => ?_)
      rw [scale,if_pos blocked] at zero
      cases zero
    · rw [scale,if_pos (by simpa using mt sure.mpr doubted)]
    · rw [scale,if_pos blocked]

namespace Sample

def pod : Pod := { ns := "prod", name := "web-1", labels := [("serving.knative.dev/service","web")], phase := .running }

/-- An adoption whose one pod allows its removal. -/
def served : Cluster := { pods := [pod], probes := fun _ name _ _ _ => ⟨name,true,none⟩ }

def guarded : KnativeAdoption := { ns := "prod", name := "web", spec := { sourceRef := { name := "web" } } }

end Sample

/-- A round in which the one pod allows its removal. -/
theorem guard_failClosed_sample :
    let round := apiserver.exec (runScaleDownGuard {} Sample.guarded) [.none,.none,.none] Sample.served
    round.2.1.map (fun result => (effectiveMinScale result.1,result.2.1)) = some (0,.allowZero) ∧
      ∃ b outcome after, round.2.1 = some (b,outcome,after) ∧ FailClosed round.1 outcome b := by
  refine ⟨by decide +kernel,_,_,_,rfl,?_⟩
  exact (guard_failClosed Drift {} Sample.guarded _ _ _ Sample.served _ _ rfl rfl
    (run_exec apiserver Drift Drift.refl (runScaleDownGuard {} Sample.guarded) [.none,.none,.none] Sample.served)).mpr
    ⟨[Sample.pod],by decide +kernel⟩

/-- The pods cannot be listed: the round blocks, and the minimum scale is zero. -/
theorem guard_open_unlisted :
    let round := apiserver.exec (runScaleDownGuard {} Sample.guarded) [.refused "timeout"] Sample.served
    ∃ b outcome after, round.2.1 = some (b,outcome,after) ∧ outcome = .block ∧ effectiveMinScale b = 0 ∧
      ¬ FailClosed round.1 outcome b := by
  refine ⟨_,_,_,rfl,rfl,rfl,fun closed => ?_⟩
  exact absurd (closed.blocked rfl) (by decide)

end Ifaas
