import Ifaas.Library.History
import Ifaas.Readiness

/-! Degraded along the rounds of the guard. A round counts the failed rounds in a row and
raises Degraded when they reach the threshold; a round that is allowed, or finds no pods,
clears it. A round that is plainly refused resets the count and leaves Degraded alone. -/
namespace Ifaas
open Library

/-- The pods could not be listed, or a probe ended with an error. -/
def Round.erred : Round → Bool
  | .skipped => false
  | .unlisted => true
  | .probed results => results.any (fun result => result.err.isSome)

/-- Some pod refused, and every probe was answered. -/
def Round.refused : Round → Bool
  | .probed results => results.any (fun result => !result.allowed) && !results.any (fun result => result.err.isSome)
  | _ => false

theorem errored_iff (results : List ScaleDown.Result) :
    (ScaleDown.tally results).errored > 0 ↔ (Round.probed results).erred = true := by
  rw [ScaleDown.errored_tally]
  simp [Round.erred,List.countP_pos_iff]

theorem Round.answered_of_refused (told : Round) (refused : told.refused = true) : told.erred = false := by
  cases told with
  | skipped => rfl
  | unlisted => cases refused
  | probed results =>
    simp only [Round.refused,Bool.and_eq_true,Bool.not_eq_true'] at refused
    exact refused.2

theorem refused_iff (results : List ScaleDown.Result) (answered : (Round.probed results).erred = false) :
    ScaleDown.vote results = .block ↔ (Round.probed results).refused = true := by
  have silent : ∀ result ∈ results, result.err = none := by
    simpa [Round.erred] using answered
  have every : results.any (fun result => result.err.isSome) = false := answered
  rw [ScaleDown.vote_block_iff]
  simp only [Round.refused,every,Bool.not_false,Bool.and_true,List.any_eq_true,Bool.not_eq_true']
  constructor
  · rintro ⟨result,member,doubted⟩
    refine ⟨result,member,?_⟩
    cases given : result.allowed with
    | false => rfl
    | true => exact absurd ⟨given,silent result member⟩ doubted
  · rintro ⟨result,member,refused⟩
    refine ⟨result,member,fun confirms => ?_⟩
    rw [confirms.1] at refused
    cases refused

/-! One round. -/

def errorCount (a : KnativeAdoption) : Option Int := a.status.lastScaleDownProbe.map (fun probe => probe.consecutiveErrors)

theorem errorCount_conditions (a b : KnativeAdoption) (same : SameButConditions a b) : errorCount b = errorCount a := by
  obtain ⟨conditions,rfl⟩ := same
  rfl

theorem failedRounds_of_count (a : KnativeAdoption) (count : Int) (held : errorCount a = some count) :
    failedRounds a = succ32 count := by
  unfold errorCount at held
  unfold failedRounds
  cases probe : a.status.lastScaleDownProbe with
  | none => simp [probe] at held
  | some status =>
    rw [probe] at held
    cases held
    rfl

/-- The counter is an int32. -/
theorem failedRounds_lt (a : KnativeAdoption) : failedRounds a < 2^31 := by
  unfold failedRounds succ32
  split
  next probe held =>
    have bound : Int.bmod (probe.consecutiveErrors + 1) (2^32) < ((2^32 : Nat) + 1 : Int) / 2 := Int.bmod_lt (by decide)
    omega
  · decide

theorem succ32_small (count : Nat) (small : count + 1 < 2^31) : succ32 count = count + 1 := by
  unfold succ32
  rw [Int.bmod_eq_of_le] <;> omega

theorem Rounded.count {a b : KnativeAdoption} {told : Round} (rounded : Rounded a told b) :
    errorCount b = some (if told.erred then failedRounds a else 0) := by
  cases rounded with
  | unlisted err =>
    rw [errorCount_conditions _ _ (unlisted_same a err)]
    rfl
  | probed results =>
    rw [errorCount_conditions _ _ (voted_same a results)]
    cases erred : (Round.probed results).erred with
    | false =>
      have none_failed : ¬ (ScaleDown.tally results).errored > 0 := by
        rw [errored_iff,erred]
        exact Bool.false_ne_true
      simp [errorCount,KnativeAdoption.withProbe,mergeProbeStatus,none_failed]
    | true =>
      have failed : (ScaleDown.tally results).errored > 0 := (errored_iff results).mpr erred
      simp only [errorCount,KnativeAdoption.withProbe,mergeProbeStatus,failed,decide_true,failedRounds,if_true]
      cases a.status.lastScaleDownProbe <;> rfl

theorem Rounded.spec {a b : KnativeAdoption} {told : Round} (rounded : Rounded a told b) : b.spec = a.spec := by
  cases rounded with
  | unlisted err =>
    obtain ⟨_,same⟩ := unlisted_same a err
    rw [same]
    rfl
  | probed results =>
    obtain ⟨_,same⟩ := voted_same a results
    rw [same]
    rfl

/-- Degraded after a round, by its kind. -/
theorem Rounded.degradation {a b : KnativeAdoption} {told : Round} (rounded : Rounded a told b) :
    standing b .degraded =
      if told.erred then degradedByFailure a
      else if told.refused then standing a .degraded
      else (standing a .degraded).filter (fun reason => reason ≠ .scaleDownProbeError) := by
  rw [rounded.degraded]
  cases rounded with
  | unlisted err => rfl
  | probed results =>
    cases erred : (Round.probed results).erred with
    | true => simp [degradedAfter,(errored_iff results).mpr erred]
    | false =>
      have none_failed : ¬ (ScaleDown.tally results).errored > 0 := by
        rw [errored_iff,erred]
        exact Bool.false_ne_true
      simp only [degradedAfter,none_failed,if_false,refused_iff results erred,Bool.false_eq_true]

/-! Round after round. -/

/-- What a round was told and the adoption it left. -/
structure GuardRound where
  told : Round
  after : KnativeAdoption

def latest (a : KnativeAdoption) (history : List GuardRound) : KnativeAdoption :=
  (history.getLast?.map (fun x => x.after)).getD a

/-- Between two rounds everything may change but Degraded, the last probe and the threshold. -/
structure GuardKept (a b : KnativeAdoption) : Prop where
  degraded : standing b .degraded = standing a .degraded
  probe : b.status.lastScaleDownProbe = a.status.lastScaleDownProbe
  threshold : (guardConfig b).failureThreshold = (guardConfig a).failureThreshold

/-- Rounds of the guard over one adoption, with no other writer of Degraded. -/
inductive GuardRounds (env : Cluster → Cluster → Prop) (r : KnativeAdoptionReconciler) (a : KnativeAdoption) :
    List GuardRound → Prop where
  | start : GuardRounds env r a []
  | round (history : List GuardRound) (b after : KnativeAdoption) (c d : Cluster) (log : CallLog)
      (outcome : ScaleDown.Outcome) (interval : Int) (before : GuardRounds env r a history)
      (kept : GuardKept (latest a history) b)
      (run : Run apiserver env (runScaleDownGuard r b) c log (some (after,outcome,interval)) d) :
      GuardRounds env r a (history++[⟨round log,after⟩])

/-- The number of rounds with an error at the end of a history. -/
def errorRun (history : List GuardRound) : Nat := (history.reverse.takeWhile (fun x => x.told.erred)).length

theorem errorRun_snoc (history : List GuardRound) (x : GuardRound) :
    errorRun (history++[x]) = if x.told.erred then errorRun history + 1 else 0 := by
  unfold errorRun
  rw [List.reverse_append,List.reverse_singleton,List.singleton_append,List.takeWhile_cons]
  split <;> rfl

theorem latest_snoc (a : KnativeAdoption) (history : List GuardRound) (x : GuardRound) : latest a (history++[x]) = x.after := by
  simp [latest]

/-- The counter is the run of errors, and Degraded says whether it has reached the threshold. -/
def RunTracked (threshold : Int) (past : List GuardRound) (x : GuardRound) : Prop :=
  errorCount x.after = some (errorRun (past++[x]) : Int) ∧
    (standing x.after .degraded = some .scaleDownProbeError ↔ threshold ≤ errorRun (past++[x]))

/-- The count starts at zero, stays in an int32, and no plain refusal follows a run of errors
that has reached the threshold. -/
structure RunTrackable (a : KnativeAdoption) (threshold : Int) (past : List GuardRound) (x : GuardRound) : Prop where
  fresh : past = [] → x.told.erred = true → failedRounds a = 1
  short : errorRun (past++[x]) < 2^31
  unrefused : x.told.refused = true → (errorRun past : Int) < threshold

/-- The state between two rounds, as long as everything was tracked. -/
structure Following (a : KnativeAdoption) (threshold : Int) (history : List GuardRound) : Prop where
  count : history ≠ [] → errorCount (latest a history) = some (errorRun history : Int)
  degraded : standing (latest a history) .degraded =
    if threshold ≤ errorRun history then some .scaleDownProbeError else none

theorem following_start (a : KnativeAdoption) (threshold : Int) (positive : 0 < threshold)
    (absent : findStatusCondition a.status.conditions .degraded = none) : Following a threshold [] := by
  refine ⟨fun some_ => absurd rfl some_,?_⟩
  rw [if_neg (by simpa [errorRun] using positive)]
  simp [latest,standing,absent]

section Step
variable {a b : KnativeAdoption} {threshold : Int} {history : List GuardRound} {x : GuardRound}
  (following : Following a threshold history) (kept : GuardKept (latest a history) b) (rounded : Rounded b x.told x.after)
  (same : (guardConfig b).failureThreshold = threshold) (positive : 0 < threshold)
include following kept

/-- The count a failed round leaves. -/
theorem failedRounds_following : failedRounds b = if history = [] then failedRounds a else succ32 (errorRun history) := by
  have probe : failedRounds b = failedRounds (latest a history) := by
    unfold failedRounds
    rw [kept.probe]
  rw [probe]
  split
  next empty =>
    subst empty
    rfl
  next some_ => exact failedRounds_of_count _ _ (following.count some_)

include rounded

/-- No other reason than the guard's own ever stands. -/
theorem degraded_cases : standing x.after .degraded = none ∨ standing x.after .degraded = some .scaleDownProbeError := by
  have stood : standing b .degraded = none ∨ standing b .degraded = some .scaleDownProbeError := by
    rw [kept.degraded,following.degraded]
    split
    · exact Or.inr rfl
    · exact Or.inl rfl
  rw [rounded.degradation,degradedByFailure]
  rcases stood with clear | raised
  · rw [clear]
    split
    · split
      · exact Or.inl rfl
      · exact Or.inr rfl
    · split <;> exact Or.inl rfl
  · rw [raised]
    split
    · split <;> exact Or.inr rfl
    · split
      · exact Or.inr rfl
      · exact Or.inl rfl

theorem following_round (tracked : RunTracked threshold history x) : Following a threshold (history++[x]) := by
  obtain ⟨count,raised⟩ := tracked
  refine ⟨fun _ => by rw [latest_snoc,count],?_⟩
  rw [latest_snoc]
  split
  next reached => exact raised.mpr reached
  next low =>
    rcases degraded_cases following kept rounded with clear | stands
    · exact clear
    · exact absurd (raised.mp stands) low

include same positive

theorem tracked_iff_trackable : RunTracked threshold history x ↔ RunTrackable a threshold history x := by
  have stood : standing b .degraded = if threshold ≤ errorRun history then some .scaleDownProbeError else none :=
    kept.degraded.trans following.degraded
  have failing := failedRounds_following following kept
  cases erred : x.told.erred with
  | true =>
    have grown : errorRun (history++[x]) = errorRun history + 1 := by
      rw [errorRun_snoc,erred]
      rfl
    have count : errorCount x.after = some (failedRounds b) := by
      rw [rounded.count,erred]
      rfl
    have degraded : standing x.after .degraded = degradedByFailure b := by
      rw [rounded.degradation,erred]
      rfl
    constructor
    · rintro ⟨counted,-⟩
      have exactly : failedRounds b = errorRun history + 1 := by
        rw [count,grown] at counted
        simpa using counted
      refine ⟨fun empty _ => ?_,?_,fun refused => ?_⟩
      · rw [failing,if_pos empty] at exactly
        rw [exactly,empty]
        rfl
      · have bound := failedRounds_lt b
        omega
      · have answered := x.told.answered_of_refused refused
        rw [erred] at answered
        cases answered
    · intro able
      have short := able.short
      have exactly : failedRounds b = errorRun history + 1 := by
        rw [failing]
        split
        next empty =>
          rw [able.fresh empty erred,empty]
          rfl
        · exact succ32_small _ (by omega)
      refine ⟨by rw [count,exactly,grown]; rfl,?_⟩
      rw [degraded,degradedByFailure,exactly,same,stood,grown]
      by_cases reached : threshold ≤ errorRun history + 1
      · simp [reached]
      · have before : ¬ threshold ≤ errorRun history := by omega
        simp [reached,before]
  | false =>
    have ended : errorRun (history++[x]) = 0 := by
      rw [errorRun_snoc,erred]
      rfl
    have count : errorCount x.after = some 0 := by
      rw [rounded.count,erred]
      rfl
    have degraded := rounded.degradation
    rw [erred,if_neg Bool.false_ne_true,stood] at degraded
    constructor
    · rintro ⟨-,raised⟩
      refine ⟨fun _ failed => ?_,by omega,fun refused => ?_⟩
      · rw [erred] at failed
        cases failed
      · by_contra reached
        rw [if_pos refused,if_pos (by omega)] at degraded
        have := raised.mp degraded
        omega
    · intro able
      refine ⟨by rw [count,ended]; rfl,?_⟩
      rw [ended]
      refine iff_of_false (fun raised => ?_) (by omega)
      cases refused : x.told.refused with
      | true =>
        have low := able.unrefused refused
        rw [refused,if_pos rfl,if_neg (by omega)] at degraded
        rw [degraded] at raised
        cases raised
      | false =>
        rw [refused,if_neg Bool.false_ne_true] at degraded
        rw [degraded] at raised
        have other := (Option.filter_eq_some_iff.mp raised).2
        cases other

end Step

theorem threshold_latest (env : Cluster → Cluster → Prop) (r : KnativeAdoptionReconciler) (a : KnativeAdoption)
    (history : List GuardRound) (prober : r.prober = true) (rounds : GuardRounds env r a history) :
    (guardConfig (latest a history)).failureThreshold = (guardConfig a).failureThreshold := by
  induction rounds with
  | start => rfl
  | round history b after c d log outcome interval before kept run ih =>
    have rounded := rounded_runScaleDownGuard env r b after outcome interval c d log prober run
    have config : guardConfig after = guardConfig b := by
      unfold guardConfig
      rw [rounded.spec]
    rw [latest_snoc,config,kept.threshold,ih]

theorem tracked_rounds (env : Cluster → Cluster → Prop) (r : KnativeAdoptionReconciler) (a : KnativeAdoption)
    (history : List GuardRound) (prober : r.prober = true)
    (absent : findStatusCondition a.status.conditions .degraded = none) (rounds : GuardRounds env r a history) :
    (Library.Recorded (RunTracked (guardConfig a).failureThreshold) history ↔
      Library.Recorded (RunTrackable a (guardConfig a).failureThreshold) history) ∧
    (Library.Recorded (RunTracked (guardConfig a).failureThreshold) history →
      Following a (guardConfig a).failureThreshold history) := by
  have positive := threshold_positive a
  -- by induction on the rounds: while everything was tracked, the state follows the run
  induction rounds with
  | start => exact ⟨iff_of_true (recorded_nil _) (recorded_nil _),fun _ => following_start a _ positive absent⟩
  | round history b after c d log outcome interval before kept run ih =>
    obtain ⟨same,follows⟩ := ih
    have threshold : (guardConfig b).failureThreshold = (guardConfig a).failureThreshold :=
      kept.threshold.trans (threshold_latest env r a history prober before)
    have rounded := rounded_runScaleDownGuard env r b after outcome interval c d log prober run
    rw [recorded_snoc_iff,recorded_snoc_iff,← same]
    refine ⟨and_congr_right (fun tracked => ?_),fun ⟨tracked,now⟩ => ?_⟩
    · exact tracked_iff_trackable (follows tracked) kept rounded threshold positive
    · exact following_round (follows tracked) kept rounded now

/-- The counter and Degraded track the run of errors after every round exactly if the count
starts at zero, fits in its int32, and no plain refusal follows a run that has reached the
threshold. -/
theorem degradation_tracked_iff (env : Cluster → Cluster → Prop) (r : KnativeAdoptionReconciler) (a : KnativeAdoption)
    (history : List GuardRound) (prober : r.prober = true)
    (absent : findStatusCondition a.status.conditions .degraded = none) (rounds : GuardRounds env r a history) :
    Library.Recorded (RunTracked (guardConfig a).failureThreshold) history ↔
      Library.Recorded (RunTrackable a (guardConfig a).failureThreshold) history :=
  (tracked_rounds env r a history prober absent rounds).1

namespace Sample

/-- One failed round is enough for Degraded. -/
def strict : KnativeAdoption :=
  { guarded with spec := { guarded.spec with scaleDownProbe := { consecutiveFailureThreshold := 1 } } }

/-- The one pod can not be asked. -/
def unanswered : Cluster := { served with probes := fun _ name _ _ _ => ⟨name,false,some (.text "timeout")⟩ }

/-- The one pod refuses. -/
def refusing : Cluster := { served with probes := fun _ name _ _ _ => ⟨name,false,none⟩ }

def guardPass (c : Cluster) (a : KnativeAdoption) : CallLog × Option (KnativeAdoption × ScaleDown.Outcome × Int) × Cluster :=
  apiserver.exec (runScaleDownGuard {} a) [.none,.none,.none] c

def roundIn (c : Cluster) (a : KnativeAdoption) : GuardRound :=
  ⟨round (guardPass c a).1,((guardPass c a).2.1.map Prod.fst).getD a⟩

/-- A failed round and the one after it. -/
def roundsWith (next : Cluster) : List GuardRound :=
  [roundIn unanswered strict,roundIn next (roundIn unanswered strict).after]

theorem guardRounds_snoc (c : Cluster) (a : KnativeAdoption) (history : List GuardRound)
    (before : GuardRounds Drift {} a history) (finished : (guardPass c (latest a history)).2.1.isSome = true) :
    GuardRounds Drift {} a (history++[roundIn c (latest a history)]) := by
  obtain ⟨⟨after,outcome,interval⟩,ended⟩ := Option.isSome_iff_exists.mp finished
  have run : Run apiserver Drift (runScaleDownGuard {} (latest a history)) c (guardPass c (latest a history)).1
      (some (after,outcome,interval)) (guardPass c (latest a history)).2.2 := by
    rw [← ended]
    exact run_exec apiserver Drift Drift.refl _ _ _
  have same : roundIn c (latest a history) = ⟨round (guardPass c (latest a history)).1,after⟩ := by
    simp [roundIn,ended]
  rw [same]
  exact .round history _ after c _ _ outcome interval before ⟨rfl,rfl,rfl⟩ run

theorem guardRounds_with (next : Cluster)
    (finished : (guardPass next (roundIn unanswered strict).after).2.1.isSome = true) :
    GuardRounds Drift {} strict (roundsWith next) :=
  guardRounds_snoc next strict [roundIn unanswered strict]
    (guardRounds_snoc unanswered strict [] .start (by decide +kernel)) finished

end Sample

/-- A failed round raises Degraded, and a round in which the pod allows its removal clears it. -/
theorem degradation_tracked_sample :
    GuardRounds Drift {} Sample.strict (Sample.roundsWith Sample.served) ∧
      Library.Recorded (RunTracked 1) (Sample.roundsWith Sample.served) := by
  have rounds := Sample.guardRounds_with Sample.served (by decide +kernel)
  refine ⟨rounds,(degradation_tracked_iff Drift {} Sample.strict _ rfl rfl rounds).mpr ?_⟩
  have first : RunTrackable Sample.strict 1 [] (Sample.roundIn Sample.unanswered Sample.strict) :=
    ⟨fun _ _ => by decide +kernel,by decide +kernel,by decide +kernel⟩
  have second : RunTrackable Sample.strict 1 [Sample.roundIn Sample.unanswered Sample.strict]
      (Sample.roundIn Sample.served (Sample.roundIn Sample.unanswered Sample.strict).after) :=
    ⟨nofun,by decide +kernel,by decide +kernel⟩
  exact recorded_snoc _ _ _ (recorded_snoc _ _ _ (recorded_nil _) first) second

/-- A refusal ends the run of errors, and Degraded stays. -/
theorem degraded_after_refusal :
    GuardRounds Drift {} Sample.strict (Sample.roundsWith Sample.refusing) ∧
      (Sample.roundsWith Sample.refusing).map (fun x => (x.told.erred,errorCount x.after,standing x.after .degraded)) =
        [(true,some 1,some .scaleDownProbeError),(false,some 0,some .scaleDownProbeError)] ∧
      errorRun (Sample.roundsWith Sample.refusing) = 0 ∧
      ¬ Library.Recorded (RunTracked 1) (Sample.roundsWith Sample.refusing) := by
  refine ⟨Sample.guardRounds_with Sample.refusing (by decide +kernel),by decide +kernel,by decide +kernel,fun tracked => ?_⟩
  have raised := (tracked [_] _ [] rfl).2.mp (by decide +kernel)
  exact absurd raised (by decide +kernel)

end Ifaas
