import Ifaas.FlusherAdapter
import Ifaas.GuardDegradation

/-! The causes of Degraded. Four writers raise the one condition and two of them clear it,
each by the reason it finds there; the condition has room for one reason, and two of the
writers use the same. -/
namespace Ifaas
open Library

inductive Raiser where
  | guard
  | flusher
  | apply
  | delete
deriving DecidableEq

/-- The reason a writer raises Degraded with. -/
def Raiser.reason : Raiser → Reason
  | .guard => .scaleDownProbeError
  | .flusher => .scaleDownProbeError
  | .apply => .serviceApplyFailed
  | .delete => .serviceSwapDeleteFail

inductive Deed where
  | raised (writer : Raiser)
  | resolved (writer : Raiser)
deriving DecidableEq

/-- What a deed makes of Degraded. -/
def Deed.effect (held : Option Reason) : Option Deed → Option Reason
  | none => held
  | some (.raised w) => some w.reason
  | some (.resolved w) => held.filter (fun reason => reason ≠ w.reason)

/-! The steps of the writers. -/

/-- A round raises once its errors reach the threshold, and resolves when it is allowed or finds no pods. -/
def guardDeed (a : KnativeAdoption) (told : Round) : Option Deed :=
  if told.erred then
    if failedRounds a < (guardConfig a).failureThreshold then none else some (.raised .guard)
  else if told.refused then none
  else some (.resolved .guard)

/-- The swap raises when the Service is not deleted. -/
def swapDeed (log : CallLog) : Option Deed :=
  log.findSome? (fun e =>
    match e with
    | ⟨_,_,.deleteService _,.error err⟩ => if err.isNotFound then none else some (.raised .delete)
    | _ => none)

/-- The apply raises when it fails, and resolves when it succeeds. -/
def applyDeed (log : CallLog) : Option Deed :=
  log.findSome? (fun e =>
    match e with
    | ⟨_,_,.applyKService _,.error _⟩ => some (.raised .apply)
    | ⟨_,_,.applyKService _,.ok _⟩ => some (.resolved .apply)
    | _ => none)

/-- A step of one writer, from the adoption it starts with to the one it leaves. -/
inductive WriterStep (env : Cluster → Cluster → Prop) (r : KnativeAdoptionReconciler) :
    KnativeAdoption → Option Deed → KnativeAdoption → Prop where
  | guard (a b : KnativeAdoption) (outcome : ScaleDown.Outcome) (interval : Int) (c d : Cluster) (log : CallLog)
      (run : Run apiserver env (runScaleDownGuard r a) c log (some (b,outcome,interval)) d) :
      WriterStep env r a (guardDeed a (round log)) b
  | swap (a b : KnativeAdoption) (answer : Except ApiError SwapDecision) (c d : Cluster) (log : CallLog)
      (run : Run apiserver env (swapService a) c log (some (b,answer)) d) : WriterStep env r a (swapDeed log) b
  | apply (a : KnativeAdoption) (dep : Deployment) (ksvc : KService) (done : Reconciled) (c d : Cluster) (log : CallLog)
      (run : Run apiserver env (applyAdopted r a dep ksvc) c log (some done) d) :
      WriterStep env r a (applyDeed log) done.adoption
  | sink (a b : KnativeAdoption) (decision : Decision) (attempts : Nat) (err : ApiError) (c d : Cluster) (log : CallLog)
      (run : Run apiserver env (newFlusherFailureSink decision attempts err) c log (some ()) d)
      (sent : ∃ e ∈ log, e.request = .patchStatus a b) : WriterStep env r a (some (.raised .flusher)) b

section Steps
variable {env : Cluster → Cluster → Prop} (r : KnativeAdoptionReconciler) (a : KnativeAdoption)

theorem rounded_deed {b : KnativeAdoption} {told : Round} (rounded : Rounded a told b) :
    standing b .degraded = Deed.effect (standing a .degraded) (guardDeed a told) := by
  rw [rounded.degradation]
  unfold guardDeed degradedByFailure
  split
  · split <;> rfl
  · split <;> rfl

theorem takeOver_degraded (b : KnativeAdoption) (svc : Service) (answer : Except ApiError SwapDecision) (c d : Cluster)
    (log : CallLog) (run : Run apiserver env (takeOver a svc) c log (some (b,answer)) d) :
    standing b .degraded = Deed.effect (standing a .degraded) (swapDeed log) := by
  have swapping : standing (snapshotService (serviceSwapping a) svc) .degraded = standing a .degraded := by
    have same : standing (snapshotService (serviceSwapping a) svc) = standing (serviceSwapping a) :=
      standing_conditions _ _ rfl
    rw [same,serviceSwapping,standing_setCondition,Function.update_of_ne (by decide),standing_removeCondition,
      Function.update_of_ne (by decide)]
  cases run_takeOver a b svc answer _ _ log run with
  | gone before fault reply missing =>
    cases reply with
    | ok done => exact swapping
    | error err => simpa [swapDeed,missing err rfl,Deed.effect] using swapping
  | kept before fault err wrapped real =>
    rw [standing_setCondition,Function.update_self]
    simp [swapDeed,real,Deed.effect,Raiser.reason]

theorem swapFound_degraded (b : KnativeAdoption) (svc : Option Service) (answer : Except ApiError SwapDecision)
    (c d : Cluster) (log : CallLog) (run : Run apiserver env (swapFound a svc) c log (some (b,answer)) d) :
    standing b .degraded = Deed.effect (standing a .degraded) (swapDeed log) := by
  unfold swapFound at run
  split at run
  · obtain ⟨rfl,-,⟨⟩⟩ := run_return run
    rw [standing_removeCondition,Function.update_of_ne (by decide)]
    rfl
  · obtain ⟨rfl,-,⟨⟩⟩ := run_return run
    rw [standing_setCondition,Function.update_of_ne (by decide),standing_setCondition,Function.update_of_ne (by decide)]
    rfl
  · cases svc with
    | none =>
      obtain ⟨rfl,-,⟨⟩⟩ := run_return run
      rfl
    | some svc => exact takeOver_degraded a b svc answer _ _ log run

theorem swap_degraded (b : KnativeAdoption) (answer : Except ApiError SwapDecision) (c d : Cluster) (log : CallLog)
    (run : Run apiserver env (swapService a) c log (some (b,answer)) d) :
    standing b .degraded = Deed.effect (standing a .degraded) (swapDeed log) := by
  cases swapService_asks a b answer c d log run with
  | found before m d fault svc rest following => exact swapFound_degraded a b (some svc) answer _ _ rest following
  | missing before m d fault err gone rest following => exact swapFound_degraded a b none answer _ _ rest following
  | unread before fault err real same failed =>
    subst same
    rfl

theorem apply_degraded (dep : Deployment) (ksvc : KService) (done : Reconciled) (c d : Cluster) (log : CallLog)
    (run : Run apiserver env (applyAdopted r a dep ksvc) c log (some done) d) :
    standing done.adoption .degraded = Deed.effect (standing a .degraded) (applyDeed log) := by
  unfold applyAdopted at run
  split at run
  · obtain ⟨rfl,-,⟨⟩⟩ := run_return run
    rfl
  obtain ⟨answer,m,first,rest,rfl,asked,ended⟩ := run_bind_some run
  cases run_applyKnativeService _ _ _ _ _ asked with
  | failed before fault err =>
    obtain ⟨rfl,-,⟨⟩⟩ := run_return ended
    rw [setReady,standing_setCondition,Function.update_of_ne (by decide),standing_setCondition,Function.update_self]
    rfl
  | stored before fault =>
    rw [run_returns (returns_awaitKService_standing r _ dep _ .degraded (by decide)) ended,standing_setCondition,
      Function.update_of_ne (by decide),standing_clearConditionIfReason,Function.update_self]
    rfl

/-- A status that is written has Degraded raised in it. -/
def Request.raises : Request → Prop
  | .patchStatus _ current => standing current .degraded = some .scaleDownProbeError
  | _ => True

theorem uses_newFlusherFailureSink (decision : Decision) (attempts : Nat) (err : ApiError) :
    (newFlusherFailureSink decision attempts err).Uses Request.raises := by
  unfold newFlusherFailureSink
  refine Program.uses_bind (Program.uses_request trivial) (fun answer => ?_)
  cases answer with
  | error err => exact Program.uses_pure _ _
  | ok stored =>
    refine Program.uses_bind (Program.uses_request ?_) (fun _ => Program.uses_pure _ _)
    dsimp only [Request.raises]
    rw [standing_setCondition,Function.update_self]
    rfl

theorem sink_degraded (b : KnativeAdoption) (decision : Decision) (attempts : Nat) (err : ApiError) (c d : Cluster)
    (log : CallLog) (run : Run apiserver env (newFlusherFailureSink decision attempts err) c log (some ()) d)
    (sent : ∃ e ∈ log, e.request = .patchStatus a b) : standing b .degraded = some .scaleDownProbeError := by
  obtain ⟨e,member,same⟩ := sent
  have raised := run_uses (uses_newFlusherFailureSink decision attempts err) run e member
  rw [same] at raised
  exact raised

theorem WriterStep.degraded (prober : r.prober = true) {b : KnativeAdoption} {deed : Option Deed}
    (step : WriterStep env r a deed b) : standing b .degraded = Deed.effect (standing a .degraded) deed := by
  cases step with
  | guard b outcome interval c d log run => exact rounded_deed a (rounded_runScaleDownGuard env r a b outcome interval c d log prober run)
  | swap b answer c d log run => exact swap_degraded a b answer c d log run
  | apply dep ksvc done c d log run => exact apply_degraded r a dep ksvc done c d log run
  | sink b decision attempts err c d log run sent => exact sink_degraded a b decision attempts err c d log run sent

/-- The guard and the apply are the ones that clear. -/
theorem WriterStep.clears {w : Raiser} {b : KnativeAdoption} (step : WriterStep env r a (some (.resolved w)) b) :
    w = .guard ∨ w = .apply := by
  generalize same : some (Deed.resolved w) = deed at step
  cases step with
  | guard b outcome interval c d log run =>
    unfold guardDeed at same
    split at same
    · split at same <;> cases same
    · split at same
      · cases same
      · cases same
        exact Or.inl rfl
  | swap b answer c d log run =>
    obtain ⟨e,-,told⟩ := List.exists_of_findSome?_eq_some same.symm
    split at told
    · split at told <;> cases told
    · cases told
  | apply dep ksvc done c d log run =>
    obtain ⟨e,-,told⟩ := List.exists_of_findSome?_eq_some same.symm
    split at told
    · cases told
    · cases told
      exact Or.inr rfl
    · cases told
  | sink b decision attempts err c d log run sent => cases same

end Steps

/-! Sequences of steps. -/

/-- A step that was made. -/
structure Written where
  deed : Option Deed
  before : KnativeAdoption
  after : KnativeAdoption

def lastWritten (a : KnativeAdoption) (history : List Written) : KnativeAdoption :=
  (history.getLast?.map (fun x => x.after)).getD a

/-- Steps of the writers in any order; between two of them nothing touches Degraded. -/
inductive WriterSteps (env : Cluster → Cluster → Prop) (r : KnativeAdoptionReconciler) (a : KnativeAdoption) :
    List Written → Prop where
  | start : WriterSteps env r a []
  | step (history : List Written) (x : Written) (past : WriterSteps env r a history)
      (kept : standing x.before .degraded = standing (lastWritten a history) .degraded)
      (now : WriterStep env r x.before x.deed x.after) : WriterSteps env r a (history++[x])

/-- The writer raised its cause and has not resolved it since. -/
def Outstanding (u : Raiser) : List Written → Prop :=
  Since (fun x => x.deed = some (.raised u)) (fun x => x.deed ≠ some (.resolved u))

/-- The last raise is the one of this writer, and nothing has cleared its reason since. -/
def Shows (v : Raiser) : List Written → Prop :=
  Since (fun x => x.deed = some (.raised v)) (fun x =>
    (∀ w, x.deed ≠ some (.raised w)) ∧ ∀ w, x.deed = some (.resolved w) → w.reason ≠ v.reason)

/-- A step that clears Degraded meets no cause of another writer. -/
def Spares (past : List Written) (x : Written) : Prop :=
  ∀ w, x.deed = some (.resolved w) → standing x.before .degraded ≠ none → standing x.after .degraded = none →
    ∀ u, u ≠ w → ¬ Outstanding u past

/-- A step that resolves the reason of the last raise meets no cause of another writer. -/
def SparesOthers (past : List Written) (x : Written) : Prop :=
  ∀ w v, x.deed = some (.resolved w) → Shows v past → v.reason = w.reason → ∀ u, u ≠ w → ¬ Outstanding u past

/-- No cause is raised over the cause of another writer, and no round of the guard that clears
follows a failure of the flusher. -/
structure Separate (past : List Written) (x : Written) : Prop where
  raises : ∀ w, x.deed = some (.raised w) → ∀ u, u ≠ w → ¬ Outstanding u past
  rounds : x.deed = some (.resolved .guard) → ¬ Outstanding .flusher past

theorem lastWritten_snoc (a : KnativeAdoption) (history : List Written) (x : Written) :
    lastWritten a (history++[x]) = x.after := by
  simp [lastWritten]

theorem outstanding_snoc (u : Raiser) (history : List Written) (x : Written) : Outstanding u (history++[x]) ↔
    x.deed = some (.raised u) ∨ Outstanding u history ∧ x.deed ≠ some (.resolved u) := since_snoc _ _ _ _

theorem shows_snoc (v : Raiser) (history : List Written) (x : Written) : Shows v (history++[x]) ↔
    x.deed = some (.raised v) ∨ Shows v history ∧
      ((∀ w, x.deed ≠ some (.raised w)) ∧ ∀ w, x.deed = some (.resolved w) → w.reason ≠ v.reason) := since_snoc _ _ _ _

theorem Shows.outstanding {v : Raiser} {history : List Written} (shows_ : Shows v history) : Outstanding v history :=
  since_mono shows_ (fun _ raised => raised) (fun _ quiet resolved => quiet.2 v resolved rfl)

theorem Outstanding.raised {u : Raiser} {history : List Written} (outstanding : Outstanding u history) :
    ∃ v, Since (fun x : Written => x.deed = some (.raised v)) (fun _ => True) history :=
  ⟨u,since_mono outstanding (fun _ raised => raised) (fun _ _ => trivial)⟩

section Sequences
variable {env : Cluster → Cluster → Prop} {r : KnativeAdoptionReconciler} {a : KnativeAdoption} {history : List Written}
  (prober : r.prober = true) (steps : WriterSteps env r a history)
include prober steps

/-- Once something was raised, Degraded shows the last raise that has not been cleared. -/
theorem standing_shows (raised : ∃ u, Since (fun x : Written => x.deed = some (.raised u)) (fun _ => True) history)
    (reason : Reason) : standing (lastWritten a history) .degraded = some reason ↔ ∃ v, Shows v history ∧ v.reason = reason := by
  induction steps with
  | start =>
    obtain ⟨u,none⟩ := raised
    exact absurd none (since_nil _ _)
  | step history x past kept now ih =>
    have after : standing x.after .degraded = Deed.effect (standing (lastWritten a history) .degraded) x.deed := by
      rw [now.degraded r _ prober,kept]
    rw [lastWritten_snoc,after]
    simp only [shows_snoc]
    simp only [since_snoc,and_true] at raised
    cases deed : x.deed with
    | none =>
      have earlier : ∃ u, Since (fun x : Written => x.deed = some (.raised u)) (fun _ => True) history := by
        simpa [deed] using raised
      simpa [Deed.effect] using ih earlier
    | some done =>
      cases done with
      | raised w => simp [Deed.effect]
      | resolved w =>
        have earlier : ∃ u, Since (fun x : Written => x.deed = some (.raised u)) (fun _ => True) history := by
          simpa [deed] using raised
        simp only [Deed.effect,Option.filter_eq_some_iff,ih earlier,reduceCtorEq,false_or,Option.some.injEq,
          Deed.resolved.injEq,ne_eq,not_false_eq_true,implies_true,true_and,forall_eq',decide_eq_true_eq]
        constructor
        · rintro ⟨⟨v,shown,rfl⟩,other⟩
          exact ⟨v,⟨shown,fun same => other same.symm⟩,rfl⟩
        · rintro ⟨v,⟨shown,other⟩,rfl⟩
          exact ⟨⟨v,shown,rfl⟩,fun same => other same.symm⟩

theorem spares_iff (x : Written) (kept : standing x.before .degraded = standing (lastWritten a history) .degraded)
    (now : WriterStep env r x.before x.deed x.after) : Spares history x ↔ SparesOthers history x := by
  have after (w : Raiser) (resolved : x.deed = some (.resolved w)) :
      standing x.after .degraded = (standing x.before .degraded).filter (fun reason => reason ≠ w.reason) := by
    rw [now.degraded r _ prober,resolved]
    rfl
  constructor
  · intro spares w v resolved shown same u other outstanding
    have held : standing x.before .degraded = some w.reason := by
      rw [kept]
      exact (standing_shows prober steps outstanding.raised w.reason).mpr ⟨v,shown,same⟩
    refine spares w resolved ?_ ?_ u other outstanding
    · rw [held]
      exact Option.some_ne_none _
    · rw [after w resolved,held]
      simp
  · intro spares w resolved stood gone u other outstanding
    obtain ⟨reason,held⟩ := Option.ne_none_iff_exists'.mp stood
    rw [after w resolved,held] at gone
    have same : reason = w.reason := by simpa using gone
    rw [kept] at held
    obtain ⟨v,shown,own⟩ := (standing_shows prober steps outstanding.raised reason).mp held
    exact spares w v resolved shown (own.trans same) u other outstanding

omit prober in
theorem separate_one (separate : Library.Recorded Separate history) (u v : Raiser) (first : Outstanding u history)
    (second : Outstanding v history) : u = v := by
  induction steps with
  | start => exact absurd first (since_nil _ _)
  | step history x past kept now ih =>
    obtain ⟨before,here⟩ := (recorded_snoc_iff _ _ _).mp separate
    rcases (outstanding_snoc u history x).mp first with raised | ⟨old,-⟩
    · rcases (outstanding_snoc v history x).mp second with again | ⟨older,-⟩
      · rw [raised] at again
        cases again
        rfl
      · by_contra other
        exact here.raises u raised v (Ne.symm other) older
    · rcases (outstanding_snoc v history x).mp second with again | ⟨older,-⟩
      · by_contra other
        exact here.raises v again u other old
      · exact ih before old older

end Sequences

theorem reason_shared (v w : Raiser) (clears : w = .guard ∨ w = .apply) (same : v.reason = w.reason) :
    v = w ∨ v = .flusher ∧ w = .guard := by
  rcases clears with rfl | rfl
  · cases v with
    | guard => exact Or.inl rfl
    | flusher => exact Or.inr ⟨rfl,rfl⟩
    | apply => cases same
    | delete => cases same
  · cases v with
    | apply => exact Or.inl rfl
    | guard => cases same
    | flusher => cases same
    | delete => cases same

theorem separate_spares {env : Cluster → Cluster → Prop} {r : KnativeAdoptionReconciler} {a : KnativeAdoption}
    {history : List Written} (steps : WriterSteps env r a history) (x : Written)
    (now : WriterStep env r x.before x.deed x.after) (separate : Library.Recorded Separate history)
    (here : Separate history x) : SparesOthers history x := by
  intro w v resolved shown same u other outstanding
  have one := separate_one steps separate u v outstanding shown.outstanding
  rw [resolved] at now
  rcases reason_shared v w (now.clears r _) same with rfl | ⟨rfl,rfl⟩
  · exact other one
  · exact here.rounds resolved shown.outstanding

/-- A step that clears Degraded removes the cause of another writer exactly when it resolves the
reason of the last raise while that cause is outstanding; that never happens as long as the
causes stay apart. -/
theorem causes_spared_iff (env : Cluster → Cluster → Prop) (r : KnativeAdoptionReconciler) (a : KnativeAdoption)
    (history : List Written) (prober : r.prober = true) (steps : WriterSteps env r a history) :
    (Library.Recorded Spares history ↔ Library.Recorded SparesOthers history) ∧
      (Library.Recorded Separate history → Library.Recorded Spares history) := by
  induction steps with
  | start => exact ⟨iff_of_true (recorded_nil _) (recorded_nil _),fun _ => recorded_nil _⟩
  | step history x past kept now ih =>
    obtain ⟨exactly,apart⟩ := ih
    have point := spares_iff prober past x kept now
    rw [recorded_snoc_iff,recorded_snoc_iff,recorded_snoc_iff]
    refine ⟨and_congr exactly point,fun ⟨before,here⟩ => ⟨apart before,?_⟩⟩
    exact point.mpr (separate_spares past x now before here)

namespace Sample

/-- A round of the guard as a step. -/
def guardStep (c : Cluster) (a : KnativeAdoption) : Written :=
  ⟨guardDeed a (round (guardPass c a).1),a,(roundIn c a).after⟩

def manifest (a : KnativeAdoption) : KService := { ns := a.ns, name := a.name, template := {} }

/-- An apply that is refused. -/
def applyPass (a : KnativeAdoption) : CallLog × Option Reconciled × Cluster :=
  apiserver.exec (applyAdopted {} a deployment (manifest a)) [.refused "quota exceeded"] {}

def applyStep (a : KnativeAdoption) : Written :=
  ⟨applyDeed (applyPass a).1,a,((applyPass a).2.1.map (fun done => done.adoption)).getD a⟩

def sinkPass (a : KnativeAdoption) : CallLog × Option Unit × Cluster :=
  apiserver.exec (newFlusherFailureSink ⟨a.ns,a.name,a.name,0,"scaledownz=true"⟩ 5 (.text "conflict")) [.none,.none]
    { adoptions := .ofList [a] }

def sinkStep (a : KnativeAdoption) : Written :=
  ⟨some (.raised .flusher),a,setCondition a .degraded .true .scaleDownProbeError
    "guard flush failed 5 times in a row: conflict"⟩

theorem writerStep_guard (c : Cluster) (a : KnativeAdoption) (finished : (guardPass c a).2.1.isSome = true) :
    WriterStep Drift {} (guardStep c a).before (guardStep c a).deed (guardStep c a).after := by
  obtain ⟨⟨after,outcome,interval⟩,ended⟩ := Option.isSome_iff_exists.mp finished
  have run : Run apiserver Drift (runScaleDownGuard {} a) c (guardPass c a).1 (some (after,outcome,interval))
      (guardPass c a).2.2 := by
    rw [← ended]
    exact run_exec apiserver Drift Drift.refl _ _ _
  have same : (guardStep c a).after = after := by simp [guardStep,roundIn,ended]
  rw [same]
  exact .guard a after outcome interval c _ _ run

theorem writerStep_apply (a : KnativeAdoption) (finished : (applyPass a).2.1.isSome = true) :
    WriterStep Drift {} (applyStep a).before (applyStep a).deed (applyStep a).after := by
  obtain ⟨done,ended⟩ := Option.isSome_iff_exists.mp finished
  have run : Run apiserver Drift (applyAdopted {} a deployment (manifest a)) {} (applyPass a).1
      (some done) (applyPass a).2.2 := by
    rw [← ended]
    exact run_exec apiserver Drift Drift.refl _ _ _
  have same : (applyStep a).after = done.adoption := by simp [applyStep,ended]
  rw [same]
  exact .apply a _ _ done {} _ _ run

theorem writerStep_sink (a : KnativeAdoption) (finished : (sinkPass a).2.1.isSome = true)
    (sent : ∃ e ∈ (sinkPass a).1, e.request = .patchStatus a (sinkStep a).after) :
    WriterStep Drift {} (sinkStep a).before (sinkStep a).deed (sinkStep a).after := by
  obtain ⟨done,ended⟩ := Option.isSome_iff_exists.mp finished
  have run : Run apiserver Drift (newFlusherFailureSink ⟨a.ns,a.name,a.name,0,"scaledownz=true"⟩ 5 (.text "conflict"))
      { adoptions := .ofList [a] } (sinkPass a).1 (some ()) (sinkPass a).2.2 := by
    rw [← ended]
    exact run_exec apiserver Drift Drift.refl _ _ _
  exact .sink a _ _ 5 _ _ _ _ run sent

/-! The apply fails, then a round fails, then a round is allowed. -/

def unapplied : Written := applyStep strict

def thenDoubted : Written := guardStep unanswered unapplied.after

def thenAllowed : Written := guardStep served thenDoubted.after

theorem writerSteps_overwritten : WriterSteps Drift {} strict [unapplied,thenDoubted,thenAllowed] := by
  refine .step [unapplied,thenDoubted] thenAllowed ?_ rfl (writerStep_guard served _ (by decide +kernel))
  refine .step [unapplied] thenDoubted ?_ rfl (writerStep_guard unanswered _ (by decide +kernel))
  exact .step [] unapplied .start rfl (writerStep_apply _ (by decide +kernel))

/-! A flush fails for the fifth time, then a round is allowed. -/

def unflushed : Written := sinkStep strict

def allowedAfterFlush : Written := guardStep served unflushed.after

theorem writerSteps_flushed : WriterSteps Drift {} strict [unflushed,allowedAfterFlush] := by
  refine .step [unflushed] allowedAfterFlush ?_ rfl (writerStep_guard served _ (by decide +kernel))
  refine .step [] unflushed .start rfl (writerStep_sink _ (by decide +kernel) ?_)
  exact ⟨_,List.mem_of_getElem? (i := 1) rfl,rfl⟩

/-! A round fails, then a round is allowed. -/

def doubted : Written := guardStep unanswered strict

def recovered : Written := guardStep served doubted.after

theorem writerSteps_recovered : WriterSteps Drift {} strict [doubted,recovered] := by
  refine .step [doubted] recovered ?_ rfl (writerStep_guard served _ (by decide +kernel))
  exact .step [] doubted .start rfl (writerStep_guard unanswered _ (by decide +kernel))

end Sample

/-- The guard raises Degraded and clears it, with no other writer. -/
theorem causes_spared_sample :
    [Sample.doubted,Sample.recovered].map (fun x => standing x.after .degraded) = [some .scaleDownProbeError,none] ∧
      Library.Recorded Spares [Sample.doubted,Sample.recovered] := by
  refine ⟨by decide +kernel,(causes_spared_iff Drift {} Sample.strict _ rfl Sample.writerSteps_recovered).2 ?_⟩
  have first : Sample.doubted.deed = some (.raised .guard) := by decide +kernel
  have second : Sample.recovered.deed = some (.resolved .guard) := by decide +kernel
  refine recorded_snoc _ [Sample.doubted] _ (recorded_snoc _ [] _ (recorded_nil _) ?_) ?_
  · exact ⟨fun _ _ _ _ => since_nil _ _,fun _ => since_nil _ _⟩
  · refine ⟨fun w raised => ?_,fun _ outstanding => ?_⟩
    · rw [second] at raised
      cases raised
    · rcases (outstanding_snoc .flusher [] _).mp outstanding with raised | ⟨none,-⟩
      · rw [first] at raised
        cases raised
      · exact since_nil _ _ none

/-- A failed apply is forgotten when the guard takes its own cause back, and so is a failed flush. -/
theorem causes_stomped :
    (WriterSteps Drift {} Sample.strict [Sample.unapplied,Sample.thenDoubted,Sample.thenAllowed] ∧
      [Sample.unapplied,Sample.thenDoubted,Sample.thenAllowed].map (fun x => (x.deed,standing x.after .degraded)) =
        [(some (.raised .apply),some .serviceApplyFailed),(some (.raised .guard),some .scaleDownProbeError),
          (some (.resolved .guard),none)] ∧
      ¬ Library.Recorded Spares [Sample.unapplied,Sample.thenDoubted,Sample.thenAllowed]) ∧
    WriterSteps Drift {} Sample.strict [Sample.unflushed,Sample.allowedAfterFlush] ∧
      [Sample.unflushed,Sample.allowedAfterFlush].map (fun x => (x.deed,standing x.after .degraded)) =
        [(some (.raised .flusher),some .scaleDownProbeError),(some (.resolved .guard),none)] ∧
      ¬ Library.Recorded Spares [Sample.unflushed,Sample.allowedAfterFlush] := by
  refine ⟨⟨Sample.writerSteps_overwritten,by decide +kernel,fun spared => ?_⟩,Sample.writerSteps_flushed,by decide +kernel,
    fun spared => ?_⟩
  · refine spared [Sample.unapplied,Sample.thenDoubted] Sample.thenAllowed [] rfl .guard (by decide +kernel)
      (by decide +kernel) (by decide +kernel) .apply (by decide) ?_
    exact ⟨[],Sample.unapplied,[Sample.thenDoubted],rfl,by decide +kernel,by decide +kernel⟩
  · refine spared [Sample.unflushed] Sample.allowedAfterFlush [] rfl .guard (by decide +kernel) (by decide +kernel)
      (by decide +kernel) .flusher (by decide) ?_
    exact ⟨[],Sample.unflushed,[],rfl,rfl,by decide +kernel⟩

end Ifaas
