import Ifaas.Takeover
import Ifaas.Teardown

/-! The order of a teardown over all its passes. `Torn` follows the first phase step by
step through completed runs of its functions; the source is written, and a finalizer is
gone, only after the calls made so far contain the steps that have to come before. -/
namespace Ifaas
open Library

/-- The adoption that a deletion pass has in memory. -/
structure Continues (a b : KnativeAdoption) : Prop where
  key : b.key = a.key
  spec : b.spec = a.spec
  snapshot : b.status.sourceSnapshot = a.status.sourceSnapshot

inductive TeardownStep where
  | ksvcGone
  | derivedGone
  | trafficRestored
  | serviceRebuilt

theorem isKSvcGone_absent (b : KnativeAdoption) (c d : Cluster) (calls : CallLog)
    (run : Run apiserver Drift (isKSvcGone b) c calls (some (.ok true)) d) : d.ksvcs.get b.key = none := by
  unfold isKSvcGone at run
  rcases run_call run with ⟨_,stopped,_⟩ | ⟨m,fault,rest,_,_,following⟩
  · cases stopped
  · rw [serve_read _ rfl] at following
    cases answer : (apiserver.serve fault m (.getKService b.key)).2 with
    | ok k =>
      rw [answer] at following
      cases (run_return following).2.2
    | error err =>
      rw [answer] at following
      change Run _ _ (if err.isNotFound then pure (Except.ok true) else pure (Except.error err) : Op _) _ _ _ _ at following
      split at following
      next missing =>
        obtain ⟨_,rfl,_⟩ := run_pure following
        exact getKService_missing answer missing
      next => cases (run_return following).2.2

theorem isDerivedServiceGone_free (b : KnativeAdoption) (c d : Cluster) (calls : CallLog)
    (run : Run apiserver Drift (isDerivedServiceGone b) c calls (some (.ok true)) d) (svc : Service)
    (found : d.services.get b.key = some svc) : knativeOwned svc = false := by
  unfold isDerivedServiceGone at run
  rcases run_call run with ⟨_,stopped,_⟩ | ⟨m,fault,rest,_,_,following⟩
  · cases stopped
  · rw [serve_read _ rfl] at following
    cases answer : (apiserver.serve fault m (.getService b.key)).2 with
    | ok st =>
      rw [answer] at following
      obtain ⟨_,rfl,returned⟩ := run_pure following
      rw [getService_ok answer] at found
      cases found
      simpa using returned _ rfl
    | error err =>
      rw [answer] at following
      change Run _ _ (if err.isNotFound then pure (Except.ok true) else pure (Except.error err) : Op _) _ _ _ _ at following
      split at following
      next missing =>
        obtain ⟨_,rfl,_⟩ := run_pure following
        rw [getService_missing answer missing] at found
        cases found
      next => cases (run_return following).2.2

section Order
variable (a : KnativeAdoption)

/-- The first phase up to a step, with the calls that precede it and the state it ends
in. -/
inductive Torn : CallLog → Cluster → TeardownStep → Prop where
  | ksvcGone (before calls : CallLog) (b : KnativeAdoption) (c d : Cluster) (same : Continues a b)
      (checked : Run apiserver Drift (isKSvcGone b) c calls (some (.ok true)) d) (absent : d.ksvcs.get a.key = none) :
      Torn (before++calls) d .ksvcGone
  | derivedGone (before calls : CallLog) (b : KnativeAdoption) (c d : Cluster) (first : Torn before c .ksvcGone)
      (same : Continues a b) (checked : Run apiserver Drift (isDerivedServiceGone b) c calls (some (.ok true)) d)
      (free : ∀ svc, d.services.get a.key = some svc → knativeOwned svc = false) : Torn (before++calls) d .derivedGone
  | trafficRestored (before calls : CallLog) (b : KnativeAdoption) (c d : Cluster) (first : Torn before c .derivedGone)
      (same : Continues a b) (restored : Run apiserver Drift (restoreTrafficSnapshots b) c calls (some none) d) :
      Torn (before++calls) d .trafficRestored
  | serviceRebuilt (before calls : CallLog) (b : KnativeAdoption) (c d : Cluster)
      (first : Torn before c .trafficRestored) (same : Continues a b)
      (rebuilt : Run apiserver Drift (rebuildSnapshotService b) c calls (some none) d) :
      Torn (before++calls) d .serviceRebuilt

/-- The calls contain the whole first phase. -/
def ChildrenRestored (log : CallLog) : Prop := ∃ before after d, log = before++after ∧ Torn a before d .serviceRebuilt

/-- The calls contain a successful restore of the source after the first phase. -/
def SourceRestored (log : CallLog) : Prop :=
  ∃ before calls after b c d, log = before++calls++after ∧ ChildrenRestored a before ∧ Continues a b ∧
    Run apiserver Drift (restoreDeploymentSpec b) c calls (some none) d

/-- The source is written after the first phase, and each finalizer stays until the steps
it stands for have succeeded. -/
structure Ordered (c : Cluster) (log : CallLog) : Prop where
  writes : ∀ before e after, log = before++e::after → e.request.part = some .deployments → ChildrenRestored a before
  service : finalizerRestoreSourceService ∉ finalizersOf a c → ChildrenRestored a log
  source : finalizerRestoreSource ∉ finalizersOf a c →
    finalizerRestoreSourceService ∉ finalizersOf a c ∧ SourceRestored a log

variable {a} {goal : Outcome Service} {assured : Prop} {b : KnativeAdoption} {c d : Cluster} {log : CallLog}

theorem ChildrenRestored.append (more : CallLog) (restored : ChildrenRestored a log) : ChildrenRestored a (log++more) := by
  obtain ⟨before,after,d,rfl,torn⟩ := restored
  exact ⟨before,after++more,d,by simp,torn⟩

theorem SourceRestored.append (more : CallLog) (restored : SourceRestored a log) : SourceRestored a (log++more) := by
  obtain ⟨before,calls,after,b,c,d,rfl,rest⟩ := restored
  exact ⟨before,calls,after++more,b,c,d,by simp,rest⟩

theorem Ordered.drift (moved : Drift c d) (ordered : Ordered a c log) : Ordered a d log := by
  refine ⟨ordered.writes,?_,?_⟩
  · rw [finalizersOf_drift a c d moved]
    exact ordered.service
  · rw [finalizersOf_drift a c d moved]
    exact ordered.source

/-- One more call: a write to the source needs the first phase, and so do the finalizers
that are gone after it. -/
theorem Ordered.step (ordered : Ordered a c log) (e : Event Request Response String Cluster)
    (write : e.request.part = some .deployments → ChildrenRestored a log)
    (service : finalizerRestoreSourceService ∉ finalizersOf a d → ChildrenRestored a log)
    (source : finalizerRestoreSource ∉ finalizersOf a d →
      finalizerRestoreSourceService ∉ finalizersOf a d ∧ SourceRestored a log) : Ordered a d (log++[e]) where
  writes before event after split part := by
    rcases split_last _ _ _ _ _ split with ⟨rfl,rfl,rfl⟩ | ⟨rest,rfl,rfl⟩
    · exact write part
    · exact ordered.writes before event rest rfl part
  service gone := (service gone).append [e]
  source gone := ⟨(source gone).1,(source gone).2.append [e]⟩

theorem Ordered.same (ordered : Ordered a c log) (e : Event Request Response String Cluster)
    (finalizers : finalizersOf a d = finalizersOf a c)
    (write : e.request.part = some .deployments → ChildrenRestored a log) : Ordered a d (log++[e]) := by
  refine ordered.step e write ?_ ?_
  · rw [finalizers]
    exact ordered.service
  · rw [finalizers]
    exact ordered.source

/-- A stage that writes neither adoptions nor Deployments. -/
theorem ensures_ordered {α : Type} {parts : List Part} (p : Op α) (within : Within parts p)
    (outside : .adoptions ∉ parts ∧ .deployments ∉ parts) (ordered : Ordered a c log) :
    Ensures apiserver Drift (Ordered a) p (fun _ => Ordered a) c log := by
  refine ensures_uses _ (fun _ _ _ moved kept => kept.drift moved) (fun s past fault request fine kept => ?_) p within
    c log ordered
  refine kept.same _ (finalizersOf_congr (serve_adoptions _ _ _ (fun part => outside.1 (fine _ part)))) (fun part => ?_)
  exact absurd (fine _ part) outside.2

/-- The restore of the source, after the first phase. -/
theorem ensures_restoreDeploymentSpec_ordered (ordered : Ordered a c log) (restored : ChildrenRestored a log) :
    Ensures apiserver Drift (Ordered a) (restoreDeploymentSpec b) (fun _ => Ordered a) c log := by
  have both : Ensures apiserver Drift (fun d past => Ordered a d past ∧ ChildrenRestored a past)
      (restoreDeploymentSpec b) (fun _ d past => Ordered a d past ∧ ChildrenRestored a past) c log := by
    refine ensures_uses _ (fun _ _ _ moved kept => ⟨kept.1.drift moved,kept.2⟩)
      (fun s past fault request fine kept => ?_) _ (within_restoreDeploymentSpec b) c log ⟨ordered,restored⟩
    refine ⟨kept.1.same _ (finalizersOf_congr (serve_adoptions _ _ _ (fun part => ?_))) (fun _ => kept.2),
      kept.2.append _⟩
    simpa using fine _ part
  exact ensures_mono (ensures_inv _ _ _ _ _ (fun _ _ kept => kept.1) both) (fun _ _ _ _ post => post.1)

/-- An update leaves the finalizers, or writes those in memory. -/
theorem finalizersOf_updateAdoption (c : Cluster) (b : KnativeAdoption) (same : b.key = a.key) :
    finalizersOf a (c.updateAdoption b).1 = finalizersOf a c ∨
      finalizersOf a (c.updateAdoption b).1 = b.finalizers := by
  rcases updateAdoption_cases c b with still | ⟨st,held,⟨none_,removed⟩ | written⟩
  · left
    rw [still]
  · right
    rw [removed,finalizersOf,same,none_]
    simp
  · right
    have filed : st.key = a.key := (c.adoptions.keyed _ _ held).trans same
    unfold finalizersOf
    rw [(congrArg (fun d => d.adoptions.get a.key) written).trans (if_pos filed.symm)]
    rfl

theorem ensures_removeFinalizer_ordered (name : String) (inside : name ∈ b.finalizers) (same : b.key = a.key)
    (ordered : Ordered a c log)
    (service : finalizerRestoreSourceService ∉ b.finalizers.filter (fun f => f ≠ name) → ChildrenRestored a log)
    (source : finalizerRestoreSource ∉ b.finalizers.filter (fun f => f ≠ name) →
      finalizerRestoreSourceService ∉ b.finalizers.filter (fun f => f ≠ name) ∧ SourceRestored a log) :
    Ensures apiserver Drift (Ordered a) (removeFinalizer b name) (fun _ => Ordered a) c log := by
  unfold removeFinalizer
  rw [if_pos inside]
  refine ensures_ask ordered (fun d fault moved => ?_)
  generalize sent : ({ b with finalizers := b.finalizers.filter (fun f => f ≠ name) } : KnativeAdoption) = next
  have key : next.key = a.key := by rw [← sent]; exact same
  have finalizers : next.finalizers = b.finalizers.filter (fun f => f ≠ name) := by rw [← sent]
  have after : Ordered a (apiserver.serve fault d (.updateAdoption next)).1
      (log++[apiserver.event fault d (.updateAdoption next)]) := by
    have drifted := ordered.drift moved
    have unchanged (f : Cluster) (left : finalizersOf a f = finalizersOf a d) :
        Ordered a f (log++[apiserver.event fault d (.updateAdoption next)]) := drifted.same _ left nofun
    rcases apiserver.serve_state fault d (.updateAdoption next) with state | ⟨state,_⟩
    · rw [state]
      exact unchanged d rfl
    · rw [state]
      rcases finalizersOf_updateAdoption d next key with left | left
      · exact unchanged _ left
      · rw [finalizers] at left
        refine drifted.step _ nofun ?_ ?_
        · intro gone
          exact service (left ▸ gone)
        · intro gone
          rw [show finalizersOf a (apiserver.effect d (.updateAdoption next)).1 = _ from left] at gone ⊢
          exact source gone
  cases answer : (apiserver.serve fault d (.updateAdoption next)).2 <;> exact ensures_pure after after

theorem Continues.ledger (same : Continues a b) (next : KnativeAdoption) (ledger : SameLedger b next) : Continues a next :=
  ⟨(congrArg ObjectMeta.key ledger.metadata).trans same.key,ledger.spec.trans same.spec,
    ledger.snapshot.trans same.snapshot⟩

theorem ensures_restoreChildren_ordered (same : Continues a b) (pending : finalizerRestoreSourceService ∈ b.finalizers)
    (carried : finalizerRestoreSource ∉ b.finalizers → SourceRestored a log) (ordered : Ordered a c log)
    (torn : Torn a log c .derivedGone) :
    Ensures apiserver Drift (Ordered a) (restoreChildren b)
      (fun result d past => Ordered a d past ∧ ∀ next, result = .ok next → ChildrenRestored a past) c log := by
  unfold restoreChildren
  refine ensures_bind (ensures_mono (ensures_ordered _ (within_restoreTrafficSnapshots _)
    (by simp) ordered) ?_)
  rintro (_ | err) d calls run traffic
  · have first := Torn.trafficRestored log calls _ c d torn (same.ledger _ (sameLedger_setReady _ _ _ _)) run
    refine ensures_bind (ensures_mono (ensures_ordered _ (within_rebuildSnapshotService _)
      (by simp) traffic) ?_)
    rintro (_ | err) e more run' service
    · have rebuilt : ChildrenRestored a (log++calls++more) := by
        refine ⟨log++calls++more,[],e,by simp,.serviceRebuilt _ more _ d e first (same.ledger _ ?_) run'⟩
        exact .trans _ _ _ (sameLedger_setReady _ _ _ _) (sameLedger_setReady _ _ _ _)
      refine ensures_bind (ensures_mono (ensures_removeFinalizer_ordered
        finalizerRestoreSourceService pending same.key service (fun _ => rebuilt) (fun gone => ?_)) ?_)
      · refine ⟨by simp,?_⟩
        have missing : finalizerRestoreSource ∉ b.finalizers := by
          intro member
          exact gone (List.mem_filter.mpr ⟨member,by decide⟩)
        exact ((carried missing).append calls).append more
      · rintro ⟨next,_ | err⟩ f rest _ after
        · exact ensures_pure after ⟨after,fun _ _ => rebuilt.append rest⟩
        · exact ensures_pure after ⟨after,fun _ equal => by cases equal⟩
    · exact ensures_pure service ⟨service,fun _ equal => by cases equal⟩
  · exact ensures_pure traffic ⟨traffic,fun _ equal => by cases equal⟩

theorem ensures_releaseService_ordered (same : Continues a b) (finalizers : finalizersOf a c = b.finalizers)
    (ordered : Ordered a c log) :
    Ensures apiserver Drift (Ordered a) (releaseService b)
      (fun result d past => Ordered a d past ∧ ∀ next, result = .ok next → ChildrenRestored a past) c log := by
  have early (done : Reconciled) (d : Cluster) (past : CallLog) (after : Ordered a d past) :
      Ensures apiserver Drift (Ordered a) (pure (.error done : Except Reconciled KnativeAdoption))
        (fun result d past => Ordered a d past ∧ ∀ next, result = .ok next → ChildrenRestored a past) d past :=
    ensures_pure after ⟨after,fun _ equal => by cases equal⟩
  unfold releaseService
  split
  next pending =>
    refine ensures_bind (ensures_mono (ensures_ordered _ (within_deleteKSvcIfPresent b)
      (by simp) ordered) ?_)
    rintro (_ | err) d calls _ deleted
    · refine ensures_bind (ensures_mono (ensures_ordered _ (within_isKSvcGone b)
        (by simp) deleted) ?_)
      rintro (err | ⟨_ | _⟩) e more run checked
      · exact early _ _ _ checked
      · exact early _ _ _ checked
      · have first := Torn.ksvcGone (log++calls) more b d e same run (same.key ▸ isKSvcGone_absent b d e more run)
        refine ensures_bind (ensures_mono (ensures_ordered _ (within_isDerivedServiceGone b)
          (by simp) checked) ?_)
        rintro (err | ⟨_ | _⟩) f rest run' derived
        · exact early _ _ _ derived
        · exact early _ _ _ derived
        · refine ensures_restoreChildren_ordered same pending (fun gone => ?_) derived
            (.derivedGone _ rest b e f first same run'
              (fun svc found => isDerivedServiceGone_free b e f rest run' svc (same.key ▸ found)))
          rw [← finalizers] at gone
          exact (((ordered.source gone).2.append calls).append more).append rest
    · exact early _ _ _ deleted
  next free =>
    refine ensures_pure ordered ⟨ordered,fun _ _ => ordered.service ?_⟩
    rw [finalizers]
    exact free

theorem ensures_releaseSource_ordered (same : Continues a b) (freed : finalizerRestoreSourceService ∉ b.finalizers)
    (restored : ChildrenRestored a log) (ordered : Ordered a c log) :
    Ensures apiserver Drift (Ordered a) (releaseSource b) (fun _ => Ordered a) c log := by
  unfold releaseSource
  split
  next pending =>
    refine ensures_bind (ensures_mono (ensures_restoreDeploymentSpec_ordered ordered restored) ?_)
    rintro (_ | err) d calls run source
    · have done : SourceRestored a (log++calls) :=
        ⟨log,calls,[],_,c,d,by simp,restored,same.ledger _ (sameLedger_setReady _ _ _ _),run⟩
      refine ensures_bind (ensures_mono (ensures_removeFinalizer_ordered finalizerRestoreSource
        pending same.key source (fun _ => restored.append calls) (fun _ => ⟨?_,done⟩)) ?_)
      · exact fun member => freed (List.mem_of_mem_filter member)
      · rintro ⟨next,_ | err⟩ e more _ after <;> exact ensures_pure after after
    · exact ensures_pure source source
  · exact ensures_pure ordered ordered

theorem ensures_patchStatus_ordered (original current : KnativeAdoption) (ordered : Ordered a c log) :
    Ensures apiserver Drift (Ordered a) (patchStatus original current) (fun _ => Ordered a) c log := by
  unfold patchStatus
  split
  · exact ensures_pure ordered ordered
  · refine ensures_call ordered (fun d fault moved => ?_)
    have finalizers : finalizersOf a (apiserver.serve fault d (.patchStatus original current)).1 = finalizersOf a d := by
      obtain ⟨f,metadata,after⟩ := serve_patchStatus fault d original current a.key
      unfold finalizersOf
      rw [after]
      cases d.adoptions.get a.key with
      | none => rfl
      | some st => exact congrArg ObjectMeta.finalizers (metadata st)
    have after := (ordered.drift moved).same (apiserver.event fault d (.patchStatus original current)) finalizers nofun
    exact ensures_pure after after

theorem Phase.continues (phase : Phase withoutAddresses False a goal assured b c) : Continues a b :=
  ⟨phase.key,phase.spec,phase.snapshot⟩

/-- What a deletion run keeps: the potential and the order. -/
def Tracked (a : KnativeAdoption) (goal : Outcome Service) (c : Cluster) (log : CallLog) : Prop :=
  Held withoutAddresses False a goal c log ∧ Ordered a c log

theorem ensures_handleDeletion_ordered (phase : Phase withoutAddresses False a goal assured b c) (ordered : Ordered a c log) :
    Ensures apiserver Drift (Tracked a goal) (handleDeletion b)
      (fun done d past => Ended withoutAddresses False a goal done.adoption d ∧ Ordered a d past) c log := by
  unfold handleDeletion
  refine ensures_bind (ensures_mono (ensures_and _ _ _ _ _ _
    (ensures_releaseService (fun _ _ moved => moved) (fun _ _ moved held => held.drift moved) phase)
    (ensures_releaseService_ordered phase.continues phase.finalizers ordered)) ?_)
  rintro (done | next) d calls _ ⟨⟨ended,freed,_⟩,after,restored⟩
  · have early := ended done rfl
    exact ensures_pure ⟨early.releasing,after⟩ ⟨early,after⟩
  · obtain ⟨service,dropped⟩ := freed next rfl
    refine ensures_bind (ensures_mono (ensures_and _ _ _ _ _ _
      (ensures_releaseSource (fun _ _ moved => moved) (fun _ _ moved held => held.drift moved) service
        (dropped _ (by simp)))
      (ensures_releaseSource_ordered service.continues (dropped _ (by simp)) (restored next rfl) after)) ?_)
    rintro (done | last) e more _ ⟨⟨ended,freed,_⟩,final⟩
    · have early := ended done rfl
      exact ensures_pure ⟨early.releasing,final⟩ ⟨early,final⟩
    · obtain ⟨source,_⟩ := freed last rfl
      exact ensures_pure ⟨source.releasing,final⟩
        ⟨source.ended.ledger _ (sameLedger_setReady _ _ _ _),final⟩

theorem ensures_release_ordered (r : KnativeAdoptionReconciler) (tracked : Tracked a goal c log) :
    Ensures apiserver Drift (Tracked a goal) (reconcile r a.key) (fun _ => Tracked a goal) c log := by
  unfold reconcile
  refine ensures_ask tracked (fun d fault moved => ?_)
  have releasing : Releasing withoutAddresses False a d goal := tracked.1.drift moved
  have ordered := (tracked.2.drift moved).same (apiserver.event fault d (.getAdoption a.key)) rfl nofun
  rw [serve_read _ rfl]
  cases answer : (apiserver.serve fault d (.getAdoption a.key)).2 with
  | error err =>
    dsimp only
    split <;> exact ensures_pure ⟨releasing,ordered⟩ ⟨releasing,ordered⟩
  | ok st =>
    have held := getAdoption_ok answer
    obtain ⟨spec,deleting,snapshot⟩ := releasing.stored st held
    simp only [deleting,if_true]
    have phase : Phase withoutAddresses False a goal False st d := by
      refine ⟨releasing,d.adoptions.keyed _ _ held,spec,snapshot,fun other found => ?_,fun _ => ⟨st,held⟩,False.elim⟩
      rw [held] at found
      cases found
      rfl
    unfold reconcileDeleted
    refine ensures_bind (ensures_mono (ensures_handleDeletion_ordered phase ordered) ?_)
    rintro done e calls _ ⟨ended,after⟩
    refine ensures_bind (ensures_mono (ensures_and _ _ _ _ _ _
      (ensures_patchStatus_ended (fun _ _ moved => moved) (fun _ _ moved held => held.drift moved) ended st snapshot)
      (ensures_patchStatus_ordered st done.adoption after)) ?_)
    rintro (err | ok) f more _ ⟨⟨last,_⟩,final⟩
    · dsimp only
      split <;> exact ensures_pure ⟨last,final⟩ ⟨last,final⟩
    · exact ensures_pure ⟨last,final⟩ ⟨last,final⟩

end Order

/-- In every run of deletion passes, with faults, restarts and drift, the source is
written only after the first phase has succeeded, the first finalizer stays until then,
and the second until the source is restored as well. -/
theorem teardown_ordered (r : KnativeAdoptionReconciler) (a : KnativeAdoption) (c0 c : Cluster)
    (passes : List (Pass Request Response String Cluster (Result × Option ApiError)))
    (held : c0.adoptions.get a.key = some a) (deleting : a.deleting = true)
    (both : finalizerRestoreSourceService ∈ a.finalizers ∧ finalizerRestoreSource ∈ a.finalizers)
    (run : Passes apiserver Drift (reconcile r a.key) c0 passes c) : Ordered a c (history passes) := by
  have finalizers : finalizersOf a c0 = a.finalizers := by simp [finalizersOf,held]
  have releasing := Releasing.begin withoutAddresses False a c0 held deleting
    (fun either => either.elim False.elim (absurd both.1))
  have ordered : Ordered a c0 [] := by
    refine ⟨fun before e after empty => by simp at empty,fun gone => ?_,fun gone => ?_⟩
    · exact absurd (finalizers ▸ both.1) gone
    · exact absurd (finalizers ▸ both.2) gone
  exact (passes_invariant apiserver Drift (reconcile r a.key) (Tracked a _)
    (fun _ _ _ moved tracked => ⟨tracked.1.drift moved,tracked.2.drift moved⟩)
    (fun _ _ tracked => ensures_release_ordered r tracked) c0 c passes ⟨releasing,ordered⟩ run).2

/-- The sample teardown is cut off twice and then goes through. -/
theorem teardown_ordered_sample :
    let run := apiserver.execPasses Sample.pass [List.replicate 5 .none++[.lost "timeout"],List.replicate 6 .none,
      List.replicate 12 .none] Sample.adopted
    finalizersOf Sample.leaving run.2 = [] ∧
      (history run.1).countP (fun e => e.request.part = some .deployments) = 1 ∧
      ChildrenRestored Sample.leaving (history run.1) ∧ SourceRestored Sample.leaving (history run.1) := by
  have ordered := teardown_ordered Sample.reconciler Sample.leaving Sample.adopted _ _ rfl rfl (by decide)
    (passes_exec apiserver Drift Drift.refl Sample.pass [List.replicate 5 .none++[.lost "timeout"],
      List.replicate 6 .none,List.replicate 12 .none] _)
  have free : finalizersOf Sample.leaving (apiserver.execPasses Sample.pass [List.replicate 5 .none++[.lost "timeout"],
      List.replicate 6 .none,List.replicate 12 .none] Sample.adopted).2 = [] := by decide +kernel
  refine ⟨free,by decide +kernel,ordered.service ?_,(ordered.source ?_).2⟩
  · rw [free]
    exact List.not_mem_nil
  · rw [free]
    exact List.not_mem_nil

end Ifaas
