import Ifaas.Release
import Ifaas.Teardown
import Ifaas.WatcherOwnership

/-! A release beside the watcher. The deletion passes take the trigger label off the source
Deployment before they let the adoption go; a pass of the watcher reads the Deployment, then
the adoption, and then applies. Nothing orders these steps of two controllers. -/
namespace Ifaas
open Library

/-- The Deployment is not there, or does not carry the trigger label. -/
def Unlabelled (key : NamespacedName) (c : Cluster) : Prop :=
  ∀ dep, c.deployments.get key = some dep → dep.labels.has labelEnabled = false

theorem unlabelled_disabled (dep : Deployment) (missing : dep.labels.has labelEnabled = false) :
    DeploymentWatcher.isAdoptionLabelEnabled dep = false := by
  have absent : dep.labels.lookup labelEnabled = none := by simpa [Labels.has] using missing
  unfold DeploymentWatcher.isAdoptionLabelEnabled Labels.value
  rw [absent]
  decide

theorem has_filter (labels : Labels) (keep : String × String → Bool) (key : String) (missing : labels.has key = false) :
    Labels.has (labels.filter keep) key = false := by
  rw [Bool.eq_false_iff] at missing ⊢
  intro found
  obtain ⟨entry,member,same⟩ := (Labels.has_iff _ _).mp found
  exact missing ((Labels.has_iff _ _).mpr ⟨entry,(List.mem_filter.mp member).1,same⟩)

theorem unlabelled_put {key at_ : NamespacedName} {c d : Cluster} {stored next : Deployment}
    (held : c.deployments.get at_ = some stored) (written : d.deployments = c.deployments.put next)
    (filed : next.key = stored.key)
    (kept : stored.labels.has labelEnabled = false → next.labels.has labelEnabled = false) (unlabelled : Unlabelled key c) :
    Unlabelled key d := by
  intro dep found
  rw [written,Store.get_put] at found
  split at found
  next here =>
    cases found
    rw [here,filed,c.deployments.keyed _ _ held] at unlabelled
    exact kept (unlabelled stored held)
  next => exact unlabelled dep found

/-- No call of the operator sets the label. -/
theorem unlabelled_serve (key : NamespacedName) (fault : Fault String) (c : Cluster) (q : Request) (unlabelled : Unlabelled key c) :
    Unlabelled key (apiserver.serve fault c q).1 := by
  rcases apiserver.serve_state fault c q with same | ⟨same,-⟩
  · rw [same]
    exact unlabelled
  rw [same]
  by_cases part : q.part = some .deployments
  · cases q with
    | applyReplicas at_ replicas =>
      change Unlabelled key (c.applyReplicas at_ replicas).1
      unfold Cluster.applyReplicas
      split
      · exact unlabelled
      next stored held => exact unlabelled_put held rfl rfl id unlabelled
    | patchDeployment original modified =>
      change Unlabelled key (c.patchDeployment original modified).1
      unfold Cluster.patchDeployment
      split
      · exact unlabelled
      next stored held => exact unlabelled_put held rfl rfl (has_filter _ _ _) unlabelled
    | _ => cases part
  · intro dep found
    rw [show (apiserver.effect c q).1.deployments = c.deployments from effect_same .deployments c q part] at found
    exact unlabelled dep found

/-- The patch of a release takes the label off, unless the Deployment was read without it. -/
theorem unlabelled_patchDeployment (c : Cluster) (dep : Deployment) (target : Int) (labelled : dep.labels.has labelEnabled = true)
    (answer : (c.patchDeployment dep (releasedDeployment dep target)).2 = .ok ()) :
    Unlabelled dep.key (c.patchDeployment dep (releasedDeployment dep target)).1 := by
  unfold Cluster.patchDeployment at answer ⊢
  have filed : (releasedDeployment dep target).key = dep.key := rfl
  rw [filed] at answer ⊢
  cases held : c.deployments.get dep.key with
  | none =>
    rw [held] at answer
    cases answer
  | some stored =>
    have here : stored.key = dep.key := c.deployments.keyed _ _ held
    intro other found
    dsimp only at found
    rw [Store.get_put] at found
    split at found
    next =>
      cases found
      rw [Bool.eq_false_iff]
      intro left
      obtain ⟨entry,member,same⟩ := (Labels.has_iff _ _).mp left
      have kept := (List.mem_filter.mp member).2
      rw [same,labelled] at kept
      simp [releasedDeployment,Labels.has_delete] at kept
    next away => exact absurd here.symm away

/-! The deletion passes. -/

/-- A version of the adoption that is being released. -/
structure Leaving (a st : KnativeAdoption) : Prop where
  deleting : st.deleting = true
  source : sourceName st = sourceName a
  snapshot : st.status.sourceSnapshot = a.status.sourceSnapshot

/-- While the adoption is released its second finalizer stays until the label is off. -/
structure Winding (a : KnativeAdoption) (c : Cluster) : Prop where
  stored : ∀ st, c.adoptions.get a.key = some st → Leaving a st
  stripped : finalizerRestoreSource ∉ finalizersOf a c → Unlabelled (sourceKey a) c

/-- One of the calls left the Deployment without the label. -/
def Stripped (a : KnativeAdoption) (log : CallLog) : Prop :=
  ∃ e ∈ log, Unlabelled (sourceKey a) (apiserver.serve e.fault e.before e.request).1

/-- The calls of a deletion pass, given the ones before. -/
inductive LeavingCall (a : KnativeAdoption) (log : CallLog) : Request → Prop
  | other (q : Request) (outside : q.part ≠ some .adoptions) : LeavingCall a log q
  | update (b : KnativeAdoption) (filed : b.key = a.key) (source : sourceName b = sourceName a)
      (kept : finalizerRestoreSource ∈ b.finalizers ∨ Stripped a log) : LeavingCall a log (.updateAdoption b)
  | status (original current : KnativeAdoption) (filed : current.key = a.key)
      (same : current.status.sourceSnapshot = original.status.sourceSnapshot) : LeavingCall a log (.patchStatus original current)

abbrev Leaves (a : KnativeAdoption) (log : CallLog) : Prop :=
  Library.Recorded (fun past e => LeavingCall a past e.request) log

/-- What a deletion pass has in memory. -/
structure Carried (a b : KnativeAdoption) (log : CallLog) : Prop where
  filed : b.key = a.key
  source : sourceName b = sourceName a
  snapshot : b.status.sourceSnapshot = a.status.sourceSnapshot
  kept : finalizerRestoreSource ∈ b.finalizers ∨ Stripped a log

section Pass
variable {a b : KnativeAdoption} {c d : Cluster} {log : CallLog}

theorem sourceName_congr (x y : KnativeAdoption) (spec : x.spec = y.spec) (name : x.name = y.name) : sourceName x = sourceName y := by
  unfold sourceName
  rw [spec,name]

theorem Stripped.append (more : CallLog) (stripped : Stripped a log) : Stripped a (log++more) :=
  stripped.imp (fun _ held => ⟨List.mem_append_left _ held.1,held.2⟩)

theorem stripped_last {fault : Fault String} {q : Request} (unlabelled : Unlabelled (sourceKey a) (apiserver.serve fault d q).1) :
    Stripped a (log++[apiserver.event fault d q]) :=
  ⟨_,List.mem_append_right _ (List.mem_singleton_self _),unlabelled⟩

theorem Carried.append (more : CallLog) (carried : Carried a b log) : Carried a b (log++more) :=
  ⟨carried.filed,carried.source,carried.snapshot,carried.kept.imp_right (fun stripped => stripped.append more)⟩

theorem Carried.ledger (next : KnativeAdoption) (same : SameLedger b next) (carried : Carried a b log) : Carried a next log := by
  refine ⟨(congrArg ObjectMeta.key same.metadata).trans carried.filed,?_,same.snapshot.trans carried.snapshot,?_⟩
  · rw [← carried.source]
    exact sourceName_congr _ _ same.spec (congrArg ObjectMeta.name same.metadata)
  · rw [congrArg ObjectMeta.finalizers same.metadata]
    exact carried.kept

/-- A stage that writes no adoption. -/
theorem ensures_leaves_outside {α : Type} {parts : List Part} (p : Op α) (within : Within parts p) (outside : .adoptions ∉ parts)
    (leaves : Leaves a log) :
    Ensures apiserver (fun _ t => Winding a t) (fun _ past => Leaves a past) p (fun _ _ past => Leaves a past) c log :=
  ensures_uses _ (fun _ _ _ _ held => held)
    (fun _ past _ q fine held => recorded_snoc _ past _ held (.other q (fun found => outside (fine _ found)))) p within c log leaves

/-- Two things about the calls of a stage: they are fine, and they only add to what was known. -/
theorem ensures_leaves_carried {α : Type} {parts : List Part} (p : Op α) (within : Within parts p) (outside : .adoptions ∉ parts)
    (leaves : Leaves a log) (carried : Carried a b log) :
    Ensures apiserver (fun _ t => Winding a t) (fun _ past => Leaves a past) p
      (fun _ _ past => Leaves a past ∧ Carried a b past) c log :=
  ensures_mono (ensures_leaves_outside p within outside leaves) (fun _ _ calls _ held => ⟨held,carried.append calls⟩)

theorem ensures_removeFinalizer_leaves (name : String) (leaves : Leaves a log) (carried : Carried a b log)
    (kept : finalizerRestoreSource ∈ b.finalizers.filter (fun f => f ≠ name) ∨ Stripped a log) :
    Ensures apiserver (fun _ t => Winding a t) (fun _ past => Leaves a past) (removeFinalizer b name)
      (fun result _ past => Leaves a past ∧ Carried a result.1 past) c log := by
  unfold removeFinalizer
  split
  · dsimp only
    have removed : Carried a { b with finalizers := b.finalizers.filter (fun f => f ≠ name) } log :=
      ⟨carried.filed,carried.source,carried.snapshot,kept⟩
    generalize ({ b with finalizers := b.finalizers.filter (fun f => f ≠ name) } : KnativeAdoption) = next at removed
    refine ensures_ask leaves (fun d fault winding => ?_)
    have after : Leaves a (log++[apiserver.event fault d (.updateAdoption next)]) :=
      recorded_snoc _ log _ leaves (.update next removed.filed removed.source removed.kept)
    have further := removed.append [apiserver.event fault d (.updateAdoption next)]
    cases answer : (apiserver.serve fault d (.updateAdoption next)).2 with
    | error err => exact ensures_pure after ⟨after,further⟩
    | ok stored =>
      refine ensures_pure after ⟨after,?_⟩
      obtain ⟨st,held,rfl⟩ := updateAdoption_answer next stored answer
      have filed : st.key = next.key := d.adoptions.keyed _ _ held
      rw [removed.filed] at held
      refine ⟨filed.trans removed.filed,?_,(winding.stored st held).snapshot,further.kept⟩
      rw [← removed.source]
      exact sourceName_congr _ _ rfl (congrArg NamespacedName.name filed)
  · exact ensures_pure leaves ⟨leaves,carried⟩

/-- A restore of the source that reports success has seen or made the Deployment unlabelled. -/
theorem ensures_restoreDeploymentSpec_strips (recorded : (a.status.sourceSnapshot.bind (fun s => s.replicas)).isSome = true)
    (leaves : Leaves a log) (carried : Carried a b log) :
    Ensures apiserver (fun _ t => Winding a t) (fun _ past => Leaves a past) (restoreDeploymentSpec b)
      (fun result _ past => Leaves a past ∧ (result = none → Stripped a past)) c log := by
  have source : (⟨b.ns,sourceName b⟩ : NamespacedName) = sourceKey a := by
    unfold sourceKey
    rw [carried.source,show b.ns = a.ns from congrArg NamespacedName.ns carried.filed]
  obtain ⟨target,held⟩ := Option.isSome_iff_exists.mp recorded
  unfold restoreDeploymentSpec
  rw [carried.snapshot,held,source]
  refine ensures_ask leaves (fun d fault _ => ?_)
  have after : Leaves a (log++[apiserver.event fault d (.getDeployment (sourceKey a))]) :=
    recorded_snoc _ log _ leaves (.other _ nofun)
  have read (unlabelled : Unlabelled (sourceKey a) d) : Stripped a (log++[apiserver.event fault d (.getDeployment (sourceKey a))]) := by
    refine stripped_last ?_
    rw [serve_read _ rfl]
    exact unlabelled
  cases answer : (apiserver.serve fault d (.getDeployment (sourceKey a))).2 with
  | error err =>
    dsimp only
    split
    next missing =>
      refine ensures_pure after ⟨after,fun _ => read (fun dep found => ?_)⟩
      rw [getDeployment_missing answer missing] at found
      cases found
    next => exact ensures_pure after ⟨after,fun same => by cases same⟩
  | ok dep =>
    have stored := getDeployment_ok answer
    have filed : dep.key = sourceKey a := d.deployments.keyed _ _ stored
    have unlabelled (missing : dep.labels.has labelEnabled = false) : Unlabelled (sourceKey a) d := by
      intro other found
      rw [stored] at found
      cases found
      exact missing
    dsimp only
    split
    next done => exact ensures_pure after ⟨after,fun _ => read (unlabelled done.2)⟩
    next =>
      refine ensures_ask after (fun e reply _ => ?_)
      have last := recorded_snoc _ _ (apiserver.event reply e (.patchDeployment dep (releasedDeployment dep target))) after
        (.other _ nofun : LeavingCall a _ (.patchDeployment dep (releasedDeployment dep target)))
      cases patched : (apiserver.serve reply e (.patchDeployment dep (releasedDeployment dep target))).2 with
      | error err => exact ensures_pure last ⟨last,fun same => by cases same⟩
      | ok done =>
        refine ensures_pure last ⟨last,fun _ => ?_⟩
        cases labelled : dep.labels.has labelEnabled with
        | false => exact (read (unlabelled labelled)).append _
        | true =>
          refine stripped_last ?_
          cases reply with
          | refused error => cases patched
          | lost error => cases patched
          | none =>
            rw [← filed]
            exact unlabelled_patchDeployment e dep target labelled patched

theorem kept_filter (carried : Carried a b log) :
    finalizerRestoreSource ∈ b.finalizers.filter (fun f => f ≠ finalizerRestoreSourceService) ∨ Stripped a log := by
  refine carried.kept.imp_left (fun member => List.mem_filter.mpr ⟨member,?_⟩)
  decide

theorem ensures_restoreChildren_leaves (leaves : Leaves a log) (carried : Carried a b log) :
    Ensures apiserver (fun _ t => Winding a t) (fun _ past => Leaves a past) (restoreChildren b)
      (fun result _ past => Leaves a past ∧ Carried a (afterStage result) past) c log := by
  have started := carried.ledger _ (sameLedger_setReady b .false .restoringService "rebuilding pre-adoption traffic objects")
  refine ensures_bind (ensures_mono (ensures_leaves_carried _ (within_restoreTrafficSnapshots _) (by simp)
    leaves started) ?_)
  rintro (_ | err) d calls _ ⟨traffic,memory⟩
  · have rebuilding := memory.ledger _ (sameLedger_setReady _ .false .restoringService "rebuilding pre-adoption Service")
    refine ensures_bind (ensures_mono (ensures_leaves_carried _ (within_rebuildSnapshotService _) (by simp)
      traffic rebuilding) ?_)
    rintro (_ | err) e more _ ⟨service,rebuilt⟩
    · refine ensures_bind (ensures_mono (ensures_removeFinalizer_leaves finalizerRestoreSourceService
        service rebuilt (kept_filter rebuilt)) ?_)
      rintro ⟨next,_ | err⟩ f rest _ ⟨after,freed⟩ <;> exact ensures_pure after ⟨after,freed⟩
    · exact ensures_pure service ⟨service,rebuilt.ledger _ (sameLedger_setCondition _ _ _ _ _)⟩
  · exact ensures_pure traffic ⟨traffic,memory.ledger _ (sameLedger_setCondition _ _ _ _ _)⟩

theorem ensures_releaseService_leaves (leaves : Leaves a log) (carried : Carried a b log) :
    Ensures apiserver (fun _ t => Winding a t) (fun _ past => Leaves a past) (releaseService b)
      (fun result _ past => Leaves a past ∧ Carried a (afterStage result) past) c log := by
  unfold releaseService
  split
  · refine ensures_bind (ensures_mono (ensures_leaves_carried _ (within_deleteKSvcIfPresent b) (by simp)
      leaves carried) ?_)
    rintro (_ | err) d calls _ ⟨deleted,first⟩
    · refine ensures_bind (ensures_mono (ensures_leaves_carried _ (within_isKSvcGone b) (by simp)
        deleted first) ?_)
      rintro (err | _ | _) e more _ ⟨asked,second⟩
      · exact ensures_pure asked ⟨asked,second⟩
      · exact ensures_pure asked ⟨asked,second.ledger _ (sameLedger_setReady _ _ _ _)⟩
      · refine ensures_bind (ensures_mono (ensures_leaves_carried _ (within_isDerivedServiceGone b) (by simp)
          asked second) ?_)
        rintro (err | _ | _) f rest _ ⟨gone,third⟩
        · exact ensures_pure gone ⟨gone,third⟩
        · exact ensures_pure gone ⟨gone,third.ledger _ (sameLedger_setReady _ _ _ _)⟩
        · exact ensures_restoreChildren_leaves gone third
    · exact ensures_pure deleted ⟨deleted,first.ledger _ (sameLedger_setCondition _ _ _ _ _)⟩
  · exact ensures_pure leaves ⟨leaves,carried⟩

theorem ensures_releaseSource_leaves (recorded : (a.status.sourceSnapshot.bind (fun s => s.replicas)).isSome = true)
    (leaves : Leaves a log) (carried : Carried a b log) :
    Ensures apiserver (fun _ t => Winding a t) (fun _ past => Leaves a past) (releaseSource b)
      (fun result _ past => Leaves a past ∧ Carried a (afterStage result) past) c log := by
  unfold releaseSource
  split
  · have restoring := carried.ledger _ (sameLedger_setReady b .false .restoringSource "restoring source Deployment replicas")
    refine ensures_bind (ensures_mono (ensures_restoreDeploymentSpec_strips recorded leaves restoring) ?_)
    rintro (_ | err) d calls _ ⟨restored,strips⟩
    · have memory := restoring.append calls
      refine ensures_bind (ensures_mono (ensures_removeFinalizer_leaves finalizerRestoreSource restored
        memory (Or.inr (strips rfl))) ?_)
      rintro ⟨next,_ | err⟩ e more _ ⟨after,freed⟩ <;> exact ensures_pure after ⟨after,freed⟩
    · exact ensures_pure restored ⟨restored,(restoring.append calls).ledger _ (sameLedger_setCondition _ _ _ _ _)⟩
  · exact ensures_pure leaves ⟨leaves,carried⟩

theorem ensures_handleDeletion_leaves (recorded : (a.status.sourceSnapshot.bind (fun s => s.replicas)).isSome = true)
    (leaves : Leaves a log) (carried : Carried a b log) :
    Ensures apiserver (fun _ t => Winding a t) (fun _ past => Leaves a past) (handleDeletion b)
      (fun done _ past => Leaves a past ∧ Carried a done.adoption past) c log := by
  refine ensures_bind (ensures_mono (ensures_releaseService_leaves leaves carried) ?_)
  rintro (done | next) d calls _ ⟨freed,memory⟩
  · exact ensures_pure freed ⟨freed,memory⟩
  · refine ensures_bind (ensures_mono (ensures_releaseSource_leaves recorded freed memory) ?_)
    rintro (done | last) e more _ ⟨after,final⟩
    · exact ensures_pure after ⟨after,final⟩
    · exact ensures_pure after ⟨after,final.ledger _ (sameLedger_setReady _ _ _ _)⟩

theorem ensures_patchStatus_leaves (original current : KnativeAdoption) (leaves : Leaves a log) (filed : current.key = a.key)
    (same : current.status.sourceSnapshot = original.status.sourceSnapshot) :
    Ensures apiserver (fun _ t => Winding a t) (fun _ past => Leaves a past) (patchStatus original current)
      (fun _ _ past => Leaves a past) c log := by
  unfold patchStatus
  split
  · exact ensures_pure leaves leaves
  · refine ensures_call leaves (fun d fault _ => ?_)
    have after : Leaves a (log++[apiserver.event fault d (.patchStatus original current)]) :=
      recorded_snoc _ log _ leaves (.status original current filed same)
    exact ensures_pure after after

/-- As long as the adoption is on its way out, so are the calls of a pass over it. -/
theorem ensures_reconcile_leaves (recorded : (a.status.sourceSnapshot.bind (fun s => s.replicas)).isSome = true)
    (r : KnativeAdoptionReconciler) (s : Cluster) :
    Ensures apiserver (fun _ t => Winding a t) (fun _ past => Leaves a past) (reconcile r a.key) (fun _ _ past => Leaves a past)
      s [] := by
  refine ensures_ask (recorded_nil _) (fun d fault winding => ?_)
  have after : Leaves a ([]++[apiserver.event fault d (.getAdoption a.key)]) :=
    recorded_snoc _ [] _ (recorded_nil _) (.other _ nofun)
  cases answer : (apiserver.serve fault d (.getAdoption a.key)).2 with
  | error err =>
    dsimp only
    split <;> exact ensures_pure after after
  | ok st =>
    have held := getAdoption_ok answer
    have leaving := winding.stored st held
    have carried : Carried a st ([]++[apiserver.event fault d (.getAdoption a.key)]) := by
      refine ⟨d.adoptions.keyed _ _ held,leaving.source,leaving.snapshot,?_⟩
      by_cases pending : finalizerRestoreSource ∈ st.finalizers
      · exact Or.inl pending
      · refine Or.inr (stripped_last ?_)
        rw [serve_read _ rfl]
        refine winding.stripped ?_
        unfold finalizersOf
        rw [held]
        exact pending
    simp only [leaving.deleting,if_true]
    refine ensures_bind (ensures_mono (ensures_handleDeletion_leaves recorded after carried) ?_)
    rintro done e calls _ ⟨handled,memory⟩
    refine ensures_bind (ensures_mono (ensures_patchStatus_leaves st done.adoption handled memory.filed
      (memory.snapshot.trans leaving.snapshot.symm)) ?_)
    rintro (err | ok) f more _ final
    · dsimp only
      split <;> exact ensures_pure final final
    · exact ensures_pure final final

end Pass

/-! Both controllers. -/

/-- Who acts: passes over the adoption, and passes of the watcher over its source. -/
inductive Party where
  | release (r : KnativeAdoptionReconciler)
  | watch

def Party.code (a : KnativeAdoption) : Party → Op Unit
  | release r => do
    let _ ← reconcile r a.key
    return ()
  | watch => watchPass (sourceKey a)

abbrev PartyTurn := Turn Party Request Response String Cluster

abbrev PartyScene := Scene Party Request Response String Cluster

def Party.Calls (a : KnativeAdoption) : Party → CallLog → Event Request Response String Cluster → Prop
  | release _,log,e => LeavingCall a log e.request
  | watch,log,e => WatcherCall (sourceKey a) log e.request

/-- What else happens: conditions are written, and nobody sets the label again. -/
structure Apart (a : KnativeAdoption) (c d : Cluster) : Prop where
  adoption : ∃ conditions, d.adoptions.get a.key = (c.adoptions.get a.key).map (fun st => st.withConditions conditions)
  unlabelled : Unlabelled (sourceKey a) c → Unlabelled (sourceKey a) d

def Creates (key : NamespacedName) (e : Event Request Response String Cluster) : Prop :=
  e.before.adoptions.get key = none ∧ (apiserver.serve e.fault e.before e.request).1.adoptions.get key ≠ none

/-- Where the adoption is gone when the watcher applies, it was gone when the pass read the Deployment. -/
def ReadSince (a : KnativeAdoption) (past : List PartyTurn) (turn : PartyTurn) : Prop :=
  ∀ labels spec, turn.event.request = .applyAdoption a.key labels spec → turn.event.before.adoptions.get a.key = none →
    ∀ read ∈ own turn.strand past, read.request = .getDeployment (sourceKey a) → read.before.adoptions.get a.key = none

section Steps
variable {a : KnativeAdoption} {c d : Cluster}

theorem calls_parties (recorded : (a.status.sourceSnapshot.bind (fun s => s.replicas)).isSome = true) (who : Party) (s : Cluster)
    (log : CallLog) (t : Cluster) (run : Run apiserver (fun _ t => Winding a t) (who.code a) s log none t) :
    Library.Recorded (who.Calls a) log := by
  cases who with
  | release r =>
    have whole : Ensures apiserver (fun _ t => Winding a t) (fun _ past => Leaves a past) (Party.code a (.release r))
        (fun _ _ past => Leaves a past) s [] :=
      ensures_bind (ensures_mono (ensures_reconcile_leaves recorded r s)
        (fun _ _ _ _ held => ensures_pure held held))
    exact (whole log none t run).1
  | watch => exact watchPass_calls (sourceKey a) s log t (run_drift _ (fun _ _ _ => trivial) _ _ _ _ _ run)

/-- A call after which the adoption under the key is as before. -/
theorem winding_same (winding : Winding a c) (fault : Fault String) (q : Request)
    (adoption : (apiserver.serve fault c q).1.adoptions.get a.key = c.adoptions.get a.key) :
    Winding a (apiserver.serve fault c q).1 := by
  refine ⟨fun st held => winding.stored st (adoption ▸ held),fun freed => unlabelled_serve _ fault c q (winding.stripped ?_)⟩
  unfold finalizersOf at freed ⊢
  rwa [adoption] at freed

/-- A call that writes the adoption; it may let the second finalizer go if the label is off. -/
theorem winding_put (fault : Fault String) (q : Request) (next : KnativeAdoption)
    (after : (apiserver.serve fault c q).1.adoptions.get a.key = some next) (leaving : Leaving a next)
    (stripped : finalizerRestoreSource ∉ next.finalizers → Unlabelled (sourceKey a) c) : Winding a (apiserver.serve fault c q).1 := by
  refine ⟨fun other found => ?_,fun freed => unlabelled_serve _ fault c q (stripped ?_)⟩
  · rw [after] at found
    cases found
    exact leaving
  · unfold finalizersOf at freed
    rwa [after] at freed

theorem winding_remove (fault : Fault String) (q : Request)
    (after : (apiserver.serve fault c q).1.adoptions.get a.key = none) (unlabelled : Unlabelled (sourceKey a) c) :
    Winding a (apiserver.serve fault c q).1 := by
  refine ⟨fun other found => ?_,fun _ => unlabelled_serve _ fault c q unlabelled⟩
  rw [after] at found
  cases found

/-- The adoption is still on its way out after the call, and none was created. -/
structure Wound (a : KnativeAdoption) (c d : Cluster) : Prop where
  winding : Winding a d
  absent : c.adoptions.get a.key = none → d.adoptions.get a.key = none

theorem wound_same (winding : Winding a c) (fault : Fault String) (q : Request)
    (adoption : (apiserver.serve fault c q).1.adoptions.get a.key = c.adoptions.get a.key) :
    Wound a c (apiserver.serve fault c q).1 :=
  ⟨winding_same winding fault q adoption,fun absent => adoption.trans absent⟩

/-- A field that a patch does not change keeps the stored value. -/
theorem mergeOption_unchanged {α : Type} [DecidableEq α] (merge : α → α → α → α) (zero : α) (stored sent : Option α) :
    mergeOption merge zero stored sent sent = stored := by
  unfold mergeOption
  cases sent with
  | none => exact if_pos rfl
  | some value => exact if_pos rfl

/-- A status patch that does not touch the snapshot. -/
theorem patchStatus_snapshot (fault : Fault String) (c : Cluster) (original current : KnativeAdoption)
    (same : current.status.sourceSnapshot = original.status.sourceSnapshot) :
    (apiserver.serve fault c (.patchStatus original current)).1.adoptions.get current.key = c.adoptions.get current.key ∨
    ∃ st next, c.adoptions.get current.key = some st ∧
      (apiserver.serve fault c (.patchStatus original current)).1.adoptions.get current.key = some next ∧
      SameLedger st next := by
  rcases apiserver.serve_state fault c (.patchStatus original current) with state | ⟨state,-⟩
  · exact Or.inl (by rw [state])
  rw [state,show apiserver.effect c (.patchStatus original current) = c.patchStatus original current from rfl]
  unfold Cluster.patchStatus
  cases held : c.adoptions.get current.key with
  | none => exact Or.inl held
  | some st =>
    have filed : st.key = current.key := c.adoptions.keyed _ _ held
    refine Or.inr ⟨st,_,rfl,if_pos filed.symm,rfl,rfl,?_⟩
    change mergeOption mergeSourceSnapshot {} st.status.sourceSnapshot original.status.sourceSnapshot
      current.status.sourceSnapshot = st.status.sourceSnapshot
    rw [same]
    exact mergeOption_unchanged _ _ _ _

theorem Leaving.ledger (st next : KnativeAdoption) (same : SameLedger st next) (leaving : Leaving a st) : Leaving a next := by
  refine ⟨?_,?_,same.snapshot.trans leaving.snapshot⟩
  · rw [congrArg ObjectMeta.deleting same.metadata]
    exact leaving.deleting
  · rw [← leaving.source]
    exact sourceName_congr _ _ same.spec (congrArg ObjectMeta.name same.metadata)

/-- A call of a deletion pass, where a label that one of its earlier calls found or took off is still off. -/
theorem wound_release (winding : Winding a c) (fault : Fault String) (log : CallLog) (q : Request) (call : LeavingCall a log q)
    (since : Stripped a log → Unlabelled (sourceKey a) c) : Wound a c (apiserver.serve fault c q).1 := by
  cases call with
  | other q outside => exact wound_same winding fault q (by rw [serve_adoptions fault c q outside])
  | update b filed source kept =>
    have freed (gone : finalizerRestoreSource ∉ b.finalizers) : Unlabelled (sourceKey a) c := since (kept.resolve_left gone)
    rcases apiserver.serve_state fault c (.updateAdoption b) with state | ⟨state,-⟩
    · exact wound_same winding fault _ (by rw [state])
    rcases updateAdoption_cases c b with same | ⟨st,held,⟨none_,gone⟩ | stored⟩
    · exact wound_same winding fault _ (by rw [state]; exact congrArg (fun d => d.adoptions.get a.key) same)
    · have after : (apiserver.serve fault c (.updateAdoption b)).1.adoptions.get a.key = none := by
        rw [state]
        exact (congrArg (fun d => d.adoptions.get a.key) gone).trans (if_pos filed.symm)
      exact ⟨winding_remove fault _ after (freed (by simp [none_])),fun _ => after⟩
    · rw [filed] at held
      have key : st.key = a.key := c.adoptions.keyed _ _ held
      have after := (congrArg (fun d => d.adoptions.get a.key) (state.trans stored)).trans (if_pos key.symm)
      have leaving := winding.stored st held
      have name : st.name = b.name := congrArg NamespacedName.name (key.trans filed.symm)
      refine ⟨winding_put fault _ _ after ⟨leaving.deleting,?_,leaving.snapshot⟩ freed,fun absent => ?_⟩
      · rw [← source]
        exact sourceName_congr _ _ rfl name
      · rw [absent] at held
        cases held
  | status original current filed same =>
    have patched := patchStatus_snapshot fault c original current same
    rw [filed] at patched
    rcases patched with unchanged | ⟨st,next,held,after,ledger⟩
    · exact wound_same winding fault _ unchanged
    · refine ⟨winding_put fault _ _ after ((winding.stored st held).ledger _ _ ledger) (fun gone => winding.stripped ?_),
        fun absent => ?_⟩
      · unfold finalizersOf
        rw [held]
        rw [congrArg ObjectMeta.finalizers ledger.metadata] at gone
        exact gone
      · rw [absent] at held
        cases held

/-- The name an apply of the watcher sends is the one the adoption has. -/
theorem sourceName_applied (st : KnativeAdoption) (dep : Deployment) (labels : Labels) (filed : dep.key = sourceKey a)
    (here : st.key = sourceKey a) :
    sourceName { st with labels := labels, spec := applyAdoptionSpec st.spec (fromDeployment dep).1 } = sourceName a := by
  have named : dep.name = sourceName a := congrArg NamespacedName.name filed
  have stored : st.name = sourceName a := congrArg NamespacedName.name here
  have sent : (applyAdoptionSpec st.spec (fromDeployment dep).1).sourceRef.name = dep.name := rfl
  rw [sourceName,sent,stored,named]
  split <;> rfl

section Writes
variable (c : Cluster) (key other : NamespacedName) (labels : Labels) (spec : KnativeAdoptionSpec)

theorem applyAdoption_other (away : other ≠ key) :
    (c.applyAdoption key labels spec).1.adoptions.get other = c.adoptions.get other := by
  unfold Cluster.applyAdoption
  split
  · exact if_neg away
  next st held =>
    have filed : st.key = key := c.adoptions.keyed _ _ held
    exact if_neg (fun same => away (same.trans filed))

theorem applyAdoption_stored (here : other = key) (st : KnativeAdoption) (held : c.adoptions.get other = some st) :
    (c.applyAdoption key labels spec).1.adoptions.get other =
      some { st with labels := st.labels.overlay labels, spec := applyAdoptionSpec st.spec spec } := by
  subst here
  have filed : st.key = other := c.adoptions.keyed _ _ held
  unfold Cluster.applyAdoption
  rw [held]
  exact if_pos filed.symm

end Writes

/-- A pass of the watcher keeps the adoption on its way out, unless it applies where there is none. -/
theorem wound_watch (winding : Winding a c) (fault : Fault String) (log : CallLog) (q : Request)
    (call : WatcherCall (sourceKey a) log q)
    (since : ∀ labels spec dep, q = .applyAdoption a.key labels spec → c.adoptions.get a.key = none →
      ¬ ReadLabelled (sourceKey a) log dep) : Wound a c (apiserver.serve fault c q).1 := by
  rcases apiserver.serve_state fault c q with state | ⟨state,-⟩
  · exact wound_same winding fault q (by rw [state])
  have effect := congrArg (fun d => d.adoptions.get a.key) state
  have kept (st : KnativeAdoption) (held : c.adoptions.get a.key = some st) (gone : finalizerRestoreSource ∉ st.finalizers) :
      Unlabelled (sourceKey a) c := by
    refine winding.stripped ?_
    unfold finalizersOf
    rw [held]
    exact gone
  have applies (dep : Deployment) (source : ReadLabelled (sourceKey a) log dep)
      (sent : q = .applyAdoption (sourceKey a) DeploymentWatcher.watcherLabels (fromDeployment dep).1) :
      Wound a c (apiserver.serve fault c q).1 := by
    subst sent
    by_cases here : a.key = sourceKey a
    · cases held : c.adoptions.get a.key with
      | none => exact absurd source (since _ _ dep (by rw [here]) held)
      | some st =>
        obtain ⟨e,-,-,stored⟩ := source.stored
        have named : dep.key = sourceKey a := e.before.deployments.keyed _ _ stored
        have filed : st.key = sourceKey a := (c.adoptions.keyed _ _ held).trans here
        have leaving := winding.stored st held
        have after := effect.trans (applyAdoption_stored c _ _ _ _ here st held)
        refine ⟨winding_put fault _ _ after ⟨leaving.deleting,sourceName_applied st dep _ named filed,leaving.snapshot⟩
          (kept st held),fun absent => ?_⟩
        rw [absent] at held
        cases held
    · exact wound_same winding fault _ (effect.trans (applyAdoption_other c _ _ _ _ here))
  cases call with
  | deployment | adoption => exact wound_same winding fault _ effect
  | create dep source err absent => exact applies dep source rfl
  | apply dep source existing read => exact applies dep source rfl
  | delete existing read =>
    by_cases here : a.key = sourceKey a
    · have after := effect.trans ((get_deleteAdoption c (sourceKey a) a.key).trans (if_pos here))
      cases held : c.adoptions.get a.key with
      | none => exact wound_same winding fault _ (by rw [after,held]; rfl)
      | some st =>
        have leaving := winding.stored st held
        rw [held,Option.bind_some] at after
        split at after
        next none_ =>
          exact ⟨winding_remove fault _ after (kept st held (by rw [none_]; exact List.not_mem_nil)),fun _ => after⟩
        next =>
          refine ⟨winding_put fault _ _ after ⟨rfl,leaving.source,leaving.snapshot⟩ (kept st held),fun absent => ?_⟩
          rw [absent] at held
          cases held
    · exact wound_same winding fault _ (effect.trans ((get_deleteAdoption c (sourceKey a) a.key).trans (if_neg here)))

theorem Winding.apart (winding : Winding a c) (moved : Apart a c d) : Winding a d := by
  obtain ⟨conditions,same⟩ := moved.adoption
  refine ⟨fun st held => ?_,fun freed => moved.unlabelled (winding.stripped ?_)⟩
  · rw [same] at held
    obtain ⟨before,stored,rfl⟩ := Option.map_eq_some_iff.mp held
    exact (winding.stored before stored).ledger before _ ⟨rfl,rfl,rfl⟩
  · unfold finalizersOf at freed ⊢
    rw [same] at freed
    cases held : c.adoptions.get a.key with
    | none => exact List.not_mem_nil
    | some st =>
      rw [held] at freed
      exact freed

end Steps

/-- The adoption is on its way out at every turn, no turn created it, and a label that was off at some turn is off. -/
structure Released (a : KnativeAdoption) (scene : PartyScene) : Prop where
  winding : Winding a scene.state
  turns : ∀ turn ∈ scene.history, Winding a turn.event.before ∧ ¬ Creates a.key turn.event
  stripped : ∀ turn ∈ scene.history, Unlabelled (sourceKey a)
    (apiserver.serve turn.event.fault turn.event.before turn.event.request).1 → Unlabelled (sourceKey a) scene.state

/-- A labelled Deployment was not read after the adoption had gone. -/
theorem readSince_labelled (a : KnativeAdoption) (past : List PartyTurn) (turn : PartyTurn) (since : ReadSince a past turn)
    (winding : ∀ earlier ∈ past, Winding a earlier.event.before) (labels : Labels) (spec : KnativeAdoptionSpec) (dep : Deployment)
    (applies : turn.event.request = .applyAdoption a.key labels spec) (absent : turn.event.before.adoptions.get a.key = none) :
    ¬ ReadLabelled (sourceKey a) (own turn.strand past) dep := by
  intro read
  obtain ⟨e,member,request,stored⟩ := read.stored
  have gone := since labels spec applies absent e member request
  obtain ⟨earlier,there,-,rfl⟩ := own_member _ _ _ member
  have unlabelled := (winding earlier there).stripped (by
    unfold finalizersOf
    rw [gone]
    exact List.not_mem_nil)
  have labelled := read.labelled
  rw [unlabelled_disabled dep (unlabelled dep stored)] at labelled
  cases labelled

theorem released_scene (a : KnativeAdoption) (recorded : (a.status.sourceSnapshot.bind (fun s => s.replicas)).isSome = true)
    (first : Cluster) (start : Winding a first) (scene : PartyScene)
    (run : Interleaved apiserver (Party.code a) (Apart a) (fun _ _ => True) first scene)
    (since : Library.Recorded (ReadSince a) scene.history) : Released a scene := by
  induction run with
  | start => exact ⟨start,fun _ member => absurd member List.not_mem_nil,fun _ member => absurd member List.not_mem_nil⟩
  | drift scene t before moved ih =>
    have held := ih since
    exact ⟨held.winding.apart moved,held.turns,fun turn member off => moved.unlabelled (held.stripped turn member off)⟩
  | spawn scene who before allowed ih => exact ⟨(ih since).winding,(ih since).turns,(ih since).stripped⟩
  | turn scene i fault before ih =>
    have relied := interleaved_relied (Winding a) (Party.Calls a) (calls_parties recorded) _ (.turn scene i fault before)
    rcases scene.turn_cases apiserver i fault with same | ⟨who,q,next,log,there,same⟩
    · rw [same] at since ⊢
      exact ih since
    · rw [same] at since relied ⊢
      have held := ih (recorded_left _ scene.history _ since)
      have safe : ∀ turn ∈ scene.history++[⟨i,who,apiserver.event fault scene.state q⟩], Winding a turn.event.before := by
        intro turn member
        rcases List.mem_append.mp member with earlier | now
        · exact (held.turns turn earlier).1
        · rw [List.mem_singleton.mp now]
          exact held.winding
      have call : who.Calls a (own i scene.history) (apiserver.event fault scene.state q) := relied safe scene.history _ [] rfl
      have wound : Wound a scene.state (apiserver.serve fault scene.state q).1 := by
        cases who with
        | release r =>
          refine wound_release held.winding fault _ q call (fun ⟨e,member,off⟩ => ?_)
          obtain ⟨turn,earlier,-,rfl⟩ := own_member _ _ _ member
          exact held.stripped turn earlier off
        | watch =>
          refine wound_watch held.winding fault _ q call (fun labels spec dep => ?_)
          exact readSince_labelled a scene.history ⟨i,.watch,apiserver.event fault scene.state q⟩
            (since scene.history _ [] rfl) (fun turn member => (held.turns turn member).1) labels spec dep
      refine ⟨wound.winding,fun turn member => ?_,fun turn member off => ?_⟩
      · rcases List.mem_append.mp member with earlier | now
        · exact held.turns turn earlier
        · rw [List.mem_singleton.mp now]
          exact ⟨held.winding,fun created => created.2 (wound.absent created.1)⟩
      · rcases List.mem_append.mp member with earlier | now
        · exact unlabelled_serve _ fault _ q (held.stripped turn earlier off)
        · rw [List.mem_singleton.mp now] at off
          exact off

/-- No adoption of the name is created in a run in which a pass of the watcher that read the Deployment while the adoption
was there does not apply after it has gone. -/
theorem release_stands (a : KnativeAdoption) (recorded : (a.status.sourceSnapshot.bind (fun s => s.replicas)).isSome = true)
    (deleting : a.deleting = true) (pending : finalizerRestoreSource ∈ a.finalizers) (first : Cluster)
    (held : first.adoptions.get a.key = some a) (scene : PartyScene)
    (run : Interleaved apiserver (Party.code a) (Apart a) (fun _ _ => True) first scene)
    (since : Library.Recorded (ReadSince a) scene.history) : ∀ turn ∈ scene.history, ¬ Creates a.key turn.event := by
  have start : Winding a first := by
    refine ⟨fun st found => ?_,fun freed => ?_⟩
    · rw [held] at found
      cases found
      exact ⟨deleting,rfl,rfl⟩
    · unfold finalizersOf at freed
      rw [held] at freed
      exact absurd pending freed
  exact fun turn member => ((released_scene a recorded first start scene run since).turns turn member).2

namespace Sample

/-- The adoption of the sample workload as the watcher made it, after it was deleted. -/
def watchedLeaving : KnativeAdoption := { leaving with labels := DeploymentWatcher.watcherLabels }

def watchedAdopted : Cluster := { adopted with adoptions := .ofList [watchedLeaving] }

def partyStart : PartyScene := ⟨[],[],watchedAdopted⟩

/-- A pass of the watcher, a release and another pass of the watcher, one after the other. -/
def inTurn : PartyScene :=
  let watched := (partyStart.spawn (Party.code watchedLeaving) .watch).turns apiserver 0 [.none,.none,.none]
  let released := (watched.spawn (Party.code watchedLeaving) (.release reconciler)).turns apiserver 1 (List.replicate 12 .none)
  (released.spawn (Party.code watchedLeaving) .watch).turns apiserver 2 [.none,.none,.none]

/-- The release runs between the watcher's read of the Deployment and its read of the adoption. -/
def between : PartyScene :=
  let read := (partyStart.spawn (Party.code watchedLeaving) .watch).turns apiserver 0 [.none]
  let released := (read.spawn (Party.code watchedLeaving) (.release reconciler)).turns apiserver 1 (List.replicate 12 .none)
  released.turns apiserver 0 [.none,.none]

def appliesTo (key : NamespacedName) : Request → Bool
  | .applyAdoption other _ _ => other = key
  | _ => false

end Sample

theorem release_stands_sample :
    (Sample.inTurn.state.adoptions.get Sample.watchedLeaving.key).isNone = true ∧
      Sample.inTurn.history.any (fun turn => Sample.appliesTo Sample.watchedLeaving.key turn.event.request) = true ∧
      ∀ turn ∈ Sample.inTurn.history, ¬ Creates Sample.watchedLeaving.key turn.event := by
  have present : Sample.inTurn.history.all (fun turn => !Sample.appliesTo Sample.watchedLeaving.key turn.event.request ||
      (turn.event.before.adoptions.get Sample.watchedLeaving.key).isSome) = true := by decide +kernel
  refine ⟨by decide +kernel,by decide +kernel,release_stands Sample.watchedLeaving rfl rfl (by decide) Sample.watchedAdopted
    (by rfl) Sample.inTurn ?_ ?_⟩
  · exact interleaved_turns _ _ _ (.spawn _ _ (interleaved_turns _ _ _ (.spawn _ _ (interleaved_turns _ _ _ (.spawn _ _ .start
      trivial)) trivial)) trivial)
  · intro past turn later split labels spec applies absent
    have checked := List.all_eq_true.mp present turn (by rw [split]; simp)
    rw [applies,absent] at checked
    simp [Sample.appliesTo] at checked

/-- The adoption is released and gone, and the watcher makes it again from the Deployment it read before. -/
theorem release_undone :
    Interleaved apiserver (Party.code Sample.watchedLeaving) (Apart Sample.watchedLeaving) (fun _ _ => True) Sample.watchedAdopted
        Sample.between ∧
      (Sample.between.state.deployments.get Sample.deployment.key).map (fun dep => dep.labels.has labelEnabled) = some false ∧
      ∃ turn ∈ Sample.between.history, Creates Sample.watchedLeaving.key turn.event := by
  refine ⟨interleaved_turns _ _ _ (interleaved_turns _ _ _ (.spawn _ _ (interleaved_turns _ _ _ (.spawn _ _ .start trivial))
    trivial)),by decide +kernel,?_⟩
  have created : Sample.between.history.any (fun turn =>
      (turn.event.before.adoptions.get Sample.watchedLeaving.key).isNone &&
      ((apiserver.serve turn.event.fault turn.event.before turn.event.request).1.adoptions.get
        Sample.watchedLeaving.key).isSome) = true := by decide +kernel
  obtain ⟨turn,member,both⟩ := List.any_eq_true.mp created
  rw [Bool.and_eq_true,Option.isNone_iff_eq_none] at both
  refine ⟨turn,member,both.1,fun gone => ?_⟩
  rw [gone] at both
  cases both.2

end Ifaas
