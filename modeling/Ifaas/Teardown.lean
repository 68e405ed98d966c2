import Ifaas.DeploymentWatcher
import Ifaas.ReleasePass
import Ifaas.WriteAhead

/-! Whole deletion runs. A teardown that was interrupted anywhere ends like one that
was not, and the trigger label leaves the source with the replicas, so it stays when
none were recorded. -/
namespace Ifaas
open Library

/-- A deletion begins: what is to come is read off the snapshot. -/
theorem Releasing.begin {σ : Type} (view : Service → σ) (base : Prop) (a : KnativeAdoption) (c : Cluster)
    (held : c.adoptions.get a.key = some a) (deleting : a.deleting = true)
    (gone : base ∨ finalizerRestoreSourceService ∉ a.finalizers → Gone a c) :
    Releasing view base a c (Ifaas.outcome view a c) where
  stored st found := by
    rw [held] at found
    cases found
    exact ⟨rfl,deleting,rfl⟩
  outcome := rfl
  gone := by simpa [finalizersOf,held] using gone

section Resume
variable (r : KnativeAdoptionReconciler) (a : KnativeAdoption)

theorem drift_of_eq (c d : Cluster) (same : c = d) : Drift c d := same ▸ Drift.refl c

/-- A pass that succeeds and is alone brings everything that was to come. -/
theorem succeed_release (c : Cluster) (goal : Outcome Service) (releasing : Releasing id True a c goal) :
    Freed a (apiserver.succeed (reconcile r a.key) c).2 ∧
      (apiserver.succeed (reconcile r a.key) c).2.traffic = goal.traffic ∧
      (apiserver.succeed (reconcile r a.key) c).2.services.get a.key = goal.service ∧
      (apiserver.succeed (reconcile r a.key) c).2.deployments.get (sourceKey a) = goal.deployment := by
  obtain ⟨log,run,clean⟩ := run_succeed apiserver Eq (fun _ => rfl) (reconcile r a.key) c
  have pass := releasing.pass drift_of_eq (fun _ _ same held => same ▸ held) r log _ run
  have freed := pass.2 clean (releasing.gone (Or.inl trivial))
  obtain ⟨traffic,service,deployment⟩ := pass.1.freed freed
  exact ⟨freed,traffic,by simpa using service,deployment⟩

/-- A teardown interrupted any number of times, by refused calls, lost answers or
restarts, ends like one that succeeds at once. -/
theorem teardown_resumes (c0 c : Cluster)
    (passes : List (Pass Request Response String Cluster (Result × Option ApiError)))
    (held : c0.adoptions.get a.key = some a) (deleting : a.deleting = true) (gone : Gone a c0)
    (run : Passes apiserver Eq (reconcile r a.key) c0 passes c) :
    let resumed := (apiserver.succeed (reconcile r a.key) c).2
    let direct := (apiserver.succeed (reconcile r a.key) c0).2
    resumed.deployments.get (sourceKey a) = direct.deployments.get (sourceKey a) ∧
      resumed.services.get a.key = direct.services.get a.key ∧ resumed.traffic = direct.traffic ∧
      finalizerRestoreSourceService ∉ finalizersOf a resumed ∧ finalizerRestoreSource ∉ finalizersOf a resumed := by
  have start := Releasing.begin id True a c0 held deleting (fun _ => gone)
  have reached := releasing_passes drift_of_eq (fun _ _ same held => same ▸ held) r start passes run
  obtain ⟨_,traffic0,service0,deployment0⟩ := succeed_release r a c0 _ start
  obtain ⟨freed,traffic,service,deployment⟩ := succeed_release r a c _ reached
  exact ⟨deployment.trans deployment0.symm,service.trans service0.symm,traffic.trans traffic0.symm,freed⟩

end Resume

namespace Sample

/-- The adoption of the sample workload after it was adopted and deleted. -/
def leaving : KnativeAdoption :=
  { adoption with
    finalizers := [finalizerRestoreSourceService,finalizerRestoreSource]
    deleting := true
    status :=
      { sourceSnapshot := some
          { replicas := some 3
            service := some service.spec.stripAddresses
            traffic := some { destinationRules := [⟨"web",destinationRule.spec⟩] } } } }

/-- The sample workload as its adoption leaves it, with Knative done. -/
def adopted : Cluster where
  adoptions := .ofList [leaving]
  deployments := .ofList [{ deployment with spec := { deployment.spec with replicas := some 0 } }]

end Sample

/-- The first pass loses the answer that the DestinationRule was created, the second is
cut off after the Service was rebuilt, the third cannot remove the first finalizer. -/
theorem teardown_resumes_sample :
    let scripts := [List.replicate 5 .none++[.lost "timeout"],List.replicate 6 .none,
      List.replicate 6 .none++[.refused "conflict"]]
    let resumed := (apiserver.succeed Sample.pass (apiserver.execPasses Sample.pass scripts Sample.adopted).2).2
    (resumed.deployments.get Sample.adoption.key).map (fun dep => dep.spec.replicas) = some (some 3) ∧
      resumed.traffic = (apiserver.succeed Sample.pass Sample.adopted).2.traffic ∧
      finalizersOf Sample.leaving resumed = [] := by
  refine ⟨by decide +kernel,?_,by decide +kernel⟩
  exact (teardown_resumes Sample.reconciler Sample.leaving Sample.adopted _ _ rfl rfl ⟨rfl,by intro svc held; cases held⟩
    (passes_exec apiserver Eq (fun _ => rfl) _ _ _)).2.2.1

/-! The trigger label. -/

section Trigger
variable {fault : Fault String} {c d : Cluster} {log : CallLog}

/-- The call creates an adoption or applies a new spec to it. -/
def Request.projects : Request → Bool
  | .applyAdoption _ _ _ => true
  | _ => false

def Unprojected (log : CallLog) : Prop := ∀ e ∈ log, e.request.projects = false

theorem uses_deleteIfWatcherOwned (key : NamespacedName) :
    (DeploymentWatcher.deleteIfWatcherOwned key).Uses (fun r => r.projects = false) := by
  refine Program.uses_bind (Program.uses_request rfl) (fun response => ?_)
  cases response with
  | error err => dsimp only; split <;> exact Program.uses_pure _ _
  | ok existing =>
    dsimp only
    split
    · refine Program.uses_bind (Program.uses_request rfl) (fun response => ?_)
      cases response with
      | error err => dsimp only; split <;> exact Program.uses_pure _ _
      | ok done => exact Program.uses_pure _ _
    · exact Program.uses_pure _ _

theorem label_value_missing (labels : Labels) (key : String) (missing : labels.has key = false) :
    labels.value key = "" := by
  unfold Labels.has at missing
  unfold Labels.value
  cases held : labels.lookup key with
  | none => rfl
  | some value => simp [held] at missing

/-- The watcher makes no adoption for a Deployment without the label. -/
theorem watcher_without_label (key : NamespacedName) (dep : Deployment) (held : c.deployments.get key = some dep)
    (unlabelled : dep.labels.has labelEnabled = false) (out : Option (Option ApiError))
    (run : Run apiserver Drift (DeploymentWatcher.reconcile key) c log out d) : Unprojected log := by
  have first : Ensures apiserver Drift (fun _ past => Unprojected past) (DeploymentWatcher.reconcile key)
      (fun _ _ _ => True) c [] := by
    unfold DeploymentWatcher.reconcile
    refine ensures_ask (by simp [Unprojected]) (fun m fault moved => ?_)
    have idle (p : Op (Option ApiError)) (uses : p.Uses (fun r => r.projects = false)) :
        Ensures apiserver Drift (fun _ past => Unprojected past) p (fun _ _ _ => True)
          (apiserver.serve fault m (.getDeployment key)).1 [apiserver.event fault m (.getDeployment key)] := by
      refine ensures_mono (ensures_uses (fun r => r.projects = false)
        (fun _ _ _ _ kept => kept) (fun s past fault r fine kept => ?_) p uses _ _ ?_) (fun _ _ _ _ _ => trivial)
      · intro e member
        rcases List.mem_append.mp member with inside | last
        · exact kept e inside
        · rw [List.mem_singleton.mp last]
          exact fine
      · intro e member
        rw [List.mem_singleton.mp member]
        rfl
    cases answer : (apiserver.serve fault m (.getDeployment key)).2 with
    | error err =>
      dsimp only
      split
      · exact idle _ (uses_deleteIfWatcherOwned key)
      · exact idle _ (Program.uses_pure _ _)
    | ok found =>
      have same := getDeployment_ok answer
      rw [moved.deployments,held] at same
      cases same
      have off : DeploymentWatcher.isAdoptionLabelEnabled dep = false := by
        simp [DeploymentWatcher.isAdoptionLabelEnabled,label_value_missing _ _ unlabelled,labelEnabledValue]
      simp only [off,Bool.false_eq_true,if_false]
      exact idle _ (uses_deleteIfWatcherOwned key)
  simpa using (first log out d run).1

/-- After a deletion run that removed the second finalizer the source has lost the
trigger label exactly if replicas were recorded or it had no label; then the watcher
makes no new adoption. -/
theorem release_consumes_trigger (r : KnativeAdoptionReconciler) (a : KnativeAdoption) (c0 c : Cluster)
    (dep0 : Deployment) (passes : List (Pass Request Response String Cluster (Result × Option ApiError)))
    (held : c0.adoptions.get a.key = some a) (deleting : a.deleting = true)
    (both : finalizerRestoreSourceService ∈ a.finalizers ∧ finalizerRestoreSource ∈ a.finalizers)
    (source : c0.deployments.get (sourceKey a) = some dep0)
    (run : Passes apiserver Drift (reconcile r a.key) c0 passes c)
    (removed : finalizerRestoreSource ∉ finalizersOf a c) :
    ∃ dep, c.deployments.get (sourceKey a) = some dep ∧
      (dep.labels.has labelEnabled = false ↔
        (a.status.sourceSnapshot.bind (fun s => s.replicas) ≠ none ∨ dep0.labels.has labelEnabled = false)) ∧
      (dep.labels.has labelEnabled = false → ∀ log out d,
        Run apiserver Drift (DeploymentWatcher.reconcile (sourceKey a)) c log out d → Unprojected log) := by
  have start := Releasing.begin withoutAddresses False a c0 held deleting
    (fun either => either.elim False.elim (absurd both.1))
  have reached := releasing_passes (fun _ _ moved => moved) (fun _ _ moved held => held.drift moved) r start passes run
  have final : c.deployments.get (sourceKey a) = restoredDeployment a (some dep0) := by
    have now := congrArg Outcome.deployment reached.outcome
    simp only [outcome,removed,if_false] at now
    have before : finalizerRestoreSource ∈ finalizersOf a c0 := by simpa [finalizersOf,held] using both.2
    rw [now,if_pos before,source]
  cases recorded : a.status.sourceSnapshot.bind (fun s => s.replicas) with
  | none =>
    simp only [restoredDeployment,recorded] at final
    exact ⟨dep0,final,by simp,fun unlabelled log out d ran =>
      watcher_without_label (sourceKey a) dep0 final unlabelled out ran⟩
  | some target =>
    simp only [restoredDeployment,recorded,Option.map_some] at final
    have gone : (releasedDeployment dep0 target).labels.has labelEnabled = false := by
      simp [releasedDeployment,Labels.has_delete]
    exact ⟨_,final,by simp [gone],fun unlabelled log out d ran =>
      watcher_without_label (sourceKey a) _ final unlabelled out ran⟩

theorem release_consumes_trigger_sample :
    let run := apiserver.execPasses Sample.pass [List.replicate 12 .none] Sample.adopted
    ∃ dep, run.2.deployments.get Sample.adoption.key = some dep ∧ dep.labels.has labelEnabled = false := by
  obtain ⟨dep,found,label,_⟩ := release_consumes_trigger Sample.reconciler Sample.leaving Sample.adopted _ _ _
    rfl rfl (by decide) rfl (passes_exec apiserver Drift Drift.refl Sample.pass [List.replicate 12 .none] _)
    (by decide +kernel)
  exact ⟨dep,found,label.mpr (Or.inl (by decide))⟩

/-- The sample workload with a Service the swap refuses. -/
def Sample.refused : Cluster :=
  { Sample.cluster with services := .ofList [{ Sample.service with spec := { Sample.service.spec with type := .loadBalancer } }] }

/-- A refused adoption records no replicas: after its release the label is still there
and the watcher adopts the source again. -/
theorem release_keeps_trigger :
    let refused := (apiserver.succeed Sample.pass Sample.refused).2
    let deleting := (refused.deleteAdoption Sample.adoption.key).1
    let run := apiserver.execPasses Sample.pass [List.replicate 12 .none] deleting
    Passes apiserver Drift Sample.pass deleting run.1 run.2 ∧
      (finalizersOf Sample.adoption deleting = [finalizerRestoreSourceService,finalizerRestoreSource] ∧
        run.2.adoptions.get Sample.adoption.key = none) ∧
      (run.2.deployments.get Sample.adoption.key).any (fun dep => dep.labels.has labelEnabled) = true ∧
      ((apiserver.succeed (DeploymentWatcher.reconcile Sample.adoption.key) run.2).2.adoptions.get
        Sample.adoption.key).isSome = true :=
  ⟨passes_exec apiserver Drift Drift.refl _ _ _,by decide +kernel,by decide +kernel,by decide +kernel⟩

end Trigger
end Ifaas
