import Ifaas.Teardown

/-! Whose Knative Service a teardown deletes. The delete names the adoption's key and
nothing else, so it hits whatever stands there: the Knative Service that the adoption
applied, or one of a user if the adoption never came to apply its own. -/
namespace Ifaas
open Library

/-- `metav1.IsControlledBy`. -/
def controlledBy (a : KnativeAdoption) (ksvc : KService) : Bool :=
  ksvc.controllerOf.any (fun owner => owner.uid = a.uid)

/-- While the first phase is pending, the name of the adoption is free or its own. -/
def OwnsName (a : KnativeAdoption) (c : Cluster) : Prop :=
  finalizerRestoreSourceService ∈ a.finalizers → ∀ ksvc, c.ksvcs.get a.key = some ksvc → controlledBy a ksvc = true

def DeletesOwn (a : KnativeAdoption) (log : CallLog) : Prop :=
  ∀ e ∈ log, ∀ key, e.request = .deleteKService key → e.Took →
    ∀ ksvc, e.before.ksvcs.get key = some ksvc → controlledBy a ksvc = true

/-- The Knative Services of others are still there and not marked for deletion. -/
def OthersSurvive (a : KnativeAdoption) (c d : Cluster) : Prop :=
  ∀ key ksvc, c.ksvcs.get key = some ksvc → controlledBy a ksvc = false → ksvc.deleting = false →
    ∃ live, d.ksvcs.get key = some live ∧ controlledBy a live = false ∧ live.deleting = false

structure Sparing (a : KnativeAdoption) (c d : Cluster) (log : CallLog) : Prop where
  owns : OwnsName a d
  deletes : DeletesOwn a log
  survive : OthersSurvive a c d

/-- A call of a deletion pass: the only Knative Service it writes is the adoption's. -/
def TeardownCall (a : KnativeAdoption) (r : Request) : Prop :=
  r.part = some .ksvcs → r = .deleteKService a.key ∧ finalizerRestoreSourceService ∈ a.finalizers

section Steps
variable {a b : KnativeAdoption} {c0 c d : Cluster} {log : CallLog}

theorem DeletesOwn.append (deletes : DeletesOwn a log) (e : Event Request Response String Cluster)
    (fine : ∀ key, e.request = .deleteKService key → ∀ ksvc, e.before.ksvcs.get key = some ksvc → controlledBy a ksvc = true) :
    DeletesOwn a (log++[e]) := by
  intro event member key request took
  rcases List.mem_append.mp member with earlier | last
  · exact deletes event earlier key request took
  · cases List.mem_singleton.mp last
    exact fine key request

theorem OthersSurvive.drift (moved : Drift c d) (survive : OthersSurvive a c0 c) : OthersSurvive a c0 d := by
  intro key ksvc held foreign unmarked
  obtain ⟨live,found,other,kept⟩ := survive key ksvc held foreign unmarked
  have step := moved.ksvcs key
  rw [found] at step
  rcases step with ⟨marked,_⟩ | ⟨annotations,status,after⟩
  · rw [kept] at marked
    cases marked
  · exact ⟨_,after,other,kept⟩

theorem Sparing.drift (moved : Drift c d) (sparing : Sparing a c0 c log) : Sparing a c0 d log where
  owns pending ksvc found := by
    obtain ⟨old,before,same⟩ := moved.ksvc_before a.key ksvc found
    unfold controlledBy
    rw [same]
    exact sparing.owns pending old before
  deletes := sparing.deletes
  survive := sparing.survive.drift moved

/-- The mark goes onto the adoption's own Knative Service. -/
theorem Sparing.marked (sparing : Sparing a c0 c log) (pending : finalizerRestoreSourceService ∈ a.finalizers) :
    OwnsName a (c.deleteKService a.key).1 ∧ OthersSurvive a c0 (c.deleteKService a.key).1 := by
  unfold Cluster.deleteKService
  cases held : c.ksvcs.get a.key with
  | none => exact ⟨sparing.owns,sparing.survive⟩
  | some stored =>
    have own := sparing.owns pending stored held
    have filed : stored.key = a.key := c.ksvcs.keyed _ _ held
    constructor
    · intro _ ksvc found
      rw [show ({ c with ksvcs := c.ksvcs.put { stored with deleting := true } } : Cluster).ksvcs.get a.key =
        some { stored with deleting := true } from if_pos filed.symm] at found
      cases found
      exact own
    · intro key ksvc before foreign unmarked
      obtain ⟨live,found,other,kept⟩ := sparing.survive key ksvc before foreign unmarked
      have apart : key ≠ a.key := by
        rintro rfl
        rw [held] at found
        cases found
        rw [own] at other
        cases other
      exact ⟨live,(if_neg (fun same => apart (same.trans filed))).trans found,other,kept⟩

theorem Sparing.serve (sparing : Sparing a c0 c log) (fault : Fault String) (r : Request) (call : TeardownCall a r) :
    Sparing a c0 (apiserver.serve fault c r).1 (log++[apiserver.event fault c r]) := by
  by_cases part : r.part = some .ksvcs
  · obtain ⟨rfl,pending⟩ := call part
    have deletes : DeletesOwn a (log++[apiserver.event fault c (.deleteKService a.key)]) := by
      apply sparing.deletes.append
      intro key request ksvc found
      cases request
      exact sparing.owns pending ksvc found
    rcases apiserver.serve_state fault c (.deleteKService a.key) with same | ⟨same,_⟩
    · rw [same]
      exact ⟨sparing.owns,deletes,sparing.survive⟩
    · rw [same]
      obtain ⟨owns,survive⟩ := sparing.marked pending
      exact ⟨owns,deletes,survive⟩
  · have same : (apiserver.serve fault c r).1.ksvcs = c.ksvcs := serve_ksvcs fault c r part
    refine ⟨?_,?_,?_⟩
    · unfold OwnsName
      rw [same]
      exact sparing.owns
    · apply sparing.deletes.append
      intro key request
      exact absurd (congrArg Request.part request) part
    · unfold OthersSurvive
      rw [same]
      exact sparing.survive

theorem uses_reconcileDeleted (key : b.key = a.key)
    (pending : finalizerRestoreSourceService ∈ b.finalizers → finalizerRestoreSourceService ∈ a.finalizers) :
    (reconcileDeleted b).Uses (TeardownCall a) := by
  have handled : (handleDeletion b).Uses (TeardownCall a) := by
    refine Program.uses_mono _ _ _ (fun r call part => ?_) (uses_handleDeletion b)
    obtain ⟨named,held⟩ := call.2 part
    rw [← key]
    exact ⟨named,pending held⟩
  have written (c : KnativeAdoption) : (patchStatus b c).Uses (TeardownCall a) := by
    refine Program.uses_mono _ _ _ (fun r fine part => ?_) (within_patchStatus b c)
    have inside := fine _ part
    simp at inside
  refine Program.uses_bind handled (fun done => ?_)
  refine Program.uses_bind (written done.adoption) (fun answer => ?_)
  cases answer with
  | error err => dsimp only; split <;> trivial
  | ok _ => trivial

/-- A deletion pass spares the Knative Services of others if it begins with the name of
the adoption free or its own. -/
theorem ensures_sparing (r : KnativeAdoptionReconciler) (sparing : Sparing a c0 c log)
    (stored : ∀ st, c.adoptions.get a.key = some st → st.deleting = true ∧
      (finalizerRestoreSourceService ∈ st.finalizers → finalizerRestoreSourceService ∈ a.finalizers)) :
    Ensures apiserver Drift (Sparing a c0) (reconcile r a.key) (fun _ => Sparing a c0) c log := by
  unfold reconcile
  refine ensures_ask sparing (fun d fault moved => ?_)
  have asked := (sparing.drift moved).serve fault (.getAdoption a.key) nofun
  rw [serve_read _ rfl] at asked ⊢
  cases answer : (apiserver.serve fault d (.getAdoption a.key)).2 with
  | error err =>
    dsimp only
    split <;> exact ensures_pure asked asked
  | ok st =>
    have held := getAdoption_ok answer
    obtain ⟨conditions,after⟩ := moved.adoptions a.key
    rw [after] at held
    obtain ⟨old,before,rfl⟩ := Option.map_eq_some_iff.mp held
    obtain ⟨deleting,pending⟩ := stored old before
    have key : old.key = a.key := c.adoptions.keyed _ _ before
    have marked : (old.withConditions conditions).deleting = true := deleting
    dsimp only
    rw [if_pos marked]
    exact ensures_uses (TeardownCall a) (fun _ _ _ step kept => kept.drift step)
      (fun _ _ fault request call kept => kept.serve fault request call) _
      (uses_reconcileDeleted (b := old.withConditions conditions) key pending) d _ asked

theorem sparing_begin (owns : OwnsName a c) : Sparing a c c [] :=
  ⟨owns,fun _ member => absurd member List.not_mem_nil,fun _ ksvc held foreign unmarked => ⟨ksvc,held,foreign,unmarked⟩⟩

/-- The first two calls of a deletion pass. -/
theorem run_first_delete (r : KnativeAdoptionReconciler) (held : c.adoptions.get a.key = some a) (deleting : a.deleting = true)
    (pending : finalizerRestoreSourceService ∈ a.finalizers) :
    Run apiserver Drift (reconcile r a.key) c
      [apiserver.event .none c (.getAdoption a.key),apiserver.event .none c (.deleteKService a.key)] none
      (c.deleteKService a.key).1 := by
  have answer : (apiserver.serve .none c (.getAdoption a.key)).2 = .ok a := by
    change found c.adoptions a.key _ = .ok a
    unfold found
    rw [held]
  unfold reconcile
  refine .call _ _ c c _ .none _ none (Drift.refl c) ?_
  rw [answer]
  change Run apiserver Drift (if a.deleting then reconcileDeleted a else reconcileLive r a) _ _ _ _
  rw [if_pos deleting]
  unfold reconcileDeleted handleDeletion releaseService
  rw [if_pos pending]
  exact .call (Request.deleteKService a.key) _ c c _ .none [] none (Drift.refl c) (.stop _ _)

end Steps

/-- The passes of a release that begins with the name of the adoption free or its own. -/
theorem sparing_passes (r : KnativeAdoptionReconciler) (a : KnativeAdoption) (c d : Cluster)
    (passes : List (Pass Request Response String Cluster (Result × Option ApiError)))
    (held : c.adoptions.get a.key = some a) (deleting : a.deleting = true)
    (pending : finalizerRestoreSourceService ∈ a.finalizers) (owns : OwnsName a c)
    (run : Passes apiserver Drift (reconcile r a.key) c passes d) : Sparing a c d (history passes) := by
  have releasing := Releasing.begin withoutAddresses False a c held deleting
    (fun either => either.elim False.elim (absurd pending))
  refine (passes_invariant apiserver Drift (reconcile r a.key)
    (fun e log => Held withoutAddresses False a _ e log ∧ Sparing a c e log)
    (fun _ _ _ moved both => ⟨both.1.drift moved,both.2.drift moved⟩) (fun e log both => ?_) c d passes
    ⟨releasing,sparing_begin owns⟩ run).2
  refine ensures_and _ _ _ _ _ _ (ensures_mono
    (ensures_release (fun _ _ moved => moved) (fun _ _ moved kept => kept.drift moved) r both.1) (fun _ _ _ _ post => post.1))
    (ensures_sparing r both.2 ?_)
  intro st found
  exact ⟨(both.1.stored st found).2.1,fun _ => pending⟩

theorem teardown_spares_iff (r : KnativeAdoptionReconciler) (a : KnativeAdoption) (c : Cluster)
    (held : c.adoptions.get a.key = some a) (deleting : a.deleting = true) :
    ((∀ log out d, Run apiserver Drift (reconcile r a.key) c log out d → DeletesOwn a log ∧ OthersSurvive a c d) ↔
      OwnsName a c) ∧
    (finalizerRestoreSourceService ∈ a.finalizers → OwnsName a c →
      ∀ passes d, Passes apiserver Drift (reconcile r a.key) c passes d →
        DeletesOwn a (history passes) ∧ OthersSurvive a c d) := by
  refine ⟨⟨?_,?_⟩,?_⟩
  · intro spares pending ksvc found
    obtain ⟨deletes,_⟩ := spares _ _ _ (run_first_delete r held deleting pending)
    exact deletes _ (List.mem_cons_of_mem _ (List.mem_singleton_self _)) a.key rfl nofun ksvc found
  · intro owns log out d run
    have pass := ensures_sparing r (sparing_begin owns) (fun st found => by
      rw [held] at found
      cases found
      exact ⟨deleting,id⟩)
    obtain ⟨sparing,_⟩ := pass log out d run
    exact ⟨sparing.deletes,sparing.survive⟩
  · intro pending owns passes d run
    have sparing := sparing_passes r a c d passes held deleting pending owns run
    exact ⟨sparing.deletes,sparing.survive⟩

namespace Sample

def ownKService : KService where
  ns := "prod"
  name := "web"
  ownerReferences :=
    [{ apiVersion := "ifaas.ifbiu.com/v1alpha1", kind := "KnativeAdoption", name := "web", uid := 7, controller := true }]
  template := {}

/-- A Knative Service that a user wrote under the name of the workload. -/
def usersKService : KService where
  ns := "prod"
  name := "web"
  template := {}

/-- The sample workload when its deletion begins, Knative still serving it. -/
def stillServed : Cluster :=
  { adopted with ksvcs := .ofList [ownKService,{ usersKService with name := "api" }] }

/-- The Service is of a type that is not adopted, and a user has the Knative Service. -/
def contested : Cluster :=
  { cluster with
    services := .ofList [{ service with spec := { service.spec with type := .nodePort } }]
    ksvcs := .ofList [usersKService] }

def declined : Cluster := (apiserver.succeed pass contested).2

/-- The user takes the refused adoption back, and one deletion pass runs. -/
def withdrawn : Cluster := (apiserver.succeed pass (declined.deleteAdoption adoption.key).1).2

end Sample

theorem teardown_spares_sample : OwnsName Sample.leaving Sample.stillServed ∧
    (Sample.stillServed.ksvcs.get ⟨"prod","api"⟩).isSome = true ∧
    ∀ passes d, Passes apiserver Drift Sample.pass Sample.stillServed passes d →
      DeletesOwn Sample.leaving (history passes) ∧ OthersSurvive Sample.leaving Sample.stillServed d := by
  have owns : OwnsName Sample.leaving Sample.stillServed := by
    intro _ ksvc found
    have own : Sample.stillServed.ksvcs.get Sample.leaving.key = some Sample.ownKService := by decide +kernel
    rw [own] at found
    cases found
    decide
  exact ⟨owns,by decide +kernel,
    (teardown_spares_iff Sample.reconciler Sample.leaving Sample.stillServed rfl rfl).2 (by decide) owns⟩

/-- The refused adoption never applied a Knative Service, and its release deletes the
user's. -/
theorem users_ksvc_deleted :
    (Sample.declined.adoptions.get Sample.adoption.key).map (fun a => (a.finalizers,a.status.conditions.any
      (fun x => x.type = .serviceAdoptionRefused ∧ x.status = .true))) =
      some ([finalizerRestoreSourceService,finalizerRestoreSource],true) ∧
    Sample.declined.ksvcs.get Sample.adoption.key = some Sample.usersKService ∧
    Sample.withdrawn.ksvcs.get Sample.adoption.key = some { Sample.usersKService with deleting := true } ∧
    controlledBy Sample.adoption Sample.usersKService = false := by
  decide +kernel

end Ifaas
