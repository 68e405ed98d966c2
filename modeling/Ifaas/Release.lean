import Ifaas.Replay

/-! The deletion passes as one potential. `outcome` is what is still to come of the
Service, the traffic objects and the source Deployment: the finalizers left on the
adoption say which restores are pending, and the snapshot says what they write. The
calls of a deletion pass do not change it. -/
namespace Ifaas
open Library

/-! What the restores write. -/

def listEntries (ns : String) (kind : TrafficKind) (items : List TrafficObjectSnapshot) : List TrafficEntry :=
  (items.filter (fun item => item.name ≠ "")).map (fun item => ⟨⟨kind,⟨ns,item.name⟩⟩,snapshotTarget item.spec⟩)

theorem listEntries_unnamed (ns : String) (kind : TrafficKind) (item : TrafficObjectSnapshot)
    (items : List TrafficObjectSnapshot) (unnamed : item.name = "") :
    listEntries ns kind (item::items) = listEntries ns kind items := by
  simp [listEntries,unnamed]

theorem listEntries_named (ns : String) (kind : TrafficKind) (item : TrafficObjectSnapshot)
    (items : List TrafficObjectSnapshot) (named : item.name ≠ "") : listEntries ns kind (item::items) =
      ⟨⟨kind,⟨ns,item.name⟩⟩,snapshotTarget item.spec⟩::listEntries ns kind items := by
  simp [listEntries,named]

def trafficEntries (a : KnativeAdoption) : List TrafficEntry :=
  listEntries a.ns .virtualService (snapshotItems a.status.sourceSnapshot .virtualService) ++
    listEntries a.ns .destinationRule (snapshotItems a.status.sourceSnapshot .destinationRule)

/-- The Service after a rebuild; one that Knative owns will be gone by then. -/
def restoredService (a : KnativeAdoption) (c : Cluster) : Option Service :=
  ((c.services.get a.key).filter (fun svc => !knativeOwned svc)).or
    ((a.status.sourceSnapshot.bind (fun s => s.service)).map (fun spec => c.allocate (rebuiltService a spec)))

def restoredDeployment (a : KnativeAdoption) (dep : Option Deployment) : Option Deployment :=
  match a.status.sourceSnapshot.bind (fun s => s.replicas) with
  | none => dep
  | some target => dep.map (fun d => releasedDeployment d target)

def finalizersOf (a : KnativeAdoption) (c : Cluster) : List String :=
  ((c.adoptions.get a.key).map (fun st => st.finalizers)).getD []

structure Outcome (σ : Type) where
  traffic : TrafficStore
  service : Option σ
  deployment : Option Deployment

section Potential
variable {σ : Type} (view : Service → σ) (base : Prop) (a : KnativeAdoption) (c : Cluster)

def outcome : Outcome σ where
  traffic :=
    if finalizerRestoreSourceService ∈ finalizersOf a c then replayTraffic c.traffic (trafficEntries a)
    else c.traffic
  service :=
    (if finalizerRestoreSourceService ∈ finalizersOf a c then restoredService a c else c.services.get a.key).map view
  deployment :=
    if finalizerRestoreSource ∈ finalizersOf a c then restoredDeployment a (c.deployments.get (sourceKey a))
    else c.deployments.get (sourceKey a)

/-- Knative has removed the Knative Service and the Service derived from it. -/
def Gone : Prop :=
  c.ksvcs.get a.key = none ∧ ∀ svc, c.services.get a.key = some svc → knativeOwned svc = false

/-- The state wherever a deletion pass stops; `base` says that Knative was done from the
beginning. -/
structure Releasing (goal : Outcome σ) : Prop where
  stored : ∀ st, c.adoptions.get a.key = some st → st.spec = a.spec ∧ st.deleting = true ∧
    st.status.sourceSnapshot = a.status.sourceSnapshot
  outcome : outcome view a c = goal
  gone : base ∨ finalizerRestoreSourceService ∉ finalizersOf a c → Gone a c

end Potential

/-- With the Knative Service gone the Service is left alone. -/
theorem Gone.service (a : KnativeAdoption) (c d : Cluster) (gone : Gone a c) (moved : Drift c d) :
    d.services.get a.key = c.services.get a.key := by
  rcases moved.services a.key with same | ⟨owned,_,created⟩
  · exact same
  · cases before : c.services.get a.key with
    | none => exact absurd gone.1 (created before)
    | some old =>
      have free := gone.2 old before
      rw [owned old before] at free
      cases free

theorem ksvc_drift (a : KnativeAdoption) (c d : Cluster) (moved : Drift c d) (absent : c.ksvcs.get a.key = none) :
    d.ksvcs.get a.key = none := by
  have drifted := moved.ksvcs a.key
  rw [absent] at drifted
  exact drifted

theorem Gone.drift (a : KnativeAdoption) (c d : Cluster) (gone : Gone a c) (moved : Drift c d) : Gone a d := by
  refine ⟨ksvc_drift a c d moved gone.1,?_⟩
  rw [gone.service a c d moved]
  exact gone.2

theorem finalizersOf_drift (a : KnativeAdoption) (c d : Cluster) (moved : Drift c d) :
    finalizersOf a d = finalizersOf a c := by
  obtain ⟨conditions,after⟩ := moved.adoptions a.key
  unfold finalizersOf
  rw [after]
  cases c.adoptions.get a.key <;> rfl

/-- Addresses aside, drift does not change what is to come. -/
def withoutAddresses (svc : Service) : Service := { svc with spec := svc.spec.stripAddresses }

theorem withoutAddresses_allocate (c : Cluster) (svc : Service) :
    withoutAddresses (c.allocate svc) = withoutAddresses svc := by
  unfold Cluster.allocate
  split <;> rfl

theorem restoredService_drift (a : KnativeAdoption) (c d : Cluster) (moved : Drift c d) :
    (restoredService a d).map withoutAddresses = (restoredService a c).map withoutAddresses := by
  have owned (held : Option Service) (all : ∀ svc, held = some svc → knativeOwned svc = true) :
      held.filter (fun svc => !knativeOwned svc) = none := by
    cases held with
    | none => rfl
    | some svc => simp [Option.filter,all svc rfl]
  have same : (d.services.get a.key).filter (fun svc => !knativeOwned svc) =
      (c.services.get a.key).filter (fun svc => !knativeOwned svc) := by
    rcases moved.services a.key with same | ⟨before,after,_⟩
    · rw [same]
    · rw [owned _ before,owned _ after]
  unfold restoredService
  rw [same]
  cases (c.services.get a.key).filter (fun svc => !knativeOwned svc) with
  | some svc => rfl
  | none =>
    cases a.status.sourceSnapshot.bind (fun s => s.service) with
    | none => rfl
    | some spec => simp [withoutAddresses_allocate]

theorem Releasing.drift {base : Prop} {a : KnativeAdoption} {goal : Outcome Service} {c d : Cluster} (moved : Drift c d)
    (holds : Releasing withoutAddresses base a c goal) : Releasing withoutAddresses base a d goal where
  stored st held := by
    obtain ⟨conditions,after⟩ := moved.adoptions a.key
    rw [after] at held
    obtain ⟨old,before,rfl⟩ := Option.map_eq_some_iff.mp held
    exact holds.stored old before
  outcome := by
    rw [← holds.outcome]
    simp only [Ifaas.outcome,finalizersOf_drift a c d moved,moved.traffic,moved.deployments]
    congr 1
    split
    · exact restoredService_drift a c d moved
    next free => rw [(holds.gone (Or.inr free)).service a c d moved]
  gone free := (holds.gone (by rwa [finalizersOf_drift a c d moved] at free)).drift a c d moved

/-! Inside a pass. -/

section Passes
variable {σ : Type} (view : Service → σ) (base : Prop) (a0 : KnativeAdoption) (goal : Outcome σ)

/-- The pass holds `a` in memory. Under `assured`, which grows along the pass, Knative
is done. -/
structure Phase (assured : Prop) (a : KnativeAdoption) (c : Cluster) : Prop where
  releasing : Releasing view base a0 c goal
  key : a.key = a0.key
  spec : a.spec = a0.spec
  snapshot : a.status.sourceSnapshot = a0.status.sourceSnapshot
  same : ∀ st, c.adoptions.get a0.key = some st → st.toObjectMeta = a.toObjectMeta
  present : a.finalizers ≠ [] → ∃ st, c.adoptions.get a0.key = some st
  gone : assured → Gone a0 c

/-- The pass ends with `a` to be written to the status. -/
structure Ended (a : KnativeAdoption) (c : Cluster) : Prop where
  releasing : Releasing view base a0 c goal
  key : a.key = a0.key
  snapshot : a.status.sourceSnapshot = a0.status.sourceSnapshot

def Held (c : Cluster) (_ : CallLog) : Prop := Releasing view base a0 c goal

variable {view base a0 goal} {assured : Prop} {a : KnativeAdoption} {c d : Cluster}

theorem Phase.ended (phase : Phase view base a0 goal assured a c) : Ended view base a0 goal a c :=
  ⟨phase.releasing,phase.key,phase.snapshot⟩

theorem Ended.ledger (b : KnativeAdoption) (same : SameLedger a b) (ended : Ended view base a0 goal a c) :
    Ended view base a0 goal b c :=
  ⟨ended.releasing,(congrArg ObjectMeta.key same.metadata).trans ended.key,same.snapshot.trans ended.snapshot⟩

theorem Phase.ledger (b : KnativeAdoption) (same : SameLedger a b) (phase : Phase view base a0 goal assured a c) :
    Phase view base a0 goal assured b c where
  releasing := phase.releasing
  key := (congrArg ObjectMeta.key same.metadata).trans phase.key
  spec := same.spec.trans phase.spec
  snapshot := same.snapshot.trans phase.snapshot
  same st held := (phase.same st held).trans same.metadata.symm
  present some_ := phase.present (by rwa [congrArg ObjectMeta.finalizers same.metadata] at some_)
  gone := phase.gone

theorem Phase.assure (phase : Phase view base a0 goal assured a c) (gone : Gone a0 c) : Phase view base a0 goal True a c :=
  { phase with gone := fun _ => gone }

theorem Phase.finalizers (phase : Phase view base a0 goal assured a c) : finalizersOf a0 c = a.finalizers := by
  unfold finalizersOf
  cases held : c.adoptions.get a0.key with
  | none =>
    by_contra other
    obtain ⟨st,found⟩ := phase.present (fun empty => other empty.symm)
    rw [held] at found
    cases found
  | some st => exact congrArg ObjectMeta.finalizers (phase.same st held)

theorem finalizersOf_congr (adoptions : d.adoptions = c.adoptions) : finalizersOf a0 d = finalizersOf a0 c := by
  unfold finalizersOf
  rw [adoptions]

/-- Two clusters with the same adoptions and Services have the same phase when the rest
agrees on what is to come. -/
theorem Phase.congr (phase : Phase view base a0 goal assured a c) (adoptions : d.adoptions = c.adoptions)
    (ksvcs : c.ksvcs.get a0.key = none → d.ksvcs.get a0.key = none) (services : d.services = c.services)
    (outcome : Ifaas.outcome view a0 d = Ifaas.outcome view a0 c) : Phase view base a0 goal assured a d := by
  have finalizers : finalizersOf a0 d = finalizersOf a0 c := finalizersOf_congr adoptions
  have gone (before : Gone a0 c) : Gone a0 d := ⟨ksvcs before.1,by rw [services]; exact before.2⟩
  have same := phase.same
  have present := phase.present
  have stored := phase.releasing.stored
  rw [← adoptions] at same present stored
  exact ⟨⟨stored,outcome.trans phase.releasing.outcome,
    fun free => gone (phase.releasing.gone (by rwa [finalizers] at free))⟩,phase.key,phase.spec,phase.snapshot,same,present,
    fun sure => gone (phase.gone sure)⟩

theorem restoredService_congr (services : d.services = c.services) (addresses : d.addresses = c.addresses) :
    restoredService a0 d = restoredService a0 c := by
  have allocate : d.allocate = c.allocate := by
    funext svc
    simp only [Cluster.allocate,addresses]
  unfold restoredService
  rw [services,allocate]

theorem outcome_congr (finalizers : finalizersOf a0 d = finalizersOf a0 c) (services : d.services = c.services)
    (addresses : d.addresses = c.addresses) (traffic : d.traffic = c.traffic)
    (deployments : d.deployments = c.deployments) : outcome view a0 d = outcome view a0 c := by
  unfold outcome
  rw [finalizers,restoredService_congr services addresses,services,traffic,deployments]

theorem Phase.deleteKService (phase : Phase view base a0 goal assured a c) (fault : Fault String) :
    Phase view base a0 goal assured a (apiserver.serve fault c (.deleteKService a0.key)).1 := by
  refine phase.congr (serve_adoptions _ _ _ (by simp [Request.part])) (fun absent => ?_)
    (serve_services _ _ _ (by simp [Request.part]))
    (outcome_congr (finalizersOf_congr (serve_adoptions _ _ _ (by simp [Request.part]))) (serve_services _ _ _ (by simp [Request.part]))
      (serve_addresses _ _ _) (serve_traffic _ _ _ (by simp [Request.part]))
      (serve_deployments _ _ _ (by simp [Request.part])))
  have same : (c.deleteKService a0.key).1 = c := by simp [Cluster.deleteKService,absent]
  rcases apiserver.serve_state fault c (.deleteKService a0.key) with state | ⟨state,_⟩
  · rw [state]
    exact absent
  · rw [state]
    change (c.deleteKService a0.key).1.ksvcs.get a0.key = none
    rw [same]
    exact absent

/-- A write to a traffic object that some pending entry makes anyway. -/
theorem Phase.traffic (phase : Phase view base a0 goal assured a c) (pending : finalizerRestoreSourceService ∈ a.finalizers)
    (fault : Fault String) (r : Request) (part : r.part = some .traffic)
    (absorbed : replayTraffic (apiserver.serve fault c r).1.traffic (trafficEntries a0) =
      replayTraffic c.traffic (trafficEntries a0)) :
    Phase view base a0 goal assured a (apiserver.serve fault c r).1 := by
  have adoptions := serve_adoptions fault c r (by simp [part])
  have services := serve_services fault c r (by simp [part])
  have ksvcs := serve_ksvcs fault c r (by simp [part])
  refine phase.congr adoptions (fun absent => by rw [ksvcs]; exact absent) services ?_
  have waiting : finalizerRestoreSourceService ∈ finalizersOf a0 c := by
    rw [phase.finalizers]
    exact pending
  have others : outcome view a0 { (apiserver.serve fault c r).1 with traffic := c.traffic } = outcome view a0 c :=
    outcome_congr (finalizersOf_congr adoptions) services (serve_addresses fault c r) rfl
      (serve_deployments fault c r (by simp [part]))
  have finalizers : finalizersOf a0 (apiserver.serve fault c r).1 = finalizersOf a0 c := finalizersOf_congr adoptions
  rw [← others]
  unfold outcome
  congr 1
  change (if _ ∈ finalizersOf a0 (apiserver.serve fault c r).1 then _ else _) =
    if _ ∈ finalizersOf a0 (apiserver.serve fault c r).1 then _ else _
  rw [finalizers,if_pos waiting,if_pos waiting]
  exact absorbed

/-- Rebuilding the Service is what was to come of it. -/
theorem Phase.createService (phase : Phase view base a0 goal assured a c) (gone : Gone a0 c)
    (pending : finalizerRestoreSourceService ∈ a.finalizers) (fault : Fault String) (spec : ServiceSpec)
    (recorded : a0.status.sourceSnapshot.bind (fun s => s.service) = some spec) :
    Phase view base a0 goal assured a (apiserver.serve fault c (.createService (rebuiltService a0 spec))).1 := by
  rcases apiserver.serve_state fault c (.createService (rebuiltService a0 spec)) with same | ⟨same,_⟩
  · rw [same]
    exact phase
  · rw [same]
    change Phase view base a0 goal assured a (c.createService (rebuiltService a0 spec)).1
    have key : (rebuiltService a0 spec).key = a0.key := rfl
    have allocatedKey : a0.key = (c.allocate (rebuiltService a0 spec)).key :=
      (c.allocate_key (rebuiltService a0 spec)).symm
    have unowned : knativeOwned (c.allocate (rebuiltService a0 spec)) = false := by
      unfold Cluster.allocate
      split <;> rfl
    cases held : c.services.get a0.key with
    | some svc => simpa [Cluster.createService,key,held] using phase
    | none =>
      simp only [Cluster.createService,key,held]
      generalize after : ({ c with services := c.services.put (c.allocate (rebuiltService a0 spec)) } : Cluster) = d
      have adoptions : d.adoptions = c.adoptions := by rw [← after]
      have found : d.services.get a0.key = some (c.allocate (rebuiltService a0 spec)) := by
        rw [← after]
        exact if_pos allocatedKey
      have clear : Gone a0 d := by
        refine ⟨by rw [← after]; exact gone.1,fun svc member => ?_⟩
        rw [found] at member
        cases member
        exact unowned
      have finalizers : finalizersOf a0 d = finalizersOf a0 c := finalizersOf_congr adoptions
      have waiting : finalizerRestoreSourceService ∈ finalizersOf a0 c := by
        rw [phase.finalizers]
        exact pending
      have restored : restoredService a0 d = restoredService a0 c := by
        unfold restoredService
        rw [found,held,recorded]
        simp [Option.filter,unowned]
      have outcomes : outcome view a0 d = outcome view a0 c := by
        unfold outcome
        rw [finalizers,restored]
        simp only [waiting,if_true]
        rw [← after]
      have same := phase.same
      have present := phase.present
      have stored := phase.releasing.stored
      rw [← adoptions] at same present stored
      exact ⟨⟨stored,outcomes.trans phase.releasing.outcome,fun _ => clear⟩,phase.key,phase.spec,phase.snapshot,same,
        present,fun _ => clear⟩

/-- An update that drops finalizers from a deleted adoption; without any left the
object goes away. -/
theorem updateAdoption_effect (b st : KnativeAdoption) (held : c.adoptions.get b.key = some st)
    (metadata : b.toObjectMeta = { st.toObjectMeta with finalizers := b.finalizers }) (spec : b.spec = st.spec)
    (deleting : st.deleting = true) (inside : b.finalizers ⊆ st.finalizers) :
    ∃ next, (c.updateAdoption b).2 = .ok next ∧ next.toObjectMeta = b.toObjectMeta ∧ next.spec = st.spec ∧
      next.status = st.status ∧
      (c.updateAdoption b).1.adoptions.get b.key = if b.finalizers = [] then none else some next := by
  have allowed : addsFinalizer st b.finalizers = false := by
    simp only [addsFinalizer,deleting,Bool.true_and]
    rw [List.any_eq_false]
    intro f member
    simpa using inside member
  have written : ({ st with
      labels := b.labels, annotations := b.annotations, finalizers := b.finalizers, spec := b.spec } :
      KnativeAdoption) = ⟨b.toObjectMeta,st.spec,st.status⟩ := by
    obtain ⟨m,sp,status⟩ := b
    cases spec
    generalize m.finalizers = rest at metadata
    cases metadata
    rfl
  have effect : c.updateAdoption b = if b.finalizers = []
      then ({ c with adoptions := c.adoptions.remove b.key },.ok ⟨b.toObjectMeta,st.spec,st.status⟩)
      else ({ c with adoptions := c.adoptions.put ⟨b.toObjectMeta,st.spec,st.status⟩ },
        .ok ⟨b.toObjectMeta,st.spec,st.status⟩) := by
    rw [← written]
    unfold Cluster.updateAdoption
    simp only [held,allowed,Bool.false_eq_true,if_false,deleting,Bool.true_and,decide_eq_true_eq]
  refine ⟨⟨b.toObjectMeta,st.spec,st.status⟩,?_,rfl,rfl,rfl,?_⟩
  · rw [effect]
    split <;> rfl
  · rw [effect]
    split
    · exact if_pos rfl
    · exact if_pos rfl

theorem outcome_freed_service (parts : d.traffic = c.traffic ∧ d.services = c.services ∧ d.deployments = c.deployments)
    (dropped : finalizersOf a0 d = (finalizersOf a0 c).filter (fun f => f ≠ finalizerRestoreSourceService))
    (replayed : replayTraffic c.traffic (trafficEntries a0) = c.traffic)
    (rebuilt : restoredService a0 c = c.services.get a0.key) : outcome view a0 d = outcome view a0 c := by
  have first : finalizerRestoreSourceService ∉ finalizersOf a0 d := by simp [dropped]
  have second : finalizerRestoreSource ∈ finalizersOf a0 d ↔ finalizerRestoreSource ∈ finalizersOf a0 c := by
    rw [dropped,List.mem_filter]
    exact and_iff_left (by decide)
  simp only [outcome,first,second,if_false,parts.1,parts.2.1,parts.2.2,replayed,rebuilt,ite_self]

theorem outcome_freed_source (parts : d.traffic = c.traffic ∧ d.services = c.services ∧ d.deployments = c.deployments)
    (addresses : d.addresses = c.addresses)
    (dropped : finalizersOf a0 d = (finalizersOf a0 c).filter (fun f => f ≠ finalizerRestoreSource))
    (freed : restoredDeployment a0 (c.deployments.get (sourceKey a0)) = c.deployments.get (sourceKey a0)) :
    outcome view a0 d = outcome view a0 c := by
  have second : finalizerRestoreSource ∉ finalizersOf a0 d := by simp [dropped]
  have first : finalizerRestoreSourceService ∈ finalizersOf a0 d ↔
      finalizerRestoreSourceService ∈ finalizersOf a0 c := by
    rw [dropped,List.mem_filter]
    exact and_iff_left (by decide)
  have restored : restoredService a0 d = restoredService a0 c := restoredService_congr parts.2.1 addresses
  simp only [outcome,first,second,parts.1,parts.2.1,parts.2.2,freed,restored,ite_self]

/-- Dropping a finalizer whose restores are done. -/
theorem Phase.updateAdoption (phase : Phase view base a0 goal True a c) (name : String) (inside : name ∈ a.finalizers)
    (settled : ∀ d : Cluster, d.traffic = c.traffic ∧ d.services = c.services ∧ d.deployments = c.deployments →
      d.addresses = c.addresses → finalizersOf a0 d = (finalizersOf a0 c).filter (fun f => f ≠ name) →
      outcome view a0 d = outcome view a0 c) :
    ∃ next, (c.updateAdoption { a with finalizers := a.finalizers.filter (fun f => f ≠ name) }).2 = .ok next ∧
      next.finalizers = a.finalizers.filter (fun f => f ≠ name) ∧
      Phase view base a0 goal True next
        (c.updateAdoption { a with finalizers := a.finalizers.filter (fun f => f ≠ name) }).1 := by
  obtain ⟨st,held⟩ := phase.present (List.ne_nil_of_mem inside)
  obtain ⟨spec,deleting,snapshot⟩ := phase.releasing.stored st held
  have metadata := phase.same st held
  generalize sent : ({ a with finalizers := a.finalizers.filter (fun f => f ≠ name) } : KnativeAdoption) = b
  have finalizers : b.finalizers = a.finalizers.filter (fun f => f ≠ name) := by rw [← sent]
  have key : b.key = a0.key := by rw [← sent]; exact phase.key
  obtain ⟨next,response,nextMeta,nextSpec,status,after⟩ := updateAdoption_effect (c := c) b st
    (by rw [key]; exact held) (by rw [metadata,← sent]) (by rw [spec,← phase.spec,← sent]) deleting
    (by rw [finalizers,metadata]; exact List.filter_subset_self _)
  rw [key] at after
  refine ⟨next,response,(congrArg ObjectMeta.finalizers nextMeta).trans finalizers,?_⟩
  have services : (c.updateAdoption b).1.services = c.services := effect_same .services c (.updateAdoption b) nofun
  have ksvcs : (c.updateAdoption b).1.ksvcs = c.ksvcs := effect_same .ksvcs c (.updateAdoption b) nofun
  have traffic : (c.updateAdoption b).1.traffic = c.traffic := effect_same .traffic c (.updateAdoption b) nofun
  have deployments : (c.updateAdoption b).1.deployments = c.deployments :=
    effect_same .deployments c (.updateAdoption b) nofun
  have addresses : (c.updateAdoption b).1.addresses = c.addresses := serve_addresses .none c (.updateAdoption b)
  have left : finalizersOf a0 (c.updateAdoption b).1 = b.finalizers := by
    unfold finalizersOf
    rw [after]
    split
    next empty => rw [empty]; rfl
    next some_ => exact congrArg ObjectMeta.finalizers nextMeta
  have clear : Gone a0 (c.updateAdoption b).1 := by
    unfold Gone
    rw [ksvcs,services]
    exact phase.gone trivial
  have found (st' : KnativeAdoption) (member : (c.updateAdoption b).1.adoptions.get a0.key = some st') : st' = next := by
    rw [after] at member
    split at member
    · cases member
    · exact (Option.some.inj member).symm
  have flag : next.deleting = true := by
    rw [nextMeta,← sent]
    exact (congrArg ObjectMeta.deleting metadata).symm.trans deleting
  refine ⟨⟨fun st' member => ?_,?_,fun _ => clear⟩,(congrArg ObjectMeta.key nextMeta).trans key,nextSpec.trans spec,?_,
    fun st' member => by rw [found st' member],fun some_ => ?_,fun _ => clear⟩
  · rw [found st' member]
    exact ⟨nextSpec.trans spec,flag,by rw [status]; exact snapshot⟩
  · rw [← phase.releasing.outcome]
    exact settled _ ⟨traffic,services,deployments⟩ addresses (by rw [left,finalizers,phase.finalizers])
  · rw [status]
    exact snapshot
  · have kept : b.finalizers ≠ [] := by
      rw [nextMeta] at some_
      exact some_
    exact ⟨next,by rw [after,if_neg kept]⟩

theorem releasedDeployment_same (dep : Deployment) (target : Int) (replicas : dep.spec.replicas = some target)
    (unlabelled : dep.labels.has labelEnabled = false) : releasedDeployment dep target = dep := by
  simp only [releasedDeployment,Labels.delete_missing _ _ unlabelled,← replicas]

theorem releasedDeployment_twice (dep : Deployment) (target : Int) :
    releasedDeployment (releasedDeployment dep target) target = releasedDeployment dep target := by
  simp only [releasedDeployment,Labels.delete_delete]

theorem patchDeployment_released (dep : Deployment) (target : Int) (held : c.deployments.get dep.key = some dep) :
    c.patchDeployment dep (releasedDeployment dep target) =
      ({ c with deployments := c.deployments.put (releasedDeployment dep target) },.ok ()) := by
  have key : (releasedDeployment dep target).key = dep.key := rfl
  have replicas : mergeField dep.spec.replicas dep.spec.replicas (some target) = some target := mergeField_same _ _
  unfold Cluster.patchDeployment
  rw [key,held]
  simp only [releasedDeployment,Labels.filter_delete,replicas]

theorem Phase.patchDeployment (phase : Phase view base a0 goal assured a c) (pending : finalizerRestoreSource ∈ a.finalizers)
    (fault : Fault String) (dep : Deployment) (target : Int) (held : c.deployments.get (sourceKey a0) = some dep)
    (recorded : a0.status.sourceSnapshot.bind (fun s => s.replicas) = some target) :
    Phase view base a0 goal assured a (apiserver.serve fault c (.patchDeployment dep (releasedDeployment dep target))).1 := by
  have key : dep.key = sourceKey a0 := c.deployments.keyed _ _ held
  have effect := patchDeployment_released dep target (key ▸ held)
  rcases apiserver.serve_state fault c (.patchDeployment dep (releasedDeployment dep target)) with same | ⟨same,_⟩
  · rw [same]
    exact phase
  · rw [same]
    change Phase view base a0 goal assured a (c.patchDeployment dep (releasedDeployment dep target)).1
    rw [effect]
    refine phase.congr rfl (fun absent => absent) rfl ?_
    have waiting : finalizerRestoreSource ∈ finalizersOf a0 c := by
      rw [phase.finalizers]
      exact pending
    have found : (c.deployments.put (releasedDeployment dep target)).get (sourceKey a0) =
        some (releasedDeployment dep target) := if_pos key.symm
    unfold outcome
    congr 1
    change (if finalizerRestoreSource ∈ finalizersOf a0 c then restoredDeployment a0
      ((c.deployments.put (releasedDeployment dep target)).get (sourceKey a0)) else _) = _
    rw [if_pos waiting,if_pos waiting,found,held]
    simp only [restoredDeployment,recorded,Option.map_some,releasedDeployment_twice]

theorem restoredService_done (gone : Gone a0 c)
    (rebuilt : a0.status.sourceSnapshot.bind (fun s => s.service) = none ∨ c.services.get a0.key ≠ none) :
    restoredService a0 c = c.services.get a0.key := by
  unfold restoredService
  cases held : c.services.get a0.key with
  | some svc => simp [Option.filter,gone.2 svc held]
  | none =>
    rcases rebuilt with none_ | some_
    · simp [none_]
    · exact absurd held some_

/-- The status patch at the end of a pass. -/
theorem Ended.patchStatus (ended : Ended view base a0 goal a c) (original : KnativeAdoption)
    (same : original.status.sourceSnapshot = a0.status.sourceSnapshot) (fault : Fault String) :
    Releasing view base a0 (apiserver.serve fault c (.patchStatus original a)).1 goal ∧
      finalizersOf a0 (apiserver.serve fault c (.patchStatus original a)).1 = finalizersOf a0 c := by
  have services := serve_services fault c (.patchStatus original a) (by simp [Request.part])
  have ksvcs := serve_ksvcs fault c (.patchStatus original a) (by simp [Request.part])
  have stored : (∀ st, (apiserver.serve fault c (.patchStatus original a)).1.adoptions.get a0.key = some st →
      st.spec = a0.spec ∧ st.deleting = true ∧ st.status.sourceSnapshot = a0.status.sourceSnapshot) ∧
      finalizersOf a0 (apiserver.serve fault c (.patchStatus original a)).1 = finalizersOf a0 c := by
    rcases apiserver.serve_state fault c (.patchStatus original a) with state | ⟨state,_⟩
    · rw [state]
      exact ⟨ended.releasing.stored,rfl⟩
    · rw [state]
      cases held : c.adoptions.get a0.key with
      | none =>
        have unchanged : (apiserver.effect c (.patchStatus original a)).1 = c := by
          change (c.patchStatus original a).1 = c
          simp [Cluster.patchStatus,ended.key,held]
        rw [unchanged]
        exact ⟨ended.releasing.stored,rfl⟩
      | some st =>
        obtain ⟨spec,deleting,snapshot⟩ := ended.releasing.stored st held
        obtain ⟨next,found,metadata,nextSpec,nextSnapshot⟩ := patchStatus_stored c original a st
          (by rw [ended.key]; exact held) (snapshot.trans same.symm)
        rw [ended.key] at found
        change (∀ st, (c.patchStatus original a).1.adoptions.get a0.key = some st → _) ∧
          finalizersOf a0 (c.patchStatus original a).1 = _
        unfold finalizersOf
        rw [found,held]
        refine ⟨fun st' member => ?_,congrArg ObjectMeta.finalizers metadata⟩
        cases member
        exact ⟨nextSpec.trans spec,(congrArg ObjectMeta.deleting metadata).trans deleting,
          nextSnapshot.trans ended.snapshot⟩
  refine ⟨⟨stored.1,?_,fun free => ?_⟩,stored.2⟩
  · rw [← ended.releasing.outcome]
    exact outcome_congr stored.2 services (serve_addresses _ _ _) (serve_traffic _ _ _ (by simp [Request.part]))
      (serve_deployments _ _ _ (by simp [Request.part]))
  · rw [stored.2] at free
    unfold Gone
    rw [services,ksvcs]
    exact ended.releasing.gone free

/-- Both phases are behind. -/
def Freed (a : KnativeAdoption) (c : Cluster) : Prop :=
  finalizerRestoreSourceService ∉ finalizersOf a c ∧ finalizerRestoreSource ∉ finalizersOf a c

/-- What the two phases end with: an adoption to go on with, or an early end. -/
def Staged (view : Service → σ) (base : Prop) (a0 : KnativeAdoption) (goal : Outcome σ) (dropped : List String) (assured : Prop)
    (result : Except Reconciled KnativeAdoption) (d : Cluster) (past : CallLog) : Prop :=
  (∀ ended, result = .error ended → Ended view base a0 goal ended.adoption d) ∧
  (∀ b, result = .ok b → Phase view base a0 goal True b d ∧ ∀ name ∈ dropped, name ∉ b.finalizers) ∧
  (Clean past → assured → ∃ b, result = .ok b)

theorem staged_error {dropped : List String} {past : CallLog} (done : Reconciled)
    (ended : Ended view base a0 goal done.adoption d) (failed : Clean past → assured → False) :
    Staged view base a0 goal dropped assured (.error done) d past := by
  refine ⟨fun other same => ?_,fun b same => ?_,fun clean sure => absurd (failed clean sure) id⟩
  · cases same
    exact ended
  · cases same

theorem staged_ok {dropped : List String} {past : CallLog} (b : KnativeAdoption) (phase : Phase view base a0 goal True b d)
    (freed : ∀ name ∈ dropped, name ∉ b.finalizers) : Staged view base a0 goal dropped assured (.ok b) d past := by
  refine ⟨fun other same => ?_,fun other same => ?_,fun _ _ => ⟨b,rfl⟩⟩
  · cases same
  · cases same
    exact ⟨phase,freed⟩

end Passes
end Ifaas
