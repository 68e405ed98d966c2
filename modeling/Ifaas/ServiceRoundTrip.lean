import Ifaas.Frame
import Ifaas.Restore

/-! A Service that is taken over and rebuilt. The snapshot drops the addresses of the
Service, so that the apiserver allocates new ones. The address of a headless Service is
not allocated, it is what makes the Service headless, and it is dropped with the rest. -/
namespace Ifaas
open Library

def clusterIPNone : String := "None"

def ServiceSpec.headless (spec : ServiceSpec) : Bool := spec.clusterIP = clusterIPNone

/-- Two specs that differ at most in addresses the apiserver allocates. A headless Service
has none of these. -/
structure SameService (original rebuilt : ServiceSpec) : Prop where
  rest : rebuilt.stripAddresses = original.stripAddresses
  headless : original.headless = true ∨ rebuilt.headless = true → rebuilt = original

/-- Allocated addresses are addresses. -/
def Cluster.Allocates (c : Cluster) : Prop := ∀ key, (c.addresses key).1 ≠ clusterIPNone

def KnativeAdoption.snapshottedService (a : KnativeAdoption) : Option ServiceSpec :=
  a.status.sourceSnapshot.bind (fun snapshot => snapshot.service)

/-- Whatever is rebuilt, under a free name, from the snapshot that the deletion of the
Service left is the same Service. -/
def RoundTrips (a : KnativeAdoption) (svc : Service) : Prop :=
  ∀ c log taken d, Run apiserver Eq (snapshotAndDeleteService a svc) c log (some (taken,.ok ())) d →
    ∀ later c' log' d', later.key = a.key → later.snapshottedService = taken.snapshottedService →
      c'.services.get a.key = none → c'.Allocates →
      Run apiserver Eq (rebuildSnapshotService later) c' log' (some none) d' →
      ∃ rebuilt, d'.services.get a.key = some rebuilt ∧ SameService svc.spec rebuilt.spec

theorem snapshottedService_snapshotService (a : KnativeAdoption) (svc : Service) (fresh : a.snapshottedService = none) :
    (snapshotService a svc).snapshottedService = some svc.spec.stripAddresses := by
  unfold KnativeAdoption.snapshottedService at fresh ⊢
  cases held : a.status.sourceSnapshot with
  | none => simp [snapshotService,KnativeAdoption.withSnapshot,held]
  | some snapshot =>
    have empty : snapshot.service = none := by simpa [held] using fresh
    simp [snapshotService,KnativeAdoption.withSnapshot,held,empty]

theorem returns_snapshotAndDeleteService (a : KnativeAdoption) (svc : Service) :
    (snapshotAndDeleteService a svc).Returns (fun result => result.1 = snapshotService a svc) := by
  unfold snapshotAndDeleteService
  refine Program.returns_bind (fun _ => True) (Program.returns_true _) (fun answer _ => ?_)
  rcases answer with err | done
  · dsimp only
    split <;> rfl
  · rfl

/-- A rebuild that returns without error has created the Service. -/
theorem rebuild_creates (a : KnativeAdoption) (spec : ServiceSpec) (c d : Cluster) (log : CallLog)
    (held : a.snapshottedService = some spec) (absent : c.services.get a.key = none)
    (run : Run apiserver Eq (rebuildSnapshotService a) c log (some none) d) :
    d.services.get a.key = some (c.allocate (rebuiltService a spec)) := by
  unfold rebuildSnapshotService at run
  unfold KnativeAdoption.snapshottedService at held
  rw [held] at run
  obtain ⟨answer,m,first,rest,_,asked,following⟩ := run_bind_some run
  · obtain ⟨e,fault,rfl,_,served⟩ := run_request asked
    have created : apiserver.effect c (.createService (rebuiltService a spec)) =
        ({ c with services := c.services.put (c.allocate (rebuiltService a spec)) },.ok ()) := by
      change c.createService (rebuiltService a spec) = _
      unfold Cluster.createService
      rw [show (rebuiltService a spec).key = a.key from rfl,absent]
    have key : (c.allocate (rebuiltService a spec)).key = a.key := c.allocate_key (rebuiltService a spec)
    cases fault with
    | none =>
      unfold Server.serve at served
      rw [created] at served
      cases served
      obtain ⟨_,rfl,_⟩ := run_pure following
      rw [← key]
      exact Store.get_put_same c.services (c.allocate (rebuiltService a spec))
    | refused message | lost message =>
      cases served
      obtain ⟨_,_,⟨⟩⟩ := run_return following

theorem rebuild_answered (a : KnativeAdoption) (spec : ServiceSpec) (held : a.snapshottedService = some spec) :
    ∃ log d, Run apiserver Eq (rebuildSnapshotService a) {} log (some none) d := by
  obtain ⟨log,run,_⟩ := run_succeed apiserver Eq (fun _ => rfl) (rebuildSnapshotService a) {}
  have returned : (apiserver.succeed (rebuildSnapshotService a) {}).1 = none := by
    unfold KnativeAdoption.snapshottedService at held
    unfold rebuildSnapshotService
    rw [held]
    rfl
  rw [returned] at run
  exact ⟨log,_,run⟩

/-- What the snapshot of a Service is rebuilt as. -/
theorem rebuilt_of_round (a later taken : KnativeAdoption) (svc : Service) (fresh : a.snapshottedService = none)
    (c d c' d' : Cluster) (log log' : CallLog)
    (swapped : Run apiserver Eq (snapshotAndDeleteService a svc) c log (some (taken,.ok ())) d)
    (key : later.key = a.key) (carried : later.snapshottedService = taken.snapshottedService)
    (absent : c'.services.get a.key = none)
    (rebuilding : Run apiserver Eq (rebuildSnapshotService later) c' log' (some none) d') :
    d'.services.get a.key = some (c'.allocate (rebuiltService later svc.spec.stripAddresses)) := by
  have recorded : later.snapshottedService = some svc.spec.stripAddresses := by
    have took : taken = snapshotService a svc := run_returns (returns_snapshotAndDeleteService a svc) swapped
    rw [carried,took]
    exact snapshottedService_snapshotService a svc fresh
  rw [← key] at absent ⊢
  exact rebuild_creates later svc.spec.stripAddresses c' d' log' recorded absent rebuilding

theorem service_round_trip_iff (a : KnativeAdoption) (svc : Service) (fresh : a.snapshottedService = none) :
    RoundTrips a svc ↔ svc.spec.headless = false := by
  constructor
  · intro trips
    cases headless : svc.spec.headless with
    | false => rfl
    | true =>
      have allocates : Cluster.Allocates {} := by
        intro key
        change "" ≠ clusterIPNone
        decide
      have recorded := snapshottedService_snapshotService a svc fresh
      obtain ⟨log,swapped,_⟩ := run_succeed apiserver Eq (fun _ => rfl) (snapshotAndDeleteService a svc) {}
      obtain ⟨log',d',rebuilding⟩ := rebuild_answered (snapshotService a svc) svc.spec.stripAddresses recorded
      obtain ⟨rebuilt,held,same⟩ :=
        trips _ _ _ _ swapped (snapshotService a svc) {} log' d' rfl rfl rfl allocates rebuilding
      have created := rebuilt_of_round a (snapshotService a svc) _ svc fresh _ _ _ _ _ _ swapped rfl rfl rfl rebuilding
      cases held.symm.trans created
      have unchanged := congrArg ServiceSpec.headless (same.headless (Or.inl headless))
      rw [headless] at unchanged
      cases unchanged
  · intro addressed c log taken d swapped later c' log' d' key carried absent allocates rebuilding
    refine ⟨_,rebuilt_of_round a later taken svc fresh c d c' d' log log' swapped key carried absent rebuilding,rfl,?_⟩
    rintro (headless | headless)
    · rw [addressed] at headless
      cases headless
    · exact absurd (of_decide_eq_true headless) (allocates _)

namespace Sample

def taken : Service where
  ns := "prod"
  name := "web"
  spec := { clusterIP := "10.0.0.7", clusterIPs := ["10.0.0.7"], ports := [{ port := 80 }] }

def peers : Service where
  ns := "prod"
  name := "web"
  spec := { clusterIP := "None", clusterIPs := ["None"], ports := [{ port := 80 }] }

def taker : KnativeAdoption where
  ns := "prod"
  name := "web"
  spec := { sourceRef := { name := "web" } }

/-- The taker with the snapshot of a Service, after the release. -/
def rebuiltFrom (svc : Service) : Cluster :=
  (apiserver.succeed (rebuildSnapshotService (snapshotService taker svc))
    { addresses := fun _ => ("10.0.0.9",["10.0.0.9"]) }).2

end Sample

theorem service_round_trip_sample : (classifyServiceForSwap (some Sample.taken)).decision = .takenOver ∧
    RoundTrips Sample.taker Sample.taken :=
  ⟨by decide,(service_round_trip_iff Sample.taker Sample.taken rfl).mpr (by decide)⟩

/-- A headless Service is taken over, and comes back with an address. -/
theorem headless_rebuilt_addressed :
    (classifyServiceForSwap (some Sample.peers)).decision = .takenOver ∧
    (apiserver.succeed (snapshotAndDeleteService Sample.taker Sample.peers) { services := .ofList [Sample.peers] }).1 =
      (snapshotService Sample.taker Sample.peers,.ok ()) ∧
    ((Sample.rebuiltFrom Sample.peers).services.get Sample.taker.key).map (fun svc => (svc.spec.headless,svc.spec.clusterIP)) =
      some (false,"10.0.0.9") :=
  ⟨by decide,rfl,by decide⟩

end Ifaas
