import Ifaas.FlusherAdapter
import Ifaas.Pipeline
import Ifaas.Library.Calls

/-! The footprint of the operator's activities. A pass calls about its adoption, the source
Deployment, the Services and Knative Services of these two names, and the traffic objects the
adoption mentions; what is flushed or reported of a decision is about the adoption that made it. -/
namespace Ifaas
open Library

/-! The objects of an adoption. -/

def refsOf (a : KnativeAdoption) : TrafficKind → List String
  | .virtualService => virtualServiceRefs a
  | .destinationRule => destinationRuleRefs a

/-- A traffic object the adoption names, or holds a snapshot of. -/
def Mentions (a : KnativeAdoption) (key : TrafficKey) : Prop :=
  key.key.ns = a.ns ∧
    (key.key.name ∈ refsOf a key.kind ∨
      ∃ item ∈ snapshotItems a.status.sourceSnapshot key.kind, item.name = key.key.name)

/-- What the adoption mentions is declared by adoptions of a kind. -/
def Vouched (Q : KnativeAdoption → Prop) (a : KnativeAdoption) : Prop := ∀ key, Mentions a key → ∃ v, Q v ∧ Mentions v key

/-- A call a pass over this version of the adoption may make, where the stored ones are of a kind. -/
def Footprint (Q : KnativeAdoption → Prop) (a : KnativeAdoption) : Request → Prop
  | .getAdoption key | .patchFinalizers key _ => key = a.key
  | .updateAdoption b => b.key = a.key ∧ b.spec = a.spec
  | .patchStatus _ current => current.key = a.key ∧ Vouched Q current
  | .getDeployment key => key = sourceKey a
  | .applyReplicas key replicas => key = sourceKey a ∧ replicas = 0
  | .patchDeployment _ modified => modified.key = sourceKey a
  | .getService key | .getKService key => key = a.key ∨ key = sourceKey a
  | .deleteService key | .deleteKService key => key = a.key
  | .createService svc => svc.key = a.key
  | .applyKService ksvc => ksvc.key = sourceKey a
  | .getTraffic key | .createTraffic key _ | .patchTraffic key _ => Mentions a key
  | .listPods ns service => ns = a.ns ∧ service = a.name
  | .probe ns _ _ _ _ => ns = a.ns
  | .enqueue d => d.key = a.key ∧ d.adoptionName = a.name
  | .applyAdoption _ _ _ | .deleteAdoption _ | .patchKService _ _ | .listHPAs _ => False

/-- What is found under a key has that key, and the adoptions that are found are as expected. -/
def Filed (Q : KnativeAdoption → Prop) : (r : Request) → Response r → Prop
  | .getAdoption key | .patchFinalizers key _ => fun answer => ∀ a, answer = .ok a → a.key = key ∧ Q a
  | .updateAdoption b => fun answer => ∀ a, answer = .ok a → a.key = b.key ∧ a.spec = b.spec ∧
      ∃ stored, Q stored ∧ stored.key = b.key ∧ a.status = stored.status
  | .getDeployment key => fun answer => ∀ dep, answer = .ok dep → dep.key = key
  | .getService key => fun answer => ∀ svc, answer = .ok svc → svc.key = key
  | .getKService key => fun answer => ∀ ksvc, answer = .ok ksvc → ksvc.key = key
  | .listPods ns _ => fun answer => ∀ pods, answer = .ok pods → ∀ p ∈ pods, p.ns = ns
  | _ => fun _ => True

/-- The adoptions of a cluster are all of a kind. -/
def Cluster.Holds (c : Cluster) (Q : KnativeAdoption → Prop) : Prop := ∀ key a, c.adoptions.get key = some a → Q a

/-- A kind of adoptions that finalizers have no part in. -/
def FinalizerFree (Q : KnativeAdoption → Prop) : Prop := ∀ a finalizers, Q a → Q { a with finalizers := finalizers }

theorem apiserver_files (Q : KnativeAdoption → Prop) (free : FinalizerFree Q) (fault : Fault String) (c : Cluster) (r : Request)
    (holds : c.Holds Q) : Filed Q r (apiserver.serve fault c r).2 := by
  cases r with
  | getAdoption key =>
    intro a answer
    have held := getAdoption_ok answer
    exact ⟨c.adoptions.keyed key a held,holds key a held⟩
  | patchFinalizers key finalizers =>
    intro a answer
    cases fault with
    | none =>
      change (c.patchFinalizers key finalizers).2 = .ok a at answer
      unfold Cluster.patchFinalizers at answer
      split at answer
      · cases answer
      next stored held =>
        split at answer
        · cases answer
        · cases answer
          exact ⟨c.adoptions.keyed key stored held,free stored finalizers (holds key stored held)⟩
    | refused message => cases answer
    | lost message => cases answer
  | updateAdoption b =>
    intro a answer
    cases fault with
    | none =>
      change (c.updateAdoption b).2 = .ok a at answer
      unfold Cluster.updateAdoption at answer
      split at answer
      · cases answer
      next stored held =>
        dsimp only at answer
        split at answer
        · cases answer
        · split at answer <;>
          · cases answer
            exact ⟨c.adoptions.keyed b.key stored held,rfl,stored,holds b.key stored held,c.adoptions.keyed b.key stored held,rfl⟩
    | refused message => cases answer
    | lost message => cases answer
  | getDeployment key => exact fun dep answer => c.deployments.keyed key dep (getDeployment_ok answer)
  | getService key => exact fun svc answer => c.services.keyed key svc (getService_ok answer)
  | getKService key => exact fun ksvc answer => c.ksvcs.keyed key ksvc (getKService_ok answer)
  | listPods ns service =>
    intro pods answer p member
    cases fault with
    | none =>
      cases answer
      have listed := (List.mem_filter.mp member).2
      exact of_decide_eq_true (Bool.and_eq_true_iff.mp listed).1
    | refused message => cases answer
    | lost message => cases answer
  | _ => trivial

/-! The adoption in memory. -/

/-- The adoption later in a pass: the same object, with snapshots of declared objects only. -/
structure Derived (a b : KnativeAdoption) : Prop extends SameObject a b where
  mentions : ∀ key, Mentions b key → Mentions a key

namespace Derived
variable {a b c : KnativeAdoption}

theorem refl (a : KnativeAdoption) : Derived a a := ⟨.refl a,fun _ declared => declared⟩

theorem trans (first : Derived a b) (second : Derived b c) : Derived a c :=
  ⟨.trans a b c first.toSameObject second.toSameObject,fun key declared => first.mentions key (second.mentions key declared)⟩

theorem key (same : Derived a b) : b.key = a.key := congrArg (fun m : ObjectMeta => (⟨m.ns,m.name⟩ : NamespacedName)) same.metadata

theorem ns (same : Derived a b) : b.ns = a.ns := congrArg ObjectMeta.ns same.metadata

theorem name (same : Derived a b) : b.name = a.name := congrArg ObjectMeta.name same.metadata

theorem source (same : Derived a b) : sourceKey b = sourceKey a := by
  unfold sourceKey
  rw [same.ns,same.toSameObject.sourceName]

theorem refs (same : Derived a b) (kind : TrafficKind) : refsOf b kind = refsOf a kind := by
  unfold refsOf virtualServiceRefs destinationRuleRefs istioTraffic
  rw [same.spec]

/-- A step that keeps the snapshots of traffic objects. -/
theorem of_items (same : SameObject a b)
    (items : ∀ kind, snapshotItems b.status.sourceSnapshot kind = snapshotItems a.status.sourceSnapshot kind) : Derived a b := by
  refine ⟨same,fun key declared => ?_⟩
  obtain ⟨inside,named⟩ := declared
  refine ⟨inside.trans (congrArg ObjectMeta.ns same.metadata),?_⟩
  rw [items key.kind] at named
  unfold refsOf virtualServiceRefs destinationRuleRefs istioTraffic at named ⊢
  rwa [same.spec] at named

theorem of_ledger (same : SameLedger a b) : Derived a b :=
  of_items ⟨same.metadata,same.spec⟩ (fun _ => by rw [same.snapshot])

end Derived

theorem items_snapshotService (a : KnativeAdoption) (svc : Service) (kind : TrafficKind) :
    snapshotItems (snapshotService a svc).status.sourceSnapshot kind = snapshotItems a.status.sourceSnapshot kind := by
  cases held : a.status.sourceSnapshot <;> simp [snapshotService,held,snapshotItems]

theorem derived_snapshotReplicas (a : KnativeAdoption) (current : Int) : Derived a (snapshotReplicas a current) := by
  unfold snapshotReplicas
  split
  · exact .refl a
  · refine .of_items ⟨rfl,rfl⟩ (fun kind => ?_)
    cases held : a.status.sourceSnapshot <;> simp [held,snapshotItems]

/-- A snapshot of an object the adoption names adds nothing to what it mentions. -/
theorem derived_snapshotTrafficOnce (kind : TrafficKind) (a : KnativeAdoption) (name : String) (body : Obj GoNumber)
    (named : name ∈ refsOf a kind) : Derived a (snapshotTrafficOnce kind a name body).1 := by
  have ensured : Derived a (ensureTrafficSnapshot a) := .of_items ⟨rfl,rfl⟩ (snapshotItems_ensureTrafficSnapshot a)
  unfold snapshotTrafficOnce
  split
  · exact .refl a
  · dsimp only
    split
    · exact ensured
    · split
      · exact ensured
      next spec _ =>
        refine ensured.trans ⟨⟨rfl,rfl⟩,fun key declared => ?_⟩
        obtain ⟨inside,listed | ⟨item,member,called⟩⟩ := declared
        · exact ⟨inside,Or.inl listed⟩
        · rw [snapshotItems_append] at member
          rcases List.mem_append.mp member with old | new
          · exact ⟨inside,Or.inr ⟨item,old,called⟩⟩
          · split at new
            next same =>
              rw [List.mem_singleton.mp new] at called
              refine ⟨inside,Or.inl ?_⟩
              rw [same,← called]
              exact named
            · cases new

section Conditions
variable {a b : KnativeAdoption} (known : Derived a b)
include known

theorem Derived.set (t : ConditionType) (s : ConditionStatus) (reason : Reason) (msg : String) :
    Derived a (setCondition b t s reason msg) := known.trans (.of_ledger (sameLedger_setCondition b t s reason msg))

theorem Derived.drop (t : ConditionType) : Derived a (removeCondition b t) := known.trans (.of_ledger (sameLedger_removeCondition b t))

theorem Derived.probe (probe : ProbeStatus) : Derived a (b.withProbe probe) := known.trans (.of_ledger (sameLedger_withProbe b probe))

end Conditions

theorem guardAlong_derived : GuardAlong Derived where
  refl := .refl
  trans _ _ _ first second := first.trans second
  condition a t s reason msg := (Derived.refl a).set t s reason msg
  removed a t := (Derived.refl a).drop t
  probed a probe := (Derived.refl a).probe probe

theorem Derived.clear {a b : KnativeAdoption} (known : Derived a b) (t : ConditionType) (reason : Reason) :
    Derived a (clearConditionIfReason b t reason) := known.trans (guardAlong_derived.cleared b t reason)

/-! What a pass calls, stage by stage. -/

/-- The program stays in the footprint of the adoption and returns such values. -/
def Treads (Q : KnativeAdoption → Prop) (a : KnativeAdoption) {α : Type} (P : α → Prop) (p : Op α) : Prop :=
  p.Keeps (Filed Q) (Footprint Q a) P

section Rules
variable {Q : KnativeAdoption → Prop} {a : KnativeAdoption} {α β : Type}

theorem treads_pure (P : α → Prop) (value : α) (holds : P value) : Treads Q a P (pure value) := holds

theorem treads_call (P : β → Prop) (r : Request) (f : Response r → Op β) (inside : Footprint Q a r)
    (rest : ∀ answer, Filed Q r answer → Treads Q a P (f answer)) : Treads Q a P (Client.ask r >>= f) :=
  Program.keeps_call P r f inside rest

theorem treads_bind (R : α → Prop) {P : β → Prop} {p : Op α} {f : α → Op β} (first : Treads Q a R p)
    (rest : ∀ value, R value → Treads Q a P (f value)) : Treads Q a P (p >>= f) := Program.keeps_bind R P p f first rest

theorem treads_returns (P : α → Prop) (p : Op α) (treads : Treads Q a (fun _ => True) p) (returns : p.Returns P) : Treads Q a P p :=
  Program.keeps_returns _ P p treads returns

end Rules

section Guard
variable {Q : KnativeAdoption → Prop} {a : KnativeAdoption} (r : KnativeAdoptionReconciler) (x : KnativeAdoption)
  (derived : Derived a x)

theorem treads_probeAll (path : String) (timeout : Int) (pods : List Pod) (inside : ∀ p ∈ pods, p.ns = a.ns) :
    Treads Q a (fun _ => True) (probeAll x path timeout pods) := by
  induction pods with
  | nil => trivial
  | cons pod rest ih =>
    refine treads_call _ (.probe pod.ns pod.name (resolveProbePort x pod) path timeout) _ (inside pod (by simp)) (fun _ _ => ?_)
    exact treads_bind _ (ih (fun p member => inside p (List.mem_cons_of_mem _ member))) (fun _ _ => trivial)

include derived

theorem treads_enqueueMinScale (desired : Int) (reason : String) :
    Treads Q a (fun _ => True) (enqueueMinScale r x desired reason) := by
  unfold enqueueMinScale
  split
  · exact treads_call _ (.enqueue ⟨x.ns,x.name,x.name,desired,reason⟩) _ ⟨derived.key,derived.name⟩ (fun _ _ => trivial)
  · trivial

theorem treads_recordOutcome (outcome : ScaleDown.Outcome) (msg : String) :
    Treads Q a (fun _ => True) (recordOutcome r x outcome msg) := by
  cases outcome with
  | allowZero =>
    exact treads_bind _ (treads_enqueueMinScale r _ ((derived.set _ _ _ _).clear _ _) _ _) (fun _ _ => trivial)
  | block => exact treads_bind _ (treads_enqueueMinScale r _ (derived.set _ _ _ _) _ _) (fun _ _ => trivial)
  | noPods =>
    exact treads_bind _ (treads_enqueueMinScale r _ ((derived.set _ _ _ _).clear _ _) _ _) (fun _ _ => trivial)

theorem treads_runScaleDownGuard : Treads Q a (fun _ => True) (runScaleDownGuard r x) := by
  unfold runScaleDownGuard
  dsimp only
  split
  · trivial
  · refine treads_bind (fun found => ∀ pods, found = .ok pods → ∀ p ∈ pods, p.ns = a.ns) ?_ (fun found within => ?_)
    · refine treads_call _ (.listPods x.ns x.name) _ ⟨derived.ns,derived.name⟩ (fun answer filed => ?_)
      cases answer with
      | error err => exact treads_pure _ _ nofun
      | ok items =>
        refine treads_pure _ _ (fun pods same p member => ?_)
        cases same
        exact (filed items rfl p (List.mem_filter.mp member).1).trans derived.ns
    · cases found with
      | error err => trivial
      | ok pods =>
        refine treads_bind _ (treads_probeAll x _ _ pods (within pods rfl)) (fun results _ => ?_)
        exact treads_bind _ (treads_recordOutcome r (x.withProbe _) (derived.probe _) _ _)
          (fun _ _ => trivial)

theorem treads_maybeRunGuard : Treads Q a (Derived a) (maybeRunGuard r x) := by
  have calls : Treads Q a (fun _ => True) (maybeRunGuard r x) := by
    unfold maybeRunGuard
    split
    · trivial
    · refine treads_call _ (.getKService x.key) _ (Or.inl derived.key) (fun answer _ => ?_)
      cases answer with
      | error err => trivial
      | ok prev =>
        dsimp only
        split
        · exact treads_bind _ (treads_runScaleDownGuard r x derived) (fun _ _ => trivial)
        · trivial
  exact treads_returns _ _ calls (Program.returns_mono _ _ _ (fun _ same => derived.trans same) (returns_maybeRunGuard guardAlong_derived r x))

end Guard

section Stages
variable {Q : KnativeAdoption → Prop} {a : KnativeAdoption} (r : KnativeAdoptionReconciler) (x : KnativeAdoption)
  (dep : Deployment) (ksvc : KService) (derived : Derived a x)
include derived

theorem treads_swapFound (svc : Option Service) (filed : ∀ found, svc = some found → found.key = a.key) :
    Treads Q a (fun result => Derived a result.1) (swapFound x svc) := by
  unfold swapFound
  split
  · exact derived.drop _
  · exact (derived.set _ _ _ _).set _ _ _ _
  · cases svc with
    | none => exact derived
    | some svc =>
      have swapping : Derived a (snapshotService (serviceSwapping x) svc) :=
        ((derived.drop _).set _ _ _ _).trans (.of_items ⟨rfl,rfl⟩ (items_snapshotService _ svc))
      refine treads_bind (fun result => Derived a result.1) ?_ (fun result known => ?_)
      · refine treads_call _ (.deleteService svc.key) _ (filed svc rfl) (fun answer _ => ?_)
        cases answer with
        | ok done => exact swapping
        | error err =>
          dsimp only
          split <;> exact swapping
      · obtain ⟨y,outcome⟩ := result
        cases outcome with
        | ok done => exact known
        | error err => exact known.set _ _ _ _

theorem treads_swapService : Treads Q a (fun result => Derived a result.1) (swapService x) := by
  refine treads_call _ (.getService x.key) _ (Or.inl derived.key) (fun answer filed => ?_)
  cases answer with
  | ok svc =>
    refine treads_swapFound x derived (some svc) (fun found same => ?_)
    cases same
    exact (filed svc rfl).trans derived.key
  | error err =>
    dsimp only
    split
    · exact treads_swapFound x derived none nofun
    · exact derived

theorem treads_reconcileTrafficObject (kind : TrafficKind) (rewrite : Obj GoNumber → Except ApiError (Obj GoNumber × Bool))
    (name : String) (named : name ∈ refsOf a kind) :
    Treads Q a (fun result => Derived a result.1) (reconcileTrafficObject kind (snapshotTrafficOnce kind) rewrite x name) := by
  have declared : Mentions a ⟨kind,⟨x.ns,name⟩⟩ := ⟨derived.ns,Or.inl named⟩
  refine treads_call _ (.getTraffic ⟨kind,⟨x.ns,name⟩⟩) _ declared (fun answer _ => ?_)
  cases answer with
  | error err => exact derived
  | ok obj =>
    have taken := derived.trans (derived_snapshotTrafficOnce kind x name (obj.body.map Literal.read) (by rwa [derived.refs]))
    dsimp only
    generalize snapshotTrafficOnce kind x name (obj.body.map Literal.read) = snapped at taken
    obtain ⟨y,outcome⟩ := snapped
    cases outcome with
    | error err => exact taken
    | ok done =>
      dsimp only
      split
      · exact taken
      · exact taken
      next rewritten _ =>
        refine treads_call _ (.patchTraffic ⟨kind,⟨x.ns,name⟩⟩ (mergePatchFrom (obj.body.map Literal.read) rewritten)) _ declared
          (fun answer _ => ?_)
        cases answer <;> exact taken

omit derived in
theorem treads_reconcileRefs (kind : TrafficKind) (step : KnativeAdoption → String → Op (KnativeAdoption × Except ApiError Bool))
    (each : ∀ y name, Derived a y → name ∈ refsOf a kind → Treads Q a (fun result => Derived a result.1) (step y name))
    (names : List String) (named : ∀ name ∈ names, name ∈ refsOf a kind) (derived : Derived a x)
    (observed : List ObservedRoute) (firstErr : Option ApiError) :
    Treads Q a (fun result => Derived a result.1) (reconcileRefs kind step names x observed firstErr) := by
  induction names generalizing x observed firstErr with
  | nil => exact derived
  | cons name rest ih =>
    refine treads_bind (fun result => Derived a result.1) ?_ (fun result known => ?_)
    · unfold reconcileRef
      split
      · exact derived
      · refine treads_bind _ (each x name derived (named name (by simp))) (fun result known => ?_)
        obtain ⟨y,outcome⟩ := result
        cases outcome <;> exact known
    · exact ih result.1 (fun other member => named other (List.mem_cons_of_mem _ member)) known _ _

theorem treads_reconcileTraffic : Treads Q a (fun result => Derived a result.1) (reconcileTraffic x) := by
  have observed (y : KnativeAdoption) (known : Derived a y) (routes : List ObservedRoute) : Derived a (setObservedRoutes y routes) :=
    known.trans (.of_ledger (sameLedger_setObservedRoutes y routes))
  unfold reconcileTraffic
  split
  · exact derived
  · split
    · exact observed x derived _
    · refine treads_bind (fun _ => True) ?_ (fun port _ => ?_)
      · refine treads_call _ (.getService ⟨x.ns,sourceName x⟩) _ (Or.inr derived.source) (fun answer _ => ?_)
        cases answer with
        | ok svc => trivial
        | error err =>
          dsimp only
          split <;> trivial
      · cases port with
        | error err => exact observed x derived _
        | ok target =>
          refine treads_bind _ (treads_reconcileRefs x .virtualService _
            (fun y name known named => treads_reconcileTrafficObject y known .virtualService _ name named) (virtualServiceRefs x)
            (fun name listed => (derived.refs .virtualService) ▸ listed) derived [] none) (fun first known => ?_)
          refine treads_bind _ (treads_reconcileRefs first.1 .destinationRule _
            (fun y name known named => treads_reconcileTrafficObject y known .destinationRule _ name named)
            (destinationRuleRefs first.1) (fun name listed => (known.refs .destinationRule) ▸ listed) known _ _)
            (fun second later => ?_)
          exact observed second.1 later _

theorem treads_adaptTraffic : Treads Q a (fun result => Derived a (afterStage result)) (adaptTraffic x) := by
  unfold adaptTraffic
  split
  · refine treads_bind _ (treads_reconcileTraffic x derived) (fun result known => ?_)
    obtain ⟨y,_ | err⟩ := result
    · exact (known.set _ _ _ _).clear _ _
    · exact ((known.set _ _ _ _).set _ _ _ _).set _ _ _ _
  · exact (derived.drop _).drop _

theorem treads_finishAdoption (source : dep.key = sourceKey a) : Treads Q a (fun done => Derived a done.adoption) (finishAdoption x dep) := by
  refine treads_bind (fun result => Derived a result.1) ?_ (fun result known => ?_)
  · unfold quiesceSource
    split
    · exact derived
    · refine treads_call _ (.applyReplicas dep.key 0) _ ⟨source,rfl⟩ (fun answer _ => ?_)
      cases answer <;> exact derived.trans (derived_snapshotReplicas x _)
  · obtain ⟨y,_ | err⟩ := result
    · dsimp only
      split <;> exact (known.set _ _ _ _).set _ _ _ _
    · exact (known.set _ _ _ _).set _ _ _ _

theorem treads_awaitKService (source : dep.key = sourceKey a) (filed : ksvc.key = sourceKey a) :
    Treads Q a (fun done => Derived a done.adoption) (awaitKService r x dep ksvc) := by
  refine treads_call _ (.getKService ksvc.key) _ (Or.inr filed) (fun answer _ => ?_)
  cases answer with
  | error err => exact derived
  | ok live =>
    have located : Derived a { x with status := { x.status with url := (r.ready live).2 } } :=
      derived.trans (.of_ledger ⟨rfl,rfl,rfl⟩)
    dsimp only
    split
    · exact treads_finishAdoption _ dep (located.set _ _ _ _) source
    · exact (located.set _ _ _ _).set _ _ _ _

theorem treads_applyAdopted (source : dep.key = sourceKey a) (filed : ksvc.key = sourceKey a) :
    Treads Q a (fun done => Derived a done.adoption) (applyAdopted r x dep ksvc) := by
  unfold applyAdopted setControllerReference
  split
  · exact derived
  next owned held =>
    split at held
    · cases held
    · cases held
      refine treads_bind (fun _ => True) ?_ (fun outcome _ => ?_)
      · refine treads_call _ (.applyKService _) _ filed (fun answer _ => ?_)
        cases answer <;> trivial
      · cases outcome with
        | error err => exact (derived.set _ _ _ _).set _ _ _ _
        | ok done => exact treads_awaitKService r _ dep _ ((derived.clear _ _).set _ _ _ _) source filed

theorem treads_adoptTranslated (source : dep.key = sourceKey a) (filed : ksvc.key = sourceKey a) :
    Treads Q a (fun done => Derived a done.adoption) (adoptTranslated r x dep ksvc) := by
  refine treads_bind _ (treads_swapService x derived) (fun result known => ?_)
  obtain ⟨y,outcome⟩ := result
  cases outcome with
  | error err => exact known.set _ _ _ _
  | ok decision =>
    cases decision with
    | refused => exact (known.set _ _ _ _).set _ _ _ _
    | takenOver => exact known
    | pass =>
      refine treads_bind _ (treads_adaptTraffic y known) (fun adapted later => ?_)
      cases adapted with
      | error ended => exact later
      | ok next => exact treads_applyAdopted r next dep ksvc later source filed

end Stages

section Adoption
variable {Q : KnativeAdoption → Prop} (r : KnativeAdoptionReconciler) (a : KnativeAdoption)

theorem treads_reconcileAdoption : Treads Q a (fun done => Derived a done.adoption) (reconcileAdoption r a) := by
  refine treads_bind (fun found => ∀ dep, found = .ok (some dep) → dep.key = sourceKey a) ?_ (fun found filed => ?_)
  · refine treads_call _ (.getDeployment ⟨a.ns,sourceName a⟩) _ rfl (fun answer filed => ?_)
    cases answer with
    | ok dep =>
      refine treads_pure _ _ (fun other same => ?_)
      cases same
      exact filed dep rfl
    | error err =>
      dsimp only
      split <;> exact treads_pure _ _ nofun
  · cases found with
    | error err => exact (Derived.refl a).set _ _ _ _
    | ok found =>
      cases found with
      | none => exact (((Derived.refl a).set _ _ _ _).set _ _ _ _).set _ _ _ _
      | some dep =>
        have source : dep.key = sourceKey a := filed dep rfl
        refine treads_bind _ (treads_maybeRunGuard r _ ((Derived.refl a).drop .sourceMissing)) (fun b known => ?_)
        cases translated : translate dep b with
        | error err => exact ((known.set _ _ _ _).set _ _ _ _).set _ _ _ _
        | ok ksvc =>
          exact treads_adoptTranslated r _ dep ksvc (known.drop _) source
            ((translate_key dep b ksvc translated).trans source)

end Adoption

/-! The deletion of an adoption. -/

/-- The adoption later in a deletion pass: key and specification are kept, the status may be one
that was stored meanwhile. -/
structure Descends (Q : KnativeAdoption → Prop) (a b : KnativeAdoption) : Prop where
  key : b.key = a.key
  spec : b.spec = a.spec
  vouched : Vouched Q b

namespace Descends
variable {Q : KnativeAdoption → Prop} {a b c : KnativeAdoption}

theorem refl (known : Q a) : Descends Q a a := ⟨rfl,rfl,fun _ declared => ⟨a,known,declared⟩⟩

theorem derived (descends : Descends Q a b) (same : Derived b c) : Descends Q a c :=
  ⟨same.key.trans descends.key,same.spec.trans descends.spec,fun key declared => descends.vouched key (same.mentions key declared)⟩

theorem ns (descends : Descends Q a b) : b.ns = a.ns := congrArg NamespacedName.ns descends.key

theorem source (descends : Descends Q a b) : sourceKey b = sourceKey a := by
  unfold sourceKey sourceName
  rw [descends.ns,descends.spec,show b.name = a.name from congrArg NamespacedName.name descends.key]

theorem set (descends : Descends Q a b) (t : ConditionType) (s : ConditionStatus) (reason : Reason) (msg : String) :
    Descends Q a (setCondition b t s reason msg) := descends.derived ((Derived.refl b).set t s reason msg)

/-- A stored status under the specification at hand. -/
theorem stored (known : Q a) (v : KnativeAdoption) (same : v.key = a.key) (fine : Q v) (key : b.key = a.key)
    (spec : b.spec = a.spec) (status : b.status = v.status) : Descends Q a b := by
  refine ⟨key,spec,fun traffic declared => ?_⟩
  obtain ⟨inside,named | snapped⟩ := declared
  · refine ⟨a,known,inside.trans (congrArg NamespacedName.ns key),Or.inl ?_⟩
    unfold refsOf virtualServiceRefs destinationRuleRefs istioTraffic at named ⊢
    rwa [spec] at named
  · refine ⟨v,fine,inside.trans (congrArg NamespacedName.ns (key.trans same.symm)),Or.inr ?_⟩
    rwa [status] at snapped

end Descends

section Deletion
variable {Q : KnativeAdoption → Prop} {a : KnativeAdoption} (known : Q a) (x : KnativeAdoption)

theorem treads_restoreTrafficObjectSnapshot (kind : TrafficKind) (item : TrafficObjectSnapshot)
    (taken : item ∈ snapshotItems a.status.sourceSnapshot kind) :
    Treads Q a (fun _ => True) (restoreTrafficObjectSnapshot a.ns kind item) := by
  have declared : Mentions a ⟨kind,⟨a.ns,item.name⟩⟩ := ⟨rfl,Or.inr ⟨item,taken,rfl⟩⟩
  unfold restoreTrafficObjectSnapshot
  split
  · trivial
  · refine treads_call _ (.getTraffic ⟨kind,⟨a.ns,item.name⟩⟩) _ declared (fun answer _ => ?_)
    cases answer with
    | error err =>
      dsimp only
      split
      · refine treads_call _ (.createTraffic ⟨kind,⟨a.ns,item.name⟩⟩ _) _ declared (fun answer _ => ?_)
        cases answer with
        | ok done => trivial
        | error err =>
          dsimp only
          split <;> trivial
      · trivial
    | ok obj =>
      dsimp only
      split
      · trivial
      · refine treads_call _ (.patchTraffic ⟨kind,⟨a.ns,item.name⟩⟩ _) _ declared (fun answer _ => ?_)
        cases answer <;> trivial

theorem treads_restoreTrafficSnapshotList (kind : TrafficKind) (items : List TrafficObjectSnapshot)
    (taken : ∀ item ∈ items, item ∈ snapshotItems a.status.sourceSnapshot kind) :
    Treads Q a (fun _ => True) (restoreTrafficSnapshotList a.ns kind items) := by
  induction items with
  | nil => trivial
  | cons item rest ih =>
    refine treads_bind _ (treads_restoreTrafficObjectSnapshot kind item (taken item (by simp))) (fun outcome _ => ?_)
    cases outcome with
    | some err => trivial
    | none => exact ih (fun other member => taken other (List.mem_cons_of_mem _ member))

theorem treads_restoreTrafficSnapshots (same : x.status.sourceSnapshot = a.status.sourceSnapshot) (place : x.ns = a.ns) :
    Treads Q a (fun _ => True) (restoreTrafficSnapshots x) := by
  unfold restoreTrafficSnapshots
  rw [same,place]
  split
  · trivial
  next traffic held =>
    have items (kind : TrafficKind) : snapshotItems a.status.sourceSnapshot kind = traffic.items kind := by
      unfold snapshotItems
      rw [held]
      rfl
    refine treads_bind _ (treads_restoreTrafficSnapshotList .virtualService traffic.virtualServices
      (fun item member => by rw [items]; exact member)) (fun outcome _ => ?_)
    cases outcome with
    | some err => trivial
    | none =>
      exact treads_restoreTrafficSnapshotList .destinationRule traffic.destinationRules
        (fun item member => by rw [items]; exact member)

theorem treads_rebuildSnapshotService (place : x.key = a.key) : Treads Q a (fun _ => True) (rebuildSnapshotService x) := by
  unfold rebuildSnapshotService
  split
  · trivial
  next spec _ =>
    refine treads_call _ (.createService (rebuiltService x spec)) _ place (fun answer _ => ?_)
    cases answer with
    | ok done => trivial
    | error err =>
      dsimp only
      split <;> trivial

theorem treads_restoreDeploymentSpec (source : sourceKey x = sourceKey a) : Treads Q a (fun _ => True) (restoreDeploymentSpec x) := by
  unfold restoreDeploymentSpec
  split
  · trivial
  next target _ =>
    refine treads_call _ (.getDeployment ⟨x.ns,sourceName x⟩) _ source (fun answer filed => ?_)
    cases answer with
    | error err =>
      dsimp only
      split <;> trivial
    | ok dep =>
      have released : (releasedDeployment dep target).key = sourceKey a := (filed dep rfl).trans source
      dsimp only
      split
      · trivial
      · refine treads_call _ (.patchDeployment dep (releasedDeployment dep target)) _ released (fun answer _ => ?_)
        cases answer <;> trivial

include known

theorem treads_removeFinalizer (descends : Descends Q a x) (name : String) :
    Treads Q a (fun result => Descends Q a result.1) (removeFinalizer x name) := by
  unfold removeFinalizer
  split
  · refine treads_call _ (.updateAdoption { x with finalizers := x.finalizers.filter (fun f => f ≠ name) }) _
      ⟨descends.key,descends.spec⟩ (fun answer filed => ?_)
    cases answer with
    | error err => exact ⟨descends.key,descends.spec,descends.vouched⟩
    | ok stored =>
      obtain ⟨key,spec,v,fine,same,status⟩ := filed stored rfl
      exact .stored known v (same.trans descends.key) fine (key.trans descends.key) (spec.trans descends.spec) status
  · exact descends

theorem treads_restoreChildren : Treads Q a (fun result => Descends Q a (afterStage result)) (restoreChildren a) := by
  have descends := (((Descends.refl known).set .ready .false .restoringService "rebuilding pre-adoption traffic objects").set
    .ready .false .restoringService "rebuilding pre-adoption Service")
  refine treads_bind _ (treads_restoreTrafficSnapshots (setReady a _ _ _) rfl rfl) (fun outcome _ => ?_)
  cases outcome with
  | some err => exact ((Descends.refl known).set _ _ _ _).set _ _ _ _
  | none =>
    refine treads_bind _ (treads_rebuildSnapshotService (setReady (setReady a _ _ _) _ _ _) rfl) (fun outcome _ => ?_)
    cases outcome with
    | some err => exact descends.set _ _ _ _
    | none =>
      refine treads_bind _ (treads_removeFinalizer known _ descends finalizerRestoreSourceService) (fun result later => ?_)
      obtain ⟨b,_ | err⟩ := result <;> exact later

theorem treads_releaseService : Treads Q a (fun result => Descends Q a (afterStage result)) (releaseService a) := by
  have unchanged := Descends.refl known
  unfold releaseService
  split
  · refine treads_bind (fun _ => True) ?_ (fun outcome _ => ?_)
    · refine treads_call _ (.deleteKService a.key) _ rfl (fun answer _ => ?_)
      cases answer with
      | ok done => trivial
      | error err =>
        dsimp only
        split <;> trivial
    · cases outcome with
      | some err => exact unchanged.set _ _ _ _
      | none =>
        refine treads_bind (fun _ => True) ?_ (fun gone _ => ?_)
        · refine treads_call _ (.getKService a.key) _ (Or.inl rfl) (fun answer _ => ?_)
          cases answer with
          | ok found => trivial
          | error err =>
            dsimp only
            split <;> trivial
        · rcases gone with err | _ | _
          · exact unchanged
          · exact unchanged.set _ _ _ _
          · refine treads_bind (fun _ => True) ?_ (fun gone _ => ?_)
            · refine treads_call _ (.getService a.key) _ (Or.inl rfl) (fun answer _ => ?_)
              cases answer with
              | ok found => trivial
              | error err =>
                dsimp only
                split <;> trivial
            · rcases gone with err | _ | _
              · exact unchanged
              · exact unchanged.set _ _ _ _
              · exact treads_restoreChildren known
  · exact unchanged

theorem treads_releaseSource (descends : Descends Q a x) :
    Treads Q a (fun result => Descends Q a (afterStage result)) (releaseSource x) := by
  have restoring := descends.set .ready .false .restoringSource "restoring source Deployment replicas"
  unfold releaseSource
  split
  · refine treads_bind _ (treads_restoreDeploymentSpec (setReady x _ _ _) restoring.source) (fun outcome _ => ?_)
    cases outcome with
    | some err => exact restoring.set _ _ _ _
    | none =>
      refine treads_bind _ (treads_removeFinalizer known _ restoring finalizerRestoreSource) (fun result later => ?_)
      obtain ⟨b,_ | err⟩ := result <;> exact later
  · exact descends

theorem treads_handleDeletion : Treads Q a (fun done => Descends Q a done.adoption) (handleDeletion a) := by
  refine treads_bind _ (treads_releaseService known) (fun released later => ?_)
  cases released with
  | error ended => exact later
  | ok b =>
    refine treads_bind _ (treads_releaseSource known b later) (fun result last => ?_)
    cases result with
    | error ended => exact last
    | ok c => exact last.set _ _ _ _

end Deletion

/-! A whole pass. -/

theorem treads_patchStatus {Q : KnativeAdoption → Prop} {a : KnativeAdoption} (original x : KnativeAdoption)
    (descends : Descends Q a x) : Treads Q a (fun _ => True) (patchStatus original x) := by
  unfold patchStatus
  split
  · trivial
  · exact ⟨⟨descends.key,descends.vouched⟩,fun _ _ => trivial⟩

/-- The calls of a pass over an adoption: it reads it, and works on versions of it. -/
def PassCalls (Q : KnativeAdoption → Prop) (key : NamespacedName) (r : Request) : Prop :=
  r = .getAdoption key ∨ ∃ a, a.key = key ∧ Q a ∧ Footprint Q a r

section Pass
variable {Q : KnativeAdoption → Prop} (r : KnativeAdoptionReconciler)

theorem calls_of_treads {α : Type} (key : NamespacedName) (a : KnativeAdoption) (same : a.key = key) (known : Q a)
    (P : α → Prop) (p : Op α) (treads : Treads Q a P p) : p.Keeps (Filed Q) (PassCalls Q key) P :=
  Program.keeps_mono _ _ _ p (fun _ inside => Or.inr ⟨a,same,known,inside⟩) (fun _ holds => holds) treads

theorem treads_reconcileDeleted (a : KnativeAdoption) (known : Q a) : Treads Q a (fun _ => True) (reconcileDeleted a) := by
  refine treads_bind _ (treads_handleDeletion known) (fun done later => ?_)
  refine treads_bind _ (treads_patchStatus a done.adoption later) (fun answer _ => ?_)
  cases answer with
  | ok patched => trivial
  | error err =>
    dsimp only
    split <;> trivial

/-- The version a pass goes on with once the finalizers are there. -/
def Resumed (Q : KnativeAdoption → Prop) (key : NamespacedName) : Except ApiError KnativeAdoption → Prop
  | .error _ => True
  | .ok a => a.key = key ∧ Q a

theorem calls_reconcileLive (a : KnativeAdoption) (known : Q a) :
    (reconcileLive r a).Keeps (Filed Q) (PassCalls Q a.key) (fun _ => True) := by
  have finalized : Treads Q a (Resumed Q a.key) (ensureFinalizers a) := by
    unfold ensureFinalizers
    dsimp only
    split
    · exact ⟨rfl,known⟩
    · refine treads_call _ (.patchFinalizers a.key (addFinalizer (addFinalizer a.finalizers finalizerRestoreSourceService)
        finalizerRestoreSource)) _ rfl (fun answer filed => ?_)
      cases answer with
      | error err => trivial
      | ok stored => exact filed stored rfl
  refine Program.keeps_bind _ _ _ _ (calls_of_treads a.key a rfl known _ _ finalized) (fun result ready => ?_)
  cases result with
  | error err => trivial
  | ok original =>
    obtain ⟨same,fine⟩ := ready
    refine calls_of_treads a.key original same fine _ _ (treads_bind _ (treads_reconcileAdoption r original) (fun done later => ?_))
    have summarised : Derived done.adoption (recomputeReady done.adoption) := by
      obtain ⟨_,kept⟩ := sameButConditions_recomputeReady done.adoption
      rw [kept]
      exact .of_ledger ⟨rfl,rfl,rfl⟩
    refine treads_bind _ (treads_patchStatus original _ ((Descends.refl fine).derived (later.trans summarised))) (fun answer _ => ?_)
    cases answer <;> trivial

theorem calls_reconcile (key : NamespacedName) : (reconcile r key).Keeps (Filed Q) (PassCalls Q key) (fun _ => True) := by
  refine Program.keeps_call _ (Request.getAdoption key) _ (Or.inl rfl) (fun answer filed => ?_)
  cases answer with
  | error err =>
    dsimp only
    split <;> trivial
  | ok a =>
    obtain ⟨same,known⟩ := filed a rfl
    dsimp only
    split
    · exact calls_of_treads key a same known _ _ (treads_reconcileDeleted a known)
    · exact same ▸ calls_reconcileLive r a known

end Pass

/-! What the operator does at the apiserver, once it is running. -/

/-- A pass over an adoption, the flush of a decision, and the report that flushing it keeps failing. -/
inductive Activity where
  | pass (r : KnativeAdoptionReconciler) (key : NamespacedName)
  | flush (d : Decision)
  | report (d : Decision) (attempts : Nat) (lastErr : ApiError)

namespace Activity

def code : Activity → Op Unit
  | pass r key => do
    let _ ← reconcile r key
    return ()
  | flush d => do
    let _ ← patchMinScale d
    return ()
  | report d attempts lastErr => newFlusherFailureSink d attempts lastErr

/-- A pass begins at any moment; a decision is flushed or reported after it was enqueued. -/
def starts (history : List (Turn Activity Request Response String Cluster)) : Activity → Prop
  | pass _ _ => True
  | flush d => ∃ turn ∈ history, turn.event.request = .enqueue d
  | report d _ _ => ∃ turn ∈ history, turn.event.request = .enqueue d

/-- The calls of an activity. -/
def Calls (Q : KnativeAdoption → Prop) : Activity → Request → Prop
  | pass _ key => PassCalls Q key
  | flush d => fun r => r = .getKService d.key ∨ ∃ annotations, r = .patchKService d.key annotations
  | report d _ _ => fun r => r = .getAdoption ⟨d.ns,d.adoptionName⟩ ∨
      ∃ original current, r = .patchStatus original current ∧ current.key = ⟨d.ns,d.adoptionName⟩ ∧ Vouched Q current

theorem keeps_code (Q : KnativeAdoption → Prop) (who : Activity) : who.code.Keeps (Filed Q) (who.Calls Q) (fun _ => True) := by
  cases who with
  | pass r key => exact Program.keeps_bind _ _ _ _ (calls_reconcile r key) (fun _ _ => trivial)
  | flush d =>
    refine Program.keeps_bind (fun _ => True) _ _ _ ?_ (fun _ _ => trivial)
    refine Program.keeps_call _ (Request.getKService d.key) _ (Or.inl rfl) (fun answer filed => ?_)
    cases answer with
    | error err =>
      dsimp only
      split <;> trivial
    | ok live =>
      dsimp only
      split
      · trivial
      · refine Program.keeps_call _ (Request.patchKService live.key _) _ (Or.inr ⟨_,by rw [filed live rfl]⟩) (fun answer _ => ?_)
        cases answer <;> trivial
  | report d attempts lastErr =>
    refine Program.keeps_call _ (Request.getAdoption ⟨d.ns,d.adoptionName⟩) _ (Or.inl rfl) (fun answer filed => ?_)
    cases answer with
    | error err => trivial
    | ok a =>
      obtain ⟨same,known⟩ := filed a rfl
      have marked := (Descends.refl known).derived ((Derived.refl a).set .degraded .true .scaleDownProbeError
        ("guard flush failed " ++ toString attempts ++ " times in a row: " ++ lastErr.message))
      exact Program.keeps_call _ (Request.patchStatus a _) _ (Or.inr ⟨a,_,rfl,marked.key.trans same,marked.vouched⟩)
        (fun _ _ => trivial)

end Activity
end Ifaas
