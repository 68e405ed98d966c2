import Ifaas.Frame
import Ifaas.Library.Ledger

/-! The source snapshot as a ledger. The user's things an adoption may destroy are the
Service of its name, the replicas of the source Deployment and the specs of traffic
objects; `image` is what the cluster holds of them and `entry` is what a snapshot
has recorded. -/
namespace Ifaas
open Library

inductive Item where
  | service
  | replicas
  | traffic (key : TrafficKey)
deriving DecidableEq

inductive Image where
  | service (spec : ServiceSpec)
  | replicas (count : Int)
  | traffic (spec : RawExtension)
deriving DecidableEq

def TrafficObject.spec (o : TrafficObject) : RawExtension := (o.body.get "spec").bind Json.asObj

def sourceKey (a : KnativeAdoption) : NamespacedName := ⟨a.ns,sourceName a⟩

def serviceImage (svc : Service) : Option Image :=
  if knativeOwned svc then none else some (.service svc.spec.stripAddresses)

def replicasImage (dep : Deployment) : Option Image :=
  if dep.spec.effectiveReplicas = 0 then none else some (.replicas dep.spec.effectiveReplicas)

/-- What the cluster holds of the user's things: a Service that Knative owns and a
Deployment without replicas count as nothing. -/
def image (a : KnativeAdoption) (c : Cluster) : Item → Option Image
  | .service => (c.services.get a.key).bind serviceImage
  | .replicas => (c.deployments.get (sourceKey a)).bind replicasImage
  | .traffic key => (c.traffic.get key).map (fun o => .traffic o.spec)

def snapshotItems (snapshot : Option SourceSnapshot) (kind : TrafficKind) : List TrafficObjectSnapshot :=
  ((snapshot.bind (fun s => s.traffic)).getD {}).items kind

def entry (ns : String) (snapshot : Option SourceSnapshot) : Item → Option Image
  | .service => (snapshot.bind (fun s => s.service)).map .service
  | .replicas => (snapshot.bind (fun s => s.replicas)).map .replicas
  | .traffic key =>
    if key.key.ns = ns then
      ((snapshotItems snapshot key.kind).find? (fun item => item.name = key.key.name)).map
        (fun item => .traffic item.spec)
    else none

theorem entry_none (ns : String) (i : Item) : entry ns none i = none := by
  cases i with
  | service | replicas => rfl
  | traffic key =>
    simp only [entry]
    split
    · cases key.kind <;> rfl
    · rfl

/-! Images under drift and calls. -/

theorem image_congr (a : KnativeAdoption) (c d : Cluster) (services : d.services = c.services)
    (deployments : d.deployments = c.deployments) (traffic : d.traffic = c.traffic) : image a d = image a c := by
  funext i
  cases i with
  | service => simp only [image,services]
  | replicas => simp only [image,deployments]
  | traffic key => simp only [image,traffic]

theorem serviceImage_drift (ksvc : Option KService) (before after : Option Service)
    (moved : ServiceDrift ksvc before after) : after.bind serviceImage = before.bind serviceImage := by
  have vanishes (held : Option Service) (owned : ∀ svc, held = some svc → knativeOwned svc = true) :
      held.bind serviceImage = none := by
    cases held with
    | none => rfl
    | some svc => simp [serviceImage,owned svc rfl]
  rcases moved with same | ⟨old,new,_⟩
  · rw [same]
  · rw [vanishes after new,vanishes before old]

theorem image_drift (a : KnativeAdoption) (c d : Cluster) (moved : Drift c d) : image a d = image a c := by
  funext i
  cases i with
  | service => exact serviceImage_drift _ _ _ (moved.services a.key)
  | replicas => simp only [image,moved.deployments]
  | traffic key => simp only [image,moved.traffic]

/-- Calls on adoptions and Knative Services, and reads, destroy nothing. -/
theorem image_serve (a : KnativeAdoption) (fault : Fault String) (c : Cluster) (r : Request)
    (harmless : r.part ≠ some .services ∧ r.part ≠ some .deployments ∧ r.part ≠ some .traffic) :
    image a (apiserver.serve fault c r).1 = image a c :=
  image_congr a _ _ (serve_services fault c r harmless.1) (serve_deployments fault c r harmless.2.1)
    (serve_traffic fault c r harmless.2.2)

section Effect
variable (a : KnativeAdoption) (c : Cluster) (r : Request)

theorem image_service_effect (other : r.part ≠ some .services) :
    image a (c.effect r).1 .service = image a c .service := by
  have same : (c.effect r).1.services = c.services := effect_same .services c r other
  simp only [image,same]

theorem image_replicas_effect (other : r.part ≠ some .deployments) :
    image a (c.effect r).1 .replicas = image a c .replicas := by
  have same : (c.effect r).1.deployments = c.deployments := effect_same .deployments c r other
  simp only [image,same]

theorem image_traffic_effect (key : TrafficKey) (other : r.part ≠ some .traffic) :
    image a (c.effect r).1 (.traffic key) = image a c (.traffic key) := by
  have same : (c.effect r).1.traffic = c.traffic := effect_same .traffic c r other
  simp only [image,same]

end Effect

/-! Entries made in memory. -/

/-- Same object and same snapshot; other parts of the status may differ. -/
structure SameLedger (a b : KnativeAdoption) : Prop where
  metadata : b.toObjectMeta = a.toObjectMeta
  spec : b.spec = a.spec
  snapshot : b.status.sourceSnapshot = a.status.sourceSnapshot

theorem SameLedger.refl (a : KnativeAdoption) : SameLedger a a := ⟨rfl,rfl,rfl⟩

theorem SameLedger.trans (a b c : KnativeAdoption) (first : SameLedger a b) (second : SameLedger b c) :
    SameLedger a c :=
  ⟨second.metadata.trans first.metadata,second.spec.trans first.spec,second.snapshot.trans first.snapshot⟩

theorem SameButConditions.sameLedger (a b : KnativeAdoption) (same : SameButConditions a b) : SameLedger a b := by
  obtain ⟨conditions,rfl⟩ := same
  exact ⟨rfl,rfl,rfl⟩

theorem sameLedger_setCondition (a : KnativeAdoption) (t : ConditionType) (s : ConditionStatus)
    (reason : Reason) (msg : String) : SameLedger a (setCondition a t s reason msg) := ⟨rfl,rfl,rfl⟩

theorem sameLedger_setReady (a : KnativeAdoption) (s : ConditionStatus) (reason : Reason) (msg : String) :
    SameLedger a (setReady a s reason msg) := ⟨rfl,rfl,rfl⟩

theorem sameLedger_removeCondition (a : KnativeAdoption) (t : ConditionType) :
    SameLedger a (removeCondition a t) := ⟨rfl,rfl,rfl⟩

theorem sameLedger_serviceSwapping (a : KnativeAdoption) : SameLedger a (serviceSwapping a) := ⟨rfl,rfl,rfl⟩

theorem sameLedger_clearConditionIfReason (a : KnativeAdoption) (t : ConditionType) (reason : Reason) :
    SameLedger a (clearConditionIfReason a t reason) :=
  (sameButConditions_clearConditionIfReason a t reason).sameLedger

theorem sameLedger_withProbe (a : KnativeAdoption) (probe : ProbeStatus) : SameLedger a (a.withProbe probe) :=
  ⟨rfl,rfl,rfl⟩

theorem sameLedger_setObservedRoutes (a : KnativeAdoption) (routes : List ObservedRoute) :
    SameLedger a (setObservedRoutes a routes) := ⟨rfl,rfl,rfl⟩

/-- The adoption a stage ends with, whether or not the pass goes on. -/
def afterStage : Except Reconciled KnativeAdoption → KnativeAdoption
  | .error ended => ended.adoption
  | .ok a => a

/-- A relation the guard moves along: it writes conditions and the probe status. -/
structure GuardAlong (R : KnativeAdoption → KnativeAdoption → Prop) : Prop where
  refl : ∀ a, R a a
  trans : ∀ a b c, R a b → R b c → R a c
  condition : ∀ a t s reason msg, R a (setCondition a t s reason msg)
  removed : ∀ a t, R a (removeCondition a t)
  probed : ∀ a probe, R a (a.withProbe probe)

theorem guardAlong_sameLedger : GuardAlong SameLedger where
  refl := SameLedger.refl
  trans := SameLedger.trans
  condition := sameLedger_setCondition
  removed := sameLedger_removeCondition
  probed := sameLedger_withProbe

section Guard
variable {R : KnativeAdoption → KnativeAdoption → Prop} (along : GuardAlong R)
include along

theorem GuardAlong.cleared (a : KnativeAdoption) (t : ConditionType) (reason : Reason) :
    R a (clearConditionIfReason a t reason) := by
  unfold clearConditionIfReason
  split
  · exact along.refl a
  · split
    · exact along.removed a t
    · exact along.refl a

theorem GuardAlong.marked (a : KnativeAdoption) (threshold : Int) : R a (maybeMarkDegraded a threshold) := by
  unfold maybeMarkDegraded
  split
  · exact along.refl a
  · split
    · exact along.refl a
    · exact along.condition _ _ _ _ _

theorem returns_recordOutcome (r : KnativeAdoptionReconciler) (a : KnativeAdoption)
    (outcome : ScaleDown.Outcome) (msg : String) : (recordOutcome r a outcome msg).Returns (R a) := by
  have after (b : KnativeAdoption) (desired : Int) (reason : String) (moved : R a b) :
      (enqueueMinScale r b desired reason >>= fun _ => pure b).Returns (R a) :=
    Program.returns_bind _ (Program.returns_true _) (fun _ _ => moved)
  have allowed (text : String) : R a (clearConditionIfReason
      (setCondition a .scaleDownAllowed .true .scaleDownAllowed text) .degraded .scaleDownProbeError) :=
    along.trans _ _ _ (along.condition _ _ _ _ _) (along.cleared _ _ _)
  cases outcome with
  | block => exact after _ _ _ (along.condition _ _ _ _ _)
  | allowZero => exact after _ _ _ (allowed msg)
  | noPods => exact after _ _ _ (allowed _)

theorem returns_runScaleDownGuard (r : KnativeAdoptionReconciler) (a : KnativeAdoption) :
    (runScaleDownGuard r a).Returns (fun result => R a result.1) := by
  unfold runScaleDownGuard
  dsimp only
  split
  · exact along.condition _ _ _ _ _
  · refine Program.returns_bind _ (Program.returns_true _) (fun pods _ => ?_)
    cases pods with
    | error err =>
      exact along.trans _ _ _ (along.trans _ _ _ (along.probed _ _) (along.condition _ _ _ _ _)) (along.marked _ _)
    | ok pods =>
      refine Program.returns_bind _ (Program.returns_true _) (fun results _ => ?_)
      refine Program.returns_bind _ (returns_recordOutcome along _ _ _ _) (fun b moved => ?_)
      exact along.trans _ _ _ (along.trans _ _ _ (along.probed _ _) moved) (along.marked _ _)

theorem returns_maybeRunGuard (r : KnativeAdoptionReconciler) (a : KnativeAdoption) :
    (maybeRunGuard r a).Returns (R a) := by
  unfold maybeRunGuard
  split
  · exact along.refl a
  · refine Program.returns_bind _ (Program.returns_true _) (fun response _ => ?_)
    cases response with
    | error err => exact along.refl a
    | ok prev =>
      dsimp only
      split
      · exact Program.returns_bind _ (returns_runScaleDownGuard along r a) (fun _ moved => moved)
      · exact along.refl a

end Guard

@[simp] theorem withSnapshot_snapshot (a : KnativeAdoption) (f : SourceSnapshot → SourceSnapshot) :
    (a.withSnapshot f).status.sourceSnapshot = some (f (a.status.sourceSnapshot.getD {})) := rfl

theorem trafficItems_eq (a : KnativeAdoption) (kind : TrafficKind) :
    trafficItems a kind = snapshotItems a.status.sourceSnapshot kind := by
  unfold trafficItems snapshotItems
  cases a.status.sourceSnapshot with
  | none => cases kind <;> rfl
  | some snapshot => rfl

theorem items_append (s : TrafficSnapshot) (kind other : TrafficKind) (item : TrafficObjectSnapshot) :
    (s.append kind item).items other = s.items other ++ (if other = kind then [item] else []) := by
  cases kind <;> cases other <;> simp [TrafficSnapshot.append,TrafficSnapshot.items]

/-- The entries of a snapshot after one thing was looked at: that thing has an entry
now, made from `value` where there was none, and the others are as before. -/
def Recorded (ns : String) (before after : Option SourceSnapshot) (i : Item) (value : Image) : Prop :=
  (∀ j, entry ns after j = entry ns before j ∨
    (j = i ∧ entry ns before j = none ∧ entry ns after j = some value)) ∧ entry ns after i ≠ none

/-- No two traffic entries of a kind have the same name. -/
def Unique (snapshot : Option SourceSnapshot) : Prop :=
  ∀ kind, ((snapshotItems snapshot kind).map (fun item => item.name)).Nodup

theorem unique_of_items {before after : Option SourceSnapshot} (unique : Unique before)
    (same : ∀ kind, snapshotItems after kind = snapshotItems before kind) : Unique after := by
  intro kind
  rw [same kind]
  exact unique kind

theorem unique_none : Unique none := by
  intro kind
  cases kind <;> exact List.nodup_nil

theorem recorded_snapshotService (ns : String) (a : KnativeAdoption) (svc : Service) :
    Recorded ns a.status.sourceSnapshot (snapshotService a svc).status.sourceSnapshot .service
      (.service svc.spec.stripAddresses) := by
  constructor
  · intro j
    cases j with
    | service =>
      cases held : a.status.sourceSnapshot with
      | none => exact Or.inr ⟨rfl,rfl,by simp [snapshotService,held,entry]⟩
      | some snapshot =>
        cases recorded : snapshot.service with
        | none => exact Or.inr ⟨rfl,by simp [entry,recorded],by simp [snapshotService,held,recorded,entry]⟩
        | some spec => exact Or.inl (by simp [snapshotService,held,recorded,entry])
    | replicas =>
      left
      cases held : a.status.sourceSnapshot <;> simp [snapshotService,held,entry]
    | traffic key =>
      left
      cases held : a.status.sourceSnapshot <;> simp [snapshotService,held,entry,snapshotItems]
  · simp [snapshotService,entry]

theorem unique_snapshotService (a : KnativeAdoption) (svc : Service) (unique : Unique a.status.sourceSnapshot) :
    Unique (snapshotService a svc).status.sourceSnapshot := by
  refine unique_of_items unique (fun kind => ?_)
  cases held : a.status.sourceSnapshot <;> simp [snapshotService,held,snapshotItems]

theorem recorded_snapshotReplicas (ns : String) (a : KnativeAdoption) (current : Int) :
    Recorded ns a.status.sourceSnapshot (snapshotReplicas a current).status.sourceSnapshot .replicas
      (.replicas current) := by
  cases recorded : a.status.sourceSnapshot.bind (fun snapshot => snapshot.replicas) with
  | some count =>
    have same : snapshotReplicas a current = a := by simp only [snapshotReplicas,recorded]
    rw [same]
    exact ⟨fun j => Or.inl rfl,by simp [entry,recorded]⟩
  | none =>
    have written : (snapshotReplicas a current).status.sourceSnapshot =
        some { a.status.sourceSnapshot.getD {} with replicas := some current } := by
      simp only [snapshotReplicas,recorded,withSnapshot_snapshot]
    rw [written]
    constructor
    · intro j
      cases j with
      | replicas => exact Or.inr ⟨rfl,by simp [entry,recorded],rfl⟩
      | service =>
        left
        cases held : a.status.sourceSnapshot <;> simp [entry]
      | traffic key =>
        left
        cases held : a.status.sourceSnapshot <;> simp [entry,snapshotItems]
    · simp [entry]

theorem unique_snapshotReplicas (a : KnativeAdoption) (current : Int) (unique : Unique a.status.sourceSnapshot) :
    Unique (snapshotReplicas a current).status.sourceSnapshot := by
  unfold snapshotReplicas
  split
  · exact unique
  · refine unique_of_items unique (fun kind => ?_)
    cases held : a.status.sourceSnapshot <;> simp [held,snapshotItems]

theorem snapshotItems_ensureTrafficSnapshot (a : KnativeAdoption) (kind : TrafficKind) :
    snapshotItems (ensureTrafficSnapshot a).status.sourceSnapshot kind =
      snapshotItems a.status.sourceSnapshot kind := by
  unfold ensureTrafficSnapshot
  rw [withSnapshot_snapshot]
  cases held : a.status.sourceSnapshot with
  | none => simp [snapshotItems]
  | some snapshot => cases recorded : snapshot.traffic <;> simp [snapshotItems,recorded]

theorem snapshotItems_append (a : KnativeAdoption) (kind other : TrafficKind) (item : TrafficObjectSnapshot) :
    snapshotItems (a.withSnapshot (fun snapshot => { snapshot with
      traffic := some ((snapshot.traffic.getD {}).append kind item) })).status.sourceSnapshot other =
      snapshotItems a.status.sourceSnapshot other ++ (if other = kind then [item] else []) := by
  simp only [snapshotItems,withSnapshot_snapshot,Option.bind_some,Option.getD_some]
  rw [items_append]
  cases a.status.sourceSnapshot <;> rfl

/-- An object is recorded under a name only where there is none of that name. -/
theorem unique_snapshotTrafficOnce (kind : TrafficKind) (a : KnativeAdoption) (name : String) (body : Obj GoNumber)
    (unique : Unique a.status.sourceSnapshot) :
    Unique (snapshotTrafficOnce kind a name body).1.status.sourceSnapshot := by
  have ensured : Unique (ensureTrafficSnapshot a).status.sourceSnapshot :=
    unique_of_items unique (snapshotItems_ensureTrafficSnapshot a)
  unfold snapshotTrafficOnce
  split
  · exact unique
  · dsimp only
    split
    · exact ensured
    next absent =>
      split
      · exact ensured
      next spec _ =>
        intro other
        dsimp only
        rw [snapshotItems_append]
        by_cases same : other = kind
        · subst same
          rw [if_pos rfl,List.map_append]
          refine List.nodup_append.mpr ⟨ensured other,by simp,?_⟩
          rintro x inside y last rfl
          obtain ⟨item,member,named⟩ := List.mem_map.mp inside
          rw [trafficItems_eq] at absent
          exact absent (List.any_eq_true.mpr ⟨item,member,by simpa [named] using last⟩)
        · rw [if_neg same,List.append_nil]
          exact ensured other

theorem entry_ensureTrafficSnapshot (ns : String) (a : KnativeAdoption) :
    entry ns (ensureTrafficSnapshot a).status.sourceSnapshot = entry ns a.status.sourceSnapshot := by
  funext i
  unfold ensureTrafficSnapshot
  rw [withSnapshot_snapshot]
  cases held : a.status.sourceSnapshot with
  | none => cases i <;> simp [entry,snapshotItems]
  | some snapshot => cases recorded : snapshot.traffic <;> cases i <;> simp [entry,snapshotItems,recorded]

theorem sameLedger_snapshotTrafficOnce (kind : TrafficKind) (a : KnativeAdoption) (name : String)
    (body : Obj GoNumber) : (snapshotTrafficOnce kind a name body).1.toObjectMeta = a.toObjectMeta ∧
      (snapshotTrafficOnce kind a name body).1.spec = a.spec := by
  unfold snapshotTrafficOnce
  split
  · exact ⟨rfl,rfl⟩
  · dsimp only
    split
    · exact ⟨rfl,rfl⟩
    · split <;> exact ⟨rfl,rfl⟩

theorem rawSpecSnapshot_stored (o : TrafficObject) (spec : RawExtension)
    (read : rawSpecSnapshot (o.body.map Literal.read) = .ok spec) : spec = o.spec := by
  unfold rawSpecSnapshot at read
  unfold TrafficObject.spec
  rw [Obj.get_map] at read
  cases held : o.body.get "spec" with
  | none =>
    simp only [held,Option.map_none] at read
    cases read
    rfl
  | some value =>
    simp only [held,Option.map_some] at read
    cases value with
    | obj keys vals =>
      have round := Obj.encode_read ⟨keys,vals⟩
      simp only [Json.map,Json.asObj] at read
      cases read
      exact congrArg some round
    | null | bool | num | str | arr => cases read

/-- Looking at a stored object either fails without new entries or records its spec. -/
theorem recorded_snapshotTrafficOnce (ns : String) (kind : TrafficKind) (a : KnativeAdoption) (name : String)
    (o : TrafficObject) (named : name ≠ "") :
    (∃ err, (snapshotTrafficOnce kind a name (o.body.map Literal.read)).2 = .error err ∧
      entry ns (snapshotTrafficOnce kind a name (o.body.map Literal.read)).1.status.sourceSnapshot =
        entry ns a.status.sourceSnapshot) ∨
    ((snapshotTrafficOnce kind a name (o.body.map Literal.read)).2 = .ok () ∧
      Recorded ns a.status.sourceSnapshot
        (snapshotTrafficOnce kind a name (o.body.map Literal.read)).1.status.sourceSnapshot
        (.traffic ⟨kind,⟨ns,name⟩⟩) (.traffic o.spec)) := by
  have ensured := entry_ensureTrafficSnapshot ns a
  unfold snapshotTrafficOnce
  simp only [named,if_false]
  split
  next has =>
    refine Or.inr ⟨rfl,fun j => Or.inl (congrFun ensured j),?_⟩
    rw [trafficItems_eq] at has
    simp only [entry,if_true]
    intro missing
    rw [Option.map_eq_none_iff,List.find?_eq_none] at missing
    obtain ⟨item,member,same⟩ := List.any_eq_true.mp has
    exact missing item member same
  next absent =>
    cases read : rawSpecSnapshot (o.body.map Literal.read) with
    | error err => exact Or.inl ⟨err,rfl,ensured⟩
    | ok spec =>
      have value := rawSpecSnapshot_stored o spec read
      subst value
      refine Or.inr ⟨rfl,?_⟩
      rw [trafficItems_eq] at absent
      have missing : (snapshotItems (ensureTrafficSnapshot a).status.sourceSnapshot kind).find?
          (fun item => item.name = name) = none := by
        rw [List.find?_eq_none]
        intro item member same
        exact absent (List.any_eq_true.mpr ⟨item,member,same⟩)
      have items (other : TrafficKind) := snapshotItems_append (ensureTrafficSnapshot a) kind other ⟨name,o.spec⟩
      constructor
      · intro j
        rw [← congrFun ensured j]
        cases j with
        | service => exact Or.inl rfl
        | replicas => exact Or.inl rfl
        | traffic key =>
          simp only [entry]
          by_cases here : key.key.ns = ns
          · simp only [here,if_true,items,List.find?_append]
            by_cases same : key.kind = kind ∧ key.key.name = name
            · refine Or.inr ⟨?_,?_,?_⟩
              · obtain ⟨k,⟨n,m⟩⟩ := key
                simp_all
              · rw [same.1,same.2,missing]
                rfl
              · simp [same.1,same.2,missing]
            · left
              by_cases kinds : key.kind = kind
              · have other : name ≠ key.key.name := fun equal => same ⟨kinds,equal.symm⟩
                simp [kinds,other]
              · simp [kinds]
          · exact Or.inl (by simp [here])
      · simp only [entry,if_true,items,List.find?_append,missing]
        simp

/-! The calls on adoptions. -/

theorem patchFinalizers_live (c : Cluster) (st : KnativeAdoption) (key : NamespacedName) (finalizers : List String)
    (held : c.adoptions.get key = some st) (live : st.deleting = false) :
    c.patchFinalizers key finalizers = ({ c with adoptions := c.adoptions.put { st with finalizers := finalizers } },
      .ok { st with finalizers := finalizers }) := by
  simp [Cluster.patchFinalizers,held,addsFinalizer,live]

/-- Finalizers are patched on a live adoption; nothing else of it changes, and a
response carries what is stored then. -/
theorem serve_patchFinalizers (fault : Fault String) (c : Cluster) (st : KnativeAdoption) (key : NamespacedName)
    (finalizers : List String) (held : c.adoptions.get key = some st) (live : st.deleting = false) :
    ∃ next, (apiserver.serve fault c (.patchFinalizers key finalizers)).1.adoptions.get key = some next ∧
      next.spec = st.spec ∧ next.deleting = false ∧ next.status = st.status ∧
      ∀ b, (apiserver.serve fault c (.patchFinalizers key finalizers)).2 = .ok b →
        b = next ∧ next.finalizers = finalizers := by
  have same : key = st.key := (c.adoptions.keyed _ _ held).symm
  have effect := patchFinalizers_live c st key finalizers held live
  have written : (c.patchFinalizers key finalizers).1.adoptions.get key =
      some { st with finalizers := finalizers } := by
    rw [effect]
    exact if_pos same
  cases fault with
  | refused error => exact ⟨st,held,rfl,live,rfl,fun b answer => by cases answer⟩
  | lost error => exact ⟨_,written,rfl,live,rfl,fun b answer => by cases answer⟩
  | none =>
    refine ⟨_,written,rfl,live,rfl,fun b answer => ?_⟩
    change (c.patchFinalizers key finalizers).2 = .ok b at answer
    rw [effect] at answer
    exact ⟨(Except.ok.inj answer).symm,rfl⟩

theorem mergeField_same {α : Type} [DecidableEq α] (stored current : α) : mergeField stored stored current = current := by
  unfold mergeField
  split
  next same => exact same
  next other => rfl

theorem mergeOption_same {α : Type} [DecidableEq α] (merge : α → α → α → α) (zero : α)
    (fresh : ∀ x y, merge x x y = y) (stored current : Option α) :
    mergeOption merge zero stored stored current = current := by
  unfold mergeOption
  cases current with
  | none =>
    cases stored <;> rfl
  | some new =>
    dsimp only
    split
    next same => exact same
    next other => rw [fresh]

/-- A patch computed against the stored snapshot stores the new one. -/
theorem mergeStatus_snapshot (stored original current : KnativeAdoptionStatus)
    (same : stored.sourceSnapshot = original.sourceSnapshot) :
    (mergeStatus stored original current).sourceSnapshot = current.sourceSnapshot := by
  have traffic (x y : TrafficSnapshot) : mergeTrafficSnapshot x x y = y := by
    simp [mergeTrafficSnapshot,mergeField_same]
  have source (x y : SourceSnapshot) : mergeSourceSnapshot x x y = y := by
    simp [mergeSourceSnapshot,mergeField_same,mergeOption_same _ _ traffic]
  simp only [mergeStatus,same]
  exact mergeOption_same _ _ source _ _

/-- A status patch changes nothing but a status. -/
theorem serve_patchStatus_status (fault : Fault String) (c : Cluster) (original current : KnativeAdoption)
    (key : NamespacedName) : ∃ f : KnativeAdoptionStatus → KnativeAdoptionStatus,
      (apiserver.serve fault c (.patchStatus original current)).1.adoptions.get key =
        (c.adoptions.get key).map (fun st => { st with status := f st.status }) := by
  rcases apiserver.serve_state fault c (.patchStatus original current) with same | ⟨same,_⟩
  · exact ⟨id,by rw [same]; simp⟩
  · rw [same]
    change ∃ f, (c.patchStatus original current).1.adoptions.get key = _
    unfold Cluster.patchStatus
    cases found : c.adoptions.get current.key with
    | none => exact ⟨id,by simp⟩
    | some stored =>
      have filed : stored.key = current.key := c.adoptions.keyed _ _ found
      by_cases here : key = stored.key
      · refine ⟨fun status => mergeStatus status original.status current.status,?_⟩
        rw [here,filed,found]
        exact if_pos filed.symm
      · refine ⟨id,(if_neg here).trans ?_⟩
        simp

theorem serve_patchStatus (fault : Fault String) (c : Cluster) (original current : KnativeAdoption)
    (key : NamespacedName) : ∃ f : KnativeAdoption → KnativeAdoption, (∀ st, (f st).toObjectMeta = st.toObjectMeta) ∧
      (apiserver.serve fault c (.patchStatus original current)).1.adoptions.get key = (c.adoptions.get key).map f := by
  obtain ⟨f,after⟩ := serve_patchStatus_status fault c original current key
  exact ⟨fun st => { st with status := f st.status },fun _ => rfl,after⟩

theorem patchStatus_stored (c : Cluster) (original current st : KnativeAdoption)
    (held : c.adoptions.get current.key = some st)
    (same : st.status.sourceSnapshot = original.status.sourceSnapshot) :
    ∃ next, (c.patchStatus original current).1.adoptions.get current.key = some next ∧
      next.toObjectMeta = st.toObjectMeta ∧ next.spec = st.spec ∧
      next.status.sourceSnapshot = current.status.sourceSnapshot := by
  refine ⟨{ st with status := mergeStatus st.status original.status current.status },?_,rfl,rfl,
    mergeStatus_snapshot _ _ _ same⟩
  have key : st.key = current.key := c.adoptions.keyed _ _ held
  simp only [Cluster.patchStatus,held,Store.get_put]
  rw [if_pos]
  exact key.symm

end Ifaas
