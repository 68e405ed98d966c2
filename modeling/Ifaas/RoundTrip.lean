import Ifaas.Takeover
import Ifaas.Teardown

/-! Adoption and release as a round trip. Adoption passes in which every call is answered
leave a stored snapshot that covers what they changed, and both finalizers; the release
then writes the snapshot back. Only the Service that is rebuilt is not the old one: it
carries a mark by which a second adoption passes over it. -/
namespace Ifaas
open Library

/-! Passes that are answered leave both finalizers stored. -/

section Guards
variable {r : KnativeAdoptionReconciler} {key : NamespacedName} {c d : Cluster} {log : CallLog}

theorem guarded_run {α : Type} {parts : List Part} (p : Op α) (within : Within parts p) (outside : .adoptions ∉ parts)
    (guarded : Guarded key c) (out : Option α) (run : Run apiserver Drift p c log out d) : Guarded key d := by
  have kept : Ensures apiserver Drift (fun e _ => Guarded key e) p (fun _ e _ => Guarded key e) c [] :=
    ensures_uses _ (fun _ _ _ moved held => held.drift moved)
      (fun _ _ fault request fine held => held.serve fault request (fun part => outside (fine _ part)))
      p within c [] guarded
  exact (kept log out d run).1

theorem Guarded.patchStatus (guarded : Guarded key c) (fault : Fault String) (original current : KnativeAdoption) :
    Guarded key (apiserver.serve fault c (.patchStatus original current)).1 := by
  obtain ⟨f,metadata,after⟩ := serve_patchStatus fault c original current key
  obtain ⟨st,held,first,second⟩ := guarded
  refine ⟨f st,by rw [after,held]; rfl,?_,?_⟩
  · rw [metadata st]
    exact first
  · rw [metadata st]
    exact second

theorem guarded_patchStatus (guarded : Guarded key c) (original current : KnativeAdoption)
    (out : Option (Except ApiError Unit)) (run : Run apiserver Drift (patchStatus original current) c log out d) :
    Guarded key d := by
  unfold patchStatus at run
  split at run
  · rw [(run_pure run).2.1]
    exact guarded
  · rcases run_call run with ⟨_,_,rfl⟩ | ⟨m,fault,rest,moved,_,following⟩
    · exact guarded
    · rw [(run_pure following).2.1]
      exact (guarded.drift moved).patchStatus fault original current

theorem within_reconcileAdoption (r : KnativeAdoptionReconciler) (a : KnativeAdoption) :
    Within [.services,.traffic,.ksvcs,.deployments] (reconcileAdoption r a) := by
  refine within_bind (within_mono _ (within_getSourceDeployment a) (by simp)) (fun found => ?_)
  rcases found with err | _ | dep
  · exact within_pure _
  · exact within_pure _
  · refine within_bind (within_mono _ (within_maybeRunGuard r _) (by simp)) (fun b => ?_)
    split
    · exact within_pure _
    next ksvc _ =>
      refine within_bind (within_mono _ (within_swapService _) (by simp)) (fun result => ?_)
      obtain ⟨b,err | decision⟩ := result
      · exact within_pure _
      · cases decision with
        | refused | takenOver => exact within_pure _
        | pass =>
          refine within_bind (within_mono _ (within_adaptTraffic b) (by simp)) (fun adapted => ?_)
          cases adapted with
          | error ended => exact within_pure _
          | ok b =>
            dsimp only
            unfold applyAdopted
            split
            · exact within_pure _
            · refine within_bind (within_mono _ (within_applyKnativeService _) (by simp)) (fun applied => ?_)
              cases applied with
              | error err => exact within_pure _
              | ok done => exact within_mono _ (within_awaitKService r _ dep _) (by simp)

/-- Nothing but a failed call keeps a live adoption from its finalizers. -/
theorem ensureFinalizers_answered (a : KnativeAdoption) (err : ApiError) (held : c.adoptions.get a.key = some a)
    (live : a.deleting = false) (clean : Clean log) :
    ¬ Run apiserver Drift (ensureFinalizers a) c log (some (.error err)) d := by
  intro run
  unfold ensureFinalizers at run
  dsimp only at run
  split at run
  · cases (run_return run).2.2
  · generalize addFinalizer (addFinalizer a.finalizers finalizerRestoreSourceService) finalizerRestoreSource = sent
      at run
    obtain ⟨answer,e,first,rest,rfl,asked,following⟩ := run_bind_some run
    · obtain ⟨m,fault,moved,rfl,served⟩ := run_request asked
      obtain ⟨conditions,after⟩ := moved.adoptions a.key
      rw [held] at after
      have answered : fault = .none := clean (apiserver.event fault m (.patchFinalizers a.key sent)) (by simp)
      subst answered
      have fine : answer = .ok _ := congrArg Prod.snd (served.symm.trans (patchFinalizers_live m _ a.key sent after live))
      subst fine
      cases (run_return following).2.2

/-- A pass over a live adoption in which every call is answered stores both finalizers. -/
theorem guarded_pass (st : KnativeAdoption) (held : c.adoptions.get key = some st) (live : st.deleting = false)
    (out : Result × Option ApiError) (run : Run apiserver Drift (reconcile r key) c log (some out) d)
    (clean : Clean log) : Guarded key d := by
  have alive (other : KnativeAdoption) (found : c.adoptions.get key = some other) : other.deleting = false := by
    cases held.symm.trans found
    exact live
  obtain ⟨answer,e,first,rest,rfl,asked,following⟩ := run_bind_some run
  · cases answer with
    | error err =>
      obtain ⟨m,fault,moved,rfl,served⟩ := run_request asked
      have answered : fault = .none := clean (apiserver.event fault m (.getAdoption key)) (by simp)
      subst answered
      obtain ⟨conditions,after⟩ := moved.adoptions key
      rw [found_error (congrArg Prod.snd served),held] at after
      cases after
    | ok a =>
      obtain ⟨found,same,flag⟩ := run_getAdoption a alive asked
      simp only [flag,Bool.false_eq_true,if_false] at following
      obtain ⟨answer,m,second,more,rfl,ensured,adopting⟩ := run_bind_some following
      · have quiet : Clean second := fun event member => clean event (by simp [member])
        cases answer with
        | error err => exact absurd ensured (ensureFinalizers_answered a err (by rw [same]; exact found) flag quiet)
        | ok b =>
          have guarded := (guarded_ensureFinalizers a b e m second (by rw [same]; exact found) flag ensured).1
          rw [same] at guarded
          obtain ⟨done,f,third,last,_,adopted,closing⟩ := run_bind_some adopting
          · have still := guarded_run _ (within_reconcileAdoption r b) (by simp) guarded _ adopted
            obtain ⟨reply,g,fourth,fifth,_,patched,ended⟩ := run_bind_some closing
            · have final := guarded_patchStatus still _ _ _ patched
              cases reply <;> (rw [(run_pure ended).2.1]; exact final)

end Guards

/-! A whole cycle: adoption passes in which every call is answered, the deletion of the
adoption, and passes that release it, whatever happens to their calls. -/

structure Cycle (r : KnativeAdoptionReconciler) (a0 : KnativeAdoption) (c0 : Cluster)
    (adopting : List (Pass Request Response String Cluster (Result × Option ApiError))) (c1 : Cluster)
    (releasing : List (Pass Request Response String Cluster (Result × Option ApiError))) (c : Cluster) : Prop where
  held : c0.adoptions.get a0.key = some a0
  live : a0.deleting = false
  fresh : a0.status.sourceSnapshot = none
  adopt : Passes apiserver Drift (reconcile r a0.key) c0 adopting c1
  some_ : adopting ≠ []
  answered : ∀ pass ∈ adopting, pass.out ≠ none ∧ Clean pass.log
  release : Passes apiserver Drift (reconcile r a0.key) (c1.deleteAdoption a0.key).1 releasing c

section Cycles
variable {r : KnativeAdoptionReconciler} {a0 : KnativeAdoption} {c0 c1 c : Cluster}
  {adopting releasing : List (Pass Request Response String Cluster (Result × Option ApiError))}

theorem adopted_passes (start : Kept c0 a0 c0) (run : Passes apiserver Drift (reconcile r a0.key) c0 adopting c)
    (answered : ∀ pass ∈ adopting, pass.out ≠ none ∧ Clean pass.log) :
    Kept c0 a0 c ∧ (adopting ≠ [] → Guarded a0.key c) := by
  induction run with
  | start => exact ⟨start,fun some_ => absurd rfl some_⟩
  | drift t u passes before moved ih =>
    obtain ⟨kept,guarded⟩ := ih answered
    exact ⟨kept.drift moved,fun some_ => (guarded some_).drift moved⟩
  | pass t u passes log out before ran ih =>
    obtain ⟨kept,_⟩ := ih (fun pass member => answered pass (List.mem_append_left _ member))
    obtain ⟨returned,clean⟩ := answered ⟨t,log,out⟩ (by simp)
    obtain ⟨value,rfl⟩ := Option.ne_none_iff_exists'.mp returned
    obtain ⟨st,held,_,live,_⟩ := kept.stored
    exact ⟨kept.clean r value ran clean,fun _ => guarded_pass st held live value ran clean⟩

theorem deleteAdoption_finalized (c : Cluster) (key : NamespacedName) (st : KnativeAdoption)
    (held : c.adoptions.get key = some st) (some_ : st.finalizers ≠ []) :
    (c.deleteAdoption key).1 = { c with adoptions := c.adoptions.put { st with deleting := true } } := by
  simp [Cluster.deleteAdoption,held,some_]

/-- What a cycle leaves is read off the snapshot that was stored when the adoption was
deleted, and that snapshot covers what the adoption changed. -/
structure Settled (c0 : Cluster) (a0 : KnativeAdoption) (c1 : Cluster) (a : KnativeAdoption) : Prop where
  key : a.key = a0.key
  spec : a.spec = a0.spec
  scope : Scope a0 a.status.sourceSnapshot
  covers : Covers (image a0 c0) (image a0 c1) (entry a0.ns a.status.sourceSnapshot)
  fading : Fading c0 a0 c1

theorem Cycle.settles (cycle : Cycle r a0 c0 adopting c1 releasing c) :
    ∃ a, Settled c0 a0 c1 a ∧ Releasing withoutAddresses False a c ⟨replayTraffic c1.traffic (trafficEntries a),
      (restoredService a c1).map withoutAddresses,restoredDeployment a (c1.deployments.get (sourceKey a0))⟩ := by
  obtain ⟨kept,guards⟩ := adopted_passes (Kept.start cycle.held cycle.live cycle.fresh) cycle.adopt cycle.answered
  obtain ⟨st,held,spec,live,scope,covers⟩ := kept.stored
  obtain ⟨other,found,first,second⟩ := guards cycle.some_
  cases held.symm.trans found
  have key : st.key = a0.key := c1.adoptions.keyed _ _ held
  generalize marked : ({ st with deleting := true } : KnativeAdoption) = a
  have same : a.key = a0.key := by rw [← marked]; exact key
  have source : sourceKey a = sourceKey a0 := by
    have ns : a.ns = a0.ns := congrArg NamespacedName.ns same
    have name : a.name = a0.name := congrArg NamespacedName.name same
    have keeps : a.spec = a0.spec := by rw [← marked]; exact spec
    simp only [sourceKey,sourceName,keeps,ns,name]
  have state : (c1.deleteAdoption a0.key).1 = { c1 with adoptions := c1.adoptions.put a } := by
    rw [deleteAdoption_finalized c1 a0.key st held (List.ne_nil_of_mem first),marked]
  have stored : (c1.adoptions.put a).get a.key = some a := if_pos rfl
  have finalizers : a.finalizers = st.finalizers := by rw [← marked]
  refine ⟨a,⟨same,by rw [← marked]; exact spec,by rw [← marked]; exact scope,by rw [← marked]; exact covers,
    kept.fading⟩,?_⟩
  have start := Releasing.begin withoutAddresses False a { c1 with adoptions := c1.adoptions.put a } stored
    (by rw [← marked]) (fun either => either.elim False.elim (absurd (by rw [finalizers]; exact first)))
  have run := cycle.release
  rw [state,← same] at run
  have reached := releasing_passes (fun _ _ moved => moved) (fun _ _ moved held => held.drift moved) r start releasing run
  have pending : finalizersOf a { c1 with adoptions := c1.adoptions.put a } = st.finalizers := by
    unfold finalizersOf
    rw [stored]
    exact finalizers
  have goal : outcome withoutAddresses a { c1 with adoptions := c1.adoptions.put a } =
      ⟨replayTraffic c1.traffic (trafficEntries a),(restoredService a c1).map withoutAddresses,
        restoredDeployment a (c1.deployments.get (sourceKey a0))⟩ := by
    unfold outcome
    rw [pending,if_pos first,if_pos first,if_pos second,source]
    rfl
  rw [goal] at reached
  exact reached

/-! What the snapshot brings back. -/

/-- The Deployment gets the replicas it asked for and keeps the rest of its spec. -/
theorem Settled.deployment {a : KnativeAdoption} (settled : Settled c0 a0 c1 a) (dep0 : Deployment)
    (held : c0.deployments.get (sourceKey a0) = some dep0) :
    ∃ dep, restoredDeployment a (c1.deployments.get (sourceKey a0)) = some dep ∧
      (dep.spec = dep0.spec ∨ dep.spec = { dep0.spec with replicas := some dep0.spec.effectiveReplicas }) := by
  have origin : image a0 c0 .replicas = replicasImage dep0 := by simp [image,held]
  have source := settled.fading.source
  rw [held] at source
  cases recorded : a.status.sourceSnapshot.bind (fun s => s.replicas) with
  | some target =>
    have faithful := settled.covers.faithful .replicas (.replicas target) (by simp [entry,recorded])
    rw [origin] at faithful
    have count : dep0.spec.effectiveReplicas = target := by
      unfold replicasImage at faithful
      split at faithful
      · cases faithful
      · simpa using faithful
    simp only [restoredDeployment,recorded]
    rcases source with same | ⟨dep,n,equal,same⟩
    · exact ⟨releasedDeployment dep0 target,by rw [same]; rfl,Or.inr (by rw [count]; rfl)⟩
    · cases equal
      exact ⟨_,by rw [same]; rfl,Or.inr (by rw [count]; rfl)⟩
  | none =>
    have intact := settled.covers.intact .replicas (by simp [entry,recorded])
    rw [origin] at intact
    simp only [restoredDeployment,recorded]
    rcases source with same | ⟨dep,n,equal,same⟩
    · exact ⟨dep0,same,Or.inl rfl⟩
    · cases equal
      refine ⟨_,same,Or.inr ?_⟩
      have count : n = dep0.spec.effectiveReplicas := by
        simp only [image,same,Option.bind_some,replicasImage,DeploymentSpec.effectiveReplicas,Option.getD_some] at intact
        by_cases zero : n = 0
        · by_cases empty : dep0.spec.replicas.getD 1 = 0
          · rw [zero]
            exact empty.symm
          · simp [zero,empty] at intact
        · by_cases empty : dep0.spec.replicas.getD 1 = 0
          · simp [zero,empty] at intact
          · simpa [zero,empty,DeploymentSpec.effectiveReplicas] using intact
      rw [count]

theorem image_service_none (a : KnativeAdoption) (c : Cluster) (vacant : image a c .service = none) :
    (c.services.get a.key).filter (fun svc => !knativeOwned svc) = none := by
  cases held : c.services.get a.key with
  | none => rfl
  | some svc =>
    cases owned : knativeOwned svc with
    | true => simp [Option.filter,owned]
    | false => simp [image,held,serviceImage,owned] at vacant

/-- With the Service out of the way, what comes back is the recorded one. -/
theorem Settled.rebuilt {a : KnativeAdoption} (settled : Settled c0 a0 c1 a) (svc0 : Service)
    (held : c0.services.get a0.key = some svc0) (free : knativeOwned svc0 = false)
    (vacant : image a0 c1 .service = none) :
    restoredService a c1 = some (c1.allocate (rebuiltService a svc0.spec.stripAddresses)) := by
  have origin : image a0 c0 .service = some (.service svc0.spec.stripAddresses) := by
    simp [image,held,serviceImage,free]
  have entered : entry a0.ns a.status.sourceSnapshot .service = some (.service svc0.spec.stripAddresses) := by
    rw [← origin]
    refine settled.covers.entry_eq .service (fun missing => ?_)
    rw [settled.covers.intact .service missing,origin] at vacant
    cases vacant
  unfold restoredService
  rw [settled.key,image_service_none a0 c1 vacant,entry_service entered]
  rfl

/-- The Service comes back with its spec, addresses aside. -/
theorem Settled.service {a : KnativeAdoption} (settled : Settled c0 a0 c1 a) (svc0 : Service)
    (held : c0.services.get a0.key = some svc0) (free : knativeOwned svc0 = false) :
    ∃ svc, restoredService a c1 = some svc ∧ svc.spec.stripAddresses = svc0.spec.stripAddresses := by
  have origin : image a0 c0 .service = some (.service svc0.spec.stripAddresses) := by
    simp [image,held,serviceImage,free]
  cases present : image a0 c1 .service with
  | none =>
    refine ⟨_,settled.rebuilt svc0 held free present,?_⟩
    exact congrArg Service.spec (withoutAddresses_allocate c1 (rebuiltService a svc0.spec.stripAddresses))
  | some v =>
    have before := settled.fading.images .service v (Or.inl rfl) present
    rw [origin] at before
    cases before
    cases found : c1.services.get a0.key with
    | none => simp [image,found] at present
    | some svc =>
      cases owned : knativeOwned svc with
      | true => simp [image,found,serviceImage,owned] at present
      | false =>
        refine ⟨svc,?_,by simpa [image,found,serviceImage,owned] using present⟩
        unfold restoredService
        rw [settled.key,found]
        simp [Option.filter,owned]

/-- Where there was no Service there is none. -/
theorem Settled.absent {a : KnativeAdoption} (settled : Settled c0 a0 c1 a) (missing : c0.services.get a0.key = none) :
    restoredService a c1 = none := by
  have origin : image a0 c0 .service = none := by simp [image,missing]
  have vacant : image a0 c1 .service = none := by
    by_contra present
    obtain ⟨v,held⟩ := Option.ne_none_iff_exists'.mp present
    rw [settled.fading.images .service v (Or.inl rfl) held] at origin
    cases origin
  have unrecorded : a.status.sourceSnapshot.bind (fun s => s.service) = none := by
    by_contra recorded
    obtain ⟨spec,held⟩ := Option.ne_none_iff_exists'.mp recorded
    have faithful := settled.covers.faithful .service (.service spec) (by simp [entry,held])
    rw [origin] at faithful
    cases faithful
  unfold restoredService
  rw [settled.key,image_service_none a0 c1 vacant,unrecorded]
  rfl

/-- The spec has no null and no integer beyond the exact range of a float64. -/
def PlainSpec (spec : RawExtension) : Prop :=
  ∀ o, spec = some o → o.json.NoNull ∧ o.json.EachNum Literal.Exact

instance (spec : RawExtension) : Decidable (PlainSpec spec) :=
  match spec with
  | none => isTrue nofun
  | some o => decidable_of_iff (o.json.NoNull ∧ o.json.EachNum Literal.Exact)
      ⟨fun fine _ same => Option.some.inj same ▸ fine,fun plain => plain o rfl⟩

theorem snapshotTarget_plain (spec : RawExtension) (plain : PlainSpec spec) : snapshotTarget spec = spec := by
  cases spec with
  | none => rfl
  | some o => exact congrArg some (Obj.encode_decode o (plain o rfl).2)

theorem restoredObject_spec (e : TrafficEntry) (o : Option TrafficObject)
    (clean : ∀ target, e.target = some target → target.json.NoNull) : (restoredObject e o).spec = e.target := by
  have read (body : Obj Literal) (held : body.get "spec" = e.target.map Obj.json) :
      (body.get "spec").bind Json.asObj = e.target := by
    rw [held]
    cases e.target <;> rfl
  cases o with
  | none => exact read (withSpec Obj.empty e.target) (by simp [get_withSpec])
  | some o =>
    refine read (respec o.body e.target) ?_
    rw [get_respec,if_pos rfl]
    cases target : e.target with
    | none => exact settleAt_none _
    | some t => exact settleAt_noNull _ _ (clean t target)

/-- The entries of one object in the list of its kind. -/
theorem listEntries_at (ns : String) (kind : TrafficKind) (items : List TrafficObjectSnapshot) (name : String)
    (unique : (items.map (fun item => item.name)).Nodup) (named : name ≠ "") :
    (listEntries ns kind items).filter (fun e => e.key = ⟨kind,⟨ns,name⟩⟩) =
      ((items.find? (fun item => item.name = name)).map
        (fun item => (⟨⟨kind,⟨ns,name⟩⟩,snapshotTarget item.spec⟩ : TrafficEntry))).toList := by
  induction items with
  | nil => rfl
  | cons item rest ih =>
    obtain ⟨fresh,others⟩ := List.nodup_cons.mp unique
    have later := ih others
    by_cases unnamed : item.name = ""
    · have other : item.name ≠ name := fun same => named (same.symm.trans unnamed)
      rw [listEntries_unnamed _ _ _ _ unnamed,later,List.find?_cons_of_neg (by simpa using other)]
    · rw [listEntries_named _ _ _ _ unnamed]
      by_cases here : item.name = name
      · have none_ : rest.find? (fun item => item.name = name) = none := by
          rw [List.find?_eq_none]
          intro other member same
          exact fresh (List.mem_map.mpr ⟨other,member,(of_decide_eq_true same).trans here.symm⟩)
        rw [none_] at later
        rw [List.filter_cons_of_pos (by simp [here]),later,List.find?_cons_of_pos (by simp [here]),here]
        rfl
      · rw [List.filter_cons_of_neg (by simp [here]),later,List.find?_cons_of_neg (by simp [here])]

theorem listEntries_other (ns : String) (kind : TrafficKind) (items : List TrafficObjectSnapshot) (key : TrafficKey)
    (other : key.kind ≠ kind) : (listEntries ns kind items).filter (fun e => e.key = key) = [] := by
  rw [List.filter_eq_nil_iff]
  intro e member same
  obtain ⟨item,_,rfl⟩ := List.mem_map.mp member
  exact other (congrArg TrafficKey.kind (of_decide_eq_true same)).symm

/-- The entry a snapshot has for an object is the one that is replayed on it. -/
theorem trafficEntries_at (a : KnativeAdoption) (kind : TrafficKind) (name : String)
    (unique : Unique a.status.sourceSnapshot) (named : name ≠ "") :
    (trafficEntries a).filter (fun e => e.key = ⟨kind,⟨a.ns,name⟩⟩) =
      (((snapshotItems a.status.sourceSnapshot kind).find? (fun item => item.name = name)).map
        (fun item => (⟨⟨kind,⟨a.ns,name⟩⟩,snapshotTarget item.spec⟩ : TrafficEntry))).toList := by
  unfold trafficEntries
  rw [List.filter_append]
  cases kind with
  | virtualService =>
    rw [listEntries_other _ .destinationRule _ _ (by simp),List.append_nil]
    exact listEntries_at _ _ _ _ (unique _) named
  | destinationRule =>
    rw [listEntries_other _ .virtualService _ _ (by simp),List.nil_append]
    exact listEntries_at _ _ _ _ (unique _) named

theorem trafficEntries_missing (a : KnativeAdoption) (key : TrafficKey)
    (missing : entry a.ns a.status.sourceSnapshot (.traffic key) = none) :
    (trafficEntries a).filter (fun e => e.key = key) = [] := by
  have none_ (kind : TrafficKind) : (listEntries a.ns kind (snapshotItems a.status.sourceSnapshot kind)).filter
      (fun e => e.key = key) = [] := by
    rw [List.filter_eq_nil_iff]
    intro e member same
    obtain ⟨item,inside,rfl⟩ := List.mem_map.mp member
    cases of_decide_eq_true same
    simp only [entry,if_true,Option.map_eq_none_iff,List.find?_eq_none] at missing
    exact missing item (List.mem_of_mem_filter inside) (by simp)
  unfold trafficEntries
  rw [List.filter_append,none_,none_]
  rfl

/-- Every traffic object has its spec back. -/
theorem Settled.traffic {a : KnativeAdoption} (settled : Settled c0 a0 c1 a) (key : TrafficKey) (o0 : TrafficObject)
    (held : c0.traffic.get key = some o0)
    (plain : key.key.ns = a0.ns → Declared a0 (.traffic key) → PlainSpec o0.spec) :
    ∃ o, (replayTraffic c1.traffic (trafficEntries a)).get key = some o ∧ o.spec = o0.spec := by
  have ns : a.ns = a0.ns := congrArg NamespacedName.ns settled.key
  have origin : image a0 c0 (.traffic key) = some (.traffic o0.spec) := by simp [image,held]
  have replayed := Store.get_replay restoredObject_key c1.traffic (trafficEntries a) key
  unfold replayTraffic
  rw [replayed]
  cases entered : entry a0.ns a.status.sourceSnapshot (.traffic key) with
  | none =>
    rw [trafficEntries_missing a key (by rw [ns]; exact entered)]
    have intact := settled.covers.intact (.traffic key) entered
    rw [origin] at intact
    obtain ⟨o,found,same⟩ := Option.map_eq_some_iff.mp intact
    exact ⟨o,found,Image.traffic.inj same⟩
  | some v =>
    have faithful := settled.covers.faithful (.traffic key) v entered
    rw [origin] at faithful
    cases faithful
    have declared := settled.scope.declared (.traffic key) (by simp [entered])
    obtain ⟨here,_⟩ := entry_traffic entered
    obtain ⟨clean,exactly⟩ : (∀ target, snapshotTarget o0.spec = some target → target.json.NoNull) ∧
        snapshotTarget o0.spec = o0.spec := by
      have fine := plain here declared
      rw [snapshotTarget_plain _ fine]
      exact ⟨fun target same => (fine target same).1,rfl⟩
    obtain ⟨kind,⟨space,name⟩⟩ := key
    have named : name ≠ "" := by cases kind <;> exact declared.2
    have local_ : space = a.ns := here.trans ns.symm
    subst local_
    simp only [entry,ns,if_true] at entered
    obtain ⟨item,found,same⟩ := Option.map_eq_some_iff.mp entered
    rw [trafficEntries_at a kind name settled.scope.unique named,found]
    refine ⟨restoredObject ⟨⟨kind,⟨a.ns,name⟩⟩,snapshotTarget o0.spec⟩ (c1.traffic.get ⟨kind,⟨a.ns,name⟩⟩),?_,?_⟩
    · rw [← Image.traffic.inj same]
      rfl
    · rw [restoredObject_spec _ _ clean]
      exact exactly

end Cycles

/-- The user's objects are back: the Deployment asks for its replicas again with the
rest of its spec as it was, the Service has its spec up to addresses or is absent, and
every traffic object has its spec. -/
structure Restored (a : KnativeAdoption) (before after : Cluster) : Prop where
  deployment : ∀ dep0, before.deployments.get (sourceKey a) = some dep0 →
    ∃ dep, after.deployments.get (sourceKey a) = some dep ∧
      (dep.spec = dep0.spec ∨ dep.spec = { dep0.spec with replicas := some dep0.spec.effectiveReplicas })
  service : ∀ svc0, before.services.get a.key = some svc0 → knativeOwned svc0 = false →
    ∃ svc, after.services.get a.key = some svc ∧ svc.spec.stripAddresses = svc0.spec.stripAddresses
  absent : before.services.get a.key = none → after.services.get a.key = none
  traffic : ∀ key o0, before.traffic.get key = some o0 → ∃ o, after.traffic.get key = some o ∧ o.spec = o0.spec

/-- Adoption and release give the user's objects back once both finalizers are gone, and
they go with the first pass that is answered after Knative is done. -/
theorem release_restores (r : KnativeAdoptionReconciler) (a0 : KnativeAdoption) (c0 c1 c : Cluster)
    (adopting releasing : List (Pass Request Response String Cluster (Result × Option ApiError)))
    (cycle : Cycle r a0 c0 adopting c1 releasing c)
    (plain : ∀ key o, c0.traffic.get key = some o → key.key.ns = a0.ns → Declared a0 (.traffic key) → PlainSpec o.spec) :
    (Freed a0 c → Restored a0 c0 c) ∧
      (Gone a0 c → ∀ log out d, Run apiserver Drift (reconcile r a0.key) c log (some out) d → Clean log → Freed a0 d) := by
  obtain ⟨a,settled,reached⟩ := cycle.settles
  have source : sourceKey a = sourceKey a0 := by
    have ns : a.ns = a0.ns := congrArg NamespacedName.ns settled.key
    have name : a.name = a0.name := congrArg NamespacedName.name settled.key
    simp only [sourceKey,sourceName,settled.spec,ns,name]
  have finalizers (d : Cluster) : finalizersOf a d = finalizersOf a0 d := by simp only [finalizersOf,settled.key]
  constructor
  · intro freed
    obtain ⟨traffic,service,deployment⟩ := reached.freed (by unfold Freed; rw [finalizers]; exact freed)
    rw [settled.key] at service
    rw [source] at deployment
    refine ⟨fun dep0 held => ?_,fun svc0 held free => ?_,fun missing => ?_,fun key o0 held => ?_⟩
    · rw [deployment]
      exact settled.deployment dep0 held
    · obtain ⟨old,restored,spec⟩ := settled.service svc0 held free
      rw [restored] at service
      obtain ⟨svc,found,same⟩ := Option.map_eq_some_iff.mp service
      exact ⟨svc,found,(congrArg Service.spec same).trans spec⟩
    · rw [settled.absent missing] at service
      simpa using service
    · rw [traffic]
      exact settled.traffic key o0 held (plain key o0 held)
  · intro gone log out d run clean
    rw [← settled.key] at run
    have pass := reached.pass (fun _ _ moved => moved) (fun _ _ moved held => held.drift moved) r log out run
    unfold Freed
    rw [← finalizers]
    refine pass.2 clean ?_
    unfold Gone
    rw [settled.key]
    exact gone

/-! The sample workload through a whole cycle: two adoption passes, the deletion, a pass
that waits for Knative, and one that releases. -/

/-- Knative removes a Knative Service that is marked. -/
theorem drift_removed (c : Cluster) (key : NamespacedName)
    (marked : (c.ksvcs.get key).all (fun k => k.deleting) = true) :
    Drift c { c with ksvcs := c.ksvcs.remove key } := by
  refine { Drift.refl c with ksvcs := fun other => ?_ }
  by_cases same : other = key
  · subst same
    simp only [Store.get_remove,if_true]
    cases held : c.ksvcs.get other with
    | none => rfl
    | some k => exact Or.inl ⟨by simpa [held] using marked,rfl⟩
  · simp only [Store.get_remove,same,if_false]
    exact (Drift.refl c).ksvcs other

namespace Sample

def adopting : List (Pass Request Response String Cluster (Result × Option ApiError)) × Cluster :=
  apiserver.execPasses pass [List.replicate 7 .none,List.replicate 11 .none] cluster

def waiting : CallLog × Option (Result × Option ApiError) × Cluster :=
  apiserver.exec pass (List.replicate 4 .none) (adopting.2.deleteAdoption adoption.key).1

def unserved : Cluster := { waiting.2.2 with ksvcs := waiting.2.2.ksvcs.remove adoption.key }

def released : CallLog × Option (Result × Option ApiError) × Cluster :=
  apiserver.exec pass (List.replicate 12 .none) unserved

theorem cycle : Cycle reconciler adoption cluster adopting.1 adopting.2
    [⟨(adopting.2.deleteAdoption adoption.key).1,waiting.1,waiting.2.1⟩,⟨unserved,released.1,released.2.1⟩]
    released.2.2 where
  held := rfl
  live := rfl
  fresh := rfl
  adopt := passes_exec apiserver Drift Drift.refl _ _ _
  some_ := nofun
  answered := by
    have all : (adopting.1.all (fun pass => pass.out.isSome && pass.log.all (fun e => e.fault = .none))) = true := by
      decide +kernel
    intro pass member
    have fine := List.all_eq_true.mp all pass member
    simp only [Bool.and_eq_true,List.all_eq_true,decide_eq_true_eq] at fine
    exact ⟨Option.isSome_iff_ne_none.mp fine.1,fine.2⟩
  release := by
    refine .pass _ _ _ [_] _ _ (.drift _ _ _ _ (.pass _ _ _ [] _ _ (.start _) (run_exec _ _ Drift.refl _ _ _)) ?_)
      (run_exec _ _ Drift.refl _ _ _)
    exact drift_removed _ _ (by decide +kernel)

end Sample

theorem release_restores_sample :
    (Sample.adopting.2.adoptions.get Sample.adoption.key).any (fun st => isCondTrue st .ready) = true ∧
      Sample.adopting.2.services.get Sample.adoption.key = none ∧
      (Sample.released.2.2.deployments.get Sample.adoption.key).map (fun dep => dep.spec.replicas) = some (some 3) ∧
      Restored Sample.adoption Sample.cluster Sample.released.2.2 := by
  refine ⟨by decide +kernel,by decide +kernel,by decide +kernel,?_⟩
  refine (release_restores Sample.reconciler Sample.adoption Sample.cluster _ _ _ _ Sample.cycle ?_).1
    ⟨by decide +kernel,by decide +kernel⟩
  intro key o held _ _
  have plain : PlainSpec Sample.destinationRule.spec := by decide +kernel
  change (if key = Sample.destinationRule.key then some Sample.destinationRule else none) = some o at held
  split at held
  · cases held
    exact plain
  · cases held

/-! The second adoption. -/

section Again
variable {r : KnativeAdoptionReconciler} {a0 : KnativeAdoption} {c0 c d : Cluster} {log : CallLog}
  {adopting : List (Pass Request Response String Cluster (Result × Option ApiError))}

/-- A run that creates no Service leaves the name free, and frees it when it deletes the
Service and every call is answered. -/
theorem vacant_run {α : Type} (p : Op α) (out : Option α) (run : Run apiserver Drift p c log out d)
    (only : ∀ e ∈ log, e.request.part = some .services → e.request = .deleteService a0.key) :
    (image a0 c .service = none → image a0 d .service = none) ∧
      (Clean log → (∃ e ∈ log, e.request = .deleteService a0.key) → image a0 d .service = none) := by
  induction run with
  | stop | done => exact ⟨fun vacant => vacant,by simp⟩
  | call request next s t u fault log out moved rest ih =>
    obtain ⟨keeps,frees⟩ := ih (fun e member => only e (List.mem_cons_of_mem _ member))
    have deletes (same : request = .deleteService a0.key) (took : fault = .none ∨ image a0 t .service = none) :
        image a0 (apiserver.serve fault t request).1 .service = none := by
      subst same
      rcases apiserver.serve_cases fault t (.deleteService a0.key) with ⟨state,refused⟩ | ⟨state,_⟩
      · rcases took with rfl | vacant
        · exact absurd nofun refused
        · rw [state]
          exact vacant
      · rw [state]
        exact image_deleteService a0 t
    have step (vacant : image a0 s .service = none) : image a0 (apiserver.serve fault t request).1 .service = none := by
      rw [← image_drift a0 s t moved] at vacant
      by_cases part : request.part = some .services
      · exact deletes (only _ List.mem_cons_self part) (Or.inr vacant)
      · simp only [image,serve_services fault t request part]
        exact vacant
    refine ⟨fun vacant => keeps (step vacant),fun clean taken => ?_⟩
    obtain ⟨e,member,deleted⟩ := taken
    rcases List.mem_cons.mp member with rfl | inside
    · exact keeps (deletes deleted (Or.inl (clean (apiserver.event fault t request) List.mem_cons_self)))
    · exact frees (fun e member => clean e (List.mem_cons_of_mem _ member)) ⟨e,inside,deleted⟩

theorem vacant_passes (start : Kept c0 a0 c0) (run : Passes apiserver Drift (reconcile r a0.key) c0 adopting c)
    (answered : ∀ pass ∈ adopting, pass.out ≠ none ∧ Clean pass.log)
    (taken : ∃ e ∈ history adopting, e.request = .deleteService a0.key) : image a0 c .service = none := by
  induction run with
  | start => simp [history] at taken
  | drift t u passes before moved ih =>
    rw [image_drift a0 t u moved]
    exact ih answered taken
  | pass t u passes log out before ran ih =>
    have earlier (pass : Pass Request Response String Cluster (Result × Option ApiError)) (member : pass ∈ passes) :=
      answered pass (List.mem_append_left _ member)
    obtain ⟨st,held,_,live,_⟩ := (adopted_passes start before earlier).1.stored
    have careful : Careful r a0.key t log := by
      refine careful_pass (fun other found => ?_) ran
      cases held.symm.trans found
      exact live
    have only (e : Event Request Response String Cluster) (member : e ∈ log) (part : e.request.part = some .services) :
        e.request = .deleteService a0.key := by
      obtain ⟨first,rest,rfl⟩ := List.append_of_mem member
      exact (careful.services first e rest rfl part).1.1
    obtain ⟨keeps,frees⟩ := vacant_run _ _ ran only
    rw [history_append] at taken
    obtain ⟨e,member,deleted⟩ := taken
    rcases List.mem_append.mp member with old | new
    · exact keeps (ih earlier ⟨e,old,deleted⟩)
    · exact frees (answered ⟨t,log,out⟩ (by simp)).2 ⟨e,new,deleted⟩

/-- A swap leaves a Service alone that carries the mark of a rebuilt one. -/
theorem swap_managed (b : KnativeAdoption) (svc : Service) (held : c.services.get b.key = some svc)
    (managed : svc.annotations.value annoServiceManagedBy = annoServiceManagedByValue)
    (free : knativeOwned svc = false) (out : Option (KnativeAdoption × Except ApiError SwapDecision))
    (run : Run apiserver Drift (swapService b) c log out d) :
    Calm [] log ∧ ∀ result, out = some result → result.1.status.sourceSnapshot = b.status.sourceSnapshot := by
  have still (m : Cluster) (moved : Drift c m) : m.services.get b.key = some svc := by
    rcases moved.services b.key with same | ⟨owned,_,_⟩
    · rw [same,held]
    · rw [owned svc held] at free
      cases free
  rcases run_bind _ _ _ _ _ _ run with ⟨rfl,asked⟩ | ⟨answer,e,first,rest,rfl,asked,following⟩
  · exact ⟨calm_run (within_read _ rfl) asked,fun result same => by cases same⟩
  · have ended (result : KnativeAdoption × Except ApiError SwapDecision)
        (same : result.1.status.sourceSnapshot = b.status.sourceSnapshot)
        (final : Run apiserver Drift (pure result) e rest out d) : Calm [] (first++rest) ∧
          ∀ result, out = some result → result.1.status.sourceSnapshot = b.status.sourceSnapshot := by
      obtain ⟨rfl,_,returned⟩ := run_pure final
      rw [List.append_nil]
      refine ⟨calm_run (within_read _ rfl) asked,fun value equal => ?_⟩
      rw [returned value equal]
      exact same
    obtain ⟨m,fault,moved,_,served⟩ := run_request asked
    have reply := congrArg Prod.snd served
    cases answer with
    | error err =>
      dsimp only at following
      split at following
      next missing =>
        have absent := getService_missing reply missing
        rw [still m moved] at absent
        cases absent
      next other => exact ended _ rfl following
    | ok found =>
      have same := getService_ok reply
      rw [still m moved] at same
      cases same
      simp only [swapFound,classify_managed svc managed] at following
      exact ended _ rfl following

end Again

/-- A Service that was taken over comes back with its spec but marked: it is not
classified as one to take over, and no later swap records or deletes it. -/
theorem readoption_passes_over (r : KnativeAdoptionReconciler) (a0 : KnativeAdoption) (c0 c1 c : Cluster)
    (adopting releasing : List (Pass Request Response String Cluster (Result × Option ApiError)))
    (cycle : Cycle r a0 c0 adopting c1 releasing c) (freed : Freed a0 c) (svc0 : Service)
    (held : c0.services.get a0.key = some svc0) (takenOver : classifyServiceForSwap (some svc0) = .takenOver)
    (taken : ∃ e ∈ history adopting, e.request = .deleteService a0.key) :
    ∃ svc, c.services.get a0.key = some svc ∧ svc.spec.stripAddresses = svc0.spec.stripAddresses ∧
      classifyServiceForSwap (some svc) = .pass "service already adopted" ∧
      ∀ b d log out e, b.key = a0.key → d.services.get a0.key = some svc →
        Run apiserver Drift (swapService b) d log out e →
        Calm [] log ∧ ∀ result, out = some result → result.1.status.sourceSnapshot = b.status.sourceSnapshot := by
  have free := classify_takenOver_unowned svc0 (by rw [takenOver]; rfl)
  have vacant := vacant_passes (Kept.start cycle.held cycle.live cycle.fresh) cycle.adopt cycle.answered taken
  obtain ⟨a,settled,reached⟩ := cycle.settles
  have finalizers : finalizersOf a c = finalizersOf a0 c := by simp only [finalizersOf,settled.key]
  obtain ⟨_,service,_⟩ := reached.freed (by unfold Freed; rw [finalizers]; exact freed)
  rw [settled.key,settled.rebuilt svc0 held free vacant] at service
  obtain ⟨svc,found,same⟩ := Option.map_eq_some_iff.mp service
  rw [withoutAddresses_allocate] at same
  have annotations : svc.annotations = [(annoServiceManagedBy,annoServiceManagedByValue)] :=
    congrArg (fun s => s.annotations) same
  have owners : svc.ownerReferences = [] := congrArg (fun s => s.ownerReferences) same
  have managed : svc.annotations.value annoServiceManagedBy = annoServiceManagedByValue := by
    rw [annotations]
    decide
  refine ⟨svc,found,congrArg Service.spec same,classify_managed svc managed,fun b d log out e named there run => ?_⟩
  refine swap_managed b svc (by rw [named]; exact there) managed ?_ out run
  simp [knativeOwned,ObjectMeta.controllerOf,owners]

theorem readoption_passes_over_sample :
    ∃ svc, Sample.released.2.2.services.get Sample.adoption.key = some svc ∧
      classifyServiceForSwap (some Sample.service) = .takenOver ∧ classifyServiceForSwap (some svc) ≠ .takenOver := by
  obtain ⟨svc,found,_,passed,_⟩ := readoption_passes_over Sample.reconciler Sample.adoption Sample.cluster _ _ _ _
    Sample.cycle ⟨by decide +kernel,by decide +kernel⟩ Sample.service rfl (by decide)
    ⟨apiserver.event .none (apiserver.exec Sample.pass (List.replicate 5 .none) Sample.cluster).2.2
      (.deleteService Sample.adoption.key),List.mem_of_getElem? (i := 5) rfl,rfl⟩
  refine ⟨svc,found,by decide,fun again => ?_⟩
  rw [passed] at again
  cases again

/-- The sample workload is adopted a second time: its Service stays and is not recorded,
and the Knative Service is applied beside it. -/
theorem readoption_keeps_service :
    let again := (apiserver.succeed Sample.pass
      { Sample.released.2.2 with adoptions := .ofList [Sample.adoption] }).2
    Cycle Sample.reconciler Sample.adoption Sample.cluster Sample.adopting.1 Sample.adopting.2
        [⟨(Sample.adopting.2.deleteAdoption Sample.adoption.key).1,Sample.waiting.1,Sample.waiting.2.1⟩,
          ⟨Sample.unserved,Sample.released.1,Sample.released.2.1⟩] Sample.released.2.2 ∧
      classifyServiceForSwap (Sample.cluster.services.get Sample.adoption.key) = .takenOver ∧
      classifyServiceForSwap (Sample.released.2.2.services.get Sample.adoption.key) = .pass "service already adopted" ∧
      (again.ksvcs.get Sample.adoption.key).isSome = true ∧
      (again.services.get Sample.adoption.key).map withoutAddresses =
        (Sample.released.2.2.services.get Sample.adoption.key).map withoutAddresses ∧
      (persisted Sample.adoption again).bind (fun s => s.service) = none :=
  ⟨Sample.cycle,by decide +kernel,by decide +kernel,by decide +kernel,by decide +kernel,by decide +kernel⟩

end Ifaas
