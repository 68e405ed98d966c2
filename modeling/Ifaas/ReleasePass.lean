import Ifaas.Release

/-! The stages of a deletion pass. Wherever it stops it leaves what is to come as it
was; a pass in which every call is answered and Knative is done removes both
finalizers, and then the cluster holds what was to come. -/
namespace Ifaas
open Library

section Passes
variable {σ : Type} {view : Service → σ} {base : Prop} {a0 : KnativeAdoption} {goal : Outcome σ} {assured : Prop}
  {a : KnativeAdoption} {c d : Cluster}

section Stages
variable {env : Cluster → Cluster → Prop} (tame : ∀ c d, env c d → Drift c d)
  (stable : ∀ c d, env c d → Releasing view base a0 c goal → Releasing view base a0 d goal) {past : CallLog}
include tame stable

theorem Phase.drift (phase : Phase view base a0 goal assured a c) (moved : env c d) :
    Phase view base a0 goal assured a d where
  releasing := stable c d moved phase.releasing
  key := phase.key
  spec := phase.spec
  snapshot := phase.snapshot
  same st held := by
    obtain ⟨conditions,after⟩ := (tame c d moved).adoptions a0.key
    rw [after] at held
    obtain ⟨old,before,rfl⟩ := Option.map_eq_some_iff.mp held
    exact phase.same old before
  present some_ := by
    obtain ⟨st,held⟩ := phase.present some_
    obtain ⟨conditions,after⟩ := (tame c d moved).adoptions a0.key
    exact ⟨st.withConditions conditions,by rw [after,held]; rfl⟩
  gone sure := (phase.gone sure).drift a0 c d (tame c d moved)

theorem ensures_deleteKSvcIfPresent (phase : Phase view base a0 goal assured a c) :
    Ensures apiserver env (Held view base a0 goal) (deleteKSvcIfPresent a)
      (fun err d past => Phase view base a0 goal assured a d ∧ (Clean past → err = none)) c past := by
  unfold deleteKSvcIfPresent
  rw [phase.key]
  refine ensures_ask phase.releasing (fun d fault moved => ?_)
  have after := (phase.drift tame stable moved).deleteKService fault
  cases answer : (apiserver.serve fault d (.deleteKService a0.key)).2 with
  | ok done => exact ensures_pure after.releasing ⟨after,fun _ => rfl⟩
  | error err =>
    dsimp only
    split
    · exact ensures_pure after.releasing ⟨after,fun _ => rfl⟩
    next other =>
      refine ensures_pure after.releasing ⟨after,fun clean => ?_⟩
      rw [Server.serve_clean clean] at answer
      change (d.deleteKService a0.key).2 = .error err at answer
      cases held : d.ksvcs.get a0.key with
      | none =>
        simp only [Cluster.deleteKService,held] at answer
        cases answer
        exact absurd rfl other
      | some k => simp [Cluster.deleteKService,held] at answer

theorem ensures_isKSvcGone (phase : Phase view base a0 goal assured a c) :
    Ensures apiserver env (Held view base a0 goal) (isKSvcGone a)
      (fun result d past => Phase view base a0 goal assured a d ∧ (result = .ok true → d.ksvcs.get a0.key = none) ∧
        (Clean past → assured → result = .ok true)) c past := by
  unfold isKSvcGone
  rw [phase.key]
  refine ensures_ask phase.releasing (fun d fault moved => ?_)
  have after := phase.drift tame stable moved
  rw [serve_read _ rfl]
  cases answer : (apiserver.serve fault d (.getKService a0.key)).2 with
  | ok k =>
    refine ensures_pure after.releasing ⟨after,nofun,fun _ sure => ?_⟩
    have held := getKService_ok answer
    rw [(after.gone sure).1] at held
    cases held
  | error err =>
    dsimp only
    split
    next missing =>
      exact ensures_pure after.releasing ⟨after,fun _ => getKService_missing answer missing,fun _ _ => rfl⟩
    next other =>
      refine ensures_pure after.releasing ⟨after,nofun,fun clean sure => ?_⟩
      rw [Server.serve_clean clean] at answer
      exact absurd (found_error_notFound answer) other

theorem ensures_isDerivedServiceGone (phase : Phase view base a0 goal assured a c) (absent : c.ksvcs.get a0.key = none) :
    Ensures apiserver env (Held view base a0 goal) (isDerivedServiceGone a)
      (fun result d past => Phase view base a0 goal assured a d ∧ (result = .ok true → Gone a0 d) ∧
        (Clean past → assured → result = .ok true)) c past := by
  unfold isDerivedServiceGone
  rw [phase.key]
  refine ensures_ask phase.releasing (fun d fault moved => ?_)
  have after := phase.drift tame stable moved
  have still := ksvc_drift a0 c d (tame c d moved) absent
  rw [serve_read _ rfl]
  cases answer : (apiserver.serve fault d (.getService a0.key)).2 with
  | ok svc =>
    have held := getService_ok answer
    refine ensures_pure after.releasing ⟨after,fun free => ⟨still,fun other found => ?_⟩,fun _ sure => ?_⟩
    · rw [held] at found
      cases found
      simpa using free
    · simpa using (after.gone sure).2 svc held
  | error err =>
    dsimp only
    split
    next missing =>
      refine ensures_pure after.releasing ⟨after,fun _ => ⟨still,fun other found => ?_⟩,fun _ _ => rfl⟩
      rw [getService_missing answer missing] at found
      cases found
    next other =>
      refine ensures_pure after.releasing ⟨after,nofun,fun clean sure => ?_⟩
      rw [Server.serve_clean clean] at answer
      exact absurd (found_error_notFound answer) other

theorem ensures_restoreTrafficObjectSnapshot (phase : Phase view base a0 goal assured a c)
    (pending : finalizerRestoreSourceService ∈ a.finalizers) (kind : TrafficKind) (item : TrafficObjectSnapshot)
    (named : item.name ≠ "") (start : TrafficStore) (done rest : List TrafficEntry)
    (split : trafficEntries a0 = done++⟨⟨kind,⟨a.ns,item.name⟩⟩,snapshotTarget item.spec⟩::rest)
    (reached : c.traffic = replayTraffic start done) :
    Ensures apiserver env (Held view base a0 goal) (restoreTrafficObjectSnapshot a.ns kind item)
      (fun err d past => Phase view base a0 goal assured a d ∧
        (err = none → d.traffic = replayTraffic start (done++[⟨⟨kind,⟨a.ns,item.name⟩⟩,snapshotTarget item.spec⟩])) ∧
        (Clean past → err = none)) c past := by
  generalize entry : (⟨⟨kind,⟨a.ns,item.name⟩⟩,snapshotTarget item.spec⟩ : TrafficEntry) = e at split ⊢
  have key : (⟨kind,⟨a.ns,item.name⟩⟩ : TrafficKey) = e.key := by rw [← entry]
  have whole : trafficEntries a0 = (done++[e])++rest := by rw [split]; simp
  have next (o : Option TrafficObject) (held : c.traffic.get e.key = o) :
      replayTraffic start (done++[e]) = c.traffic.put (restoredObject e o) := by
    rw [replayTraffic_step,← reached,held]
  have absorbed : replayTraffic (replayTraffic start (done++[e])) (trafficEntries a0) =
      replayTraffic c.traffic (trafficEntries a0) := by
    rw [reached,whole,replayTraffic_begun,List.append_assoc,replayTraffic_begun]
  -- a write that took effect is the next step of the replay
  have wrote (d : Cluster) (fault : Fault String) (r : Request) (part : r.part = some .traffic)
      (before : Phase view base a0 goal assured a d) (still : d.traffic = c.traffic)
      (effect : (d.effect r).1.traffic = replayTraffic start (done++[e])) :
      Phase view base a0 goal assured a (apiserver.serve fault d r).1 := by
    refine before.traffic pending fault r part ?_
    rcases apiserver.serve_state fault d r with same | ⟨same,_⟩
    · rw [same]
    · rw [same,still,← absorbed]
      exact congrArg (fun s => replayTraffic s (trafficEntries a0)) effect
  unfold restoreTrafficObjectSnapshot
  simp only [named,if_false]
  rw [key]
  refine ensures_ask phase.releasing (fun d fault moved => ?_)
  have read := phase.drift tame stable moved
  have still : d.traffic = c.traffic := (tame c d moved).traffic
  rw [serve_read _ rfl]
  cases answer : (apiserver.serve fault d (.getTraffic e.key)).2 with
  | error err =>
    dsimp only
    split
    next missing =>
      have absent := getTraffic_missing answer missing
      refine ensures_ask read.releasing (fun f fault gap => ?_)
      have same : f.traffic = c.traffic := ((tame d f gap).traffic).trans still
      have effect := createTraffic_restores f e.key item.spec (by rw [(tame d f gap).traffic]; exact absent)
      generalize (withSpec Obj.empty (decodeTrafficSpecSnapshot item.spec)).map GoNumber.encode = body at effect ⊢
      have written : (f.createTraffic e.key body).1.traffic = replayTraffic start (done++[e]) := by
        rw [effect,next none (by rw [← still]; exact absent),same,← entry]
      have after := wrote f fault (.createTraffic e.key body) rfl (read.drift tame stable gap) same written
      cases fault with
      | none =>
        have answered : (apiserver.serve .none f (.createTraffic e.key body)).2 = .ok () := congrArg Prod.snd effect
        rw [answered]
        exact ensures_pure after.releasing ⟨after,fun _ => written,fun _ => rfl⟩
      | refused message | lost message =>
        exact ensures_pure after.releasing ⟨after,nofun,fun clean => nomatch Server.clean_fault clean⟩
    next other =>
      refine ensures_pure read.releasing ⟨read,nofun,fun clean => ?_⟩
      rw [Server.serve_clean clean] at answer
      exact absurd (found_error_notFound answer) other
  | ok o =>
    have held := getTraffic_ok answer
    have filed : o.key = e.key := d.traffic.keyed _ _ held
    have current : c.traffic.get e.key = some o := by rw [← still]; exact held
    dsimp only
    split
    next equal =>
      refine ensures_pure read.releasing ⟨read,fun _ => ?_,fun _ => rfl⟩
      have unchanged : restoredObject e (some o) = o := by
        rw [← entry]
        exact restoredObject_equal _ _ o (by rw [filed,← key]) equal
      rw [next (some o) current,unchanged,still,Store.put_get _ o (by rw [filed]; exact current)]
    next differs =>
      refine ensures_ask read.releasing (fun f fault gap => ?_)
      have same : f.traffic = c.traffic := ((tame d f gap).traffic).trans still
      have effect := patchTraffic_restores f e.key item.spec o (by rw [same]; exact current)
      generalize mergePatchFrom _ _ = patch at effect ⊢
      have written : (f.patchTraffic e.key patch).1.traffic = replayTraffic start (done++[e]) := by
        rw [effect,next (some o) current,same,← entry]
      have after := wrote f fault (.patchTraffic e.key patch) rfl (read.drift tame stable gap) same written
      cases fault with
      | none =>
        have answered : (apiserver.serve .none f (.patchTraffic e.key patch)).2 = .ok () := congrArg Prod.snd effect
        rw [answered]
        exact ensures_pure after.releasing ⟨after,fun _ => written,fun _ => rfl⟩
      | refused message | lost message =>
        exact ensures_pure after.releasing ⟨after,nofun,fun clean => nomatch Server.clean_fault clean⟩

theorem ensures_restoreTrafficSnapshotList (phase : Phase view base a0 goal assured a c)
    (pending : finalizerRestoreSourceService ∈ a.finalizers) (kind : TrafficKind)
    (items : List TrafficObjectSnapshot) (start : TrafficStore) (done rest : List TrafficEntry)
    (split : trafficEntries a0 = done++listEntries a.ns kind items++rest)
    (reached : c.traffic = replayTraffic start done) :
    Ensures apiserver env (Held view base a0 goal) (restoreTrafficSnapshotList a.ns kind items)
      (fun err d past => Phase view base a0 goal assured a d ∧
        (err = none → d.traffic = replayTraffic start (done++listEntries a.ns kind items)) ∧
        (Clean past → err = none)) c past := by
  induction items generalizing c done past with
  | nil =>
    refine ensures_pure phase.releasing ⟨phase,fun _ => ?_,fun _ => rfl⟩
    simpa [listEntries] using reached
  | cons item items ih =>
    by_cases named : item.name = ""
    · rw [listEntries_unnamed _ _ _ _ named] at split ⊢
      refine ensures_bind ?_
      unfold restoreTrafficObjectSnapshot
      rw [if_pos named]
      exact ensures_pure phase.releasing (ih phase done split reached)
    · rw [listEntries_named _ _ _ _ named] at split ⊢
      refine ensures_bind (ensures_mono (ensures_restoreTrafficObjectSnapshot tame stable phase
        pending kind item named start done (listEntries a.ns kind items++rest) (by rw [split]; simp) reached) ?_)
      rintro (_ | err) d calls _ ⟨after,written,clean⟩
      · have following := @ih d (past++calls) after (done++[⟨⟨kind,⟨a.ns,item.name⟩⟩,snapshotTarget item.spec⟩])
          (by rw [split]; simp) (written rfl)
        simpa using following
      · exact ensures_pure after.releasing ⟨after,(fun failed => by cases failed),fun all => by cases clean all⟩

theorem ensures_restoreTrafficSnapshots (phase : Phase view base a0 goal assured a c)
    (pending : finalizerRestoreSourceService ∈ a.finalizers) :
    Ensures apiserver env (Held view base a0 goal) (restoreTrafficSnapshots a)
      (fun err d past => Phase view base a0 goal assured a d ∧
        (err = none → replayTraffic d.traffic (trafficEntries a0) = d.traffic) ∧ (Clean past → err = none)) c past := by
  have ns : a.ns = a0.ns := congrArg NamespacedName.ns phase.key
  have items (kind : TrafficKind) : snapshotItems a0.status.sourceSnapshot kind =
      ((a.status.sourceSnapshot.bind (fun snapshot => snapshot.traffic)).getD {}).items kind := by
    rw [← phase.snapshot]
    rfl
  have all : trafficEntries a0 = listEntries a.ns .virtualService
      ((a.status.sourceSnapshot.bind (fun snapshot => snapshot.traffic)).getD {}).virtualServices ++
      listEntries a.ns .destinationRule
      ((a.status.sourceSnapshot.bind (fun snapshot => snapshot.traffic)).getD {}).destinationRules := by
    rw [trafficEntries,items,items,← ns]
    rfl
  unfold restoreTrafficSnapshots
  cases held : a.status.sourceSnapshot.bind (fun snapshot => snapshot.traffic) with
  | none =>
    rw [held] at all
    refine ensures_pure phase.releasing ⟨phase,fun _ => ?_,fun _ => rfl⟩
    rw [all]
    rfl
  | some traffic =>
    rw [held] at all
    dsimp only [Option.getD_some] at all ⊢
    refine ensures_bind (ensures_mono (ensures_restoreTrafficSnapshotList tame stable phase pending
      .virtualService traffic.virtualServices c.traffic [] _ (by rw [all]; rfl) rfl) ?_)
    rintro (_ | err) d calls _ ⟨after,written,clean⟩
    · refine ensures_mono (ensures_restoreTrafficSnapshotList tame stable after pending
        .destinationRule traffic.destinationRules c.traffic _ [] (by rw [all]; simp) (written rfl)) ?_
      rintro err e more _ ⟨final,finished,quiet⟩
      refine ⟨final,fun none_ => ?_,quiet⟩
      rw [finished none_,List.nil_append,← all,replayTraffic_again]
    · exact ensures_pure after.releasing ⟨after,(fun failed => by cases failed),fun all => by cases clean all⟩

theorem ensures_rebuildSnapshotService (phase : Phase view base a0 goal True a c)
    (pending : finalizerRestoreSourceService ∈ a.finalizers) :
    Ensures apiserver env (Held view base a0 goal) (rebuildSnapshotService a)
      (fun err d past => Phase view base a0 goal True a d ∧ d.traffic = c.traffic ∧
        (err = none → a0.status.sourceSnapshot.bind (fun s => s.service) = none ∨ d.services.get a0.key ≠ none) ∧
        (Clean past → err = none)) c past := by
  unfold rebuildSnapshotService
  rw [phase.snapshot]
  cases recorded : a0.status.sourceSnapshot.bind (fun snapshot => snapshot.service) with
  | none => exact ensures_pure phase.releasing ⟨phase,rfl,fun _ => Or.inl rfl,fun _ => rfl⟩
  | some spec =>
    have same : rebuiltService a spec = rebuiltService a0 spec := by
      have ns : a.ns = a0.ns := congrArg NamespacedName.ns phase.key
      have name : a.name = a0.name := congrArg NamespacedName.name phase.key
      simp only [rebuiltService,ns,name]
    dsimp only
    rw [same]
    refine ensures_ask phase.releasing (fun d fault moved => ?_)
    have drifted := phase.drift tame stable moved
    have after := drifted.createService (drifted.gone trivial) pending fault spec recorded
    have traffic : (apiserver.serve fault d (.createService (rebuiltService a0 spec))).1.traffic = c.traffic := by
      rw [serve_traffic _ _ _ (by simp [Request.part])]
      exact (tame c d moved).traffic
    cases fault with
    | refused message | lost message =>
      exact ensures_pure after.releasing ⟨after,traffic,(fun failed => by cases failed),
        fun clean => by cases Server.clean_fault clean⟩
    | none =>
      have key : (rebuiltService a0 spec).key = a0.key := rfl
      have present : (d.createService (rebuiltService a0 spec)).1.services.get a0.key ≠ none := by
        cases held : d.services.get a0.key with
        | some svc => simp [Cluster.createService,key,held]
        | none =>
          have filed : a0.key = (d.allocate (rebuiltService a0 spec)).key := (d.allocate_key (rebuiltService a0 spec)).symm
          simp [Cluster.createService,key,held,← filed]
      have quiet : ∀ err, (d.createService (rebuiltService a0 spec)).2 = .error err → err.isAlreadyExists = true := by
        intro err answer
        unfold Cluster.createService at answer
        split at answer
        · cases answer
          rfl
        · cases answer
      cases answer : (apiserver.serve .none d (.createService (rebuiltService a0 spec))).2 with
      | ok done => exact ensures_pure after.releasing ⟨after,traffic,fun _ => Or.inr present,fun _ => rfl⟩
      | error err =>
        dsimp only
        rw [if_pos (quiet err answer)]
        exact ensures_pure after.releasing ⟨after,traffic,fun _ => Or.inr present,fun _ => rfl⟩

theorem ensures_restoreDeploymentSpec (phase : Phase view base a0 goal True a c)
    (pending : finalizerRestoreSource ∈ a.finalizers) :
    Ensures apiserver env (Held view base a0 goal) (restoreDeploymentSpec a)
      (fun err d past => Phase view base a0 goal True a d ∧
        (err = none → restoredDeployment a0 (d.deployments.get (sourceKey a0)) = d.deployments.get (sourceKey a0)) ∧
        (Clean past → err = none)) c past := by
  have source : (⟨a.ns,sourceName a⟩ : NamespacedName) = sourceKey a0 := by
    have ns : a.ns = a0.ns := congrArg NamespacedName.ns phase.key
    have name : a.name = a0.name := congrArg NamespacedName.name phase.key
    simp only [sourceKey,sourceName,phase.spec,ns,name]
  unfold restoreDeploymentSpec
  rw [phase.snapshot,source]
  cases recorded : a0.status.sourceSnapshot.bind (fun snapshot => snapshot.replicas) with
  | none =>
    refine ensures_pure phase.releasing ⟨phase,fun _ => ?_,fun _ => rfl⟩
    simp only [restoredDeployment,recorded]
  | some target =>
    refine ensures_ask phase.releasing (fun d fault moved => ?_)
    have read := phase.drift tame stable moved
    rw [serve_read _ rfl]
    cases answer : (apiserver.serve fault d (.getDeployment (sourceKey a0))).2 with
    | error err =>
      dsimp only
      split
      next missing =>
        refine ensures_pure read.releasing ⟨read,fun _ => ?_,fun _ => rfl⟩
        rw [getDeployment_missing answer missing]
        simp [restoredDeployment,recorded]
      next other =>
        refine ensures_pure read.releasing ⟨read,(fun failed => by cases failed),fun clean => ?_⟩
        rw [Server.serve_clean clean] at answer
        exact absurd (found_error_notFound answer) other
    | ok dep =>
      have held := getDeployment_ok answer
      dsimp only
      split
      next released =>
        refine ensures_pure read.releasing ⟨read,fun _ => ?_,fun _ => rfl⟩
        rw [held]
        simp only [restoredDeployment,recorded,Option.map_some,
          releasedDeployment_same dep target released.1 released.2]
      next labelled =>
        refine ensures_ask read.releasing (fun f fault gap => ?_)
        have current : f.deployments.get (sourceKey a0) = some dep := by
          rw [(tame d f gap).deployments]
          exact held
        have key : dep.key = sourceKey a0 := f.deployments.keyed _ _ current
        have effect := patchDeployment_released dep target (key ▸ current)
        have after := (read.drift tame stable gap).patchDeployment pending fault dep target current recorded
        cases fault with
        | none =>
          have answered : (apiserver.serve .none f (.patchDeployment dep (releasedDeployment dep target))).2 = .ok () :=
            congrArg Prod.snd effect
          rw [answered]
          refine ensures_pure after.releasing ⟨after,fun _ => ?_,fun _ => rfl⟩
          have found : (f.patchDeployment dep (releasedDeployment dep target)).1.deployments.get (sourceKey a0) =
              some (releasedDeployment dep target) := by
            rw [effect]
            exact if_pos key.symm
          change restoredDeployment a0 ((f.patchDeployment dep (releasedDeployment dep target)).1.deployments.get
            (sourceKey a0)) = (f.patchDeployment dep (releasedDeployment dep target)).1.deployments.get (sourceKey a0)
          rw [found]
          simp only [restoredDeployment,recorded,Option.map_some,releasedDeployment_twice]
        | refused message | lost message =>
          exact ensures_pure after.releasing ⟨after,(fun failed => by cases failed),
            fun clean => by cases Server.clean_fault clean⟩

theorem ensures_removeFinalizer (phase : Phase view base a0 goal True a c) (name : String) (inside : name ∈ a.finalizers)
    (settled : ∀ d e : Cluster, env c d → e.traffic = d.traffic ∧ e.services = d.services ∧ e.deployments = d.deployments →
      e.addresses = d.addresses → finalizersOf a0 e = (finalizersOf a0 d).filter (fun f => f ≠ name) →
      outcome view a0 e = outcome view a0 d) :
    Ensures apiserver env (Held view base a0 goal) (removeFinalizer a name)
      (fun result d past => Ended view base a0 goal result.1 d ∧
        (result.2 = none → Phase view base a0 goal True result.1 d ∧ name ∉ result.1.finalizers ∧
          result.1.finalizers ⊆ a.finalizers) ∧
        (Clean past → result.2 = none)) c past := by
  unfold removeFinalizer
  rw [if_pos inside]
  refine ensures_ask phase.releasing (fun d fault moved => ?_)
  have drifted := phase.drift tame stable moved
  obtain ⟨next,response,left,after⟩ := drifted.updateAdoption name inside (settled d · moved)
  generalize sent : ({ a with finalizers := a.finalizers.filter (fun f => f ≠ name) } : KnativeAdoption) = b at *
  have key : b.key = a0.key := by rw [← sent]; exact phase.key
  have snapshot : b.status.sourceSnapshot = a0.status.sourceSnapshot := by rw [← sent]; exact phase.snapshot
  cases fault with
  | none =>
    have answered : (apiserver.serve .none d (.updateAdoption b)).2 = .ok next := response
    rw [answered]
    have dropped : name ∉ next.finalizers := by simp [left]
    have inside : next.finalizers ⊆ a.finalizers := by
      rw [left]
      exact List.filter_subset_self _
    exact ensures_pure after.releasing ⟨after.ended,fun _ => ⟨after,dropped,inside⟩,fun _ => rfl⟩
  | refused message =>
    exact ensures_pure drifted.releasing
      ⟨⟨drifted.releasing,key,snapshot⟩,nofun,fun clean => nomatch Server.clean_fault clean⟩
  | lost message =>
    exact ensures_pure after.releasing
      ⟨⟨after.releasing,key,snapshot⟩,nofun,fun clean => nomatch Server.clean_fault clean⟩

theorem ensures_restoreChildren (phase : Phase view base a0 goal True a c)
    (pending : finalizerRestoreSourceService ∈ a.finalizers) :
    Ensures apiserver env (Held view base a0 goal) (restoreChildren a)
      (Staged view base a0 goal [finalizerRestoreSourceService] True) c past := by
  unfold restoreChildren
  refine ensures_bind (ensures_mono (ensures_restoreTrafficSnapshots tame stable
    (phase.ledger _ (sameLedger_setReady _ _ _ _)) pending) ?_)
  rintro (_ | err) d calls _ ⟨traffic,replayed,clean⟩
  · refine ensures_bind (ensures_mono (ensures_rebuildSnapshotService tame stable
      (traffic.ledger _ (sameLedger_setReady _ _ _ _)) pending) ?_)
    rintro (_ | err) e more _ ⟨service,kept,rebuilt,quiet⟩
    · refine ensures_bind (ensures_mono (ensures_removeFinalizer tame stable service
        finalizerRestoreSourceService pending ?_) ?_)
      · intro f g moved parts _ dropped
        have still := (service.gone trivial).service a0 e f (tame e f moved)
        have clear := (service.gone trivial).drift a0 e f (tame e f moved)
        refine outcome_freed_service parts dropped ?_ (restoredService_done clear ?_)
        · rw [(tame e f moved).traffic,kept]
          exact replayed rfl
        · rw [still]
          exact rebuilt rfl
      · rintro ⟨b,_ | err⟩ f rest _ ⟨ended,removed,final⟩
        · obtain ⟨after,dropped,_⟩ := removed rfl
          exact ensures_pure after.releasing (staged_ok b after (by simpa using dropped))
        · exact ensures_pure ended.releasing (staged_error _ ended (fun all _ => nomatch final all))
    · exact ensures_pure service.releasing
        (staged_error _ (service.ended.ledger _ (sameLedger_setCondition _ _ _ _ _)) (fun all _ => nomatch quiet all))
  · exact ensures_pure traffic.releasing
      (staged_error _ (traffic.ended.ledger _ (sameLedger_setCondition _ _ _ _ _)) (fun all _ => nomatch clean all))

theorem ensures_releaseService (phase : Phase view base a0 goal assured a c) :
    Ensures apiserver env (Held view base a0 goal) (releaseService a)
      (Staged view base a0 goal [finalizerRestoreSourceService] assured) c past := by
  unfold releaseService
  split
  next pending =>
    refine ensures_bind (ensures_mono (ensures_deleteKSvcIfPresent tame stable phase) ?_)
    rintro (_ | err) d calls _ ⟨deleted,clean⟩
    · refine ensures_bind (ensures_mono (ensures_isKSvcGone tame stable deleted) ?_)
      rintro (err | ⟨_ | _⟩) e more _ ⟨checked,absent,answers⟩
      · exact ensures_pure checked.releasing
          (staged_error _ checked.ended (fun all sure => nomatch answers all sure))
      · exact ensures_pure checked.releasing
          (staged_error _ (checked.ended.ledger _ (sameLedger_setReady _ _ _ _))
            (fun all sure => nomatch answers all sure))
      · refine ensures_bind (ensures_mono (ensures_isDerivedServiceGone tame stable checked
          (absent rfl)) ?_)
        rintro (err | ⟨_ | _⟩) f rest _ ⟨derived,gone,answers⟩
        · exact ensures_pure derived.releasing
            (staged_error _ derived.ended (fun all sure => nomatch answers all sure))
        · exact ensures_pure derived.releasing
            (staged_error _ (derived.ended.ledger _ (sameLedger_setReady _ _ _ _))
              (fun all sure => nomatch answers all sure))
        · refine ensures_mono (ensures_restoreChildren tame stable (derived.assure (gone rfl)) pending) ?_
          rintro result g final _ ⟨ended,freed,progress⟩
          exact ⟨ended,freed,fun all _ => progress all trivial⟩
    · exact ensures_pure deleted.releasing
        (staged_error _ (deleted.ended.ledger _ (sameLedger_setCondition _ _ _ _ _)) (fun all _ => nomatch clean all))
  next free =>
    have gone : Gone a0 c := phase.releasing.gone (Or.inr (by rw [phase.finalizers]; exact free))
    exact ensures_pure phase.releasing (staged_ok a (phase.assure gone) (by simpa using free))

theorem ensures_releaseSource (phase : Phase view base a0 goal True a c)
    (freed : finalizerRestoreSourceService ∉ a.finalizers) :
    Ensures apiserver env (Held view base a0 goal) (releaseSource a)
      (Staged view base a0 goal [finalizerRestoreSourceService,finalizerRestoreSource] True) c past := by
  unfold releaseSource
  split
  next pending =>
    refine ensures_bind (ensures_mono (ensures_restoreDeploymentSpec tame stable
      (phase.ledger _ (sameLedger_setReady _ _ _ _)) pending) ?_)
    rintro (_ | err) d calls _ ⟨source,released,clean⟩
    · refine ensures_bind (ensures_mono (ensures_removeFinalizer tame stable source
        finalizerRestoreSource pending ?_) ?_)
      · intro f g moved parts addresses dropped
        refine outcome_freed_source parts addresses dropped ?_
        rw [(tame d f moved).deployments]
        exact released rfl
      · rintro ⟨b,_ | err⟩ f rest _ ⟨ended,removed,final⟩
        · obtain ⟨after,dropped,inside⟩ := removed rfl
          have kept : finalizerRestoreSourceService ∉ b.finalizers := fun member => freed (inside member)
          exact ensures_pure after.releasing (staged_ok b after (by simpa [kept] using dropped))
        · exact ensures_pure ended.releasing (staged_error _ ended (fun all _ => nomatch final all))
    · exact ensures_pure source.releasing
        (staged_error _ (source.ended.ledger _ (sameLedger_setCondition _ _ _ _ _)) (fun all _ => nomatch clean all))
  next free => exact ensures_pure phase.releasing (staged_ok a phase (by simp [freed,free]))

theorem ensures_handleDeletion (phase : Phase view base a0 goal assured a c) :
    Ensures apiserver env (Held view base a0 goal) (handleDeletion a)
      (fun done d past => Ended view base a0 goal done.adoption d ∧ (Clean past → assured → Freed a0 d)) c past := by
  unfold handleDeletion
  refine ensures_bind (ensures_mono (ensures_releaseService tame stable phase) ?_)
  rintro (done | b) d calls _ ⟨ended,freed,progress⟩
  · have early := ended done rfl
    refine ensures_pure early.releasing ⟨early,fun clean sure => ?_⟩
    obtain ⟨b,same⟩ := progress clean sure
    cases same
  · obtain ⟨service,dropped⟩ := freed b rfl
    refine ensures_bind (ensures_mono (ensures_releaseSource tame stable service
      (dropped _ (by simp))) ?_)
    rintro (done | b) e more _ ⟨ended,freed,progress⟩
    · have early := ended done rfl
      refine ensures_pure early.releasing ⟨early,fun clean sure => ?_⟩
      obtain ⟨b,same⟩ := progress clean trivial
      cases same
    · obtain ⟨source,dropped⟩ := freed b rfl
      refine ensures_pure source.releasing
        ⟨source.ended.ledger _ (sameLedger_setReady _ _ _ _),fun _ _ => ?_⟩
      unfold Freed
      rw [source.finalizers]
      exact ⟨dropped _ (by simp),dropped _ (by simp)⟩

theorem ensures_patchStatus_ended (ended : Ended view base a0 goal a c) (original : KnativeAdoption)
    (same : original.status.sourceSnapshot = a0.status.sourceSnapshot) :
    Ensures apiserver env (Held view base a0 goal) (patchStatus original a)
      (fun _ d _ => Releasing view base a0 d goal ∧ finalizersOf a0 d = finalizersOf a0 c) c past := by
  unfold patchStatus
  split
  · exact ensures_pure ended.releasing ⟨ended.releasing,rfl⟩
  · refine ensures_call ended.releasing (fun e fault moved => ?_)
    have still : Ended view base a0 goal a e := ⟨stable c e moved ended.releasing,ended.key,ended.snapshot⟩
    obtain ⟨after,finalizers⟩ := still.patchStatus original same fault
    exact ensures_pure after ⟨after,finalizers.trans (finalizersOf_drift a0 c e (tame c e moved))⟩

theorem ensures_reconcileDeleted (phase : Phase view base a0 goal assured a c) :
    Ensures apiserver env (Held view base a0 goal) (reconcileDeleted a)
      (fun _ d past => Releasing view base a0 d goal ∧ (Clean past → assured → Freed a0 d)) c past := by
  unfold reconcileDeleted
  refine ensures_bind (ensures_mono (ensures_handleDeletion tame stable phase) ?_)
  intro done d calls _ ⟨ended,freed⟩
  refine ensures_bind (ensures_mono (ensures_patchStatus_ended tame stable ended a phase.snapshot) ?_)
  rintro answer e more _ ⟨after,finalizers⟩
  have final : Clean (past++calls++more) → assured → Freed a0 e := by
    intro clean sure
    unfold Freed
    rw [finalizers]
    exact freed (clean.left _ _) sure
  cases answer with
  | error err =>
    dsimp only
    split <;> exact ensures_pure after ⟨after,final⟩
  | ok done => exact ensures_pure after ⟨after,final⟩

/-- A deletion pass keeps what is to come, and one in which every call is answered and
Knative is done removes both finalizers. -/
theorem ensures_release (r : KnativeAdoptionReconciler) (releasing : Releasing view base a0 c goal) :
    Ensures apiserver env (Held view base a0 goal) (reconcile r a0.key)
      (fun _ d past => Releasing view base a0 d goal ∧ (Clean past → Gone a0 c → Freed a0 d)) c past := by
  unfold reconcile
  refine ensures_ask releasing (fun d fault moved => ?_)
  have drifted := stable c d moved releasing
  rw [serve_read _ rfl]
  cases answer : (apiserver.serve fault d (.getAdoption a0.key)).2 with
  | error err =>
    have freed : Clean (past++[apiserver.event fault d (.getAdoption a0.key)]) → Freed a0 d := by
      intro clean
      rw [Server.serve_clean clean] at answer
      have missing : d.adoptions.get a0.key = none := found_error answer
      simp [Freed,finalizersOf,missing]
    dsimp only
    split <;> exact ensures_pure drifted ⟨drifted,fun clean _ => freed clean⟩
  | ok st =>
    have held := getAdoption_ok answer
    obtain ⟨spec,deleting,snapshot⟩ := drifted.stored st held
    simp only [deleting,if_true]
    have phase : Phase view base a0 goal (Gone a0 c) st d := by
      refine ⟨drifted,d.adoptions.keyed _ _ held,spec,snapshot,fun other found => ?_,fun _ => ⟨st,held⟩,
        fun gone => gone.drift a0 c d (tame c d moved)⟩
      rw [held] at found
      cases found
      rfl
    exact ensures_reconcileDeleted tame stable phase

theorem Releasing.pass (r : KnativeAdoptionReconciler) (releasing : Releasing view base a0 c goal) (log : CallLog)
    (out : Result × Option ApiError) (run : Run apiserver env (reconcile r a0.key) c log (some out) d) :
    Releasing view base a0 d goal ∧ (Clean log → Gone a0 c → Freed a0 d) := by
  have ends : Ensures apiserver env (Held view base a0 goal) (reconcile r a0.key)
      (fun _ d past => Releasing view base a0 d goal ∧ (Clean past → Gone a0 c → Freed a0 d)) c [] :=
    ensures_release tame stable r releasing
  exact (ends log (some out) d run).2 out rfl

theorem releasing_passes (r : KnativeAdoptionReconciler) (releasing : Releasing view base a0 c goal)
    (passes : List (Pass Request Response String Cluster (Result × Option ApiError)))
    (run : Passes apiserver env (reconcile r a0.key) c passes d) : Releasing view base a0 d goal := by
  refine passes_invariant apiserver env (reconcile r a0.key) (Held view base a0 goal)
    (fun s t _ moved => stable s t moved) (fun s log held => ?_) c d passes releasing run
  exact ensures_mono (ensures_release tame stable r held) (fun _ _ _ _ post => post.1)

end Stages

/-- Once both finalizers are gone, what was to come has come. -/
theorem Releasing.freed (releasing : Releasing view base a0 c goal) (freed : Freed a0 c) :
    c.traffic = goal.traffic ∧ (c.services.get a0.key).map view = goal.service ∧
      c.deployments.get (sourceKey a0) = goal.deployment := by
  rw [← releasing.outcome]
  simp only [Ifaas.outcome,freed.1,freed.2,if_false,and_self]

end Passes
end Ifaas
