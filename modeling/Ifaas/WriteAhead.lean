import Ifaas.AdoptionLedger

/-! Write-ahead snapshots over whole runs of adoption passes. Every pass ends with one
status patch, so an entry is stored only after the call it protects; when the patch
gets through in each pass that destroyed something, the stored snapshot has an entry
for everything destroyed so far, and a crash in between loses it. -/
namespace Ifaas
open Library

section Passes
variable {c0 : Cluster} {a0 original a : KnativeAdoption} {c d : Cluster} {log : CallLog}

/-- The comparison that saves a status patch does not look into the Service snapshot,
but an entry is never changed, so nothing is missed. -/
theorem entry_statusEqual (ns : String) (equal : statusEqual original a = true)
    (grows : ∀ i v, entry ns original.status.sourceSnapshot i = some v → entry ns a.status.sourceSnapshot i = some v) :
    entry ns a.status.sourceSnapshot = entry ns original.status.sourceSnapshot := by
  have same : sourceSnapshotEqual original.status.sourceSnapshot a.status.sourceSnapshot = true := by
    simp only [statusEqual,Bool.and_eq_true] at equal
    exact equal.1.1.1.2
  cases before : original.status.sourceSnapshot with
  | none =>
    cases after : a.status.sourceSnapshot with
    | none => rfl
    | some y => simp [before,after,sourceSnapshotEqual] at same
  | some x =>
    cases after : a.status.sourceSnapshot with
    | none => simp [before,after,sourceSnapshotEqual] at same
    | some y =>
      rw [before,after] at same grows
      simp only [sourceSnapshotEqual,Bool.and_eq_true,decide_eq_true_eq] at same
      obtain ⟨⟨replicas,service⟩,traffic⟩ := same
      funext i
      cases i with
      | replicas => simp [entry,replicas]
      | service =>
        cases recorded : x.service with
        | none =>
          have missing : y.service = none := by
            rw [recorded] at service
            simpa using service.symm
          simp [entry,recorded,missing]
        | some spec => rw [grows .service (.service spec) (by simp [entry,recorded])]; simp [entry,recorded]
      | traffic key =>
        have items : snapshotItems (some y) key.kind = snapshotItems (some x) key.kind := by
          unfold trafficSnapshotEqual at traffic
          cases left : x.traffic <;> cases right : y.traffic <;> simp_all [snapshotItems]
          cases key.kind <;> simp_all [TrafficSnapshot.items]
        simp only [entry,items]

theorem ensures_patchStatus (mid : Mid c0 a0 original a c log) :
    Ensures apiserver Drift (Safe c0 a0 original.status.sourceSnapshot) (patchStatus original a)
      (fun _ d past => Safe c0 a0 original.status.sourceSnapshot d past ∧ (Clean past → Kept c0 a0 d)) c log := by
  unfold patchStatus
  split
  next equal =>
    refine ensures_pure mid.safe ⟨mid.safe,fun _ => ?_⟩
    obtain ⟨st,held,spec,live,same⟩ := mid.stored
    refine ⟨⟨st,held,spec,live,by rw [same]; exact mid.former,?_⟩,mid.fading⟩
    rw [same,← entry_statusEqual a0.ns equal mid.grows]
    exact mid.covers
  · refine ensures_call mid.safe (fun d fault moved => ?_)
    have before := mid.drift moved
    obtain ⟨st,held,spec,live,same⟩ := before.stored
    have quiet (ledger : Item → Option Image) :
        Logged c0 a0 ledger (apiserver.event fault d (.patchStatus original a)) := fun _ i hit => by cases hit
    rcases apiserver.serve_cases fault d (.patchStatus original a) with ⟨state,refused⟩ | ⟨state,_⟩
    · have after : Safe c0 a0 original.status.sourceSnapshot d
          (log++[apiserver.event fault d (.patchStatus original a)]) := by
        refine ⟨st,held,spec,live,by rw [same]; exact before.former,before.fading,
          fun i v found => by rwa [same],?_⟩
        rw [same]
        rcases before.behind with ⟨covers,entered⟩ | exposed
        · exact Or.inl ⟨covers,entered.append _ _ (quiet _)⟩
        · exact Or.inr (exposed.append _ _ _ (fun patched => refused patched.1))
      rw [state]
      refine ensures_pure after ⟨after,fun clean => absurd ?_ refused⟩
      rw [Server.clean_fault clean]
      exact nofun
    · rw [state]
      obtain ⟨next,stored,metadata,keeps,snapshot⟩ := patchStatus_stored d original a st (mid.key ▸ held) same
      rw [mid.key] at stored
      have images : image a0 (apiserver.effect d (.patchStatus original a)).1 = image a0 d :=
        image_serve a0 .none d (.patchStatus original a) (by simp [Request.part])
      have kept : Kept c0 a0 (apiserver.effect d (.patchStatus original a)).1 := by
        refine ⟨⟨next,stored,keeps.trans spec,(congrArg ObjectMeta.deleting metadata).trans live,
          by rw [snapshot]; exact before.scope,by rw [images,snapshot]; exact before.covers⟩,
          before.fading.same images (effect_same .deployments d _ (by simp [Request.part]))⟩
      have after : Safe c0 a0 original.status.sourceSnapshot (apiserver.effect d (.patchStatus original a)).1
          (log++[apiserver.event fault d (.patchStatus original a)]) := by
        refine ⟨next,stored,keeps.trans spec,(congrArg ObjectMeta.deleting metadata).trans live,
          by rw [snapshot]; exact before.scope,kept.fading,by rw [snapshot]; exact before.grows,?_⟩
        rw [images,snapshot]
        exact Or.inl ⟨before.covers,before.entered.append _ _ (quiet _)⟩
      exact ensures_pure after ⟨after,fun _ => kept⟩

theorem ensures_ensureFinalizers (kept : Kept c0 a0 c) (held : c.adoptions.get a0.key = some a)
    (misses : ∀ e ∈ log, ∀ i, hits a0 e.request ≠ some i) :
    Ensures apiserver Drift (Safe c0 a0 a.status.sourceSnapshot) (ensureFinalizers a)
      (fun result d past => Kept c0 a0 d ∧ ∀ b, result = .ok b →
        Mid c0 a0 b b d past ∧ b.status.sourceSnapshot = a.status.sourceSnapshot) c log := by
  have mid : Mid c0 a0 a a c log := kept.mid a held misses
  unfold ensureFinalizers
  dsimp only
  split
  · exact ensures_pure mid.safe ⟨kept,fun b same => by cases same; exact ⟨mid,rfl⟩⟩
  · rw [mid.key]
    generalize addFinalizer (addFinalizer a.finalizers finalizerRestoreSourceService)
      finalizerRestoreSource = sent
    refine ensures_ask mid.safe (fun d fault moved => ?_)
    obtain ⟨st,before,spec,live,scope,covers⟩ := (kept.drift moved).stored
    obtain ⟨next,stored,nextSpec,nextLive,status,response⟩ :=
      serve_patchFinalizers fault d st a0.key sent before live
    have images := image_serve a0 fault d (.patchFinalizers a0.key sent) (by simp [Request.part])
    have snapshot : next.status.sourceSnapshot = a.status.sourceSnapshot := by
      obtain ⟨conditions,drifted⟩ := stored_drift a held moved
      rw [drifted] at before
      rw [status,← Option.some.inj before]
      rfl
    have after : Kept c0 a0 (apiserver.serve fault d (.patchFinalizers a0.key sent)).1 := by
      refine ⟨⟨next,stored,nextSpec.trans spec,nextLive,by rw [status]; exact scope,?_⟩,
        (kept.drift moved).fading.same images (serve_deployments _ _ _ (by simp [Request.part]))⟩
      rw [images,status]
      exact covers
    have begun : Mid c0 a0 next next (apiserver.serve fault d (.patchFinalizers a0.key sent)).1
        (log++[apiserver.event fault d (.patchFinalizers a0.key sent)]) := by
      refine after.mid next stored (fun e member i hit => ?_)
      rcases List.mem_append.mp member with inside | last
      · exact misses e inside i hit
      · rw [List.mem_singleton.mp last] at hit
        cases hit
    have safe := begun.safe
    rw [snapshot] at safe
    cases answer : (apiserver.serve fault d (.patchFinalizers a0.key sent)).2 with
    | error err => exact ensures_pure safe ⟨after,fun b same => by cases same⟩
    | ok b =>
      obtain ⟨same,_⟩ := response b answer
      subst same
      exact ensures_pure safe ⟨after,fun result same => by cases same; exact ⟨begun,snapshot⟩⟩

theorem ensures_reconcileLive (r : KnativeAdoptionReconciler) (kept : Kept c0 a0 c)
    (held : c.adoptions.get a0.key = some a) (misses : ∀ e ∈ log, ∀ i, hits a0 e.request ≠ some i) :
    Ensures apiserver Drift (Safe c0 a0 a.status.sourceSnapshot) (reconcileLive r a)
      (fun _ d past => Safe c0 a0 a.status.sourceSnapshot d past ∧ (Clean past → Kept c0 a0 d)) c log := by
  refine ensures_bind (ensures_mono
    (ensures_both _ _ _ _ (ensures_ensureFinalizers kept held misses)) ?_)
  rintro (err | b) d calls _ ⟨safe,still,begun⟩
  · exact ensures_pure safe ⟨safe,fun _ => still⟩
  · obtain ⟨mid,snapshot⟩ := begun b rfl
    rw [← snapshot]
    refine ensures_bind (ensures_mono (ensures_reconcileAdoption r mid) ?_)
    intro done e more _ after
    have final := after.same _ (sameButConditions_recomputeReady done.adoption).sameLedger
    refine ensures_bind (ensures_mono (ensures_patchStatus final) ?_)
    rintro (err | ok) f rest _ closed <;> exact ensures_pure closed.1 closed

theorem persisted_drift (moved : Drift c d) : persisted a0 d = persisted a0 c := by
  obtain ⟨conditions,after⟩ := moved.adoptions a0.key
  unfold persisted
  rw [after]
  cases c.adoptions.get a0.key <;> rfl

theorem ensures_reconcile (r : KnativeAdoptionReconciler) (kept : Kept c0 a0 c) :
    Ensures apiserver Drift (Safe c0 a0 (persisted a0 c)) (reconcile r a0.key)
      (fun _ d past => Safe c0 a0 (persisted a0 c) d past ∧ (Clean past → Kept c0 a0 d)) c [] := by
  obtain ⟨st,held,_⟩ := kept.stored
  have start : persisted a0 c = st.status.sourceSnapshot := by simp [persisted,held]
  rw [start]
  have mid : Mid c0 a0 st st c [] := kept.mid st held (by simp)
  refine ensures_ask mid.safe (fun d fault moved => ?_)
  have read := (mid.drift moved).harmless fault (.getAdoption a0.key) (Or.inl rfl)
  cases answer : (apiserver.serve fault d (.getAdoption a0.key)).2 with
  | error err =>
    rw [serve_read _ rfl] at read ⊢
    dsimp only
    split <;> exact ensures_pure read.safe ⟨read.safe,fun _ => kept.drift moved⟩
  | ok adoption =>
    have found := getAdoption_ok answer
    obtain ⟨_,other,_,live,_⟩ := (kept.drift moved).stored
    rw [found] at other
    cases other
    have same : adoption.status.sourceSnapshot = st.status.sourceSnapshot := by
      have both := @persisted_drift a0 _ _ moved
      simpa [persisted,found,held] using both
    rw [serve_read _ rfl]
    simp only [live,Bool.false_eq_true,if_false]
    rw [← same]
    refine ensures_reconcileLive r (kept.drift moved) found (fun e member i hit => ?_)
    rw [List.mem_singleton.mp member] at hit
    cases hit

/-- A pass that stores its entries keeps the stored snapshot covering, and what it
destroyed has an entry. -/
theorem Kept.pass (r : KnativeAdoptionReconciler) (kept : Kept c0 a0 c) (out : Option (Result × Option ApiError))
    (run : Run apiserver Drift (reconcile r a0.key) c log out d) (durable : Durable a0 log) :
    Kept c0 a0 d ∧ Entered c0 a0 log (entry a0.ns (persisted a0 d)) ∧
      ∀ i v, entry a0.ns (persisted a0 c) i = some v → entry a0.ns (persisted a0 d) i = some v := by
  obtain ⟨st,held,spec,live,scope,fading,grows,covered | exposed⟩ := (ensures_reconcile r kept log out d run).1
  · have stored : persisted a0 d = st.status.sourceSnapshot := by simp [persisted,held]
    rw [stored]
    exact ⟨⟨⟨st,held,spec,live,scope,covered.1⟩,fading⟩,covered.2,grows⟩
  · exact absurd exposed durable.not_exposed

/-- A pass in which every call is answered ends with everything stored. -/
theorem Kept.clean (r : KnativeAdoptionReconciler) (kept : Kept c0 a0 c) (out : Result × Option ApiError)
    (run : Run apiserver Drift (reconcile r a0.key) c log (some out) d) (clean : Clean log) : Kept c0 a0 d :=
  ((ensures_reconcile r kept log (some out) d run).2 out rfl).2 clean

theorem Kept.before (r : KnativeAdoptionReconciler) (kept : Kept c0 a0 c) (out : Option (Result × Option ApiError))
    (run : Run apiserver Drift (reconcile r a0.key) c log out d) : ∀ e ∈ log, Fading c0 a0 e.before := by
  intro e member
  obtain ⟨before,after,rfl⟩ := List.append_of_mem member
  obtain ⟨m,ran,moved⟩ := run_before _ c d before after e out run
  obtain ⟨_,_,_,_,_,fading,_⟩ := (ensures_reconcile r kept before none m ran).1
  exact fading.drift moved

theorem Kept.start (held : c0.adoptions.get a0.key = some a0) (live : a0.deleting = false)
    (fresh : a0.status.sourceSnapshot = none) : Kept c0 a0 c0 := by
  refine ⟨⟨a0,held,rfl,live,?_,?_⟩,fun _ _ _ found => found,Or.inl rfl⟩
  · rw [fresh]
    exact ⟨fun i entered => absurd (entry_none a0.ns i) entered,unique_none⟩
  · rw [fresh]
    exact .start _ _ (entry_none a0.ns)

theorem kept_passes (r : KnativeAdoptionReconciler) (start : Kept c0 a0 c0)
    (passes : List (Pass Request Response String Cluster (Result × Option ApiError)))
    (run : Passes apiserver Drift (reconcile r a0.key) c0 passes c)
    (durable : ∀ pass ∈ passes, Durable a0 pass.log) :
    Kept c0 a0 c ∧ Entered c0 a0 (history passes) (entry a0.ns (persisted a0 c)) ∧
      ∀ e ∈ history passes, Fading c0 a0 e.before := by
  induction run with
  | start => exact ⟨start,by simp [Entered,history],by simp [history]⟩
  | drift t u passes before moved ih =>
    obtain ⟨kept,entered,fading⟩ := ih durable
    rw [persisted_drift moved]
    exact ⟨kept.drift moved,entered,fading⟩
  | pass t u passes log out before ran ih =>
    obtain ⟨kept,entered,fading⟩ := ih (fun pass member => durable pass (List.mem_append_left _ member))
    obtain ⟨after,new,grows⟩ := kept.pass r out ran (durable ⟨t,log,out⟩ (by simp))
    have old := entered.grow _ _ grows
    rw [history_append]
    refine ⟨after,fun e member => ?_,fun e member => ?_⟩
    · exact (List.mem_append.mp member).elim (old e) (new e)
    · exact (List.mem_append.mp member).elim (fading e) (kept.before r out ran e)

end Passes

/-! What the stored snapshot has to hold after the calls of `log`. -/

section Snapshots
variable (start : Cluster) (a : KnativeAdoption) (log : CallLog) (snapshot : Option SourceSnapshot)

/-- A Service the operator deleted is in the snapshot, without its addresses. -/
def ServiceAhead : Prop :=
  ∀ e ∈ log, e.Took → e.request = .deleteService a.key → ∀ svc, e.before.services.get a.key = some svc →
    knativeOwned svc = false → snapshot.bind (fun s => s.service) = some svc.spec.stripAddresses

/-- The replicas of a source the operator scaled to zero are in the snapshot. -/
def ReplicasAhead : Prop :=
  ∀ e ∈ log, e.Took → e.request = .applyReplicas (sourceKey a) 0 →
    ∀ dep, e.before.deployments.get (sourceKey a) = some dep → dep.spec.effectiveReplicas ≠ 0 →
      snapshot.bind (fun s => s.replicas) = some dep.spec.effectiveReplicas

/-- The first spec of a traffic object the operator patched is in the snapshot. -/
def TrafficAhead : Prop :=
  ∀ e ∈ log, e.Took → ∀ key patch, e.request = .patchTraffic key patch → ∀ o, e.before.traffic.get key = some o →
    ∃ first item, start.traffic.get key = some first ∧ key.key.ns = a.ns ∧
      item ∈ snapshotItems snapshot key.kind ∧ item.name = key.key.name ∧ item.spec = first.spec

structure WriteAhead : Prop where
  service : ServiceAhead a log snapshot
  replicas : ReplicasAhead a log snapshot
  traffic : TrafficAhead start a log snapshot

end Snapshots

section Entries
variable {c0 : Cluster} {a0 : KnativeAdoption} {log : CallLog} {snapshot : Option SourceSnapshot}

theorem entry_service {ns : String} {spec : ServiceSpec} (held : entry ns snapshot .service = some (.service spec)) :
    snapshot.bind (fun s => s.service) = some spec := by
  cases found : snapshot.bind (fun s => s.service) <;> simp_all [entry]

theorem entry_replicas {ns : String} {count : Int} (held : entry ns snapshot .replicas = some (.replicas count)) :
    snapshot.bind (fun s => s.replicas) = some count := by
  cases found : snapshot.bind (fun s => s.replicas) <;> simp_all [entry]

theorem entry_traffic {ns : String} {key : TrafficKey} {spec : RawExtension}
    (held : entry ns snapshot (.traffic key) = some (.traffic spec)) :
    key.key.ns = ns ∧ ∃ item ∈ snapshotItems snapshot key.kind, item.name = key.key.name ∧ item.spec = spec := by
  simp only [entry] at held
  split at held
  next here =>
    obtain ⟨item,found,same⟩ := Option.map_eq_some_iff.mp held
    refine ⟨here,item,List.mem_of_find?_eq_some found,?_,Image.traffic.inj same⟩
    simpa using List.find?_some found
  next other => cases held

theorem Entered.service (fading : ∀ e ∈ log, Fading c0 a0 e.before)
    (entered : Entered c0 a0 log (entry a0.ns snapshot)) : ServiceAhead a0 log snapshot := by
  intro e member took request svc held free
  have present : image a0 e.before .service = some (.service svc.spec.stripAddresses) := by
    simp [image,held,serviceImage,free]
  obtain ⟨v,value,origin⟩ := entered e member took .service (by simp [request,hits]) (by simp [present])
  rw [(fading e member).images .service _ (Or.inl rfl) present] at origin
  exact entry_service (value.trans origin.symm)

theorem Entered.replicas (fading : ∀ e ∈ log, Fading c0 a0 e.before)
    (entered : Entered c0 a0 log (entry a0.ns snapshot)) : ReplicasAhead a0 log snapshot := by
  intro e member took request dep held running
  have present : image a0 e.before .replicas = some (.replicas dep.spec.effectiveReplicas) := by
    simp [image,held,replicasImage,running]
  obtain ⟨v,value,origin⟩ := entered e member took .replicas (by simp [request,hits]) (by simp [present])
  rw [(fading e member).images .replicas _ (Or.inr rfl) present] at origin
  exact entry_replicas (value.trans origin.symm)

theorem Entered.traffic (entered : Entered c0 a0 log (entry a0.ns snapshot)) : TrafficAhead c0 a0 log snapshot := by
  intro e member took key patch request o held
  obtain ⟨v,value,origin⟩ := entered e member took (.traffic key) (by simp [request,hits]) (by simp [image,held])
  obtain ⟨first,found,same⟩ := Option.map_eq_some_iff.mp origin
  obtain ⟨here,item,inside,name,spec⟩ := entry_traffic (value.trans (congrArg some same.symm))
  exact ⟨first,item,found,here,inside,name,spec⟩

end Entries

/-- In every run of adoption passes, with faults, crashes and drift, in which each pass
stores its entries, the stored snapshot is ahead of the calls made. -/
theorem writeAhead_of_durable (r : KnativeAdoptionReconciler) (c0 c : Cluster) (a0 : KnativeAdoption)
    (passes : List (Pass Request Response String Cluster (Result × Option ApiError)))
    (held : c0.adoptions.get a0.key = some a0) (live : a0.deleting = false)
    (fresh : a0.status.sourceSnapshot = none)
    (run : Passes apiserver Drift (reconcile r a0.key) c0 passes c)
    (durable : ∀ pass ∈ passes, Durable a0 pass.log) :
    WriteAhead c0 a0 (history passes) (persisted a0 c) := by
  obtain ⟨_,entered,fading⟩ := kept_passes r (Kept.start held live fresh) passes run durable
  exact ⟨entered.service fading,entered.replicas fading,entered.traffic⟩

/-! A workload with a Service and a DestinationRule. -/

namespace Sample

def deployment : Deployment where
  ns := "prod"
  name := "web"
  labels := [(labelEnabled,labelEnabledValue)]
  spec :=
    { replicas := some 3
      template := { containers := [{ name := "main", ports := [{ containerPort := 8080 }] }] } }

def service : Service where
  ns := "prod"
  name := "web"
  spec := { clusterIP := "10.0.0.1", clusterIPs := ["10.0.0.1"], ports := [{ port := 80 }] }

def destinationRule : TrafficObject where
  key := ⟨.destinationRule,⟨"prod","web"⟩⟩
  body := Obj.ofList [("spec",(Obj.ofList [("host",.str "web"),("subsets",.str "v1")]).json)]
  shaped := by decide

def adoption : KnativeAdoption where
  ns := "prod"
  name := "web"
  uid := 7
  spec :=
    { sourceRef := { name := "web" }
      traffic := some { enabled := true, istio := some { destinationRuleRefs := ["web"] } } }

def cluster : Cluster where
  adoptions := .ofList [adoption]
  deployments := .ofList [deployment]
  services := .ofList [service]
  traffic := .ofList [destinationRule]

/-- A reconciler that takes every Knative Service for ready. -/
def reconciler : KnativeAdoptionReconciler := { serviceReady := some (fun _ => (true,"")) }

def pass : Op (Result × Option ApiError) := reconcile reconciler adoption.key

end Sample

/-- Two passes that get through: the Service is swapped, then the rest is adopted. -/
theorem writeAhead_adopted :
    let run := apiserver.execPasses Sample.pass [List.replicate 7 .none,List.replicate 11 .none] Sample.cluster
    WriteAhead Sample.cluster Sample.adoption (history run.1) (persisted Sample.adoption run.2) ∧
      (persisted Sample.adoption run.2).bind (fun s => s.service) = some Sample.service.spec.stripAddresses ∧
      (persisted Sample.adoption run.2).bind (fun s => s.replicas) = some 3 ∧
      (snapshotItems (persisted Sample.adoption run.2) .destinationRule).map (fun item => item.spec) =
        [Sample.destinationRule.spec] := by
  refine ⟨writeAhead_of_durable Sample.reconciler Sample.cluster _ Sample.adoption _ rfl rfl rfl
    (passes_exec apiserver Drift Drift.refl _ _ _) ?_,by decide +kernel,by decide +kernel,by decide +kernel⟩
  have patched : ((apiserver.execPasses Sample.pass [List.replicate 7 .none,List.replicate 11 .none]
      Sample.cluster).1.all (fun pass => pass.log.getLast?.any isStatusPatch)) = true := by decide +kernel
  exact fun pass member => durable_last _ _ (List.all_eq_true.mp patched pass member)

/-- A crash right after the Service was deleted loses its spec. -/
theorem writeAhead_crash :
    let run := apiserver.execPasses Sample.pass [List.replicate 6 .none] Sample.cluster
    Passes apiserver Drift Sample.pass Sample.cluster run.1 run.2 ∧
      run.2.services.get Sample.adoption.key = none ∧ persisted Sample.adoption run.2 = none ∧
      ¬ WriteAhead Sample.cluster Sample.adoption (history run.1) (persisted Sample.adoption run.2) := by
  refine ⟨passes_exec apiserver Drift Drift.refl _ _ _,by decide +kernel,by decide +kernel,fun ahead => ?_⟩
  have member : apiserver.event .none (apiserver.exec Sample.pass (List.replicate 5 .none) Sample.cluster).2.2
      (.deleteService Sample.adoption.key) ∈
      history (apiserver.execPasses Sample.pass [List.replicate 6 .none] Sample.cluster).1 :=
    List.mem_of_getElem? (i := 5) rfl
  have lost := ahead.service _ member nofun rfl Sample.service rfl rfl
  revert lost
  decide +kernel

end Ifaas
