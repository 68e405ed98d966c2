import Ifaas.WriteAhead

/-! One pass over a live adoption is a pipeline. `Reached` says how far a pass came: each
milestone is a completed run of the stage before it. The writes of a pass are careful
when the finalizers are stored before the first of them and each one comes after the
milestone that allows it. -/
namespace Ifaas
open Library

/-- The call may write a Deployment, a Service, a Knative Service or a traffic object. -/
def Request.touches (r : Request) : Bool :=
  match r.part with
  | none | some .adoptions => false
  | some _ => true

/-- The calls write only the given parts of the cluster. -/
def Calm (parts : List Part) (log : CallLog) : Prop :=
  ∀ e ∈ log, ∀ part, e.request.part = some part → part ∈ parts

/-- Both finalizers are stored on the adoption. -/
def Guarded (key : NamespacedName) (c : Cluster) : Prop :=
  ∃ st, c.adoptions.get key = some st ∧ finalizerRestoreSourceService ∈ st.finalizers ∧
    finalizerRestoreSource ∈ st.finalizers

theorem touches_part (r : Request) (touches : r.touches = true) : ∃ part, r.part = some part ∧ part ≠ .adoptions := by
  cases part : r.part with
  | none => simp [Request.touches,part] at touches
  | some found =>
    refine ⟨found,rfl,fun same => ?_⟩
    simp [Request.touches,part,same] at touches

theorem Calm.untouched {log : CallLog} (calm : Calm [.adoptions] log) : ∀ e ∈ log, e.request.touches = false := by
  intro e member
  by_contra touched
  obtain ⟨part,found,other⟩ := touches_part e.request (by simpa using touched)
  exact other (by simpa using calm e member part found)

theorem Calm.mono {parts more : List Part} {log : CallLog} (calm : Calm parts log) (inside : parts ⊆ more) :
    Calm more log :=
  fun e member part found => inside (calm e member part found)

theorem Calm.append {parts : List Part} {log rest : CallLog} (first : Calm parts log) (second : Calm parts rest) :
    Calm parts (log++rest) := by
  intro e member
  rcases List.mem_append.mp member with inside | last
  · exact first e inside
  · exact second e last

theorem calm_event {parts : List Part} (e : Event Request Response String Cluster)
    (fine : ∀ part, e.request.part = some part → part ∈ parts) : Calm parts [e] := by
  intro event member
  rw [List.mem_singleton.mp member]
  exact fine

theorem calm_run {env : Cluster → Cluster → Prop} {α : Type} {parts : List Part} {p : Op α} (within : Within parts p)
    {c d : Cluster} {log : CallLog} {out : Option α} (run : Run apiserver env p c log out d) : Calm parts log :=
  run_uses within run

theorem Guarded.drift {key : NamespacedName} {c d : Cluster} (guarded : Guarded key c) (moved : Drift c d) :
    Guarded key d := by
  obtain ⟨st,held,first,second⟩ := guarded
  obtain ⟨conditions,after⟩ := moved.adoptions key
  exact ⟨st.withConditions conditions,by rw [after,held]; rfl,first,second⟩

theorem Guarded.serve {key : NamespacedName} {c : Cluster} (guarded : Guarded key c) (fault : Fault String) (r : Request)
    (other : r.part ≠ some .adoptions) : Guarded key (apiserver.serve fault c r).1 := by
  unfold Guarded
  rw [serve_adoptions fault c r other]
  exact guarded

theorem mem_addFinalizer (finalizers : List String) (name : String) : name ∈ addFinalizer finalizers name := by
  unfold addFinalizer
  split
  next held => exact held
  next missing => simp

theorem mem_addFinalizer_of_mem (finalizers : List String) (name other : String) (member : other ∈ finalizers) :
    other ∈ addFinalizer finalizers name := by
  unfold addFinalizer
  split
  next held => exact member
  next missing => exact List.mem_append_left _ member

/-- A pass that goes on after `ensureFinalizers` has both finalizers stored. -/
theorem guarded_ensureFinalizers (a b : KnativeAdoption) (c d : Cluster) (log : CallLog)
    (held : c.adoptions.get a.key = some a) (live : a.deleting = false)
    (run : Run apiserver Drift (ensureFinalizers a) c log (some (.ok b)) d) : Guarded a.key d ∧ b.key = a.key := by
  have both (sent : List String)
      (same : addFinalizer (addFinalizer a.finalizers finalizerRestoreSourceService) finalizerRestoreSource = sent) :
      finalizerRestoreSourceService ∈ sent ∧ finalizerRestoreSource ∈ sent := by
    rw [← same]
    exact ⟨mem_addFinalizer_of_mem _ _ _ (mem_addFinalizer _ _),mem_addFinalizer _ _⟩
  unfold ensureFinalizers at run
  dsimp only at run
  split at run
  next present =>
    obtain ⟨_,rfl,⟨⟩⟩ := run_return run
    exact ⟨⟨a,held,both _ present⟩,rfl⟩
  next missing =>
    generalize addFinalizer (addFinalizer a.finalizers finalizerRestoreSourceService) finalizerRestoreSource = sent
      at both run
    obtain ⟨answer,e,first,rest,_,asked,following⟩ := run_bind_some run
    · obtain ⟨m,fault,moved,_,served⟩ := run_request asked
      obtain ⟨conditions,after⟩ := moved.adoptions a.key
      rw [held] at after
      obtain ⟨next,stored,_,_,_,response⟩ := serve_patchFinalizers fault m _ a.key sent after live
      rw [served] at stored response
      cases answer with
      | error err => cases (run_return following).2.2
      | ok found =>
        obtain ⟨_,rfl,⟨⟩⟩ := run_return following
        obtain ⟨rfl,finalizers⟩ := response b rfl
        refine ⟨⟨b,stored,?_⟩,d.adoptions.keyed _ _ stored⟩
        rw [finalizers]
        exact both sent rfl

/-! How far a pass came. -/

/-- What a pass has in hand, with the adoption it holds in memory. -/
inductive Milestone where
  | opened (a : KnativeAdoption)
  | sourced (a : KnativeAdoption) (dep : Deployment)
  | rejected (err : TranslateError)
  | translated (a : KnativeAdoption) (dep : Deployment) (ksvc : KService)
  | swapped (a : KnativeAdoption) (dep : Deployment) (ksvc : KService) (decision : SwapDecision)
  | adapted (a : KnativeAdoption) (dep : Deployment) (ksvc : KService)
  | applied (dep : Deployment) (owned : KService)
  | ready (dep : Deployment) (owned live : KService)

/-- The pass translates nothing or must not swap. -/
def Milestone.refuses : Milestone → Bool
  | .rejected _ => true
  | .swapped _ _ _ .refused => true
  | _ => false

section Passes
variable (r : KnativeAdoptionReconciler) (key : NamespacedName) (c : Cluster)

inductive Reached : CallLog → Cluster → Milestone → Prop where
  | opened (first rest : CallLog) (d e : Cluster) (a b : KnativeAdoption)
      (read : Run apiserver Drift (Client.getAdoption key) c first (some (.ok a)) d) (live : a.deleting = false)
      (ensured : Run apiserver Drift (ensureFinalizers a) d rest (some (.ok b)) e) :
      Reached (first++rest) e (.opened b)
  | sourced (log more : CallLog) (d e : Cluster) (a : KnativeAdoption) (dep : Deployment)
      (before : Reached log d (.opened a))
      (found : Run apiserver Drift (getSourceDeployment a) d more (some (.ok (some dep))) e) :
      Reached (log++more) e (.sourced a dep)
  | rejected (log more : CallLog) (d e : Cluster) (a b : KnativeAdoption) (dep : Deployment) (err : TranslateError)
      (before : Reached log d (.sourced a dep))
      (asked : Run apiserver Drift (maybeRunGuard r (removeCondition a .sourceMissing)) d more (some b) e)
      (refused : translate dep b = .error err) : Reached (log++more) e (.rejected err)
  | translated (log more : CallLog) (d e : Cluster) (a b : KnativeAdoption) (dep : Deployment) (ksvc : KService)
      (before : Reached log d (.sourced a dep))
      (asked : Run apiserver Drift (maybeRunGuard r (removeCondition a .sourceMissing)) d more (some b) e)
      (accepted : translate dep b = .ok ksvc) :
      Reached (log++more) e (.translated (removeCondition b .translationDegraded) dep ksvc)
  | swapped (log more : CallLog) (d e : Cluster) (a b : KnativeAdoption) (dep : Deployment) (ksvc : KService)
      (decision : SwapDecision) (before : Reached log d (.translated a dep ksvc))
      (decided : Run apiserver Drift (swapService a) d more (some (b,.ok decision)) e) :
      Reached (log++more) e (.swapped b dep ksvc decision)
  | adapted (log more : CallLog) (d e : Cluster) (a b : KnativeAdoption) (dep : Deployment) (ksvc : KService)
      (before : Reached log d (.swapped a dep ksvc .pass))
      (fine : Run apiserver Drift (adaptTraffic a) d more (some (.ok b)) e) : Reached (log++more) e (.adapted b dep ksvc)
  | applied (log more : CallLog) (d e : Cluster) (a : KnativeAdoption) (dep : Deployment) (ksvc owned : KService)
      (before : Reached log d (.adapted a dep ksvc)) (owner : setControllerReference a ksvc = .ok owned)
      (sent : Run apiserver Drift (applyKnativeService owned) d more (some (.ok ())) e) :
      Reached (log++more) e (.applied dep owned)
  | ready (log more : CallLog) (d e : Cluster) (dep : Deployment) (owned live : KService)
      (before : Reached log d (.applied dep owned))
      (read : Run apiserver Drift (Client.getKService owned.key) d more (some (.ok live)) e)
      (up : (r.ready live).1 = true) : Reached (log++more) e (.ready dep owned live)

/-- The Service is deleted right after a read that classifies it as one to take over, in
a pass whose translation succeeded. -/
def Clears (before : CallLog) (request : Request) : Prop :=
  request = .deleteService key ∧ ∃ first read d m a dep ksvc svc, before = first++[read] ∧
    Reached r key c first d (.translated a dep ksvc) ∧
    Run apiserver Drift (Client.getService key) d [read] (some (.ok svc)) m ∧
    classifyServiceForSwap (some svc) = .takenOver

/-- The source is scaled to zero once the applied Knative Service was read back ready. -/
def Quiesces (before : CallLog) (request : Request) : Prop :=
  ∃ d dep owned live, Reached r key c before d (.ready dep owned live) ∧ request = .applyReplicas dep.key 0

/-- What a pass may have done: no write without both finalizers stored, a Service
deleted only as the single write of the pass, and the source scaled only at the end. -/
structure Careful (log : CallLog) : Prop where
  guarded : ∀ e ∈ log, e.request.touches = true → Guarded key e.before
  services : ∀ before e after, log = before++e::after → e.request.part = some .services →
    Clears r key c before e.request ∧ Calm [.adoptions] before ∧ Calm [.adoptions] after
  deployments : ∀ before e after, log = before++e::after → e.request.part = some .deployments →
    Quiesces r key c before e.request

variable {r key c} {d : Cluster} {log : CallLog} {parts : List Part}

theorem careful_nil : Careful r key c [] :=
  ⟨by simp,fun before e after empty => by simp at empty,fun before e after empty => by simp at empty⟩

theorem split_last {α : Type} (log before after : List α) (x e : α) (split : log++[x] = before++e::after) :
    (after = [] ∧ before = log ∧ e = x) ∨ ∃ rest, after = rest++[x] ∧ log = before++e::rest := by
  cases after using List.reverseRecOn with
  | nil =>
    obtain ⟨same,last⟩ := List.append_inj' split rfl
    exact Or.inl ⟨rfl,same.symm,(List.cons.inj last).1.symm⟩
  | append_singleton rest y =>
    rw [← List.cons_append,← List.append_assoc] at split
    obtain ⟨same,last⟩ := List.append_inj' split rfl
    exact Or.inr ⟨rest,by rw [(List.cons.inj last).1],same⟩

theorem Careful.append (careful : Careful r key c log) (e : Event Request Response String Cluster)
    (guarded : e.request.touches = true → Guarded key e.before)
    (alone : e.request.touches = true → ∀ other ∈ log, other.request.part ≠ some .services)
    (services : e.request.part = some .services → Clears r key c log e.request ∧ Calm [.adoptions] log)
    (deployments : e.request.part = some .deployments → Quiesces r key c log e.request) :
    Careful r key c (log++[e]) where
  guarded event member := by
    rcases List.mem_append.mp member with inside | last
    · exact careful.guarded event inside
    · rw [List.mem_singleton.mp last]
      exact guarded
  services before event after split part := by
    rcases split_last _ _ _ _ _ split with ⟨rfl,rfl,rfl⟩ | ⟨rest,rfl,rfl⟩
    · obtain ⟨clears,calm⟩ := services part
      exact ⟨clears,calm,by simp [Calm]⟩
    · obtain ⟨clears,first,second⟩ := careful.services before event rest rfl part
      refine ⟨clears,first,second.append (calm_event e (fun found same => ?_))⟩
      have untouched : e.request.touches = false := by
        by_contra touched
        exact alone (by simpa using touched) event (by simp) part
      cases found <;> simp_all [Request.touches]
  deployments before event after split part := by
    rcases split_last _ _ _ _ _ split with ⟨rfl,rfl,rfl⟩ | ⟨rest,rfl,rfl⟩
    · exact deployments part
    · exact careful.deployments before event rest rfl part

theorem Careful.quiet (careful : Careful r key c log) (e : Event Request Response String Cluster)
    (quiet : e.request.part = none ∨ e.request.part = some .adoptions) : Careful r key c (log++[e]) := by
  have untouched : e.request.touches ≠ true := by
    rcases quiet with part | part <;> simp [Request.touches,part]
  refine careful.append e (fun touched => absurd touched untouched) (fun touched => absurd touched untouched) ?_ ?_
  · rcases quiet with part | part <;> simp [part]
  · rcases quiet with part | part <;> simp [part]

/-- The state of a pass that has written only the given parts so far. -/
structure Steady (r : KnativeAdoptionReconciler) (key : NamespacedName) (c : Cluster) (parts : List Part) (d : Cluster)
    (log : CallLog) : Prop where
  guarded : Guarded key d
  careful : Careful r key c log
  calm : Calm (.adoptions::parts) log

theorem Steady.drift {e : Cluster} (steady : Steady r key c parts d log) (moved : Drift d e) :
    Steady r key c parts e log :=
  { steady with guarded := steady.guarded.drift moved }

theorem Steady.mono {more : List Part} (steady : Steady r key c parts d log) (inside : parts ⊆ more) :
    Steady r key c more d log :=
  { steady with calm := steady.calm.mono (List.cons_subset_cons _ inside) }

theorem Steady.serve (steady : Steady r key c parts d log) (few : parts ⊆ [.traffic,.ksvcs]) (fault : Fault String)
    (request : Request) (within : ∀ part, request.part = some part → part ∈ parts) :
    Steady r key c parts (apiserver.serve fault d request).1 (log++[apiserver.event fault d request]) where
  guarded := by
    refine steady.guarded.serve fault request (fun part => ?_)
    simpa using few (within _ part)
  careful := by
    refine steady.careful.append _ (fun _ => steady.guarded) (fun _ other member part => ?_) (fun part => ?_)
      (fun part => ?_)
    · rcases List.mem_cons.mp (steady.calm other member _ part) with same | inside
      · cases same
      · simpa using few inside
    · simpa using few (within _ part)
    · simpa using few (within _ part)
  calm := steady.calm.append (calm_event _ (fun part found => List.mem_cons_of_mem _ (within part found)))

/-- A stage that deletes no Service and does not touch the source is careful. -/
theorem ensures_steady {α : Type} (p : Op α) (within : Within parts p) (few : parts ⊆ [.traffic,.ksvcs])
    (steady : Steady r key c parts d log) :
    Ensures apiserver Drift (fun _ past => Careful r key c past) p (fun _ => Steady r key c parts) d log :=
  ensures_inv _ _ _ _ _ (fun _ _ kept => kept.careful) (ensures_uses _ (fun _ _ _ moved kept => kept.drift moved)
    (fun _ _ fault request fine kept => kept.serve few fault request fine) p within d log steady)

/-- A stage that only writes the adoption. -/
theorem ensures_closing {α : Type} (p : Op α) (within : Within [.adoptions] p) (careful : Careful r key c log) :
    Ensures apiserver Drift (fun _ past => Careful r key c past) p (fun _ _ past => Careful r key c past) d log := by
  refine ensures_uses _ (fun _ _ _ _ kept => kept) (fun _ _ fault request fine kept => ?_) p within d log careful
  refine kept.quiet _ ?_
  change request.part = none ∨ request.part = some .adoptions
  cases part : request.part with
  | none => exact Or.inl rfl
  | some found => exact Or.inr (by rw [List.mem_singleton.mp (fine found part)])

/-- The swap deletes the Service it has just classified, or writes nothing. -/
theorem ensures_swapService_careful (a : KnativeAdoption) (dep : Deployment) (ksvc : KService)
    (same : a.key = key) (steady : Steady r key c [] d log) (reached : Reached r key c log d (.translated a dep ksvc)) :
    Ensures apiserver Drift (fun _ past => Careful r key c past) (swapService a)
      (fun result e past => Careful r key c past ∧ (∀ b, result = (b,.ok .pass) → Steady r key c [] e past)) d log := by
  refine ensures_ask steady.careful (fun e fault moved => ?_)
  have read := (steady.drift moved).serve (by simp) fault (.getService a.key) (by simp [Request.part])
  have ended (result : KnativeAdoption × Except ApiError SwapDecision) : Ensures apiserver Drift
      (fun _ past => Careful r key c past) (pure result)
      (fun result e past => Careful r key c past ∧ (∀ b, result = (b,.ok .pass) → Steady r key c [] e past))
      (apiserver.serve fault e (.getService a.key)).1 (log++[apiserver.event fault e (.getService a.key)]) :=
    ensures_pure read.careful ⟨read.careful,fun _ _ => read⟩
  cases answer : (apiserver.serve fault e (.getService a.key)).2 with
  | error err =>
    dsimp only
    split <;> exact ended _
  | ok svc =>
    have filed : svc.key = a.key := e.services.keyed _ _ (getService_ok answer)
    have asked : Run apiserver Drift (Client.getService key) d [apiserver.event fault e (.getService key)]
        (some (.ok svc)) (apiserver.serve fault e (.getService key)).1 := by
      rw [same] at answer
      refine .call _ _ _ _ _ fault [] _ moved ?_
      rw [answer]
      exact .done _ _
    simp only [swapFound]
    split
    · exact ended _
    · exact ended _
    next taken =>
      refine ensures_bind (ensures_ask read.careful (fun f fault' moved' => ?_))
      have cleared : Careful r key c ((log++[apiserver.event fault e (.getService a.key)])++
          [apiserver.event fault' f (.deleteService svc.key)]) := by
        refine read.careful.append _ (fun _ => read.guarded.drift moved') (fun _ other member part => ?_)
          (fun _ => ⟨⟨?_,log,_,d,_,a,dep,ksvc,svc,by rw [same],reached,asked,taken⟩,read.calm⟩) (fun part => by cases part)
        · have inside := read.calm other member _ part
          simp at inside
        · change Request.deleteService svc.key = .deleteService key
          rw [filed,same]
      cases reply : (apiserver.serve fault' f (.deleteService svc.key)).2 with
      | error err =>
        dsimp only
        split
        · exact ensures_pure cleared (ensures_pure cleared ⟨cleared,fun b equal => by cases equal⟩)
        · exact ensures_pure cleared (ensures_pure cleared ⟨cleared,fun b equal => by cases equal⟩)
      | ok done =>
        exact ensures_pure cleared (ensures_pure cleared ⟨cleared,fun b equal => by cases equal⟩)

theorem ensures_quiesceSource_careful (a : KnativeAdoption) (dep : Deployment) (owned live : KService)
    (steady : Steady r key c [.traffic,.ksvcs] d log) (reached : Reached r key c log d (.ready dep owned live)) :
    Ensures apiserver Drift (fun _ past => Careful r key c past) (quiesceSource a dep)
      (fun _ _ past => Careful r key c past) d log := by
  unfold quiesceSource
  split
  · exact ensures_pure steady.careful steady.careful
  · refine ensures_ask steady.careful (fun e fault moved => ?_)
    have scaled : Careful r key c (log++[apiserver.event fault e (.applyReplicas dep.key 0)]) := by
      refine steady.careful.append _ (fun _ => steady.guarded.drift moved) (fun _ other member part => ?_) nofun
        (fun _ => ⟨d,dep,owned,live,reached,rfl⟩)
      have inside := steady.calm other member _ part
      simp at inside
    cases reply : (apiserver.serve fault e (.applyReplicas dep.key 0)).2 <;> exact ensures_pure scaled scaled

theorem ensures_awaitKService_careful (a : KnativeAdoption) (dep : Deployment) (owned : KService)
    (steady : Steady r key c [.traffic,.ksvcs] d log) (reached : Reached r key c log d (.applied dep owned)) :
    Ensures apiserver Drift (fun _ past => Careful r key c past) (awaitKService r a dep owned)
      (fun _ _ past => Careful r key c past) d log := by
  refine ensures_bind (ensures_mono (ensures_steady (Client.getKService owned.key)
    (within_read _ rfl) (by simp) steady) ?_)
  rintro (err | live) e calls run after
  · exact ensures_pure after.careful after.careful
  · dsimp only
    split
    next up =>
      refine ensures_bind (ensures_mono (ensures_quiesceSource_careful _ dep owned live after
        (.ready log calls d e dep owned live reached run up)) ?_)
      rintro ⟨b,_ | err⟩ f more _ careful
      · dsimp only
        split <;> exact ensures_pure careful careful
      · exact ensures_pure careful careful
    · exact ensures_pure after.careful after.careful

theorem ensures_applyAdopted_careful (a : KnativeAdoption) (dep : Deployment) (ksvc : KService)
    (steady : Steady r key c [.traffic] d log) (reached : Reached r key c log d (.adapted a dep ksvc)) :
    Ensures apiserver Drift (fun _ past => Careful r key c past) (applyAdopted r a dep ksvc)
      (fun _ _ past => Careful r key c past) d log := by
  unfold applyAdopted
  split
  · exact ensures_pure steady.careful steady.careful
  next owned owner =>
    refine ensures_bind (ensures_mono (ensures_steady _
      (within_mono _ (within_applyKnativeService owned) (by simp)) (List.Subset.refl _)
      (steady.mono (by simp : [Part.traffic] ⊆ [Part.traffic,Part.ksvcs]))) ?_)
    rintro (err | ⟨⟩) e calls run after
    · exact ensures_pure after.careful after.careful
    · exact ensures_awaitKService_careful _ dep owned after (.applied log calls d e a dep ksvc owned reached owner run)

theorem ensures_adoptTranslated_careful (a : KnativeAdoption) (dep : Deployment) (ksvc : KService) (same : a.key = key)
    (steady : Steady r key c [] d log) (reached : Reached r key c log d (.translated a dep ksvc)) :
    Ensures apiserver Drift (fun _ past => Careful r key c past) (adoptTranslated r a dep ksvc)
      (fun _ _ past => Careful r key c past) d log := by
  refine ensures_bind (ensures_mono (ensures_swapService_careful a dep ksvc same steady reached) ?_)
  rintro ⟨b,err | decision⟩ e calls run ⟨careful,passed⟩
  · exact ensures_pure careful careful
  · cases decision with
    | refused => exact ensures_pure careful careful
    | takenOver => exact ensures_pure careful careful
    | pass =>
      have swapped := Reached.swapped log calls d e a b dep ksvc .pass reached run
      refine ensures_bind (ensures_mono (ensures_steady _ (within_adaptTraffic b) (by simp)
        ((passed b rfl).mono (List.nil_subset _))) ?_)
      rintro (ended | adapted) f more run' after
      · exact ensures_pure after.careful after.careful
      · exact ensures_applyAdopted_careful adapted dep ksvc after (.adapted _ more e f b adapted dep ksvc swapped run')

theorem ensures_reconcileAdoption_careful (a : KnativeAdoption) (same : a.key = key) (steady : Steady r key c [] d log)
    (reached : Reached r key c log d (.opened a)) :
    Ensures apiserver Drift (fun _ past => Careful r key c past) (reconcileAdoption r a)
      (fun _ _ past => Careful r key c past) d log := by
  refine ensures_bind (ensures_mono (ensures_steady _ (within_getSourceDeployment a) (by simp)
    steady) ?_)
  rintro (err | _ | dep) e calls run after
  · exact ensures_pure after.careful after.careful
  · exact ensures_pure after.careful after.careful
  · have sourced := Reached.sourced log calls d e a dep reached run
    refine ensures_bind (ensures_mono (ensures_returns _ _ (returns_maybeRunGuard guardAlong_sameLedger r _) _ _ _
      (ensures_steady _ (within_maybeRunGuard r (removeCondition a .sourceMissing)) (by simp) after)) ?_)
    rintro b f more run' ⟨ledger,later⟩
    split
    · exact ensures_pure later.careful later.careful
    next ksvc accepted =>
      refine ensures_adoptTranslated_careful _ dep ksvc ?_ later
        (.translated _ more e f a b dep ksvc sourced run' accepted)
      exact (congrArg ObjectMeta.key ledger.metadata).trans same

/-- The adoption a pass reads is the stored one, conditions aside. -/
theorem run_getAdoption (a : KnativeAdoption) (live : ∀ st, c.adoptions.get key = some st → st.deleting = false)
    (run : Run apiserver Drift (Client.getAdoption key) c log (some (.ok a)) d) :
    d.adoptions.get key = some a ∧ a.key = key ∧ a.deleting = false := by
  obtain ⟨m,fault,moved,_,served⟩ := run_request run
  have state : d = m := (congrArg Prod.fst served).symm.trans (serve_read _ rfl)
  have held : m.adoptions.get key = some a := getAdoption_ok (congrArg Prod.snd served)
  obtain ⟨conditions,drifted⟩ := moved.adoptions key
  obtain ⟨st,before,same⟩ := Option.map_eq_some_iff.mp (drifted.symm.trans held)
  refine ⟨by rw [state]; exact held,m.adoptions.keyed _ _ held,?_⟩
  rw [← same]
  exact live st before

theorem ensures_reconcile_careful (live : ∀ st, c.adoptions.get key = some st → st.deleting = false) :
    Ensures apiserver Drift (fun _ past => Careful r key c past) (reconcile r key)
      (fun _ _ past => Careful r key c past) c [] := by
  refine ensures_bind (ensures_mono (ensures_closing (Client.getAdoption key)
    (within_read _ rfl) careful_nil) ?_)
  rintro (err | a) d calls run careful
  · dsimp only
    split <;> exact ensures_pure careful careful
  · obtain ⟨held,same,alive⟩ := run_getAdoption a live run
    simp only [alive,Bool.false_eq_true,if_false]
    refine ensures_bind (ensures_mono (ensures_closing _ (within_ensureFinalizers a) careful) ?_)
    rintro (err | b) e more run' after
    · exact ensures_pure after after
    · obtain ⟨guarded,named⟩ := guarded_ensureFinalizers a b d e more (by rw [same]; exact held) alive run'
      rw [same] at guarded named
      have calm : Calm [.adoptions] ([]++calls++more) :=
        (calm_run (within_read _ rfl) run).append (calm_run (within_ensureFinalizers a) run')
      refine ensures_bind (ensures_mono (ensures_reconcileAdoption_careful b named
        ⟨guarded,after,calm⟩ (.opened calls more d e a b run alive run')) ?_)
      intro done f rest _ done'
      refine ensures_bind (ensures_mono (ensures_closing _ (within_patchStatus _ _) done') ?_)
      rintro (err | ok) g last _ final <;> exact ensures_pure final final

theorem careful_pass {out : Option (Result × Option ApiError)}
    (live : ∀ st, c.adoptions.get key = some st → st.deleting = false)
    (run : Run apiserver Drift (reconcile r key) c log out d) : Careful r key c log := by
  simpa using (ensures_reconcile_careful live log out d run).1

/-! A pass that refuses writes nothing. -/

/-- A swap that refuses makes no call but the read. -/
theorem calm_swap_refused (a b : KnativeAdoption) (e : Cluster)
    (run : Run apiserver Drift (swapService a) d log (some (b,.ok .refused)) e) : Calm [.adoptions] log := by
  obtain ⟨answer,m,first,rest,rfl,asked,following⟩ := run_bind_some run
  · have read : Calm [.adoptions] first := calm_run (within_read _ rfl) asked
    have nothing (result : KnativeAdoption × Except ApiError SwapDecision)
        (ended : Run apiserver Drift (pure result) m rest (some (b,.ok .refused)) e) : Calm [.adoptions] (first++rest) := by
      rw [(run_pure ended).1,List.append_nil]
      exact read
    cases answer with
    | error err =>
      dsimp only at following
      split at following <;> exact nothing _ following
    | ok svc =>
      simp only [swapFound] at following
      split at following
      · exact nothing _ following
      · exact nothing _ following
      · have returns : (takeOver a svc).Returns (fun result => ∀ b, result ≠ (b,.ok .refused)) := by
          refine Program.returns_bind _ (Program.returns_true _) (fun result _ => ?_)
          obtain ⟨b,_ | _⟩ := result <;> exact fun b same => by cases same
        exact absurd rfl (run_returns returns following b)

theorem Reached.calm_opened (a : KnativeAdoption) (reached : Reached r key c log d (.opened a)) :
    Calm [.adoptions] log := by
  cases reached with
  | opened first rest d e a b read live ensured =>
    exact (calm_run (within_read _ rfl) read).append (calm_run (within_ensureFinalizers a) ensured)

theorem Reached.calm_sourced (a : KnativeAdoption) (dep : Deployment) (reached : Reached r key c log d (.sourced a dep)) :
    Calm [.adoptions] log := by
  cases reached with
  | sourced log more d e a dep before found =>
    exact before.calm_opened.append ((calm_run (within_getSourceDeployment a) found).mono (by simp))

theorem calm_guard (a : KnativeAdoption) (e : Cluster) (out : Option KnativeAdoption)
    (run : Run apiserver Drift (maybeRunGuard r a) d log out e) : Calm [.adoptions] log :=
  (calm_run (within_maybeRunGuard r a) run).mono (by simp)

/-- Up to a refusal nothing is written. -/
theorem Reached.calm_refused (m : Milestone) (reached : Reached r key c log d m) (refuses : m.refuses = true) :
    Calm [.adoptions] log := by
  cases reached with
  | rejected log more d e a b dep err before asked refused => exact before.calm_sourced.append (calm_guard _ _ _ asked)
  | swapped log more d e a b dep ksvc decision before decided =>
    cases decision with
    | pass | takenOver => cases refuses
    | refused =>
      refine Calm.append ?_ (calm_swap_refused a b _ decided)
      cases before with
      | translated log more d e a b dep ksvc before asked accepted =>
        exact before.calm_sourced.append (calm_guard _ _ _ asked)
  | opened | sourced | translated | adapted | applied | ready => cases refuses

section Rest
variable {after : CallLog} {e : Cluster} {out : Option (Result × Option ApiError)}

/-- The rest of a pass is a rest of the adoption, and then a stage that writes the
adoption only. -/
def Remains (p : Op Reconciled) (d : Cluster) (after : CallLog) (out : Option (Result × Option ApiError)) (e : Cluster) :
    Prop :=
  ∃ closing : Reconciled → Op (Result × Option ApiError), (∀ done, Within [.adoptions] (closing done)) ∧
    Run apiserver Drift (p >>= closing) d after out e

theorem Reached.rest_opened (a : KnativeAdoption) (reached : Reached r key c log d (.opened a))
    (run : Run apiserver Drift (reconcile r key) c (log++after) out e) :
    Remains (reconcileAdoption r a) d after out e := by
  cases reached with
  | opened first rest d m a b read live ensured =>
    rw [List.append_assoc] at run
    have opened := run_bind_rest _ _ _ _ _ _ _ _ _ read run
    simp only [live,Bool.false_eq_true,if_false] at opened
    have adopting := run_bind_rest _ _ _ _ _ _ _ _ _ ensured opened
    refine ⟨_,fun done => ?_,adopting⟩
    refine within_bind (within_patchStatus _ _) (fun response => ?_)
    cases response <;> exact within_pure _

theorem Remains.bind {α : Type} (p : Op α) (f : α → Op Reconciled) (value : α) (m : Cluster) (first rest : CallLog)
    (ran : Run apiserver Drift p d first (some value) m) (remains : Remains (p >>= f) d (first++rest) out e) :
    Remains (f value) m rest out e := by
  obtain ⟨closing,within,run⟩ := remains
  rw [Program.bind_assoc] at run
  have following := run_bind_rest _ _ _ _ _ _ _ _ _ ran run
  exact ⟨closing,within,following⟩

theorem Remains.calm (value : Reconciled) (remains : Remains (pure value) d after out e) : Calm [.adoptions] after := by
  obtain ⟨closing,within,run⟩ := remains
  exact calm_run (within value) run

/-- A pass after the scale-down guard. -/
def adoptGuarded (r : KnativeAdoptionReconciler) (dep : Deployment) (a : KnativeAdoption) : Op Reconciled :=
  match translate dep a with
  | .error err => pure { adoption := translationRefused a err }
  | .ok ksvc => adoptTranslated r (removeCondition a .translationDegraded) dep ksvc

/-- After a refusal nothing is written. -/
theorem Reached.rest_refused (m : Milestone) (reached : Reached r key c log d m) (refuses : m.refuses = true)
    (run : Run apiserver Drift (reconcile r key) c (log++after) out e) : Calm [.adoptions] after := by
  have guard {log : CallLog} {d : Cluster} {a : KnativeAdoption} {dep : Deployment} {after : CallLog}
      (sourced : Reached r key c log d (.sourced a dep)) (run : Run apiserver Drift (reconcile r key) c (log++after) out e) :
      Remains (maybeRunGuard r (removeCondition a .sourceMissing) >>= adoptGuarded r dep) d after out e := by
    cases sourced with
    | sourced log more d m a dep before found =>
      rw [List.append_assoc] at run
      have sourced := (before.rest_opened a run).bind _ _ _ _ _ _ found
      exact sourced
  cases reached with
  | rejected log more d m a b dep err before asked refused =>
    rw [List.append_assoc] at run
    have ended := (guard before run).bind _ _ _ _ _ _ asked
    simp only [adoptGuarded,refused] at ended
    exact ended.calm _
  | swapped log more d m a b dep ksvc decision before decided =>
    cases decision with
    | pass | takenOver => cases refuses
    | refused =>
      cases before with
      | translated log more' d m a b dep ksvc before asked accepted =>
        rw [List.append_assoc,List.append_assoc] at run
        have translated := (guard before run).bind _ _ _ _ _ _ asked
        simp only [adoptGuarded,accepted] at translated
        exact (translated.bind _ _ _ _ _ _ decided).calm _
  | opened | sourced | translated | adapted | applied | ready => cases refuses

end Rest
end Passes

/-- One pass over a live adoption, whatever the cluster and whichever calls fail: no
write before both finalizers are stored; a Service is deleted only after a successful
translation and a decision to take it over, as the only write of the pass; the source is
scaled to zero only after translation, swap, traffic, apply and a ready read-back; and a
pass that refuses writes nothing. -/
theorem takeover_careful (r : KnativeAdoptionReconciler) (key : NamespacedName) (c d : Cluster) (log : CallLog)
    (out : Option (Result × Option ApiError)) (live : ∀ st, c.adoptions.get key = some st → st.deleting = false)
    (run : Run apiserver Drift (reconcile r key) c log out d) :
    Careful r key c log ∧
      ∀ before after m e, log = before++after → Reached r key c before e m → m.refuses = true →
        ∀ event ∈ log, event.request.touches = false := by
  refine ⟨careful_pass live run,?_⟩
  rintro before after m e rfl reached refuses
  exact ((reached.calm_refused m refuses).append (reached.rest_refused m refuses run)).untouched

/-- The first pass over the sample workload deletes the Service and nothing else; the
second rewrites the DestinationRule, applies the Knative Service and scales the source. -/
theorem takeover_careful_sample :
    let first := apiserver.exec Sample.pass (List.replicate 7 .none) Sample.cluster
    let second := apiserver.exec Sample.pass (List.replicate 11 .none) first.2.2
    first.1.filterMap (fun e => e.request.part) = [.adoptions,.services,.adoptions] ∧
      second.1.filterMap (fun e => e.request.part) = [.traffic,.ksvcs,.deployments,.adoptions] ∧
      Careful Sample.reconciler Sample.adoption.key Sample.cluster first.1 ∧
      Careful Sample.reconciler Sample.adoption.key first.2.2 second.1 := by
  have live : ((apiserver.exec Sample.pass (List.replicate 7 .none) Sample.cluster).2.2.adoptions.get
      Sample.adoption.key).all (fun st => !st.deleting) = true := by decide +kernel
  refine ⟨by decide +kernel,by decide +kernel,?_,?_⟩
  · exact (takeover_careful Sample.reconciler Sample.adoption.key Sample.cluster _ _ _
      (fun st held => by cases held; rfl) (run_exec apiserver Drift Drift.refl _ _ _)).1
  · refine (takeover_careful Sample.reconciler Sample.adoption.key _ _ _ _ (fun st held => ?_)
      (run_exec apiserver Drift Drift.refl _ _ _)).1
    rw [held] at live
    simpa using live

end Ifaas
