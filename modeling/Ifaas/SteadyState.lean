import Ifaas.Landing
import Ifaas.RoundTrip

/-! The steady state. Once a pass has ended Ready, one more pass may still write; from then on
every pass leaves the cluster as it is and hands the flusher the decision it handed it before. -/
namespace Ifaas
open Library

/-! The status patch of the only writer. -/

theorem mergeOption_fresh {α : Type} [DecidableEq α] (merge : α → α → α → α) (zero : α)
    (fresh : ∀ held new, merge held held new = new) (held new : Option α) : mergeOption merge zero held held new = new := by
  unfold mergeOption
  cases new with
  | none => exact ite_eq_right_iff.mpr id
  | some new =>
    dsimp only
    rw [fresh]
    exact ite_eq_right_iff.mpr id

theorem mergeField_fresh {α : Type} [DecidableEq α] (held new : α) : mergeField held held new = new :=
  ite_eq_right_iff.mpr id

theorem mergeTrafficSnapshot_fresh (held new : TrafficSnapshot) : mergeTrafficSnapshot held held new = new := by
  unfold mergeTrafficSnapshot
  rw [mergeField_fresh,mergeField_fresh]

theorem mergeSourceSnapshot_fresh (held new : SourceSnapshot) : mergeSourceSnapshot held held new = new := by
  unfold mergeSourceSnapshot
  rw [mergeField_fresh,mergeField_fresh,mergeOption_fresh _ _ mergeTrafficSnapshot_fresh]

theorem mergeProbe_fresh (held new : ProbeStatus) : mergeProbe held held new = new := by
  unfold mergeProbe
  rw [mergeField_fresh,mergeField_fresh,mergeField_fresh]

/-- A patch against the stored status stores what was sent. -/
theorem mergeStatus_fresh (held new : KnativeAdoptionStatus) : mergeStatus held held new = new := by
  unfold mergeStatus
  rw [mergeField_fresh,mergeField_fresh,mergeField_fresh,mergeOption_fresh _ _ mergeSourceSnapshot_fresh,
    mergeOption_fresh _ _ mergeProbe_fresh]

/-- What is stored after the status was patched: nothing is sent where the statuses compare equal. -/
def kept (a b : KnativeAdoption) : KnativeAdoption := if statusEqual a b then a else b

theorem succeed_patchStatus (c : Cluster) (a b : KnativeAdoption) (stored : c.adoptions.get a.key = some a) (same : SameObject a b) :
    apiserver.succeed (patchStatus a b) c = (.ok (),{ c with adoptions := c.adoptions.put (kept a b) }) := by
  unfold patchStatus kept
  cases statusEqual a b with
  | true =>
    rw [if_pos rfl,if_pos rfl,Store.put_get _ _ stored]
    rfl
  | false =>
    have key : c.adoptions.get b.key = some a := by
      unfold ObjectMeta.key
      rw [same.metadata]
      exact stored
    have written : { a with status := mergeStatus a.status a.status b.status } = b := by
      rw [mergeStatus_fresh,← same.metadata,← same.spec]
    have effect : apiserver.effect c (.patchStatus a b) = ({ c with adoptions := c.adoptions.put b },.ok ()) := by
      change c.patchStatus a b = _
      unfold Cluster.patchStatus
      rw [key]
      dsimp only
      rw [written]
    rw [if_neg (by decide),if_neg (by decide)]
    change ((apiserver.effect c (.patchStatus a b)).2,(apiserver.effect c (.patchStatus a b)).1) = _
    rw [effect]

/-! What a pass leaves Ready. -/

theorem recomputeReady_complete (a : KnativeAdoption) (all : complete a = true) :
    recomputeReady a = setReady a .true .adopted "adoption complete" := by
  unfold complete at all
  obtain ⟨clear,present⟩ := (Bool.and_eq_true ..).mp all
  have calm : readyAggregateFailures.find? (isCondTrue a) = none := by
    refine List.find?_eq_none.mpr (fun t member => ?_)
    rw [isCondTrue_standing,Option.isNone_iff_eq_none.mp (List.all_eq_true.mp clear t member)]
    decide
  have whole : (requiredPositives a).find? (fun t => !isCondTrue a t) = none := by
    refine List.find?_eq_none.mpr (fun t member => ?_)
    rw [isCondTrue_standing,List.all_eq_true.mp present t member]
    decide
  unfold recomputeReady
  rw [calm,whole]

section Edits
variable (r : KnativeAdoptionReconciler) (c : Cluster) (url : String) (a : KnativeAdoption)

/-- The guard sets ScaleDownAllowed and takes Degraded away. -/
theorem guardEdits_type : (guardEdits r c a).Pairwise ConditionEdit.Apart ∧
    ∀ e ∈ guardEdits r c a, e.type = .scaleDownAllowed ∨ (e.type = .degraded ∧ e.lessens = true) := by
  unfold guardEdits voteEdits
  cases guardRuns r c a with
  | false => simp
  | true =>
    cases r.prober with
    | false => simp [ConditionEdit.type]
    | true => cases ScaleDown.vote (polled c a) <;> simp [ConditionEdit.Apart,ConditionEdit.type,ConditionEdit.lessens]

/-- The later stages take Degraded away, and leave alone what the earlier ones set. -/
theorem lateEdits_type : (lateEdits a).Pairwise ConditionEdit.Apart ∧
    ∀ e ∈ lateEdits a, e.type ≠ .scaleDownAllowed ∧ e.type ≠ .sourceMissing ∧ e.type ≠ .translationDegraded ∧
      (e.type = .degraded ∨ e.type = .trafficDegraded → e.lessens = true) := by
  unfold lateEdits trafficEdits
  cases trafficEnabled a <;> simp [ConditionEdit.Apart,ConditionEdit.type,ConditionEdit.lessens]

/-- The edits of a pass do not undo each other. -/
theorem passEdits_apart : (passEdits r c a).Pairwise ConditionEdit.Apart := by
  obtain ⟨guards,guard⟩ := guardEdits_type r c a
  obtain ⟨lates,late⟩ := lateEdits_type a
  have removed (t : ConditionType) (e : ConditionEdit) (other : e.type ≠ t) :
      ConditionEdit.Apart (.remove t) e ∧ ConditionEdit.Apart e (.remove t) := ⟨Or.inl (Ne.symm other),Or.inl other⟩
  have outside (e : ConditionEdit) (member : e ∈ guardEdits r c a) : e.type ≠ .sourceMissing ∧ e.type ≠ .translationDegraded := by
    rcases guard e member with type | ⟨type,-⟩ <;> rw [type] <;> decide
  refine List.pairwise_append.mpr ⟨List.pairwise_append.mpr ⟨List.pairwise_append.mpr ⟨by simp,guards,?_⟩,by simp,?_⟩,lates,?_⟩
  · intro e first o member
    rw [List.mem_singleton.mp first]
    exact (removed _ o (outside o member).1).1
  · intro e earlier o last
    rw [List.mem_singleton.mp last]
    rcases List.mem_append.mp earlier with first | member
    · rw [List.mem_singleton.mp first]
      exact Or.inl (by decide)
    · exact (removed _ e (outside e member).2).2
  · intro e earlier o member
    obtain ⟨allowed,missing,degraded,less⟩ := late o member
    rcases List.mem_append.mp earlier with earlier | last
    · rcases List.mem_append.mp earlier with first | inside
      · rw [List.mem_singleton.mp first]
        exact (removed _ o missing).1
      · rcases guard e inside with type | ⟨type,lessens⟩
        · exact Or.inl (type ▸ Ne.symm allowed)
        · by_cases same : o.type = .degraded
          · exact Or.inr ⟨lessens,less (Or.inl same)⟩
          · exact Or.inl (type ▸ Ne.symm same)
    · rw [List.mem_singleton.mp last]
      exact (removed _ o degraded).1

theorem passEdits_met : ∀ e ∈ passEdits r c a, e.Met (passed r c url a).status.conditions :=
  edits_settle.all_met (passEdits r c a) a.status.conditions (passEdits_apart r c a)

theorem mem_lateEdits (e : ConditionEdit) (late : e ∈ lateEdits a) : e ∈ passEdits r c a := List.mem_append_right _ late

theorem standing_met (t : ConditionType) (reason : Reason) (msg : String)
    (member : ConditionEdit.set ⟨t,.true,reason,msg,a.generation⟩ ∈ lateEdits a) :
    standing (passed r c url a) t = some reason := by
  have met : findStatusCondition (passed r c url a).status.conditions t = some ⟨t,.true,reason,msg,a.generation⟩ :=
    passEdits_met r c url a _ (mem_lateEdits r c a _ member)
  unfold standing
  rw [met]
  rfl

theorem standing_removed (t : ConditionType) (member : ConditionEdit.remove t ∈ passEdits r c a) :
    standing (passed r c url a) t = none := by
  have met : findStatusCondition (passed r c url a).status.conditions t = none := passEdits_met r c url a _ member
  unfold standing
  rw [met]

/-- A pass that met nothing to do leaves a complete adoption complete. -/
theorem passed_complete (whole : complete a = true) : complete (passed r c url a) = true := by
  obtain ⟨degraded,trafficDegraded,-,-,-,-,-,-,-⟩ := (complete_iff a).mp whole
  have unset (t : ConditionType) (other : t = .degraded ∨ t = .trafficDegraded) :
      ∀ e ∈ passEdits r c a, e.type ≠ t ∨ e.lessens = true := by
    intro e member
    rcases List.mem_append.mp member with earlier | late
    · rcases List.mem_append.mp earlier with earlier | last
      · rcases List.mem_append.mp earlier with first | inside
        · exact Or.inr (List.mem_singleton.mp first ▸ rfl)
        · rcases (guardEdits_type r c a).2 e inside with type | ⟨-,less⟩
          · rw [type]
            rcases other with rfl | rfl <;> exact Or.inl (by decide)
          · exact Or.inr less
      · exact Or.inr (List.mem_singleton.mp last ▸ rfl)
    · by_cases same : e.type = t
      · exact Or.inr (((lateEdits_type a).2 e late).2.2.2 (same ▸ other))
      · exact Or.inl same
  have calm (t : ConditionType) (other : t = .degraded ∨ t = .trafficDegraded) (before : standing a t = none) :
      standing (passed r c url a) t = none :=
    (lacks_iff _ t).mp (lacks_edited _ _ t (unset t other) ((lacks_iff a t).mpr before))
  have late (e : ConditionEdit) (member : e ∈ lateEdits a) : e ∈ passEdits r c a := mem_lateEdits r c a e member
  refine (complete_iff _).mpr ⟨calm _ (Or.inl rfl) degraded,calm _ (Or.inr rfl) trafficDegraded,?_,?_,?_,?_,?_,?_,?_⟩
  · exact standing_removed r c url a _ (by simp [passEdits])
  · exact standing_removed r c url a _ (by simp [passEdits,lateEdits])
  · exact standing_removed r c url a _ (by simp [passEdits])
  · rw [standing_met r c url a _ .adopted "KnativeService applied" (by simp [lateEdits])]
    exact Option.some_ne_none _
  · rw [standing_met r c url a _ .knativeServiceReady "KSvc Ready" (by simp [lateEdits])]
    exact Option.some_ne_none _
  · rw [standing_met r c url a _ .sourceQuiesced "Deployment scaled to 0" (by simp [lateEdits])]
    exact Option.some_ne_none _
  · intro enabled
    have same : trafficEnabled a = true := enabled
    rw [standing_met r c url a _ .trafficReady "traffic adaptation reconciled" (by simp [lateEdits,trafficEdits,same])]
    exact Option.some_ne_none _

/-- Ready is written once. -/
theorem recomputeReady_passed (whole : complete a = true) : recomputeReady (passed r c url a) = passed r c url a := by
  rw [recomputeReady_complete _ (passed_complete r c url a whole)]
  have met := passEdits_met r c url a (.set ⟨.ready,.true,.adopted,"adoption complete",a.generation⟩)
    (mem_lateEdits r c a _ (by simp [lateEdits]))
  have still := ConditionEdit.set_same _ _ met
  change (passed r c url a).withConditions (setStatusCondition _ (passed r c url a).status.conditions) = _
  rw [show setStatusCondition ⟨.ready,.true,.adopted,"adoption complete",(passed r c url a).generation⟩ _ = _ from still]
  rfl

end Edits

/-! One pass after the other. -/

/-- The cluster after a pass that met nothing to do: what it writes is the Knative Service and
the adoption. -/
def Cluster.written (c : Cluster) (queue : List Decision) (live : KService) (a : KnativeAdoption) : Cluster :=
  { c with queue := queue, ksvcs := c.ksvcs.put live, adoptions := c.adoptions.put a }

section Pass
variable {r : KnativeAdoptionReconciler} {c : Cluster} {a : KnativeAdoption} {dep : Deployment} {primary : Container} {live : KService}

/-- A pass over a landed adoption that is complete. -/
theorem Landed.reconcile (landed : Landed r c a dep primary live) (byStatus : r.ByStatus) (answered : Answered r c a)
    (whole : complete a = true) :
    apiserver.succeed (reconcile r a.key) c =
      ((⟨if guardEnabled a then guardRequeueAfter a else 0⟩,none),
        c.written (c.queue++handed r c a) (Cluster.appliedKService live (sent r c a dep primary))
          (kept a (passed r c (r.ready live).2 a))) := by
  unfold Ifaas.reconcile
  rw [succeed_ask,show (apiserver.effect c (.getAdoption a.key)).2 = .ok a from found_some landed.stored _]
  dsimp only
  rw [landed.alive,if_neg (by decide)]
  have ensured : apiserver.succeed (ensureFinalizers a) c = (.ok a,c) := by
    unfold ensureFinalizers
    dsimp only
    rw [if_pos landed.finalizers]
    rfl
  unfold reconcileLive
  refine (succeed_then ensured _).trans ?_
  refine (succeed_then (landed.reconcileAdoption byStatus answered) _).trans ?_
  dsimp only
  rw [recomputeReady_passed r c _ a whole]
  have patched := succeed_patchStatus { c with
    queue := c.queue++handed r c a
    ksvcs := c.ksvcs.put (Cluster.appliedKService live (sent r c a dep primary)) } a (passed r c (r.ready live).2 a)
    landed.stored ⟨rfl,rfl⟩
  exact succeed_then patched _

end Pass

/-- Two clusters that the guard and the traffic stage of an adoption do not tell apart. -/
structure View (r : KnativeAdoptionReconciler) (a : KnativeAdoption) (c d : Cluster) : Prop where
  traffic : d.traffic = c.traffic
  pods : d.pods = c.pods
  probes : d.probes = c.probes
  runs : guardRuns r d a = guardRuns r c a

section Views
variable {r : KnativeAdoptionReconciler} {a : KnativeAdoption} {c d : Cluster}

theorem View.polled (view : View r a c d) : polled d a = polled c a := by
  unfold Ifaas.polled
  rw [view.pods,view.probes]

theorem View.guardProbe (view : View r a c d) : guardProbe r d a = guardProbe r c a := by
  unfold Ifaas.guardProbe
  rw [view.runs,view.polled]

theorem View.handed (view : View r a c d) : handed r d a = handed r c a := by
  unfold Ifaas.handed
  rw [view.runs,view.polled]

theorem View.answered (view : View r a c d) (answered : Answered r c a) : Answered r d a := by
  unfold Answered
  rw [view.runs,view.polled]
  exact answered

theorem View.sent (view : View r a c d) (dep : Deployment) (primary : Container) :
    sent r d a dep primary = sent r c a dep primary := by
  unfold Ifaas.sent
  rw [view.guardProbe]

theorem View.passed (view : View r a c d) (url : String) : passed r d url a = passed r c url a := by
  have guard : guardEdits r d a = guardEdits r c a := by
    unfold guardEdits
    rw [view.runs,view.polled]
  have jots : jot d a.ns = jot c a.ns := by
    unfold jot
    rw [view.traffic]
  unfold Ifaas.passed passEdits observedSnapshot
  rw [guard,view.guardProbe,jots]

end Views

section Again
variable (r : KnativeAdoptionReconciler) (c : Cluster) (url : String) (a : KnativeAdoption)

theorem guardProbe_passed : guardProbe r c (passed r c url a) = guardProbe r c a := by
  change (if guardRuns r c a && r.prober then _ else guardProbe r c a) = _
  unfold guardProbe
  split <;> rfl

theorem sent_passed (dep : Deployment) (primary : Container) :
    sent r c (passed r c url a) dep primary = sent r c a dep primary := by
  unfold sent
  rw [guardProbe_passed]
  rfl

/-- The status that a pass writes is the one it would write again. -/
theorem passed_again : passed r c url (passed r c url a) = passed r c url a := by
  have conditions : edited (passEdits r c (passed r c url a)) (passed r c url a).status.conditions =
      (passed r c url a).status.conditions :=
    edits_settle.foldl_again (passEdits r c a) a.status.conditions (passEdits_apart r c a)
  have snapshot : observedSnapshot c (passed r c url a) = observedSnapshot c a := by
    change (if trafficEnabled a then (trafficRefs a).foldl (jot c a.ns) (observedSnapshot c a) else observedSnapshot c a) = _
    unfold observedSnapshot
    split
    · exact (jots_settle c a.ns).foldl_again _ _ (List.pairwise_of_forall (fun _ _ => trivial))
    · rfl
  have traffic : observedTraffic (passed r c url a) = observedTraffic a := by
    change (if trafficEnabled a then _ else observedTraffic a) = _
    unfold observedTraffic
    split <;> rfl
  have unfolded (x : KnativeAdoption) : passed r c url x = { x with status := ⟨edited (passEdits r c x) x.status.conditions,url,
    observedSnapshot c x,guardProbe r c x,observedTraffic x⟩ } := rfl
  rw [unfolded (passed r c url a),conditions,snapshot,traffic,guardProbe_passed]
  rfl

end Again

/-- The cluster after a pass in which every call is answered. -/
def afterPass (r : KnativeAdoptionReconciler) (key : NamespacedName) (c : Cluster) : Cluster :=
  (apiserver.succeed (reconcile r key) c).2

/-- A landed adoption for which a pass has nothing left to write. -/
structure Idle (r : KnativeAdoptionReconciler) (c : Cluster) (a : KnativeAdoption) (dep : Deployment) (primary : Container)
    (live : KService) : Prop extends Landed r c a dep primary live where
  answered : Answered r c a
  whole : complete a = true
  unsent : kept a (passed r c (r.ready live).2 a) = a
  unapplied : Cluster.appliedKService live (sent r c a dep primary) = live

section Runs
variable {r : KnativeAdoptionReconciler} {c : Cluster} {a : KnativeAdoption} {dep : Deployment} {primary : Container} {live : KService}

/-- A landed adoption is told from its status by nothing but what a pass writes. -/
theorem Landed.moved (landed : Landed r c a dep primary live) (byStatus : r.ByStatus) (status : KnativeAdoptionStatus)
    (queue : List Decision) (ksvc : KService) (owned : ksvc.ownerReferences = [ownerReferenceOf a]) :
    Landed r (c.written queue (Cluster.appliedKService live ksvc) { a with status := status })
      { a with status := status } dep primary (Cluster.appliedKService live ksvc) where
  stored := Store.get_put_same _ _
  alive := landed.alive
  finalizers := landed.finalizers
  source := landed.source
  quiesced := landed.quiesced
  translates := landed.translates
  passes := landed.passes
  routes := landed.routes
  held := by
    have filed : (Cluster.appliedKService live ksvc).key = ⟨a.ns,sourceName a⟩ := c.ksvcs.keyed _ live landed.held
    change (c.ksvcs.put (Cluster.appliedKService live ksvc)).get ⟨a.ns,sourceName a⟩ = _
    rw [← filed]
    exact Store.get_put_same _ _
  sole := by
    change ((Cluster.mergeOwners (Cluster.mergeOwners live.ownerReferences ksvc.ownerReferences) [ownerReferenceOf a]).filter
      (fun owner => owner.controller)).length ≤ 1
    rw [owned,mergeOwners_again]
    exact landed.sole
  ready := (congrArg Prod.fst (byStatus live (Cluster.appliedKService live ksvc) rfl)).trans landed.ready

/-- Another Knative Service that is as ready makes no difference to the guard. -/
theorem guardRuns_put (r : KnativeAdoptionReconciler) (a : KnativeAdoption) (live next : KService)
    (c : Cluster) (held : c.ksvcs.get live.key = some live) (filed : next.key = live.key) (same : r.ready next = r.ready live)
    (d : Cluster) (put : d.ksvcs = c.ksvcs.put next) : guardRuns r d a = guardRuns r c a := by
  unfold guardRuns
  rw [put,Store.get_put,filed]
  by_cases here : a.key = live.key
  · rw [if_pos here,here,held]
    dsimp only
    rw [same]
  · rw [if_neg here]

/-- The guard of the next pass sees what this one saw. -/
theorem Landed.view (landed : Landed r c a dep primary live) (byStatus : r.ByStatus) (queue : List Decision) (ksvc : KService)
    (status : KnativeAdoptionStatus) :
    View r { a with status := status } c (c.written queue (Cluster.appliedKService live ksvc) { a with status := status }) where
  traffic := rfl
  pods := rfl
  probes := rfl
  runs := by
    have found : c.ksvcs.get live.key = some live := by
      rw [c.ksvcs.keyed _ live landed.held]
      exact landed.held
    exact guardRuns_put r _ live (Cluster.appliedKService live ksvc) c found rfl (byStatus live _ rfl) _ rfl

/-- What is stored after a pass is what the next one would leave. -/
theorem kept_again (r : KnativeAdoptionReconciler) (c : Cluster) (url : String) (a : KnativeAdoption) :
    kept (kept a (passed r c url a)) (passed r c url (kept a (passed r c url a))) = kept a (passed r c url a) := by
  have cases : kept a (passed r c url a) = a ∨ kept a (passed r c url a) = passed r c url a := by
    unfold kept
    split
    · exact Or.inl rfl
    · exact Or.inr rfl
  rcases cases with same | wrote
  · rw [same]
    exact same
  · rw [wrote,passed_again]
    unfold kept
    split <;> rfl

/-- The adoption stored after a pass is the one before it, or what the pass found. -/
theorem kept_passed (r : KnativeAdoptionReconciler) (c : Cluster) (url : String) (a : KnativeAdoption) (P : KnativeAdoption → Prop)
    (before : P a) (after : P (passed r c url a)) : P (kept a (passed r c url a)) := by
  unfold kept
  split
  · exact before
  · exact after

/-- After one pass a landed adoption is idle. -/
theorem Landed.settles (landed : Landed r c a dep primary live) (byStatus : r.ByStatus) (answered : Answered r c a)
    (whole : complete a = true) :
    ∃ next, next.key = a.key ∧ (isCondTrue a .ready = true → isCondTrue next .ready = true) ∧
      Idle r (afterPass r a.key c) next dep primary (Cluster.appliedKService live (sent r c a dep primary)) := by
  have after : afterPass r a.key c = c.written _ _ _ := congrArg Prod.snd (landed.reconcile byStatus answered whole)
  have again := kept_again r c (r.ready live).2 a
  have status : ∃ status, kept a (passed r c (r.ready live).2 a) = { a with status := status } :=
    kept_passed r c _ a (fun b => ∃ status, b = { a with status := status }) ⟨_,rfl⟩ ⟨_,rfl⟩
  have sends : sent r c (kept a (passed r c (r.ready live).2 a)) dep primary = sent r c a dep primary :=
    kept_passed r c _ a (fun b => sent r c b dep primary = sent r c a dep primary) rfl (sent_passed r c _ a dep primary)
  have stays : complete (kept a (passed r c (r.ready live).2 a)) = true :=
    kept_passed r c _ a (fun b => complete b = true) whole (passed_complete r c _ a whole)
  have shown : isCondTrue a .ready = true → isCondTrue (kept a (passed r c (r.ready live).2 a)) .ready = true := by
    refine fun ready => kept_passed r c _ a (fun b => isCondTrue b .ready = true) ready ?_
    rw [isCondTrue_standing,standing_met r c _ a .ready .adopted "adoption complete" (by simp [lateEdits])]
    rfl
  rw [after]
  generalize kept a (passed r c (r.ready live).2 a) = next at *
  obtain ⟨status,rfl⟩ := status
  have ready := byStatus live (Cluster.appliedKService live (sent r c a dep primary)) rfl
  have view := landed.view byStatus (c.queue++handed r c a) (sent r c a dep primary) status
  refine ⟨{ a with status := status },rfl,shown,
    ⟨landed.moved byStatus status _ _ rfl,view.answered answered,stays,?_,?_⟩⟩
  · rw [ready,view.passed]
    exact again
  · rw [view.sent,sends]
    exact appliedKService_again _ _

/-- An idle adoption does not depend on what waits for the flusher. -/
theorem Idle.queued (idle : Idle r c a dep primary live) (queue : List Decision) :
    Idle r { c with queue := queue } a dep primary live where
  stored := idle.stored
  alive := idle.alive
  finalizers := idle.finalizers
  source := idle.source
  quiesced := idle.quiesced
  translates := idle.translates
  passes := idle.passes
  routes := idle.routes
  held := idle.held
  sole := idle.sole
  ready := idle.ready
  answered := idle.answered
  whole := idle.whole
  unsent := idle.unsent
  unapplied := idle.unapplied

/-- A pass over an idle adoption writes nothing. -/
theorem Idle.pass (idle : Idle r c a dep primary live) (byStatus : r.ByStatus) :
    apiserver.succeed (Ifaas.reconcile r a.key) c =
      ((⟨if guardEnabled a then guardRequeueAfter a else 0⟩,none),{ c with queue := c.queue++handed r c a }) := by
  have filed : live.key = ⟨a.ns,sourceName a⟩ := c.ksvcs.keyed _ live idle.held
  rw [idle.toLanded.reconcile byStatus idle.answered idle.whole,idle.unsent,idle.unapplied,
    Cluster.written,Store.put_get _ _ idle.stored,Store.put_get c.ksvcs live (by rw [filed]; exact idle.held)]

/-- So does any number of passes. -/
theorem Idle.stays (idle : Idle r c a dep primary live) (byStatus : r.ByStatus) (n : Nat) :
    (afterPass r a.key)^[n] c = { c with queue := c.queue++(List.replicate n (handed r c a)).flatten } := by
  induction n with
  | zero =>
    rw [List.replicate_zero,List.flatten_nil,List.append_nil]
    rfl
  | succ n ih =>
    rw [Function.iterate_succ_apply',ih]
    unfold afterPass
    rw [(idle.queued _).pass byStatus]
    have same : handed r { c with queue := c.queue++(List.replicate n (handed r c a)).flatten } a = handed r c a := rfl
    rw [same,List.replicate_succ',List.flatten_append,List.append_assoc,List.flatten_singleton]

end Runs

/-! The first pass. -/

theorem conditionsEqual_find (xs ys : List Condition) (equal : conditionsEqual xs ys = true) (t : ConditionType) :
    (findStatusCondition xs t).map (fun c => (c.status,c.reason,c.message)) =
      (findStatusCondition ys t).map (fun c => (c.status,c.reason,c.message)) := by
  induction xs generalizing ys with
  | nil =>
    cases ys with
    | nil => rfl
    | cons y ys => cases equal
  | cons x xs ih =>
    cases ys with
    | nil => cases equal
    | cons y ys =>
      obtain ⟨same,rest⟩ := (Bool.and_eq_true ..).mp equal
      have heads : x.type = y.type ∧ x.status = y.status ∧ x.reason = y.reason ∧ x.message = y.message := by
        simpa [conditionEqual,and_assoc] using same
      unfold findStatusCondition at ih ⊢
      by_cases here : x.type = t
      · rw [List.find?_cons_of_pos (by simpa using here),List.find?_cons_of_pos (by simpa [← heads.1] using here)]
        simp [heads.2]
      · rw [List.find?_cons_of_neg (by simpa using here),List.find?_cons_of_neg (by simpa [← heads.1] using here)]
        exact ih ys rest

theorem statusEqual_same (a b : KnativeAdoption) (same : b.status = a.status) : statusEqual a b = true := by
  have conditions (xs : List Condition) : conditionsEqual xs xs = true := by
    induction xs with
    | nil => rfl
    | cons x xs ih => simp [conditionsEqual,conditionEqual,ih]
  have snapshot (s : Option SourceSnapshot) : sourceSnapshotEqual s s = true := by
    cases s with
    | none => rfl
    | some s => cases traffic : s.traffic <;> simp [sourceSnapshotEqual,trafficSnapshotEqual,traffic]
  unfold statusEqual
  rw [same]
  simp [conditions,snapshot]

theorem statusEqual_told (a b : KnativeAdoption) (equal : statusEqual a b = true) : told a = told b :=
  funext (fun t => conditionsEqual_find _ _ ((Bool.and_eq_true ..).mp equal).2 t)

/-- What stands is stored, also where no patch is sent. -/
theorem standing_kept (a b : KnativeAdoption) : standing (kept a b) = standing b := by
  unfold kept
  split
  next equal => exact funext (fun t => standing_told a b t (congrFun (statusEqual_told a b equal) t))
  next => rfl

theorem complete_setReady (a : KnativeAdoption) (s : ConditionStatus) (reason : Reason) (msg : String) :
    complete (setReady a s reason msg) = complete a := by
  refine complete_same a _ rfl (fun t other => ?_)
  rw [setReady,standing_setCondition,Function.update_of_ne other]

/-- What is stored Ready at the end of a pass is complete, and so is what the pass came to. -/
theorem complete_kept (a b : KnativeAdoption) (same : SameObject a b) (ready : isCondTrue (kept a (recomputeReady b)) .ready = true) :
    complete b = true ∧ complete (kept a (recomputeReady b)) = true := by
  have whole (aggregated : isCondTrue (recomputeReady b) .ready = true) : complete b = true ∧ complete (recomputeReady b) = true := by
    have all : complete b = true := by rw [← recomputeReady_ready]; exact aggregated
    refine ⟨all,?_⟩
    rw [recomputeReady_complete b all,complete_setReady]
    exact all
  unfold kept at ready ⊢
  split at ready
  next equal =>
    rw [if_pos equal]
    have stands : standing a = standing (recomputeReady b) := by
      rw [← standing_kept a (recomputeReady b),kept,if_pos equal]
    rw [isCondTrue_standing,stands,← isCondTrue_standing] at ready
    obtain ⟨all,after⟩ := whole ready
    refine ⟨all,?_⟩
    obtain ⟨conditions,written⟩ := sameButConditions_recomputeReady b
    have traffic : trafficEnabled a = trafficEnabled (recomputeReady b) := by
      rw [written]
      unfold trafficEnabled
      rw [KnativeAdoption.withConditions_spec,same.spec]
    unfold complete requiredPositives at after ⊢
    rw [stands,traffic]
    exact after
  next differ =>
    rw [if_neg differ]
    exact whole ready

def ensuredFinalizers (a : KnativeAdoption) : List String :=
  addFinalizer (addFinalizer a.finalizers finalizerRestoreSourceService) finalizerRestoreSource

theorem ensuredFinalizers_again (a b : KnativeAdoption) (ensured : b.finalizers = ensuredFinalizers a) :
    addFinalizer (addFinalizer b.finalizers finalizerRestoreSourceService) finalizerRestoreSource = b.finalizers := by
  have again (finalizers : List String) (name : String) (there : name ∈ finalizers) : addFinalizer finalizers name = finalizers :=
    if_pos there
  rw [ensured,ensuredFinalizers,again _ finalizerRestoreSourceService (mem_addFinalizer_of_mem _ _ _ (mem_addFinalizer _ _)),
    again _ _ (mem_addFinalizer _ _)]

theorem succeed_ensureFinalizers (c : Cluster) (a : KnativeAdoption) (stored : c.adoptions.get a.key = some a)
    (alive : a.deleting = false) :
    apiserver.succeed (ensureFinalizers a) c = (.ok { a with finalizers := ensuredFinalizers a },
      { c with adoptions := c.adoptions.put { a with finalizers := ensuredFinalizers a } }) := by
  unfold ensureFinalizers
  dsimp only
  by_cases there : addFinalizer (addFinalizer a.finalizers finalizerRestoreSourceService) finalizerRestoreSource = a.finalizers
  · have same : ({ a with finalizers := ensuredFinalizers a } : KnativeAdoption) = a := by
      unfold ensuredFinalizers
      rw [there]
    rw [if_pos there,same,Store.put_get _ _ stored]
    rfl
  · have effect : apiserver.effect c (.patchFinalizers a.key (ensuredFinalizers a)) =
        ({ c with adoptions := c.adoptions.put { a with finalizers := ensuredFinalizers a } },
          .ok { a with finalizers := ensuredFinalizers a }) := by
      change c.patchFinalizers a.key (ensuredFinalizers a) = _
      unfold Cluster.patchFinalizers addsFinalizer
      rw [stored]
      dsimp only
      rw [alive,Bool.false_and,if_neg (by decide)]
    rw [if_neg there]
    refine (succeed_ask apiserver _ _ c).trans ?_
    rw [show addFinalizer (addFinalizer a.finalizers finalizerRestoreSourceService) finalizerRestoreSource = ensuredFinalizers a from rfl,
      effect]
    rfl

/-- A pass over a live adoption: the finalizers, the stages, and the status patch at the end. -/
theorem succeed_reconcile (r : KnativeAdoptionReconciler) (c d : Cluster) (a b : KnativeAdoption) (done : Reconciled)
    (held : c.adoptions.get a.key = some a) (alive : a.deleting = false) (seen : { a with finalizers := ensuredFinalizers a } = b)
    (adopted : apiserver.succeed (reconcileAdoption r b) { c with adoptions := c.adoptions.put b } = (done,d)) :
    SameObject b (recomputeReady done.adoption) ∧ apiserver.succeed (reconcile r a.key) c =
      ((done.result,done.err),{ d with adoptions := d.adoptions.put (kept b (recomputeReady done.adoption)) }) := by
  have ensured := succeed_ensureFinalizers c a held alive
  rw [seen] at ensured
  have there : ({ c with adoptions := c.adoptions.put b } : Cluster).adoptions.get b.key = some b := Store.get_put_same _ _
  have object := succeed_returns _ _ (returns_reconcileAdoption along_sameObject.moves r b) { c with adoptions := c.adoptions.put b }
  have unwritten := succeed_same .adoptions _ (within_reconcileAdoption r b) (by decide) { c with adoptions := c.adoptions.put b }
  rw [adopted] at object unwritten
  have kept_ : d.adoptions.get b.key = some b := by
    rw [show d.adoptions = _ from unwritten]
    exact there
  obtain ⟨conditions,aggregated⟩ := sameButConditions_recomputeReady done.adoption
  have same : SameObject b (recomputeReady done.adoption) := by
    rw [aggregated]
    exact ⟨object.metadata,object.spec⟩
  refine ⟨same,?_⟩
  unfold Ifaas.reconcile
  rw [succeed_ask,show (apiserver.effect c (.getAdoption a.key)).2 = .ok a from found_some held _]
  dsimp only
  rw [alive,if_neg (by decide)]
  unfold reconcileLive
  refine (succeed_then ensured _).trans ?_
  refine (succeed_then adopted _).trans ?_
  exact succeed_then (succeed_patchStatus d b _ kept_ same) _

/-- What is stored in the end differs from what was there in the status only. -/
theorem kept_status (a b : KnativeAdoption) (same : SameObject a b) : ∃ status, kept a b = { a with status := status } := by
  unfold kept
  split
  · exact ⟨_,rfl⟩
  · refine ⟨b.status,?_⟩
    rw [← same.metadata,← same.spec]

/-- A pass that ends without an error and Ready has landed. -/
theorem landed_of_ready (r : KnativeAdoptionReconciler) (c : Cluster) (a s : KnativeAdoption)
    (held : c.adoptions.get a.key = some a) (alive : a.deleting = false)
    (narrow : ∀ port, livePort a c = some port → toInt32 port = port)
    (fine : (apiserver.succeed (reconcile r a.key) c).1.2 = none)
    (stored : (afterPass r a.key c).adoptions.get a.key = some s) (ready : isCondTrue s .ready = true) :
    complete s = true ∧ ∃ dep primary live, Landed r (afterPass r a.key c) s dep primary live := by
  generalize seen : ({ a with finalizers := ensuredFinalizers a } : KnativeAdoption) = b
  have filed : b.key = a.key := by rw [← seen]; rfl
  have object := succeed_returns _ _ (returns_reconcileAdoption along_sameObject.moves r b) { c with adoptions := c.adoptions.put b }
  have arrives := reconcileAdoption_arrives r b { c with adoptions := c.adoptions.put b } (seen ▸ narrow)
  obtain ⟨done,d,adopted⟩ : ∃ done d, apiserver.succeed (reconcileAdoption r b) { c with adoptions := c.adoptions.put b } = (done,d) :=
    ⟨_,_,rfl⟩
  rw [adopted] at object arrives
  obtain ⟨same,pass⟩ := succeed_reconcile r c d a b done held alive seen adopted
  have after : afterPass r a.key c = { d with adoptions := d.adoptions.put (kept b (recomputeReady done.adoption)) } :=
    congrArg Prod.snd pass
  rw [pass] at fine
  rw [after] at stored ⊢
  have status := kept_status b _ same
  have mine : s = kept b (recomputeReady done.adoption) := by
    obtain ⟨status,whole⟩ := status
    have filed_ : (kept b (recomputeReady done.adoption)).key = a.key := by
      rw [whole]
      exact filed
    rw [← filed_] at stored
    exact Option.some.inj (stored.symm.trans (Store.get_put_same _ _))
  subst mine
  obtain ⟨whole,complete_⟩ := complete_kept b done.adoption object ready
  obtain ⟨dep,primary,live,arrived⟩ := arrives fine whole
  refine ⟨complete_,dep,primary,live,?_⟩
  obtain ⟨status,same_⟩ := status
  rw [same_]
  exact {
    stored := Store.get_put_same _ _
    alive := by rw [← seen]; exact alive
    finalizers := ensuredFinalizers_again a b (by rw [← seen])
    source := arrived.source
    quiesced := arrived.quiesced
    translates := arrived.translates
    passes := arrived.passes
    routes := arrived.routes
    held := arrived.held
    sole := arrived.sole
    ready := arrived.ready }

theorem guardRequeueAfter_pos (a : KnativeAdoption) : 0 < guardRequeueAfter a := by
  unfold guardRequeueAfter guardConfig positiveOr
  dsimp only
  split <;> omega

/-- Once a pass has ended Ready and without an error, the pass after it is the last one that
writes: from then on the adoption is Ready, no pass fails, and all that is left of a pass is
the decision it hands to the flusher, the same one every time. The next pass is asked for after
the interval of the guard, or not at all. -/
theorem steady_state (r : KnativeAdoptionReconciler) (byStatus : r.ByStatus) (c : Cluster) (a s : KnativeAdoption)
    (held : c.adoptions.get a.key = some a) (alive : a.deleting = false)
    (narrow : ∀ port, livePort a c = some port → toInt32 port = port)
    (fine : (apiserver.succeed (reconcile r a.key) c).1.2 = none)
    (stored : (afterPass r a.key c).adoptions.get a.key = some s) (ready : isCondTrue s .ready = true)
    (answered : Answered r (afterPass r a.key c) s) :
    ∃ d final, (afterPass r a.key)^[2] c = d ∧ d.adoptions.get a.key = some final ∧ isCondTrue final .ready = true ∧
      0 < guardRequeueAfter final ∧
      ∀ n, (apiserver.succeed (reconcile r a.key) ((afterPass r a.key)^[n] d)).1 =
          (⟨if guardEnabled final then guardRequeueAfter final else 0⟩,none) ∧
        (afterPass r a.key)^[n] d = { d with queue := d.queue++(List.replicate n (handed r d final)).flatten } := by
  obtain ⟨whole,dep,primary,live,landed⟩ := landed_of_ready r c a s held alive narrow fine stored ready
  have filed : s.key = a.key := (afterPass r a.key c).adoptions.keyed _ s stored
  obtain ⟨final,same,shown,idle⟩ := landed.settles byStatus answered whole
  rw [filed] at idle same
  refine ⟨_,final,rfl,same ▸ idle.stored,shown ready,guardRequeueAfter_pos final,fun n => ?_⟩
  have stays := idle.stays byStatus n
  rw [same] at stays
  refine ⟨?_,stays⟩
  have pass := (idle.queued ((afterPass r a.key)^[n] ((afterPass r a.key)^[2] c)).queue).pass byStatus
  rw [same] at pass
  rw [show (afterPass r a.key)^[n] ((afterPass r a.key)^[2] c) = _ from stays] at pass ⊢
  rw [show apiserver.succeed (reconcile r a.key) _ = _ from pass]

namespace Sample

/-- The first pass takes the Service over, the second one ends Ready. -/
def takenOver : Cluster := afterPass reconciler adoption.key cluster

def handedOver : KnativeAdoption := (takenOver.adoptions.get adoption.key).getD adoption

def arrived : KnativeAdoption := ((afterPass reconciler adoption.key takenOver).adoptions.get adoption.key).getD adoption

end Sample

theorem steady_state_sample :
    ∃ d final, (afterPass Sample.reconciler Sample.adoption.key)^[2] Sample.takenOver = d ∧
      d.adoptions.get Sample.adoption.key = some final ∧ isCondTrue final .ready = true ∧
      (apiserver.succeed (reconcile Sample.reconciler Sample.adoption.key)
        ((afterPass Sample.reconciler Sample.adoption.key)^[7] d)).1 =
          (⟨if guardEnabled final then guardRequeueAfter final else 0⟩,none) ∧
      (afterPass Sample.reconciler Sample.adoption.key)^[7] d =
        { d with queue := d.queue++(List.replicate 7 (handed Sample.reconciler d final)).flatten } := by
  have found (key : NamespacedName) (c : Cluster) (there : (c.adoptions.get key).isSome = true) :
      c.adoptions.get key = some ((c.adoptions.get key).getD Sample.adoption) := by
    obtain ⟨a,held⟩ := Option.isSome_iff_exists.mp there
    rw [held]
    rfl
  have held := found Sample.adoption.key Sample.takenOver (by decide +kernel)
  have stored := found Sample.adoption.key (afterPass Sample.reconciler Sample.adoption.key Sample.takenOver) (by decide +kernel)
  have filed : Sample.handedOver.key = Sample.adoption.key := by decide +kernel
  obtain ⟨d,final,two,there,ready,-,stays⟩ := steady_state Sample.reconciler (fun _ _ _ => rfl) Sample.takenOver Sample.handedOver
    Sample.arrived (filed ▸ held) (by decide +kernel) (by decide +kernel) (by rw [filed]; decide +kernel) (by rw [filed]; exact stored)
    (by decide +kernel) (by rw [filed]; unfold Answered; decide +kernel)
  rw [filed] at two there stays
  exact ⟨d,final,two,there,ready,stays 7⟩

end Ifaas
