import Ifaas.Pipeline
import Ifaas.WriteAhead

/-! Passes that start from a cached version of their adoption. The status is written as a
merge patch against the version the pass read, and a merge patch replaces whole lists; a
recorded traffic spec survives as long as the version had it. -/
namespace Ifaas
open Library

/-- A pass from the version its first read was answered with. -/
def reconcileFrom (r : KnativeAdoptionReconciler) (version : KnativeAdoption) : Op (Result × Option ApiError) :=
  if version.deleting then reconcileDeleted version else reconcileLive r version

/-- The entry recorded for a traffic object. -/
def recordedUnder (snapshot : Option SourceSnapshot) (kind : TrafficKind) (name : String) : Option TrafficObjectSnapshot :=
  (snapshotItems snapshot kind).find? (fun item => item.name = name)

/-- Recorded entries are kept. -/
def Keeps (before after : Option SourceSnapshot) : Prop :=
  ∀ kind name item, recordedUnder before kind name = some item → recordedUnder after kind name = some item

theorem Keeps.refl (snapshot : Option SourceSnapshot) : Keeps snapshot snapshot := fun _ _ _ held => held

theorem Keeps.trans (x y z : Option SourceSnapshot) (first : Keeps x y) (second : Keeps y z) : Keeps x z :=
  fun kind name item held => second kind name item (first kind name item held)

theorem keeps_of_items (before after : Option SourceSnapshot)
    (more : ∀ kind, ∃ extra, snapshotItems after kind = snapshotItems before kind++extra) : Keeps before after := by
  intro kind name item held
  obtain ⟨extra,items⟩ := more kind
  unfold recordedUnder at held ⊢
  rw [items,List.find?_append,held]
  rfl

/-! The version in memory along a pass. -/

/-- The same object with at least the same entries. -/
structure Grown (a b : KnativeAdoption) : Prop where
  key : b.key = a.key
  keeps : Keeps a.status.sourceSnapshot b.status.sourceSnapshot

theorem grown_of_items (a b : KnativeAdoption) (key : b.key = a.key)
    (same : ∀ kind, snapshotItems b.status.sourceSnapshot kind = snapshotItems a.status.sourceSnapshot kind) :
    Grown a b :=
  ⟨key,keeps_of_items _ _ (fun kind => ⟨[],by rw [same,List.append_nil]⟩)⟩

theorem snapshotTrafficOnce_items (kind : TrafficKind) (a : KnativeAdoption) (name : String) (body : Obj GoNumber)
    (other : TrafficKind) : ∃ extra, snapshotItems (snapshotTrafficOnce kind a name body).1.status.sourceSnapshot other =
      snapshotItems a.status.sourceSnapshot other++extra := by
  unfold snapshotTrafficOnce
  split
  · exact ⟨[],(List.append_nil _).symm⟩
  · dsimp only
    split
    · exact ⟨[],by rw [snapshotItems_ensureTrafficSnapshot,List.append_nil]⟩
    · split
      · exact ⟨[],by rw [snapshotItems_ensureTrafficSnapshot,List.append_nil]⟩
      · dsimp only
        rw [snapshotItems_append,snapshotItems_ensureTrafficSnapshot]
        exact ⟨_,rfl⟩

theorem along_grown : Along Grown where
  refl a := ⟨rfl,.refl _⟩
  trans a b c first second := ⟨second.key.trans first.key,.trans _ _ _ first.keeps second.keeps⟩
  once kind a name body :=
    ⟨congrArg ObjectMeta.key (sameFace_snapshotTrafficOnce kind a name body).metadata,
      keeps_of_items _ _ (snapshotTrafficOnce_items kind a name body)⟩
  observed _ _ := ⟨rfl,.refl _⟩
  ledger a b same := ⟨congrArg ObjectMeta.key same.metadata,by rw [same.snapshot]; exact .refl _⟩
  service a svc := grown_of_items _ _ rfl (fun kind => by
    cases held : a.status.sourceSnapshot <;> simp [snapshotService,held,snapshotItems])
  replicas a n := grown_of_items _ _ (by unfold snapshotReplicas; split <;> rfl) (fun kind => by
    unfold snapshotReplicas
    split
    · rfl
    · cases held : a.status.sourceSnapshot <;> simp [held,snapshotItems])

/-! The merge patch. -/

theorem mergeTraffic_items (stored original current : TrafficSnapshot) (kind : TrafficKind) :
    (mergeTrafficSnapshot stored original current).items kind = stored.items kind ∨
      (mergeTrafficSnapshot stored original current).items kind = current.items kind := by
  have field (x y z : List TrafficObjectSnapshot) : mergeField x y z = x ∨ mergeField x y z = z := by
    unfold mergeField
    split
    · exact Or.inl rfl
    · exact Or.inr rfl
  cases kind <;> exact field _ _ _

/-- A list of entries comes out of a merge as it was stored or as the client sent it. -/
theorem mergeStatus_items (stored original current : KnativeAdoptionStatus) (kind : TrafficKind) :
    snapshotItems (mergeStatus stored original current).sourceSnapshot kind = snapshotItems stored.sourceSnapshot kind ∨
      snapshotItems (mergeStatus stored original current).sourceSnapshot kind =
        snapshotItems current.sourceSnapshot kind := by
  have traffic (x y z : Option TrafficSnapshot) :
      ((mergeOption mergeTrafficSnapshot {} x y z).getD {}).items kind = (x.getD {}).items kind ∨
        ((mergeOption mergeTrafficSnapshot {} x y z).getD {}).items kind = (z.getD {}).items kind := by
    unfold mergeOption
    cases z with
    | none =>
      dsimp only
      split
      · exact Or.inl rfl
      · exact Or.inr rfl
    | some new =>
      dsimp only
      split
      · exact Or.inl rfl
      · exact mergeTraffic_items _ _ _ kind
  have source (x y z : Option SourceSnapshot) :
      snapshotItems (mergeOption mergeSourceSnapshot {} x y z) kind = snapshotItems x kind ∨
        snapshotItems (mergeOption mergeSourceSnapshot {} x y z) kind = snapshotItems z kind := by
    unfold mergeOption
    cases z with
    | none =>
      dsimp only
      split
      · exact Or.inl rfl
      · exact Or.inr rfl
    | some new =>
      dsimp only
      split
      · exact Or.inl rfl
      · rcases traffic (x.getD {}).traffic (y.getD {}).traffic new.traffic with same | same
        · refine Or.inl (Eq.trans same ?_)
          cases x <;> rfl
        · exact Or.inr same
  exact source _ _ _

theorem mergeStatus_keeps (stored original current : KnativeAdoptionStatus)
    (sent : Keeps stored.sourceSnapshot current.sourceSnapshot) :
    Keeps stored.sourceSnapshot (mergeStatus stored original current).sourceSnapshot := by
  intro kind name item held
  have after := sent kind name item held
  unfold recordedUnder at held after ⊢
  rcases mergeStatus_items stored original current kind with same | same
  · rw [same]
    exact held
  · rw [same]
    exact after

/-! One pass. -/

/-- Others write neither the snapshot of this adoption nor another adoption of its name. -/
def SnapshotKept (key : NamespacedName) (c d : Cluster) : Prop :=
  ∀ st, d.adoptions.get key = some st →
    ∃ old, c.adoptions.get key = some old ∧ st.status.sourceSnapshot = old.status.sourceSnapshot

theorem SnapshotKept.refl (key : NamespacedName) (c : Cluster) : SnapshotKept key c c := fun st held => ⟨st,held,rfl⟩

theorem SnapshotKept.trans (key : NamespacedName) (c d e : Cluster) (first : SnapshotKept key c d)
    (second : SnapshotKept key d e) : SnapshotKept key c e := by
  intro st held
  obtain ⟨mid,there,same⟩ := second st held
  obtain ⟨old,before,equal⟩ := first mid there
  exact ⟨old,before,same.trans equal⟩

/-- The recorded entries of this adoption are kept while it exists. -/
def EntriesKept (key : NamespacedName) (c d : Cluster) : Prop :=
  ∀ st, d.adoptions.get key = some st →
    ∃ old, c.adoptions.get key = some old ∧ Keeps old.status.sourceSnapshot st.status.sourceSnapshot

theorem EntriesKept.trans (key : NamespacedName) (c d e : Cluster) (first : EntriesKept key c d)
    (second : EntriesKept key d e) : EntriesKept key c e := by
  intro st held
  obtain ⟨mid,there,later⟩ := second st held
  obtain ⟨old,before,earlier⟩ := first mid there
  exact ⟨old,before,.trans _ _ _ earlier later⟩

theorem SnapshotKept.entries (key : NamespacedName) (c d : Cluster) (kept : SnapshotKept key c d) : EntriesKept key c d := by
  intro st held
  obtain ⟨old,before,same⟩ := kept st held
  exact ⟨old,before,by rw [same]; exact .refl _⟩

def Request.leavesSnapshots : Request → Bool
  | .patchStatus _ _ => false
  | .applyAdoption _ _ _ => false
  | _ => true

theorem snapshotKept_put (key filed : NamespacedName) (c : Cluster) (stored next : KnativeAdoption)
    (held : c.adoptions.get filed = some stored) (name : next.key = stored.key) (same : next.status = stored.status) :
    SnapshotKept key c { c with adoptions := c.adoptions.put next } := by
  have where_ : next.key = filed := name.trans (c.adoptions.keyed _ _ held)
  intro st found
  by_cases here : key = next.key
  · subst here
    rw [show _ = some next from c.adoptions.get_put_same next] at found
    cases found
    exact ⟨stored,where_ ▸ held,by rw [same]⟩
  · exact ⟨st,(c.adoptions.get_put_other next key here).symm.trans found,rfl⟩

theorem snapshotKept_remove (key gone : NamespacedName) (c : Cluster) :
    SnapshotKept key c { c with adoptions := c.adoptions.remove gone } := by
  intro st found
  change (c.adoptions.remove gone).get key = some st at found
  rw [Store.get_remove] at found
  split at found
  · cases found
  · exact ⟨st,found,rfl⟩

theorem effect_snapshotKept (key : NamespacedName) (c : Cluster) (r : Request) (leaves : r.leavesSnapshots = true) :
    SnapshotKept key c (c.effect r).1 := by
  by_cases part : r.part = some .adoptions
  · cases r with
    | patchFinalizers at_ finalizers =>
      change SnapshotKept key c (c.patchFinalizers at_ finalizers).1
      unfold Cluster.patchFinalizers
      split
      · exact .refl key c
      next stored held =>
        split
        · exact .refl key c
        · exact snapshotKept_put key at_ c stored _ held rfl rfl
    | updateAdoption a =>
      change SnapshotKept key c (c.updateAdoption a).1
      rcases updateAdoption_cases c a with same | ⟨stored,held,⟨_,removed⟩ | written⟩
      · rw [same]
        exact .refl key c
      · rw [removed]
        exact snapshotKept_remove key a.key c
      · rw [written]
        exact snapshotKept_put key a.key c stored _ held rfl rfl
    | deleteAdoption at_ =>
      intro st found
      obtain ⟨old,deleting,before,rfl⟩ := deleteAdoption_back c at_ key st found
      exact ⟨old,before,rfl⟩
    | patchStatus original current => cases leaves
    | applyAdoption at_ labels spec => cases leaves
    | _ => cases part
  · intro st held
    rw [show (c.effect r).1.adoptions = c.adoptions from effect_same .adoptions c r part] at held
    exact ⟨st,held,rfl⟩

theorem serve_snapshotKept (key : NamespacedName) (fault : Fault String) (c : Cluster) (r : Request)
    (leaves : r.leavesSnapshots = true) : SnapshotKept key c (apiserver.serve fault c r).1 := by
  rcases apiserver.serve_state fault c r with same | ⟨same,_⟩
  · rw [same]
    exact .refl key c
  · rw [same]
    exact effect_snapshotKept key c r leaves

/-- The adoption in memory has the entries that were stored when the pass began. -/
structure Abreast (key : NamespacedName) (start : Cluster) (a : KnativeAdoption) : Prop where
  filed : a.key = key
  keeps : ∀ st, start.adoptions.get key = some st → Keeps st.status.sourceSnapshot a.status.sourceSnapshot

section Pass
variable (key : NamespacedName) (start : Cluster)

theorem Abreast.grown (a b : KnativeAdoption) (abreast : Abreast key start a) (grown : Grown a b) : Abreast key start b :=
  ⟨grown.key.trans abreast.filed,fun st held => .trans _ _ _ (abreast.keeps st held) grown.keeps⟩

theorem Abreast.same (a b : KnativeAdoption) (abreast : Abreast key start a) (same : SameLedger a b) : Abreast key start b :=
  abreast.grown key start a b (along_grown.ledger a b same)

/-- What is stored during the pass. -/
theorem abreast_stored (c : Cluster) (kept : SnapshotKept key start c) (st : KnativeAdoption)
    (held : c.adoptions.get key = some st) : Abreast key start st := by
  refine ⟨c.adoptions.keyed _ _ held,fun first there => ?_⟩
  obtain ⟨old,before,same⟩ := kept st held
  rw [there] at before
  cases before
  rw [same]
  exact .refl _

variable {α : Type} {c : Cluster} {log : CallLog} (kept : SnapshotKept key start c)
include kept

theorem ensures_leaves (p : Op α) (uses : p.Uses (fun r => r.leavesSnapshots = true)) :
    Ensures apiserver (SnapshotKept key) (fun d _ => SnapshotKept key start d) p (fun _ d _ => SnapshotKept key start d)
      c log :=
  ensures_uses (fun r => r.leavesSnapshots = true) (fun _ _ _ moved before => .trans key _ _ _ before moved)
    (fun s _ fault r leaves before => .trans key _ _ _ before (serve_snapshotKept key fault s r leaves)) p uses c log kept

theorem ensures_within {parts : List Part} (p : Op α) (within : Within parts p) (outside : .adoptions ∉ parts) :
    Ensures apiserver (SnapshotKept key) (fun d _ => SnapshotKept key start d) p (fun _ d _ => SnapshotKept key start d)
      c log := by
  refine ensures_leaves key start kept p (Program.uses_mono _ _ p (fun r inside => ?_) within)
  cases r with
  | patchStatus original current => exact absurd (inside .adoptions rfl) outside
  | applyAdoption at_ labels spec => exact absurd (inside .adoptions rfl) outside
  | _ => rfl

theorem ensures_ensureFinalizers_abreast (a : KnativeAdoption) (abreast : Abreast key start a) :
    Ensures apiserver (SnapshotKept key) (fun d _ => SnapshotKept key start d) (ensureFinalizers a)
      (fun result d _ => SnapshotKept key start d ∧ ∀ b, result = .ok b → Abreast key start b) c log := by
  unfold ensureFinalizers
  dsimp only
  split
  · refine ensures_pure kept ⟨kept,fun b equal => ?_⟩
    cases equal
    exact abreast
  · rw [abreast.filed]
    refine ensures_ask kept (fun d fault moved => ?_)
    have before := SnapshotKept.trans key _ _ _ kept moved
    have after := SnapshotKept.trans key _ _ _ before (serve_snapshotKept key fault d
      (.patchFinalizers key (addFinalizer (addFinalizer a.finalizers finalizerRestoreSourceService) finalizerRestoreSource)) rfl)
    cases answer : (apiserver.serve fault d (.patchFinalizers key (addFinalizer (addFinalizer a.finalizers
        finalizerRestoreSourceService) finalizerRestoreSource))).2 with
    | error err => exact ensures_pure after ⟨after,fun _ equal => by cases equal⟩
    | ok stored =>
      refine ensures_pure after ⟨after,fun b equal => ?_⟩
      cases equal
      obtain ⟨st,held,same⟩ := patchFinalizers_answer key _ stored answer
      rw [same]
      exact (abreast_stored key start d before st held).grown key start _ _ ⟨rfl,.refl _⟩

theorem ensures_removeFinalizer_abreast (a : KnativeAdoption) (name : String) (abreast : Abreast key start a) :
    Ensures apiserver (SnapshotKept key) (fun d _ => SnapshotKept key start d) (removeFinalizer a name)
      (fun result d _ => SnapshotKept key start d ∧ Abreast key start result.1) c log := by
  unfold removeFinalizer
  split
  · dsimp only
    have removed : Abreast key start { a with finalizers := a.finalizers.filter (fun f => f ≠ name) } :=
      abreast.grown key start _ _ ⟨rfl,.refl _⟩
    generalize ({ a with finalizers := a.finalizers.filter (fun f => f ≠ name) } : KnativeAdoption) = next at removed
    refine ensures_ask kept (fun d fault moved => ?_)
    have before := SnapshotKept.trans key _ _ _ kept moved
    have after := SnapshotKept.trans key _ _ _ before (serve_snapshotKept key fault d (.updateAdoption next) rfl)
    cases answer : (apiserver.serve fault d (.updateAdoption next)).2 with
    | error err => exact ensures_pure after ⟨after,removed⟩
    | ok stored =>
      refine ensures_pure after ⟨after,?_⟩
      obtain ⟨st,held,same⟩ := updateAdoption_answer next stored answer
      rw [removed.filed] at held
      rw [same]
      exact (abreast_stored key start d before st held).grown key start _ _ ⟨rfl,.refl _⟩
  · exact ensures_pure kept ⟨kept,abreast⟩

theorem ensures_restoreChildren_abreast (a : KnativeAdoption) (abreast : Abreast key start a) :
    Ensures apiserver (SnapshotKept key) (fun d _ => SnapshotKept key start d) (restoreChildren a)
      (fun result d _ => SnapshotKept key start d ∧ Abreast key start (afterStage result)) c log := by
  have marked (msg : String) (b : KnativeAdoption) (held : Abreast key start b) :
      Abreast key start (setReady b .false .restoringService msg) := held.same key start _ _ (sameLedger_setReady _ _ _ _)
  have failed (b : KnativeAdoption) (err : ApiError) (held : Abreast key start b) :
      Abreast key start (restoreFailed b err).adoption := held.same key start _ _ (sameLedger_setCondition _ _ _ _ _)
  unfold restoreChildren
  dsimp only
  generalize readied : setReady a .false .restoringService "rebuilding pre-adoption traffic objects" = b
  have first : Abreast key start b := readied ▸ marked _ a abreast
  refine ensures_bind (ensures_mono (ensures_within key start kept _ (within_restoreTrafficSnapshots b)
    (by simp)) (fun outcome d calls _ later => ?_))
  cases outcome with
  | some err => exact ensures_pure later ⟨later,failed b err first⟩
  | none =>
    dsimp only
    generalize again : setReady b .false .restoringService "rebuilding pre-adoption Service" = x
    have second : Abreast key start x := again ▸ marked _ b first
    refine ensures_bind (ensures_mono (ensures_within key start later _ (within_rebuildSnapshotService x)
      (by simp)) (fun rebuilt e more _ last => ?_))
    cases rebuilt with
    | some err => exact ensures_pure last ⟨last,failed x err second⟩
    | none =>
      refine ensures_bind (ensures_mono (ensures_removeFinalizer_abreast key start last x
        finalizerRestoreSourceService second) (fun removed f rest _ ended => ?_))
      obtain ⟨y,_ | err⟩ := removed <;> exact ensures_pure ended.1 ended

theorem ensures_releaseService_abreast (a : KnativeAdoption) (abreast : Abreast key start a) :
    Ensures apiserver (SnapshotKept key) (fun d _ => SnapshotKept key start d) (releaseService a)
      (fun result d _ => SnapshotKept key start d ∧ Abreast key start (afterStage result)) c log := by
  have waits (msg : String) : Abreast key start (awaitChildren a msg).adoption :=
    abreast.same key start _ _ (sameLedger_setReady _ _ _ _)
  unfold releaseService
  split
  · refine ensures_bind (ensures_mono (ensures_within key start kept _ (within_deleteKSvcIfPresent a)
      (by simp)) (fun deleted d calls _ later => ?_))
    cases deleted with
    | some err =>
      exact ensures_pure later ⟨later,abreast.same key start _ _ (sameLedger_setCondition _ _ _ _ _)⟩
    | none =>
      refine ensures_bind (ensures_mono (ensures_within key start later _ (within_isKSvcGone a)
        (by simp)) (fun gone e more _ held => ?_))
      rcases gone with err | _ | _
      · exact ensures_pure held ⟨held,abreast⟩
      · exact ensures_pure held ⟨held,waits _⟩
      · refine ensures_bind (ensures_mono (ensures_within key start held _ (within_isDerivedServiceGone a)
          (by simp)) (fun derived f rest _ last => ?_))
        rcases derived with err | _ | _
        · exact ensures_pure last ⟨last,abreast⟩
        · exact ensures_pure last ⟨last,waits _⟩
        · exact ensures_restoreChildren_abreast key start last a abreast
  · exact ensures_pure kept ⟨kept,abreast⟩

theorem ensures_handleDeletion_abreast (a : KnativeAdoption) (abreast : Abreast key start a) :
    Ensures apiserver (SnapshotKept key) (fun d _ => SnapshotKept key start d) (handleDeletion a)
      (fun done d _ => SnapshotKept key start d ∧ Abreast key start done.adoption) c log := by
  refine ensures_bind (ensures_mono (ensures_releaseService_abreast key start kept a abreast)
    (fun released d calls _ later => ?_))
  obtain ⟨later,held⟩ := later
  cases released with
  | error ended => exact ensures_pure later ⟨later,held⟩
  | ok b =>
    have source : Ensures apiserver (SnapshotKept key) (fun d _ => SnapshotKept key start d) (releaseSource b)
        (fun result d _ => SnapshotKept key start d ∧ Abreast key start (afterStage result)) d (log++calls) := by
      unfold releaseSource
      split
      · dsimp only
        generalize readied : setReady b .false .restoringSource "restoring source Deployment replicas" = x
        have ready : Abreast key start x := readied ▸ held.same key start _ _ (sameLedger_setReady _ _ _ _)
        refine ensures_bind (ensures_mono (ensures_within key start later _
          (within_restoreDeploymentSpec x) (by simp)) (fun restored e more _ last => ?_))
        cases restored with
        | some err =>
          exact ensures_pure last ⟨last,ready.same key start _ _ (sameLedger_setCondition _ _ _ _ _)⟩
        | none =>
          refine ensures_bind (ensures_mono (ensures_removeFinalizer_abreast key start last x
            finalizerRestoreSource ready) (fun removed f rest _ ended => ?_))
          obtain ⟨y,_ | err⟩ := removed <;> exact ensures_pure ended.1 ended
      · exact ensures_pure later ⟨later,held⟩
    refine ensures_bind (ensures_mono source (fun result e more _ last => ?_))
    obtain ⟨last,final⟩ := last
    cases result with
    | error ended => exact ensures_pure last ⟨last,final⟩
    | ok y => exact ensures_pure last ⟨last,final.same key start _ _ (sameLedger_setReady _ _ _ _)⟩

theorem ensures_patchStatus_entries (original current : KnativeAdoption) (abreast : Abreast key start current) :
    Ensures apiserver (SnapshotKept key) (fun d _ => EntriesKept key start d) (patchStatus original current)
      (fun _ d _ => EntriesKept key start d) c log := by
  unfold patchStatus
  split
  · exact ensures_pure (kept.entries key start c) (kept.entries key start c)
  · refine ensures_call (kept.entries key start c) (fun d fault moved => ?_)
    have before := SnapshotKept.trans key _ _ _ kept moved
    have after : EntriesKept key start (apiserver.serve fault d (.patchStatus original current)).1 := by
      rcases apiserver.serve_state fault d (.patchStatus original current) with same | ⟨same,_⟩
      · rw [same]
        exact before.entries key start d
      · rw [same]
        change EntriesKept key start (d.patchStatus original current).1
        unfold Cluster.patchStatus
        rw [abreast.filed]
        split
        · exact before.entries key start d
        next stored held =>
          intro st found
          have filed : stored.key = key := d.adoptions.keyed _ _ held
          change (if key = stored.key then some _ else _) = some st at found
          rw [if_pos filed.symm] at found
          cases found
          obtain ⟨old,there,same⟩ := before stored held
          refine ⟨old,there,?_⟩
          have sent := abreast.keeps old there
          rw [← same] at sent ⊢
          exact mergeStatus_keeps _ _ _ sent
    exact ensures_pure after after

theorem ensures_reconcileFrom (r : KnativeAdoptionReconciler) (version : KnativeAdoption)
    (abreast : Abreast key start version) :
    Ensures apiserver (SnapshotKept key) (fun d _ => EntriesKept key start d) (reconcileFrom r version)
      (fun _ d _ => EntriesKept key start d) c log := by
  have weaker (d : Cluster) (_ : CallLog) (held : SnapshotKept key start d) : EntriesKept key start d := held.entries key start d
  unfold reconcileFrom
  split
  · refine ensures_bind (ensures_inv _ _ _ _ _ weaker (ensures_mono
      (ensures_handleDeletion_abreast key start kept version abreast) (fun done d calls _ later => ?_)))
    refine ensures_bind (ensures_mono
      (ensures_patchStatus_entries key start later.1 version done.adoption later.2) (fun answer e more _ last => ?_))
    cases answer with
    | ok patched => exact ensures_pure last last
    | error err =>
      dsimp only
      split <;> exact ensures_pure last last
  · refine ensures_bind (ensures_inv _ _ _ _ _ weaker (ensures_mono
      (ensures_ensureFinalizers_abreast key start kept version abreast) (fun result d calls _ later => ?_)))
    obtain ⟨later,held⟩ := later
    cases result with
    | error err => exact ensures_pure (weaker _ [] later) (weaker _ [] later)
    | ok original =>
      have adopting := ensures_returns _ _ (returns_reconcileAdoption along_grown.moves r original) _ _ _
        (ensures_reconcileAdoption_applies (SnapshotKept key) (fun d _ => SnapshotKept key start d) r original
          (fun _ _ _ moved before => .trans key _ _ _ before moved)
          (fun s _ fault request applies before => .trans key _ _ _ before (serve_snapshotKept key fault s request
            (by cases request <;> first | rfl | exact absurd rfl applies.1))) d (log++calls) later)
      refine ensures_bind (ensures_inv _ _ _ _ _ weaker (ensures_mono adopting
        (fun done e more _ last => ?_)))
      obtain ⟨grown,last⟩ := last
      have final := ((held original rfl).grown key start _ _ grown).same key start _ _
        (sameButConditions_recomputeReady done.adoption).sameLedger
      refine ensures_bind (ensures_mono
        (ensures_patchStatus_entries key start last original _ final) (fun answer f rest _ ended => ?_))
      cases answer <;> exact ensures_pure ended ended

end Pass

/-! Runs of passes from cached versions. -/

/-- The states a run of calls goes through. -/
def trail (log : CallLog) (last : Cluster) : List Cluster :=
  log.flatMap (fun e => [e.before,(apiserver.serve e.fault e.before e.request).1])++[last]

/-- Passes over one adoption, each from a version that was stored at some earlier moment and
that the cache may still have. -/
inductive LaggingPasses (r : KnativeAdoptionReconciler) (key : NamespacedName) (cached : KnativeAdoption → Cluster → Prop)
    (start : Cluster) (earlier : List Cluster) : List Cluster → CallLog → Cluster → Prop
  | start : LaggingPasses r key cached start earlier (earlier++[start]) [] start
  | drift (past : List Cluster) (log : CallLog) (c d : Cluster) (before : LaggingPasses r key cached start earlier past log c)
      (moved : SnapshotKept key c d) : LaggingPasses r key cached start earlier (past++[d]) log d
  | pass (past : List Cluster) (log calls : CallLog) (c d seen : Cluster) (version : KnativeAdoption)
      (out : Option (Result × Option ApiError)) (before : LaggingPasses r key cached start earlier past log c)
      (stored : seen ∈ past) (held : seen.adoptions.get key = some version) (lag : cached version c)
      (run : Run apiserver (SnapshotKept key) (reconcileFrom r version) c calls out d) :
      LaggingPasses r key cached start earlier (past++trail calls d) (log++calls) d

/-- The version has every traffic entry that is stored now. -/
def Current (key : NamespacedName) (version : KnativeAdoption) (c : Cluster) : Prop :=
  ∀ st, c.adoptions.get key = some st → Keeps st.status.sourceSnapshot version.status.sourceSnapshot

/-- Recorded traffic specs survive any passes from versions that have them. -/
theorem snapshots_survive (r : KnativeAdoptionReconciler) (key : NamespacedName) (start c : Cluster)
    (earlier past : List Cluster) (log : CallLog) (passes : LaggingPasses r key (Current key) start earlier past log c) :
    EntriesKept key start c := by
  induction passes with
  | start => exact (SnapshotKept.refl key start).entries key start start
  | drift past log c d before moved ih => exact ih.trans key _ _ _ (moved.entries key c d)
  | pass past log calls c d seen version out before stored held lag run ih =>
    have abreast : Abreast key c version := ⟨seen.adoptions.keyed _ _ held,lag⟩
    have safe : Ensures apiserver (SnapshotKept key) (fun d _ => EntriesKept key c d) (reconcileFrom r version)
        (fun _ d _ => EntriesKept key c d) c [] := ensures_reconcileFrom key c (SnapshotKept.refl key c) r version abreast
    exact ih.trans key _ _ _ (safe calls out d run).1

namespace Sample

/-- There is no Service to swap. -/
def unserviced : Cluster := { cluster with services := .ofList [] }

def firstPass : CallLog × Option (Result × Option ApiError) × Cluster :=
  apiserver.exec (reconcileFrom reconciler adoption) (List.replicate 11 .none) unserviced

/-- The version stored by the first call of the first pass: it has the finalizers and no snapshot. -/
def finalized : Cluster := (apiserver.exec (reconcileFrom reconciler adoption) [.none] unserviced).2.2

def versionIn (c : Cluster) : KnativeAdoption := (c.adoptions.get adoption.key).getD adoption

/-- The second pass, from the version that was stored in the given state. -/
def secondPass (seen : Cluster) : CallLog × Option (Result × Option ApiError) × Cluster :=
  apiserver.exec (reconcileFrom reconciler (versionIn seen)) (List.replicate 11 .none) firstPass.2.2

def ruleIn (c : Cluster) : Option RawExtension :=
  (recordedUnder (versionIn c).status.sourceSnapshot .destinationRule "web").map (fun item => item.spec)

theorem stored (c : Cluster) (there : (c.adoptions.get adoption.key).isSome = true) :
    c.adoptions.get adoption.key = some (versionIn c) := by
  obtain ⟨st,held⟩ := Option.isSome_iff_exists.mp there
  unfold versionIn
  rw [held]
  rfl

theorem lagging (cached : KnativeAdoption → Cluster → Prop) (seen : Cluster)
    (there : (seen.adoptions.get adoption.key).isSome = true)
    (earlier : seen ∈ [unserviced]++trail firstPass.1 firstPass.2.2) (first : cached adoption unserviced)
    (second : cached (versionIn seen) firstPass.2.2) :
    LaggingPasses reconciler adoption.key cached unserviced [] ([unserviced]++trail firstPass.1 firstPass.2.2++
      trail (secondPass seen).1 (secondPass seen).2.2) ([]++firstPass.1++(secondPass seen).1) (secondPass seen).2.2 := by
  refine .pass _ _ _ firstPass.2.2 _ seen (versionIn seen) _ ?_ earlier (stored seen there) second
    (run_exec apiserver _ (SnapshotKept.refl adoption.key) _ _ _)
  exact .pass _ _ _ unserviced _ unserviced adoption _ .start (by simp) rfl first
    (run_exec apiserver _ (SnapshotKept.refl adoption.key) _ _ _)

end Sample

/-- The rule that the first pass recorded is still recorded after a second one. -/
theorem snapshots_survive_sample :
    Sample.ruleIn Sample.firstPass.2.2 = some Sample.destinationRule.spec ∧
      EntriesKept Sample.adoption.key Sample.firstPass.2.2 (Sample.secondPass Sample.firstPass.2.2).2.2 ∧
      Sample.ruleIn (Sample.secondPass Sample.firstPass.2.2).2.2 = some Sample.destinationRule.spec := by
  have held := Sample.stored Sample.firstPass.2.2 (by decide +kernel)
  refine ⟨by decide +kernel,snapshots_survive Sample.reconciler _ _ _ [] _ _ (.pass _ _ _ Sample.firstPass.2.2 _ Sample.firstPass.2.2
    (Sample.versionIn Sample.firstPass.2.2) _ .start (by simp) held ?_ (run_exec apiserver _ (SnapshotKept.refl _) _ _ _)),
    by decide +kernel⟩
  intro st there
  cases held.symm.trans there
  exact .refl _

/-- A pass from the version before the snapshot records the rewritten rule. -/
theorem snapshot_overwritten :
    ∃ past log, LaggingPasses Sample.reconciler Sample.adoption.key (fun _ _ => True) Sample.unserviced [] past log
        (Sample.secondPass Sample.finalized).2.2 ∧ Clean log ∧ Sample.firstPass.2.2 ∈ past ∧
      [Sample.firstPass,Sample.secondPass Sample.finalized].all (fun pass => pass.2.1.any (fun out => out.2.isNone)) = true ∧
      Sample.ruleIn Sample.firstPass.2.2 = some Sample.destinationRule.spec ∧
      (Sample.ruleIn (Sample.secondPass Sample.finalized).2.2).any (fun spec => spec ≠ Sample.destinationRule.spec) = true := by
  have clean : ([]++Sample.firstPass.1++(Sample.secondPass Sample.finalized).1 : CallLog).all (fun e => e.fault = .none) = true := by
    decide +kernel
  refine ⟨_,_,Sample.lagging _ Sample.finalized (by decide +kernel) (List.mem_of_getElem? (i := 2) rfl) trivial trivial,
    fun e member => ?_,by simp [trail],by decide +kernel,by decide +kernel,by decide +kernel⟩
  exact of_decide_eq_true (List.all_eq_true.mp clean e member)

end Ifaas
