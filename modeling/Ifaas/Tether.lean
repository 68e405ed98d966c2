import Ifaas.Pipeline
import Ifaas.Users

/-! What ties a Knative Service to its adoption over whole runs, with users at work: it is
applied only while the first finalizer holds the adoption, and the finalizer is removed
only after the Knative Service was seen to be gone. -/
namespace Ifaas
open Library

/-- The Knative Service names an adoption as its owner. -/
def Owned (uid : Nat) (ksvc : KService) : Prop := ∃ owner ∈ ksvc.ownerReferences, owner.uid = uid

/-- The adoption with this identity is stored and the first finalizer holds it. -/
def Grip (key : NamespacedName) (uid : Nat) (c : Cluster) : Prop :=
  ∃ st, c.adoptions.get key = some st ∧ st.uid = uid ∧ finalizerRestoreSourceService ∈ st.finalizers

/-- A Knative Service of the adoption stands under its key, while the finalizer holds. -/
structure Tethered (key : NamespacedName) (uid : Nat) (c : Cluster) : Prop where
  single : ∀ k ksvc, c.ksvcs.get k = some ksvc → Owned uid ksvc → k = key
  held : ∀ k ksvc, c.ksvcs.get k = some ksvc → Owned uid ksvc → Grip key uid c
  named : ∀ st, c.adoptions.get key = some st → st.uid = uid → st.name = st.spec.sourceRef.name

section Runs
variable {key : NamespacedName} {uid v : Nat} {c d : Cluster}

theorem sourceKey_named (a : KnativeAdoption) (named : a.name = a.spec.sourceRef.name) : sourceKey a = a.key := by
  unfold sourceKey sourceName
  split
  · rw [← named]
    rfl
  · rfl

theorem Grip.drift (moved : Drift c d) (grip : Grip key v c) : Grip key v d := by
  obtain ⟨st,held,same,member⟩ := grip
  obtain ⟨conditions,after⟩ := moved.adoptions key
  exact ⟨st.withConditions conditions,by rw [after,held]; rfl,same,member⟩

theorem Grip.user {mine : Nat → Prop} (moved : UserMove mine c d) (grip : Grip key v c) : Grip key v d := by
  obtain ⟨st,held,same,member⟩ := grip
  obtain ⟨next,stored,uid,finalizers,_⟩ := moved.stored key st held (List.ne_nil_of_mem member)
  exact ⟨next,stored,uid.trans same,by rw [finalizers]; exact member⟩

theorem Grip.life {mine : Nat → Prop} (moved : Life mine c d) (grip : Grip key v c) : Grip key v d :=
  Life.keeps (Grip key v) (fun _ _ step kept => kept.drift step) (fun _ _ step kept => kept.user step) moved grip

theorem Tethered.drift (moved : Drift c d) (tethered : Tethered key uid c) : Tethered key uid d := by
  have back (k : NamespacedName) (ksvc : KService) (found : d.ksvcs.get k = some ksvc) (owned : Owned uid ksvc) :
      ∃ old, c.ksvcs.get k = some old ∧ Owned uid old := by
    obtain ⟨old,before,same⟩ := moved.ksvc_before k ksvc found
    unfold Owned at owned
    rw [same] at owned
    exact ⟨old,before,owned⟩
  refine ⟨fun k ksvc found owned => ?_,fun k ksvc found owned => ?_,fun st found same => ?_⟩
  · obtain ⟨old,before,owned'⟩ := back k ksvc found owned
    exact tethered.single k old before owned'
  · obtain ⟨old,before,owned'⟩ := back k ksvc found owned
    exact (tethered.held k old before owned').drift moved
  · obtain ⟨conditions,after⟩ := moved.adoptions key
    rw [after] at found
    obtain ⟨old,before,rfl⟩ := Option.map_eq_some_iff.mp found
    exact tethered.named old before same

theorem Tethered.user (moved : UserMove (fun other => other ≠ uid) c d) (tethered : Tethered key uid c) :
    Tethered key uid d := by
  have ksvcs := moved.other_parts.1
  refine ⟨fun k ksvc found owned => ?_,fun k ksvc found owned => ?_,fun st found same => ?_⟩
  · rw [ksvcs] at found
    exact tethered.single k ksvc found owned
  · rw [ksvcs] at found
    exact (tethered.held k ksvc found owned).user moved
  · cases moved with
    | create a absent live theirs admitted =>
      have object := default_meta a
      by_cases here : key = (Webhook.default a).key
      · rw [show ({ c with adoptions := c.adoptions.put (Webhook.default a) } : Cluster).adoptions.get key =
          some (Webhook.default a) from if_pos here] at found
        cases found
        exact absurd ((congrArg ObjectMeta.uid object).symm.trans same) theirs
      · exact tethered.named st ((if_neg here).symm.trans found) same
    | delete other =>
      obtain ⟨old,deleting,before,rfl⟩ := deleteAdoption_back c other key st found
      exact tethered.named old before same
    | edit a labels annotations spec generation held admitted =>
      have fixed := AdmittedUpdate.sourceRef _ _ admitted
      generalize edited : ({ a with labels := labels, annotations := annotations, spec := spec, generation := generation } :
        KnativeAdoption) = e at fixed found
      have object : (Webhook.default e).key = a.key ∧ (Webhook.default e).uid = a.uid ∧ (Webhook.default e).name = a.name := by
        rw [show (Webhook.default e).key = e.key from congrArg ObjectMeta.key (default_meta e),
          congrArg ObjectMeta.uid (default_meta e),congrArg ObjectMeta.name (default_meta e),← edited]
        exact ⟨rfl,rfl,rfl⟩
      by_cases here : key = (Webhook.default e).key
      · rw [show ({ c with adoptions := c.adoptions.put (Webhook.default e) } : Cluster).adoptions.get key =
          some (Webhook.default e) from if_pos here] at found
        cases found
        rw [object.2.2,fixed]
        exact tethered.named a (by rw [here,object.1]; exact held) (object.2.1.symm.trans same)
      · exact tethered.named st ((if_neg here).symm.trans found) same

theorem Tethered.life (moved : Life (fun other => other ≠ uid) c d) (tethered : Tethered key uid c) : Tethered key uid d :=
  Life.keeps (Tethered key uid) (fun _ _ step kept => kept.drift step) (fun _ _ step kept => kept.user step) moved tethered

/-- A state with the same Knative Services and adoptions. -/
theorem Tethered.frame (tethered : Tethered key uid c) (ksvcs : d.ksvcs = c.ksvcs) (adoptions : d.adoptions = c.adoptions) :
    Tethered key uid d := by
  refine ⟨?_,?_,?_⟩
  · rw [ksvcs]
    exact tethered.single
  · rw [ksvcs]
    unfold Grip
    rw [adoptions]
    exact tethered.held
  · rw [adoptions]
    exact tethered.named

theorem Tethered.serve (tethered : Tethered key uid c) (fault : Fault String) (r : Request)
    (adoptions : r.part ≠ some .adoptions) (ksvcs : r.part ≠ some .ksvcs) :
    Tethered key uid (apiserver.serve fault c r).1 :=
  tethered.frame (serve_ksvcs fault c r ksvcs) (serve_adoptions fault c r adoptions)

theorem Grip.serve (grip : Grip key v c) (fault : Fault String) (r : Request) (adoptions : r.part ≠ some .adoptions) :
    Grip key v (apiserver.serve fault c r).1 := by
  unfold Grip
  rw [serve_adoptions fault c r adoptions]
  exact grip

/-- An applied Knative Service of the adoption goes under its key and needs the grip. -/
theorem Tethered.applyKService (tethered : Tethered key uid c) (fault : Fault String) (sent : KService)
    (owner : OwnerReference) (owners : sent.ownerReferences = [owner])
    (mine : owner.uid = uid → sent.key = key ∧ Grip key uid c) :
    Tethered key uid (apiserver.serve fault c (.applyKService sent)).1 := by
  rcases apiserver.serve_state fault c (.applyKService sent) with same | ⟨same,_⟩
  · rw [same]
    exact tethered
  · rw [same]
    change Tethered key uid (c.applyKService sent).1
    have stored (next : KService) (filed : next.key = sent.key)
        (old : Owned uid next → owner.uid = uid ∨ ∃ before, c.ksvcs.get sent.key = some before ∧ Owned uid before) :
        Tethered key uid { c with ksvcs := c.ksvcs.put next } := by
      have back (k : NamespacedName) (ksvc : KService)
          (found : ({ c with ksvcs := c.ksvcs.put next } : Cluster).ksvcs.get k = some ksvc) (owned : Owned uid ksvc) :
          k = key ∧ Grip key uid c := by
        by_cases here : k = next.key
        · rw [show ({ c with ksvcs := c.ksvcs.put next } : Cluster).ksvcs.get k = some next from if_pos here] at found
          cases found
          rcases old owned with own | ⟨before,held,owned'⟩
          · obtain ⟨same,grip⟩ := mine own
            exact ⟨here.trans (filed.trans same),grip⟩
          · exact ⟨(here.trans filed).trans (tethered.single _ before held owned'),tethered.held _ before held owned'⟩
        · have before : c.ksvcs.get k = some ksvc := (if_neg here).symm.trans found
          exact ⟨tethered.single k ksvc before owned,tethered.held k ksvc before owned⟩
      exact ⟨fun k ksvc found owned => (back k ksvc found owned).1,fun k ksvc found owned => (back k ksvc found owned).2,
        tethered.named⟩
    unfold Cluster.applyKService
    cases held : c.ksvcs.get sent.key with
    | none =>
      refine stored _ rfl (fun ⟨other,member,same'⟩ => Or.inl ?_)
      rw [show ({ sent with status := {} } : KService).ownerReferences = [owner] from owners] at member
      rw [← List.mem_singleton.mp member]
      exact same'
    | some before =>
      have filed : before.key = sent.key := c.ksvcs.keyed _ _ held
      dsimp only
      split
      · exact tethered
      · refine stored _ filed (fun ⟨other,member,same'⟩ => ?_)
        change other ∈ Cluster.mergeOwners before.ownerReferences sent.ownerReferences at member
        rcases List.mem_append.mp member with new | kept
        · rw [owners] at new
          exact Or.inl (List.mem_singleton.mp new ▸ same')
        · exact Or.inr ⟨before,held,other,(List.mem_filter.mp kept).1,same'⟩

theorem Tethered.deleteKService (tethered : Tethered key uid c) (fault : Fault String) (k : NamespacedName) :
    Tethered key uid (apiserver.serve fault c (.deleteKService k)).1 := by
  rcases apiserver.serve_state fault c (.deleteKService k) with same | ⟨same,_⟩
  · rw [same]
    exact tethered
  · rw [same]
    change Tethered key uid (c.deleteKService k).1
    unfold Cluster.deleteKService
    cases held : c.ksvcs.get k with
    | none => exact tethered
    | some marked =>
      have filed : marked.key = k := c.ksvcs.keyed _ _ held
      have back (other : NamespacedName) (ksvc : KService)
          (found : (c.ksvcs.put { marked with deleting := true }).get other = some ksvc) (owned : Owned uid ksvc) :
          ∃ old, c.ksvcs.get other = some old ∧ Owned uid old := by
        by_cases here : other = k
        · rw [show (c.ksvcs.put { marked with deleting := true }).get other = some { marked with deleting := true } from
            if_pos (here.trans filed.symm)] at found
          cases found
          exact ⟨marked,here ▸ held,owned⟩
        · exact ⟨ksvc,(if_neg (fun equal => here (equal.trans filed))).symm.trans found,owned⟩
      refine ⟨fun other ksvc found owned => ?_,fun other ksvc found owned => ?_,tethered.named⟩
      · obtain ⟨old,before,owned'⟩ := back other ksvc found owned
        exact tethered.single other old before owned'
      · obtain ⟨old,before,owned'⟩ := back other ksvc found owned
        exact tethered.held other old before owned'

theorem Tethered.patchStatus (tethered : Tethered key uid c) (fault : Fault String) (original current : KnativeAdoption) :
    Tethered key uid (apiserver.serve fault c (.patchStatus original current)).1 := by
  obtain ⟨f,after⟩ := serve_patchStatus_status fault c original current key
  have ksvcs := serve_ksvcs fault c (.patchStatus original current) nofun
  refine ⟨fun k ksvc found owned => ?_,fun k ksvc found owned => ?_,fun st found same => ?_⟩
  · rw [ksvcs] at found
    exact tethered.single k ksvc found owned
  · rw [ksvcs] at found
    obtain ⟨st,held,same,member⟩ := tethered.held k ksvc found owned
    exact ⟨{ st with status := f st.status },by rw [after,held]; rfl,same,member⟩
  · rw [after] at found
    obtain ⟨old,before,rfl⟩ := Option.map_eq_some_iff.mp found
    exact tethered.named old before same

/-- Finalizers that include the first are patched on. -/
theorem Tethered.patchFinalizers (tethered : Tethered key uid c) (fault : Fault String) (finalizers : List String)
    (inside : finalizerRestoreSourceService ∈ finalizers) :
    Tethered key uid (apiserver.serve fault c (.patchFinalizers key finalizers)).1 ∧
      ∀ b, (apiserver.serve fault c (.patchFinalizers key finalizers)).2 = .ok b →
        b.key = key ∧ Grip key b.uid (apiserver.serve fault c (.patchFinalizers key finalizers)).1 ∧
          (b.uid = uid → b.name = b.spec.sourceRef.name) := by
  have whole (next st : KnativeAdoption) (held : c.adoptions.get key = some st)
      (equal : next = { st with finalizers := finalizers }) :
      Tethered key uid { c with adoptions := c.adoptions.put next } ∧
        Grip key next.uid { c with adoptions := c.adoptions.put next } := by
    have filed : key = next.key := by
      rw [equal]
      exact (c.adoptions.keyed _ _ held).symm
    have stored : ({ c with adoptions := c.adoptions.put next } : Cluster).adoptions.get key = some next := if_pos filed
    have grip : Grip key next.uid { c with adoptions := c.adoptions.put next } :=
      ⟨next,stored,rfl,by rw [equal]; exact inside⟩
    refine ⟨⟨tethered.single,fun k ksvc found owned => ?_,fun other found same => ?_⟩,grip⟩
    · obtain ⟨old,before,same,_⟩ := tethered.held k ksvc found owned
      rw [held] at before
      cases before
      rw [← same,show st.uid = next.uid by rw [equal]]
      exact grip
    · rw [stored] at found
      cases found
      rw [equal] at same ⊢
      exact tethered.named st held same
  have effect : Tethered key uid (c.patchFinalizers key finalizers).1 ∧
      ∀ b, (c.patchFinalizers key finalizers).2 = .ok b → b.key = key ∧ Grip key b.uid (c.patchFinalizers key finalizers).1 ∧
        (b.uid = uid → b.name = b.spec.sourceRef.name) := by
    unfold Cluster.patchFinalizers
    cases held : c.adoptions.get key with
    | none => exact ⟨tethered,fun b answer => by cases answer⟩
    | some st =>
      have filed : st.key = key := c.adoptions.keyed _ _ held
      dsimp only
      split
      · exact ⟨tethered,fun b answer => by cases answer⟩
      · obtain ⟨after,grip⟩ := whole _ st held rfl
        refine ⟨after,fun b answer => ?_⟩
        cases answer
        exact ⟨filed,grip,tethered.named st held⟩
  cases fault with
  | none => exact effect
  | refused error => exact ⟨tethered,fun b answer => by cases answer⟩
  | lost error => exact ⟨effect.1,fun b answer => by cases answer⟩

/-! A live pass. -/

theorem ensures_ensureFinalizers_tethered (a : KnativeAdoption) (log : CallLog) (same : a.key = key)
    (held : c.adoptions.get key = some a) (tethered : Tethered key uid c) :
    Ensures apiserver (Life (fun other => other ≠ uid)) (fun d _ => Tethered key uid d) (ensureFinalizers a)
      (fun result d _ => Tethered key uid d ∧ ∀ b, result = .ok b →
        b.key = key ∧ Grip key b.uid d ∧ (b.uid = uid → b.name = b.spec.sourceRef.name)) c log := by
  have inside : finalizerRestoreSourceService ∈
      addFinalizer (addFinalizer a.finalizers finalizerRestoreSourceService) finalizerRestoreSource := by
    unfold addFinalizer
    split <;> split <;> simp_all
  unfold ensureFinalizers
  dsimp only
  split
  next present =>
    refine ensures_pure tethered ⟨tethered,fun b equal => ?_⟩
    cases equal
    exact ⟨same,⟨a,held,rfl,present ▸ inside⟩,tethered.named a held⟩
  next missing =>
    refine ensures_ask tethered (fun d fault moved => ?_)
    rw [same]
    obtain ⟨after,answered⟩ := (tethered.life moved).patchFinalizers fault _ inside
    cases answer : (apiserver.serve fault d (.patchFinalizers key _)).2 with
    | error err => exact ensures_pure after ⟨after,fun b equal => by cases equal⟩
    | ok stored =>
      refine ensures_pure after ⟨after,fun b equal => ?_⟩
      cases equal
      exact answered _ answer

theorem ensures_reconcileAdoption_tethered (r : KnativeAdoptionReconciler) (b : KnativeAdoption) (log : CallLog)
    (same : b.key = key) (named : b.uid = uid → b.name = b.spec.sourceRef.name) (tethered : Tethered key uid c)
    (grip : Grip key b.uid c) :
    Ensures apiserver (Life (fun other => other ≠ uid)) (fun d _ => Tethered key uid d ∧ Grip key b.uid d)
      (reconcileAdoption r b) (fun _ d _ => Tethered key uid d ∧ Grip key b.uid d) c log := by
  refine ensures_reconcileAdoption_applies _ (fun d _ => Tethered key uid d ∧ Grip key b.uid d) r b
    (fun _ _ _ moved kept => ⟨kept.1.life moved,kept.2.life moved⟩) (fun d past fault request fine kept => ?_) c log
    ⟨tethered,grip⟩
  refine ⟨?_,kept.2.serve fault request fine.1⟩
  by_cases part : request.part = some .ksvcs
  · obtain ⟨sent,owner,rfl,filed,owners,own⟩ := fine.2 part
    refine kept.1.applyKService fault sent owner owners (fun mine => ?_)
    have equal : b.uid = uid := own.symm.trans mine
    refine ⟨?_,equal ▸ kept.2⟩
    rw [filed,sourceKey_named b (named equal)]
    exact same
  · exact kept.1.serve fault request fine.1 part

theorem ensures_patchStatus_tethered (original current : KnativeAdoption) (log : CallLog) (tethered : Tethered key uid c) :
    Ensures apiserver (Life (fun other => other ≠ uid)) (fun d _ => Tethered key uid d) (patchStatus original current)
      (fun _ d _ => Tethered key uid d) c log := by
  unfold Ifaas.patchStatus
  split
  · exact ensures_pure tethered tethered
  · refine ensures_call tethered (fun d fault moved => ?_)
    have after := (tethered.life moved).patchStatus fault original current
    exact ensures_pure after after

theorem ensures_reconcileLive_tethered (r : KnativeAdoptionReconciler) (a : KnativeAdoption) (log : CallLog)
    (same : a.key = key) (held : c.adoptions.get key = some a) (tethered : Tethered key uid c) :
    Ensures apiserver (Life (fun other => other ≠ uid)) (fun d _ => Tethered key uid d) (reconcileLive r a)
      (fun _ d _ => Tethered key uid d) c log := by
  unfold reconcileLive
  refine ensures_bind (ensures_mono (ensures_ensureFinalizers_tethered a log same held tethered) ?_)
  rintro (err | b) d calls _ ⟨after,ready⟩
  · exact ensures_pure after after
  · obtain ⟨filed,grip,named⟩ := ready b rfl
    refine ensures_bind (ensures_mono (ensures_inv _ _ _ _ _ (fun _ _ kept => kept.1)
      (ensures_reconcileAdoption_tethered r b _ filed named after grip)) ?_)
    rintro done e more _ ⟨kept,_⟩
    refine ensures_bind (ensures_mono (ensures_patchStatus_tethered b _ _ kept) ?_)
    rintro (err | ok) f rest _ final <;> exact ensures_pure final final

/-! A deletion pass. -/

/-- As long as the adoption in memory has finalizers, they are those of the stored one. -/
def Tracks (key : NamespacedName) (b : KnativeAdoption) (c : Cluster) : Prop :=
  b.finalizers ≠ [] → ∃ st, c.adoptions.get key = some st ∧ st.uid = b.uid ∧ st.finalizers = b.finalizers

variable {b : KnativeAdoption}

theorem Tracks.life {mine : Nat → Prop} (moved : Life mine c d) (tracks : Tracks key b c) : Tracks key b d := by
  refine Life.keeps (Tracks key b) (fun c d step kept some_ => ?_) (fun c d step kept some_ => ?_) moved tracks
  · obtain ⟨st,held,same,finalizers⟩ := kept some_
    obtain ⟨conditions,after⟩ := step.adoptions key
    exact ⟨st.withConditions conditions,by rw [after,held]; rfl,same,finalizers⟩
  · obtain ⟨st,held,same,finalizers⟩ := kept some_
    obtain ⟨next,stored,uid,kept',_⟩ := step.stored key st held (finalizers ▸ some_)
    exact ⟨next,stored,uid.trans same,kept'.trans finalizers⟩

theorem Tracks.serve (tracks : Tracks key b c) (fault : Fault String) (r : Request) (adoptions : r.part ≠ some .adoptions) :
    Tracks key b (apiserver.serve fault c r).1 := by
  unfold Tracks
  rw [serve_adoptions fault c r adoptions]
  exact tracks

theorem vacated_life {mine : Nat → Prop} (moved : Life mine c d) (absent : c.ksvcs.get key = none) :
    d.ksvcs.get key = none := by
  refine Life.keeps (fun c => c.ksvcs.get key = none) (fun c d step kept => ?_) (fun c d step kept => ?_) moved absent
  · have after := step.ksvcs key
    rw [kept] at after
    exact after
  · rw [step.other_parts.1]
    exact kept

/-- What a deletion pass has to keep while it works on `b`. -/
structure Releases (key : NamespacedName) (uid : Nat) (b : KnativeAdoption) (c : Cluster) : Prop where
  tethered : Tethered key uid c
  tracks : Tracks key b c
  same : b.key = key
  named : b.uid = uid → b.name = b.spec.sourceRef.name

theorem Releases.life (moved : Life (fun other => other ≠ uid) c d) (releases : Releases key uid b c) :
    Releases key uid b d :=
  { releases with tethered := releases.tethered.life moved, tracks := releases.tracks.life moved }

theorem Releases.serve (releases : Releases key uid b c) (fault : Fault String) (r : Request)
    (adoptions : r.part ≠ some .adoptions) (ksvcs : r.part ≠ some .ksvcs) :
    Releases key uid b (apiserver.serve fault c r).1 :=
  { releases with tethered := releases.tethered.serve fault r adoptions ksvcs,
                  tracks := releases.tracks.serve fault r adoptions }

theorem Releases.ledger (releases : Releases key uid b c) (next : KnativeAdoption) (ledger : SameLedger b next) :
    Releases key uid next c where
  tethered := releases.tethered
  tracks := by
    unfold Tracks
    rw [ledger.metadata]
    exact releases.tracks
  same := (congrArg ObjectMeta.key ledger.metadata).trans releases.same
  named := by
    rw [ledger.metadata,ledger.spec]
    exact releases.named

/-- An update that takes the finalizer away is fine once no Knative Service is left. -/
theorem Tethered.updateAdoption (tethered : Tethered key uid c) (fault : Fault String) (next st : KnativeAdoption)
    (held : c.adoptions.get key = some st) (same : next.key = key)
    (named : st.uid = uid → next.name = next.spec.sourceRef.name)
    (free : st.uid = uid → finalizerRestoreSourceService ∉ next.finalizers →
      ∀ k ksvc, c.ksvcs.get k = some ksvc → ¬ Owned uid ksvc) :
    Tethered key uid (apiserver.serve fault c (.updateAdoption next)).1 ∧
      ∀ stored, (apiserver.serve fault c (.updateAdoption next)).2 = .ok stored →
        Releases key uid stored (apiserver.serve fault c (.updateAdoption next)).1 ∧
          stored.finalizers = next.finalizers := by
  have filed : st.key = key := c.adoptions.keyed _ _ held
  have name : st.name = next.name := congrArg NamespacedName.name (filed.trans same.symm)
  have grips (k : NamespacedName) (ksvc : KService) (found : c.ksvcs.get k = some ksvc) (owned : Owned uid ksvc) :
      st.uid = uid ∧ finalizerRestoreSourceService ∈ next.finalizers := by
    obtain ⟨other,found',own,_⟩ := tethered.held k ksvc found owned
    rw [held] at found'
    cases found'
    refine ⟨own,?_⟩
    by_contra gone
    exact free own gone k ksvc found owned
  have effect : Tethered key uid (c.updateAdoption next).1 ∧
      ∀ stored, (c.updateAdoption next).2 = .ok stored →
        Releases key uid stored (c.updateAdoption next).1 ∧ stored.finalizers = next.finalizers := by
    unfold Cluster.updateAdoption
    rw [same,held]
    dsimp only
    split
    · exact ⟨tethered,fun stored answer => by cases answer⟩
    · have object (w : KnativeAdoption) (written : ({ st with
          labels := next.labels, annotations := next.annotations, finalizers := next.finalizers, spec := next.spec } :
            KnativeAdoption) = w) : w.key = key ∧ w.uid = st.uid ∧ w.finalizers = next.finalizers ∧
          (w.uid = uid → w.name = w.spec.sourceRef.name) := by
        rw [← written]
        exact ⟨filed,rfl,rfl,fun own => name.trans (named own)⟩
      split
      next last =>
        simp only [Bool.and_eq_true,decide_eq_true_eq] at last
        have after : Tethered key uid { c with adoptions := c.adoptions.remove key } := by
          refine ⟨tethered.single,fun k ksvc found owned => ?_,fun other found _ => ?_⟩
          · have inside := (grips k ksvc found owned).2
            rw [last.2] at inside
            cases inside
          · rw [show ({ c with adoptions := c.adoptions.remove key } : Cluster).adoptions.get key = none from
              if_pos rfl] at found
            cases found
        refine ⟨after,fun stored answer => ?_⟩
        obtain ⟨filed',_,finalizers,named'⟩ := object stored (Except.ok.inj answer)
        exact ⟨⟨after,fun some_ => absurd (finalizers.trans last.2) some_,filed',named'⟩,finalizers⟩
      next =>
        generalize written : ({ st with
          labels := next.labels, annotations := next.annotations, finalizers := next.finalizers, spec := next.spec } :
            KnativeAdoption) = w
        have object := object w written
        have stored : ({ c with adoptions := c.adoptions.put w } : Cluster).adoptions.get key = some w :=
          if_pos object.1.symm
        have after : Tethered key uid { c with adoptions := c.adoptions.put w } := by
          refine ⟨tethered.single,fun k ksvc found owned => ?_,fun other found own => ?_⟩
          · obtain ⟨own,inside⟩ := grips k ksvc found owned
            exact ⟨w,stored,object.2.1.trans own,by rw [object.2.2.1]; exact inside⟩
          · rw [stored] at found
            cases found
            exact object.2.2.2 own
        refine ⟨after,fun other answer => ?_⟩
        cases answer
        exact ⟨⟨after,fun _ => ⟨w,stored,rfl,rfl⟩,object.1,object.2.2.2⟩,object.2.2.1⟩
  cases fault with
  | none => exact effect
  | refused error => exact ⟨tethered,fun stored answer => by cases answer⟩
  | lost error => exact ⟨effect.1,fun stored answer => by cases answer⟩

theorem ensures_removeFinalizer_tethered (name : String) (log : CallLog) (inside : name ∈ b.finalizers)
    (releases : Releases key uid b c)
    (vacant : c.ksvcs.get key = none ∨ finalizerRestoreSourceService ∉ b.finalizers) :
    Ensures apiserver (Life (fun other => other ≠ uid)) (fun d _ => Tethered key uid d) (removeFinalizer b name)
      (fun result d _ => Tethered key uid d ∧ (result.2 = none → Releases key uid result.1 d ∧
        result.1.finalizers = b.finalizers.filter (fun f => f ≠ name))) c log := by
  unfold removeFinalizer
  rw [if_pos inside]
  refine ensures_ask releases.tethered (fun d fault moved => ?_)
  have here := releases.life moved
  obtain ⟨st,held,own,finalizers⟩ := here.tracks (List.ne_nil_of_mem inside)
  generalize sent : ({ b with finalizers := b.finalizers.filter (fun f => f ≠ name) } : KnativeAdoption) = next
  obtain ⟨after,answered⟩ := here.tethered.updateAdoption fault next st held (by rw [← sent]; exact here.same)
    (fun equal => by rw [← sent]; exact here.named (own.symm.trans equal)) (fun _ _ k ksvc found owned => by
      rcases vacant with absent | missing
      · rw [here.tethered.single k ksvc found owned,vacated_life moved absent] at found
        cases found
      · obtain ⟨other,held',_,member⟩ := here.tethered.held k ksvc found owned
        rw [held] at held'
        cases held'
        exact missing (finalizers ▸ member))
  cases answer : (apiserver.serve fault d (.updateAdoption next)).2 with
  | error err => exact ensures_pure after ⟨after,fun equal => by cases equal⟩
  | ok stored =>
    obtain ⟨kept,same⟩ := answered stored answer
    refine ensures_pure after ⟨after,fun _ => ⟨kept,?_⟩⟩
    rw [same,← sent]

/-- A stage of the teardown that writes neither adoptions nor Knative Services. -/
theorem ensures_releases {α : Type} {parts : List Part} (p : Op α) (within : Within parts p)
    (outside : .adoptions ∉ parts ∧ .ksvcs ∉ parts) (log : CallLog) (releases : Releases key uid b c)
    (absent : c.ksvcs.get key = none ∨ finalizerRestoreSourceService ∉ b.finalizers) :
    Ensures apiserver (Life (fun other => other ≠ uid)) (fun d _ => Tethered key uid d) p
      (fun _ d _ => Releases key uid b d ∧
        (d.ksvcs.get key = none ∨ finalizerRestoreSourceService ∉ b.finalizers)) c log := by
  refine ensures_inv _ _ _ _ _ (fun _ _ kept => kept.1.tethered) (ensures_uses _
    (fun _ _ _ moved kept => ⟨kept.1.life moved,kept.2.imp_left (vacated_life moved)⟩)
    (fun s past fault request fine kept => ⟨kept.1.serve fault request (fun part => outside.1 (fine _ part))
      (fun part => outside.2 (fine _ part)),kept.2.imp_left (fun none_ => ?_)⟩) p within c log ⟨releases,absent⟩)
  rw [serve_ksvcs fault s request (fun part => outside.2 (fine _ part))]
  exact none_

theorem ensures_restoreChildren_tethered (log : CallLog) (pending : finalizerRestoreSourceService ∈ b.finalizers)
    (releases : Releases key uid b c) (absent : c.ksvcs.get key = none) :
    Ensures apiserver (Life (fun other => other ≠ uid)) (fun d _ => Tethered key uid d) (restoreChildren b)
      (fun result d _ => Tethered key uid d ∧ ∀ next, result = .ok next → Releases key uid next d ∧
        finalizerRestoreSourceService ∉ next.finalizers) c log := by
  unfold restoreChildren
  refine ensures_bind (ensures_mono (ensures_releases _ (within_restoreTrafficSnapshots _) (by simp)
    log releases (Or.inl absent)) ?_)
  rintro (_ | err) d calls _ ⟨traffic,vacant⟩
  · refine ensures_bind (ensures_mono (ensures_releases _ (within_rebuildSnapshotService _) (by simp)
      _ traffic vacant) ?_)
    rintro (_ | err) e more _ ⟨service,vacant⟩
    · refine ensures_bind (ensures_mono (ensures_removeFinalizer_tethered
        finalizerRestoreSourceService _ pending (service.ledger _ (.trans _ _ _ (sameLedger_setReady _ _ _ _)
          (sameLedger_setReady _ _ _ _))) vacant) ?_)
      rintro ⟨next,_ | err⟩ f rest _ ⟨after,released⟩
      · obtain ⟨kept,finalizers⟩ := released rfl
        refine ensures_pure after ⟨after,fun other equal => ?_⟩
        cases equal
        refine ⟨kept,?_⟩
        change next.finalizers = _ at finalizers
        rw [finalizers]
        simp
      · exact ensures_pure after ⟨after,fun _ equal => by cases equal⟩
    · exact ensures_pure service.tethered ⟨service.tethered,fun _ equal => by cases equal⟩
  · exact ensures_pure traffic.tethered ⟨traffic.tethered,fun _ equal => by cases equal⟩

theorem ensures_releaseService_tethered (log : CallLog) (releases : Releases key uid b c) :
    Ensures apiserver (Life (fun other => other ≠ uid)) (fun d _ => Tethered key uid d) (releaseService b)
      (fun result d _ => Tethered key uid d ∧ ∀ next, result = .ok next → Releases key uid next d ∧
        finalizerRestoreSourceService ∉ next.finalizers) c log := by
  have early (done : Reconciled) (d : Cluster) (past : CallLog) (after : Tethered key uid d) :
      Ensures apiserver (Life (fun other => other ≠ uid)) (fun d _ => Tethered key uid d)
        (pure (.error done : Except Reconciled KnativeAdoption))
        (fun result d _ => Tethered key uid d ∧ ∀ next, result = .ok next → Releases key uid next d ∧
          finalizerRestoreSourceService ∉ next.finalizers) d past :=
    ensures_pure after ⟨after,fun _ equal => by cases equal⟩
  unfold releaseService
  split
  next pending =>
    have deletes : Ensures apiserver (Life (fun other => other ≠ uid)) (fun d _ => Tethered key uid d)
        (deleteKSvcIfPresent b) (fun _ d _ => Releases key uid b d) c log := by
      refine ensures_ask releases.tethered (fun d fault moved => ?_)
      have here := releases.life moved
      have after : Releases key uid b (apiserver.serve fault d (.deleteKService b.key)).1 :=
        { here with tethered := here.tethered.deleteKService fault b.key,
                    tracks := here.tracks.serve fault _ nofun }
      cases answer : (apiserver.serve fault d (.deleteKService b.key)).2 with
      | ok done => exact ensures_pure after.tethered after
      | error err =>
        dsimp only
        split <;> exact ensures_pure after.tethered after
    have checks (d : Cluster) (past : CallLog) (here : Releases key uid b d) :
        Ensures apiserver (Life (fun other => other ≠ uid)) (fun d _ => Tethered key uid d) (isKSvcGone b)
          (fun result e _ => Releases key uid b e ∧ (result = .ok true → e.ksvcs.get key = none)) d past := by
      refine ensures_ask here.tethered (fun e fault moved => ?_)
      have after := here.life moved
      rw [serve_read _ rfl,here.same]
      cases answer : (apiserver.serve fault e (.getKService key)).2 with
      | ok ksvc => exact ensures_pure after.tethered ⟨after,fun equal => by cases equal⟩
      | error err =>
        dsimp only
        split
        next missing => exact ensures_pure after.tethered ⟨after,fun _ => getKService_missing answer missing⟩
        next => exact ensures_pure after.tethered ⟨after,fun equal => by cases equal⟩
    refine ensures_bind (ensures_mono deletes ?_)
    rintro (_ | err) d calls _ deleted
    · refine ensures_bind (ensures_mono (checks d _ deleted) ?_)
      rintro (err | ⟨_ | _⟩) e more _ ⟨checked,gone⟩
      · exact early _ _ _ checked.tethered
      · exact early _ _ _ checked.tethered
      · refine ensures_bind (ensures_mono (ensures_releases _ (within_isDerivedServiceGone b)
          (by simp) _ checked (Or.inl (gone rfl))) ?_)
        rintro (err | ⟨_ | _⟩) f rest _ ⟨derived,vacant⟩
        · exact early _ _ _ derived.tethered
        · exact early _ _ _ derived.tethered
        · rcases vacant with absent | missing
          · exact ensures_restoreChildren_tethered _ pending derived absent
          · exact absurd pending missing
    · exact early _ _ _ deleted.tethered
  next free =>
    refine ensures_pure releases.tethered ⟨releases.tethered,fun next equal => ?_⟩
    cases equal
    exact ⟨releases,free⟩

theorem ensures_reconcileDeleted_tethered (a : KnativeAdoption) (log : CallLog) (same : a.key = key)
    (held : c.adoptions.get key = some a) (tethered : Tethered key uid c) :
    Ensures apiserver (Life (fun other => other ≠ uid)) (fun d _ => Tethered key uid d) (reconcileDeleted a)
      (fun _ d _ => Tethered key uid d) c log := by
  have start : Releases key uid a c := ⟨tethered,fun _ => ⟨a,held,rfl,rfl⟩,same,tethered.named a held⟩
  have source (next : KnativeAdoption) (d : Cluster) (past : CallLog) (releases : Releases key uid next d)
      (free : finalizerRestoreSourceService ∉ next.finalizers) :
      Ensures apiserver (Life (fun other => other ≠ uid)) (fun d _ => Tethered key uid d) (releaseSource next)
        (fun _ d _ => Tethered key uid d) d past := by
    unfold releaseSource
    split
    next pending =>
      refine ensures_bind (ensures_mono (ensures_releases _ (within_restoreDeploymentSpec _) (by simp)
        past releases (Or.inr free)) ?_)
      rintro (_ | err) e calls _ ⟨restored,vacant⟩
      · refine ensures_bind (ensures_mono (ensures_removeFinalizer_tethered finalizerRestoreSource _
          pending (restored.ledger _ (sameLedger_setReady _ _ _ _)) vacant) ?_)
        rintro ⟨last,_ | err⟩ f rest _ ⟨after,_⟩ <;> exact ensures_pure after after
      · exact ensures_pure restored.tethered restored.tethered
    · exact ensures_pure releases.tethered releases.tethered
  have handles : Ensures apiserver (Life (fun other => other ≠ uid)) (fun d _ => Tethered key uid d) (handleDeletion a)
      (fun _ d _ => Tethered key uid d) c log := by
    unfold handleDeletion
    refine ensures_bind (ensures_mono (ensures_releaseService_tethered log start) ?_)
    rintro (done | next) d calls _ ⟨after,released⟩
    · exact ensures_pure after after
    · obtain ⟨releases,free⟩ := released next rfl
      refine ensures_bind (ensures_mono (source next d _ releases free) ?_)
      rintro (done | last) e more _ final <;> exact ensures_pure final final
  unfold reconcileDeleted
  refine ensures_bind (ensures_mono handles ?_)
  rintro done d calls _ after
  refine ensures_bind (ensures_mono (ensures_patchStatus_tethered a done.adoption _ after) ?_)
  rintro (err | ok) e more _ final
  · dsimp only
    split <;> exact ensures_pure final final
  · exact ensures_pure final final

theorem ensures_reconcile_tethered (r : KnativeAdoptionReconciler) (log : CallLog) (tethered : Tethered key uid c) :
    Ensures apiserver (Life (fun other => other ≠ uid)) (fun d _ => Tethered key uid d) (reconcile r key)
      (fun _ d _ => Tethered key uid d) c log := by
  unfold reconcile
  refine ensures_ask tethered (fun d fault moved => ?_)
  have here := tethered.life moved
  rw [serve_read _ rfl]
  cases answer : (apiserver.serve fault d (.getAdoption key)).2 with
  | error err =>
    dsimp only
    split <;> exact ensures_pure here here
  | ok a =>
    have held := getAdoption_ok answer
    have same := d.adoptions.keyed _ _ held
    dsimp only
    split
    · exact ensures_reconcileDeleted_tethered a _ same held here
    · exact ensures_reconcileLive_tethered r a _ same held here

/-- In every run the Knative Service of an adoption whose name is that of its source stays
tethered to it. -/
theorem passes_tethered (r : KnativeAdoptionReconciler) (c0 : Cluster)
    (passes : List (Pass Request Response String Cluster (Result × Option ApiError))) (start : Tethered key uid c0)
    (run : Passes apiserver (Life (fun other => other ≠ uid)) (reconcile r key) c0 passes c) : Tethered key uid c :=
  passes_invariant apiserver _ _ (fun d _ => Tethered key uid d) (fun _ _ _ moved kept => kept.life moved)
    (fun _ _ kept => ensures_reconcile_tethered r _ kept) c0 c passes start run

end Runs

end Ifaas
