import Ifaas.Snapshot

/-! The adoption passes keep a ledger. In memory the snapshot covers the user's things at
every moment: an entry is made before the call that destroys the thing. The stored
snapshot covers them between passes, as long as every pass that destroys something
without a stored entry gets its status patch through. -/
namespace Ifaas
open Library

/-- The thing a call destroys when it takes effect. -/
def hits (a : KnativeAdoption) : Request → Option Item
  | .deleteService key => if key = a.key then some .service else none
  | .applyReplicas key _ => if key = sourceKey a then some .replicas else none
  | .patchTraffic key _ => some (.traffic key)
  | _ => none

/-- The snapshot stored in the cluster. -/
def persisted (a : KnativeAdoption) (c : Cluster) : Option SourceSnapshot :=
  (c.adoptions.get a.key).bind (fun stored => stored.status.sourceSnapshot)

/-- The call destroyed a thing of which no entry was stored at that moment. -/
def Unrecorded (a : KnativeAdoption) (e : Event Request Response String Cluster) : Prop :=
  e.Took ∧ ∃ i, hits a e.request = some i ∧ image a e.before i ≠ none ∧ entry a.ns (persisted a e.before) i = none

def StatusPatched (e : Event Request Response String Cluster) : Prop :=
  e.Took ∧ ∃ original current, e.request = .patchStatus original current

/-- After every call that destroyed an unrecorded thing the pass gets a status patch
through. -/
def Durable (a : KnativeAdoption) (log : CallLog) : Prop :=
  ∀ before e after, log = before++e::after → Unrecorded a e → ∃ later ∈ after, StatusPatched later

def isStatusPatch (e : Event Request Response String Cluster) : Bool :=
  match e.fault,e.request with
  | .refused _,_ => false
  | _,.patchStatus _ _ => true
  | _,_ => false

theorem statusPatched_of_isStatusPatch (e : Event Request Response String Cluster) (patch : isStatusPatch e = true) :
    StatusPatched e := by
  obtain ⟨before,fault,request,response⟩ := e
  cases fault with
  | refused error => cases patch
  | none | lost => cases request <;> first | exact ⟨nofun,_,_,rfl⟩ | cases patch

/-- A log that ends with a status patch is durable. -/
theorem durable_last (a : KnativeAdoption) (log : CallLog) (patch : log.getLast?.any isStatusPatch = true) :
    Durable a log := by
  rintro before first after rfl ⟨_,i,hit,_⟩
  obtain ⟨e,last,patch⟩ := (Option.any_eq_true _ _).mp patch
  have patched := statusPatched_of_isStatusPatch e patch
  cases after using List.reverseRecOn with
  | nil =>
    have same : first = e := by simpa using last
    obtain ⟨_,original,current,request⟩ := patched
    rw [same,request] at hit
    cases hit
  | append_singleton init final =>
    rw [← List.cons_append,← List.append_assoc,List.getLast?_concat] at last
    exact ⟨final,by simp,Option.some.inj last ▸ patched⟩

/-- A pass stopped between destroying a thing and storing its entry. -/
def Exposed (a : KnativeAdoption) (log : CallLog) : Prop :=
  ∃ before e after, log = before++e::after ∧ Unrecorded a e ∧ ∀ later ∈ after, ¬ StatusPatched later

theorem Durable.not_exposed (a : KnativeAdoption) (log : CallLog) (durable : Durable a log) : ¬ Exposed a log := by
  rintro ⟨before,e,after,split,unrecorded,unpatched⟩
  obtain ⟨later,member,patched⟩ := durable before e after split unrecorded
  exact unpatched later member patched

theorem Exposed.append (a : KnativeAdoption) (log : CallLog) (e : Event Request Response String Cluster)
    (exposed : Exposed a log) (other : ¬ StatusPatched e) : Exposed a (log++[e]) := by
  obtain ⟨before,first,after,rfl,unrecorded,unpatched⟩ := exposed
  refine ⟨before,first,after++[e],by simp,unrecorded,fun later member => ?_⟩
  rcases List.mem_append.mp member with inside | last
  · exact unpatched later inside
  · rw [List.mem_singleton.mp last]
    exact other

theorem hits_part (a : KnativeAdoption) (r : Request) (i : Item) (hit : hits a r = some i) :
    r.part = some .services ∨ r.part = some .deployments ∨ r.part = some .traffic := by
  cases r <;> simp_all [hits,Request.part]

section Passes
variable (c0 : Cluster) (a0 : KnativeAdoption)

/-- The ledger has an entry for what a call destroyed. -/
def Logged (ledger : Item → Option Image) (e : Event Request Response String Cluster) : Prop :=
  e.Took → ∀ i, hits a0 e.request = some i → image a0 e.before i ≠ none →
    ∃ v, ledger i = some v ∧ image a0 c0 i = some v

def Entered (log : CallLog) (ledger : Item → Option Image) : Prop := ∀ e ∈ log, Logged c0 a0 ledger e

/-- The Deployment is as it was, or with other replicas. -/
def Scaled (before after : Option Deployment) : Prop :=
  after = before ∨ ∃ dep n, before = some dep ∧ after = some { dep with spec := { dep.spec with replicas := some n } }

/-- The Service and the replicas of the source are what they were, or gone. -/
structure Fading (c : Cluster) : Prop where
  images : ∀ i v, (i = .service ∨ i = .replicas) → image a0 c i = some v → image a0 c0 i = some v
  source : Scaled (c0.deployments.get (sourceKey a0)) (c.deployments.get (sourceKey a0))

/-- The traffic objects an adoption may touch are those it declares. -/
def Declared : Item → Prop
  | .traffic ⟨.virtualService,key⟩ => key.name ∈ virtualServiceRefs a0 ∧ key.name ≠ ""
  | .traffic ⟨.destinationRule,key⟩ => key.name ∈ destinationRuleRefs a0 ∧ key.name ≠ ""
  | _ => True

structure Scope (snapshot : Option SourceSnapshot) : Prop where
  declared : ∀ i, entry a0.ns snapshot i ≠ none → Declared a0 i
  unique : Unique snapshot

/-- The state inside a pass that read `original` and now holds `a` in memory. -/
structure Mid (original a : KnativeAdoption) (c : Cluster) (log : CallLog) : Prop where
  key : a.key = a0.key
  spec : a.spec = a0.spec
  stored : ∃ st, c.adoptions.get a0.key = some st ∧ st.spec = a0.spec ∧ st.deleting = false ∧
    st.status.sourceSnapshot = original.status.sourceSnapshot
  covers : Covers (image a0 c0) (image a0 c) (entry a0.ns a.status.sourceSnapshot)
  grows : ∀ i v, entry a0.ns original.status.sourceSnapshot i = some v →
    entry a0.ns a.status.sourceSnapshot i = some v
  entered : Entered c0 a0 log (entry a0.ns a.status.sourceSnapshot)
  fading : Fading c0 a0 c
  scope : Scope a0 a.status.sourceSnapshot
  former : Scope a0 original.status.sourceSnapshot
  behind : (Covers (image a0 c0) (image a0 c) (entry a0.ns original.status.sourceSnapshot) ∧
    Entered c0 a0 log (entry a0.ns original.status.sourceSnapshot)) ∨ Exposed a0 log

/-- The state between passes: the stored snapshot covers. -/
structure Kept (c : Cluster) : Prop where
  stored : ∃ st, c.adoptions.get a0.key = some st ∧ st.spec = a0.spec ∧ st.deleting = false ∧
    Scope a0 st.status.sourceSnapshot ∧ Covers (image a0 c0) (image a0 c) (entry a0.ns st.status.sourceSnapshot)
  fading : Fading c0 a0 c

/-- What holds wherever a pass that began with the stored snapshot `first` stops. -/
def Safe (first : Option SourceSnapshot) (c : Cluster) (log : CallLog) : Prop :=
  ∃ st, c.adoptions.get a0.key = some st ∧ st.spec = a0.spec ∧ st.deleting = false ∧
    Scope a0 st.status.sourceSnapshot ∧ Fading c0 a0 c ∧
    (∀ i v, entry a0.ns first i = some v → entry a0.ns st.status.sourceSnapshot i = some v) ∧
    ((Covers (image a0 c0) (image a0 c) (entry a0.ns st.status.sourceSnapshot) ∧
      Entered c0 a0 log (entry a0.ns st.status.sourceSnapshot)) ∨ Exposed a0 log)

variable {c0 a0} {original a : KnativeAdoption} {c d : Cluster} {log : CallLog}

theorem Scaled.trans (x y z : Option Deployment) (first : Scaled x y) (second : Scaled y z) : Scaled x z := by
  rcases first with rfl | ⟨dep,n,rfl,rfl⟩
  · exact second
  · rcases second with rfl | ⟨dep',m,same,rfl⟩
    · exact Or.inr ⟨dep,n,rfl,rfl⟩
    · cases same
      exact Or.inr ⟨dep,m,rfl,rfl⟩

theorem scaled_other (c : Cluster) (r : Request) (key : NamespacedName) (other : r.part ≠ some .deployments) :
    Scaled (c.deployments.get key) ((c.effect r).1.deployments.get key) := by
  have same : (c.effect r).1.deployments = c.deployments := effect_same .deployments c r other
  exact Or.inl (by rw [same])

theorem Mid.safe (mid : Mid c0 a0 original a c log) : Safe c0 a0 original.status.sourceSnapshot c log := by
  obtain ⟨st,held,spec,live,same⟩ := mid.stored
  refine ⟨st,held,spec,live,by rw [same]; exact mid.former,mid.fading,fun i v entered => by rwa [same],?_⟩
  rw [same]
  exact mid.behind

/-- Nothing of the user's is touched. -/
theorem Fading.same (fading : Fading c0 a0 c) (images : image a0 d = image a0 c)
    (deployments : d.deployments = c.deployments) : Fading c0 a0 d := by
  refine ⟨fun i v kind held => ?_,by rw [deployments]; exact fading.source⟩
  rw [images] at held
  exact fading.images i v kind held

theorem Fading.drift (fading : Fading c0 a0 c) (moved : Drift c d) : Fading c0 a0 d :=
  fading.same (image_drift a0 c d moved) moved.deployments

theorem stored_drift (st : KnativeAdoption) (held : c.adoptions.get a0.key = some st) (moved : Drift c d) :
    ∃ conditions, d.adoptions.get a0.key = some (st.withConditions conditions) := by
  obtain ⟨conditions,after⟩ := moved.adoptions a0.key
  exact ⟨conditions,by rw [after,held]; rfl⟩

theorem Mid.drift (mid : Mid c0 a0 original a c log) (moved : Drift c d) : Mid c0 a0 original a d log where
  key := mid.key
  spec := mid.spec
  stored := by
    obtain ⟨st,held,spec,live,same⟩ := mid.stored
    obtain ⟨conditions,after⟩ := stored_drift st held moved
    exact ⟨_,after,spec,live,same⟩
  covers := by
    rw [image_drift a0 c d moved]
    exact mid.covers
  grows := mid.grows
  entered := mid.entered
  fading := mid.fading.drift moved
  scope := mid.scope
  former := mid.former
  behind := by
    rw [image_drift a0 c d moved]
    exact mid.behind

theorem Kept.drift (kept : Kept c0 a0 c) (moved : Drift c d) : Kept c0 a0 d where
  stored := by
    obtain ⟨st,held,spec,live,scope,covers⟩ := kept.stored
    obtain ⟨conditions,after⟩ := stored_drift st held moved
    refine ⟨_,after,spec,live,scope,?_⟩
    rw [image_drift a0 c d moved]
    exact covers
  fading := kept.fading.drift moved

theorem Entered.append (ledger : Item → Option Image) (e : Event Request Response String Cluster)
    (entered : Entered c0 a0 log ledger) (last : Logged c0 a0 ledger e) :
    Entered c0 a0 (log++[e]) ledger := by
  intro event member
  rcases List.mem_append.mp member with inside | same
  · exact entered event inside
  · rw [List.mem_singleton.mp same]
    exact last

/-- A call that destroys nothing of the user's and is not on adoptions. -/
def Harmless (r : Request) : Prop := r.part = none ∨ r.part = some .ksvcs

theorem Mid.harmless (mid : Mid c0 a0 original a c log) (fault : Fault String) (r : Request) (quiet : Harmless r) :
    Mid c0 a0 original a (apiserver.serve fault c r).1 (log++[apiserver.event fault c r]) := by
  have images : image a0 (apiserver.serve fault c r).1 = image a0 c := by
    apply image_serve
    rcases quiet with part | part <;> simp [part]
  have misses (i : Item) : hits a0 r ≠ some i := by
    intro hit
    rcases quiet with part | part <;> simpa [part] using hits_part a0 r i hit
  have unpatched : ¬ StatusPatched (apiserver.event fault c r) := by
    rintro ⟨_,o,current,same⟩
    have patch : r = .patchStatus o current := same
    subst patch
    rcases quiet with part | part <;> cases part
  have adoptions : (apiserver.serve fault c r).1.adoptions = c.adoptions := by
    apply serve_adoptions
    rcases quiet with part | part <;> simp [part]
  have deployments : (apiserver.serve fault c r).1.deployments = c.deployments := by
    apply serve_deployments
    rcases quiet with part | part <;> simp [part]
  refine ⟨mid.key,mid.spec,by rw [adoptions]; exact mid.stored,by rw [images]; exact mid.covers,mid.grows,
    mid.entered.append _ _ (fun _ i hit => absurd hit (misses i)),mid.fading.same images deployments,mid.scope,
    mid.former,?_⟩
  · rw [images]
    rcases mid.behind with ⟨covers,entered⟩ | exposed
    · exact Or.inl ⟨covers,entered.append _ _ (fun _ i hit => absurd hit (misses i))⟩
    · exact Or.inr (exposed.append _ _ _ unpatched)

/-- A call that destroys a thing with an entry in memory. -/
theorem Mid.destroy (mid : Mid c0 a0 original a c log) (fault : Fault String) (r : Request) (i : Item)
    (hit : hits a0 r = some i) (recorded : image a0 c i ≠ none → entry a0.ns a.status.sourceSnapshot i ≠ none)
    (others : ∀ j, j ≠ i → image a0 (c.effect r).1 j = image a0 c j)
    (gone : image a0 c i = none → image a0 (c.effect r).1 i = none)
    (fades : (i = .service ∨ i = .replicas) → ∀ v, image a0 (c.effect r).1 i = some v → image a0 c i = some v)
    (scaled : Scaled (c.deployments.get (sourceKey a0)) ((c.effect r).1.deployments.get (sourceKey a0))) :
    Mid c0 a0 original a (apiserver.serve fault c r).1 (log++[apiserver.event fault c r]) := by
  have adoptions : (apiserver.serve fault c r).1.adoptions = c.adoptions := by
    apply serve_adoptions
    rcases hits_part a0 r i hit with part | part | part <;> simp [part]
  have unpatched : ¬ StatusPatched (apiserver.event fault c r) := by
    rintro ⟨_,o,current,same⟩
    have patch : r = .patchStatus o current := same
    subst patch
    cases hit
  have overwritten (ledger : Item → Option Image) (covers : Covers (image a0 c0) (image a0 c) ledger)
      (entered : image a0 c i ≠ none → ledger i ≠ none) :
      Covers (image a0 c0) (image a0 (apiserver.serve fault c r).1) ledger := by
    rcases apiserver.serve_state fault c r with same | ⟨same,_⟩
    · rw [same]
      exact covers
    · rw [same]
      refine covers.overwrite _ (fun j => ?_)
      by_cases here : j = i
      · subst here
        by_cases absent : image a0 c j = none
        · exact Or.inl ((gone absent).trans absent.symm)
        · exact Or.inr (entered absent)
      · exact Or.inl (others j here)
  have last (ledger : Item → Option Image) (covers : Covers (image a0 c0) (image a0 c) ledger)
      (entered : image a0 c i ≠ none → ledger i ≠ none) :
      Logged c0 a0 ledger (apiserver.event fault c r) := by
    intro _ j same present
    have equal : i = j := Option.some.inj (hit.symm.trans same)
    subst equal
    obtain ⟨v,held⟩ := Option.ne_none_iff_exists'.mp (entered present)
    exact ⟨v,held,covers.faithful i v held⟩
  refine ⟨mid.key,mid.spec,by rw [adoptions]; exact mid.stored,overwritten _ mid.covers recorded,mid.grows,
    mid.entered.append _ _ (last _ mid.covers recorded),?_,mid.scope,mid.former,?_⟩
  · rcases apiserver.serve_state fault c r with same | ⟨same,_⟩
    · rw [same]
      exact mid.fading
    · rw [same]
      refine ⟨fun j v kind held => ?_,mid.fading.source.trans _ _ _ scaled⟩
      by_cases here : j = i
      · subst here
        exact mid.fading.images j v kind (fades kind v held)
      · rw [show image a0 (apiserver.effect c r).1 j = image a0 c j from others j here] at held
        exact mid.fading.images j v kind held
  · rcases mid.behind with ⟨covers,entered⟩ | exposed
    · by_cases known : image a0 c i ≠ none → entry a0.ns original.status.sourceSnapshot i ≠ none
      · exact Or.inl ⟨overwritten _ covers known,entered.append _ _ (last _ covers known)⟩
      · rw [Classical.not_imp,not_not] at known
        by_cases took : (apiserver.event fault c r).Took
        · right
          obtain ⟨st,held,_,_,snapshot⟩ := mid.stored
          refine ⟨log,_,[],rfl,⟨took,i,hit,known.1,?_⟩,by simp⟩
          change entry a0.ns (persisted a0 c) i = none
          simp only [persisted,held,Option.bind_some,snapshot]
          exact known.2
        · have same : (apiserver.serve fault c r).1 = c :=
            (apiserver.serve_state fault c r).resolve_right (fun effective => took effective.2)
          rw [same]
          exact Or.inl ⟨covers,entered.append _ _ (fun effective => absurd effective took)⟩
    · exact Or.inr (exposed.append _ _ _ unpatched)

/-- Memory changes that leave the entries alone. -/
theorem Mid.entries (mid : Mid c0 a0 original a c log) (b : KnativeAdoption)
    (metadata : b.toObjectMeta = a.toObjectMeta) (spec : b.spec = a.spec)
    (same : entry a0.ns b.status.sourceSnapshot = entry a0.ns a.status.sourceSnapshot)
    (unique : Unique b.status.sourceSnapshot) : Mid c0 a0 original b c log where
  key := (congrArg ObjectMeta.key metadata).trans mid.key
  spec := spec.trans mid.spec
  stored := mid.stored
  covers := by
    rw [same]
    exact mid.covers
  grows := by
    rw [same]
    exact mid.grows
  entered := by
    rw [same]
    exact mid.entered
  fading := mid.fading
  scope := ⟨by rw [same]; exact mid.scope.declared,unique⟩
  former := mid.former
  behind := mid.behind

theorem Mid.same (mid : Mid c0 a0 original a c log) (b : KnativeAdoption) (same : SameLedger a b) :
    Mid c0 a0 original b c log :=
  mid.entries b same.metadata same.spec (by rw [same.snapshot]) (by rw [same.snapshot]; exact mid.scope.unique)

theorem Entered.grow (ledger after : Item → Option Image) (entered : Entered c0 a0 log ledger)
    (grows : ∀ i v, ledger i = some v → after i = some v) : Entered c0 a0 log after := by
  intro e member took i hit present
  obtain ⟨v,held,origin⟩ := entered e member took i hit present
  exact ⟨v,grows i v held,origin⟩

/-- An entry is made in memory. -/
theorem Mid.record (mid : Mid c0 a0 original a c log) (b : KnativeAdoption) (i : Item) (v : Image)
    (metadata : b.toObjectMeta = a.toObjectMeta) (spec : b.spec = a.spec)
    (recorded : Recorded a0.ns a.status.sourceSnapshot b.status.sourceSnapshot i v) (present : image a0 c i = some v)
    (declared : Declared a0 i) (unique : Unique b.status.sourceSnapshot) : Mid c0 a0 original b c log := by
  have covers : Covers (image a0 c0) (image a0 c) (entry a0.ns b.status.sourceSnapshot) := by
    refine mid.covers.record _ (fun j => ?_)
    rcases recorded.1 j with same | ⟨rfl,missing,made⟩
    · exact Or.inl same
    · exact Or.inr ⟨missing,made.trans present.symm⟩
  have grows (j : Item) (w : Image) (held : entry a0.ns a.status.sourceSnapshot j = some w) :
      entry a0.ns b.status.sourceSnapshot j = some w := by
    rcases recorded.1 j with same | ⟨rfl,missing,_⟩
    · rw [same,held]
    · rw [missing] at held
      cases held
  have key : b.key = a0.key := (congrArg ObjectMeta.key metadata).trans mid.key
  have scope : Scope a0 b.status.sourceSnapshot := by
    refine ⟨fun j entered => ?_,unique⟩
    rcases recorded.1 j with same | ⟨rfl,_,_⟩
    · exact mid.scope.declared j (same ▸ entered)
    · exact declared
  exact ⟨key,spec.trans mid.spec,mid.stored,covers,fun j w held => grows j w (mid.grows j w held),
    mid.entered.grow _ _ grows,mid.fading,scope,mid.former,mid.behind⟩

/-- Nothing was destroyed yet: memory is what is stored. -/
theorem Kept.mid (kept : Kept c0 a0 c) (st : KnativeAdoption) (held : c.adoptions.get a0.key = some st)
    (misses : ∀ e ∈ log, ∀ i, hits a0 e.request ≠ some i) : Mid c0 a0 st st c log := by
  obtain ⟨other,found,spec,live,scope,covers⟩ := kept.stored
  have same : other = st := Option.some.inj (found.symm.trans held)
  subst same
  have entered : Entered c0 a0 log (entry a0.ns other.status.sourceSnapshot) :=
    fun e member _ i hit => absurd hit (misses e member i)
  exact ⟨c.adoptions.keyed _ _ held,spec,⟨other,held,spec,live,rfl⟩,covers,fun _ _ held => held,entered,
    kept.fading,scope,scope,Or.inl ⟨covers,entered⟩⟩

/-! The stages of an adoption pass. -/

theorem ensures_quiet {α : Type} (p : Op α) (within : Within [.ksvcs] p) (mid : Mid c0 a0 original a c log) :
    Ensures apiserver Drift (Safe c0 a0 original.status.sourceSnapshot) p
      (fun _ => Mid c0 a0 original a) c log := by
  refine ensures_inv _ _ _ _ _ (fun _ _ held => held.safe)
    (ensures_uses Harmless (fun _ _ _ moved held => held.drift moved)
      (fun _ _ fault r quiet held => held.harmless fault r quiet) p ?_ c log mid)
  refine Program.uses_mono _ _ p (fun r inside => ?_) within
  cases part : r.part with
  | none => exact Or.inl part
  | some found =>
    have same : found = .ksvcs := by simpa using inside found part
    exact Or.inr (same ▸ part)

theorem image_deleteService (a : KnativeAdoption) (c : Cluster) :
    image a (c.effect (.deleteService a.key)).1 .service = none := by
  simp only [Cluster.effect,Cluster.deleteService,image]
  cases held : c.services.get a.key with
  | none => simp [held]
  | some svc => simp

theorem Mid.deleteService (mid : Mid c0 a0 original a c log) (fault : Fault String)
    (recorded : entry a0.ns a.status.sourceSnapshot .service ≠ none) :
    Mid c0 a0 original a (apiserver.serve fault c (.deleteService a0.key)).1
      (log++[apiserver.event fault c (.deleteService a0.key)]) := by
  have gone := image_deleteService a0 c
  refine mid.destroy fault _ .service (by simp [hits]) (fun _ => recorded) ?_ (fun _ => gone) ?_
    (scaled_other _ _ _ (by simp [Request.part]))
  · intro j other
    cases j with
    | service => exact absurd rfl other
    | replicas => exact image_replicas_effect a0 c _ (by simp [Request.part])
    | traffic key => exact image_traffic_effect a0 c _ key (by simp [Request.part])
  · intro _ v held
    rw [gone] at held
    cases held

theorem Mid.applyReplicas (mid : Mid c0 a0 original a c log) (fault : Fault String)
    (recorded : entry a0.ns a.status.sourceSnapshot .replicas ≠ none) :
    Mid c0 a0 original a (apiserver.serve fault c (.applyReplicas (sourceKey a0) 0)).1
      (log++[apiserver.event fault c (.applyReplicas (sourceKey a0) 0)]) := by
  have gone : image a0 (c.effect (.applyReplicas (sourceKey a0) 0)).1 .replicas = none := by
    simp only [Cluster.effect,Cluster.applyReplicas,image]
    cases held : c.deployments.get (sourceKey a0) with
    | none => simp [held]
    | some dep =>
      have key : dep.key = sourceKey a0 := c.deployments.keyed _ _ held
      have same : ({ dep with spec := { dep.spec with replicas := some 0 } } : Deployment).key = sourceKey a0 := key
      simp [same,replicasImage,DeploymentSpec.effectiveReplicas]
  have scaled : Scaled (c.deployments.get (sourceKey a0))
      ((c.effect (.applyReplicas (sourceKey a0) 0)).1.deployments.get (sourceKey a0)) := by
    simp only [Cluster.effect,Cluster.applyReplicas]
    cases held : c.deployments.get (sourceKey a0) with
    | none => exact Or.inl held
    | some dep => exact Or.inr ⟨dep,0,rfl,if_pos (c.deployments.keyed _ _ held).symm⟩
  refine mid.destroy fault _ .replicas (by simp [hits]) (fun _ => recorded) ?_ (fun _ => gone) ?_ scaled
  · intro j other
    cases j with
    | service => exact image_service_effect a0 c _ (by simp [Request.part])
    | replicas => exact absurd rfl other
    | traffic key => exact image_traffic_effect a0 c _ key (by simp [Request.part])
  · intro _ v held
    rw [gone] at held
    cases held

theorem Mid.patchTraffic (mid : Mid c0 a0 original a c log) (fault : Fault String) (key : TrafficKey)
    (patch : Obj Literal) (recorded : entry a0.ns a.status.sourceSnapshot (.traffic key) ≠ none) :
    Mid c0 a0 original a (apiserver.serve fault c (.patchTraffic key patch)).1
      (log++[apiserver.event fault c (.patchTraffic key patch)]) := by
  refine mid.destroy fault _ (.traffic key) rfl (fun _ => recorded) ?_ ?_ (by rintro (same | same) <;> cases same)
    (scaled_other _ _ _ (by simp [Request.part]))
  · intro j other
    cases j with
    | service => exact image_service_effect a0 c _ (by simp [Request.part])
    | replicas => exact image_replicas_effect a0 c _ (by simp [Request.part])
    | traffic k =>
      have different : k ≠ key := fun same => other (congrArg Item.traffic same)
      simp only [image,Cluster.effect,Cluster.patchTraffic]
      cases held : c.traffic.get key with
      | none => rfl
      | some o =>
        dsimp only
        split
        · simp [different]
        · rfl
  · intro absent
    have missing : c.traffic.get key = none := by simpa [image] using absent
    simp [image,Cluster.effect,Cluster.patchTraffic,missing]

/-- The swap destroys the Service it has just recorded. -/
theorem ensures_takeOver (svc : Service) (mid : Mid c0 a0 original a c log) (key : svc.key = a0.key)
    (held : c.services.get a0.key = some svc) (unowned : knativeOwned svc = false) :
    Ensures apiserver Drift (Safe c0 a0 original.status.sourceSnapshot) (takeOver a svc)
      (fun result => Mid c0 a0 original result.1) c log := by
  refine ensures_bind (ensures_ask mid.safe (fun d fault moved => ?_))
  have present : image a0 d .service = some (.service svc.spec.stripAddresses) := by
    rw [image_drift a0 c d moved]
    simp [image,held,serviceImage,unowned]
  have memory := ((mid.drift moved).same _ (sameLedger_serviceSwapping a)).record
    (snapshotService (serviceSwapping a) svc) .service _ rfl rfl (recorded_snapshotService _ _ _) present trivial
    (unique_snapshotService _ _ mid.scope.unique)
  have deleted := memory.deleteService fault (recorded_snapshotService _ _ _).2
  rw [← key] at deleted
  have ended (err : ApiError) := deleted.same _ (sameLedger_setCondition _ .degraded .true .serviceSwapDeleteFail err.message)
  cases reply : (apiserver.serve fault d (.deleteService svc.key)).2 with
  | error err =>
    dsimp only
    split
    · exact ensures_pure deleted.safe (ensures_pure deleted.safe deleted)
    · exact ensures_pure deleted.safe (ensures_pure deleted.safe (ended _))
  | ok done => exact ensures_pure deleted.safe (ensures_pure deleted.safe deleted)

theorem ensures_swapService (mid : Mid c0 a0 original a c log) :
    Ensures apiserver Drift (Safe c0 a0 original.status.sourceSnapshot) (swapService a)
      (fun result => Mid c0 a0 original result.1) c log := by
  refine ensures_ask mid.safe (fun d fault moved => ?_)
  have read := (mid.drift moved).harmless fault (.getService a.key) (Or.inl rfl)
  have pass (b : KnativeAdoption) (same : SameLedger a b) (decision : Except ApiError SwapDecision) :
      Ensures apiserver Drift (Safe c0 a0 original.status.sourceSnapshot) (pure (b,decision))
        (fun result => Mid c0 a0 original result.1) (apiserver.serve fault d (.getService a.key)).1
        (log++[apiserver.event fault d (.getService a.key)]) :=
    ensures_pure read.safe (read.same b same)
  cases answer : (apiserver.serve fault d (.getService a.key)).2 with
  | error err =>
    dsimp only
    split
    · exact pass _ (sameLedger_removeCondition _ _) _
    · exact pass a (.refl a) _
  | ok svc =>
    have held : d.services.get a0.key = some svc := by
      rw [← mid.key]
      exact getService_ok answer
    simp only [swapFound]
    split
    · exact pass _ (sameLedger_removeCondition _ _) _
    · exact pass _ (.trans _ _ _ (sameLedger_setCondition _ _ _ _ _) (sameLedger_setCondition _ _ _ _ _)) _
    next taken =>
      refine ensures_takeOver svc read (d.services.keyed _ _ held) ?_
        (classify_takenOver_unowned svc (by rw [taken]; rfl))
      rw [serve_read _ rfl]
      exact held

theorem ensures_reconcileTrafficObject (kind : TrafficKind)
    (rewrite : Obj GoNumber → Except ApiError (Obj GoNumber × Bool)) (name : String) (named : name ≠ "")
    (declared : Declared a0 (.traffic ⟨kind,⟨a0.ns,name⟩⟩)) (mid : Mid c0 a0 original a c log) :
    Ensures apiserver Drift (Safe c0 a0 original.status.sourceSnapshot)
      (reconcileTrafficObject kind (snapshotTrafficOnce kind) rewrite a name)
      (fun result => Mid c0 a0 original result.1) c log := by
  have here : a.ns = a0.ns := congrArg NamespacedName.ns mid.key
  refine ensures_ask mid.safe (fun d fault moved => ?_)
  have read := (mid.drift moved).harmless fault (.getTraffic ⟨kind,⟨a.ns,name⟩⟩) (Or.inl rfl)
  cases answer : (apiserver.serve fault d (.getTraffic ⟨kind,⟨a.ns,name⟩⟩)).2 with
  | error err => exact ensures_pure read.safe read
  | ok obj =>
    have present : image a0 (apiserver.serve fault d (.getTraffic ⟨kind,⟨a.ns,name⟩⟩)).1
        (.traffic ⟨kind,⟨a0.ns,name⟩⟩) = some (.traffic obj.spec) := by
      rw [serve_read _ rfl,← here]
      simp [image,getTraffic_ok answer]
    have unmoved := sameLedger_snapshotTrafficOnce kind a name (obj.body.map Literal.read)
    have looked := recorded_snapshotTrafficOnce a0.ns kind a name obj named
    have unique := unique_snapshotTrafficOnce kind a name (obj.body.map Literal.read) mid.scope.unique
    dsimp only
    cases pair : snapshotTrafficOnce kind a name (obj.body.map Literal.read) with | mk b outcome =>
    rw [pair] at unmoved looked unique
    rcases looked with ⟨err,failed,same⟩ | ⟨fine,recorded⟩
    · have memory := read.entries b unmoved.1 unmoved.2 same unique
      subst failed
      exact ensures_pure memory.safe memory
    · have memory := read.record b _ _ unmoved.1 unmoved.2 recorded present declared unique
      subst fine
      dsimp only
      split
      · exact ensures_pure memory.safe memory
      · exact ensures_pure memory.safe memory
      next rewritten _ =>
        refine ensures_ask memory.safe (fun e fault' moved' => ?_)
        have patched := (memory.drift moved').patchTraffic fault' ⟨kind,⟨a0.ns,name⟩⟩
          (mergePatchFrom (obj.body.map Literal.read) rewritten) recorded.2
        rw [← here] at patched
        cases reply : (apiserver.serve fault' e (.patchTraffic ⟨kind,⟨a.ns,name⟩⟩
          (mergePatchFrom (obj.body.map Literal.read) rewritten))).2 with
        | error err => exact ensures_pure patched.safe patched
        | ok done => exact ensures_pure patched.safe patched

theorem ensures_reconcileRefs (kind : TrafficKind)
    (step : KnativeAdoption → String → Op (KnativeAdoption × Except ApiError Bool))
    (names : List String)
    (each : ∀ {a c log} name, name ∈ names → name ≠ "" → Mid c0 a0 original a c log →
      Ensures apiserver Drift (Safe c0 a0 original.status.sourceSnapshot) (step a name)
        (fun result => Mid c0 a0 original result.1) c log)
    (observed : List ObservedRoute) (firstErr : Option ApiError)
    (mid : Mid c0 a0 original a c log) :
    Ensures apiserver Drift (Safe c0 a0 original.status.sourceSnapshot)
      (reconcileRefs kind step names a observed firstErr) (fun result => Mid c0 a0 original result.1) c log := by
  induction names generalizing a c log observed firstErr with
  | nil => exact ensures_pure mid.safe mid
  | cons name rest ih =>
    have later {a c log} (name : String) (member : name ∈ rest) (named : name ≠ "")
        (mid : Mid c0 a0 original a c log) := each name (List.mem_cons_of_mem _ member) named mid
    refine ensures_bind ?_
    unfold reconcileRef
    split
    · exact ensures_pure mid.safe (ih later _ _ mid)
    next named =>
      refine ensures_bind (ensures_mono (each name (by simp) named mid) ?_)
      rintro ⟨b,outcome⟩ d calls _ after
      cases outcome with
      | error err => exact ensures_pure after.safe (ih later _ _ after)
      | ok changed => exact ensures_pure after.safe (ih later _ _ after)

theorem ensures_reconcileTraffic (mid : Mid c0 a0 original a c log) :
    Ensures apiserver Drift (Safe c0 a0 original.status.sourceSnapshot) (reconcileTraffic a)
      (fun result => Mid c0 a0 original result.1) c log := by
  have virtual : virtualServiceRefs a = virtualServiceRefs a0 := by
    simp only [virtualServiceRefs,istioTraffic,mid.spec]
  unfold reconcileTraffic
  split
  · exact ensures_pure mid.safe mid
  · split
    · exact ensures_pure mid.safe (mid.same _ (sameLedger_setObservedRoutes _ _))
    · refine ensures_bind (ensures_mono (ensures_quiet _
        (within_mono _ (within_resolveTrafficTargetServicePort a) (by simp)) mid) ?_)
      rintro (err | port) d calls _ after
      · exact ensures_pure after.safe (after.same _ (sameLedger_setObservedRoutes _ _))
      · refine ensures_bind (ensures_mono
          (ensures_reconcileRefs .virtualService _ _ (fun name member named held =>
            ensures_reconcileTrafficObject .virtualService _ name named (by rw [virtual] at member; exact ⟨member,named⟩) held) _ _ after) ?_)
        rintro ⟨b,observed,firstErr⟩ e more _ first
        have rules : destinationRuleRefs b = destinationRuleRefs a0 := by
          have spec : b.spec = a0.spec := first.spec
          simp only [destinationRuleRefs,istioTraffic,spec]
        refine ensures_bind (ensures_mono
          (ensures_reconcileRefs .destinationRule _ _ (fun name member named held =>
            ensures_reconcileTrafficObject .destinationRule _ name named (by rw [rules] at member; exact ⟨member,named⟩) held) _ _ first) ?_)
        rintro ⟨b',observed',firstErr'⟩ f last _ second
        exact ensures_pure second.safe (second.same _ (sameLedger_setObservedRoutes _ _))

theorem ensures_adaptTraffic (mid : Mid c0 a0 original a c log) :
    Ensures apiserver Drift (Safe c0 a0 original.status.sourceSnapshot) (adaptTraffic a)
      (fun result => Mid c0 a0 original (afterStage result)) c log := by
  unfold adaptTraffic
  split
  · refine ensures_bind (ensures_mono (ensures_reconcileTraffic mid) ?_)
    rintro ⟨b,_ | err⟩ d calls _ after
    · exact ensures_pure after.safe (after.same _ (.trans _ _ _ (sameLedger_setCondition _ _ _ _ _)
        (sameLedger_clearConditionIfReason _ _ _)))
    · exact ensures_pure after.safe (after.same _ ⟨rfl,rfl,rfl⟩)
  · exact ensures_pure mid.safe (mid.same _ ⟨rfl,rfl,rfl⟩)

theorem ensures_quiesceSource (dep : Deployment) (mid : Mid c0 a0 original a c log)
    (held : c.deployments.get (sourceKey a0) = some dep) :
    Ensures apiserver Drift (Safe c0 a0 original.status.sourceSnapshot) (quiesceSource a dep)
      (fun result => Mid c0 a0 original result.1) c log := by
  unfold quiesceSource
  split
  · exact ensures_pure mid.safe mid
  next running =>
    refine ensures_ask mid.safe (fun d fault moved => ?_)
    have key : dep.key = sourceKey a0 := c.deployments.keyed _ _ held
    have present : image a0 d .replicas = some (.replicas dep.spec.effectiveReplicas) := by
      rw [image_drift a0 c d moved]
      simp [image,held,replicasImage,running]
    have unmoved : (snapshotReplicas a dep.spec.effectiveReplicas).toObjectMeta = a.toObjectMeta ∧
        (snapshotReplicas a dep.spec.effectiveReplicas).spec = a.spec := by
      unfold snapshotReplicas
      split <;> exact ⟨rfl,rfl⟩
    have memory := (mid.drift moved).record (snapshotReplicas a dep.spec.effectiveReplicas) .replicas _
      unmoved.1 unmoved.2 (recorded_snapshotReplicas _ _ _) present trivial
      (unique_snapshotReplicas _ _ mid.scope.unique)
    have scaled := memory.applyReplicas fault (recorded_snapshotReplicas _ _ _).2
    rw [← key] at scaled
    cases reply : (apiserver.serve fault d (.applyReplicas dep.key 0)).2 with
    | error err => exact ensures_pure scaled.safe scaled
    | ok done => exact ensures_pure scaled.safe scaled

theorem ensures_finishAdoption (dep : Deployment) (mid : Mid c0 a0 original a c log)
    (held : c.deployments.get (sourceKey a0) = some dep) :
    Ensures apiserver Drift (Safe c0 a0 original.status.sourceSnapshot) (finishAdoption a dep)
      (fun done => Mid c0 a0 original done.adoption) c log := by
  refine ensures_bind (ensures_mono (ensures_quiesceSource dep mid held) ?_)
  rintro ⟨b,_ | err⟩ d calls _ after
  · dsimp only
    split <;> exact ensures_pure after.safe (after.same _ ⟨rfl,rfl,rfl⟩)
  · exact ensures_pure after.safe (after.same _ ⟨rfl,rfl,rfl⟩)

theorem ensures_awaitKService (r : KnativeAdoptionReconciler) (dep : Deployment) (ksvc : KService)
    (mid : Mid c0 a0 original a c log) (held : c.deployments.get (sourceKey a0) = some dep) :
    Ensures apiserver Drift (Safe c0 a0 original.status.sourceSnapshot) (awaitKService r a dep ksvc)
      (fun done => Mid c0 a0 original done.adoption) c log := by
  refine ensures_ask mid.safe (fun d fault moved => ?_)
  have read := (mid.drift moved).harmless fault (.getKService ksvc.key) (Or.inl rfl)
  cases answer : (apiserver.serve fault d (.getKService ksvc.key)).2 with
  | error err => exact ensures_pure read.safe read
  | ok live =>
    dsimp only
    split
    · refine ensures_finishAdoption dep (read.same _ ⟨rfl,rfl,rfl⟩) ?_
      rw [serve_read _ rfl,moved.deployments]
      exact held
    · exact ensures_pure read.safe (read.same _ ⟨rfl,rfl,rfl⟩)

theorem ensures_applyAdopted (r : KnativeAdoptionReconciler) (dep : Deployment) (ksvc : KService)
    (mid : Mid c0 a0 original a c log) (held : c.deployments.get (sourceKey a0) = some dep) :
    Ensures apiserver Drift (Safe c0 a0 original.status.sourceSnapshot) (applyAdopted r a dep ksvc)
      (fun done => Mid c0 a0 original done.adoption) c log := by
  unfold applyAdopted
  split
  · exact ensures_pure mid.safe mid
  next owned _ =>
    refine ensures_bind (ensures_mono (ensures_deployments _ (within_applyKnativeService owned)
      (by simp) _ _ (ensures_quiet _ (within_applyKnativeService owned) mid)) ?_)
    rintro (err | applied) d calls _ ⟨steady,after⟩
    · exact ensures_pure after.safe (after.same _ ⟨rfl,rfl,rfl⟩)
    · refine ensures_awaitKService r dep owned (after.same _ (.trans _ _ _ (sameLedger_clearConditionIfReason _ _ _)
        (sameLedger_setCondition _ _ _ _ _))) ?_
      rw [steady]
      exact held

theorem ensures_adoptTranslated (r : KnativeAdoptionReconciler) (dep : Deployment) (ksvc : KService)
    (mid : Mid c0 a0 original a c log) (held : c.deployments.get (sourceKey a0) = some dep) :
    Ensures apiserver Drift (Safe c0 a0 original.status.sourceSnapshot) (adoptTranslated r a dep ksvc)
      (fun done => Mid c0 a0 original done.adoption) c log := by
  refine ensures_bind (ensures_mono (ensures_deployments _ (within_swapService a)
    (by simp) _ _ (ensures_swapService mid)) ?_)
  rintro ⟨b,err | decision⟩ d calls _ ⟨steady,after⟩
  · exact ensures_pure after.safe (after.same _ ⟨rfl,rfl,rfl⟩)
  · cases decision with
    | refused => exact ensures_pure after.safe (after.same _ ⟨rfl,rfl,rfl⟩)
    | takenOver => exact ensures_pure after.safe after
    | pass =>
      refine ensures_bind (ensures_mono (ensures_deployments _ (within_adaptTraffic b)
        (by simp) _ _ (ensures_adaptTraffic after)) ?_)
      rintro (ended | adapted) e more _ ⟨still,later⟩
      · exact ensures_pure later.safe later
      · refine ensures_applyAdopted r dep ksvc later ?_
        rw [still,steady]
        exact held

theorem ensures_reconcileAdoption (r : KnativeAdoptionReconciler) (mid : Mid c0 a0 original a c log) :
    Ensures apiserver Drift (Safe c0 a0 original.status.sourceSnapshot) (reconcileAdoption r a)
      (fun done => Mid c0 a0 original done.adoption) c log := by
  have source : (⟨a.ns,sourceName a⟩ : NamespacedName) = sourceKey a0 := by
    have name : a.name = a0.name := congrArg NamespacedName.name mid.key
    have ns : a.ns = a0.ns := congrArg NamespacedName.ns mid.key
    simp only [sourceKey,sourceName,mid.spec,name,ns]
  refine ensures_bind (ensures_ask mid.safe (fun d fault moved => ?_))
  have read := (mid.drift moved).harmless fault (.getDeployment ⟨a.ns,sourceName a⟩) (Or.inl rfl)
  cases answer : (apiserver.serve fault d (.getDeployment ⟨a.ns,sourceName a⟩)).2 with
  | error err =>
    dsimp only
    split
    · exact ensures_pure read.safe (ensures_pure read.safe (read.same _ ⟨rfl,rfl,rfl⟩))
    · exact ensures_pure read.safe (ensures_pure read.safe (read.same _ ⟨rfl,rfl,rfl⟩))
  | ok dep =>
    have held := getDeployment_ok answer
    rw [source] at held
    refine ensures_pure read.safe (ensures_bind (ensures_mono
      (ensures_returns _ _ (returns_maybeRunGuard guardAlong_sameLedger r _) _ _ _ (ensures_deployments _ (within_maybeRunGuard r _)
        (by simp) _ _ (ensures_quiet _ (within_mono _ (within_maybeRunGuard r (removeCondition a .sourceMissing))
          (by simp)) read))) ?_))
    rintro b e calls _ ⟨same,steady,after⟩
    have memory := after.same b (.trans _ _ _ (sameLedger_removeCondition _ _) same)
    split
    · exact ensures_pure memory.safe (memory.same _ ⟨rfl,rfl,rfl⟩)
    next ksvc _ =>
      refine ensures_adoptTranslated r dep ksvc (memory.same _ (sameLedger_removeCondition _ _)) ?_
      rw [steady,serve_read _ rfl]
      exact held

end Passes
end Ifaas
