import Ifaas.SteadyPass
import Ifaas.Library.Watching

/-! The watches of the adoption controller: which keys are enqueued when an object changes, and
what a key that is not enqueued can rely on. -/
namespace Ifaas
open Library

/-! The map functions. -/

/-- The requests for a Deployment, from the adoptions listed in its namespace. -/
def mapDeploymentToAdoptions (listed : Except ApiError (List KnativeAdoption)) (dep : Deployment) : List NamespacedName :=
  match listed with
  | .error _ => []
  | .ok items => (items.filter (fun a => sourceName a = dep.name)).map (fun a => ⟨a.ns,a.name⟩)

/-- The requests for a Service, from the adoption of its name. -/
def mapServiceToAdoptions (got : Except ApiError KnativeAdoption) : List NamespacedName :=
  match got with
  | .error _ => []
  | .ok a => [⟨a.ns,a.name⟩]

/-- `schema.ParseGroupVersion`, as far as the group. -/
def apiGroup (apiVersion : String) : Option (List Char) :=
  match apiVersion.toList.splitOn '/' with
  | [_] => some []
  | [group,_] => some group
  | _ => none

/-- The request for an owned object: its controller, where that is a KnativeAdoption. -/
def ownerRequest (ksvc : KService) : Option NamespacedName :=
  match ksvc.controllerOf with
  | none => none
  | some owner =>
    if owner.kind = "KnativeAdoption" ∧ apiGroup owner.apiVersion = some "ifaas.ifbiu.com".toList then some ⟨ksvc.ns,owner.name⟩
    else none

/-- Listing the adoptions of a namespace. -/
def Lists (c : Cluster) (ns : String) (items : List KnativeAdoption) : Prop :=
  ∀ a, a ∈ items ↔ c.adoptions.get a.key = some a ∧ a.ns = ns

/-- Whether a Deployment is mapped to an adoption. -/
def sourcedFrom (c : Cluster) (dep : Deployment) (key : NamespacedName) : Bool :=
  match c.adoptions.get key with
  | none => false
  | some a => a.ns = dep.ns && sourceName a = dep.name

/-- The adoptions that the map function finds in the list. -/
theorem mem_mapDeploymentToAdoptions (c : Cluster) (dep : Deployment) (items : List KnativeAdoption) (lists : Lists c dep.ns items)
    (key : NamespacedName) : key ∈ mapDeploymentToAdoptions (.ok items) dep ↔ sourcedFrom c dep key = true := by
  unfold mapDeploymentToAdoptions sourcedFrom
  constructor
  · intro member
    obtain ⟨a,inside,rfl⟩ := List.mem_map.mp member
    obtain ⟨listed,source⟩ := List.mem_filter.mp inside
    obtain ⟨stored,near⟩ := (lists a).mp listed
    rw [show c.adoptions.get ⟨a.ns,a.name⟩ = some a from stored]
    simpa [near] using source
  · intro mapped
    cases held : c.adoptions.get key with
    | none => rw [held] at mapped; cases mapped
    | some a =>
      rw [held] at mapped
      have filed : a.key = key := c.adoptions.keyed _ a held
      obtain ⟨near,source⟩ : a.ns = dep.ns ∧ sourceName a = dep.name := by simpa using mapped
      refine List.mem_map.mpr ⟨a,List.mem_filter.mpr ⟨(lists a).mpr ⟨by rw [filed]; exact held,near⟩,by simpa using source⟩,filed⟩

/-! Who is told of a change. -/

/-- One of the two versions of the object that an event carries. -/
def EventOf {κ α : Type} {keyOf : α → κ} (before after : Store κ α keyOf) (key : κ) (o : α) : Prop :=
  before.get key ≠ after.get key ∧ (before.get key = some o ∨ after.get key = some o)

/-- What the map functions read when they handle the events of a change. -/
structure MapReads where
  listed : Deployment → Except ApiError (List KnativeAdoption)
  got : Service → Except ApiError KnativeAdoption

/-- A read that succeeds is answered by the cluster as it is after the change. -/
structure MapReads.Answered (n : MapReads) (c : Cluster) : Prop where
  listed : ∀ dep items, n.listed dep = .ok items → Lists c dep.ns items
  got : ∀ svc a, n.got svc = .ok a → c.adoptions.get ⟨svc.ns,svc.name⟩ = some a

inductive Woken (n : MapReads) (c d : Cluster) (key : NamespacedName) : Prop
  | adoption (changed : c.adoptions.get key ≠ d.adoptions.get key)
  | deployment (place : NamespacedName) (dep : Deployment) (event : EventOf c.deployments d.deployments place dep)
      (mapped : key ∈ mapDeploymentToAdoptions (n.listed dep) dep)
  | service (place : NamespacedName) (svc : Service) (event : EventOf c.services d.services place svc)
      (mapped : key ∈ mapServiceToAdoptions (n.got svc))
  | ksvc (place : NamespacedName) (k : KService) (event : EventOf c.ksvcs d.ksvcs place k) (mapped : ownerRequest k = some key)

/-- The event is dropped, since the map function could not read the adoptions it is about. -/
inductive Missed (n : MapReads) (c d : Cluster) (key : NamespacedName) : Prop
  | deployment (place : NamespacedName) (dep : Deployment) (event : EventOf c.deployments d.deployments place dep) (err : ApiError)
      (failed : n.listed dep = .error err) (about : sourcedFrom d dep key = true)
  | service (place : NamespacedName) (svc : Service) (event : EventOf c.services d.services place svc) (err : ApiError)
      (failed : n.got svc = .error err) (about : svc.key = key) (there : d.adoptions.get key ≠ none)

/-- What an adoption looks at: itself, its source, the Service of its name and the Knative
Service that is its own. -/
structure Outlook where
  adoption : KnativeAdoption
  source : Option Deployment
  service : Option Service
  ksvc : Option KService

def outlookOf (a : KnativeAdoption) (key : NamespacedName) (c : Cluster) : Outlook where
  adoption := a
  source := c.deployments.get ⟨a.ns,sourceName a⟩
  service := c.services.get key
  ksvc := (c.ksvcs.get ⟨a.ns,sourceName a⟩).filter (fun k => ownerRequest k = some key)

def outlook (key : NamespacedName) (c : Cluster) : Option Outlook := (c.adoptions.get key).map (fun a => outlookOf a key c)

theorem eventOf_ne {κ α : Type} {keyOf : α → κ} (before after : Store κ α keyOf) (key : κ)
    (changed : after.get key ≠ before.get key) : ∃ o, EventOf before after key o := by
  cases held : before.get key with
  | some o => exact ⟨o,Ne.symm changed,Or.inl held⟩
  | none =>
    cases there : after.get key with
    | some o => exact ⟨o,Ne.symm changed,Or.inr there⟩
    | none => exact absurd (there.trans held.symm) changed

/-- Whoever is not told of a change and has not missed an event sees the same after it. -/
theorem outlook_told (n : MapReads) (c d : Cluster) (key : NamespacedName) (read : n.Answered d) (untold : ¬ Woken n c d key)
    (heard : ¬ Missed n c d key) : outlook key d = outlook key c := by
  have adoption : c.adoptions.get key = d.adoptions.get key := Classical.not_not.mp (fun changed => untold (.adoption changed))
  unfold outlook
  rw [adoption]
  cases held : d.adoptions.get key with
  | none => rfl
  | some a =>
    have filed : a.key = key := d.adoptions.keyed _ a held
    have source : d.deployments.get ⟨a.ns,sourceName a⟩ = c.deployments.get ⟨a.ns,sourceName a⟩ := by
      by_contra changed
      obtain ⟨dep,event⟩ := eventOf_ne _ _ _ changed
      have carried : dep.key = ⟨a.ns,sourceName a⟩ := event.2.elim (c.deployments.keyed _ dep) (d.deployments.keyed _ dep)
      have ns : dep.ns = a.ns := congrArg NamespacedName.ns carried
      have name : dep.name = sourceName a := congrArg NamespacedName.name carried
      have about : sourcedFrom d dep key = true := by
        unfold sourcedFrom
        rw [held]
        simp [ns,name]
      cases listed : n.listed dep with
      | error err => exact heard (.deployment _ dep event err listed about)
      | ok items =>
        refine untold (.deployment _ dep event ?_)
        rw [listed]
        exact (mem_mapDeploymentToAdoptions d dep items (read.listed dep items listed) key).mpr about
    have service : d.services.get key = c.services.get key := by
      by_contra changed
      obtain ⟨svc,event⟩ := eventOf_ne _ _ _ changed
      have carried : svc.key = key := event.2.elim (c.services.keyed _ svc) (d.services.keyed _ svc)
      cases got : n.got svc with
      | error err => exact heard (.service _ svc event err got carried (by rw [held]; exact Option.some_ne_none a))
      | ok b =>
        have stored : d.adoptions.get svc.key = some b := read.got svc b got
        refine untold (.service _ svc event ?_)
        rw [got]
        exact List.mem_singleton.mpr (carried.symm.trans (d.adoptions.keyed _ b stored).symm)
    have ksvc : (d.ksvcs.get ⟨a.ns,sourceName a⟩).filter (fun k => ownerRequest k = some key) =
        (c.ksvcs.get ⟨a.ns,sourceName a⟩).filter (fun k => ownerRequest k = some key) := by
      by_contra changed
      have differ : c.ksvcs.get ⟨a.ns,sourceName a⟩ ≠ d.ksvcs.get ⟨a.ns,sourceName a⟩ := fun same => changed (by rw [same])
      have unmapped (k : KService) (seen : c.ksvcs.get ⟨a.ns,sourceName a⟩ = some k ∨ d.ksvcs.get ⟨a.ns,sourceName a⟩ = some k) :
          ownerRequest k ≠ some key := fun mapped => untold (.ksvc _ k ⟨differ,seen⟩ mapped)
      have hidden (o : Option KService) (all : ∀ k, o = some k → ownerRequest k ≠ some key) :
          o.filter (fun k => ownerRequest k = some key) = none := by
        cases o with
        | none => rfl
        | some k => simp [Option.filter,all k rfl]
      rw [hidden _ (fun k seen => unmapped k (Or.inr seen)),hidden _ (fun k seen => unmapped k (Or.inl seen))] at changed
      exact changed rfl
    simp only [Option.map_some,outlookOf,source,service,ksvc]

end Ifaas
