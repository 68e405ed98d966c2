import Ifaas.RoundTrip
import Ifaas.Tether

/-! The name of the Knative Service. The translator takes it from the source Deployment,
everything else takes it from the adoption. Where the two agree, the Knative Service of
an adoption is the one its teardown waits for, and it never outlives the finalizer. -/
namespace Ifaas
open Library

/-- The Knative Service a call is about; a Service of that name has to make room for it,
and the pods are its own. -/
def Request.knative : Request → Option NamespacedName
  | .getKService key | .deleteKService key | .getService key | .deleteService key => some key
  | .applyKService ksvc => some ksvc.key
  | .patchKService key _ => some key
  | .listPods ns service => some ⟨ns,service⟩
  | .enqueue decision => some decision.key
  | _ => none

/-- Whatever the program calls is about this Knative Service. -/
def Addresses {α : Type} (key : NamespacedName) (p : Op α) : Prop :=
  ∀ env c log out d, Run apiserver env p c log out d → ∀ e ∈ log, ∀ other, e.request.knative = some other → other = key

/-- Guard, flusher, swapper and teardown mean the Knative Service that was translated and
is applied. -/
structure OneName (a : KnativeAdoption) (ksvc : KService) : Prop where
  applied : ∀ r env c log out d, Run apiserver env (reconcileAdoption r a) c log out d → ∀ e ∈ log, ∀ sent,
    e.request = .applyKService sent → sent.key = ksvc.key
  guard : ∀ r, Addresses ksvc.key (maybeRunGuard r a)
  swap : Addresses ksvc.key (swapService a)
  delete : Addresses ksvc.key (deleteKSvcIfPresent a)
  gone : Addresses ksvc.key (isKSvcGone a)

section Addresses
variable {α : Type} (key : NamespacedName)

theorem addresses_uses (p : Op α) (uses : p.Uses (fun r => ∀ other, r.knative = some other → other = key)) :
    Addresses key p :=
  fun _ _ _ _ _ run e member => run_uses uses run e member

end Addresses

theorem addresses_maybeRunGuard (r : KnativeAdoptionReconciler) (a : KnativeAdoption) :
    Addresses a.key (maybeRunGuard r a) := by
  refine addresses_uses _ _ ?_
  have named (request : Request) (same : ∀ other, request.knative = some other → other = a.key) :
      (Client.ask request).Uses (fun r => ∀ other, r.knative = some other → other = a.key) := ⟨same,fun _ => trivial⟩
  have probes (path : String) (timeout : Int) (pods : List Pod) :
      (probeAll a path timeout pods).Uses (fun r => ∀ other, r.knative = some other → other = a.key) := by
    induction pods with
    | nil => trivial
    | cons pod rest ih =>
      refine Program.uses_bind (named _ (fun _ same => by cases same)) (fun result => ?_)
      exact Program.uses_bind ih (fun _ => trivial)
  have hand (b : KnativeAdoption) (desired : Int) (reason : String) (same : b.key = a.key) :
      (enqueueMinScale r b desired reason).Uses (fun r => ∀ other, r.knative = some other → other = a.key) := by
    unfold enqueueMinScale
    split
    · refine Program.uses_bind (named _ (fun other equal => ?_)) (fun _ => trivial)
      rw [← Option.some.inj equal]
      exact same
    · trivial
  have cleared (b : KnativeAdoption) (t : ConditionType) (reason : Reason) :
      (clearConditionIfReason b t reason).key = b.key :=
    congrArg ObjectMeta.key (sameLedger_clearConditionIfReason b t reason).metadata
  unfold maybeRunGuard
  split
  · trivial
  · refine Program.uses_bind (named _ (fun other equal => (Option.some.inj equal).symm)) (fun response => ?_)
    cases response with
    | error err => trivial
    | ok prev =>
      dsimp only
      split
      · refine Program.uses_bind ?_ (fun _ => trivial)
        unfold runScaleDownGuard
        dsimp only
        split
        · trivial
        · refine Program.uses_bind ?_ (fun pods => ?_)
          · refine Program.uses_bind (named _ (fun other equal => (Option.some.inj equal).symm)) (fun listed => ?_)
            cases listed <;> trivial
          · cases pods with
            | error err => trivial
            | ok pods =>
              refine Program.uses_bind (probes _ _ pods) (fun results => ?_)
              refine Program.uses_bind ?_ (fun _ => trivial)
              cases ScaleDown.vote results with
              | allowZero => exact Program.uses_bind (hand _ _ _ (cleared _ _ _)) (fun _ => trivial)
              | block => exact Program.uses_bind (hand _ _ _ rfl) (fun _ => trivial)
              | noPods => exact Program.uses_bind (hand _ _ _ (cleared _ _ _)) (fun _ => trivial)
      · trivial

theorem addresses_deleteKSvcIfPresent (a : KnativeAdoption) : Addresses a.key (deleteKSvcIfPresent a) := by
  refine addresses_uses _ _ (Program.uses_bind ⟨fun other equal => (Option.some.inj equal).symm,fun _ => trivial⟩
    (fun response => ?_))
  cases response with
  | ok done => trivial
  | error err =>
    dsimp only
    split <;> trivial

theorem addresses_isKSvcGone (a : KnativeAdoption) : Addresses a.key (isKSvcGone a) := by
  refine addresses_uses _ _ (Program.uses_bind ⟨fun other equal => (Option.some.inj equal).symm,fun _ => trivial⟩
    (fun response => ?_))
  cases response with
  | ok done => trivial
  | error err =>
    dsimp only
    split <;> trivial

/-- The Service that is deleted is the one that was read. -/
theorem addresses_swapService (a : KnativeAdoption) : Addresses a.key (swapService a) := by
  intro env c log out d run e member
  rcases run_call run with ⟨rfl,_,_⟩ | ⟨m,fault,rest,_,rfl,following⟩
  · simp at member
  · rcases List.mem_cons.mp member with rfl | later
    · exact fun other equal => (Option.some.inj equal).symm
    · have found (svc : Option Service) (filed : ∀ s, svc = some s → s.key = a.key)
          (run : Run apiserver env (swapFound a svc) (apiserver.serve fault m (.getService a.key)).1 rest out d) :
          ∀ other, e.request.knative = some other → other = a.key := by
        suffices uses : (swapFound a svc).Uses (fun r => ∀ other, r.knative = some other → other = a.key) from
          run_uses uses run e later
        unfold swapFound
        split
        · trivial
        · trivial
        · cases svc with
          | none => trivial
          | some svc =>
            refine Program.uses_bind (Program.uses_bind ⟨fun other equal => ?_,fun _ => trivial⟩
              (fun response => ?_)) (fun result => ?_)
            · rw [← Option.some.inj equal]
              exact filed svc rfl
            · cases response with
              | ok done => trivial
              | error err =>
                dsimp only
                split <;> trivial
            · obtain ⟨b,outcome⟩ := result
              cases outcome <;> trivial
      cases answer : (apiserver.serve fault m (.getService a.key)).2 with
      | ok svc =>
        rw [answer] at following
        refine found (some svc) (fun s same => ?_) following
        cases same
        exact m.services.keyed _ _ (getService_ok answer)
      | error err =>
        rw [answer] at following
        change Run _ _ (if err.isNotFound then swapFound a none else pure _ : Op _) _ _ _ _ at following
        split at following
        · exact found none (fun _ same => by cases same) following
        · rw [(run_pure following).1] at later
          simp at later

theorem applied_key (r : KnativeAdoptionReconciler) (a : KnativeAdoption) (env : Cluster → Cluster → Prop)
    (c d : Cluster) (log : CallLog) (out : Option Reconciled)
    (run : Run apiserver env (reconcileAdoption r a) c log out d) (e : Event Request Response String Cluster)
    (member : e ∈ log) (sent : KService) (same : e.request = .applyKService sent) : sent.key = sourceKey a := by
  have all := (ensures_reconcileAdoption_applies env
    (fun _ past => ∀ e ∈ past, ∀ sent, e.request = .applyKService sent → sent.key = sourceKey a) r a
    (fun _ _ _ _ inv => inv) (fun before past fault request fine inv e inside sent same => ?_) c []
    (fun _ inside => by simp at inside) log out d run).1
  · exact all e (by simpa using member) sent same
  · rcases List.mem_append.mp inside with earlier | last
    · exact inv e earlier sent same
    · rw [List.mem_singleton.mp last] at same
      change request = .applyKService sent at same
      subst same
      obtain ⟨other,_,equal,key,_⟩ := fine.2 rfl
      cases equal
      exact key

/-- For an admitted adoption everything means one Knative Service exactly when the
adoption has the name of its source. -/
theorem oneName_iff (a : KnativeAdoption) (named : a.spec.sourceRef.name ≠ "") (dep : Deployment) (ksvc : KService)
    (source : dep.key = sourceKey a) (translated : translate dep a = .ok ksvc) :
    OneName a ksvc ↔ a.name = a.spec.sourceRef.name := by
  have key : ksvc.key = ⟨a.ns,a.spec.sourceRef.name⟩ := by
    rw [translate_key dep a ksvc translated,source,sourceKey,sourceName,if_pos named]
  constructor
  · intro one
    have call : Run apiserver Eq (deleteKSvcIfPresent a) {} [apiserver.event .none {} (.deleteKService a.key)] none
        (apiserver.serve .none {} (.deleteKService a.key)).1 :=
      .call _ _ _ _ _ .none [] none rfl (.stop _ _)
    have same := one.delete Eq _ _ _ _ call _ (List.mem_singleton.mpr rfl) a.key rfl
    rw [key] at same
    exact congrArg NamespacedName.name same
  · intro same
    have own : ksvc.key = a.key := by
      rw [key,← same]
      rfl
    refine ⟨fun r env c log out d run e member sent equal => ?_,?_,?_,?_,?_⟩
    · rw [applied_key r a env c d log out run e member sent equal,← source,translate_key dep a ksvc translated]
    · rw [own]
      exact fun r => addresses_maybeRunGuard r a
    · rw [own]
      exact addresses_swapService a
    · rw [own]
      exact addresses_deleteKSvcIfPresent a
    · rw [own]
      exact addresses_isKSvcGone a

/-- For an admitted adoption the Knative Service has one name exactly when the adoption has
the name of its source; and then, in every run with users, faults and restarts, no Knative
Service of the adoption exists once the first finalizer is gone. -/
theorem ksvc_name (r : KnativeAdoptionReconciler) (a : KnativeAdoption) (c : Cluster) (admitted : Admitted c a) :
    (∀ dep ksvc, dep.key = sourceKey a → translate dep a = .ok ksvc →
      (OneName a ksvc ↔ a.name = a.spec.sourceRef.name)) ∧
    (a.name = a.spec.sourceRef.name → ∀ c0 c passes, c0.adoptions.get a.key = some a →
      (∀ k ksvc, c0.ksvcs.get k = some ksvc → ¬ Owned a.uid ksvc) →
      Passes apiserver (Life (fun other => other ≠ a.uid)) (reconcile r a.key) c0 passes c → ¬ Grip a.key a.uid c →
      ∀ k ksvc, c.ksvcs.get k = some ksvc → ¬ Owned a.uid ksvc) := by
  refine ⟨oneName_iff a (Admitted.named a admitted),?_⟩
  intro named c0 c passes held none_ run gone k ksvc found owned
  have start : Tethered a.key a.uid c0 := by
    refine ⟨fun k ksvc found owned => ?_,fun k ksvc found owned => ?_,fun st found same => ?_⟩
    · exact absurd owned (none_ k ksvc found)
    · exact absurd owned (none_ k ksvc found)
    · rw [held] at found
      cases found
      exact named
  exact gone ((passes_tethered r c0 passes start run).held k ksvc found owned)

/-- The sample workload is adopted, deleted by a user, and released. -/
theorem ksvc_name_sample :
    (Sample.adopting.2.ksvcs.get Sample.adoption.key).isSome = true ∧
      (∀ ksvc, translate Sample.deployment Sample.adoption = .ok ksvc → OneName Sample.adoption ksvc) ∧
      ∀ k ksvc, Sample.released.2.2.ksvcs.get k = some ksvc → ¬ Owned Sample.adoption.uid ksvc := by
  have admitted : Admitted Sample.cluster Sample.adoption :=
    ⟨_,run_exec apiserver Eq (fun _ => rfl) (Webhook.validateCreate Sample.adoption) [.none,.none] Sample.cluster⟩
  obtain ⟨names,runs⟩ := ksvc_name Sample.reconciler Sample.adoption Sample.cluster admitted
  refine ⟨by decide +kernel,fun ksvc translated => (names Sample.deployment ksvc rfl translated).mpr rfl,?_⟩
  refine runs rfl Sample.cluster Sample.released.2.2 _ rfl (fun k ksvc found => by cases found)
    (.pass _ _ _ _ _ _ (.drift _ _ _ _ (.pass _ _ _ _ _ _ (.drift _ _ _ _ (passes_exec apiserver _
      (fun _ => .refl) Sample.pass [List.replicate 7 .none,List.replicate 11 .none] Sample.cluster)
      (.single (Or.inr (.delete Sample.adoption.key)))) (run_exec _ _ (fun _ => .refl) _ _ _))
      (.single (Or.inl (drift_removed _ Sample.adoption.key (by decide +kernel))))) (run_exec _ _ (fun _ => .refl) _ _ _)) ?_
  rintro ⟨st,held,_⟩
  have gone : Sample.released.2.2.adoptions.get Sample.adoption.key = none := by
    have empty : (Sample.released.2.2.adoptions.get Sample.adoption.key).isNone = true := by decide +kernel
    simpa using empty
  rw [gone] at held
  cases held

namespace Sample

/-- An adoption whose name is not that of its source. -/
def renamed : KnativeAdoption := { ns := "prod", name := "alias", uid := 8, spec := { sourceRef := { name := "web" } } }

def aliased : Cluster := { adoptions := .ofList [renamed], deployments := .ofList [deployment] }

def adoptedAlias : CallLog × Option (Result × Option ApiError) × Cluster :=
  apiserver.exec (reconcile reconciler renamed.key) (List.replicate 12 .none) aliased

def releasedAlias : CallLog × Option (Result × Option ApiError) × Cluster :=
  apiserver.exec (reconcile reconciler renamed.key) (List.replicate 12 .none)
    (adoptedAlias.2.2.deleteAdoption renamed.key).1

end Sample

/-- The adoption is released and gone, its source runs again, and so does the Knative
Service that was applied for it. -/
theorem ksvc_orphaned :
    Admitted Sample.aliased Sample.renamed ∧
      (∀ ksvc, translate Sample.deployment Sample.renamed = .ok ksvc → ¬ OneName Sample.renamed ksvc) ∧
      ∃ passes, Passes apiserver (Life (fun other => other ≠ Sample.renamed.uid))
          (reconcile Sample.reconciler Sample.renamed.key) Sample.aliased passes Sample.releasedAlias.2.2 ∧
        (Sample.releasedAlias.2.2.adoptions.get Sample.renamed.key).isNone = true ∧
        (Sample.releasedAlias.2.2.deployments.get Sample.deployment.key).map (fun dep => dep.spec.replicas) =
          some (some 3) ∧
        ∃ ksvc, Sample.releasedAlias.2.2.ksvcs.get Sample.deployment.key = some ksvc ∧ Owned Sample.renamed.uid ksvc := by
  have admitted : Admitted Sample.aliased Sample.renamed :=
    ⟨_,run_exec apiserver Eq (fun _ => rfl) (Webhook.validateCreate Sample.renamed) [.none,.none] Sample.aliased⟩
  obtain ⟨passes,run⟩ : ∃ passes, Passes apiserver (Life (fun other => other ≠ Sample.renamed.uid))
      (reconcile Sample.reconciler Sample.renamed.key) Sample.aliased passes Sample.releasedAlias.2.2 :=
    ⟨_,.pass _ _ _ _ _ _ (.drift _ _ _ _ (.pass _ _ _ _ _ _ (.start _) (run_exec _ _ (fun _ => .refl) _ _ _))
      (.single (Or.inr (.delete Sample.renamed.key)))) (run_exec _ _ (fun _ => .refl) _ _ _)⟩
  refine ⟨admitted,fun ksvc translated one => ?_,passes,run,by decide +kernel,by decide +kernel,?_⟩
  · exact absurd ((oneName_iff Sample.renamed (by decide) Sample.deployment ksvc rfl translated).mp one) (by decide)
  · have left : (Sample.releasedAlias.2.2.ksvcs.get Sample.deployment.key).any (fun ksvc =>
        ksvc.ownerReferences.any (fun owner => owner.uid = Sample.renamed.uid)) = true := by decide +kernel
    obtain ⟨ksvc,found,owned⟩ := (Option.any_eq_true _ _).mp left
    obtain ⟨owner,member,same⟩ := List.any_eq_true.mp owned
    exact ⟨ksvc,found,owner,member,by simpa using same⟩

end Ifaas
