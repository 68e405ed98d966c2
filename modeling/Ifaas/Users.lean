import Ifaas.Frame
import Ifaas.Webhook
import Mathlib.Logic.Relation

/-! What users do to KnativeAdoptions while the operator runs: they create, edit and
delete them as far as the admission webhooks let them. A user who edits an adoption
changes its labels, annotations and specification; finalizers belong to the operator. -/
namespace Ifaas
open Library

/-- The webhooks admit a new adoption, with its defaults. -/
def Admitted (c : Cluster) (a : KnativeAdoption) : Prop :=
  ∃ log, Run apiserver Eq (Webhook.validateCreate a) c log (some none) c

def AdmittedUpdate (c : Cluster) (old new : KnativeAdoption) : Prop :=
  ∃ log, Run apiserver Eq (Webhook.validateUpdate old new) c log (some none) c

/-- One step of a user. A created adoption gets an identity out of `mine`. -/
inductive UserMove (mine : Nat → Prop) (c : Cluster) : Cluster → Prop where
  | create (a : KnativeAdoption) (absent : c.adoptions.get a.key = none) (live : a.deleting = false) (theirs : mine a.uid)
      (admitted : Admitted c (Webhook.default a)) :
      UserMove mine c { c with adoptions := c.adoptions.put (Webhook.default a) }
  | delete (key : NamespacedName) : UserMove mine c (c.deleteAdoption key).1
  | edit (a : KnativeAdoption) (labels annotations : Labels) (spec : KnativeAdoptionSpec) (generation : Int)
      (held : c.adoptions.get a.key = some a)
      (admitted : AdmittedUpdate c a (Webhook.default { a with
        labels := labels, annotations := annotations, spec := spec, generation := generation })) :
      UserMove mine c { c with adoptions := c.adoptions.put (Webhook.default { a with
        labels := labels, annotations := annotations, spec := spec, generation := generation }) }

/-- Any number of steps of users, Knative and the flusher. -/
def Life (mine : Nat → Prop) : Cluster → Cluster → Prop :=
  Relation.ReflTransGen (fun c d => Drift c d ∨ UserMove mine c d)

variable {mine : Nat → Prop} {c d : Cluster}

/-- What every single step keeps is kept by all of them. -/
theorem Life.keeps (P : Cluster → Prop) (drift : ∀ c d, Drift c d → P c → P d)
    (user : ∀ c d, UserMove mine c d → P c → P d) (moved : Life mine c d) (start : P c) : P d := by
  induction moved with
  | refl => exact start
  | tail before step ih =>
    rcases step with drifted | acted
    · exact drift _ _ drifted ih
    · exact user _ _ acted ih

theorem default_meta (a : KnativeAdoption) : (Webhook.default a).toObjectMeta = a.toObjectMeta := by
  unfold Webhook.default
  split <;> rfl

/-- The reference to the source cannot be edited. -/
theorem AdmittedUpdate.sourceRef (old new : KnativeAdoption) (admitted : AdmittedUpdate c old new) :
    new.spec.sourceRef = old.spec.sourceRef := by
  obtain ⟨log,run⟩ := admitted
  by_contra changed
  have refused : old.spec.sourceRef ≠ new.spec.sourceRef := fun same => changed same.symm
  unfold Webhook.validateUpdate at run
  rw [if_pos refused] at run
  cases (run_return run).2.2

/-- An admitted adoption names its source. -/
theorem returns_validateSpec (a : KnativeAdoption) (unnamed : a.spec.sourceRef.name = "") :
    (Webhook.validateSpec a).Returns (fun result => result ≠ none) := by
  have missing : (Webhook.checkSourceExists a).Returns (fun result => ∀ dep, result ≠ .ok dep) := by
    unfold Webhook.checkSourceExists
    dsimp only
    split <;> exact fun dep => nofun
  unfold Webhook.validateSpec
  split
  · exact nofun
  · split
    · exact nofun
    · refine Program.returns_bind _ missing (fun result none_ => ?_)
      cases result with
      | error err => exact nofun
      | ok dep => exact absurd rfl (none_ dep)

theorem Admitted.named (a : KnativeAdoption) (admitted : Admitted c a) : a.spec.sourceRef.name ≠ "" := by
  obtain ⟨log,run⟩ := admitted
  intro unnamed
  exact run_returns (returns_validateSpec a unnamed) run rfl

/-! Steps of users seen from one key. -/

/-- A step of a user leaves everything but the adoptions alone. -/
theorem UserMove.other_parts (moved : UserMove mine c d) : d.ksvcs = c.ksvcs ∧ d.deployments = c.deployments ∧
    d.services = c.services ∧ d.traffic = c.traffic := by
  cases moved with
  | create => exact ⟨rfl,rfl,rfl,rfl⟩
  | delete key =>
    rw [deleteAdoption_frame]
    exact ⟨rfl,rfl,rfl,rfl⟩
  | edit => exact ⟨rfl,rfl,rfl,rfl⟩

/-- A stored adoption with finalizers stays, whatever users do: they can mark it deleted
and edit it. -/
theorem UserMove.stored (moved : UserMove mine c d) (key : NamespacedName) (st : KnativeAdoption)
    (held : c.adoptions.get key = some st) (kept : st.finalizers ≠ []) :
    ∃ next, d.adoptions.get key = some next ∧ next.uid = st.uid ∧ next.finalizers = st.finalizers ∧
      next.spec.sourceRef = st.spec.sourceRef ∧ (st.deleting = true → next.deleting = true) := by
  have filed : st.key = key := c.adoptions.keyed _ _ held
  cases moved with
  | create a absent live theirs admitted =>
    have other : key ≠ (Webhook.default a).key := by
      intro same
      have stored : (Webhook.default a).key = a.key := congrArg ObjectMeta.key (default_meta a)
      rw [same,stored,absent] at held
      cases held
    exact ⟨st,(if_neg other).trans held,rfl,rfl,rfl,id⟩
  | delete other =>
    by_cases same : key = other
    · subst same
      refine ⟨{ st with deleting := true },?_,rfl,rfl,rfl,fun _ => rfl⟩
      rw [get_deleteAdoption,if_pos rfl,held]
      exact if_neg kept
    · refine ⟨st,?_,rfl,rfl,rfl,id⟩
      rw [get_deleteAdoption,if_neg same]
      exact held
  | edit a labels annotations spec generation stored admitted =>
    have fixed := AdmittedUpdate.sourceRef _ _ admitted
    generalize edited : ({ a with labels := labels, annotations := annotations, spec := spec, generation := generation } :
      KnativeAdoption) = e at fixed ⊢
    have object := default_meta e
    have filed' : (Webhook.default e).key = a.key := by
      rw [show (Webhook.default e).key = e.key from congrArg ObjectMeta.key object,← edited]
      rfl
    by_cases same : key = a.key
    · rw [same,stored] at held
      cases held
      refine ⟨Webhook.default e,if_pos (same.trans filed'.symm),?_,?_,fixed,?_⟩
      · rw [congrArg ObjectMeta.uid object,← edited]
      · rw [congrArg ObjectMeta.finalizers object,← edited]
      · rw [congrArg ObjectMeta.deleting object,← edited]
        exact id
    · exact ⟨st,(if_neg (fun equal => same (equal.trans filed'))).trans held,rfl,rfl,rfl,id⟩

end Ifaas
