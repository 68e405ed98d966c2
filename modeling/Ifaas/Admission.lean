import Ifaas.Webhook

/-! Admission of updates to a stored KnativeAdoption. The defaulter fills in the namespace
of the source reference of the new object, and the validator then compares the reference
with the stored one, which no defaulter may have seen. -/
namespace Ifaas.Webhook
open Library

/-- The update as the two handlers see it. -/
def admitUpdate (old new : KnativeAdoption) : Op (Option ApiError) := validateUpdate old (default new)

def immutableText : String := "spec.sourceRef is immutable: "

/-- Rejections of a source reference that is not the stored one. -/
def refusesSource (err : ApiError) : Bool := immutableText.toList.isPrefixOf err.message.toList

structure NeverTraps (old : KnativeAdoption) : Prop where
  identity : ∀ new, new.key = old.key → new.spec.sourceRef = old.spec.sourceRef →
    ∀ c log err d, Run apiserver Drift (admitUpdate old new) c log (some (some err)) d → refusesSource err = false
  release : ∀ new, new.key = old.key → new.spec.sourceRef = old.spec.sourceRef → new.deleting = true →
    admitUpdate old new = pure none

theorem refusesSource_append (start rest : String) (reason : StatusReason)
    (differs : (immutableText.toList.take start.toList.length).isPrefixOf start.toList = false) :
    refusesSource ⟨reason,start ++ rest⟩ = false := by
  cases refuses : refusesSource ⟨reason,start ++ rest⟩ with
  | false => rfl
  | true =>
    have within : immutableText.toList <+: start.toList ++ rest.toList := by
      rw [← String.toList_append]
      exact List.isPrefixOf_iff_prefix.mp refuses
    have cut := within.take start.toList.length
    rw [List.take_left] at cut
    rw [List.isPrefixOf_iff_prefix.mpr cut] at differs
    cases differs

theorem refusesSource_immutable (rest : String) : refusesSource (.text (immutableText ++ rest)) = true := by
  unfold refusesSource ApiError.text
  rw [String.toList_append]
  exact List.isPrefixOf_iff_prefix.mpr (List.prefix_append _ _)

theorem checkReservedKeys_other (a : KnativeAdoption) (err : ApiError) (refused : checkReservedKeys a = some err) :
    refusesSource err = false := by
  unfold checkReservedKeys at refused
  split at refused
  next =>
    cases refused
    rw [String.append_assoc]
    exact refusesSource_append "label " _ _ (by decide)
  next =>
    split at refused
    next =>
      cases refused
      rw [String.append_assoc]
      exact refusesSource_append "annotation " _ _ (by decide)
    next => cases refused

theorem checkEventing_other (a : KnativeAdoption) (err : ApiError) (refused : checkEventing a = some err) :
    refusesSource err = false := by
  unfold checkEventing at refused
  split at refused
  · cases refused
  · split at refused
    · cases refused
      decide
    · cases refused

theorem checkPrimaryContainer_other (a : KnativeAdoption) (dep : Deployment) (err : ApiError)
    (refused : checkPrimaryContainer a dep = some err) : refusesSource err = false := by
  unfold checkPrimaryContainer at refused
  dsimp only at refused
  split at refused
  · split at refused
    · cases refused
    · cases refused
      rw [String.append_assoc]
      exact refusesSource_append "spec.primaryContainer=" _ _ (by decide)
  · split at refused
    · cases refused
      rw [String.append_assoc]
      exact refusesSource_append "source Deployment has " _ _ (by decide)
    · cases refused

theorem returns_rejected (failed : ApiError) (other : refusesSource failed = false) :
    (pure (some failed) : Op (Option ApiError)).Returns (fun out => ∀ err, out = some err → refusesSource err = false) := by
  apply Program.returns_pure
  intro err refused
  cases refused
  exact other

theorem returns_sourceless (failed : ApiError) (other : refusesSource failed = false) :
    (pure (.error failed) : Op (Except ApiError Deployment)).Returns
      (fun found => ∀ err, found = .error err → refusesSource err = false) := by
  apply Program.returns_pure
  intro err refused
  cases refused
  exact other

theorem returns_checkSourceExists (a : KnativeAdoption) :
    (checkSourceExists a).Returns (fun found => ∀ err, found = .error err → refusesSource err = false) := by
  unfold checkSourceExists
  dsimp only
  split
  · apply returns_sourceless
    rw [String.append_assoc]
    exact refusesSource_append "spec.sourceRef.kind=" _ _ (by decide)
  · split
    · apply returns_sourceless
      decide
    · generalize (if a.spec.sourceRef.ns = "" then a.ns else a.spec.sourceRef.ns) = ns
      split
      · apply returns_sourceless
        rw [String.append_assoc,String.append_assoc,String.append_assoc]
        exact refusesSource_append "cross-namespace adoption is not supported in M1 (sourceRef.namespace=" _ _ (by decide)
      · refine Program.returns_bind (fun _ => True) (Program.returns_true _) (fun answer _ => ?_)
        rcases answer with missing | dep
        · dsimp only
          split
          · apply returns_sourceless
            rw [String.append_assoc,String.append_assoc,String.append_assoc]
            exact refusesSource_append "spec.sourceRef points at Deployment " _ _ (by decide)
          · apply returns_sourceless
            exact refusesSource_append "lookup source Deployment: " _ _ (by decide)
        · exact Program.returns_pure _ _ nofun

theorem returns_checkNoHPA (a : KnativeAdoption) (dep : Deployment) :
    (checkNoHPA a dep).Returns (fun out => ∀ err, out = some err → refusesSource err = false) := by
  unfold checkNoHPA
  refine Program.returns_bind (fun _ => True) (Program.returns_true _) (fun answer _ => ?_)
  rcases answer with failed | items
  · apply returns_rejected
    exact refusesSource_append "scan HPAs: " _ _ (by decide)
  · dsimp only
    split
    · apply returns_rejected
      simp only [String.append_assoc]
      exact refusesSource_append "source Deployment " _ _ (by decide)
    · exact Program.returns_pure _ _ nofun

theorem returns_validateSpec (a : KnativeAdoption) :
    (validateSpec a).Returns (fun out => ∀ err, out = some err → refusesSource err = false) := by
  unfold validateSpec
  split
  next failed reserved =>
    apply returns_rejected
    exact checkReservedKeys_other a failed reserved
  next =>
    split
    next failed eventing =>
      apply returns_rejected
      exact checkEventing_other a failed eventing
    next =>
      refine Program.returns_bind _ (returns_checkSourceExists a) (fun found source => ?_)
      rcases found with failed | dep
      · apply returns_rejected
        exact source failed rfl
      · dsimp only
        split
        next failed primary =>
          apply returns_rejected
          exact checkPrimaryContainer_other a dep failed primary
        next => exact returns_checkNoHPA a dep

theorem default_fixed (a : KnativeAdoption) (settled : a.spec.sourceRef.ns ≠ "" ∨ a.ns = "") :
    (default a).spec.sourceRef = a.spec.sourceRef := by
  unfold default
  split
  next empty =>
    have unnamed : a.ns = "" := by
      rcases settled with named | unnamed
      · exact absurd empty named
      · exact unnamed
    dsimp only
    rw [unnamed,← empty]
  next => rfl

theorem default_deleting (a : KnativeAdoption) : (default a).deleting = a.deleting := by
  unfold default
  split <;> rfl

theorem admission_never_traps_iff (old : KnativeAdoption) :
    NeverTraps old ↔ old.spec.sourceRef.ns ≠ "" ∨ old.ns = "" := by
  constructor
  · intro never
    by_contra open_
    push Not at open_
    obtain ⟨empty,named⟩ := open_
    have changed : old.spec.sourceRef ≠ (default old).spec.sourceRef := by
      intro same
      have ns := congrArg SourceRef.ns same
      simp [default,empty] at ns
      exact named ns
    have refused : admitUpdate old old = pure (some (.text (immutableText ++ (sourceRefText old.spec.sourceRef ++ (" → " ++
        sourceRefText (default old).spec.sourceRef))))) := by
      unfold admitUpdate validateUpdate
      rw [if_pos changed,String.append_assoc,String.append_assoc]
      rfl
    have accepted := never.identity old rfl rfl {} [] _ {} (by rw [refused]; exact .done _ _)
    rw [refusesSource_immutable] at accepted
    cases accepted
  · intro settled
    have same (new : KnativeAdoption) (key : new.key = old.key) (source : new.spec.sourceRef = old.spec.sourceRef) :
        (default new).spec.sourceRef = old.spec.sourceRef := by
      have ns : new.ns = old.ns := congrArg NamespacedName.ns key
      rw [default_fixed new (by rwa [source,ns]),source]
    constructor
    · intro new key source c log err d run
      unfold admitUpdate validateUpdate at run
      rw [if_neg (not_not_intro (same new key source).symm)] at run
      split at run
      · obtain ⟨_,_,⟨⟩⟩ := run_return run
      · exact run_returns (returns_validateSpec _) run err rfl
    · intro new key source deleting
      unfold admitUpdate validateUpdate
      rw [if_neg (not_not_intro (same new key source).symm),default_deleting,if_pos deleting]

namespace Sample

/-- An adoption stored while no defaulter answered, which waits for its last finalizer. -/
def undefaulted : KnativeAdoption where
  ns := "prod"
  name := "web"
  deleting := true
  finalizers := [finalizerRestoreSource]
  spec := { sourceRef := { name := "web" } }

end Sample

theorem release_trapped : admitUpdate Sample.undefaulted { Sample.undefaulted with finalizers := [] } =
    pure (some (.text ("spec.sourceRef is immutable: \x7bKind:Deployment Name:web Namespace:\x7d → " ++
      "\x7bKind:Deployment Name:web Namespace:prod\x7d"))) := by
  have message : immutableText ++ sourceRefText Sample.undefaulted.spec.sourceRef ++ " → " ++
      sourceRefText (default Sample.undefaulted).spec.sourceRef =
      "spec.sourceRef is immutable: \x7bKind:Deployment Name:web Namespace:\x7d → " ++
        "\x7bKind:Deployment Name:web Namespace:prod\x7d" := by decide +kernel
  exact congrArg (fun text => pure (some (ApiError.text text))) message

end Ifaas.Webhook
