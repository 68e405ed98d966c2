import Ifaas.Readiness
import Ifaas.Takeover
import Ifaas.TrafficIsolation

/-! The course of a live pass, told by its answers. Every turn of the pipeline is decided by the
adoption and by what the API server answered: where a pass turns off is computed here from these
alone, and a finished run is split at its stages along with that. -/
namespace Ifaas
open Library

/-! What a pass was told. -/

/-- The answer to the question for the source. -/
def sourceRead (log : CallLog) : Option (Except ApiError Deployment) :=
  log.findSome? (fun e =>
    match e with
    | ⟨_,_,.getDeployment _,answer⟩ => some answer
    | _ => none)

/-- The answers to the questions for Services: the first is about the one of the adoption's
name, the second about the target of the routes. -/
def serviceReads (log : CallLog) : List (Except ApiError Service) :=
  log.filterMap (fun e =>
    match e with
    | ⟨_,_,.getService _,answer⟩ => some answer
    | _ => none)

/-- The Service of the adoption's name, or that there is none. -/
def serviceFound (log : CallLog) : Option (Option Service) :=
  match serviceReads log with
  | [] => none
  | .ok svc::_ => some (some svc)
  | .error err::_ => if err.isNotFound then some none else none

/-- The target of the routes could not be read. -/
def portUnread (log : CallLog) : Bool :=
  match serviceReads log with
  | _::.error err::_ => !err.isNotFound
  | _ => false

/-- The field a rewrite begins with is of another kind than it expects. -/
def unreadable (kind : TrafficKind) (body : Obj GoNumber) : Bool :=
  match kind with
  | .virtualService => !(nestedSlice body ["spec","http"]).isOk
  | .destinationRule => !(nestedString body ["spec","host"]).isOk

/-- The answer fails its traffic reference: the object could not be read or patched, or its
body cannot be rewritten. -/
def failsReference (e : Event Request Response String Cluster) : Bool :=
  match e with
  | ⟨_,_,.getTraffic _,.error _⟩ => true
  | ⟨_,_,.getTraffic key,.ok obj⟩ => unreadable key.kind (obj.body.map Literal.read)
  | ⟨_,_,.patchTraffic _ _,.error _⟩ => true
  | _ => false

/-- The traffic stage does not let the pass go on. -/
def unrouted (a : KnativeAdoption) (log : CallLog) : Bool :=
  trafficEnabled a && (decide (trafficMode a ≠ .inplace) || portUnread log ||
    (trafficRefs a).any (fun ref => ref.2 = "") || log.any failsReference)

/-- Where a pass turns off. -/
inductive Exit where
  | sourceUnread
  | sourceMissing
  | untranslated
  | serviceUnread
  | serviceRefused
  | serviceTakenOver
  | unrouted
  | applied
deriving DecidableEq

/-- From the Service of the adoption's name on. -/
def turnAtService (a : KnativeAdoption) (log : CallLog) : Option (Option Service) → Exit
  | none => .serviceUnread
  | some found =>
    match (classifyServiceForSwap found).decision with
    | .refused => .serviceRefused
    | .takenOver => .serviceTakenOver
    | .pass => if unrouted a log then .unrouted else .applied

def turn (a : KnativeAdoption) (log : CallLog) : Exit :=
  match sourceRead log with
  | none => .sourceUnread
  | some (.error err) => if err.isNotFound then .sourceMissing else .sourceUnread
  | some (.ok dep) =>
    match translate dep a with
    | .error _ => .untranslated
    | .ok _ => turnAtService a log (serviceFound log)

theorem sourceRead_append (front log : CallLog) (answer : Except ApiError Deployment)
    (read : sourceRead front = some answer) : sourceRead (front++log) = some answer := by
  unfold sourceRead at read ⊢
  rw [List.findSome?_append,read]
  rfl

theorem serviceReads_append (front log : CallLog) : serviceReads (front++log) = serviceReads front++serviceReads log :=
  List.filterMap_append

theorem serviceReads_quiet (log : CallLog) (quiet : ∀ e ∈ log, e.request.isGetService = false) : serviceReads log = [] := by
  refine List.filterMap_eq_nil_iff.mpr (fun e member => ?_)
  have other := quiet e member
  obtain ⟨before,fault,request,answer⟩ := e
  cases request with
  | getService key => cases other
  | _ => rfl

theorem serviceFound_append (front log : CallLog) (found : Option Service) (read : serviceFound front = some found) :
    serviceFound (front++log) = some found := by
  unfold serviceFound at read ⊢
  rw [serviceReads_append]
  cases answers : serviceReads front with
  | nil => simp [answers] at read
  | cons first rest =>
    rw [answers] at read
    cases first <;> exact read

theorem any_failsReference (log : CallLog) (quiet : ∀ e ∈ log, e.request.ofTraffic = false) : log.any failsReference = false := by
  refine List.any_eq_false.mpr (fun e member => ?_)
  have other := quiet e member
  obtain ⟨before,fault,request,answer⟩ := e
  cases request with
  | getTraffic key => cases other
  | patchTraffic key patch => cases other
  | _ => simp [failsReference]

/-! The traffic stage. -/

theorem nestedField_of_slice (body : Obj GoNumber) (fields : List String) (found : Slice)
    (read : nestedSlice body fields = .ok (some found)) : ∃ value, nestedField body fields = .ok (some value) := by
  unfold nestedSlice at read
  split at read
  · cases read
  · cases read
  · exact ⟨_,by assumption⟩
  · cases read

theorem nestedField_of_string (body : Obj GoNumber) (fields : List String) (found : String)
    (read : nestedString body fields = .ok (some found)) : ∃ value, nestedField body fields = .ok (some value) := by
  unfold nestedString at read
  split at read
  · cases read
  · cases read
  · exact ⟨_,by assumption⟩
  · cases read

/-- Once the http entries are read, nothing fails: they are written back into the spec they are from. -/
theorem stripSubset_succeeds (body : Obj GoNumber) (t : RouteTarget) (found : Option Slice)
    (read : nestedSlice body ["spec","http"] = .ok found) (err : ApiError) :
    stripSubsetFromTargetDestinations body t ≠ .error err := by
  unfold stripSubsetFromTargetDestinations
  rw [read]
  cases found with
  | none => nofun
  | some https =>
    obtain ⟨value,nested⟩ := nestedField_of_slice body _ https read
    obtain ⟨spec,held,-⟩ := spec_of_nested body "http" value nested
    intro failed
    dsimp only at failed
    split at failed
    · unfold setInSpec at failed
      rw [held] at failed
      cases failed
    · cases failed

theorem stripSubsets_succeeds (body : Obj GoNumber) (name ns : String) (found : Option String)
    (read : nestedString body ["spec","host"] = .ok found) (err : ApiError) :
    stripTargetServiceSubsets body name ns ≠ .error err := by
  unfold stripTargetServiceSubsets
  rw [read]
  cases found with
  | none => nofun
  | some host =>
    obtain ⟨value,nested⟩ := nestedField_of_string body _ host read
    obtain ⟨spec,held,-⟩ := spec_of_nested body "host" value nested
    intro failed
    dsimp only at failed
    split at failed
    · cases failed
    · rw [nestedField_inSpec body spec "subsets" held] at failed
      cases entry : spec.get "subsets" with
      | none =>
        rw [entry] at failed
        cases failed
      | some subsets =>
        rw [entry] at failed
        cases failed

theorem rewriteOf_unreadable (kind : TrafficKind) (t : RouteTarget) (body : Obj GoNumber) :
    unreadable kind body = true ↔ ∃ err, rewriteOf kind t body = .error err := by
  cases kind with
  | virtualService =>
    unfold unreadable rewriteOf
    dsimp only
    cases read : nestedSlice body ["spec","http"] with
    | error err =>
      unfold stripSubsetFromTargetDestinations
      rw [read]
      exact iff_of_true rfl ⟨_,rfl⟩
    | ok found =>
      exact iff_of_false Bool.false_ne_true (fun ⟨err,failed⟩ => stripSubset_succeeds body t found read err failed)
  | destinationRule =>
    unfold unreadable rewriteOf
    dsimp only
    cases read : nestedString body ["spec","host"] with
    | error err =>
      unfold stripTargetServiceSubsets
      rw [read]
      exact iff_of_true rfl ⟨_,rfl⟩
    | ok found =>
      exact iff_of_false Bool.false_ne_true (fun ⟨err,failed⟩ => stripSubsets_succeeds body _ _ found read err failed)

theorem uses_object_unread (kind : TrafficKind) (rewrite : Obj GoNumber → Except ApiError (Obj GoNumber × Bool))
    (a : KnativeAdoption) (name : String) :
    (reconcileTrafficObject kind (snapshotTrafficOnce kind) rewrite a name).Uses (fun q => q.isGetService = false) := by
  unfold reconcileTrafficObject
  refine Program.uses_bind ⟨rfl,fun _ => trivial⟩ (fun response => ?_)
  cases response with
  | error err => trivial
  | ok obj =>
    dsimp only
    split
    · trivial
    · split
      · trivial
      · trivial
      · refine Program.uses_bind ⟨rfl,fun _ => trivial⟩ (fun answer => ?_)
        cases answer <;> trivial

section Traffic
variable {env : Cluster → Cluster → Prop}

theorem run_object_fails (kind : TrafficKind) (t : RouteTarget) (a b : KnativeAdoption) (name : String)
    (outcome : Except ApiError Bool) (c d : Cluster) (log : CallLog)
    (run : Run apiserver env (reconcileTrafficObject kind (snapshotTrafficOnce kind) (rewriteOf kind t) a name) c log
      (some (b,outcome)) d) : outcome.isOk = !log.any failsReference := by
  unfold reconcileTrafficObject at run
  obtain ⟨response,before,fault,m,rest,-,-,rfl,following⟩ := run_ask run
  cases response with
  | error err =>
    obtain ⟨rfl,-,⟨⟩⟩ := run_return following
    rfl
  | ok obj =>
    have taken := snapshotTrafficOnce_taken kind a name obj
    dsimp only at following
    generalize snapshotTrafficOnce kind a name (obj.body.map Literal.read) = recorded at taken following
    obtain ⟨x,done⟩ := recorded
    subst taken
    dsimp only at following
    have fails : unreadable kind (obj.body.map Literal.read) = true ↔ _ := rewriteOf_unreadable kind t _
    cases rewritten : rewriteOf kind t (obj.body.map Literal.read) with
    | error err =>
      rw [rewritten] at following
      obtain ⟨rfl,-,⟨⟩⟩ := run_return following
      simp [failsReference,fails.mpr ⟨err,rewritten⟩,Except.isOk,Except.toBool]
    | ok pair =>
      have readable : unreadable kind (obj.body.map Literal.read) = false := by
        refine Bool.eq_false_iff.mpr (fun failed => ?_)
        obtain ⟨err,other⟩ := fails.mp failed
        rw [rewritten] at other
        cases other
      rw [rewritten] at following
      obtain ⟨result,changed⟩ := pair
      cases changed with
      | false =>
        obtain ⟨rfl,-,⟨⟩⟩ := run_return following
        simp [failsReference,readable,Except.isOk,Except.toBool]
      | true =>
        obtain ⟨answer,at_,failed,k,last,-,-,rfl,ended⟩ := run_ask following
        cases answer with
        | error err =>
          obtain ⟨rfl,-,⟨⟩⟩ := run_return ended
          simp [failsReference,readable,Except.isOk,Except.toBool]
        | ok written =>
          obtain ⟨rfl,-,⟨⟩⟩ := run_return ended
          simp [failsReference,readable,Except.isOk,Except.toBool]

/-- Over the references of one kind: an error is left exactly if one came in, a name is empty
or an answer fails. -/
theorem run_refs_fail (kind : TrafficKind) (port : Option Int) (names : List String) (a b : KnativeAdoption)
    (observed routes : List ObservedRoute) (firstErr err : Option ApiError) (c d : Cluster) (log : CallLog)
    (run : Run apiserver env (reconcileRefs kind (reconcileKind kind port) names a observed firstErr) c log
      (some (b,routes,err)) d) :
    err.isSome = (firstErr.isSome || names.any (fun name => name = "") || log.any failsReference) ∧ serviceReads log = [] := by
  induction names generalizing a c observed firstErr log with
  | nil =>
    obtain ⟨rfl,-,⟨⟩⟩ := run_return run
    simp [serviceReads]
  | cons name rest ih =>
    obtain ⟨⟨middle,route,failure⟩,m,first,later,rfl,asked,following⟩ := run_bind_some run
    obtain ⟨failed,quiet⟩ := ih middle _ _ m later following
    have one : failure.isSome = (decide (name = "") || first.any failsReference) ∧ serviceReads first = [] := by
      unfold reconcileRef at asked
      split at asked
      next blank =>
        obtain ⟨rfl,-,⟨⟩⟩ := run_return asked
        simp [blank,serviceReads]
      next named =>
        obtain ⟨⟨x,outcome⟩,k,calls,last,rfl,handled,ended⟩ := run_bind_some asked
        have told : outcome.isOk = !calls.any failsReference ∧ ∀ e ∈ calls, e.request.isGetService = false := by
          cases kind with
          | virtualService =>
            exact ⟨run_object_fails .virtualService (routeTarget a port) a x name outcome _ _ calls handled,
              run_uses (uses_object_unread .virtualService _ a name) handled⟩
          | destinationRule =>
            exact ⟨run_object_fails .destinationRule (routeTarget a port) a x name outcome _ _ calls handled,
              run_uses (uses_object_unread .destinationRule _ a name) handled⟩
        cases outcome with
        | error err =>
          obtain ⟨rfl,-,⟨⟩⟩ := run_return ended
          rw [List.append_nil]
          refine ⟨?_,serviceReads_quiet calls told.2⟩
          have lost : calls.any failsReference = true := by simpa [Except.isOk,Except.toBool] using told.1
          simp [lost]
        | ok changed =>
          obtain ⟨rfl,-,⟨⟩⟩ := run_return ended
          rw [List.append_nil]
          refine ⟨?_,serviceReads_quiet calls told.2⟩
          have fine : calls.any failsReference = false := by simpa [Except.isOk,Except.toBool] using told.1
          simp [fine,named]
    refine ⟨?_,by rw [serviceReads_append,one.2,quiet]; rfl⟩
    rw [failed,Option.isSome_or,one.1,List.any_cons,List.any_append]
    simp only [Bool.or_assoc,Bool.or_left_comm]

/-- The references of both kinds, once the port is known. -/
theorem run_routes_fail (a b : KnativeAdoption) (port : Option Int) (err : Option ApiError) (c d : Cluster) (log : CallLog)
    (run : Run apiserver env (do
      let (a,observed,firstErr) ←
        reconcileRefs .virtualService (reconcileVirtualService port) (virtualServiceRefs a) a [] none
      let (a,observed,firstErr) ←
        reconcileRefs .destinationRule reconcileDestinationRule (destinationRuleRefs a) a observed firstErr
      return (setObservedRoutes a observed,firstErr)) c log (some (b,err)) d) :
    err.isSome = ((trafficRefs a).any (fun ref => ref.2 = "") || log.any failsReference) ∧ serviceReads log = [] := by
  obtain ⟨⟨x,seen,failure⟩,m,virtuals,others,rfl,handled,remaining⟩ := run_bind_some run
  obtain ⟨⟨y,more,last⟩,n,rules,final,rfl,ruled,ended⟩ := run_bind_some remaining
  obtain ⟨rfl,-,⟨⟩⟩ := run_return ended
  have face : SameFace a x := run_returns (returns_reconcileRefs trafficAlong_sameFace .virtualService _
    (fun b name => returns_reconcileTrafficObject trafficAlong_sameFace .virtualService _ b name) _ a [] none) handled
  have refs : destinationRuleRefs x = destinationRuleRefs a := by
    unfold destinationRuleRefs istioTraffic
    rw [face.spec]
  obtain ⟨first,silent⟩ := run_refs_fail .virtualService port _ a x [] seen none failure _ _ virtuals handled
  obtain ⟨second,still⟩ := run_refs_fail .destinationRule port _ x y seen more failure _ _ _ rules ruled
  refine ⟨?_,by rw [serviceReads_append,serviceReads_append,silent,still]; rfl⟩
  rw [second,first,refs]
  simp only [trafficRefs,List.any_append,List.any_map,Function.comp_def,List.any_nil,Bool.or_false,Option.isSome_none,
    Bool.false_or,Bool.or_assoc,Bool.or_left_comm]

theorem run_reconcileTraffic_fails (a b : KnativeAdoption) (err : Option ApiError) (enabled : trafficEnabled a = true)
    (c d : Cluster) (front log : CallLog) (answer : Except ApiError Service) (before : serviceReads front = [answer])
    (quiet : front.any failsReference = false)
    (run : Run apiserver env (reconcileTraffic a) c log (some (b,err)) d) : err.isSome = unrouted a (front++log) := by
  unfold reconcileTraffic at run
  rw [if_neg (by simp [enabled])] at run
  unfold unrouted portUnread
  rw [enabled,Bool.true_and,serviceReads_append,before,List.any_append,quiet,Bool.false_or]
  by_cases other : trafficMode a ≠ .inplace
  · rw [if_pos other] at run
    obtain ⟨rfl,-,⟨⟩⟩ := run_return run
    simp [other]
  · rw [if_neg other] at run
    obtain ⟨resolved,m,first,rest,rfl,asked,following⟩ := run_bind_some run
    unfold resolveTrafficTargetServicePort at asked
    obtain ⟨response,at_,fault,k,last,-,-,rfl,resolving⟩ := run_ask asked
    cases response with
    | ok svc =>
      obtain ⟨rfl,rfl,⟨⟩⟩ := run_return resolving
      obtain ⟨ends,silent⟩ := run_routes_fail a b _ err _ _ rest following
      rw [ends,serviceReads_append,silent]
      simp [other,serviceReads,failsReference]
    | error failure =>
      dsimp only at resolving
      cases gone : failure.isNotFound with
      | true =>
        rw [if_pos gone] at resolving
        obtain ⟨rfl,rfl,⟨⟩⟩ := run_return resolving
        obtain ⟨ends,silent⟩ := run_routes_fail a b _ err _ _ rest following
        rw [ends,serviceReads_append,silent]
        simp [other,serviceReads,failsReference,gone]
      | false =>
        rw [if_neg (by simp [gone])] at resolving
        obtain ⟨rfl,rfl,⟨⟩⟩ := run_return resolving
        obtain ⟨rfl,-,⟨⟩⟩ := run_return following
        simp [serviceReads,gone]

/-- The traffic stage ends a pass exactly if its answers and the declaration say so. -/
theorem run_adaptTraffic_fails (a : KnativeAdoption) (adapted : Except Reconciled KnativeAdoption) (c d : Cluster)
    (front log : CallLog) (answer : Except ApiError Service) (before : serviceReads front = [answer])
    (quiet : front.any failsReference = false)
    (run : Run apiserver env (adaptTraffic a) c log (some adapted) d) : adapted.isOk = !unrouted a (front++log) := by
  unfold adaptTraffic at run
  split at run
  next enabled =>
    obtain ⟨⟨b,err⟩,m,first,rest,rfl,reconciled,following⟩ := run_bind_some run
    have fails := run_reconcileTraffic_fails a b err enabled _ _ front first answer before quiet reconciled
    cases err with
    | some err =>
      obtain ⟨rfl,-,⟨⟩⟩ := run_return following
      rw [List.append_nil,← fails]
      rfl
    | none =>
      obtain ⟨rfl,-,⟨⟩⟩ := run_return following
      rw [List.append_nil,← fails]
      rfl
  next disabled =>
    obtain ⟨rfl,-,⟨⟩⟩ := run_return run
    simp [unrouted,disabled,Except.isOk,Except.toBool]

end Traffic

/-! A finished pass, stage by stage. -/

/-- The part of a pass after its guard. -/
def adopts (r : KnativeAdoptionReconciler) (b : KnativeAdoption) (dep : Deployment) : Op Reconciled :=
  match translate dep b with
  | .error err => return { adoption := translationRefused b err }
  | .ok ksvc => adoptTranslated r (removeCondition b .translationDegraded) dep ksvc

theorem quiet_adopts (r : KnativeAdoptionReconciler) (b : KnativeAdoption) (dep : Deployment) :
    (adopts r b dep).Uses (fun q => q.asksPods = false) := by
  unfold adopts
  cases translate dep b with
  | error err => trivial
  | ok ksvc => exact uses_adoptTranslated_quiet r _ dep ksvc

/-- The source is asked for, and what is found is adopted after a round of the guard. -/
inductive Opening (env : Cluster → Cluster → Prop) (r : KnativeAdoptionReconciler) (a : KnativeAdoption) (c d : Cluster) :
    CallLog → Reconciled → Prop
  | unread (before : Cluster) (fault : Fault String) (err : ApiError) (real : err.isNotFound = false) :
      Opening env r a c d [⟨before,fault,.getDeployment (sourceKey a),.error err⟩]
        { adoption := setReady a .false .reconciling err.message, err := some err }
  | missing (before : Cluster) (fault : Fault String) (err : ApiError) (gone : err.isNotFound = true) :
      Opening env r a c d [⟨before,fault,.getDeployment (sourceKey a),.error err⟩]
        { adoption := sourceMissing a, result := ⟨requeueAfterSourceMissing⟩ }
  | found (before m k : Cluster) (fault : Fault String) (dep : Deployment) (filed : dep.key = sourceKey a)
      (b : KnativeAdoption) (guard rest : CallLog) (done : Reconciled)
      (asked : Run apiserver env (getSourceDeployment a) c [⟨before,fault,.getDeployment (sourceKey a),.ok dep⟩]
        (some (.ok (some dep))) m)
      (guarded : Run apiserver env (maybeRunGuard r (removeCondition a .sourceMissing)) m guard (some b) k)
      (adopting : Run apiserver env (adopts r b dep) k rest (some done) d) :
      Opening env r a c d ([⟨before,fault,.getDeployment (sourceKey a),.ok dep⟩]++guard++rest) done

/-- The Service of the adoption's name was asked for and the answer is about this one. -/
structure Asks (a : KnativeAdoption) (e : Event Request Response String Cluster) (found : Option Service) : Prop where
  request : e.request = .getService a.key
  read : serviceFound [e] = some found

theorem calm_reading {parts : List Part} (e : Event Request Response String Cluster) (reads : e.request.part = none) :
    Calm parts [e] := calm_event e (fun part same => by rw [reads] at same; cases same)

theorem Asks.calm {a : KnativeAdoption} {e : Event Request Response String Cluster} {found : Option Service} {parts : List Part}
    (asks : Asks a e found) : Calm parts [e] := calm_reading e (by rw [asks.request]; rfl)

/-- The ends of a translated adoption. -/
inductive Adopting (env : Cluster → Cluster → Prop) (r : KnativeAdoptionReconciler) (b : KnativeAdoption) (dep : Deployment)
    (ksvc : KService) (c d : Cluster) : CallLog → Reconciled → Prop
  | unread (before : Cluster) (fault : Fault String) (err wrapped : ApiError) (real : err.isNotFound = false) :
      Adopting env r b dep ksvc c d [⟨before,fault,.getService b.key,.error err⟩]
        { adoption := setReady b .false .serviceSwapDeleteFail wrapped.message, err := some wrapped }
  | refused (e : Event Request Response String Cluster) (found : Option Service) (asks : Asks b e found) (reason : Reason)
      (msg : String) (verdict : classifyServiceForSwap found = .refused reason msg) :
      Adopting env r b dep ksvc c d [e]
        { adoption := setReady (setCondition (setCondition (setCondition b .serviceAdoptionRefused .true reason msg)
            .serviceAdopted .false reason msg) .adopted .false .serviceSwapTypeRefuse
            "service adoption refused; KSvc not created") .false .serviceSwapTypeRefuse "service adoption refused" }
  | taken (e : Event Request Response String Cluster) (svc : Service) (asks : Asks b e (some svc))
      (verdict : classifyServiceForSwap (some svc) = .takenOver) (before : Cluster) (fault : Fault String)
      (answer : Except ApiError Unit) (gone : ∀ err, answer = .error err → err.isNotFound = true) :
      Adopting env r b dep ksvc c d [e,⟨before,fault,.deleteService svc.key,answer⟩]
        { adoption := snapshotService (serviceSwapping b) svc, result := ⟨requeueAfterServiceSwap⟩ }
  | undeleted (e : Event Request Response String Cluster) (svc : Service) (asks : Asks b e (some svc))
      (verdict : classifyServiceForSwap (some svc) = .takenOver) (before : Cluster) (fault : Fault String)
      (err wrapped : ApiError) (real : err.isNotFound = false) :
      Adopting env r b dep ksvc c d [e,⟨before,fault,.deleteService svc.key,.error err⟩]
        { adoption := setReady (setCondition (snapshotService (serviceSwapping b) svc) .degraded .true .serviceSwapDeleteFail
            wrapped.message) .false .serviceSwapDeleteFail wrapped.message
          err := some wrapped }
  | unrouted (e : Event Request Response String Cluster) (found : Option Service) (asks : Asks b e found)
      (passes : (classifyServiceForSwap found).decision = .pass) (m : Cluster) (traffic : CallLog) (ended : Reconciled)
      (adapting : Run apiserver env (adaptTraffic (removeCondition b .serviceAdoptionRefused)) m traffic
        (some (.error ended)) d) : Adopting env r b dep ksvc c d ([e]++traffic) ended
  | applied (e : Event Request Response String Cluster) (found : Option Service) (asks : Asks b e found)
      (passes : (classifyServiceForSwap found).decision = .pass) (m n : Cluster) (traffic last : CallLog)
      (next : KnativeAdoption) (done : Reconciled)
      (asked : Run apiserver env (swapService b) c [e] (some (removeCondition b .serviceAdoptionRefused,.ok .pass)) m)
      (adapting : Run apiserver env (adaptTraffic (removeCondition b .serviceAdoptionRefused)) m traffic (some (.ok next)) n)
      (applying : Run apiserver env (applyAdopted r next dep ksvc) n last (some done) d) :
      Adopting env r b dep ksvc c d ([e]++(traffic++last)) done

section Stages
variable {env : Cluster → Cluster → Prop}

theorem opening_of_run (r : KnativeAdoptionReconciler) (a : KnativeAdoption) (c d : Cluster) (log : CallLog)
    (done : Reconciled) (run : Run apiserver env (reconcileAdoption r a) c log (some done) d) :
    Opening env r a c d log done := by
  unfold reconcileAdoption at run
  obtain ⟨source,m,first,rest,rfl,asked,following⟩ := run_bind_some run
  cases run_getSourceDeployment a _ _ _ _ asked with
  | missing before fault err gone =>
    obtain ⟨rfl,-,⟨⟩⟩ := run_return following
    exact .missing before fault err gone
  | unread before fault err real =>
    obtain ⟨rfl,-,⟨⟩⟩ := run_return following
    exact .unread before fault err real
  | found before fault dep filed =>
    obtain ⟨b,k,guard,last,rfl,guarded,adopting⟩ := run_bind_some following
    rw [← List.append_assoc]
    exact .found before m k fault dep filed b guard last done asked guarded adopting

theorem swapFound_cases (b x : KnativeAdoption) (found : Option Service) (answer : Except ApiError SwapDecision) (c d : Cluster)
    (log : CallLog) (run : Run apiserver env (swapFound b found) c log (some (x,answer)) d) :
    ((classifyServiceForSwap found).decision = .pass ∧ log = [] ∧ x = removeCondition b .serviceAdoptionRefused ∧ answer = .ok .pass) ∨
    (∃ reason msg, classifyServiceForSwap found = .refused reason msg ∧ log = [] ∧
      x = setCondition (setCondition b .serviceAdoptionRefused .true reason msg) .serviceAdopted .false reason msg ∧
      answer = .ok .refused) ∨
    ∃ svc, found = some svc ∧ classifyServiceForSwap (some svc) = .takenOver ∧ TakenOver b svc log x answer := by
  unfold swapFound at run
  split at run
  next verdict =>
    obtain ⟨rfl,-,⟨⟩⟩ := run_return run
    exact Or.inl ⟨by rw [verdict]; rfl,rfl,rfl,rfl⟩
  next reason msg verdict =>
    obtain ⟨rfl,-,⟨⟩⟩ := run_return run
    exact Or.inr (Or.inl ⟨reason,msg,verdict,rfl,rfl,rfl⟩)
  next verdict =>
    cases found with
    | none => cases verdict
    | some svc => exact Or.inr (Or.inr ⟨svc,rfl,verdict,run_takeOver b x svc answer _ _ log run⟩)

theorem adopting_of_run (r : KnativeAdoptionReconciler) (b : KnativeAdoption) (dep : Deployment) (ksvc : KService)
    (c d : Cluster) (log : CallLog) (done : Reconciled)
    (run : Run apiserver env (adoptTranslated r b dep ksvc) c log (some done) d) : Adopting env r b dep ksvc c d log done := by
  unfold adoptTranslated at run
  obtain ⟨⟨x,answer⟩,m,swap,rest,rfl,swapped,following⟩ := run_bind_some run
  have decided (e : Event Request Response String Cluster) (found : Option Service) (asks : Asks b e found) (later : CallLog)
      (s t : Cluster) (whole : swap = [e]++later)
      (acting : Run apiserver env (swapFound b found) s later (some (x,answer)) t) :
      Adopting env r b dep ksvc c d (swap++rest) done := by
    subst whole
    rcases swapFound_cases b x found answer _ _ later acting with
      ⟨passes,rfl,rfl,rfl⟩ | ⟨reason,msg,verdict,rfl,rfl,rfl⟩ | ⟨svc,rfl,verdict,taken⟩
    · obtain ⟨adapted,n,traffic,last,rfl,adapting,ended⟩ := run_bind_some following
      cases adapted with
      | error failure =>
        obtain ⟨rfl,rfl,⟨⟩⟩ := run_return ended
        rw [List.append_nil,List.append_nil]
        exact .unrouted e found asks passes m traffic _ adapting
      | ok next => exact .applied e found asks passes m n traffic last next done swapped adapting ended
    · obtain ⟨rfl,rfl,⟨⟩⟩ := run_return following
      exact .refused e found asks reason msg verdict
    · cases taken with
      | gone before fault reply missing =>
        obtain ⟨rfl,rfl,⟨⟩⟩ := run_return following
        exact .taken e svc asks verdict before fault reply missing
      | kept before fault err wrapped real =>
        obtain ⟨rfl,rfl,⟨⟩⟩ := run_return following
        exact .undeleted e svc asks verdict before fault err wrapped real
  cases swapService_asks b x answer c m swap swapped with
  | found before s t fault svc later acting => exact decided _ (some svc) ⟨rfl,rfl⟩ later s t rfl acting
  | missing before s t fault err gone later acting =>
    exact decided _ none ⟨rfl,by simp [serviceFound,serviceReads,gone]⟩ later s t rfl acting
  | unread before fault err real same failed =>
    subst same failed
    obtain ⟨rfl,rfl,⟨⟩⟩ := run_return following
    exact .unread before fault err _ real

/-- The calls before the swap. -/
structure Opened (a b : KnativeAdoption) (dep : Deployment) (front : CallLog) : Prop where
  source : sourceRead front = some (.ok dep)
  object : SameObject a b
  unasked : serviceReads front = []
  routeless : front.any failsReference = false
  calm : Calm [] front

theorem opened_of_guard (r : KnativeAdoptionReconciler) (a b : KnativeAdoption) (before c d : Cluster) (fault : Fault String)
    (dep : Deployment) (guard : CallLog)
    (run : Run apiserver env (maybeRunGuard r (removeCondition a .sourceMissing)) c guard (some b) d) :
    Opened a b dep ([⟨before,fault,.getDeployment (sourceKey a),.ok dep⟩]++guard) := by
  have moved := run_returns (returns_maybeRunGuard guardAlong_sameLedger r (removeCondition a .sourceMissing)) run
  have calls := run_uses (uses_maybeRunGuard r _) run
  refine ⟨rfl,⟨moved.metadata,moved.spec⟩,?_,?_,?_⟩
  · rw [serviceReads_append,serviceReads_quiet guard (fun e member => ?_)]
    · rfl
    have call := calls e member
    obtain ⟨at_,failed,request,answer⟩ := e
    cases call <;> rfl
  · rw [List.any_append,any_failsReference guard (fun e member => ?_)]
    · rfl
    have call := calls e member
    obtain ⟨at_,failed,request,answer⟩ := e
    cases call <;> rfl
  · exact (calm_reading _ rfl).append (calm_run (within_maybeRunGuard r _) run)

/-- What the translation rejects depends on the specification only. -/
theorem translate_rejected (a b : KnativeAdoption) (same : b.spec = a.spec) (dep : Deployment) (err : TranslateError) :
    translate dep b = .error err ↔ translate dep a = .error err := by
  have picked : pickPrimaryContainer dep b = pickPrimaryContainer dep a := by
    unfold pickPrimaryContainer
    rw [same]
  unfold translate
  rw [picked]
  cases guardPodSpec dep.spec.template with
  | error err => rfl
  | ok checked =>
    cases pickPrimaryContainer dep a with
    | error err => rfl
    | ok primary =>
      cases port : pickUserPort primary with
      | error err => simp [port,bind,Except.bind]
      | ok number => simp [port,bind,Except.bind,pure,Except.pure]

theorem unrouted_spec (a b : KnativeAdoption) (same : b.spec = a.spec) (log : CallLog) : unrouted b log = unrouted a log := by
  unfold unrouted trafficEnabled trafficMode trafficRefs virtualServiceRefs destinationRuleRefs istioTraffic
  rw [same]

theorem turn_sourceUnread (a : KnativeAdoption) (before : Cluster) (fault : Fault String) (err : ApiError)
    (real : err.isNotFound = false) :
    turn a [⟨before,fault,.getDeployment (sourceKey a),.error err⟩] = .sourceUnread := by
  simp [turn,sourceRead,real]

theorem turn_sourceMissing (a : KnativeAdoption) (before : Cluster) (fault : Fault String) (err : ApiError)
    (gone : err.isNotFound = true) :
    turn a [⟨before,fault,.getDeployment (sourceKey a),.error err⟩] = .sourceMissing := by
  simp [turn,sourceRead,gone]

section Exits
variable {a b : KnativeAdoption} {dep : Deployment} {front : CallLog} (opened : Opened a b dep front)
include opened

theorem Opened.turn_rejected (err : TranslateError) (rejected : translate dep b = .error err) :
    turn a front = .untranslated := by
  unfold turn
  simp only [opened.source,(translate_rejected a b opened.object.spec dep err).mp rejected]

variable (ksvc : KService) (accepted : translate dep b = .ok ksvc)
include accepted

theorem Opened.turn_translated (log : CallLog) : turn a (front++log) = turnAtService a (front++log) (serviceFound log) := by
  have found : serviceFound (front++log) = serviceFound log := by
    unfold serviceFound
    rw [serviceReads_append,opened.unasked,List.nil_append]
  unfold turn
  rw [sourceRead_append _ _ _ opened.source,found]
  dsimp only
  cases own : translate dep a with
  | error err => cases accepted.symm.trans ((translate_rejected a b opened.object.spec dep err).mpr own)
  | ok other => rfl

theorem Opened.turn_unread (before : Cluster) (fault : Fault String) (key : NamespacedName) (err : ApiError)
    (real : err.isNotFound = false) : turn a (front++[⟨before,fault,.getService key,.error err⟩]) = .serviceUnread := by
  have unread : serviceFound [⟨before,fault,.getService key,.error err⟩] = none := by
    simp [serviceFound,serviceReads,real]
  rw [opened.turn_translated ksvc accepted,unread]
  rfl

variable {e : Event Request Response String Cluster} {found : Option Service}
  (asks : Asks (removeCondition b .translationDegraded) e found)
include asks

theorem Opened.turn_refused (reason : Reason) (msg : String) (verdict : classifyServiceForSwap found = .refused reason msg) :
    turn a (front++[e]) = .serviceRefused := by
  rw [opened.turn_translated ksvc accepted,asks.read,turnAtService,verdict]
  rfl

theorem Opened.turn_taken (verdict : classifyServiceForSwap found = .takenOver)
    (deletion : Event Request Response String Cluster) : turn a (front++[e,deletion]) = .serviceTakenOver := by
  have read : serviceFound [e,deletion] = some found := serviceFound_append [e] [deletion] found asks.read
  rw [opened.turn_translated ksvc accepted,read,turnAtService,verdict]
  rfl

/-- The traffic stage after a Service that is let pass. -/
theorem Opened.turn_routed (passes : (classifyServiceForSwap found).decision = .pass) {c d : Cluster} {traffic : CallLog}
    {adapted : Except Reconciled KnativeAdoption}
    (adapting : Run apiserver env (adaptTraffic (removeCondition (removeCondition b .translationDegraded)
      .serviceAdoptionRefused)) c traffic (some adapted) d)
    (last : CallLog) (unasked : serviceReads last = []) (routeless : last.any failsReference = false) :
    turn a (front++([e]++(traffic++last))) = if adapted.isOk then .applied else .unrouted := by
  obtain ⟨before,fault,request,answer⟩ := e
  obtain ⟨request,read⟩ := asks
  subst request
  have fails := run_adaptTraffic_fails _ adapted _ _ (front++[⟨before,fault,_,answer⟩]) traffic answer
    (by rw [serviceReads_append,opened.unasked]; rfl) (by rw [List.any_append,opened.routeless]; rfl) adapting
  rw [unrouted_spec a (removeCondition (removeCondition b .translationDegraded) .serviceAdoptionRefused)
    opened.object.spec] at fails
  have same : unrouted a (front++([⟨before,fault,_,answer⟩]++(traffic++last))) =
      unrouted a (front++[⟨before,fault,_,answer⟩]++traffic) := by
    unfold unrouted portUnread
    simp only [serviceReads_append,List.any_append,unasked,routeless,List.append_nil,Bool.or_false,List.append_assoc,
      Bool.or_assoc]
  rw [opened.turn_translated ksvc accepted,serviceFound_append _ _ found read]
  unfold turnAtService
  simp only [passes,same,fails]
  cases unrouted a (front++[⟨before,fault,_,answer⟩]++traffic) <;> rfl

end Exits

/-! The adoption and the calls of a pass that got through its traffic stage. -/

section Routed
variable {a b next : KnativeAdoption} {dep : Deployment} {front traffic : CallLog} (opened : Opened a b dep front)
  {e : Event Request Response String Cluster} {found : Option Service} {c d : Cluster}
include opened

theorem Opened.object_routed (adapting : Run apiserver env (adaptTraffic (removeCondition (removeCondition b .translationDegraded)
    .serviceAdoptionRefused)) c traffic (some (.ok next)) d) : SameObject a next := by
  have moved : SameObject (removeCondition (removeCondition b .translationDegraded) .serviceAdoptionRefused) next :=
    run_returns (returns_adaptTraffic along_sameObject.moves _) adapting
  exact ⟨moved.metadata.trans opened.object.metadata,moved.spec.trans opened.object.spec⟩

theorem Opened.calm_routed (asks : Asks (removeCondition b .translationDegraded) e found) {x : KnativeAdoption}
    {out : Option (Except Reconciled KnativeAdoption)} (adapting : Run apiserver env (adaptTraffic x) c traffic out d) :
    Calm [.traffic] (front++([e]++traffic)) :=
  (opened.calm.mono (by simp)).append (asks.calm.append (calm_run (within_adaptTraffic _) adapting))

end Routed

theorem SameObject.ns_filed {a b : KnativeAdoption} (object : SameObject a b) {ksvc : KService} (filed : ksvc.key = sourceKey a) :
    b.ns = ksvc.ns :=
  (congrArg ObjectMeta.ns object.metadata).trans (congrArg NamespacedName.ns filed).symm

/-! What a pass writes. -/

/-- The pass turns off before it writes a Deployment, a Service or a Knative Service. -/
def Exit.stops : Exit → Bool
  | .serviceTakenOver => false
  | .applied => false
  | _ => true

/-- What a finished pass wrote, by where it turned off. -/
inductive Wrote (env : Cluster → Cluster → Prop) (a : KnativeAdoption) (c : Cluster) : Exit → CallLog → Prop
  | nothing (off : Exit) (log : CallLog) (stops : off.stops = true) (calm : Calm [.adoptions,.traffic] log) : Wrote env a c off log
  | deleted (front : CallLog) (before : Cluster) (fault : Fault String) (key : NamespacedName) (answer : Except ApiError Unit)
      (calm : Calm [] front) : Wrote env a c .serviceTakenOver (front++[⟨before,fault,.deleteService key,answer⟩])
  | applied (front tail : CallLog) (before : Cluster) (fault : Fault String) (sent : KService) (answer : Except ApiError Unit)
      (key : sent.key = sourceKey a) (owner : sent.ownerReferences = [ownerReferenceOf a])
      (others : ∀ e ∈ front++tail, e.request.part ≠ some .ksvcs)
      (reached : (∀ s t, env s t → t.ksvcs = s.ksvcs) → before.ksvcs = c.ksvcs) :
      Wrote env a c .applied (front++(⟨before,fault,.applyKService sent,answer⟩::tail))

theorem run_applyAdopted_sends (r : KnativeAdoptionReconciler) (a : KnativeAdoption) (dep : Deployment) (ksvc : KService)
    (together : a.ns = ksvc.ns) (c d : Cluster) (log : CallLog) (done : Reconciled)
    (run : Run apiserver env (applyAdopted r a dep ksvc) c log (some done) d) :
    ∃ before fault answer tail, env c before ∧
      log = ⟨before,fault,.applyKService { ksvc with ownerReferences := [ownerReferenceOf a] },answer⟩::tail ∧
      ∀ e ∈ tail, e.request.ofEnding = true := by
  unfold applyAdopted setControllerReference at run
  rw [if_neg (not_not.mpr together)] at run
  dsimp only at run
  obtain ⟨outcome,m,first,rest,rfl,applying,ended⟩ := run_bind_some run
  unfold applyKnativeService at applying
  obtain ⟨answer,before,fault,k,none,moved,-,rfl,wrapping⟩ := run_ask applying
  refine ⟨before,fault,answer,none++rest,moved,rfl,fun e member => ?_⟩
  cases answer with
  | error err =>
    obtain ⟨rfl,-,⟨⟩⟩ := run_return wrapping
    obtain ⟨rfl,-,-⟩ := run_pure ended
    exact absurd member List.not_mem_nil
  | ok stored =>
    obtain ⟨rfl,-,⟨⟩⟩ := run_return wrapping
    exact run_uses (uses_awaitKService r _ dep _) ended e member

theorem serviceReads_ending (log : CallLog) (ending : ∀ e ∈ log, e.request.ofEnding = true) :
    serviceReads log = [] ∧ log.any failsReference = false ∧ ∀ e ∈ log, e.request.part ≠ some .ksvcs := by
  have quiet (e : Event Request Response String Cluster) (last : e.request.ofEnding = true) :
      e.request.isGetService = false ∧ e.request.ofTraffic = false ∧ e.request.part ≠ some .ksvcs := by
    obtain ⟨before,fault,request,answer⟩ := e
    cases request with
    | getKService key => exact ⟨rfl,rfl,nofun⟩
    | applyReplicas key n => exact ⟨rfl,rfl,nofun⟩
    | _ => cases last
  exact ⟨serviceReads_quiet log (fun e member => (quiet e (ending e member)).1),
    any_failsReference log (fun e member => (quiet e (ending e member)).2.1),
    fun e member => (quiet e (ending e member)).2.2⟩

theorem Opened.wrote_applied {a b : KnativeAdoption} {dep : Deployment} {front : CallLog} (opened : Opened a b dep front)
    (r : KnativeAdoptionReconciler) (ksvc : KService) (accepted : translate dep b = .ok ksvc) (filed : ksvc.key = sourceKey a)
    {e : Event Request Response String Cluster} {found : Option Service}
    (asks : Asks (removeCondition b .translationDegraded) e found) (passes : (classifyServiceForSwap found).decision = .pass)
    {c k m n d : Cluster} {traffic last : CallLog} {x next : KnativeAdoption} {answer : Except ApiError SwapDecision}
    {done : Reconciled}
    (swapping : Run apiserver env (swapService (removeCondition b .translationDegraded)) k [e] (some (x,answer)) m)
    (adapting : Run apiserver env (adaptTraffic (removeCondition (removeCondition b .translationDegraded)
      .serviceAdoptionRefused)) m traffic (some (.ok next)) n)
    (applying : Run apiserver env (applyAdopted r next dep ksvc) n last (some done) d)
    (kept : (∀ s t, env s t → t.ksvcs = s.ksvcs) → k.ksvcs = c.ksvcs) :
    Wrote env a c (turn a (front++([e]++(traffic++last)))) (front++([e]++(traffic++last))) := by
  have object := opened.object_routed adapting
  obtain ⟨before,fault,answer,tail,here,rfl,ending⟩ := run_applyAdopted_sends r next dep ksvc (object.ns_filed filed) _ _ last done
    applying
  obtain ⟨unasked,routeless,unsent⟩ := serviceReads_ending tail ending
  -- the apply is neither a question for a Service nor about a traffic object
  have off := opened.turn_routed ksvc accepted asks passes adapting
    (⟨before,fault,.applyKService { ksvc with ownerReferences := [ownerReferenceOf next] },answer⟩::tail) unasked routeless
  have whole (log : CallLog) : front++([e]++(traffic++log)) = (front++([e]++traffic))++log := by simp
  rw [off,whole]
  refine .applied _ tail before fault _ answer filed (by rw [ownerReferenceOf_same a next object.metadata])
    (fun event member stored => ?_) (fun steady => ?_)
  · rcases List.mem_append.mp member with first | later
    · exact absurd (opened.calm_routed asks adapting event first _ stored) (by simp)
    · exact unsent event later stored
  · have swap := run_same .ksvcs steady (within_swapService _) (by simp) swapping
    have adapt := run_same .ksvcs steady (within_adaptTraffic _) (by simp) adapting
    exact ((steady _ _ here).trans adapt).trans (Eq.trans swap (kept steady))

theorem wrote_of_run (r : KnativeAdoptionReconciler) (a : KnativeAdoption) (c d : Cluster) (log : CallLog) (done : Reconciled)
    (run : Run apiserver env (reconcileAdoption r a) c log (some done) d) : Wrote env a c (turn a log) log := by
  cases opening_of_run r a c d log done run with
  | unread before fault err real =>
    rw [turn_sourceUnread a before fault err real]
    exact .nothing _ _ rfl (calm_reading _ rfl)
  | missing before fault err gone =>
    rw [turn_sourceMissing a before fault err gone]
    exact .nothing _ _ rfl (calm_reading _ rfl)
  | found before m k fault dep filed b guard rest done asked guarded adopting =>
    have opened := opened_of_guard r a b before m k fault dep guard guarded
    unfold adopts at adopting
    cases translated : translate dep b with
    | error err =>
      rw [translated] at adopting
      obtain ⟨rfl,-,-⟩ := run_pure adopting
      rw [List.append_nil,opened.turn_rejected err translated]
      exact .nothing _ _ rfl (opened.calm.mono (by simp))
    | ok ksvc =>
      rw [translated] at adopting
      generalize front : ([⟨before,fault,.getDeployment (sourceKey a),.ok dep⟩]++guard : CallLog) = prior at opened ⊢
      have split (e call : Event Request Response String Cluster) : prior++[e,call] = (prior++[e])++[call] :=
        (List.append_assoc prior [e] [call]).symm
      cases adopting_of_run r _ dep ksvc _ _ rest done adopting with
      | unread before fault err wrapped real =>
        rw [opened.turn_unread ksvc translated before fault _ err real]
        exact .nothing _ _ rfl ((opened.calm.append (calm_reading _ rfl)).mono (by simp))
      | refused e found asks reason msg verdict =>
        rw [opened.turn_refused ksvc translated asks reason msg verdict]
        exact .nothing _ _ rfl ((opened.calm.append asks.calm).mono (by simp))
      | taken e svc asks verdict before fault answer gone =>
        rw [opened.turn_taken ksvc translated asks verdict,split]
        exact .deleted _ before fault _ answer (opened.calm.append asks.calm)
      | undeleted e svc asks verdict before fault err wrapped real =>
        rw [opened.turn_taken ksvc translated asks verdict,split]
        exact .deleted _ before fault _ _ (opened.calm.append asks.calm)
      | unrouted e found asks passes n traffic ended adapting =>
        have off := opened.turn_routed ksvc translated asks passes adapting [] rfl rfl
        rw [List.append_nil] at off
        rw [off]
        exact .nothing _ _ rfl ((opened.calm_routed asks adapting).mono (by simp))
      | applied e found asks passes n o traffic last next done swapping adapting applying =>
        refine opened.wrote_applied r ksvc translated ((translate_key dep b ksvc translated).trans filed) asks passes swapping
          adapting applying (fun steady => ?_)
        have source := run_same .ksvcs steady (within_getSourceDeployment a) (by simp) asked
        have guard := run_same .ksvcs steady (within_maybeRunGuard r _) (by simp) guarded
        exact Eq.trans guard source

end Stages

end Ifaas
