import Ifaas.Pipeline
import Ifaas.TrafficStored

/-! The traffic stage object by object. The calls of a run fall into parts, one for each
declared reference; what is observed of a reference is told by its own part, and an
object whose reference did not fail ends in its rewritten form. -/
namespace Ifaas
open Library

def routeTarget (a : KnativeAdoption) (port : Option Int) : RouteTarget :=
  ⟨sourceName a,a.ns,specTrafficServicePort a,port⟩

/-- The declared references in the order they are reconciled. -/
def trafficRefs (a : KnativeAdoption) : List (TrafficKind × String) :=
  (virtualServiceRefs a).map (fun name => (.virtualService,name)) ++
    (destinationRuleRefs a).map (fun name => (.destinationRule,name))

def observedRoutes (a : KnativeAdoption) : List ObservedRoute :=
  match a.status.traffic with
  | none => []
  | some traffic => traffic.observedRoutes

/-- One reference with the calls made for it. -/
structure RefReport where
  kind : TrafficKind
  name : String
  calls : CallLog

namespace RefReport
variable (t : RouteTarget)

def key (r : RefReport) : TrafficKey := ⟨r.kind,⟨t.ns,r.name⟩⟩

def label (r : RefReport) : String := r.kind.text ++ " " ++ t.ns ++ "/" ++ r.name

/-- What the reference failed with, if it did: an empty name, or the get, the rewrite
or the patch of its own calls. The snapshot of a stored object does not fail, since
its spec is absent or an object. -/
def error (r : RefReport) : Option ApiError :=
  if r.name = "" then some (.text (emptyRefMessage r.kind))
  else
    match r.calls with
    | [⟨_,_,.getTraffic _,.error err⟩] => some (err.wrap ("get " ++ r.label t))
    | [⟨_,_,.getTraffic _,.ok obj⟩] =>
      match rewriteOf r.kind t (obj.body.map Literal.read) with
      | .error err => some (err.wrap ("reconcile " ++ r.label t))
      | .ok _ => none
    | [_,⟨_,_,.patchTraffic _ _,.error err⟩] => some (err.wrap ("patch " ++ r.label t))
    | _ => none

def route (r : RefReport) : ObservedRoute :=
  match r.error t with
  | some err => ⟨.object r.kind,r.name,some false,err.message⟩
  | none => ⟨.object r.kind,r.name,some true,
      if r.calls.length = 2 then changedMessage r.kind else "already converged"⟩

/-- The calls of a reference get and patch its own object. -/
def Own (r : RefReport) : Prop :=
  ∀ e ∈ r.calls, r.name ≠ "" ∧
    (e.request = .getTraffic (r.key t) ∨ ∃ patch, e.request = .patchTraffic (r.key t) patch)

theorem own_get (kind : TrafficKind) (name : String) (named : name ≠ "") (e : Event Request Response String Cluster)
    (asked : e.request = .getTraffic ⟨kind,⟨t.ns,name⟩⟩) : Own t ⟨kind,name,[e]⟩ := by
  intro e' member
  rw [List.mem_singleton.mp member]
  exact ⟨named,Or.inl asked⟩

variable {t} in
theorem Own.patched {kind : TrafficKind} {name : String} {calls : CallLog} (own : Own t ⟨kind,name,calls⟩) (e : Event Request Response String Cluster)
    (named : name ≠ "") (patch : Obj Literal) (asked : e.request = .patchTraffic ⟨kind,⟨t.ns,name⟩⟩ patch) :
    Own t ⟨kind,name,calls++[e]⟩ := by
  intro e' member
  rcases List.mem_append.mp member with before | last
  · exact own e' before
  · rw [List.mem_singleton.mp last]
    exact ⟨named,Or.inr ⟨patch,asked⟩⟩

end RefReport

/-- The object stands in the rewritten form of what it was. -/
def Done (t : RouteTarget) (c : Cluster) (key : TrafficKey) (d : Cluster) : Prop :=
  ∃ o stored, c.traffic.get key = some o ∧ Rewritten t o stored ∧ d.traffic.get key = some stored

/-- Every object is what it was or in the rewritten form of that. -/
def Partway (t : RouteTarget) (c d : Cluster) : Prop :=
  ∀ key, d.traffic.get key = c.traffic.get key ∨ Done t c key d

/-- What handling one object does to the store. -/
inductive ObjectStep (t : RouteTarget) (key : TrafficKey) (c d : Cluster) : Prop
  | same (still : d.traffic = c.traffic)
  | rewritten (o stored : TrafficObject) (held : c.traffic.get key = some o) (form : Rewritten t o stored)
      (written : d.traffic = c.traffic.put stored)

section Steps
variable {t : RouteTarget} {key : TrafficKey} {c m d : Cluster}

theorem ObjectStep.rebase (same : m.traffic = c.traffic) (step : ObjectStep t key m d) : ObjectStep t key c d := by
  cases step with
  | same still => exact .same (still.trans same)
  | rewritten o stored held form written => exact .rewritten o stored (same ▸ held) form (same ▸ written)

theorem Done.rebase (same : m.traffic = c.traffic) (done : Done t m key d) : Done t c key d := by
  unfold Done at done
  rwa [same] at done

theorem ObjectStep.other (step : ObjectStep t key c d) (other : TrafficKey) (apart : other ≠ key) :
    d.traffic.get other = c.traffic.get other := by
  cases step with
  | same still => rw [still]
  | rewritten o stored held form written =>
    have filed : stored.key = key := form.key.trans (c.traffic.keyed _ _ held)
    rw [written,Store.get_put,if_neg (fun equal => apart (equal.trans filed))]

/-- An object that is done stays as it is. -/
theorem Done.step (narrow : t.Narrow) (step : ObjectStep t key m d) (other : TrafficKey) (done : Done t c other m) :
    Done t c other d := by
  obtain ⟨o,stored,held,form,found⟩ := done
  refine ⟨o,stored,held,form,?_⟩
  by_cases here : other = key
  · subst here
    cases step with
    | same still => rw [still]; exact found
    | rewritten o' next held' form' written =>
      cases found.symm.trans held'
      have filed : stored.key = other := m.traffic.keyed _ _ found
      rw [written,rewritten_unique t narrow o stored next form form',Store.get_put,if_pos filed.symm]
  · rw [step.other other here]
    exact found

/-- Done from halfway is done from the start. -/
theorem Done.back (narrow : t.Narrow) (before : Partway t c m) (done : Done t m key d) : Done t c key d := by
  obtain ⟨o,stored,held,form,found⟩ := done
  rcases before key with same | ⟨first,middle,start,form',found'⟩
  · exact ⟨o,stored,same.symm.trans held,form,found⟩
  · cases found'.symm.trans held
    rw [rewritten_unique t narrow first o stored form' form] at found
    exact ⟨first,o,start,form',found⟩

theorem Partway.step (narrow : t.Narrow) (step : ObjectStep t key m d) (before : Partway t c m) : Partway t c d := by
  intro other
  rcases before other with same | done
  · by_cases here : other = key
    · subst here
      cases step with
      | same still => exact Or.inl (by rw [still]; exact same)
      | rewritten o stored held form written =>
        have filed : stored.key = other := form.key.trans (m.traffic.keyed _ _ held)
        refine Or.inr ⟨o,stored,same.symm.trans held,form,?_⟩
        rw [written,Store.get_put,if_pos filed.symm]
    · exact Or.inl ((step.other other here).trans same)
  · exact Or.inr (done.step narrow step other)

end Steps

/-! One reference. -/

/-- What handling one reference comes to. -/
structure Handled (t : RouteTarget) (r : RefReport) (c d : Cluster) (err : Option ApiError) : Prop where
  own : r.Own t
  step : ObjectStep t (r.key t) c d
  unnamed : r.name = "" → d.traffic = c.traffic
  error : r.error t = err
  done : err = none → Done t c (r.key t) d

section Object
variable {t : RouteTarget} {kind : TrafficKind} {name : String}

theorem serve_rewriting (fault : Fault String) (c : Cluster) (o : TrafficObject) (result : Obj GoNumber) (changed : Bool)
    (held : c.traffic.get o.key = some o) (done : rewriteOf o.key.kind t (o.body.map Literal.read) = .ok (result,changed)) :
    let served := apiserver.serve fault c (.patchTraffic o.key (mergePatchFrom (o.body.map Literal.read) result))
    ObjectStep t o.key c served.1 ∧ (served.2 = .ok () → Done t c o.key served.1) := by
  obtain ⟨stored,form,effect⟩ := patchTraffic_rewrites c t o result changed held done
  have wrote : ObjectStep t o.key c { c with traffic := c.traffic.put stored } := .rewritten o stored held form rfl
  have there : Done t c o.key { c with traffic := c.traffic.put stored } :=
    ⟨o,stored,held,form,by rw [← form.key]; exact Store.get_put_same _ _⟩
  cases fault with
  | none =>
    rw [show apiserver.serve .none c (.patchTraffic o.key (mergePatchFrom (o.body.map Literal.read) result)) = _ from effect]
    exact ⟨wrote,fun _ => there⟩
  | refused message => exact ⟨.same rfl,nofun⟩
  | lost message =>
    refine ⟨?_,nofun⟩
    change ObjectStep t o.key c (c.patchTraffic o.key (mergePatchFrom (o.body.map Literal.read) result)).1
    rw [effect]
    exact wrote

variable {drift : Cluster → Cluster → Prop} (still : ∀ c d, drift c d → d.traffic = c.traffic)
include still

theorem ensures_object (a : KnativeAdoption) (named : name ≠ "") (ns : a.ns = t.ns) (c : Cluster) :
    Ensures apiserver drift (fun _ _ => True) (reconcileTrafficObject kind (snapshotTrafficOnce kind) (rewriteOf kind t) a name)
      (fun result d log => SameFace a result.1 ∧
        match result.2 with
        | .error err => Handled t ⟨kind,name,log⟩ c d (some err)
        | .ok changed => Handled t ⟨kind,name,log⟩ c d none ∧ (changed = true ↔ log.length = 2)) c [] := by
  unfold reconcileTrafficObject
  rw [ns]
  refine ensures_ask trivial (fun m fault moved => ?_)
  have own := RefReport.own_get t kind name named (apiserver.event fault m (.getTraffic ⟨kind,⟨t.ns,name⟩⟩)) rfl
  have unread : (apiserver.serve fault m (.getTraffic ⟨kind,⟨t.ns,name⟩⟩)).1 = m := serve_read _ rfl
  have same : m.traffic = c.traffic := still _ _ moved
  rw [unread,List.nil_append]
  cases answer : (apiserver.serve fault m (.getTraffic ⟨kind,⟨t.ns,name⟩⟩)).2 with
  | error err =>
    rw [apiserver.event_answered answer] at own ⊢
    refine ensures_pure trivial ⟨.refl a,own,.same same,fun _ => same,?_,nofun⟩
    simp [RefReport.error,named,RefReport.label]
  | ok obj =>
    rw [apiserver.event_answered answer] at own ⊢
    have held := getTraffic_ok answer
    have filed : obj.key = ⟨kind,⟨t.ns,name⟩⟩ := m.traffic.keyed _ _ held
    have face := sameFace_snapshotTrafficOnce kind a name (obj.body.map Literal.read)
    have taken := snapshotTrafficOnce_taken kind a name obj
    dsimp only
    generalize snapshotTrafficOnce kind a name (obj.body.map Literal.read) = pair at face taken ⊢
    obtain ⟨b,outcome⟩ := pair
    subst taken
    dsimp only
    cases rewrote : rewriteOf kind t (obj.body.map Literal.read) with
    | error err =>
      refine ensures_pure trivial ⟨face,own,.same same,fun _ => same,?_,nofun⟩
      simp [RefReport.error,named,RefReport.label,rewrote]
    | ok value =>
      obtain ⟨result,changed⟩ := value
      have done : rewriteOf obj.key.kind t (obj.body.map Literal.read) = .ok (result,changed) := by
        rw [filed]
        exact rewrote
      cases changed with
      | false =>
        refine ensures_pure trivial ⟨face,⟨own,.same same,fun _ => same,?_,fun _ => ?_⟩,by simp⟩
        · simp [RefReport.error,named,rewrote]
        · exact Done.rebase same ⟨obj,obj,held,rewritten_self t obj result done,held⟩
      | true =>
        refine ensures_ask trivial (fun e fault' moved' => ?_)
        have origin : e.traffic = c.traffic := (still _ _ moved').trans same
        have found : e.traffic.get obj.key = some obj := by
          rw [still _ _ moved',filed]
          exact held
        obtain ⟨step,there⟩ := serve_rewriting (t := t) fault' e obj result true found done
        rw [filed] at step there
        have both := own.patched (apiserver.event fault' e (.patchTraffic ⟨kind,⟨t.ns,name⟩⟩
          (mergePatchFrom (obj.body.map Literal.read) result))) named _ rfl
        cases reply : (apiserver.serve fault' e (.patchTraffic ⟨kind,⟨t.ns,name⟩⟩
            (mergePatchFrom (obj.body.map Literal.read) result))).2 with
        | error err =>
          rw [apiserver.event_answered reply] at both ⊢
          refine ensures_pure trivial ⟨face,both,step.rebase origin,fun blank => absurd blank named,?_,nofun⟩
          simp [RefReport.error,named,RefReport.label]
        | ok accepted =>
          rw [apiserver.event_answered reply] at both ⊢
          refine ensures_pure trivial ⟨face,⟨both,step.rebase origin,fun blank => absurd blank named,?_,
            fun _ => (there reply).rebase origin⟩,by simp⟩
          simp [RefReport.error,named]

end Object

/-! All references. -/

/-- References handled one after the other. -/
def HandledAll (t : RouteTarget) : List RefReport → Cluster → Cluster → Prop
  | [],c,d => d = c
  | r::rest,c,d => ∃ m, Handled t r c m (r.error t) ∧ HandledAll t rest m d

section All
variable {t : RouteTarget}

theorem handledAll_append (first second : List RefReport) (c m d : Cluster) (before : HandledAll t first c m)
    (after : HandledAll t second m d) : HandledAll t (first++second) c d := by
  induction first generalizing c with
  | nil =>
    cases before
    exact after
  | cons r rest ih =>
    obtain ⟨k,handled,remaining⟩ := before
    exact ⟨k,handled,ih k remaining⟩

/-- Whatever is done before or by a reference is done at the end. -/
theorem handledAll_done (narrow : t.Narrow) (reports : List RefReport) (c m d : Cluster) (before : Partway t c m)
    (all : HandledAll t reports m d) :
    (∀ key, Done t c key m → Done t c key d) ∧ ∀ r ∈ reports, r.error t = none → Done t c (r.key t) d := by
  induction reports generalizing m with
  | nil =>
    cases all
    exact ⟨fun _ done => done,fun r member => absurd member List.not_mem_nil⟩
  | cons r rest ih =>
    obtain ⟨k,handled,remaining⟩ := all
    obtain ⟨kept,others⟩ := ih k (before.step narrow handled.step) remaining
    constructor
    · intro key done
      exact kept key (done.step narrow handled.step key)
    · intro other member fine
      rcases List.mem_cons.mp member with rfl | inside
      · exact kept _ ((handled.done fine).back narrow before)
      · exact others other inside fine

theorem handledAll_other (reports : List RefReport) (c d : Cluster) (all : HandledAll t reports c d) (key : TrafficKey)
    (apart : ∀ r ∈ reports, r.name ≠ "" → r.key t ≠ key) : d.traffic.get key = c.traffic.get key := by
  induction reports generalizing c with
  | nil =>
    cases all
    rfl
  | cons r rest ih =>
    obtain ⟨m,handled,remaining⟩ := all
    rw [ih m remaining (fun other member => apart other (List.mem_cons_of_mem _ member))]
    by_cases named : r.name = ""
    · rw [handled.unnamed named]
    · exact handled.step.other key (fun equal => apart r (List.mem_cons_self ..) named equal.symm)

end All

section Loop
variable {drift : Cluster → Cluster → Prop} (still : ∀ c d, drift c d → d.traffic = c.traffic)
variable (kind : TrafficKind) (port : Option Int)

theorem routeTarget_face (a b : KnativeAdoption) (same : SameFace a b) : routeTarget b port = routeTarget a port := by
  unfold routeTarget specTrafficServicePort
  rw [SameObject.sourceName a b same.toSameObject,same.spec,congrArg ObjectMeta.ns same.metadata]

/-- The object step of the loop for one kind. -/
def reconcileKind (kind : TrafficKind) (port : Option Int) (a : KnativeAdoption) (name : String) :
    Op (KnativeAdoption × Except ApiError Bool) :=
  reconcileTrafficObject kind (snapshotTrafficOnce kind) (rewriteOf kind (routeTarget a port)) a name

include still

theorem ensures_ref (a : KnativeAdoption) (name : String) (c : Cluster) :
    Ensures apiserver drift (fun _ _ => True) (reconcileRef kind (reconcileKind kind port) a name)
      (fun result d log => SameFace a result.1 ∧ result.2.1 = RefReport.route (routeTarget a port) ⟨kind,name,log⟩ ∧
        Handled (routeTarget a port) ⟨kind,name,log⟩ c d result.2.2) c [] := by
  unfold reconcileRef
  split
  next blank =>
    have failed : RefReport.error (routeTarget a port) ⟨kind,name,[]⟩ = some (.text (emptyRefMessage kind)) := if_pos blank
    refine ensures_pure trivial ⟨.refl a,?_,?_⟩
    · rw [RefReport.route,failed,blank]
      rfl
    · exact ⟨fun e member => absurd member List.not_mem_nil,.same rfl,fun _ => rfl,failed,nofun⟩
  next named =>
    refine ensures_bind (ensures_mono (ensures_object still a named rfl c) ?_)
    rintro ⟨b,outcome⟩ d log _ ⟨face,post⟩
    cases outcome with
    | error err =>
      refine ensures_pure trivial ⟨face,?_,post⟩
      rw [RefReport.route,post.error]
      rfl
    | ok changed =>
      obtain ⟨handled,length⟩ := post
      refine ensures_pure trivial ⟨face,?_,handled⟩
      rw [RefReport.route,handled.error]
      simp only [newObservedRoute,length]

theorem run_refs (names : List String) (a b : KnativeAdoption) (c d : Cluster) (observed routes : List ObservedRoute)
    (firstErr err : Option ApiError) (log : CallLog)
    (run : Run apiserver drift (reconcileRefs kind (reconcileKind kind port) names a observed firstErr) c log
      (some (b,routes,err)) d) :
    ∃ reports : List RefReport, reports.map (fun r => (r.kind,r.name)) = names.map (fun name => (kind,name)) ∧
      log = reports.flatMap (fun r => r.calls) ∧ SameFace a b ∧
      routes = observed ++ reports.map (RefReport.route (routeTarget a port)) ∧
      err = firstErr.or (reports.findSome? (RefReport.error (routeTarget a port))) ∧
      HandledAll (routeTarget a port) reports c d := by
  induction names generalizing a c observed firstErr log with
  | nil =>
    obtain ⟨rfl,rfl,⟨⟩⟩ := run_return run
    exact ⟨[],rfl,rfl,.refl _,by simp,by simp,rfl⟩
  | cons name rest ih =>
    obtain ⟨⟨middle,route,failure⟩,m,first,later,rfl,asked,following⟩ := run_bind_some run
    · obtain ⟨face,shown,handled⟩ := (ensures_ref still kind port a name c first _ m asked).2 _ rfl
      rw [List.nil_append] at shown handled
      dsimp only at face shown handled
      obtain ⟨reports,listed,calls,same,observed',failed,all⟩ := ih middle m _ _ later following
      rw [routeTarget_face port a middle face] at observed' failed all
      have error := handled.error
      refine ⟨⟨kind,name,first⟩::reports,?_,?_,SameFace.trans _ _ _ face same,?_,?_,m,?_,all⟩
      · rw [List.map_cons,listed,List.map_cons]
      · rw [List.flatMap_cons,calls]
      · rw [observed',shown,List.map_cons,List.append_assoc]
        rfl
      · rw [failed,List.findSome?_cons,error,Option.or_assoc]
        cases failure <;> simp
      · rw [error]
        exact handled

end Loop

/-- What the traffic stage of an adoption comes to: one report for each reference. -/
structure Isolated (a : KnativeAdoption) (t : RouteTarget) (c : Cluster) (log : CallLog) (b : KnativeAdoption)
    (err : Option ApiError) (d : Cluster) (reports : List RefReport) : Prop where
  refs : reports.map (fun r => (r.kind,r.name)) = trafficRefs a
  calls : log = reports.flatMap (fun r => r.calls)
  own : ∀ r ∈ reports, r.Own t
  observed : observedRoutes b = reports.map (RefReport.route t)
  ready : ∀ r ∈ reports, (r.route t).ready = some (r.error t).isNone
  error : err = reports.findSome? (RefReport.error t)
  nil : err = none ↔ ∀ route ∈ observedRoutes b, route.ready = some true
  rewritten : ∀ r ∈ reports, r.error t = none → Done t c (r.key t) d
  others : ∀ key, (∀ r ∈ reports, r.name ≠ "" → r.key t ≠ key) → d.traffic.get key = c.traffic.get key

theorem ready_route (t : RouteTarget) (r : RefReport) : (r.route t).ready = some (r.error t).isNone := by
  unfold RefReport.route
  cases r.error t <;> rfl

theorem handledAll_own (t : RouteTarget) (reports : List RefReport) (c d : Cluster) (all : HandledAll t reports c d) :
    ∀ r ∈ reports, r.Own t := by
  induction reports generalizing c with
  | nil => exact fun r member => absurd member List.not_mem_nil
  | cons first rest ih =>
    obtain ⟨m,handled,remaining⟩ := all
    intro r member
    rcases List.mem_cons.mp member with rfl | inside
    · exact handled.own
    · exact ih m remaining r inside

theorem observedRoutes_set (a : KnativeAdoption) (routes : List ObservedRoute) :
    observedRoutes (setObservedRoutes a routes) = routes := by
  unfold observedRoutes setObservedRoutes
  cases routes <;> rfl

/-- The port destinations are pointed at: the first of the live Service, or the declared one. -/
def livePort (a : KnativeAdoption) (c : Cluster) : Option Int :=
  ((c.services.get ⟨a.ns,sourceName a⟩).bind firstServicePort).or (specTrafficServicePort a)

section Stage
variable {drift : Cluster → Cluster → Prop}

theorem run_resolve (a : KnativeAdoption) (c m : Cluster) (log : CallLog) (port : Option Int)
    (run : Run apiserver drift (resolveTrafficTargetServicePort a) c log (some (.ok port)) m) :
    drift c m ∧ port = livePort a m := by
  unfold resolveTrafficTargetServicePort at run
  obtain ⟨response,k,before,after,rfl,asked,following⟩ := run_bind_some run
  · obtain ⟨s,fault,moved,_,served⟩ := run_request asked
    have unread : (apiserver.serve fault s (.getService ⟨a.ns,sourceName a⟩)).1 = s := serve_read _ rfl
    have answer : (apiserver.serve fault s (.getService ⟨a.ns,sourceName a⟩)).2 = response := by rw [served]
    rw [served] at unread
    cases unread
    unfold livePort
    cases response with
    | ok svc =>
      obtain ⟨_,rfl,⟨⟩⟩ := run_return following
      rw [getService_ok answer]
      exact ⟨moved,rfl⟩
    | error err =>
      dsimp only at following
      split at following
      next gone =>
        obtain ⟨_,rfl,⟨⟩⟩ := run_return following
        rw [getService_missing answer gone]
        exact ⟨moved,rfl⟩
      next =>
        obtain ⟨_,_,⟨⟩⟩ := run_return following

theorem reconcileTraffic_bind (a : KnativeAdoption) (enabled : trafficEnabled a = true) (inplace : trafficMode a = .inplace) :
    ∃ next, reconcileTraffic a = (resolveTrafficTargetServicePort a >>= next) := by
  unfold reconcileTraffic
  rw [enabled,inplace]
  exact ⟨_,rfl⟩

/-- The stage once the port is known. -/
theorem isolated_of_run (still : ∀ c d, drift c d → d.traffic = c.traffic) (a b : KnativeAdoption)
    (enabled : trafficEnabled a = true) (inplace : trafficMode a = .inplace) (port : Option Int)
    (narrow : ∀ p, port = some p → toInt32 p = p) (c m d : Cluster) (first log : CallLog) (err : Option ApiError)
    (resolved : Run apiserver drift (resolveTrafficTargetServicePort a) c first (some (.ok port)) m)
    (run : Run apiserver drift (reconcileTraffic a) c (first++log) (some (b,err)) d) :
    ∃ reports, Isolated a (routeTarget a port) c log b err d reports := by
  have start : m.traffic = c.traffic := still _ _ (run_resolve a c m first port resolved).1
  unfold reconcileTraffic at run
  rw [enabled,inplace] at run
  have rest := run_bind_rest _ _ _ _ _ _ _ _ _ resolved run
  obtain ⟨⟨a1,observed1,err1⟩,m1,log1,rest1,rfl,loop1,following1⟩ := run_bind_some rest
  obtain ⟨⟨a2,observed2,err2⟩,m2,log2,rest2,rfl,loop2,following2⟩ := run_bind_some following1
  obtain ⟨rfl,rfl,⟨⟩⟩ := run_return following2
  obtain ⟨virtual,listed1,calls1,face1,shown1,failed1,all1⟩ :=
    run_refs still .virtualService port _ _ _ _ _ _ _ _ _ _ loop1
  obtain ⟨rules,listed2,calls2,face2,shown2,failed2,all2⟩ :=
    run_refs still .destinationRule port _ _ _ _ _ _ _ _ _ _ loop2
  have declared : destinationRuleRefs a1 = destinationRuleRefs a := by
    unfold destinationRuleRefs istioTraffic
    rw [face1.spec]
  rw [routeTarget_face port a a1 face1] at shown2 failed2 all2
  have short : (routeTarget a port).Narrow := narrow
  generalize routeTarget a port = t at *
  have all : HandledAll t (virtual++rules) m d := handledAll_append _ _ _ _ _ all1 all2
  have origin : Partway t c m := fun key => Or.inl (by rw [start])
  have shown : observed2 = (virtual++rules).map (RefReport.route t) := by
    rw [shown2,shown1,List.nil_append,List.map_append]
  have failed : err = (virtual++rules).findSome? (RefReport.error t) := by
    rw [failed2,failed1,Option.none_or,List.findSome?_append]
  refine ⟨virtual++rules,?_,?_,handledAll_own t _ _ _ all,?_,fun r _ => ready_route t r,failed,?_,
    (handledAll_done short _ c m d origin all).2,?_⟩
  · rw [List.map_append,listed1,listed2,declared]
    rfl
  · rw [List.flatMap_append,← calls1,← calls2,List.append_nil]
  · rw [observedRoutes_set,shown]
  · rw [observedRoutes_set,shown,failed,List.findSome?_eq_none_iff,List.forall_mem_map]
    simp only [ready_route,Option.some.injEq,Option.isNone_iff_eq_none]
  · intro key apart
    rw [handledAll_other _ _ _ all key apart,start]

/-- A run without an error resolved the port and went through all references. -/
theorem run_stage (a b : KnativeAdoption) (enabled : trafficEnabled a = true) (c d : Cluster) (log : CallLog)
    (run : Run apiserver drift (reconcileTraffic a) c log (some (b,none)) d) :
    trafficMode a = .inplace ∧ ∃ first rest m port, log = first++rest ∧
      Run apiserver drift (resolveTrafficTargetServicePort a) c first (some (.ok port)) m := by
  unfold reconcileTraffic at run
  rw [enabled] at run
  by_cases mode : trafficMode a = .inplace
  · refine ⟨mode,?_⟩
    rw [mode] at run
    obtain ⟨outcome,m,first,rest,rfl,resolved,following⟩ := run_bind_some run
    · cases outcome with
      | error err => cases (run_return following).2.2
      | ok port => exact ⟨first,rest,m,port,rfl,resolved⟩
  · rw [if_neg (by decide),if_pos mode] at run
    cases (run_return run).2.2

theorem all_rewritten (still : ∀ c d, drift c d → d.traffic = c.traffic) (a b : KnativeAdoption)
    (enabled : trafficEnabled a = true) (c d : Cluster) (log : CallLog)
    (run : Run apiserver drift (reconcileTraffic a) c log (some (b,none)) d) :
    ∃ m, drift c m ∧ ((∀ p, livePort a m = some p → toInt32 p = p) →
      ∀ kind name, (kind,name) ∈ trafficRefs a → Done (routeTarget a (livePort a m)) c ⟨kind,⟨a.ns,name⟩⟩ d) := by
  obtain ⟨inplace,first,rest,m,port,rfl,resolved⟩ := run_stage a b enabled c d log run
  obtain ⟨moved,rfl⟩ := run_resolve a c m first port resolved
  refine ⟨m,moved,fun narrow kind name declared => ?_⟩
  obtain ⟨reports,isolated⟩ := isolated_of_run still a b enabled inplace _ narrow c m d first rest none resolved run
  rw [← isolated.refs] at declared
  obtain ⟨r,member,same⟩ := List.mem_map.mp declared
  cases same
  exact isolated.rewritten r member (List.findSome?_eq_none_iff.mp isolated.error.symm r member)

end Stage

theorem traffic_isolated (a b : KnativeAdoption) (enabled : trafficEnabled a = true) (inplace : trafficMode a = .inplace)
    (port : Option Int) (narrow : ∀ p, port = some p → toInt32 p = p) (c m d : Cluster) (first log : CallLog)
    (err : Option ApiError)
    (resolved : Run apiserver Drift (resolveTrafficTargetServicePort a) c first (some (.ok port)) m)
    (run : Run apiserver Drift (reconcileTraffic a) c (first++log) (some (b,err)) d) :
    ∃ reports, Isolated a (routeTarget a port) c log b err d reports :=
  isolated_of_run (fun _ _ moved => moved.traffic) a b enabled inplace port narrow c m d first log err resolved run

namespace Sample

def meshRoutes (entries : List (Json Literal)) : TrafficObject where
  key := ⟨.virtualService,⟨"prod","routes"⟩⟩
  body := routes entries
  shaped := rfl

def meshRule (subsets : List String) : TrafficObject where
  key := ⟨.destinationRule,⟨"prod","web"⟩⟩
  body := Obj.ofList [("spec",(Obj.ofList [("host",.str "web.prod.svc"),("subsets",.arr subsets.length (fun i =>
    (Obj.ofList [("name",.str (subsets.get i))]).json))]).json)]
  shaped := rfl

/-- An adoption that declares routes and rules and takes 5555 for the Service port. -/
def meshAdoption (virtualServices rules : List String) : KnativeAdoption where
  ns := "prod"
  name := "web"
  uid := 7
  spec :=
    { sourceRef := { name := "web" }
      traffic := some
        { enabled := true
          servicePort := some 5555
          istio := some { virtualServiceRefs := virtualServices, destinationRuleRefs := rules } } }

def mesh (port : Int) (entries : List (Json Literal)) (subsets : List String) : Cluster where
  services := .ofList [{ ns := "prod", name := "web", spec := { ports := [{ port := port }] } }]
  traffic := .ofList [meshRoutes entries,meshRule subsets]

end Sample

/-- The patch of the first reference loses its answer, the second names no object and
the last has no name; the others are reconciled all the same. -/
theorem traffic_isolated_sample :
    let a := Sample.meshAdoption ["routes","missing","routes"] ["web",""]
    let c := Sample.mesh 80 [Sample.route "web" 5555 "stable"] ["stable"]
    let faults : List (Fault String) := [.none,.none,.lost "timeout",.none,.none,.none,.none]
    let run := apiserver.exec (reconcileTraffic a) faults c
    ∃ b err log reports, run.2.1 = some (b,err) ∧
      (observedRoutes b).map (fun route => route.ready) = [some false,some false,some true,some true,some false] ∧
      Isolated a (routeTarget a (some 80)) c log b err run.2.2 reports := by
  intro a c faults run
  have narrow : ∀ p, some 80 = some p → toInt32 p = p := by
    intro p same
    cases same
    decide
  have ready : run.2.1.map (fun value => (observedRoutes value.1).map (fun route => route.ready)) =
      some [some false,some false,some true,some true,some false] := by decide +kernel
  have returned : (apiserver.exec (resolveTrafficTargetServicePort a) faults c).2.1 = some (.ok (some 80)) := rfl
  have enabled : trafficEnabled a = true := rfl
  have inplace : trafficMode a = .inplace := rfl
  clear_value a c faults
  have resolved := run_exec apiserver Drift Drift.refl (resolveTrafficTargetServicePort a) faults c
  rw [returned] at resolved
  have ran := run_exec apiserver Drift Drift.refl (reconcileTraffic a) faults c
  obtain ⟨log,calls⟩ : ∃ log, run.1 = (apiserver.exec (resolveTrafficTargetServicePort a) faults c).1++log := by
    obtain ⟨next,sequence⟩ := reconcileTraffic_bind a enabled inplace
    change ∃ log, (apiserver.exec (reconcileTraffic a) faults c).1 = _++log
    rw [sequence]
    exact exec_bind apiserver _ _ faults c _ returned
  cases out : run.2.1 with
  | none =>
    rw [out] at ready
    cases ready
  | some value =>
    obtain ⟨b,err⟩ := value
    rw [out] at ready
    rw [show (apiserver.exec (reconcileTraffic a) faults c).1 = _ from calls,
      show (apiserver.exec (reconcileTraffic a) faults c).2.1 = _ from out] at ran
    obtain ⟨reports,isolated⟩ := traffic_isolated a b enabled inplace (some 80) narrow c _ _ _ _ err resolved ran
    exact ⟨b,err,log,reports,rfl,Option.some.inj ready,isolated⟩

end Ifaas
