import Ifaas.TrafficIsolation

/-! Routes and the subsets they name. The rewrite of the VirtualServices looks at host and
port of a destination, the rewrite of the DestinationRules at the host alone; a route
is left without its subset where the two disagree, and only there. -/
namespace Ifaas
open Library

/-- The subsets a DestinationRule defines. -/
def ruleSubsets : Traversal (Obj GoNumber) (Obj GoNumber) :=
  (memberStep "spec").comp (objectStep.comp ((memberStep "subsets").comp (itemStep.comp objectStep)))

def definesSubset (dr : Obj GoNumber) (subset : String) : Bool :=
  (ruleSubsets.foci dr).any (fun entry => entry.get "name" = some (.str subset))

def namesSubset (destination : Obj GoNumber) (subset : String) : Bool := destination.get "subset" = some (.str subset)

/-- The rule is one for the host of the Service. -/
def ruleTargetsService (dr : Obj GoNumber) (serviceName ns : String) : Bool :=
  match nestedString dr ["spec","host"] with
  | .ok (some host) => serviceHostMatches host serviceName ns
  | _ => false

/-- The body of a stored object as the operator reads it. -/
def storedBody (c : Cluster) (key : TrafficKey) : Option (Obj GoNumber) :=
  (c.traffic.get key).map (fun o => o.body.map Literal.read)

/-- No route to the Service names a subset that a declared rule had before and has no more. -/
def NoDangling (a : KnativeAdoption) (c d : Cluster) : Prop :=
  ∀ vs ∈ virtualServiceRefs a, ∀ body, storedBody d ⟨.virtualService,⟨a.ns,vs⟩⟩ = some body →
  ∀ destination ∈ destinations.foci body, destinationTargetsService destination (sourceName a) a.ns = true →
  ∀ subset, namesSubset destination subset = true →
  ∀ dr ∈ destinationRuleRefs a, ∀ before after, storedBody c ⟨.destinationRule,⟨a.ns,dr⟩⟩ = some before →
    storedBody d ⟨.destinationRule,⟨a.ns,dr⟩⟩ = some after → ruleTargetsService before (sourceName a) a.ns = true →
    definesSubset before subset = true → definesSubset after subset = true

/-- The routes that name a subset of a declared rule have a managed port. -/
def SubsetRoutesManaged (a : KnativeAdoption) (c : Cluster) : Prop :=
  ∀ vs ∈ virtualServiceRefs a, ∀ body, storedBody c ⟨.virtualService,⟨a.ns,vs⟩⟩ = some body →
  ∀ destination ∈ destinations.foci body, destinationTargetsService destination (sourceName a) a.ns = true →
  ∀ subset, namesSubset destination subset = true →
  ∀ dr ∈ destinationRuleRefs a, ∀ rule, storedBody c ⟨.destinationRule,⟨a.ns,dr⟩⟩ = some rule →
    ruleTargetsService rule (sourceName a) a.ns = true → definesSubset rule subset = true →
    destinationMatchesManagedPort destination (trafficManagedPortSet [specTrafficServicePort a,livePort a c]) = true

theorem ruleSubsets_foci (dr spec : Obj GoNumber) (held : dr.get "spec" = some spec.json) :
    ruleSubsets.foci dr = ((spec.get "subsets").toList).flatMap (itemStep.comp objectStep).foci := by
  simp [ruleSubsets,Traversal.comp,memberStep,objectStep,held]

theorem ruleSubsets_unread (dr : Obj GoNumber) (unread : nestedField dr ["spec","subsets"] = .ok none) :
    ruleSubsets.foci dr = [] := by
  cases held : (dr.get "spec").bind Json.asObj with
  | none =>
    cases found : dr.get "spec" with
    | none => simp [ruleSubsets,Traversal.comp,memberStep,found]
    | some value =>
      rw [found,Option.bind_some] at held
      simp [ruleSubsets,Traversal.comp,memberStep,objectStep,found,held]
  | some spec =>
    obtain ⟨value,found,shape⟩ := Option.bind_eq_some_iff.mp held
    rw [Json.asObj_eq_some value spec shape] at found
    rw [nestedField_inSpec dr spec "subsets" found] at unread
    have absent : spec.get "subsets" = none := by injection unread
    rw [ruleSubsets_foci dr spec found,absent]
    rfl

/-- A rule for the Service has no subsets after its rewrite. -/
theorem ruleSubsets_stripped (t : RouteTarget) (dr result : Obj GoNumber) (changed : Bool)
    (ruled : ruleTargetsService dr t.serviceName t.ns = true)
    (done : stripTargetServiceSubsets dr t.serviceName t.ns = .ok (result,changed)) : ruleSubsets.foci result = [] := by
  unfold ruleTargetsService at ruled
  unfold stripTargetServiceSubsets at done
  cases named : nestedString dr ["spec","host"] with
  | error err => rw [named] at ruled; cases ruled
  | ok read =>
    rw [named] at ruled done
    cases read with
    | none => cases ruled
    | some host =>
      dsimp only at ruled done
      rw [ruled] at done
      cases listed : nestedField dr ["spec","subsets"] with
      | error err => rw [listed] at done; cases done
      | ok found =>
        rw [listed] at done
        cases found with
        | none =>
          cases done
          exact ruleSubsets_unread dr listed
        | some value =>
          obtain ⟨spec,held,_⟩ := spec_of_nested dr "subsets" value listed
          simp only [removeInSpec,held,Obj.json] at done
          cases done
          rw [ruleSubsets_foci _ (spec.erase "subsets") (by rw [Obj.get_set,if_pos rfl]; rfl),Obj.get_erase,if_pos rfl]
          rfl

section Read
variable {t : RouteTarget} {c d : Cluster} {ns name : String}

theorem Done.read (narrow : t.Narrow) (kind : TrafficKind) (done : Done t c ⟨kind,⟨ns,name⟩⟩ d) :
    ∃ body result changed, storedBody c ⟨kind,⟨ns,name⟩⟩ = some body ∧ rewriteOf kind t body = .ok (result,changed) ∧
      storedBody d ⟨kind,⟨ns,name⟩⟩ = some result := by
  obtain ⟨o,stored,held,form,found⟩ := done
  obtain ⟨result,changed,rewrote,body⟩ := form.body
  have filed : o.key.kind = kind := by rw [c.traffic.keyed _ _ held]
  rw [filed] at rewrote
  refine ⟨o.body.map Literal.read,result,changed,?_,rewrote,?_⟩
  · rw [storedBody,held]
    rfl
  · rw [storedBody,found,Option.map_some,body,
      Obj.read_encode result (canonical_rewriteOf t narrow kind _ _ _ (Obj.canonical_read o.body) rewrote)]

/-- The destinations of a reconciled VirtualService are the rewritten ones. -/
theorem Done.destinations (narrow : t.Narrow) (done : Done t c ⟨.virtualService,⟨ns,name⟩⟩ d) :
    ∃ body result, storedBody c ⟨.virtualService,⟨ns,name⟩⟩ = some body ∧
      storedBody d ⟨.virtualService,⟨ns,name⟩⟩ = some result ∧
      Ifaas.destinations.foci result = (Ifaas.destinations.foci body).map (fun dst => (rewriteDestination t dst).1) := by
  obtain ⟨body,result,changed,before,rewrote,after⟩ := done.read narrow .virtualService
  refine ⟨body,result,before,after,?_⟩
  rcases strip_walks t body with ⟨⟨err,failed⟩,_⟩ | ⟨flag,walked,_⟩
  · cases rewrote.symm.trans failed
  · cases rewrote.symm.trans walked
    exact Ifaas.destinations.foci_modify _ _

end Read

theorem mem_trafficRefs_virtual (a : KnativeAdoption) (vs : String) (member : vs ∈ virtualServiceRefs a) :
    (.virtualService,vs) ∈ trafficRefs a := List.mem_append_left _ (List.mem_map_of_mem member)

theorem mem_trafficRefs_rule (a : KnativeAdoption) (dr : String) (member : dr ∈ destinationRuleRefs a) :
    (.destinationRule,dr) ∈ trafficRefs a := List.mem_append_right _ (List.mem_map_of_mem member)

theorem namesSubset_rewritten (t : RouteTarget) (narrow : t.Narrow) (destination : Obj GoNumber) (subset : String)
    (named : namesSubset (rewriteDestination t destination).1 subset = true) :
    t.Matches destination = false ∧ (rewriteDestination t destination).1 = destination := by
  cases matched : t.Matches destination with
  | false => exact ⟨rfl,by rw [rewriteDestination_other t destination matched]⟩
  | true =>
    have adjusted := rewriteDestination_adjusted t destination matched narrow
    rw [namesSubset,adjusted.subset] at named
    cases named

theorem dangling_iff (a b : KnativeAdoption) (enabled : trafficEnabled a = true) (c d : Cluster) (log : CallLog)
    (narrow : ∀ p, livePort a c = some p → toInt32 p = p)
    (run : Run apiserver Eq (reconcileTraffic a) c log (some (b,none)) d) :
    NoDangling a c d ↔ SubsetRoutesManaged a c := by
  obtain ⟨m,same,rewritten⟩ := all_rewritten (fun c d same => by rw [same]) a b enabled c d log run
  subst same
  have done := rewritten narrow
  generalize target : routeTarget a (livePort a c) = t at done
  have short : t.Narrow := by
    rw [← target]
    exact narrow
  have host : t.serviceName = sourceName a ∧ t.ns = a.ns := by
    rw [← target]
    exact ⟨rfl,rfl⟩
  have matching (dst : Obj GoNumber) (targets : destinationTargetsService dst (sourceName a) a.ns = true) :
      t.Matches dst = destinationMatchesManagedPort dst (trafficManagedPortSet [specTrafficServicePort a,livePort a c]) := by
    rw [RouteTarget.Matches,host.1,host.2,targets,Bool.true_and,← target]
    rfl
  constructor
  · intro sound vs member body held dst place targets subset named dr declared rule ruleHeld ruled defined
    rw [← matching dst targets]
    cases matched : t.Matches dst with
    | true => rfl
    | false =>
      obtain ⟨body',result,before,after,places⟩ := (done _ vs (mem_trafficRefs_virtual a vs member)).destinations short
      cases held.symm.trans before
      have kept : dst ∈ destinations.foci result := by
        rw [places]
        exact List.mem_map.mpr ⟨dst,place,by rw [rewriteDestination_other t dst matched]⟩
      obtain ⟨rule',stripped,changed,ruleBefore,rewrote,ruleAfter⟩ :=
        (done _ dr (mem_trafficRefs_rule a dr declared)).read short .destinationRule
      cases ruleHeld.symm.trans ruleBefore
      have still := sound vs member result after dst kept targets subset named dr declared rule stripped ruleHeld ruleAfter
        ruled defined
      rw [← host.1,← host.2] at ruled
      rw [definesSubset,ruleSubsets_stripped t rule stripped changed ruled rewrote] at still
      cases still
  · intro managed vs member body held dst place targets subset named dr declared before after ruleBefore _ ruled defined
    obtain ⟨original,result,first,last,places⟩ := (done _ vs (mem_trafficRefs_virtual a vs member)).destinations short
    cases held.symm.trans last
    rw [places] at place
    obtain ⟨dst',place',rfl⟩ := List.mem_map.mp place
    obtain ⟨unmatched,unchanged⟩ := namesSubset_rewritten t short dst' subset named
    rw [unchanged] at targets named
    have port := managed vs member original first dst' place' targets subset named dr declared before ruleBefore ruled defined
    rw [← matching dst' targets,unmatched] at port
    cases port

namespace Sample

/-- Two routes to the Service, one of them to a port the adoption does not manage. -/
def twoPorts : Cluster := mesh 80 [route "web" 5555 "stable",route "web" 6666 "other"] ["stable","other"]

def onePort : Cluster := mesh 80 [route "web" 5555 "stable",route "web" 80 "other"] ["stable","other"]

def meshed : KnativeAdoption := meshAdoption ["routes"] ["web"]

def meshPass (c : Cluster) : CallLog × Option (KnativeAdoption × Option ApiError) × Cluster :=
  apiserver.exec (reconcileTraffic meshed) (List.replicate 5 .none) c

end Sample

theorem dangling_iff_sample :
    ∃ b, (Sample.meshPass Sample.onePort).2.1 = some (b,none) ∧ SubsetRoutesManaged Sample.meshed Sample.onePort ∧
      NoDangling Sample.meshed Sample.onePort (Sample.meshPass Sample.onePort).2.2 := by
  have ran := run_exec apiserver Eq (fun _ => rfl) (reconcileTraffic Sample.meshed) (List.replicate 5 .none) Sample.onePort
  change Run apiserver Eq _ _ _ (Sample.meshPass Sample.onePort).2.1 (Sample.meshPass Sample.onePort).2.2 at ran
  have fine : (Sample.meshPass Sample.onePort).2.1.map (fun value => value.2.isNone) = some true := by decide +kernel
  have ports : (storedBody Sample.onePort ⟨.virtualService,⟨"prod","routes"⟩⟩).map (fun body =>
      (destinations.foci body).all (fun destination => destinationMatchesManagedPort destination
        (trafficManagedPortSet [specTrafficServicePort Sample.meshed,livePort Sample.meshed Sample.onePort]))) =
      some true := by decide +kernel
  have managed : SubsetRoutesManaged Sample.meshed Sample.onePort := by
    intro vs member body held destination place _ subset _ dr _ rule _ _ _
    have here : vs = "routes" := List.mem_singleton.mp member
    subst here
    rw [show storedBody Sample.onePort ⟨.virtualService,⟨"prod","routes"⟩⟩ = some body from held] at ports
    exact List.all_eq_true.mp (Option.some.inj ports) destination place
  have narrow : ∀ p, livePort Sample.meshed Sample.onePort = some p → toInt32 p = p := by
    intro p same
    cases same
    decide
  have enabled : trafficEnabled Sample.meshed = true := rfl
  generalize Sample.meshPass Sample.onePort = pass at ran fine ⊢
  obtain ⟨log,out,d⟩ := pass
  cases out with
  | none => cases fine
  | some value =>
    obtain ⟨b,err⟩ := value
    cases err with
    | some err => cases fine
    | none => exact ⟨b,rfl,managed,(dangling_iff Sample.meshed b enabled Sample.onePort d _ narrow ran).mpr managed⟩

/-- The route to the other port keeps its subset while the rule loses it. -/
theorem dangling_subset :
    ∃ log b d, Run apiserver Eq (reconcileTraffic Sample.meshed) Sample.twoPorts log (some (b,none)) d ∧
      ¬ NoDangling Sample.meshed Sample.twoPorts d := by
  have ran := run_exec apiserver Eq (fun _ => rfl) (reconcileTraffic Sample.meshed) (List.replicate 5 .none) Sample.twoPorts
  change Run apiserver Eq _ _ _ (Sample.meshPass Sample.twoPorts).2.1 (Sample.meshPass Sample.twoPorts).2.2 at ran
  have fine : (Sample.meshPass Sample.twoPorts).2.1.map (fun value => value.2.isNone) = some true := by decide +kernel
  have named : (storedBody (Sample.meshPass Sample.twoPorts).2.2 ⟨.virtualService,⟨"prod","routes"⟩⟩).any (fun body =>
      (destinations.foci body).any (fun destination =>
        destinationTargetsService destination "web" "prod" && namesSubset destination "other")) = true := by decide +kernel
  have defined : (storedBody Sample.twoPorts ⟨.destinationRule,⟨"prod","web"⟩⟩).any (fun rule =>
      ruleTargetsService rule "web" "prod" && definesSubset rule "other") = true := by decide +kernel
  have gone : (storedBody (Sample.meshPass Sample.twoPorts).2.2 ⟨.destinationRule,⟨"prod","web"⟩⟩).any (fun rule =>
      !definesSubset rule "other") = true := by decide +kernel
  generalize Sample.meshPass Sample.twoPorts = pass at ran fine named gone
  obtain ⟨log,out,d⟩ := pass
  have dangling : ¬ NoDangling Sample.meshed Sample.twoPorts d := by
    intro sound
    obtain ⟨body,held,inside⟩ := (Option.any_eq_true _ _).mp named
    obtain ⟨destination,place,both⟩ := List.any_eq_true.mp inside
    obtain ⟨targets,names⟩ := Bool.and_eq_true_iff.mp both
    obtain ⟨before,ruleHeld,ruled⟩ := (Option.any_eq_true _ _).mp defined
    obtain ⟨host,defines⟩ := Bool.and_eq_true_iff.mp ruled
    obtain ⟨after,ruleLeft,lost⟩ := (Option.any_eq_true _ _).mp gone
    have kept := sound "routes" (List.mem_singleton.mpr rfl) body held destination place targets "other" names "web"
      (List.mem_singleton.mpr rfl) before after ruleHeld ruleLeft host defines
    rw [kept] at lost
    cases lost
  cases out with
  | none => cases fine
  | some value =>
    obtain ⟨b,err⟩ := value
    cases err with
    | some err => cases fine
    | none => exact ⟨_,b,d,ran,dangling⟩

end Ifaas
