import Ifaas.TrafficSubsets

/-! Ports over several passes. A pass points the managed destinations at the port the live
Service has, and which destinations are managed is asked anew each time; one that has
left the declared port is followed no further when the Service moves again. -/
namespace Ifaas
open Library

/-- One pass over a VirtualService: the first port of the live Service, and the
destinations before and after. -/
structure PortPass where
  port : Int
  before : List (Obj GoNumber)
  after : List (Obj GoNumber)

def portAt (places : List (Obj GoNumber)) (n : Nat) : Option Int := (places[n]?).bind destinationPort

/-- The pass wrote the live port into a destination. -/
def PortPass.Rewrites (pass : PortPass) (n : Nat) : Prop :=
  portAt pass.before n ≠ some pass.port ∧ portAt pass.after n = some pass.port

/-- After the last pass every destination that was rewritten has the port of that pass. -/
def Converged (passes : List PortPass) : Prop :=
  ∀ last, passes.getLast? = some last → ∀ n, (∃ pass ∈ passes, pass.Rewrites n) → portAt last.after n = some last.port

/-- Successive passes that return no error, the Service changing its port in between. -/
inductive PortPasses (a : KnativeAdoption) (vs : String) : Cluster → List PortPass → Cluster → Prop
  | nil (c : Cluster) : PortPasses a vs c [] c
  | cons (c e f d : Cluster) (x b : KnativeAdoption) (log : CallLog) (port : Int) (before after : Obj GoNumber)
      (passes : List PortPass) (same : SameObject a x) (moved : e.traffic = c.traffic)
      (live : (e.services.get ⟨a.ns,sourceName a⟩).bind firstServicePort = some port)
      (run : Run apiserver Eq (reconcileTraffic x) e log (some (b,none)) f)
      (read : storedBody e ⟨.virtualService,⟨a.ns,vs⟩⟩ = some before)
      (left : storedBody f ⟨.virtualService,⟨a.ns,vs⟩⟩ = some after) (rest : PortPasses a vs f passes d) :
      PortPasses a vs c (⟨port,destinations.foci before,destinations.foci after⟩::passes) d

/-- Where a destination of the Service has the declared port, the first other port the
Service had is the one it has at last. -/
def PortsSettle (a : KnativeAdoption) (body : Obj GoNumber) (ports : List Int) : Prop :=
  ∀ declared, specTrafficServicePort a = some declared → 0 < declared →
    (∃ d ∈ destinations.foci body, destinationTargetsService d (sourceName a) a.ns = true ∧
      destinationPort d = some declared) →
    ∀ port, ports.find? (fun p => p ≠ declared) = some port → ports.getLast? = some port

/-! One destination. -/

section Destination
variable (t : RouteTarget) (port : Int) (wanted : t.targetServicePort = some port) (positive : 0 < port)

theorem matchesManagedPort_iff (d : Obj GoNumber) (ports : List Int) (some_ : ports ≠ []) :
    destinationMatchesManagedPort d ports = true ↔ ∃ number, destinationPort d = some number ∧ number ∈ ports := by
  unfold destinationMatchesManagedPort destinationPort
  rw [if_neg some_]
  cases (d.get "port").bind Json.asObj with
  | none => simp
  | some block =>
    simp only [Option.bind_some]
    cases nestedInt32 block ["number"] with
    | none => simp
    | some number => simp

theorem targets_rewritten (narrow : t.Narrow) (d : Obj GoNumber) (serviceName ns : String) :
    destinationTargetsService (rewriteDestination t d).1 serviceName ns = destinationTargetsService d serviceName ns := by
  cases matched : t.Matches d with
  | false => rw [rewriteDestination_other t d matched]
  | true =>
    unfold destinationTargetsService
    rw [(rewriteDestination_adjusted t d matched narrow).rest "host" (by decide) (by decide)]

include wanted positive

theorem mem_managedPorts (number : Int) :
    number ∈ t.managedPorts ↔ number = port ∨ (t.servicePort = some number ∧ 0 < number) := by
  unfold RouteTarget.managedPorts trafficManagedPortSet
  rw [wanted,List.mem_filterMap]
  constructor
  · rintro ⟨entry,member,kept⟩
    obtain ⟨same,sign⟩ := Option.filter_eq_some_iff.mp kept
    rcases List.mem_cons.mp member with here | there
    · exact Or.inr ⟨here ▸ same,of_decide_eq_true sign⟩
    · rw [List.mem_singleton.mp there] at same
      exact Or.inl (Option.some.inj same).symm
  · rintro (rfl | ⟨declared,sign⟩)
    · exact ⟨_,List.mem_cons_of_mem _ (List.mem_singleton.mpr rfl),Option.filter_eq_some_iff.mpr ⟨rfl,decide_eq_true positive⟩⟩
    · exact ⟨_,List.mem_cons_self ..,Option.filter_eq_some_iff.mpr ⟨declared,decide_eq_true sign⟩⟩

theorem matches_iff (d : Obj GoNumber) (targets : destinationTargetsService d t.serviceName t.ns = true) :
    t.Matches d = true ↔ destinationPort d = some port ∨
      ∃ declared, t.servicePort = some declared ∧ 0 < declared ∧ destinationPort d = some declared := by
  have some_ : t.managedPorts ≠ [] :=
    List.ne_nil_of_mem ((mem_managedPorts t port wanted positive port).mpr (Or.inl rfl))
  rw [RouteTarget.Matches,targets,Bool.true_and,matchesManagedPort_iff d _ some_]
  constructor
  · rintro ⟨number,found,member⟩
    rcases (mem_managedPorts t port wanted positive number).mp member with rfl | ⟨declared,sign⟩
    · exact Or.inl found
    · exact Or.inr ⟨number,declared,sign,found⟩
  · rintro (there | ⟨declared,same,sign,found⟩)
    · exact ⟨port,there,(mem_managedPorts t port wanted positive port).mpr (Or.inl rfl)⟩
    · exact ⟨declared,found,(mem_managedPorts t port wanted positive declared).mpr (Or.inr ⟨same,sign⟩)⟩

/-- A destination with the declared port is pointed at the live one. -/
theorem port_followed (narrow : t.Narrow) (d : Obj GoNumber) (declared : Int)
    (targets : destinationTargetsService d t.serviceName t.ns = true) (same : t.servicePort = some declared)
    (sign : 0 < declared) (found : destinationPort d = some declared) :
    destinationPort (rewriteDestination t d).1 = some port := by
  have matched := (matches_iff t port wanted positive d targets).mpr (Or.inr ⟨declared,same,sign,found⟩)
  exact (rewriteDestination_adjusted t d matched narrow).ported port wanted

/-- Any other destination keeps its port. -/
theorem port_kept (narrow : t.Narrow) (d : Obj GoNumber)
    (other : ∀ declared, destinationTargetsService d t.serviceName t.ns = true → t.servicePort = some declared →
      0 < declared → destinationPort d ≠ some declared) :
    destinationPort (rewriteDestination t d).1 = destinationPort d := by
  cases matched : t.Matches d with
  | false => rw [rewriteDestination_other t d matched]
  | true =>
    have targets : destinationTargetsService d t.serviceName t.ns = true := (Bool.and_eq_true_iff.mp matched).1
    rw [(rewriteDestination_adjusted t d matched narrow).ported port wanted]
    rcases (matches_iff t port wanted positive d targets).mp matched with there | ⟨declared,same,sign,found⟩
    · exact there.symm
    · exact absurd found (other declared targets same sign)

end Destination

/-! One pass. -/

def targetsAt (a : KnativeAdoption) (places : List (Obj GoNumber)) (n : Nat) : Bool :=
  (places[n]?).any (fun d => destinationTargetsService d (sourceName a) a.ns)

/-- The destination at a place has the declared port and is one of the Service. -/
structure Declares (a : KnativeAdoption) (places : List (Obj GoNumber)) (n : Nat) (declared : Int) : Prop where
  spec : specTrafficServicePort a = some declared
  sign : 0 < declared
  targets : targetsAt a places n = true
  port : portAt places n = some declared

/-- What a pass makes of the destinations. -/
structure PortStep (a : KnativeAdoption) (pass : PortPass) : Prop where
  followed : ∀ n declared, Declares a pass.before n declared → portAt pass.after n = some pass.port
  kept : ∀ n, (∀ declared, ¬ Declares a pass.before n declared) → portAt pass.after n = portAt pass.before n
  targets : ∀ n, targetsAt a pass.after n = targetsAt a pass.before n

theorem firstServicePort_pos (svc : Service) (port : Int) (first : firstServicePort svc = some port) : 0 < port := by
  unfold firstServicePort at first
  split at first
  · cases first
  · split at first
    · cases first
    · cases first
      omega

theorem portStep_mapped (a : KnativeAdoption) (port : Int) (places : List (Obj GoNumber)) (positive : 0 < port)
    (narrow : toInt32 port = port) :
    PortStep a ⟨port,places,places.map (fun d => (rewriteDestination (routeTarget a (some port)) d).1)⟩ := by
  have short : (routeTarget a (some port)).Narrow := by
    intro p same
    cases same
    exact narrow
  refine ⟨fun n declared declares => ?_,fun n other => ?_,fun n => ?_⟩
  · obtain ⟨d,held,found⟩ := Option.bind_eq_some_iff.mp declares.port
    have targets := declares.targets
    rw [targetsAt,held,Option.any_some] at targets
    rw [portAt,List.getElem?_map,held]
    exact port_followed _ port rfl positive short d declared targets declares.spec declares.sign found
  · unfold portAt
    rw [List.getElem?_map]
    cases held : places[n]? with
    | none => rfl
    | some d =>
      refine port_kept _ port rfl positive short d (fun declared targets spec sign found => ?_)
      refine other declared ⟨spec,sign,?_,?_⟩
      · rw [targetsAt,held]
        exact targets
      · rw [portAt,held]
        exact found
  · unfold targetsAt
    rw [List.getElem?_map]
    cases places[n]? with
    | none => rfl
    | some d => exact targets_rewritten _ short d _ _

theorem portStep_run (a x b : KnativeAdoption) (vs : String) (declared : vs ∈ virtualServiceRefs a)
    (enabled : trafficEnabled a = true) (same : SameObject a x) (e f : Cluster) (log : CallLog) (port : Int)
    (before after : Obj GoNumber) (narrow : toInt32 port = port)
    (live : (e.services.get ⟨a.ns,sourceName a⟩).bind firstServicePort = some port)
    (run : Run apiserver Eq (reconcileTraffic x) e log (some (b,none)) f)
    (read : storedBody e ⟨.virtualService,⟨a.ns,vs⟩⟩ = some before)
    (left : storedBody f ⟨.virtualService,⟨a.ns,vs⟩⟩ = some after) :
    PortStep a ⟨port,destinations.foci before,destinations.foci after⟩ := by
  have ns : x.ns = a.ns := congrArg ObjectMeta.ns same.metadata
  have source : sourceName x = sourceName a := same.sourceName
  obtain ⟨svc,_,first⟩ := Option.bind_eq_some_iff.mp live
  have port_known : livePort x e = some port := by
    rw [livePort,ns,source,live]
    rfl
  have target : routeTarget x (livePort x e) = routeTarget a (some port) := by
    unfold routeTarget specTrafficServicePort
    rw [port_known,ns,source,same.spec]
  have short : (routeTarget a (some port)).Narrow := by
    intro p wanted
    cases wanted
    exact narrow
  obtain ⟨m,unmoved,rewritten⟩ := all_rewritten (fun c d still => by rw [still]) x b
    (by unfold trafficEnabled; rw [same.spec]; exact enabled) e f log run
  subst unmoved
  have done := rewritten (fun p wanted => short p (port_known.symm.trans wanted)) .virtualService vs
    (mem_trafficRefs_virtual x vs (by unfold virtualServiceRefs istioTraffic; rw [same.spec]; exact declared))
  rw [target,ns] at done
  obtain ⟨body,result,held,stored,places⟩ := done.destinations short
  cases read.symm.trans held
  cases left.symm.trans stored
  rw [places]
  exact portStep_mapped a port _ (firstServicePort_pos svc port first) narrow

/-! All passes. -/

section Passes
variable {a : KnativeAdoption}

/-- The passes as steps from one list of destinations to the next. -/
inductive PortTrace (a : KnativeAdoption) : List (Obj GoNumber) → List PortPass → Prop
  | nil (places : List (Obj GoNumber)) : PortTrace a places []
  | cons (pass : PortPass) (passes : List PortPass) (step : PortStep a pass) (rest : PortTrace a pass.after passes) :
      PortTrace a pass.before (pass::passes)

/-- A destination without the declared port keeps what it has. -/
theorem trace_kept (places : List (Obj GoNumber)) (passes : List PortPass) (trace : PortTrace a places passes) (n : Nat)
    (other : ∀ declared, ¬ Declares a places n declared) :
    (¬ ∃ pass ∈ passes, pass.Rewrites n) ∧
      ∀ last, passes.getLast? = some last → portAt last.after n = portAt places n := by
  induction trace with
  | nil places => exact ⟨by simp,nofun⟩
  | cons pass passes step rest ih =>
    have still := step.kept n other
    have next : ∀ declared, ¬ Declares a pass.after n declared := by
      intro declared declares
      exact other declared ⟨declares.spec,declares.sign,(step.targets n).symm.trans declares.targets,
        still.symm.trans declares.port⟩
    obtain ⟨unwritten,final⟩ := ih next
    constructor
    · rintro ⟨written,member,rewrites⟩
      rcases List.mem_cons.mp member with rfl | inside
      · exact rewrites.1 (still.symm.trans rewrites.2)
      · exact unwritten ⟨written,inside,rewrites⟩
    · intro last found
      cases passes with
      | nil =>
        cases found
        exact still
      | cons second more =>
        rw [List.getLast?_cons_cons] at found
        exact (final last found).trans still

/-- A destination with the declared port gets the first other one and stays there. -/
theorem trace_followed (places : List (Obj GoNumber)) (passes : List PortPass) (trace : PortTrace a places passes) (n : Nat)
    (declared : Int) (declares : Declares a places n declared) :
    ((∃ pass ∈ passes, pass.Rewrites n) ↔
      ∃ port, (passes.map (fun pass => pass.port)).find? (fun p => p ≠ declared) = some port) ∧
    ∀ last, passes.getLast? = some last → ∀ port,
      (passes.map (fun pass => pass.port)).find? (fun p => p ≠ declared) = some port → portAt last.after n = some port := by
  induction trace with
  | nil places => exact ⟨by simp,nofun⟩
  | cons pass passes step rest ih =>
    have written := step.followed n declared declares
    rw [List.map_cons]
    by_cases same : pass.port = declared
    · -- the Service still has the declared port: nothing happens yet
      have next : Declares a pass.after n declared :=
        ⟨declares.spec,declares.sign,(step.targets n).trans declares.targets,by rw [written,same]⟩
      obtain ⟨counted,final⟩ := ih next
      rw [List.find?_cons_of_neg (by simp [same])]
      constructor
      · rw [← counted]
        constructor
        · rintro ⟨other,member,rewrites⟩
          rcases List.mem_cons.mp member with rfl | inside
          · exact absurd (declares.port.trans (congrArg some same.symm)) rewrites.1
          · exact ⟨other,inside,rewrites⟩
        · rintro ⟨other,inside,rewrites⟩
          exact ⟨other,List.mem_cons_of_mem _ inside,rewrites⟩
      · intro last found port first
        cases passes with
        | nil => cases first
        | cons second more =>
          rw [List.getLast?_cons_cons] at found
          exact final last found port first
    · -- the first move away from the declared port is also the last
      have left : ∀ other, ¬ Declares a pass.after n other := by
        intro other again
        cases declares.spec.symm.trans again.spec
        cases written.symm.trans again.port
        exact same rfl
      obtain ⟨_,final⟩ := trace_kept _ _ rest n left
      rw [List.find?_cons_of_pos (by simp [same])]
      constructor
      · refine ⟨fun _ => ⟨_,rfl⟩,fun _ => ⟨pass,List.mem_cons_self ..,?_,written⟩⟩
        intro there
        cases declares.port.symm.trans there
        exact same rfl
      · intro last found port first
        cases first
        cases passes with
        | nil =>
          cases found
          exact written
        | cons second more =>
          rw [List.getLast?_cons_cons] at found
          exact (final last found).trans written

theorem passes_trace (vs : String) (declared : vs ∈ virtualServiceRefs a) (enabled : trafficEnabled a = true) (c d : Cluster)
    (passes : List PortPass) (run : PortPasses a vs c passes d) (body : Obj GoNumber)
    (held : storedBody c ⟨.virtualService,⟨a.ns,vs⟩⟩ = some body)
    (narrow : ∀ pass ∈ passes, toInt32 pass.port = pass.port) : PortTrace a (destinations.foci body) passes := by
  induction run generalizing body with
  | nil c => exact .nil _
  | cons c e f d x b log port before after passes same moved live ran read left rest ih =>
    have here : before = body := by
      rw [storedBody,moved] at read
      exact Option.some.inj (read.symm.trans held)
    subst here
    have step := portStep_run a x b vs declared enabled same e f log port before after
      (narrow _ (List.mem_cons_self ..)) live ran read left
    exact .cons ⟨port,_,_⟩ passes step (ih after left (fun pass member => narrow pass (List.mem_cons_of_mem _ member)))

end Passes

theorem ports_converge_iff (a : KnativeAdoption) (vs : String) (declared : vs ∈ virtualServiceRefs a)
    (enabled : trafficEnabled a = true) (c d : Cluster) (passes : List PortPass) (body : Obj GoNumber)
    (held : storedBody c ⟨.virtualService,⟨a.ns,vs⟩⟩ = some body)
    (narrow : ∀ pass ∈ passes, toInt32 pass.port = pass.port) (run : PortPasses a vs c passes d) :
    Converged passes ↔ PortsSettle a body (passes.map (fun pass => pass.port)) := by
  have trace := passes_trace vs declared enabled c d passes run body held narrow
  constructor
  · rintro converged chosen spec sign ⟨destination,member,targets,found⟩ port first
    obtain ⟨n,place⟩ := List.mem_iff_getElem?.mp member
    have declares : Declares a (destinations.foci body) n chosen := by
      refine ⟨spec,sign,?_,?_⟩
      · rw [targetsAt,place]
        exact targets
      · rw [portAt,place]
        exact found
    obtain ⟨counted,final⟩ := trace_followed _ passes trace n chosen declares
    cases ending : passes.getLast? with
    | none =>
      rw [List.getLast?_eq_none_iff.mp ending] at first
      cases first
    | some last =>
      have there := converged last ending n (counted.mpr ⟨port,first⟩)
      cases (final last ending port first).symm.trans there
      rw [List.getLast?_map,ending]
      rfl
  · intro settle last ending n rewritten
    by_cases declares : ∃ chosen, Declares a (destinations.foci body) n chosen
    · obtain ⟨chosen,declares⟩ := declares
      obtain ⟨counted,final⟩ := trace_followed _ passes trace n chosen declares
      obtain ⟨port,first⟩ := counted.mp rewritten
      obtain ⟨destination,place,found⟩ := Option.bind_eq_some_iff.mp declares.port
      have targets := declares.targets
      rw [targetsAt,place,Option.any_some] at targets
      have settled := settle chosen declares.spec declares.sign
        ⟨destination,List.mem_of_getElem? place,targets,found⟩ port first
      rw [List.getLast?_map,ending] at settled
      cases settled
      exact final last ending _ first
    · have other : ∀ chosen, ¬ Declares a (destinations.foci body) n chosen :=
        fun chosen holds => declares ⟨chosen,holds⟩
      exact absurd rewritten (trace_kept _ passes trace n other).1

namespace Sample

def routing : KnativeAdoption := meshAdoption ["routes"] []

def routesKey : TrafficKey := ⟨.virtualService,⟨"prod","routes"⟩⟩

/-- The cluster with another port of the live Service. -/
def withPort (c : Cluster) (port : Int) : Cluster :=
  { c with services := .ofList [{ ns := "prod", name := "web", spec := { ports := [{ port := port }] } }] }

def portRun (c : Cluster) (port : Int) : CallLog × Option (KnativeAdoption × Option ApiError) × Cluster :=
  apiserver.exec (reconcileTraffic routing) (List.replicate 3 .none) (withPort c port)

def places (c : Cluster) : List (Obj GoNumber) := (storedBody c routesKey).elim [] destinations.foci

def portPass (c : Cluster) (port : Int) : PortPass := ⟨port,places (withPort c port),places (portRun c port).2.2⟩

theorem portPass_cons (c d : Cluster) (port : Int) (passes : List PortPass) (positive : 0 < port)
    (fine : (portRun c port).2.1.any (fun value => value.2.isNone) = true)
    (read : (storedBody c routesKey).isSome = true) (left : (storedBody (portRun c port).2.2 routesKey).isSome = true)
    (rest : PortPasses routing "routes" (portRun c port).2.2 passes d) :
    PortPasses routing "routes" c (portPass c port::passes) d := by
  have ran := run_exec apiserver Eq (fun _ => rfl) (reconcileTraffic routing) (List.replicate 3 .none) (withPort c port)
  have live : ((withPort c port).services.get ⟨"prod","web"⟩).bind firstServicePort = some port :=
    if_neg (not_le.mpr positive)
  obtain ⟨⟨b,err⟩,returned,clean⟩ := (Option.any_eq_true _ _).mp fine
  cases err with
  | some err => cases clean
  | none =>
    rw [show (apiserver.exec (reconcileTraffic routing) (List.replicate 3 .none) (withPort c port)).2.1 = _ from returned] at ran
    obtain ⟨before,held⟩ := Option.isSome_iff_exists.mp read
    obtain ⟨after,stored⟩ := Option.isSome_iff_exists.mp left
    have same : storedBody (withPort c port) routesKey = some before := held
    have shown : portPass c port = ⟨port,destinations.foci before,destinations.foci after⟩ := by
      unfold portPass places
      rw [same,stored]
      rfl
    rw [shown]
    exact .cons c (withPort c port) _ d routing b _ port before after passes (.refl _) rfl live ran same stored rest

/-- A route to the declared port. -/
def declaredRoute : Cluster := mesh 5555 [route "web" 5555 "stable"] []

end Sample

theorem ports_converge_sample :
    let passes := [Sample.portPass Sample.declaredRoute 5555,
      Sample.portPass (Sample.portRun Sample.declaredRoute 5555).2.2 80]
    (∃ pass ∈ passes, pass.Rewrites 0) ∧ Converged passes := by
  intro passes
  have run : PortPasses Sample.routing "routes" Sample.declaredRoute passes _ :=
    Sample.portPass_cons _ _ 5555 _ (by decide) (by decide +kernel) (by decide +kernel) (by decide +kernel)
      (Sample.portPass_cons _ _ 80 _ (by decide) (by decide +kernel) (by decide +kernel) (by decide +kernel) (.nil _))
  have read : (storedBody Sample.declaredRoute Sample.routesKey).isSome = true := by decide +kernel
  obtain ⟨body,held⟩ := Option.isSome_iff_exists.mp read
  have narrow : ∀ pass ∈ passes, toInt32 pass.port = pass.port := by
    intro pass member
    rcases List.mem_cons.mp member with rfl | inside
    · exact (by decide : toInt32 5555 = 5555)
    · rw [List.mem_singleton.mp inside]
      exact (by decide : toInt32 80 = 80)
  have settle : PortsSettle Sample.routing body (passes.map (fun pass => pass.port)) := by
    intro declared spec _ _ port first
    cases spec
    have other : ([5555,80] : List Int).find? (fun p => p ≠ 5555) = some 80 := by decide
    cases other.symm.trans first
    rfl
  have moved : (Sample.portPass (Sample.portRun Sample.declaredRoute 5555).2.2 80).Rewrites 0 := by
    unfold PortPass.Rewrites
    decide +kernel
  exact ⟨⟨_,List.mem_cons_of_mem _ (List.mem_singleton.mpr rfl),moved⟩,
    (ports_converge_iff Sample.routing "routes" (List.mem_singleton.mpr rfl) rfl Sample.declaredRoute _ passes body held
      narrow run).mpr settle⟩

/-- The Service moves to a second port and the route stays on the first. -/
theorem port_left_behind :
    let passes := [Sample.portPass Sample.declaredRoute 80,Sample.portPass (Sample.portRun Sample.declaredRoute 80).2.2 8080]
    (∃ d, PortPasses Sample.routing "routes" Sample.declaredRoute passes d) ∧ ¬ Converged passes := by
  intro passes
  constructor
  · exact ⟨_,Sample.portPass_cons _ _ 80 _ (by decide) (by decide +kernel) (by decide +kernel) (by decide +kernel)
      (Sample.portPass_cons _ _ 8080 _ (by decide) (by decide +kernel) (by decide +kernel) (by decide +kernel) (.nil _))⟩
  · intro converged
    have left : portAt (Sample.portPass (Sample.portRun Sample.declaredRoute 80).2.2 8080).after 0 = some 80 := by decide +kernel
    have moved : (Sample.portPass Sample.declaredRoute 80).Rewrites 0 := by
      unfold PortPass.Rewrites
      decide +kernel
    have there := converged (Sample.portPass (Sample.portRun Sample.declaredRoute 80).2.2 8080) rfl 0
      ⟨_,List.mem_cons_self ..,moved⟩
    rw [left] at there
    cases there

end Ifaas
