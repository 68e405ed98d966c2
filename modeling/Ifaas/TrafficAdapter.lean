import Ifaas.ServiceSwapper
import Ifaas.Library.Unicode
import Mathlib.Data.Finset.Sort
import Mathlib.Data.String.Basic

/-! The traffic adapter. Declared VirtualServices and DestinationRules are read as
JSON trees, snapshotted once, rewritten so that routes to the adopted Service name
no subset and use its port, and patched when the rewrite changed them. -/
namespace Ifaas
open Library

/-! Access to unstructured objects, as the `unstructured` helpers do it. -/

/-- Go's `%v` of a float64: digits as they were read, with an exponent from a million on and below
a ten-thousandth. -/
def floatText (mantissa : Int) (scale : Nat) : String :=
  let all := Nat.toDigits 10 mantissa.natAbs
  let digits := (all.reverse.dropWhile (fun c => c = '0')).reverse
  let exponent : Int := all.length - 1 - scale
  let fraction (rest : List Char) : List Char := if rest = [] then [] else ['.']++rest
  let shown :=
    if mantissa = 0 then ['0']
    else if exponent < -4 ∨ 6 ≤ exponent then
      digits.take 1++fraction (digits.drop 1)++['e',if exponent < 0 then '-' else '+']++
        (if exponent.natAbs < 10 then ['0'] else [])++Nat.toDigits 10 exponent.natAbs
    else if exponent < 0 then ['0','.']++List.replicate (exponent.natAbs - 1) '0'++digits
    else
      let size := exponent.natAbs + 1
      digits.take size++List.replicate (size - digits.length) '0'++fraction (digits.drop size)
  String.ofList ((if mantissa < 0 then ['-'] else [])++shown)

def numberText : GoNumber → String
  | .int64 n => toString n
  | .float64 (.whole n) => floatText n 0
  | .float64 (.frac mantissa scale) => floatText mantissa scale

/-- Go's `%v` of an unstructured value. Maps are printed in the order of their keys. -/
def valueText : Json GoNumber → String
  | .null => "<nil>"
  | .bool b => toString b
  | .num x => numberText x
  | .str text => text
  | .arr _ items => "[" ++ " ".intercalate (List.ofFn (fun i => valueText (items i))) ++ "]"
  | .obj keys vals =>
    "map[" ++ " ".intercalate ((keys.sort (fun k l => k ≤ l)).attach.map
      (fun k => k.1 ++ ":" ++ valueText (vals ⟨k.1,(Finset.mem_sort _).mp k.2⟩))) ++ "]"

/-- Go's `%T` of an unstructured value. -/
def typeText : Json GoNumber → String
  | .null => "<nil>"
  | .bool _ => "bool"
  | .num (.int64 _) => "int64"
  | .num (.float64 _) => "float64"
  | .str _ => "string"
  | .arr _ _ => "[]interface \x7b\x7d"
  | .obj _ _ => "map[string]interface \x7b\x7d"

def accessorError (path : List String) (value : Json GoNumber) (expected : String) : ApiError :=
  .text ("." ++ ".".intercalate path ++ " accessor error: " ++ valueText value ++ " is of the type " ++ typeText value ++
    ", expected " ++ expected)

/-- The value under a path: missing members and nulls on the way are not found, other
values that are no objects are an error. -/
def nestedFrom (path : List String) (value : Json GoNumber) : List String → Except ApiError (Option (Json GoNumber))
  | [] => .ok (some value)
  | field::rest =>
    match value with
    | .null => .ok none
    | .obj keys vals =>
      match Obj.get ⟨keys,vals⟩ field with
      | none => .ok none
      | some inner => nestedFrom (path++[field]) inner rest
    | other => .error (accessorError (path++[field]) other "map[string]interface\x7b\x7d")

def nestedField (o : Obj GoNumber) (fields : List String) : Except ApiError (Option (Json GoNumber)) :=
  nestedFrom [] o.json fields

def nestedString (o : Obj GoNumber) (fields : List String) : Except ApiError (Option String) :=
  match nestedField o fields with
  | .error err => .error err
  | .ok none => .ok none
  | .ok (some (.str value)) => .ok (some value)
  | .ok (some other) => .error (accessorError fields other "string")

structure Slice where
  size : Nat
  items : Fin size → Json GoNumber

def nestedSlice (o : Obj GoNumber) (fields : List String) : Except ApiError (Option Slice) :=
  match nestedField o fields with
  | .error err => .error err
  | .ok none => .ok none
  | .ok (some (.arr size items)) => .ok (some ⟨size,items⟩)
  | .ok (some other) => .error (accessorError fields other "[]interface\x7b\x7d")

def nestedInt64 (o : Obj GoNumber) (fields : List String) : Except ApiError (Option Int) :=
  match nestedField o fields with
  | .error err => .error err
  | .ok none => .ok none
  | .ok (some (.num (.int64 value))) => .ok (some value)
  | .ok (some other) => .error (accessorError fields other "int64")

/-- Conversion to int32 keeps the low 32 bits. -/
def toInt32 (value : Int) : Int := Int.bmod value (2 ^ 32)

def nestedInt32 (o : Obj GoNumber) (fields : List String) : Option Int :=
  match nestedInt64 o fields with
  | .ok (some value) => some (toInt32 value)
  | _ => none

/-- `obj["spec"][field] = value`, with `spec` created where it is missing. -/
def setInSpec (o : Obj GoNumber) (field : String) (value : Json GoNumber) : Except ApiError (Obj GoNumber) :=
  match o.get "spec" with
  | none => .ok (o.set "spec" ((Obj.empty.set field value).json))
  | some (.obj keys vals) => .ok (o.set "spec" ((Obj.set ⟨keys,vals⟩ field value).json))
  | some _ => .error (.text ("value cannot be set because .spec is not a map[string]interface\x7b\x7d"))

def removeInSpec (o : Obj GoNumber) (field : String) : Obj GoNumber :=
  match o.get "spec" with
  | some (.obj keys vals) => o.set "spec" ((Obj.erase ⟨keys,vals⟩ field).json)
  | _ => o

/-! Host names. -/

/-- The characters `unicode.IsSpace` accepts. -/
def isSpace (c : Char) : Bool :=
  c.toNat ∈ [0x9,0xA,0xB,0xC,0xD,0x20,0x85,0xA0,0x1680,0x2028,0x2029,0x202F,0x205F,0x3000] ||
    (0x2000 ≤ c.toNat && c.toNat ≤ 0x200A)

/-- `unicode.ToLower`. -/
def lowerChar (c : Char) : Char := lowerLetter c

def trimSpace (chars : List Char) : List Char :=
  ((chars.dropWhile isSpace).reverse.dropWhile isSpace).reverse

def trimDot (chars : List Char) : List Char :=
  if chars.getLast? = some '.' then chars.dropLast else chars

def normalizeHost (host : String) : List Char := (trimDot (trimSpace host.toList)).map lowerChar

def serviceHostMatches (host serviceName ns : String) : Bool :=
  let h := normalizeHost host
  let svc := normalizeHost serviceName
  let space := normalizeHost ns
  if h = [] ∨ svc = [] ∨ space = [] then false
  else if h = svc ∨ h = svc ++ '.'::space ∨ h = svc ++ '.'::space ++ ".svc".toList then true
  else (svc ++ '.'::space ++ ".svc.".toList).isPrefixOf h

/-! The rewrite of a VirtualService. -/

def trafficManagedPortSet (ports : List (Option Int)) : List Int :=
  ports.filterMap (fun port => port.filter (fun p => p > 0))

def destinationTargetsService (destination : Obj GoNumber) (serviceName ns : String) : Bool :=
  match destination.get "host" with
  | some (.str host) => serviceHostMatches host serviceName ns
  | _ => serviceHostMatches "" serviceName ns

def destinationMatchesManagedPort (destination : Obj GoNumber) (managedPorts : List Int) : Bool :=
  if managedPorts = [] then true
  else
    match (destination.get "port").bind Json.asObj with
    | none => false
    | some portBlock =>
      match nestedInt32 portBlock ["number"] with
      | none => false
      | some port => port ∈ managedPorts

def portNumber (servicePort : Int) : Json GoNumber := .num (.int64 servicePort)

/-- Point the destination at a port; the second component says whether it changed. -/
def ensureDestinationPort (destination : Obj GoNumber) (servicePort : Int) : Obj GoNumber × Bool :=
  match (destination.get "port").bind Json.asObj with
  | none => (destination.set "port" ((Obj.empty.set "number" (portNumber servicePort)).json),true)
  | some portBlock =>
    if nestedInt32 portBlock ["number"] = some servicePort then (destination,false)
    else (destination.set "port" ((portBlock.set "number" (portNumber servicePort)).json),true)

def dropSubset (destination : Obj GoNumber) : Obj GoNumber × Bool :=
  match destination.get "subset" with
  | some _ => (destination.erase "subset",true)
  | none => (destination,false)

structure RouteTarget where
  serviceName : String
  ns : String
  servicePort : Option Int
  targetServicePort : Option Int

def RouteTarget.managedPorts (t : RouteTarget) : List Int :=
  trafficManagedPortSet [t.servicePort,t.targetServicePort]

def rewriteDestination (t : RouteTarget) (destination : Obj GoNumber) : Obj GoNumber × Bool :=
  if !destinationTargetsService destination t.serviceName t.ns then (destination,false)
  else if !destinationMatchesManagedPort destination t.managedPorts then (destination,false)
  else
    let (pointed,moved) :=
      match t.targetServicePort with
      | some port => ensureDestinationPort destination port
      | none => (destination,false)
    let (stripped,dropped) := dropSubset pointed
    (stripped,moved || dropped)

def rewriteRoute (t : RouteTarget) (route : Json GoNumber) : Json GoNumber × Bool :=
  match route.asObj with
  | none => (route,false)
  | some o =>
    match (o.get "destination").bind Json.asObj with
    | none => (route,false)
    | some destination =>
      let (rewritten,changed) := rewriteDestination t destination
      if changed then ((o.set "destination" rewritten.json).json,true) else (route,false)

def anyItem (size : Nat) (holds : Fin size → Bool) : Bool := (List.finRange size).any holds

def rewriteHttp (t : RouteTarget) (http : Json GoNumber) : Json GoNumber × Bool :=
  match http.asObj with
  | none => (http,false)
  | some o =>
    match o.get "route" with
    | some (.arr size routes) =>
      if anyItem size (fun j => (rewriteRoute t (routes j)).2) then
        ((o.set "route" (.arr size (fun j => (rewriteRoute t (routes j)).1))).json,true)
      else (http,false)
    | _ => (http,false)

def stripSubsetFromTargetDestinations (vs : Obj GoNumber) (t : RouteTarget) :
    Except ApiError (Obj GoNumber × Bool) :=
  match nestedSlice vs ["spec","http"] with
  | .error err => .error (err.wrap "read spec.http")
  | .ok none => .ok (vs,false)
  | .ok (some https) =>
    if anyItem https.size (fun i => (rewriteHttp t (https.items i)).2) then
      match setInSpec vs "http" (.arr https.size (fun i => (rewriteHttp t (https.items i)).1)) with
      | .error err => .error (err.wrap "write spec.http")
      | .ok changed => .ok (changed,true)
    else .ok (vs,false)

/-! The rewrite of a DestinationRule. -/

def stripTargetServiceSubsets (dr : Obj GoNumber) (serviceName ns : String) :
    Except ApiError (Obj GoNumber × Bool) :=
  match nestedString dr ["spec","host"] with
  | .error err => .error (err.wrap "read spec.host")
  | .ok none => .ok (dr,false)
  | .ok (some host) =>
    if !serviceHostMatches host serviceName ns then .ok (dr,false)
    else
      match nestedField dr ["spec","subsets"] with
      | .error err => .error (err.wrap "read spec.subsets")
      | .ok none => .ok (dr,false)
      | .ok (some _) => .ok (removeInSpec dr "subsets",true)

/-! Snapshots of traffic objects. -/

def TrafficSnapshot.items (s : TrafficSnapshot) : TrafficKind → List TrafficObjectSnapshot
  | .virtualService => s.virtualServices
  | .destinationRule => s.destinationRules

def TrafficSnapshot.append (s : TrafficSnapshot) (kind : TrafficKind) (item : TrafficObjectSnapshot) :
    TrafficSnapshot :=
  match kind with
  | .virtualService => { s with virtualServices := s.virtualServices++[item] }
  | .destinationRule => { s with destinationRules := s.destinationRules++[item] }

def hasTrafficObjectSnapshot (items : List TrafficObjectSnapshot) (name : String) : Bool :=
  items.any (fun item => item.name = name)

/-- The spec as raw JSON. A stored object has no spec or an object there. -/
def rawSpecSnapshot (body : Obj GoNumber) : Except ApiError RawExtension :=
  match body.get "spec" with
  | none => .ok none
  | some spec =>
    match spec.asObj with
    | some o => .ok (some (o.map GoNumber.encode))
    | none => .error ((ApiError.text "spec is not an object").wrap "marshal spec")

def ensureTrafficSnapshot (a : KnativeAdoption) : KnativeAdoption :=
  a.withSnapshot (fun snapshot => { snapshot with traffic := some (snapshot.traffic.getD {}) })

def trafficItems (a : KnativeAdoption) (kind : TrafficKind) : List TrafficObjectSnapshot :=
  match a.status.sourceSnapshot with
  | none => []
  | some snapshot => (snapshot.traffic.getD {}).items kind

/-- Record the spec of an object unless one is recorded under its name. -/
def snapshotTrafficOnce (kind : TrafficKind) (a : KnativeAdoption) (name : String) (body : Obj GoNumber) :
    KnativeAdoption × Except ApiError Unit :=
  if name = "" then (a,.ok ())
  else
    let a := ensureTrafficSnapshot a
    if hasTrafficObjectSnapshot (trafficItems a kind) name then (a,.ok ())
    else
      match rawSpecSnapshot body with
      | .error err => (a,.error err)
      | .ok spec =>
        (a.withSnapshot (fun snapshot =>
          { snapshot with traffic := some ((snapshot.traffic.getD {}).append kind ⟨name,spec⟩) }),.ok ())

def snapshotVirtualServiceOnce := snapshotTrafficOnce .virtualService

def snapshotDestinationRuleOnce := snapshotTrafficOnce .destinationRule

/-! Reconciling one object. -/

def mergePatchFrom (before after : Obj GoNumber) : Obj Literal :=
  (before.map GoNumber.encode).createPatch (after.map GoNumber.encode)

/-- Read an object, snapshot it once, rewrite it, and patch it when that changed it. -/
def reconcileTrafficObject (kind : TrafficKind)
    (snapshotOnce : KnativeAdoption → String → Obj GoNumber → KnativeAdoption × Except ApiError Unit)
    (rewrite : Obj GoNumber → Except ApiError (Obj GoNumber × Bool)) (a : KnativeAdoption) (name : String) :
    Op (KnativeAdoption × Except ApiError Bool) := do
  let label := kind.text ++ " " ++ a.ns ++ "/" ++ name
  let key : TrafficKey := ⟨kind,⟨a.ns,name⟩⟩
  match ← Client.getTraffic key with
  | .error err => return (a,.error (err.wrap ("get " ++ label)))
  | .ok obj =>
    let body := obj.body.map Literal.read
    match snapshotOnce a name body with
    | (a,.error err) => return (a,.error (err.wrap ("snapshot " ++ label)))
    | (a,.ok _) =>
      match rewrite body with
      | .error err => return (a,.error (err.wrap ("reconcile " ++ label)))
      | .ok (_,false) => return (a,.ok false)
      | .ok (rewritten,true) =>
        match ← Client.patchTraffic key (mergePatchFrom body rewritten) with
        | .error err => return (a,.error (err.wrap ("patch " ++ label)))
        | .ok _ => return (a,.ok true)

def specTrafficServicePort (a : KnativeAdoption) : Option Int :=
  match a.spec.traffic with
  | none => none
  | some traffic => traffic.servicePort

def reconcileVirtualService (targetServicePort : Option Int) (a : KnativeAdoption) (name : String) :
    Op (KnativeAdoption × Except ApiError Bool) :=
  reconcileTrafficObject .virtualService snapshotVirtualServiceOnce
    (fun vs => stripSubsetFromTargetDestinations vs
      ⟨sourceName a,a.ns,specTrafficServicePort a,targetServicePort⟩) a name

def reconcileDestinationRule (a : KnativeAdoption) (name : String) :
    Op (KnativeAdoption × Except ApiError Bool) :=
  reconcileTrafficObject .destinationRule snapshotDestinationRuleOnce
    (fun dr => stripTargetServiceSubsets dr (sourceName a) a.ns) a name

/-! Reconciling all declared objects. -/

def trafficMode (a : KnativeAdoption) : TrafficMode :=
  match a.spec.traffic with
  | none => .inplace
  | some traffic => if traffic.mode = .unset then .inplace else traffic.mode

def TrafficMode.text : TrafficMode → String
  | .unset => ""
  | .inplace => "inplace"
  | .other text => text

def istioTraffic (a : KnativeAdoption) : IstioTraffic := (a.spec.traffic.bind (fun t => t.istio)).getD {}

def virtualServiceRefs (a : KnativeAdoption) : List String := (istioTraffic a).virtualServiceRefs

def destinationRuleRefs (a : KnativeAdoption) : List String := (istioTraffic a).destinationRuleRefs

def firstServicePort (svc : Service) : Option Int :=
  match svc.spec.ports with
  | [] => none
  | p::_ => if p.port ≤ 0 then none else some p.port

def resolveTrafficTargetServicePort (a : KnativeAdoption) : Op (Except ApiError (Option Int)) := do
  let fallback := specTrafficServicePort a
  match ← Client.getService ⟨a.ns,sourceName a⟩ with
  | .error err =>
    if err.isNotFound then return .ok fallback
    else return .error (err.wrap ("get target Service " ++ a.ns ++ "/" ++ sourceName a))
  | .ok svc => return .ok ((firstServicePort svc).or fallback)

def newObservedRoute (type : RouteType) (name : String) (ready : Bool) (msg : String) : ObservedRoute :=
  ⟨type,name,some ready,msg⟩

def setObservedRoutes (a : KnativeAdoption) (routes : List ObservedRoute) : KnativeAdoption :=
  { a with status := { a.status with traffic := if routes = [] then none else some ⟨routes⟩ } }

/-- The texts one kind of traffic object is reported with. -/
def emptyRefMessage : TrafficKind → String
  | .virtualService => "traffic.istio.virtualServiceRefs.name must not be empty"
  | .destinationRule => "traffic.istio.destinationRuleRefs.name must not be empty"

def changedMessage : TrafficKind → String
  | .virtualService => "subset removed from target destinations"
  | .destinationRule => "subsets removed"

/-- One reference: an error is observed and does not stop the others. -/
def reconcileRef (kind : TrafficKind) (step : KnativeAdoption → String → Op (KnativeAdoption × Except ApiError Bool))
    (a : KnativeAdoption) (name : String) : Op (KnativeAdoption × ObservedRoute × Option ApiError) := do
  if name = "" then
    let err := ApiError.text (emptyRefMessage kind)
    return (a,newObservedRoute (.object kind) "" false err.message,some err)
  else
    match ← step a name with
    | (a,.error err) => return (a,newObservedRoute (.object kind) name false err.message,some err)
    | (a,.ok changed) =>
      let msg := if changed then changedMessage kind else "already converged"
      return (a,newObservedRoute (.object kind) name true msg,none)

def reconcileRefs (kind : TrafficKind) (step : KnativeAdoption → String → Op (KnativeAdoption × Except ApiError Bool)) :
    List String → KnativeAdoption → List ObservedRoute → Option ApiError →
      Op (KnativeAdoption × List ObservedRoute × Option ApiError)
  | [],a,observed,firstErr => return (a,observed,firstErr)
  | name::rest,a,observed,firstErr => do
    let (a,route,err) ← reconcileRef kind step a name
    reconcileRefs kind step rest a (observed++[route]) (firstErr.or err)

def reconcileTraffic (a : KnativeAdoption) : Op (KnativeAdoption × Option ApiError) := do
  if !trafficEnabled a then return (a,none)
  else if trafficMode a ≠ .inplace then
    let err := ApiError.text ("unsupported traffic mode " ++ quote (trafficMode a).text)
    return (setObservedRoutes a [newObservedRoute .traffic "mode" false err.message],some err)
  else
    match ← resolveTrafficTargetServicePort a with
    | .error err =>
      return (setObservedRoutes a [newObservedRoute .traffic "servicePort" false err.message],some err)
    | .ok targetServicePort =>
      let (a,observed,firstErr) ←
        reconcileRefs .virtualService (reconcileVirtualService targetServicePort) (virtualServiceRefs a) a [] none
      let (a,observed,firstErr) ←
        reconcileRefs .destinationRule reconcileDestinationRule (destinationRuleRefs a) a observed firstErr
      return (setObservedRoutes a observed,firstErr)

end Ifaas
