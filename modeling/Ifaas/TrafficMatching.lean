import Ifaas.TrafficPorts

/-! Which destinations are those of the adopted Service. Host names are compared as text, yet
they denote one Service and one namespace by their dots; port numbers are narrowed to 32
bits before they are compared, and what is beyond that is taken for another port. -/
namespace Ifaas
open Library

/-! Host names. The table of lower-case letters is a parameter here. -/

def hostForm (lower : Char → Char) (host : String) : List Char := (trimDot (trimSpace host.toList)).map lower

def hostMatches (lower : Char → Char) (host serviceName ns : String) : Bool :=
  let h := hostForm lower host
  let svc := hostForm lower serviceName
  let space := hostForm lower ns
  if h = [] ∨ svc = [] ∨ space = [] then false
  else if h = svc ∨ h = svc ++ '.'::space ∨ h = svc ++ '.'::space ++ ".svc".toList then true
  else (svc ++ '.'::space ++ ".svc.".toList).isPrefixOf h

theorem serviceHostMatches_eq : serviceHostMatches = hostMatches lowerChar := rfl

/-- A name of a Service or a namespace: not empty, in lower case, without dots and without
white space around it. -/
structure PlainName (lower : Char → Char) (name : String) : Prop where
  nonempty : name ≠ ""
  lowered : name.toList.map lower = name.toList
  undotted : '.' ∉ name.toList
  trimmed : trimSpace name.toList = name.toList

def hostParts (lower : Char → Char) (host : String) : List (List Char) := (hostForm lower host).splitOn '.'

/-- The parts of a host that stands for a Service of a namespace. -/
def Denotes (svc space : List Char) (parts : List (List Char)) : Prop :=
  parts = [svc] ∨ parts = [svc,space] ∨ parts = [svc,space,"svc".toList] ∨
    ∃ further, further ≠ [] ∧ parts = svc::space::"svc".toList::further

section Hosts
variable {lower : Char → Char}

theorem hostForm_plain {name : String} (plain : PlainName lower name) : hostForm lower name = name.toList := by
  unfold hostForm trimDot
  rw [plain.trimmed,if_neg (fun last => plain.undotted (List.mem_of_getLast? last)),plain.lowered]

theorem PlainName.toList_ne_nil {name : String} (plain : PlainName lower name) : name.toList ≠ [] :=
  fun empty => plain.nonempty (String.toList_eq_nil_iff.mp empty)

theorem splitOn_undotted {part : List Char} (undotted : '.' ∉ part) : part.splitOn '.' = [part] := by
  have single : (['.'].intercalate [part]).splitOn '.' = [part] :=
    List.splitOn_intercalate '.' (by simpa using undotted) (by simp)
  simpa [List.intercalate] using single

theorem intercalate_parts (h : List Char) : ['.'].intercalate (h.splitOn '.') = h := List.intercalate_splitOn '.'

/-- A text is told by its parts. -/
theorem splitOn_inj (h other : List Char) : h.splitOn '.' = other.splitOn '.' ↔ h = other := by
  constructor
  · intro same
    rw [← intercalate_parts h,same,intercalate_parts]
  · exact congrArg _

variable {svc space : List Char} (named : '.' ∉ svc) (spaced : '.' ∉ space)
include named

theorem splitOn_service (rest : List Char) : (svc ++ '.'::rest).splitOn '.' = svc::rest.splitOn '.' :=
  List.splitOn_append_cons_self_of_not_mem named rest

theorem eq_service (h : List Char) : h = svc ↔ h.splitOn '.' = [svc] := by
  rw [← splitOn_inj,splitOn_undotted named]

include spaced

theorem eq_spaced (h : List Char) : h = svc ++ '.'::space ↔ h.splitOn '.' = [svc,space] := by
  rw [← splitOn_inj,splitOn_service named,splitOn_undotted spaced]

theorem splitOn_svc (rest : List Char) :
    (svc ++ '.'::(space ++ '.'::("svc".toList ++ '.'::rest))).splitOn '.' =
      svc::space::"svc".toList::rest.splitOn '.' := by
  rw [splitOn_service named,splitOn_service spaced,splitOn_service (by decide)]

theorem eq_svc (h : List Char) : h = svc ++ '.'::space ++ ".svc".toList ↔ h.splitOn '.' = [svc,space,"svc".toList] := by
  have shape : svc ++ '.'::space ++ ".svc".toList = svc ++ '.'::(space ++ '.'::"svc".toList) := by simp
  have last : "svc".toList.splitOn '.' = ["svc".toList] := splitOn_undotted (by decide)
  rw [shape,← splitOn_inj,splitOn_service named,splitOn_service spaced,last]

/-- What stands behind the prefix makes at least one more part. -/
theorem isPrefixOf_iff (h : List Char) : (svc ++ '.'::space ++ ".svc.".toList).isPrefixOf h = true ↔
    ∃ further, further ≠ [] ∧ h.splitOn '.' = svc::space::"svc".toList::further := by
  have shape (rest : List Char) : svc ++ '.'::space ++ ".svc.".toList ++ rest =
      svc ++ '.'::(space ++ '.'::("svc".toList ++ '.'::rest)) := by simp
  rw [List.isPrefixOf_iff_prefix]
  constructor
  · rintro ⟨rest,rfl⟩
    refine ⟨rest.splitOn '.',List.splitOnP_ne_nil _ _,?_⟩
    rw [shape,splitOn_svc named spaced]
  · rintro ⟨further,some_,parts⟩
    obtain ⟨part,others,rfl⟩ := List.exists_cons_of_ne_nil some_
    refine ⟨['.'].intercalate (part::others),?_⟩
    rw [shape,← intercalate_parts h,parts]
    simp [List.intercalate]

end Hosts

theorem hostMatches_iff {lower : Char → Char} {serviceName ns : String} (named : PlainName lower serviceName)
    (spaced : PlainName lower ns) (host : String) :
    hostMatches lower host serviceName ns = true ↔ Denotes serviceName.toList ns.toList (hostParts lower host) := by
  have some_ := named.toList_ne_nil
  unfold hostMatches Denotes hostParts
  rw [hostForm_plain named,hostForm_plain spaced]
  dsimp only
  generalize hostForm lower host = h
  rw [← eq_service named.undotted,← eq_spaced named.undotted spaced.undotted,← eq_svc named.undotted spaced.undotted,
    ← isPrefixOf_iff named.undotted spaced.undotted]
  by_cases empty : h = []
  · subst empty
    rw [if_pos (Or.inl rfl)]
    simp [Ne.symm some_]
  · rw [if_neg (by simp [empty,some_,spaced.toList_ne_nil])]
    split
    next whole =>
      rw [← or_assoc,← or_assoc]
      exact iff_of_true rfl (Or.inl (by rwa [or_assoc]))
    next other =>
      rw [not_or,not_or] at other
      simp only [other,false_or]

theorem Denotes.service {svc space : List Char} {parts : List (List Char)} (denotes : Denotes svc space parts) :
    parts.head? = some svc := by
  rcases denotes with rfl | rfl | rfl | ⟨further,_,rfl⟩ <;> rfl

theorem Denotes.space {svc space : List Char} {parts : List (List Char)} (denotes : Denotes svc space parts)
    (several : 2 ≤ parts.length) : parts[1]? = some space := by
  rcases denotes with rfl | rfl | rfl | ⟨further,_,rfl⟩
  · simp at several
  all_goals rfl

/-- A host stands for one Service of a namespace, and for one namespace when it has more than
one part. -/
theorem host_denotes (lower : Char → Char) (host serviceName ns : String) (named : PlainName lower serviceName)
    (spaced : PlainName lower ns) :
    serviceHostMatches = hostMatches lowerChar ∧
    (hostMatches lower host serviceName ns = true ↔ Denotes serviceName.toList ns.toList (hostParts lower host)) ∧
    (∀ other, PlainName lower other → hostMatches lower host serviceName ns = true →
      hostMatches lower host other ns = true → serviceName = other) ∧
    (∀ other space, PlainName lower other → PlainName lower space → 2 ≤ (hostParts lower host).length →
      hostMatches lower host serviceName ns = true → hostMatches lower host other space = true → ns = space) := by
  have here := hostMatches_iff named spaced host
  refine ⟨serviceHostMatches_eq,here,?_,?_⟩
  · intro other renamed first second
    have one := (here.mp first).service
    have two := ((hostMatches_iff renamed spaced host).mp second).service
    exact String.toList_inj.mp (Option.some.inj (one.symm.trans two))
  · intro other space renamed respaced several first second
    have one := (here.mp first).space several
    have two := ((hostMatches_iff renamed respaced host).mp second).space several
    exact String.toList_inj.mp (Option.some.inj (one.symm.trans two))

theorem host_denotes_sample : serviceHostMatches " Web.prod.svc.cluster.local." "web" "prod" = true ∧
    Denotes "web".toList "prod".toList (hostParts lowerChar " Web.prod.svc.cluster.local.") := by
  have named : PlainName lowerChar "web" := ⟨by decide,by decide,by decide,by decide⟩
  have spaced : PlainName lowerChar "prod" := ⟨by decide,by decide,by decide,by decide⟩
  obtain ⟨same,denotes,_,_⟩ := host_denotes lowerChar " Web.prod.svc.cluster.local." "web" "prod" named spaced
  have matched : serviceHostMatches " Web.prod.svc.cluster.local." "web" "prod" = true := by decide +kernel
  exact ⟨matched,denotes.mp matched⟩

/-! Port numbers. -/

/-- The port number of a destination, all of its 64 bits. -/
def portInteger (destination : Obj GoNumber) : Option Int :=
  ((destination.get "port").bind Json.asObj).bind (fun portBlock =>
    match nestedInt64 portBlock ["number"] with
    | .ok number => number
    | .error _ => none)

/-- The destinations of the Service are told by their integers, and those that are managed end
at the target port. -/
structure PortsExact (t : RouteTarget) (declared target : Int) (vs left : Obj GoNumber) : Prop where
  managed : ∀ d ∈ destinations.foci vs, destinationTargetsService d t.serviceName t.ns = true →
    ∀ number, portInteger d = some number → (t.Matches d = true ↔ number = declared ∨ number = target)
  rewritten : List.Forall₂ (fun d result => t.Matches d = true → portInteger result = some target)
    (destinations.foci vs) (destinations.foci left)

theorem destinationPort_eq (d : Obj GoNumber) : destinationPort d = (portInteger d).map toInt32 := by
  unfold destinationPort portInteger
  cases (d.get "port").bind Json.asObj with
  | none => rfl
  | some block =>
    simp only [Option.bind_some,nestedInt32]
    cases nestedInt64 block ["number"] with
    | error err => rfl
    | ok number => cases number <;> rfl

theorem toInt32_port (port : Int) (low : 1 ≤ port) (high : port ≤ 65535) : toInt32 port = port := by
  unfold toInt32
  rw [Int.bmod_eq_of_le] <;> omega

theorem nestedInt64_number (block : Obj GoNumber) (port : Int) :
    nestedInt64 (block.set "number" (portNumber port)) ["number"] = .ok (some port) := by
  have found : (block.set "number" (portNumber port)).get "number" = some (portNumber port) := by simp
  simp only [nestedInt64,nestedField,nestedFrom,Obj.json]
  rw [show Obj.get ⟨(block.set "number" (portNumber port)).keys,(block.set "number" (portNumber port)).vals⟩ "number" =
    some (portNumber port) from found]
  rfl

theorem portInteger_set (d block : Obj GoNumber) (port : Int) :
    portInteger (d.set "port" ((block.set "number" (portNumber port)).json)) = some port := by
  unfold portInteger
  rw [Obj.get_set,if_pos rfl]
  simp only [Option.bind_some,Obj.asObj_json,nestedInt64_number]

theorem portInteger_dropSubset (d : Obj GoNumber) : portInteger (dropSubset d).1 = portInteger d := by
  unfold portInteger
  rw [get_dropSubset,if_neg (by decide)]

/-- A destination that is pointed at a port has it, unless its number was taken for that port. -/
theorem portInteger_rewritten (t : RouteTarget) (d : Obj GoNumber) (port : Int) (wanted : t.targetServicePort = some port)
    (matched : t.Matches d = true) (whole : destinationPort d = some port → portInteger d = some port) :
    portInteger (rewriteDestination t d).1 = some port := by
  rw [rewriteDestination_matched t d matched,portInteger_dropSubset]
  rcases pointed_cases t d with ⟨still,there⟩ | ⟨other,same,_,moved⟩
  · rw [still]
    exact whole (there port wanted)
  · cases wanted.symm.trans same
    rw [moved,portInteger_set]

/-- The object the caller holds after the call. -/
theorem strip_foci (t : RouteTarget) (vs : Obj GoNumber) : destinations.foci (stripSubsetInPlace vs t).1 =
    (destinations.foci vs).map (fun d => (rewriteDestination t d).1) := by
  rw [stripSubsetInPlace_eq]
  rcases strip_walks t vs with ⟨⟨err,failed⟩,vacant⟩ | ⟨changed,walked,_⟩
  · rw [failed]
    simp [vacant]
  · rw [walked]
    exact destinations.foci_modify _ _

/-- Port numbers are compared as integers exactly where no number of the Service's destinations
is cut down to one of the two ports. -/
theorem ports_exact_iff (vs : Obj GoNumber) (serviceName ns : String) (declared target : Int)
    (low : 1 ≤ declared) (high : declared ≤ 65535) (least : 1 ≤ target) (most : target ≤ 65535) :
    PortsExact ⟨serviceName,ns,some declared,some target⟩ declared target vs
        (stripSubsetInPlace vs ⟨serviceName,ns,some declared,some target⟩).1 ↔
      ∀ d ∈ destinations.foci vs, destinationTargetsService d serviceName ns = true →
        ∀ number, portInteger d = some number → toInt32 number = declared ∨ toInt32 number = target →
          toInt32 number = number := by
  generalize same : (⟨serviceName,ns,some declared,some target⟩ : RouteTarget) = t
  have wanted : t.targetServicePort = some target := by rw [← same]
  have host (d : Obj GoNumber) : destinationTargetsService d serviceName ns = destinationTargetsService d t.serviceName t.ns := by
    rw [← same]
  have managed (d : Obj GoNumber) (targets : destinationTargetsService d t.serviceName t.ns = true) (number : Int)
      (held : portInteger d = some number) :
      t.Matches d = true ↔ toInt32 number = declared ∨ toInt32 number = target := by
    rw [matches_iff t target wanted (by omega) d targets,destinationPort_eq,held]
    simp only [← same,Option.map_some,Option.some.injEq]
    constructor
    · rintro (there | ⟨port,rfl,_,here⟩)
      · exact Or.inr there
      · exact Or.inl here
    · rintro (here | there)
      · exact Or.inr ⟨declared,rfl,by omega,here⟩
      · exact Or.inl there
  simp only [host]
  constructor
  · intro exact_ d member targets number held cut
    rcases (exact_.managed d member targets number held).mp ((managed d targets number held).mpr cut) with rfl | rfl
    · exact toInt32_port number low high
    · exact toInt32_port number least most
  · intro whole
    refine ⟨fun d member targets number held => ?_,?_⟩
    · rw [managed d targets number held]
      constructor
      · intro cut
        rwa [whole d member targets number held cut] at cut
      · rintro (rfl | rfl)
        · exact Or.inl (toInt32_port number low high)
        · exact Or.inr (toInt32_port number least most)
    · rw [strip_foci,List.forall₂_map_right_iff,List.forall₂_same]
      intro d member matched
      refine portInteger_rewritten t d target wanted matched (fun there => ?_)
      rw [destinationPort_eq] at there
      obtain ⟨number,held,cut⟩ := Option.map_eq_some_iff.mp there
      have targets : destinationTargetsService d t.serviceName t.ns = true := (Bool.and_eq_true_iff.mp matched).1
      rw [held,← whole d member targets number held (Or.inr cut),cut]

theorem ports_exact_sample :
    PortsExact Sample.web 5555 80 Sample.virtualService (stripSubsetInPlace Sample.virtualService Sample.web).1 := by
  have fits : (destinations.foci Sample.virtualService).all (fun d => (portInteger d).all (fun n => toInt32 n = n)) = true := by
    decide +kernel
  refine (ports_exact_iff Sample.virtualService "web" "prod" 5555 80 (by decide) (by decide) (by decide) (by decide)).mpr ?_
  intro d member _ number held _
  have whole := List.all_eq_true.mp fits d member
  rw [held] at whole
  exact of_decide_eq_true whole

namespace Sample

/-- One route to the Service. Its port is 80 in the low 32 bits. -/
def beyond : Obj GoNumber := (routes [route "web" 4294967376 "stable"]).map Literal.read

end Sample

/-- The number is taken for the live port 80: the destination is managed, and it keeps the
number, since it seems to be at the live port already. -/
theorem port_beyond_managed :
    (destinations.foci Sample.beyond).map portInteger = [some 4294967376] ∧
    (destinations.foci Sample.beyond).all (fun d => destinationTargetsService d "web" "prod" && Sample.web.Matches d) = true ∧
    (destinations.foci (stripSubsetInPlace Sample.beyond Sample.web).1).map portInteger = [some 4294967376] := by
  refine ⟨?_,?_,?_⟩ <;> decide +kernel

end Ifaas
