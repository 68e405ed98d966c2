import Ifaas.Library.Traversal
import Ifaas.TrafficAdapter

/-! The rewrite of a VirtualService as a walk over its route destinations. The loops of
the source with their type assertions and change flags come to one modification of the
destinations that match host and port, which is minimal and done after one round. -/
namespace Ifaas
open Library

/-- The destination of one route. -/
def routeDestination : Traversal (Json GoNumber) (Obj GoNumber) :=
  objectStep.comp ((memberStep "destination").comp objectStep)

/-- The destinations of one http entry. -/
def httpDestinations : Traversal (Json GoNumber) (Obj GoNumber) :=
  objectStep.comp ((memberStep "route").comp (itemStep.comp routeDestination))

/-- The http-route destinations of a VirtualService. -/
def destinations : Traversal (Obj GoNumber) (Obj GoNumber) :=
  (memberStep "spec").comp (objectStep.comp ((memberStep "http").comp (itemStep.comp httpDestinations)))

/-- The port number of a destination, as the source reads it. -/
def destinationPort (destination : Obj GoNumber) : Option Int :=
  ((destination.get "port").bind Json.asObj).bind (fun portBlock => nestedInt32 portBlock ["number"])

/-- Host and port of the destination are those the rewrite is for. -/
def RouteTarget.Matches (t : RouteTarget) (destination : Obj GoNumber) : Bool :=
  destinationTargetsService destination t.serviceName t.ns && destinationMatchesManagedPort destination t.managedPorts

/-- The target port is the int32 the source has for it. -/
def RouteTarget.Narrow (t : RouteTarget) : Prop := ∀ port, t.targetServicePort = some port → toInt32 port = port

/-- All that a rewrite may do to a destination: its subset goes and its port entry gets
the target port. -/
structure Adjusted (t : RouteTarget) (destination result : Obj GoNumber) : Prop where
  rest : ∀ key, key ≠ "subset" → key ≠ "port" → result.get key = destination.get key
  subset : result.get "subset" = none
  unported : t.targetServicePort = none → result.get "port" = destination.get "port"
  ported : ∀ port, t.targetServicePort = some port → destinationPort result = some port
  entry : ∀ port, t.targetServicePort = some port → result.get "port" = destination.get "port" ∨
    result.get "port" = some
      (((((destination.get "port").bind Json.asObj).getD Obj.empty).set "number" (portNumber port)).json)

/-! One destination. -/

section Destination
variable (t : RouteTarget) (d : Obj GoNumber)

theorem nestedInt32_number (block : Obj GoNumber) (port : Int) :
    nestedInt32 (block.set "number" (portNumber port)) ["number"] = some (toInt32 port) := by
  have found : (block.set "number" (portNumber port)).get "number" = some (portNumber port) := by simp
  simp only [nestedInt32,nestedInt64,nestedField,nestedFrom,Obj.json]
  rw [show Obj.get ⟨(block.set "number" (portNumber port)).keys,(block.set "number" (portNumber port)).vals⟩ "number" =
    some (portNumber port) from found]
  rfl

theorem destinationPort_set (block : Obj GoNumber) (port : Int) :
    destinationPort (d.set "port" ((block.set "number" (portNumber port)).json)) = some (toInt32 port) := by
  unfold destinationPort
  rw [Obj.get_set,if_pos rfl]
  exact nestedInt32_number block port

theorem get_dropSubset (key : String) :
    (dropSubset d).1.get key = if key = "subset" then none else d.get key := by
  unfold dropSubset
  by_cases same : key = "subset"
  · subst same
    rw [if_pos rfl]
    split
    next => simp
    next absent => exact absent
  · rw [if_neg same]
    split
    next => simp [same]
    next => rfl

theorem dropSubset_flag : (dropSubset d).2 = (d.get "subset").isSome := by
  unfold dropSubset
  cases d.get "subset" <;> rfl

theorem dropSubset_absent (absent : d.get "subset" = none) : dropSubset d = (d,false) := by
  unfold dropSubset
  rw [absent]

/-- The first half of a rewrite: the port. -/
def pointed (t : RouteTarget) (destination : Obj GoNumber) : Obj GoNumber × Bool :=
  match t.targetServicePort with
  | some port => ensureDestinationPort destination port
  | none => (destination,false)

/-- The port stays where it is the wanted one already, and is written over otherwise. -/
theorem pointed_cases :
    (pointed t d = (d,false) ∧ ∀ port, t.targetServicePort = some port → destinationPort d = some port) ∨
    ∃ port, t.targetServicePort = some port ∧ destinationPort d ≠ some port ∧
      pointed t d = (d.set "port"
        (((((d.get "port").bind Json.asObj).getD Obj.empty).set "number" (portNumber port)).json),true) := by
  unfold pointed destinationPort
  cases wanted : t.targetServicePort with
  | none => exact Or.inl ⟨rfl,nofun⟩
  | some port =>
    unfold ensureDestinationPort
    cases held : (d.get "port").bind Json.asObj with
    | none => exact Or.inr ⟨port,rfl,nofun,rfl⟩
    | some block =>
      by_cases there : nestedInt32 block ["number"] = some port
      · refine Or.inl ⟨if_pos there,fun other same => ?_⟩
        cases same
        exact there
      · exact Or.inr ⟨port,rfl,there,if_neg there⟩

theorem pointed_there (there : ∀ port, t.targetServicePort = some port → destinationPort d = some port) :
    pointed t d = (d,false) := by
  rcases pointed_cases t d with ⟨still,_⟩ | ⟨port,wanted,elsewhere,_⟩
  · exact still
  · exact absurd (there port wanted) elsewhere

theorem rewriteDestination_matched (matched : t.Matches d = true) :
    rewriteDestination t d = ((dropSubset (pointed t d).1).1,(pointed t d).2 || (dropSubset (pointed t d).1).2) := by
  unfold RouteTarget.Matches at matched
  obtain ⟨host,port⟩ := Bool.and_eq_true_iff.mp matched
  unfold rewriteDestination
  rw [host,port]
  rfl

theorem rewriteDestination_other (other : t.Matches d = false) : rewriteDestination t d = (d,false) := by
  unfold RouteTarget.Matches at other
  unfold rewriteDestination
  cases host : destinationTargetsService d t.serviceName t.ns with
  | false => rfl
  | true =>
    rw [host,Bool.true_and] at other
    rw [other]
    rfl

theorem get_pointed_other (key : String) (other : key ≠ "port") : (pointed t d).1.get key = d.get key := by
  rcases pointed_cases t d with ⟨still,_⟩ | ⟨port,_,_,moved⟩
  · rw [still]
  · rw [moved,Obj.get_set,if_neg other]

theorem get_pointed_port (port : Int) (wanted : t.targetServicePort = some port) :
    (pointed t d).1.get "port" = d.get "port" ∨ (pointed t d).1.get "port" = some
      (((((d.get "port").bind Json.asObj).getD Obj.empty).set "number" (portNumber port)).json) := by
  rcases pointed_cases t d with ⟨still,_⟩ | ⟨other,same,_,moved⟩
  · exact Or.inl (by rw [still])
  · cases wanted.symm.trans same
    exact Or.inr (by rw [moved,Obj.get_set,if_pos rfl])

theorem destinationPort_pointed (port : Int) (wanted : t.targetServicePort = some port) (narrow : t.Narrow) :
    destinationPort (pointed t d).1 = some port := by
  rcases pointed_cases t d with ⟨still,there⟩ | ⟨other,same,_,moved⟩
  · rw [still]
    exact there port wanted
  · cases wanted.symm.trans same
    rw [moved,destinationPort_set,narrow port wanted]

theorem destinationPort_dropSubset : destinationPort (dropSubset d).1 = destinationPort d := by
  unfold destinationPort
  rw [get_dropSubset,if_neg (by decide)]

theorem rewriteDestination_adjusted (matched : t.Matches d = true) (narrow : t.Narrow) :
    Adjusted t d (rewriteDestination t d).1 := by
  rw [rewriteDestination_matched t d matched]
  refine ⟨fun key subset port => ?_,?_,fun unwanted => ?_,fun port wanted => ?_,fun port wanted => ?_⟩
  · rw [get_dropSubset,if_neg subset,get_pointed_other t d key port]
  · rw [get_dropSubset,if_pos rfl]
  · rw [get_dropSubset,if_neg (by decide),pointed_there t d (by simp [unwanted])]
  · rw [destinationPort_dropSubset]
    exact destinationPort_pointed t d port wanted narrow
  · rw [get_dropSubset,if_neg (by decide)]
    exact get_pointed_port t d port wanted

theorem rewriteDestination_honest : Traversal.Honest (rewriteDestination t) := by
  intro d unset
  cases matched : t.Matches d with
  | false => rw [rewriteDestination_other t d matched]
  | true =>
    rw [rewriteDestination_matched t d matched] at unset ⊢
    obtain ⟨port,subset⟩ := Bool.or_eq_false_iff.mp unset
    rcases pointed_cases t d with ⟨still,_⟩ | ⟨number,_,_,moved⟩
    · rw [still,dropSubset_flag] at subset
      have absent : d.get "subset" = none := by simpa using subset
      rw [still,dropSubset_absent d absent]
    · rw [moved] at port
      cases port

/-- A destination as the rewrite leaves it is left alone by the next one. -/
theorem rewriteDestination_done (there : ∀ port, t.targetServicePort = some port → destinationPort d = some port)
    (absent : d.get "subset" = none) : rewriteDestination t d = (d,false) := by
  cases matched : t.Matches d with
  | false => exact rewriteDestination_other t d matched
  | true => rw [rewriteDestination_matched t d matched,pointed_there t d there,dropSubset_absent d absent]; rfl

theorem rewriteDestination_again (narrow : t.Narrow) :
    rewriteDestination t (rewriteDestination t d).1 = ((rewriteDestination t d).1,false) := by
  cases matched : t.Matches d with
  | false => rw [rewriteDestination_other t d matched,rewriteDestination_other t d matched]
  | true =>
    have adjusted := rewriteDestination_adjusted t d matched narrow
    exact rewriteDestination_done t _ adjusted.ported adjusted.subset

/-- The flag of a rewrite says whether the destination is another one. -/
theorem rewriteDestination_changed (narrow : t.Narrow) :
    (rewriteDestination t d).2 = true ↔ (rewriteDestination t d).1 ≠ d := by
  constructor
  · intro changed same
    have again := rewriteDestination_again t d narrow
    rw [same] at again
    rw [again] at changed
    cases changed
  · intro differs
    cases flag : (rewriteDestination t d).2 with
    | true => rfl
    | false => exact absurd (rewriteDestination_honest t d flag) differs

end Destination

/-! The walk. -/

section Walk
variable (t : RouteTarget)

theorem reports_rewriteRoute : routeDestination.Reports (rewriteDestination t) (rewriteRoute t) := by
  intro route
  have still := routeDestination.reports_still _ (rewriteDestination_honest t) route
  cases shape : route.asObj with
  | none =>
    rw [show rewriteRoute t route = (route,false) by simp only [rewriteRoute,shape]]
    apply still
    simp [routeDestination,Traversal.comp,objectStep,shape]
  | some o =>
    have inside : routeDestination.foci route = ((o.get "destination").bind Json.asObj).toList := by
      cases held : o.get "destination" <;> simp [routeDestination,Traversal.comp,objectStep,memberStep,shape,held]
    cases target : (o.get "destination").bind Json.asObj with
    | none =>
      rw [show rewriteRoute t route = (route,false) by simp only [rewriteRoute,shape,target]]
      apply still
      simp [inside,target]
    | some destination =>
      rw [target] at inside
      cases flag : (rewriteDestination t destination).2 with
      | false =>
        rw [show rewriteRoute t route = (route,false) by simp [rewriteRoute,shape,target,flag]]
        apply still
        simpa [inside] using flag
      | true =>
        rw [show rewriteRoute t route = ((o.set "destination" (rewriteDestination t destination).1.json).json,true) by
          simp [rewriteRoute,shape,target,flag]]
        obtain ⟨value,held,object⟩ := Option.bind_eq_some_iff.mp target
        constructor
        · simp [routeDestination,Traversal.comp,objectStep,memberStep,shape,held,object]
        · simp [inside,flag]

theorem anyItem_iff (size : Nat) (holds : Fin size → Bool) : anyItem size holds = true ↔ ∃ i, holds i = true := by
  simp [anyItem]

/-- A loop over the items of an array with one flag for all of them. -/
theorem reports_items {walk : Json GoNumber → Json GoNumber × Bool} (inner : Traversal (Json GoNumber) (Obj GoNumber))
    (step : Obj GoNumber → Obj GoNumber × Bool) (reports : inner.Reports step walk) (size : Nat)
    (items : Fin size → Json GoNumber) :
    Json.arr size (fun i => (walk (items i)).1) = (itemStep.comp inner).modify (fun d => (step d).1) (.arr size items) ∧
    (anyItem size (fun i => (walk (items i)).2) = true ↔
      ∃ d ∈ (itemStep.comp inner).foci (.arr size items), (step d).2 = true) := by
  constructor
  · simp only [Traversal.comp,itemStep]
    congr 1
    funext i
    exact (reports (items i)).1
  · rw [anyItem_iff]
    constructor
    · rintro ⟨i,flag⟩
      obtain ⟨d,member,set⟩ := (reports (items i)).2.mp flag
      exact ⟨d,List.mem_flatMap.mpr ⟨items i,List.mem_ofFn.mpr ⟨i,rfl⟩,member⟩,set⟩
    · rintro ⟨d,member,set⟩
      obtain ⟨item,listed,inside⟩ := List.mem_flatMap.mp member
      obtain ⟨i,rfl⟩ := List.mem_ofFn.mp listed
      exact ⟨i,(reports (items i)).2.mpr ⟨d,inside,set⟩⟩

theorem reports_rewriteHttp : httpDestinations.Reports (rewriteDestination t) (rewriteHttp t) := by
  intro http
  have still := httpDestinations.reports_still _ (rewriteDestination_honest t) http
  cases shape : http.asObj with
  | none =>
    rw [show rewriteHttp t http = (http,false) by simp only [rewriteHttp,shape]]
    apply still
    simp [httpDestinations,Traversal.comp,objectStep,shape]
  | some o =>
    have inside : httpDestinations.foci http =
        ((o.get "route").toList).flatMap (itemStep.comp routeDestination).foci := by
      simp [httpDestinations,Traversal.comp,objectStep,memberStep,shape]
    cases held : o.get "route" with
    | none =>
      rw [show rewriteHttp t http = (http,false) by simp [rewriteHttp,shape,held]]
      apply still
      simp [inside,held]
    | some value =>
      rw [held] at inside
      cases value with
      | null | bool | num | str | obj =>
        rw [show rewriteHttp t http = (http,false) by simp [rewriteHttp,shape,held]]
        apply still
        simp [inside,Traversal.comp,itemStep]
      | arr size routes =>
        obtain ⟨value,flag⟩ := reports_items routeDestination _ (reports_rewriteRoute t) size routes
        have all : httpDestinations.foci http = (itemStep.comp routeDestination).foci (.arr size routes) := by
          simpa using inside
        rw [← all] at flag
        cases changed : anyItem size (fun j => (rewriteRoute t (routes j)).2) with
        | false =>
          rw [show rewriteHttp t http = (http,false) by simp [rewriteHttp,shape,held,changed]]
          exact still (Traversal.unflagged flag changed)
        | true =>
          rw [show rewriteHttp t http =
            ((o.set "route" (.arr size (fun j => (rewriteRoute t (routes j)).1))).json,true) by
              simp [rewriteHttp,shape,held,changed]]
          constructor
          · rw [value]
            simp [httpDestinations,Traversal.comp,objectStep,memberStep,shape,held]
          · exact ⟨fun _ => flag.mp changed,fun _ => rfl⟩

/-! The whole VirtualService. -/

theorem nestedField_spec (o : Obj GoNumber) (field : String) :
    nestedField o ["spec",field] =
      match o.get "spec" with
      | none => .ok none
      | some value => nestedFrom ["spec"] value [field] := rfl

theorem nestedField_inSpec (o spec : Obj GoNumber) (field : String) (held : o.get "spec" = some spec.json) :
    nestedField o ["spec",field] = .ok (spec.get field) := by
  rw [nestedField_spec,held]
  change (match spec.get field with | none => _ | some inner => _) = _
  cases spec.get field <;> rfl

theorem nestedField_noSpec (o : Obj GoNumber) (field : String) (absent : (o.get "spec").bind Json.asObj = none) :
    nestedField o ["spec",field] = .ok none ∨ ∃ err, nestedField o ["spec",field] = .error err := by
  rw [nestedField_spec]
  cases held : o.get "spec" with
  | none => exact Or.inl rfl
  | some value =>
    rw [held] at absent
    cases value with
    | null => exact Or.inl rfl
    | obj keys vals => cases absent
    | bool | num | str | arr => exact Or.inr ⟨_,rfl⟩

/-- The rewrite walks over the destinations; where it cannot read the http entries there
are none. -/
theorem strip_walks (vs : Obj GoNumber) :
    ((∃ err, stripSubsetFromTargetDestinations vs t = .error err) ∧ destinations.foci vs = []) ∨
    ∃ changed, stripSubsetFromTargetDestinations vs t =
        .ok (destinations.modify (fun d => (rewriteDestination t d).1) vs,changed) ∧
      (changed = true ↔ ∃ d ∈ destinations.foci vs, (rewriteDestination t d).2 = true) := by
  have still (unset : ∀ d ∈ destinations.foci vs, (rewriteDestination t d).2 = false)
      (same : stripSubsetFromTargetDestinations vs t = .ok (vs,false)) :
      ∃ changed, stripSubsetFromTargetDestinations vs t =
        .ok (destinations.modify (fun d => (rewriteDestination t d).1) vs,changed) ∧
      (changed = true ↔ ∃ d ∈ destinations.foci vs, (rewriteDestination t d).2 = true) := by
    obtain ⟨value,flag⟩ := destinations.reports_still _ (rewriteDestination_honest t) vs unset
    exact ⟨false,by rw [← value,same],flag⟩
  cases held : (vs.get "spec").bind Json.asObj with
  | none =>
    have vacant : destinations.foci vs = [] := by
      cases found : vs.get "spec" with
      | none => simp [destinations,Traversal.comp,memberStep,found]
      | some value =>
        rw [found,Option.bind_some] at held
        simp [destinations,Traversal.comp,memberStep,objectStep,found,held]
    rcases nestedField_noSpec vs "http" held with missing | ⟨err,failed⟩
    · refine Or.inr (still (by simp [vacant]) ?_)
      simp only [stripSubsetFromTargetDestinations,nestedSlice,missing]
    · refine Or.inl ⟨⟨err.wrap "read spec.http",?_⟩,vacant⟩
      simp only [stripSubsetFromTargetDestinations,nestedSlice,failed]
  | some spec =>
    obtain ⟨value,found,shape⟩ := Option.bind_eq_some_iff.mp held
    rw [Json.asObj_eq_some value spec shape] at found
    have inside : destinations.foci vs = ((spec.get "http").toList).flatMap (itemStep.comp httpDestinations).foci := by
      simp [destinations,Traversal.comp,memberStep,objectStep,found]
    have read := nestedField_inSpec vs spec "http" found
    cases entries : spec.get "http" with
    | none =>
      refine Or.inr (still (by simp [inside,entries]) ?_)
      simp only [stripSubsetFromTargetDestinations,nestedSlice,read,entries]
    | some http =>
      rw [entries] at inside read
      cases http with
      | null | bool | num | str | obj =>
        refine Or.inl ⟨?_,?_⟩
        · simp only [stripSubsetFromTargetDestinations,nestedSlice,read]
          exact ⟨_,rfl⟩
        · simp [inside,Traversal.comp,itemStep]
      | arr size https =>
        obtain ⟨value,flag⟩ := reports_items httpDestinations _ (reports_rewriteHttp t) size https
        have all : destinations.foci vs = (itemStep.comp httpDestinations).foci (.arr size https) := by
          simpa using inside
        rw [← all] at flag
        cases changed : anyItem size (fun i => (rewriteHttp t (https i)).2) with
        | false =>
          refine Or.inr (still (Traversal.unflagged flag changed) ?_)
          simp [stripSubsetFromTargetDestinations,nestedSlice,read,changed]
        | true =>
          refine Or.inr ⟨true,?_,fun _ => flag.mp changed,fun _ => rfl⟩
          have written : destinations.modify (fun d => (rewriteDestination t d).1) vs =
              vs.set "spec" ((spec.set "http" (.arr size (fun i => (rewriteHttp t (https i)).1))).json) := by
            rw [value]
            simp [destinations,Traversal.comp,memberStep,objectStep,found,entries]
          rw [written]
          simp only [stripSubsetFromTargetDestinations,nestedSlice,read,changed,if_true,setInSpec,found,Obj.json]

end Walk

/-! The object in place. -/

/-- `setInSpec` on the object a caller holds: what it holds afterwards, and the error. -/
def setInSpecInPlace (o : Obj GoNumber) (field : String) (value : Json GoNumber) : Obj GoNumber × Option ApiError :=
  match o.get "spec" with
  | none => (o.set "spec" ((Obj.empty.set field value).json),none)
  | some (.obj keys vals) => (o.set "spec" ((Obj.set ⟨keys,vals⟩ field value).json),none)
  | some _ => (o,some (.text ("value cannot be set because .spec is not a map[string]interface\x7b\x7d")))

/-- The rewrite on the object a caller holds, which the source changes in place. -/
def stripSubsetInPlace (vs : Obj GoNumber) (t : RouteTarget) : Obj GoNumber × Except ApiError Bool :=
  match nestedSlice vs ["spec","http"] with
  | .error err => (vs,.error (err.wrap "read spec.http"))
  | .ok none => (vs,.ok false)
  | .ok (some https) =>
    if anyItem https.size (fun i => (rewriteHttp t (https.items i)).2) then
      match setInSpecInPlace vs "http" (.arr https.size (fun i => (rewriteHttp t (https.items i)).1)) with
      | (left,some err) => (left,.error (err.wrap "write spec.http"))
      | (written,none) => (written,.ok true)
    else (vs,.ok false)

theorem stripSubsetInPlace_eq (vs : Obj GoNumber) (t : RouteTarget) :
    stripSubsetInPlace vs t =
      match stripSubsetFromTargetDestinations vs t with
      | .error err => (vs,.error err)
      | .ok (result,changed) => (result,.ok changed) := by
  unfold stripSubsetInPlace stripSubsetFromTargetDestinations
  cases nestedSlice vs ["spec","http"] with
  | error err => rfl
  | ok read =>
    cases read with
    | none => rfl
    | some https =>
      dsimp only
      split
      next =>
        unfold setInSpecInPlace setInSpec
        cases vs.get "spec" with
        | none => rfl
        | some value => cases value <;> rfl
      next => rfl

/-- One round is enough: the walk with the rewrite does nothing to its own result. -/
theorem strip_again (t : RouteTarget) (vs result : Obj GoNumber) (changed : Bool) (narrow : t.Narrow)
    (done : stripSubsetFromTargetDestinations vs t = .ok (result,changed)) :
    stripSubsetFromTargetDestinations result t = .ok (result,false) := by
  rcases strip_walks t vs with ⟨⟨err,failed⟩,_⟩ | ⟨flag,walked,_⟩
  · rw [failed] at done
    cases done
  · have first : result = destinations.modify (fun d => (rewriteDestination t d).1) vs := by
      rw [walked] at done
      cases done
      rfl
    have places : destinations.foci result = (destinations.foci vs).map (fun d => (rewriteDestination t d).1) := by
      rw [first,destinations.foci_modify]
    rcases strip_walks t result with ⟨⟨err,failed⟩,vacant⟩ | ⟨again,rewalked,reported⟩
    · -- without destinations the first round changed nothing, so the second reads what the first read
      have none_before : destinations.foci vs = [] := List.map_eq_nil_iff.mp (places.symm.trans vacant)
      have same : result = vs := by
        rw [first]
        exact destinations.modify_fixed _ vs (by simp [none_before])
      rw [same,walked] at failed
      cases failed
    · have unset : ∀ d ∈ destinations.foci result, rewriteDestination t d = (d,false) := by
        intro d member
        rw [places] at member
        obtain ⟨before,_,rfl⟩ := List.mem_map.mp member
        exact rewriteDestination_again t before narrow
      have quiet : again = false := by
        cases again with
        | false => rfl
        | true =>
          obtain ⟨d,member,set⟩ := reported.mp rfl
          rw [unset d member] at set
          cases set
      rw [rewalked,quiet,destinations.modify_fixed _ result (fun d member => by rw [unset d member])]

/-- The rewrite did what it is for and no more. -/
structure Minimal (t : RouteTarget) (vs left : Obj GoNumber) (changed : Bool) : Prop where
  flag : changed = true ↔ left ≠ vs
  outside : destinations.modify (fun _ => Obj.empty) left = destinations.modify (fun _ => Obj.empty) vs
  inside : List.Forall₂ (fun d result => if t.Matches d then Adjusted t d result else result = d)
    (destinations.foci vs) (destinations.foci left)
  subsets : ∀ d ∈ destinations.foci left, t.Matches d = true → d.get "subset" = none
  again : stripSubsetInPlace left t = (left,.ok false)

theorem rewrite_minimal (vs : Obj GoNumber) (t : RouteTarget) (narrow : t.Narrow) :
    match stripSubsetInPlace vs t with
    | (left,.error _) => left = vs
    | (left,.ok changed) => Minimal t vs left changed := by
  have each (d : Obj GoNumber) :
      if t.Matches d then Adjusted t d (rewriteDestination t d).1 else (rewriteDestination t d).1 = d := by
    cases matched : t.Matches d with
    | false => simp [rewriteDestination_other t d matched]
    | true => simpa using rewriteDestination_adjusted t d matched narrow
  rw [stripSubsetInPlace_eq]
  rcases strip_walks t vs with ⟨⟨err,failed⟩,_⟩ | ⟨changed,walked,reported⟩
  · rw [failed]
  · rw [walked]
    refine ⟨?_,destinations.modify_blank _ _ _,?_,?_,?_⟩
    · rw [reported,ne_eq,destinations.modify_eq_self]
      simp only [rewriteDestination_changed t _ narrow]
      push Not
      rfl
    · rw [destinations.foci_modify,List.forall₂_map_right_iff,List.forall₂_same]
      exact fun d _ => each d
    · intro d member matched
      rw [destinations.foci_modify] at member
      obtain ⟨before,_,rfl⟩ := List.mem_map.mp member
      have step := each before
      cases first : t.Matches before with
      | false =>
        rw [rewriteDestination_other t before first] at matched
        rw [first] at matched
        cases matched
      | true =>
        rw [first,if_pos rfl] at step
        exact step.subset
    · rw [stripSubsetInPlace_eq,strip_again t vs _ changed narrow walked]

namespace Sample

def route (host : String) (port : Int) (subset : String) : Json Literal :=
  (Obj.ofList [("destination",(Obj.ofList [("host",.str host),
    ("port",(Obj.ofList [("number",.num (.whole port))]).json),("subset",.str subset)]).json)]).json

/-- The body of a VirtualService with one http entry. -/
def routes (entries : List (Json Literal)) : Obj Literal :=
  Obj.ofList [("spec",(Obj.ofList [("http",.arr 1 (fun _ =>
    (Obj.ofList [("route",.arr entries.length entries.get)]).json))]).json)]

def virtualService : Obj GoNumber :=
  (routes [route "web" 5555 "stable",route "web" 6666 "other",route "legacy" 5555 "old"]).map Literal.read

def web : RouteTarget := ⟨"web","prod",some 5555,some 80⟩

end Sample

theorem rewrite_minimal_sample :
    Sample.web.Narrow ∧ (stripSubsetInPlace Sample.virtualService Sample.web).2.toOption = some true ∧
      match stripSubsetInPlace Sample.virtualService Sample.web with
      | (left,.error _) => left = Sample.virtualService
      | (left,.ok changed) => Minimal Sample.web Sample.virtualService left changed := by
  have narrow : Sample.web.Narrow := by
    intro port wanted
    cases wanted
    decide
  exact ⟨narrow,by decide +kernel,rewrite_minimal Sample.virtualService Sample.web narrow⟩

end Ifaas
