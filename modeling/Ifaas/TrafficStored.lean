import Ifaas.Frame
import Ifaas.TrafficRewrite

/-! Rewritten traffic objects in the store. Both rewrites change the specification in
one member only, so the merge patch of the operator stores exactly the rewritten
object, and what is read back from there is rewritten no further. -/
namespace Ifaas
open Library

/-- The rewrite of an object of either kind. -/
def rewriteOf (kind : TrafficKind) (t : RouteTarget) (body : Obj GoNumber) : Except ApiError (Obj GoNumber × Bool) :=
  match kind with
  | .virtualService => stripSubsetFromTargetDestinations body t
  | .destinationRule => stripTargetServiceSubsets body t.serviceName t.ns

theorem spec_of_nested (o : Obj GoNumber) (field : String) (value : Json GoNumber)
    (read : nestedField o ["spec",field] = .ok (some value)) :
    ∃ spec : Obj GoNumber, o.get "spec" = some spec.json ∧ spec.get field = some value := by
  cases held : (o.get "spec").bind Json.asObj with
  | none =>
    rcases nestedField_noSpec o field held with missing | ⟨err,failed⟩
    · rw [missing] at read
      cases read
    · rw [failed] at read
      cases read
  | some spec =>
    obtain ⟨member,found,shape⟩ := Option.bind_eq_some_iff.mp held
    rw [Json.asObj_eq_some member spec shape] at found
    rw [nestedField_inSpec o spec field found] at read
    exact ⟨spec,found,by injection read⟩

/-- What a rewrite does to an object: nothing, or it replaces the http entries, or it
removes the subsets. -/
inductive SpecChange (body : Obj GoNumber) : Obj GoNumber → Bool → Prop
  | none : SpecChange body body false
  | http (spec : Obj GoNumber) (size : Nat) (items : Fin size → Json GoNumber) (held : body.get "spec" = some spec.json) :
      SpecChange body (body.set "spec" (spec.set "http" (.arr size items)).json) true
  | subsets (spec : Obj GoNumber) (held : body.get "spec" = some spec.json) :
      SpecChange body (body.set "spec" (spec.erase "subsets").json) true

section Rewrite
variable (t : RouteTarget) (body result : Obj GoNumber) (changed : Bool)

theorem specChange_strip (done : stripSubsetFromTargetDestinations body t = .ok (result,changed)) :
    SpecChange body result changed := by
  unfold stripSubsetFromTargetDestinations nestedSlice at done
  cases read : nestedField body ["spec","http"] with
  | error err => rw [read] at done; cases done
  | ok found =>
    rw [read] at done
    cases found with
    | none =>
      cases done
      exact .none
    | some value =>
      cases value with
      | null | bool | num | str | obj => cases done
      | arr size https =>
        obtain ⟨spec,held,_⟩ := spec_of_nested body "http" _ read
        dsimp only at done
        split at done
        next =>
          simp only [setInSpec,held,Obj.json] at done
          cases done
          exact .http spec size _ held
        next =>
          cases done
          exact .none

theorem stripSubsets_cases (done : stripTargetServiceSubsets body t.serviceName t.ns = .ok (result,changed)) :
    (result = body ∧ changed = false) ∨
    ∃ spec : Obj GoNumber, ∃ host, body.get "spec" = some spec.json ∧ spec.get "host" = some (.str host) ∧
      serviceHostMatches host t.serviceName t.ns = true ∧
      result = body.set "spec" (spec.erase "subsets").json ∧ changed = true := by
  unfold stripTargetServiceSubsets at done
  cases named : nestedString body ["spec","host"] with
  | error err => rw [named] at done; cases done
  | ok read =>
    rw [named] at done
    cases read with
    | none =>
      cases done
      exact Or.inl ⟨rfl,rfl⟩
    | some host =>
      dsimp only at done
      cases target : serviceHostMatches host t.serviceName t.ns with
      | false =>
        rw [target] at done
        cases done
        exact Or.inl ⟨rfl,rfl⟩
      | true =>
        rw [target] at done
        cases listed : nestedField body ["spec","subsets"] with
        | error err => rw [listed] at done; cases done
        | ok found =>
          rw [listed] at done
          cases found with
          | none =>
            cases done
            exact Or.inl ⟨rfl,rfl⟩
          | some value =>
            obtain ⟨spec,held,_⟩ := spec_of_nested body "subsets" value listed
            have member : spec.get "host" = some (.str host) := by
              unfold nestedString at named
              rw [nestedField_inSpec body spec "host" held] at named
              cases entry : spec.get "host" with
              | none => rw [entry] at named; cases named
              | some text =>
                rw [entry] at named
                cases text with
                | str other => cases named; rfl
                | null | bool | num | arr | obj => cases named
            simp only [removeInSpec,held,Obj.json] at done
            cases done
            exact Or.inr ⟨spec,host,held,member,target,rfl,rfl⟩

theorem specChange_rewriteOf (kind : TrafficKind) (done : rewriteOf kind t body = .ok (result,changed)) :
    SpecChange body result changed := by
  cases kind with
  | virtualService => exact specChange_strip t body result changed done
  | destinationRule =>
    rcases stripSubsets_cases t body result changed done with ⟨rfl,rfl⟩ | ⟨spec,host,held,_,_,rfl,rfl⟩
    · exact .none
    · exact .subsets spec held

theorem stripSubsets_again (done : stripTargetServiceSubsets body t.serviceName t.ns = .ok (result,changed)) :
    stripTargetServiceSubsets result t.serviceName t.ns = .ok (result,false) := by
  rcases stripSubsets_cases t body result changed done with ⟨rfl,rfl⟩ | ⟨spec,host,held,member,target,rfl,rfl⟩
  · exact done
  · have found : (body.set "spec" (spec.erase "subsets").json).get "spec" = some (spec.erase "subsets").json := by simp
    have named : (spec.erase "subsets").get "host" = some (.str host) := by simp [member]
    unfold stripTargetServiceSubsets nestedString
    rw [nestedField_inSpec _ _ "host" found,named,nestedField_inSpec _ _ "subsets" found]
    simp [target]

/-- A rewritten object is rewritten no further. -/
theorem rewriteOf_again (kind : TrafficKind) (narrow : t.Narrow)
    (done : rewriteOf kind t body = .ok (result,changed)) : rewriteOf kind t result = .ok (result,false) := by
  cases kind with
  | virtualService => exact strip_again t body result changed narrow done
  | destinationRule => exact stripSubsets_again t body result changed done

end Rewrite

/-! Numbers. -/

theorem carries_destinations (P : GoNumber → Prop) :
    destinations.Carries (fun o => o.json.EachNum P) (fun o => o.json.EachNum P) := by
  have route : routeDestination.Carries (fun j => j.EachNum P) (fun o => o.json.EachNum P) := by
    apply Traversal.carries_comp _ _ _ _ _ (carries_objectStep P)
    exact Traversal.carries_comp _ _ _ _ _ (carries_memberStep P _) (carries_objectStep P)
  have http : httpDestinations.Carries (fun j => j.EachNum P) (fun o => o.json.EachNum P) := by
    apply Traversal.carries_comp _ _ _ _ _ (carries_objectStep P)
    apply Traversal.carries_comp _ _ _ _ _ (carries_memberStep P _)
    exact Traversal.carries_comp _ _ _ _ _ (carries_itemStep P) route
  apply Traversal.carries_comp _ _ _ _ _ (carries_memberStep P _)
  apply Traversal.carries_comp _ _ _ _ _ (carries_objectStep P)
  apply Traversal.carries_comp _ _ _ _ _ (carries_memberStep P _)
  exact Traversal.carries_comp _ _ _ _ _ (carries_itemStep P) http

theorem inInt64_of_narrow (port : Int) (narrow : toInt32 port = port) : Literal.InInt64 port := by
  unfold toInt32 at narrow
  unfold Literal.InInt64
  have below := Int.bmod_lt (x := port) (m := 2 ^ 32) (by decide)
  have above := Int.le_bmod (x := port) (m := 2 ^ 32) (by decide)
  rw [narrow] at below above
  omega

section Canonical
variable (t : RouteTarget) (narrow : t.Narrow)
include narrow

theorem canonical_pointed (d : Obj GoNumber) (canonical : d.Canonical) : (pointed t d).1.Canonical := by
  rcases pointed_cases t d with ⟨still,_⟩ | ⟨port,wanted,_,moved⟩
  · rw [still]
    exact canonical
  · rw [moved]
    apply Obj.eachNum_set _ _ _ _ canonical
    apply Obj.eachNum_set
    · cases held : d.get "port" with
      | none => exact fun key => absurd key.2 (by simp [Obj.empty,Obj.ofGet])
      | some value =>
        have each : value.EachNum _ := (Obj.eachNum_iff _ d).mp canonical "port" value held
        cases inner : value.asObj with
        | none =>
          rw [Option.bind_some,inner]
          exact fun key => absurd key.2 (by simp [Obj.empty,Obj.ofGet])
        | some block =>
          rw [Option.bind_some,inner]
          rw [Json.asObj_eq_some value block inner] at each
          exact each
    · change (GoNumber.int64 port).encode.read = .int64 port
      exact if_pos (inInt64_of_narrow port (narrow port wanted))

theorem canonical_rewriteDestination (d : Obj GoNumber) (canonical : d.Canonical) :
    (rewriteDestination t d).1.Canonical := by
  cases matched : t.Matches d with
  | false =>
    rw [rewriteDestination_other t d matched]
    exact canonical
  | true =>
    rw [rewriteDestination_matched t d matched]
    have ported := canonical_pointed t narrow d canonical
    unfold dropSubset
    split
    next => exact Obj.eachNum_erase _ _ _ ported
    next => exact ported

theorem canonical_rewriteOf (kind : TrafficKind) (body result : Obj GoNumber) (changed : Bool) (canonical : body.Canonical)
    (done : rewriteOf kind t body = .ok (result,changed)) : result.Canonical := by
  cases kind with
  | virtualService =>
    rcases strip_walks t body with ⟨⟨err,failed⟩,_⟩ | ⟨flag,walked,_⟩
    · rw [show stripSubsetFromTargetDestinations body t = .ok (result,changed) from done] at failed
      cases failed
    · rw [show stripSubsetFromTargetDestinations body t = .ok (result,changed) from done] at walked
      cases walked
      obtain ⟨places,kept⟩ := carries_destinations (fun x => x.encode.read = x) body canonical
      exact kept _ (fun d member => canonical_rewriteDestination t narrow d (places d member))
  | destinationRule =>
    rcases stripSubsets_cases t body result changed done with ⟨rfl,rfl⟩ | ⟨spec,host,held,_,_,rfl,rfl⟩
    · exact canonical
    · have each := (Obj.eachNum_iff _ body).mp canonical "spec" _ held
      exact Obj.eachNum_set _ _ _ _ canonical (Obj.eachNum_erase _ _ _ each)

end Canonical

/-! The stored object. -/

/-- The stored object is the rewritten form of another. -/
structure Rewritten (t : RouteTarget) (o stored : TrafficObject) : Prop where
  key : stored.key = o.key
  body : ∃ result changed, rewriteOf o.key.kind t (o.body.map Literal.read) = .ok (result,changed) ∧
    stored.body = result.map GoNumber.encode

theorem encode_set (o : Obj GoNumber) (key : String) (value : Json GoNumber) :
    (o.set key value).map GoNumber.encode = (o.map GoNumber.encode).set key (value.map GoNumber.encode) := by
  ext1 other
  rw [Obj.get_map,Obj.get_set,Obj.get_set,Obj.get_map]
  split <;> rfl

theorem encode_erase (o : Obj GoNumber) (key : String) :
    (o.erase key).map GoNumber.encode = (o.map GoNumber.encode).erase key := by
  ext1 other
  rw [Obj.get_map,Obj.get_erase,Obj.get_erase,Obj.get_map]
  split <;> rfl

theorem settle_specChange (body result : Obj GoNumber) (changed : Bool) (change : SpecChange body result changed) :
    settle (body.map GoNumber.encode) (result.map GoNumber.encode) = result.map GoNumber.encode := by
  have member (spec : Obj GoNumber) (held : body.get "spec" = some spec.json) :
      (body.map GoNumber.encode).get "spec" = some (spec.map GoNumber.encode).json := by
    rw [Obj.get_map,held]
    rfl
  cases change with
  | none => exact settle_self _
  | http spec size items held =>
    rw [encode_set]
    apply settle_set
    rw [member spec held,← Obj.json_map,settleAt_json,members_json,encode_set,settle_set]
    exact settleAt_plain _ _ rfl nofun
  | subsets spec held =>
    rw [encode_set]
    apply settle_set
    rw [member spec held,← Obj.json_map,settleAt_json,members_json,encode_erase,settle_erase]

theorem shaped_specChange (body result : Obj GoNumber) (changed : Bool) (change : SpecChange body result changed)
    (shaped : specShaped (body.map GoNumber.encode) = true) : specShaped (result.map GoNumber.encode) = true := by
  cases change with
  | none => exact shaped
  | http | subsets =>
    unfold specShaped
    rw [encode_set,Obj.get_set,if_pos rfl,← Obj.json_map]
    rfl

theorem rawSpecSnapshot_taken (o : TrafficObject) : ∃ spec, rawSpecSnapshot (o.body.map Literal.read) = .ok spec := by
  have shaped := o.shaped
  unfold specShaped at shaped
  unfold rawSpecSnapshot
  rw [Obj.get_map]
  cases held : o.body.get "spec" with
  | none => exact ⟨none,rfl⟩
  | some value =>
    rw [held] at shaped
    cases value with
    | obj keys vals => exact ⟨_,rfl⟩
    | null | bool | num | str | arr => cases shaped

/-- The snapshot of a stored object is taken. -/
theorem snapshotTrafficOnce_taken (kind : TrafficKind) (a : KnativeAdoption) (name : String) (o : TrafficObject) :
    (snapshotTrafficOnce kind a name (o.body.map Literal.read)).2 = .ok () := by
  obtain ⟨spec,read⟩ := rawSpecSnapshot_taken o
  unfold snapshotTrafficOnce
  split
  · rfl
  · dsimp only
    split
    · rfl
    · rw [read]

/-- The operator's patch stores the rewritten form. -/
theorem patchTraffic_rewrites (c : Cluster) (t : RouteTarget) (o : TrafficObject) (result : Obj GoNumber) (changed : Bool)
    (held : c.traffic.get o.key = some o) (done : rewriteOf o.key.kind t (o.body.map Literal.read) = .ok (result,changed)) :
    ∃ stored, Rewritten t o stored ∧
      c.patchTraffic o.key (mergePatchFrom (o.body.map Literal.read) result) =
        ({ c with traffic := c.traffic.put stored },.ok ()) := by
  have change := specChange_rewriteOf t _ result changed o.key.kind done
  have merged : o.body.mergePatch (mergePatchFrom (o.body.map Literal.read) result) = result.map GoNumber.encode := by
    have settled := settle_specChange _ _ _ change
    rw [Obj.encode_read] at settled
    rw [mergePatchFrom,Obj.encode_read]
    exact settled
  have shaped : specShaped (result.map GoNumber.encode) = true := by
    apply shaped_specChange _ _ _ change
    rw [Obj.encode_read]
    exact o.shaped
  refine ⟨⟨o.key,result.map GoNumber.encode,shaped⟩,⟨rfl,result,changed,done,rfl⟩,?_⟩
  simp only [Cluster.patchTraffic,held,merged,shaped,dite_true]

/-- A rewritten form is its own rewritten form. -/
theorem rewritten_again (t : RouteTarget) (narrow : t.Narrow) (o stored : TrafficObject) (first : Rewritten t o stored) :
    rewriteOf stored.key.kind t (stored.body.map Literal.read) = .ok (stored.body.map Literal.read,false) := by
  obtain ⟨result,changed,done,body⟩ := first.body
  have canonical := canonical_rewriteOf t narrow _ _ _ _ (Obj.canonical_read o.body) done
  rw [first.key,body,Obj.read_encode result canonical]
  exact rewriteOf_again t _ result changed _ narrow done

theorem rewritten_unique (t : RouteTarget) (narrow : t.Narrow) (o stored next : TrafficObject) (first : Rewritten t o stored)
    (second : Rewritten t stored next) : next = stored := by
  obtain ⟨result,changed,rewrote,body⟩ := second.body
  rw [rewritten_again t narrow o stored first] at rewrote
  cases rewrote
  rw [Obj.encode_read] at body
  obtain ⟨key,left,shaped⟩ := next
  obtain ⟨key',left',shaped'⟩ := stored
  cases second.key
  cases body
  rfl

theorem rewritten_self (t : RouteTarget) (o : TrafficObject) (result : Obj GoNumber)
    (done : rewriteOf o.key.kind t (o.body.map Literal.read) = .ok (result,false)) : Rewritten t o o := by
  have change := specChange_rewriteOf t _ result false o.key.kind done
  cases change
  exact ⟨rfl,_,false,done,(Obj.encode_read o.body).symm⟩

end Ifaas
