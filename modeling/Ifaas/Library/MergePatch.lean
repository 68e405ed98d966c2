import Ifaas.Library.Json

/-! JSON merge patches. `createPatch` is the difference a client sends to turn one
object into another and `mergePatch` is what a server does with it: nested objects
are merged, null removes a member, everything else replaces. `settle a b` is what
the server holds after the patch from `a` to `b` was applied to `a`. It is `b` where
`b` has no null, and a list of targets can be settled again from any point without
a change of the result. -/
namespace Ifaas.Library

variable {ν : Type}

/-- The members a patch is merged into: a target that is no object counts as empty. -/
def members : Option (Json ν) → Obj ν
  | some (.obj keys vals) => ⟨keys,vals⟩
  | _ => Obj.empty

def mergeValue : Json ν → Option (Json ν) → Json ν
  | .obj keys vals,target =>
    (Obj.ofGet ((members target).keys ∪ keys) (fun key =>
      if inside : key ∈ keys then
        if (vals ⟨key,inside⟩).isNull then none
        else some (mergeValue (vals ⟨key,inside⟩) ((members target).get key))
      else (members target).get key)).json
  | patch,_ => patch

def Obj.mergePatch (target patch : Obj ν) : Obj ν :=
  members (some (mergeValue patch.json (some target.json)))

def diffValue [DecidableEq ν] : Json ν → Json ν → Json ν
  | .obj keys vals,.obj olds values =>
    (Obj.ofGet (olds ∪ keys) (fun key =>
      if inside : key ∈ keys then
        match Obj.get ⟨olds,values⟩ key with
        | none => some (vals ⟨key,inside⟩)
        | some old => if old = vals ⟨key,inside⟩ then none else some (diffValue (vals ⟨key,inside⟩) old)
      else some .null)).json
  | value,_ => value

def Obj.createPatch [DecidableEq ν] (original modified : Obj ν) : Obj ν :=
  members (some (diffValue modified.json original.json))

@[simp] theorem members_json (o : Obj ν) : members (some o.json) = o := rfl

@[simp] theorem members_none : members (none : Option (Json ν)) = Obj.empty := rfl

theorem members_of_asObj_none (j : Json ν) (plain : j.asObj = none) : members (some j) = Obj.empty := by
  cases j with
  | obj keys vals => cases plain
  | null | bool | num | str | arr => rfl

def mergeAt (target patch : Option (Json ν)) : Option (Json ν) :=
  match patch with
  | none => target
  | some value => if value.isNull then none else some (mergeValue value target)

theorem get_mergeValue_obj (patch : Obj ν) (target : Option (Json ν)) (key : String) :
    (members (some (mergeValue patch.json target))).get key =
      mergeAt ((members target).get key) (patch.get key) := by
  simp only [Obj.json,mergeValue,mergeAt]
  change (members (some (Obj.json _))).get key = _
  rw [members_json,Obj.get_ofGet]
  by_cases inside : key ∈ patch.keys
  · have found : patch.get key = some (patch.vals ⟨key,inside⟩) := patch.get_vals ⟨key,inside⟩
    simp [inside,found]
  · have absent : patch.get key = none := by simp [Obj.get,inside]
    simp only [inside,dite_false,absent,Finset.mem_union,or_false]
    cases found : (members target).get key with
    | none => simp
    | some v =>
      have listed : key ∈ (members target).keys := (Obj.get_isSome _ key).mp (by simp [found])
      simp [listed]

theorem Obj.get_mergePatch (target patch : Obj ν) (key : String) :
    (target.mergePatch patch).get key = mergeAt (target.get key) (patch.get key) :=
  get_mergeValue_obj patch (some target.json) key

theorem mergeValue_json (patch : Obj ν) (target : Option (Json ν)) :
    mergeValue patch.json target = ((members target).mergePatch patch).json := by
  apply Json.asObj_eq_some
  rfl

theorem mergeValue_plain (patch : Json ν) (target : Option (Json ν)) (plain : patch.asObj = none) :
    mergeValue patch target = patch := by
  cases patch with
  | obj keys vals => cases plain
  | null | bool | num | str | arr => rfl

theorem isNull_json (o : Obj ν) : o.json.isNull = false := rfl

section Difference
variable [DecidableEq ν]

def diffAt (original modified : Option (Json ν)) : Option (Json ν) :=
  match modified,original with
  | some value,some old => if old = value then none else some (diffValue value old)
  | some value,none => some value
  | none,some _ => some .null
  | none,none => none

theorem Obj.get_createPatch (original modified : Obj ν) (key : String) :
    (original.createPatch modified).get key = diffAt (original.get key) (modified.get key) := by
  unfold Obj.createPatch
  simp only [Obj.json,diffValue]
  change (members (some (Obj.json _))).get key = _
  rw [members_json,Obj.get_ofGet]
  by_cases inside : key ∈ modified.keys
  · have found : modified.get key = some (modified.vals ⟨key,inside⟩) := modified.get_vals ⟨key,inside⟩
    simp only [Finset.mem_union,inside,or_true,if_true,dite_true,found,diffAt]
    cases original.get key <;> rfl
  · have absent : modified.get key = none := by simp [Obj.get,inside]
    simp only [Finset.mem_union,inside,or_false,dite_false,absent]
    cases found : original.get key with
    | none =>
      have unlisted : key ∉ original.keys := by
        intro listed
        have := (original.get_isSome key).mpr listed
        simp [found] at this
      simp [unlisted,diffAt]
    | some v =>
      have listed : key ∈ original.keys := (original.get_isSome key).mp (by simp [found])
      simp [listed,diffAt]

theorem diffValue_json (modified original : Obj ν) :
    diffValue modified.json original.json = (original.createPatch modified).json := by
  simp only [Obj.createPatch,Obj.json,diffValue]
  rfl

theorem diffValue_plain (value old : Json ν) (plain : value.asObj = none ∨ old.asObj = none) :
    diffValue value old = value := by
  cases value with
  | obj keys vals =>
    cases old with
    | obj olds values => rcases plain with plain | plain <;> cases plain
    | null | bool | num | str | arr => rfl
  | null | bool | num | str | arr => rfl

/-- What the server holds after the patch from `a` to `b` was merged into `a`. -/
def settle (a b : Obj ν) : Obj ν := a.mergePatch (a.createPatch b)

def settleAt (a b : Option (Json ν)) : Option (Json ν) := mergeAt a (diffAt a b)

theorem get_settle (a b : Obj ν) (key : String) :
    (settle a b).get key = settleAt (a.get key) (b.get key) := by
  simp only [settle,settleAt,Obj.get_mergePatch,Obj.get_createPatch]

theorem settleAt_self (a : Option (Json ν)) : settleAt a a = a := by
  cases a with
  | none => rfl
  | some v => simp [settleAt,diffAt,mergeAt]

theorem settle_self (a : Obj ν) : settle a a = a := by
  ext1 key
  rw [get_settle,settleAt_self]

theorem settleAt_none (a : Option (Json ν)) : settleAt a none = none := by
  cases a with
  | none => rfl
  | some v => simp [settleAt,diffAt,mergeAt]

theorem settleAt_plain (a : Option (Json ν)) (value : Json ν) (plain : value.asObj = none)
    (present : value ≠ .null) : settleAt a (some value) = some value := by
  have shown : value.isNull = false := by
    cases checked : value.isNull with
    | false => rfl
    | true => exact absurd ((Json.isNull_iff value).mp checked) present
  cases a with
  | none => simp [settleAt,diffAt,mergeAt,shown,mergeValue_plain _ _ plain]
  | some old =>
    by_cases same : old = value
    · subst same
      exact settleAt_self _
    · simp [settleAt,diffAt,mergeAt,same,diffValue_plain _ _ (Or.inl plain),shown,
        mergeValue_plain _ _ plain]

theorem settleAt_null (a : Option (Json ν)) :
    settleAt a (some .null) = if a = some .null then some .null else none := by
  cases a with
  | none => rfl
  | some old =>
    by_cases same : old = .null
    · subst same
      simp [settleAt_self]
    · have plain : diffValue .null old = .null := diffValue_plain .null old (Or.inl rfl)
      simp [settleAt,diffAt,mergeAt,same,plain]

theorem Obj.empty_createPatch (b : Obj ν) : Obj.createPatch Obj.empty b = b := by
  ext1 key
  rw [Obj.get_createPatch,Obj.get_empty]
  cases b.get key <;> rfl

theorem settleAt_json (a : Option (Json ν)) (b : Obj ν) :
    settleAt a (some b.json) = some (settle (members a) b).json := by
  cases a with
  | none =>
    simp only [settleAt,diffAt,mergeAt,isNull_json,mergeValue_json,settle,members_none,
      Obj.empty_createPatch]
    rfl
  | some old =>
    by_cases same : old = b.json
    · subst same
      rw [settleAt_self,members_json,settle_self]
    · cases held : old.asObj with
      | none =>
        simp only [settleAt,diffAt,mergeAt,same,if_false,diffValue_plain _ _ (Or.inr held),
          isNull_json,mergeValue_json,settle,members_of_asObj_none old held,Obj.empty_createPatch]
        rfl
      | some o =>
        have shape := Json.asObj_eq_some old o held
        subst shape
        simp only [settleAt,diffAt,mergeAt,same,if_false,diffValue_json,isNull_json,
          mergeValue_json,settle,members_json]
        rfl

/-- A change of one member settles where the member does. -/
theorem settle_set (a : Obj ν) (key : String) (value : Json ν)
    (fits : settleAt (a.get key) (some value) = some value) : settle a (a.set key value) = a.set key value := by
  ext1 other
  rw [get_settle,Obj.get_set]
  split
  next here => rw [here,fits]
  next => exact settleAt_self _

theorem settle_erase (a : Obj ν) (key : String) : settle a (a.erase key) = a.erase key := by
  ext1 other
  rw [get_settle,Obj.get_erase]
  split
  next => exact settleAt_none _
  next => exact settleAt_self _

/-- Settling onto a target without null members gives exactly the target. -/
theorem settleAt_member (a : Option (Json ν)) (value : Json ν) (present : value ≠ .null) (clean : value.NoNullMember) :
    settleAt a (some value) = some value := by
  induction value generalizing a with
  | null => exact absurd rfl present
  | bool b => exact settleAt_plain a _ rfl (Json.ne_null _ rfl)
  | num x => exact settleAt_plain a _ rfl (Json.ne_null _ rfl)
  | str s => exact settleAt_plain a _ rfl (Json.ne_null _ rfl)
  | arr size items ih => exact settleAt_plain a _ rfl (Json.ne_null _ rfl)
  | obj keys vals ih =>
    have here := settleAt_json a ⟨keys,vals⟩
    change settleAt a (some (Obj.json ⟨keys,vals⟩)) = some (Obj.json ⟨keys,vals⟩)
    rw [here]
    congr 2
    ext1 key
    rw [get_settle]
    by_cases inside : key ∈ keys
    · have member : Obj.get ⟨keys,vals⟩ key = some (vals ⟨key,inside⟩) := Obj.get_vals ⟨keys,vals⟩ ⟨key,inside⟩
      rw [member]
      exact ih ⟨key,inside⟩ _ (clean ⟨key,inside⟩).1 (clean ⟨key,inside⟩).2
    · have absent : Obj.get ⟨keys,vals⟩ key = none := by simp [Obj.get,inside]
      rw [absent,settleAt_none]

theorem settleAt_noNull (a : Option (Json ν)) (value : Json ν) (clean : value.NoNull) :
    settleAt a (some value) = some value := by
  apply settleAt_member a value _ clean.member
  intro null
  rw [null] at clean
  exact clean

/-- Only such a target is reached from nothing. -/
theorem noNullMember_of_settleAt (value : Json ν) (reached : settleAt none (some value) = some value) :
    value.NoNullMember := by
  induction value with
  | null | bool | num | str | arr => trivial
  | obj keys vals ih =>
    intro key
    have member : Obj.get ⟨keys,vals⟩ key.1 = some (vals key) := Obj.get_vals ⟨keys,vals⟩ key
    have settled : settle Obj.empty (⟨keys,vals⟩ : Obj ν) = ⟨keys,vals⟩ := by
      have whole := settleAt_json none (⟨keys,vals⟩ : Obj ν)
      rw [members_none] at whole
      exact (Obj.json_inj _ _).mp (Option.some.inj (whole.symm.trans reached))
    have here : settleAt none (some (vals key)) = some (vals key) := by
      have looked := get_settle Obj.empty (⟨keys,vals⟩ : Obj ν) key.1
      rw [settled,member,Obj.get_empty] at looked
      exact looked.symm
    refine ⟨fun null => ?_,ih key here⟩
    rw [null] at here
    cases here

def settleAll (a : Obj ν) (targets : List (Obj ν)) : Obj ν := targets.foldl settle a

def settleAllAt (a : Option (Json ν)) (targets : List (Option (Json ν))) : Option (Json ν) :=
  targets.foldl settleAt a

theorem get_settleAll (a : Obj ν) (targets : List (Obj ν)) (key : String) :
    (settleAll a targets).get key = settleAllAt (a.get key) (targets.map (fun b => b.get key)) := by
  induction targets generalizing a with
  | nil => rfl
  | cons b rest ih =>
    simp only [settleAll,settleAllAt,List.map_cons,List.foldl_cons] at ih ⊢
    rw [ih (settle a b),get_settle]

theorem settleAllAt_append (a : Option (Json ν)) (first second : List (Option (Json ν))) :
    settleAllAt a (first++second) = settleAllAt (settleAllAt a first) second :=
  List.foldl_append

theorem settleAt_eq_null (a b : Option (Json ν)) :
    settleAt a b = some .null ↔ a = some .null ∧ b = some .null := by
  constructor
  · intro null
    cases b with
    | none => simp [settleAt_none] at null
    | some value =>
      by_cases shape : value = .null
      · subst shape
        rw [settleAt_null] at null
        split at null
        next same => exact ⟨same,rfl⟩
        next other => cases null
      · cases held : value.asObj with
        | none =>
          rw [settleAt_plain a value held shape] at null
          exact absurd (Option.some.inj null) shape
        | some o =>
          rw [Json.asObj_eq_some value o held,settleAt_json] at null
          cases null
  · rintro ⟨rfl,rfl⟩
    exact settleAt_self _

theorem settleAllAt_eq_null (a : Option (Json ν)) (targets : List (Option (Json ν))) :
    settleAllAt a targets = some .null ↔ a = some .null ∧ ∀ b ∈ targets, b = some .null := by
  induction targets generalizing a with
  | nil => simp [settleAllAt]
  | cons b rest ih =>
    have step : settleAllAt a (b::rest) = settleAllAt (settleAt a b) rest := rfl
    rw [step,ih,settleAt_eq_null]
    simp [and_assoc]

theorem settleAllAt_objects (a : Option (Json ν)) (targets : List (Obj ν)) (some_ : targets ≠ []) :
    settleAllAt a (targets.map (fun b => some b.json)) = some (settleAll (members a) targets).json := by
  induction targets generalizing a with
  | nil => exact absurd rfl some_
  | cons b rest ih =>
    have step : settleAllAt a ((b::rest).map (fun b => some b.json)) =
        settleAllAt (some (settle (members a) b).json) (rest.map (fun b => some b.json)) := by
      simp only [List.map_cons,settleAllAt,List.foldl_cons,settleAt_json]
    rw [step]
    cases rest with
    | nil => rfl
    | cons c more =>
      rw [ih _ (by simp),members_json]
      rfl

theorem members_settleAt_plain (a b : Option (Json ν)) (plain : ∀ o : Obj ν, b ≠ some o.json) :
    members (settleAt a b) = Obj.empty := by
  cases b with
  | none => rw [settleAt_none,members_none]
  | some value =>
    have unheld : value.asObj = none := by
      cases held : value.asObj with
      | none => rfl
      | some o => exact absurd (congrArg some (Json.asObj_eq_some value o held)) (plain o)
    by_cases shape : value = .null
    · subst shape
      rw [settleAt_null]
      split <;> rfl
    · rw [settleAt_plain a value unheld shape]
      exact members_of_asObj_none value unheld

omit [DecidableEq ν] in
/-- Either every target is an object, or only objects follow the last one that is none. -/
theorem objects_or_plain (targets : List (Option (Json ν))) :
    (∃ objects : List (Obj ν), targets = objects.map (fun o => some o.json)) ∨
    ∃ before plain, ∃ after : List (Obj ν),
      targets = before ++ plain::after.map (fun o => some o.json) ∧ ∀ o : Obj ν, plain ≠ some o.json := by
  induction targets using List.reverseRecOn with
  | nil => exact Or.inl ⟨[],rfl⟩
  | append_singleton targets last ih =>
    by_cases object : ∃ o : Obj ν, last = some o.json
    · obtain ⟨o,rfl⟩ := object
      rcases ih with ⟨objects,rfl⟩ | ⟨before,plain,after,rfl,other⟩
      · exact Or.inl ⟨objects++[o],by simp⟩
      · exact Or.inr ⟨before,plain,after++[o],by simp,other⟩
    · exact Or.inr ⟨targets,last,[],by simp,fun o equal => object ⟨o,equal⟩⟩

theorem settleAllAt_after_plain (a : Option (Json ν)) (before : List (Option (Json ν)))
    (plain : Option (Json ν)) (after : List (Obj ν)) (o : Obj ν)
    (other : ∀ o : Obj ν, plain ≠ some o.json) :
    settleAllAt a (before ++ plain::after.map (fun o => some o.json) ++ [some o.json]) =
      some (settleAll Obj.empty (after++[o])).json := by
  have split : before ++ plain::after.map (fun o => some o.json) ++ [some o.json] =
      (before ++ [plain]) ++ (after++[o]).map (fun o => some o.json) := by simp
  rw [split,settleAllAt_append,settleAllAt_objects _ _ (by simp),settleAllAt_append]
  have last : settleAllAt (settleAllAt a before) [plain] = settleAt (settleAllAt a before) plain := rfl
  rw [last,members_settleAt_plain _ _ other]

theorem settleAllAt_absorb_objects (targets : List (Obj ν)) (a : Option (Json ν)) (done : Nat)
    (each : ∀ key a done, settleAllAt (settleAllAt a ((targets.map (fun o => o.get key)).take done))
      (targets.map (fun o => o.get key)) = settleAllAt a (targets.map (fun o => o.get key))) :
    settleAllAt (settleAllAt a ((targets.map (fun o => some o.json)).take done))
      (targets.map (fun o => some o.json)) = settleAllAt a (targets.map (fun o => some o.json)) := by
  rw [← List.map_take]
  rcases targets with _ | ⟨b,rest⟩
  · simp [settleAllAt]
  · cases done with
    | zero => rfl
    | succ done =>
      have again : settleAll (settleAll (members a) ((b::rest).take (done+1))) (b::rest) =
          settleAll (members a) (b::rest) := by
        ext1 key
        rw [get_settleAll,get_settleAll,get_settleAll,List.map_take]
        exact each key _ (done+1)
      rw [settleAllAt_objects a ((b::rest).take (done+1)) (by simp),settleAllAt_objects a (b::rest) (by simp),
        settleAllAt_objects _ (b::rest) (by simp),members_json,again]

theorem settleAllAt_absorb_some (value : Json ν) (first : List (Option (Json ν)))
    (a : Option (Json ν)) (done : Nat) :
    settleAllAt (settleAllAt a ((first ++ [some value]).take done)) (first ++ [some value]) =
      settleAllAt a (first ++ [some value]) := by
  have fixed (plain : value.asObj = none) (present : value ≠ .null) (x : Option (Json ν)) :
      settleAllAt x (first ++ [some value]) = some value := by
    rw [settleAllAt_append]
    exact settleAt_plain _ value plain present
  induction value generalizing first a done with
  | bool b => rw [fixed rfl (Json.ne_null _ rfl),fixed rfl (Json.ne_null _ rfl)]
  | num x => rw [fixed rfl (Json.ne_null _ rfl),fixed rfl (Json.ne_null _ rfl)]
  | str s => rw [fixed rfl (Json.ne_null _ rfl),fixed rfl (Json.ne_null _ rfl)]
  | arr size items ih => rw [fixed rfl (Json.ne_null _ rfl),fixed rfl (Json.ne_null _ rfl)]
  | null =>
    have last (x : Option (Json ν)) : settleAllAt x (first ++ [some Json.null]) =
        if x = some Json.null ∧ ∀ b ∈ first, b = some Json.null then some Json.null else none := by
      rw [settleAllAt_append]
      change settleAt (settleAllAt x first) (some .null) = _
      rw [settleAt_null]
      simp only [settleAllAt_eq_null]
    rw [last,last]
    have prefixes : settleAllAt a ((first ++ [some Json.null]).take done) = some Json.null ∧
        (∀ b ∈ first, b = some Json.null) ↔ a = some Json.null ∧ ∀ b ∈ first, b = some Json.null := by
      rw [settleAllAt_eq_null]
      constructor
      · rintro ⟨⟨start,_⟩,all⟩
        exact ⟨start,all⟩
      · rintro ⟨start,all⟩
        refine ⟨⟨start,fun b member => ?_⟩,all⟩
        rcases List.mem_append.mp (List.mem_of_mem_take member) with inside | inside
        · exact all b inside
        · simpa using inside
    simp only [prefixes]
  | obj keys vals ih =>
    change settleAllAt (settleAllAt a ((first ++ [some (Obj.json ⟨keys,vals⟩)]).take done))
      (first ++ [some (Obj.json ⟨keys,vals⟩)]) = settleAllAt a (first ++ [some (Obj.json ⟨keys,vals⟩)])
    rcases objects_or_plain first with ⟨objects,rfl⟩ | ⟨before,plain,after,rfl,other⟩
    · have joined : objects.map (fun o => some o.json) ++ [some (Obj.json ⟨keys,vals⟩)] =
          (objects++[(⟨keys,vals⟩ : Obj ν)]).map (fun o => some o.json) := by simp
      rw [joined]
      apply settleAllAt_absorb_objects
      intro key a done
      rw [List.map_append]
      by_cases inside : key ∈ keys
      · have member : [(⟨keys,vals⟩ : Obj ν)].map (fun o => o.get key) = [some (vals ⟨key,inside⟩)] := by
          simp [Obj.get,inside]
        rw [member]
        apply ih ⟨key,inside⟩
        intro plain present x
        rw [settleAllAt_append]
        exact settleAt_plain _ _ plain present
      · have absent : [(⟨keys,vals⟩ : Obj ν)].map (fun o => o.get key) = [none] := by
          simp [Obj.get,inside]
        rw [absent,settleAllAt_append,settleAllAt_append]
        exact (settleAt_none _).trans (settleAt_none _).symm
    · rw [settleAllAt_after_plain _ before plain after _ other,
        settleAllAt_after_plain _ before plain after _ other]

/-- Settling the first few targets and then all of them is settling all of them. -/
theorem settleAllAt_absorb (a : Option (Json ν)) (targets : List (Option (Json ν))) (done : Nat) :
    settleAllAt (settleAllAt a (targets.take done)) targets = settleAllAt a targets := by
  induction targets using List.reverseRecOn with
  | nil => simp [settleAllAt]
  | append_singleton first last _ =>
    cases last with
    | none =>
      rw [settleAllAt_append,settleAllAt_append]
      exact (settleAt_none _).trans (settleAt_none _).symm
    | some value => exact settleAllAt_absorb_some value first a done

end Difference
end Ifaas.Library
