import Mathlib.Data.Finset.Basic
import Mathlib.Data.Finset.Union
import Mathlib.Data.Fintype.Basic
import Mathlib.Data.Fintype.Pi

/-! Extensional JSON trees over an arbitrary type of numbers. Arrays are finite
families and objects are families over a finite set of keys, so that equality of
trees is equality of JSON values: the order of members is not represented and no
key occurs twice. Objects are used through `get`, `set`, `erase` and `ofGet`. -/
namespace Ifaas.Library

inductive Json (ν : Type) where
  | null
  | bool (value : Bool)
  | num (value : ν)
  | str (value : String)
  | arr (size : Nat) (items : Fin size → Json ν)
  | obj (keys : Finset String) (vals : {k // k ∈ keys} → Json ν)

/-- The members of a JSON object. -/
structure Obj (ν : Type) where
  keys : Finset String
  vals : {k // k ∈ keys} → Json ν

namespace Json
variable {ν μ : Type}

def decEq [DecidableEq ν] : (a b : Json ν) → Decidable (a = b)
  | .null,.null => isTrue rfl
  | .bool x,.bool y => decidable_of_iff (x = y) (by simp)
  | .num x,.num y => decidable_of_iff (x = y) (by simp)
  | .str x,.str y => decidable_of_iff (x = y) (by simp)
  | .arr n f,.arr m g =>
    if same : n = m then
      haveI : ∀ i : Fin n, Decidable (f i = g (i.cast same)) := fun i => decEq (f i) (g (i.cast same))
      decidable_of_iff (∀ i : Fin n, f i = g (i.cast same)) (by subst same; simp [funext_iff])
    else isFalse (by intro equal; cases equal; exact same rfl)
  | .obj ks f,.obj ls g =>
    if same : ks = ls then
      haveI : ∀ k : {k // k ∈ ks}, Decidable (f k = g ⟨k.1,same ▸ k.2⟩) :=
        fun k => decEq (f k) (g ⟨k.1,same ▸ k.2⟩)
      decidable_of_iff (∀ k : {k // k ∈ ks}, f k = g ⟨k.1,same ▸ k.2⟩)
        (by subst same; simp [funext_iff])
    else isFalse (by intro equal; cases equal; exact same rfl)
  | .null,.bool _ | .null,.num _ | .null,.str _ | .null,.arr _ _ | .null,.obj _ _ => isFalse nofun
  | .bool _,.null | .bool _,.num _ | .bool _,.str _ | .bool _,.arr _ _ | .bool _,.obj _ _ => isFalse nofun
  | .num _,.null | .num _,.bool _ | .num _,.str _ | .num _,.arr _ _ | .num _,.obj _ _ => isFalse nofun
  | .str _,.null | .str _,.bool _ | .str _,.num _ | .str _,.arr _ _ | .str _,.obj _ _ => isFalse nofun
  | .arr _ _,.null | .arr _ _,.bool _ | .arr _ _,.num _ | .arr _ _,.str _ | .arr _ _,.obj _ _ => isFalse nofun
  | .obj _ _,.null | .obj _ _,.bool _ | .obj _ _,.num _ | .obj _ _,.str _ | .obj _ _,.arr _ _ => isFalse nofun

instance [DecidableEq ν] : DecidableEq (Json ν) := decEq

def isNull : Json ν → Bool
  | .null => true
  | _ => false

@[simp] theorem isNull_iff (j : Json ν) : j.isNull = true ↔ j = .null := by
  cases j <;> simp [isNull]

theorem ne_null (j : Json ν) (shown : j.isNull = false) : j ≠ .null := by
  rintro rfl
  cases shown

/-- Apply `f` to every number of the tree. -/
def map (f : ν → μ) : Json ν → Json μ
  | .null => .null
  | .bool b => .bool b
  | .num x => .num (f x)
  | .str s => .str s
  | .arr n items => .arr n (fun i => (items i).map f)
  | .obj ks vals => .obj ks (fun k => (vals k).map f)

/-- No JSON null occurs anywhere in the tree. -/
def NoNull : Json ν → Prop
  | .null => False
  | .arr _ items => ∀ i, (items i).NoNull
  | .obj _ vals => ∀ k, (vals k).NoNull
  | _ => True

/-- No member of an object is null, except within arrays. -/
def NoNullMember : Json ν → Prop
  | .obj _ vals => ∀ k, vals k ≠ .null ∧ (vals k).NoNullMember
  | _ => True

/-- Every number of the tree satisfies `P`. -/
def EachNum (P : ν → Prop) : Json ν → Prop
  | .num x => P x
  | .arr _ items => ∀ i, (items i).EachNum P
  | .obj _ vals => ∀ k, (vals k).EachNum P
  | _ => True

def decNoNull : (j : Json ν) → Decidable j.NoNull
  | .null => isFalse id
  | .bool _ | .num _ | .str _ => isTrue trivial
  | .arr _ items =>
    haveI : ∀ i, Decidable (items i).NoNull := fun i => decNoNull (items i)
    inferInstanceAs (Decidable (∀ i, (items i).NoNull))
  | .obj _ vals =>
    haveI : ∀ k, Decidable (vals k).NoNull := fun k => decNoNull (vals k)
    inferInstanceAs (Decidable (∀ k, (vals k).NoNull))

instance (j : Json ν) : Decidable j.NoNull := decNoNull j

def decEachNum (P : ν → Prop) [DecidablePred P] : (j : Json ν) → Decidable (j.EachNum P)
  | .null | .bool _ | .str _ => isTrue trivial
  | .num x => inferInstanceAs (Decidable (P x))
  | .arr _ items =>
    haveI : ∀ i, Decidable ((items i).EachNum P) := fun i => decEachNum P (items i)
    inferInstanceAs (Decidable (∀ i, (items i).EachNum P))
  | .obj _ vals =>
    haveI : ∀ k, Decidable ((vals k).EachNum P) := fun k => decEachNum P (vals k)
    inferInstanceAs (Decidable (∀ k, (vals k).EachNum P))

instance (P : ν → Prop) [DecidablePred P] (j : Json ν) : Decidable (j.EachNum P) := decEachNum P j

theorem NoNull.member (j : Json ν) (clean : j.NoNull) : j.NoNullMember := by
  induction j with
  | null | bool | num | str | arr => trivial
  | obj keys vals ih =>
    intro k
    refine ⟨fun null => ?_,ih k (clean k)⟩
    have inside := clean k
    rw [null] at inside
    exact inside

theorem NoNullMember.of_map (f : ν → μ) (j : Json ν) (clean : (j.map f).NoNullMember) : j.NoNullMember := by
  induction j with
  | null | bool | num | str | arr => trivial
  | obj keys vals ih =>
    intro k
    obtain ⟨present,inside⟩ := clean k
    refine ⟨fun null => present ?_,ih k inside⟩
    change (vals k).map f = .null
    rw [null]
    rfl

theorem NoNullMember.map (f : ν → μ) (j : Json ν) (clean : j.NoNullMember) : (j.map f).NoNullMember := by
  induction j with
  | null | bool | num | str | arr => trivial
  | obj keys vals ih =>
    intro k
    obtain ⟨present,inside⟩ := clean k
    refine ⟨fun null => present ?_,ih k inside⟩
    change (vals k).map f = .null at null
    cases held : vals k with
    | null => rfl
    | bool | num | str | arr | obj => rw [held] at null; cases null

theorem map_map {κ : Type} (f : ν → μ) (g : μ → κ) (j : Json ν) :
    (j.map f).map g = j.map (fun x => g (f x)) := by
  induction j with
  | null | bool | num | str => rfl
  | arr size items ih =>
    simp only [map]
    congr 1
    exact funext ih
  | obj keys vals ih =>
    simp only [map]
    congr 1
    exact funext ih

theorem map_eq_self (f : ν → ν) (j : Json ν) (fixed : j.EachNum (fun x => f x = x)) : j.map f = j := by
  induction j with
  | null | bool | str => rfl
  | num x => exact congrArg Json.num fixed
  | arr size items ih =>
    simp only [map]
    congr 1
    exact funext (fun i => ih i (fixed i))
  | obj keys vals ih =>
    simp only [map]
    congr 1
    exact funext (fun k => ih k (fixed k))

/-- A map that leaves the tree as it is leaves every number as it is. -/
theorem eachNum_of_map_eq (f : ν → ν) (j : Json ν) (fixed : j.map f = j) : j.EachNum (fun x => f x = x) := by
  induction j with
  | null | bool | str => trivial
  | num x => exact Json.num.inj fixed
  | arr size items ih =>
    intro i
    apply ih i
    have same : (fun i => (items i).map f) = items := by simpa [map] using fixed
    exact congrFun same i
  | obj keys vals ih =>
    intro k
    apply ih k
    have same : (fun k => (vals k).map f) = vals := by simpa [map] using fixed
    exact congrFun same k

theorem eachNum_trivial (P : ν → Prop) (all : ∀ x, P x) (j : Json ν) : j.EachNum P := by
  induction j with
  | null | bool | str => trivial
  | num x => exact all x
  | arr size items ih => exact ih
  | obj keys vals ih => exact ih

theorem eachNum_within (R P Q : ν → Prop) (weaker : ∀ x, R x → P x → Q x) (j : Json ν) (domain : j.EachNum R)
    (each : j.EachNum P) : j.EachNum Q := by
  induction j with
  | null | bool | str => trivial
  | num x => exact weaker x domain each
  | arr size items ih => exact fun i => ih i (domain i) (each i)
  | obj keys vals ih => exact fun k => ih k (domain k) (each k)

theorem eachNum_mono (P Q : ν → Prop) (weaker : ∀ x, P x → Q x) (j : Json ν) (each : j.EachNum P) : j.EachNum Q :=
  eachNum_within P P Q (fun x _ => weaker x) j each each

theorem eachNum_map (f : ν → μ) (P : μ → Prop) (j : Json ν) (each : j.EachNum (fun x => P (f x))) :
    (j.map f).EachNum P := by
  induction j with
  | null | bool | str => trivial
  | num x => exact each
  | arr size items ih => exact fun i => ih i (each i)
  | obj keys vals ih => exact fun k => ih k (each k)

end Json

namespace Obj
variable {ν μ : Type}

def get (o : Obj ν) (key : String) : Option (Json ν) :=
  if inside : key ∈ o.keys then some (o.vals ⟨key,inside⟩) else none

theorem get_isSome (o : Obj ν) (key : String) : (o.get key).isSome = true ↔ key ∈ o.keys := by
  unfold get
  split <;> simp_all

theorem get_vals (o : Obj ν) (key : {k // k ∈ o.keys}) : o.get key.1 = some (o.vals key) := by
  simp [get,key.2]

@[ext] theorem ext_get (a b : Obj ν) (same : ∀ key, a.get key = b.get key) : a = b := by
  obtain ⟨ks,f⟩ := a
  obtain ⟨ls,g⟩ := b
  have keys : ks = ls := by
    ext key
    rw [← get_isSome ⟨ks,f⟩ key,← get_isSome ⟨ls,g⟩ key,same key]
  subst keys
  congr 1
  funext key
  have value := same key.1
  rw [get_vals ⟨ks,f⟩ key,get_vals ⟨ks,g⟩ key] at value
  exact Option.some.inj value

/-- The object whose members are the values `f` has on `keys`. -/
def ofGet (keys : Finset String) (f : String → Option (Json ν)) : Obj ν where
  keys := keys.filter (fun key => (f key).isSome)
  vals key := (f key.1).get (Finset.mem_filter.mp key.2).2

theorem get_ofGet (keys : Finset String) (f : String → Option (Json ν)) (key : String) :
    (ofGet keys f).get key = if key ∈ keys then f key else none := by
  unfold get ofGet
  by_cases listed : key ∈ keys
  · cases value : f key with
    | none => simp [listed,value]
    | some v => simp [listed,value]
  · simp [listed]

def empty : Obj ν := ofGet ∅ (fun _ => none)

@[simp] theorem get_empty (key : String) : (empty : Obj ν).get key = none := by
  simp [empty,get_ofGet]

def set (o : Obj ν) (key : String) (value : Json ν) : Obj ν :=
  ofGet (insert key o.keys) (fun other => if other = key then some value else o.get other)

@[simp] theorem get_set (o : Obj ν) (key other : String) (value : Json ν) :
    (o.set key value).get other = if other = key then some value else o.get other := by
  rw [set,get_ofGet]
  by_cases same : other = key
  · simp [same]
  · simp only [Finset.mem_insert,same,false_or,if_false]
    cases found : o.get other with
    | none => simp
    | some v =>
      have inside : other ∈ o.keys := (o.get_isSome other).mp (by simp [found])
      simp [inside]

def erase (o : Obj ν) (key : String) : Obj ν :=
  ofGet o.keys (fun other => if other = key then none else o.get other)

@[simp] theorem get_erase (o : Obj ν) (key other : String) :
    (o.erase key).get other = if other = key then none else o.get other := by
  rw [erase,get_ofGet]
  cases found : o.get other with
  | none => simp
  | some v =>
    have inside : other ∈ o.keys := (o.get_isSome other).mp (by simp [found])
    simp [inside]

def ofList (members : List (String × Json ν)) : Obj ν :=
  members.foldl (fun o member => o.set member.1 member.2) empty

/-- The object as a JSON value. -/
def json (o : Obj ν) : Json ν := .obj o.keys o.vals

@[simp] theorem json_inj (a b : Obj ν) : a.json = b.json ↔ a = b := by
  constructor
  · intro equal
    obtain ⟨ks,f⟩ := a
    obtain ⟨ls,g⟩ := b
    cases equal
    rfl
  · exact congrArg json

instance [DecidableEq ν] : DecidableEq (Obj ν) :=
  fun a b => decidable_of_iff (a.json = b.json) (json_inj a b)

def map (f : ν → μ) (o : Obj ν) : Obj μ := ⟨o.keys,fun key => (o.vals key).map f⟩

@[simp] theorem get_map (f : ν → μ) (o : Obj ν) (key : String) :
    (o.map f).get key = (o.get key).map (Json.map f) := by
  unfold get map
  split <;> rfl

@[simp] theorem json_map (f : ν → μ) (o : Obj ν) : (o.map f).json = o.json.map f := rfl

end Obj

/-- The object held by a value, if it holds one. -/
def Json.asObj {ν : Type} : Json ν → Option (Obj ν)
  | .obj keys vals => some ⟨keys,vals⟩
  | _ => none

@[simp] theorem Obj.asObj_json {ν : Type} (o : Obj ν) : o.json.asObj = some o := rfl

theorem Json.asObj_eq_some {ν : Type} (j : Json ν) (o : Obj ν) (found : j.asObj = some o) : j = o.json := by
  cases j with
  | obj keys vals =>
    cases found
    rfl
  | null | bool | num | str | arr => cases found

end Ifaas.Library
