import Ifaas.Library.Json
import Mathlib.Data.List.OfFn

/-! Traversals: a walk over a structure to all places of one kind in it. `modify`
changes what stands at those places and `foci` lists it in order; the laws say that
the places stay where they are and that a walk changes nothing else. Traversals
compose, and the members and items of JSON trees are the steps they are made of. -/
namespace Ifaas.Library

structure Traversal (σ α : Type) where
  modify : (α → α) → σ → σ
  foci : σ → List α
  foci_modify : ∀ f s, foci (modify f s) = (foci s).map f
  modify_modify : ∀ f g s, modify g (modify f s) = modify (fun a => g (f a)) s
  modify_congr : ∀ f g s, (∀ a ∈ foci s, f a = g a) → modify f s = modify g s
  modify_self : ∀ s, modify (fun a => a) s = s

namespace Traversal
variable {σ α β : Type}

theorem modify_fixed (t : Traversal σ α) (f : α → α) (s : σ) (fixed : ∀ a ∈ t.foci s, f a = a) :
    t.modify f s = s := by
  rw [t.modify_congr f (fun a => a) s fixed,t.modify_self]

/-- A walk changes the structure exactly when it changes one of the places. -/
theorem modify_eq_self (t : Traversal σ α) (f : α → α) (s : σ) :
    t.modify f s = s ↔ ∀ a ∈ t.foci s, f a = a := by
  constructor
  · intro same a member
    have listed : (t.foci s).map f = t.foci s := by
      rw [← t.foci_modify,same]
    exact List.map_eq_map_iff.mp (listed.trans (List.map_id _).symm) a member
  · exact t.modify_fixed f s

/-- What is left of the structure when all places hold one value is out of reach. -/
theorem modify_blank (t : Traversal σ α) (f : α → α) (blank : α) (s : σ) :
    t.modify (fun _ => blank) (t.modify f s) = t.modify (fun _ => blank) s :=
  t.modify_modify f (fun _ => blank) s

def comp (outer : Traversal σ α) (inner : Traversal α β) : Traversal σ β where
  modify f := outer.modify (inner.modify f)
  foci s := (outer.foci s).flatMap inner.foci
  foci_modify f s := by
    rw [outer.foci_modify,List.flatMap_map,List.map_flatMap]
    simp only [inner.foci_modify]
  modify_modify f g s := by
    rw [outer.modify_modify]
    exact outer.modify_congr _ _ s (fun a _ => inner.modify_modify f g a)
  modify_congr f g s same := by
    apply outer.modify_congr
    intro a member
    apply inner.modify_congr
    intro b inside
    exact same b (List.mem_flatMap.mpr ⟨a,member,inside⟩)
  modify_self s := by
    rw [outer.modify_congr _ (fun a => a) s (fun a _ => inner.modify_self a),outer.modify_self]

/-- Structures with `P` have places with `Q`, and keep `P` while the places keep `Q`. -/
def Carries (t : Traversal σ α) (P : σ → Prop) (Q : α → Prop) : Prop :=
  ∀ s, P s → (∀ a ∈ t.foci s, Q a) ∧ ∀ f, (∀ a ∈ t.foci s, Q (f a)) → P (t.modify f s)

theorem carries_comp (outer : Traversal σ α) (inner : Traversal α β) (P : σ → Prop) (Q : α → Prop) (R : β → Prop)
    (first : outer.Carries P Q) (second : inner.Carries Q R) : (outer.comp inner).Carries P R := by
  intro s holds
  obtain ⟨inside,kept⟩ := first s holds
  constructor
  · intro b member
    obtain ⟨a,place,within⟩ := List.mem_flatMap.mp member
    exact (second a (inside a place)).1 b within
  · intro f each
    apply kept
    intro a place
    apply (second a (inside a place)).2
    intro b within
    exact each b (List.mem_flatMap.mpr ⟨a,place,within⟩)

/-- A walk that reports a change through a flag: it does what `modify` does with the
first component of `step`, and its flag is set when a step set its own. -/
def Reports (t : Traversal σ α) (step : α → α × Bool) (walk : σ → σ × Bool) : Prop :=
  ∀ s, (walk s).1 = t.modify (fun a => (step a).1) s ∧
    ((walk s).2 = true ↔ ∃ a ∈ t.foci s, (step a).2 = true)

/-- A step whose flag is not set changed nothing. -/
def Honest (step : α → α × Bool) : Prop := ∀ a, (step a).2 = false → (step a).1 = a

/-- Where no step sets its flag, to leave everything as it is is a report. -/
theorem reports_still (t : Traversal σ α) (step : α → α × Bool) (honest : Honest step) (s : σ)
    (unset : ∀ a ∈ t.foci s, (step a).2 = false) :
    s = t.modify (fun a => (step a).1) s ∧ (false = true ↔ ∃ a ∈ t.foci s, (step a).2 = true) := by
  refine ⟨(t.modify_fixed _ s (fun a member => honest a (unset a member))).symm,nofun,?_⟩
  rintro ⟨a,member,set⟩
  rw [unset a member] at set
  cases set

theorem unflagged {places : List α} {flags : α → Bool} {flag : Bool}
    (reported : flag = true ↔ ∃ a ∈ places, flags a = true) (unset : flag = false) : ∀ a ∈ places, flags a = false := by
  intro a member
  cases set : flags a with
  | false => rfl
  | true => rw [reported.mpr ⟨a,member,set⟩] at unset; cases unset

end Traversal

/-! The steps into a JSON tree. -/

section Steps
variable {ν : Type}

/-- The members of a value that is an object. -/
def objectStep : Traversal (Json ν) (Obj ν) where
  modify f j :=
    match j.asObj with
    | some o => (f o).json
    | none => j
  foci j := j.asObj.toList
  foci_modify f j := by
    cases held : j.asObj with
    | none => simp [held]
    | some o => simp
  modify_modify f g j := by
    cases held : j.asObj with
    | none => simp [held]
    | some o => simp
  modify_congr f g j same := by
    cases held : j.asObj with
    | none => rfl
    | some o => simp [same o (by simp [held])]
  modify_self j := by
    cases held : j.asObj with
    | none => rfl
    | some o => exact (Json.asObj_eq_some j o held).symm

/-- The value under a key. -/
def memberStep (key : String) : Traversal (Obj ν) (Json ν) where
  modify f o :=
    match o.get key with
    | some value => o.set key (f value)
    | none => o
  foci o := (o.get key).toList
  foci_modify f o := by
    cases held : o.get key with
    | none => simp [held]
    | some value => simp
  modify_modify f g o := by
    cases held : o.get key with
    | none => simp [held]
    | some value =>
      simp only [Obj.get_set,if_true]
      ext1 other
      simp only [Obj.get_set]
      split <;> rfl
  modify_congr f g o same := by
    cases held : o.get key with
    | none => rfl
    | some value => simp [same value (by simp [held])]
  modify_self o := by
    cases held : o.get key with
    | none => rfl
    | some value =>
      ext1 other
      simp only [Obj.get_set]
      split
      next equal => rw [equal,held]
      next => rfl

/-- The items of a value that is an array. -/
def itemStep : Traversal (Json ν) (Json ν) where
  modify f j :=
    match j with
    | .arr size items => .arr size (fun i => f (items i))
    | _ => j
  foci j :=
    match j with
    | .arr _ items => List.ofFn items
    | _ => []
  foci_modify f j := by
    cases j with
    | arr size items => exact List.map_ofFn.symm
    | null | bool | num | str | obj => rfl
  modify_modify f g j := by
    cases j with
    | arr size items => rfl
    | null | bool | num | str | obj => rfl
  modify_congr f g j same := by
    cases j with
    | arr size items =>
      have each : ∀ i, f (items i) = g (items i) := fun i => same (items i) (List.mem_ofFn.mpr ⟨i,rfl⟩)
      simp only [each]
    | null | bool | num | str | obj => rfl
  modify_self j := by
    cases j with
    | arr size items => rfl
    | null | bool | num | str | obj => rfl

theorem Obj.eachNum_iff (P : ν → Prop) (o : Obj ν) :
    o.json.EachNum P ↔ ∀ key value, o.get key = some value → value.EachNum P := by
  constructor
  · intro each key value found
    have inside : key ∈ o.keys := (o.get_isSome key).mp (by simp [found])
    have here : o.vals ⟨key,inside⟩ = value := by
      have member := o.get_vals ⟨key,inside⟩
      rw [found] at member
      exact (Option.some.inj member).symm
    rw [← here]
    exact each ⟨key,inside⟩
  · intro each key
    exact each key.1 _ (o.get_vals key)

theorem Obj.eachNum_set (P : ν → Prop) (o : Obj ν) (key : String) (value : Json ν) (each : o.json.EachNum P)
    (new : value.EachNum P) : (o.set key value).json.EachNum P := by
  rw [Obj.eachNum_iff]
  intro other found held
  rw [Obj.get_set] at held
  split at held
  next => rw [← Option.some.inj held]; exact new
  next => exact (Obj.eachNum_iff P o).mp each other found held

theorem Obj.eachNum_erase (P : ν → Prop) (o : Obj ν) (key : String) (each : o.json.EachNum P) :
    (o.erase key).json.EachNum P := by
  rw [Obj.eachNum_iff]
  intro other found held
  rw [Obj.get_erase] at held
  split at held
  next => cases held
  next => exact (Obj.eachNum_iff P o).mp each other found held

theorem carries_objectStep (P : ν → Prop) :
    (objectStep : Traversal (Json ν) (Obj ν)).Carries (fun j => j.EachNum P) (fun o => o.json.EachNum P) := by
  intro j each
  cases held : j.asObj with
  | none =>
    constructor
    · intro o member
      simp [objectStep,held] at member
    · intro f _
      simpa [objectStep,held] using each
  | some o =>
    rw [Json.asObj_eq_some j o held] at each
    constructor
    · intro other member
      simp only [objectStep,held,Option.toList_some,List.mem_singleton] at member
      rw [member]
      exact each
    · intro f kept
      simpa [objectStep,held] using kept o (by simp [objectStep,held])

theorem carries_memberStep (P : ν → Prop) (key : String) :
    (memberStep key : Traversal (Obj ν) (Json ν)).Carries (fun o => o.json.EachNum P) (fun j => j.EachNum P) := by
  intro o each
  cases held : o.get key with
  | none =>
    constructor
    · intro j member
      simp [memberStep,held] at member
    · intro f _
      simpa [memberStep,held] using each
  | some value =>
    constructor
    · intro j member
      simp only [memberStep,held,Option.toList_some,List.mem_singleton] at member
      rw [member]
      exact (Obj.eachNum_iff P o).mp each key value held
    · intro f kept
      have new := kept value (by simp [memberStep,held])
      simpa [memberStep,held] using Obj.eachNum_set P o key (f value) each new

theorem carries_itemStep (P : ν → Prop) :
    (itemStep : Traversal (Json ν) (Json ν)).Carries (fun j => j.EachNum P) (fun j => j.EachNum P) := by
  intro j each
  cases j with
  | arr size items =>
    constructor
    · intro item member
      obtain ⟨i,rfl⟩ := List.mem_ofFn.mp member
      exact each i
    · intro f kept i
      exact kept (items i) (List.mem_ofFn.mpr ⟨i,rfl⟩)
  | null | bool | num | str | obj =>
    exact ⟨fun item member => absurd member List.not_mem_nil,fun f _ => each⟩

end Steps
end Ifaas.Library
