import Mathlib.Logic.Basic
import Mathlib.Tactic.Common

/-! A store of objects that carry their own key. What is found under a key has that
key, so a reader of the store need not check it; `put` files an object under the
key it carries. -/
namespace Ifaas.Library

structure Store (κ α : Type) (keyOf : α → κ) where
  get : κ → Option α
  keyed : ∀ key o, get key = some o → keyOf o = key

namespace Store
variable {κ α : Type} {keyOf : α → κ}

@[ext] theorem ext_get (a b : Store κ α keyOf) (same : ∀ key, a.get key = b.get key) : a = b := by
  obtain ⟨f,_⟩ := a
  obtain ⟨g,_⟩ := b
  have equal : f = g := funext same
  subst equal
  rfl

def empty : Store κ α keyOf := ⟨fun _ => none,nofun⟩

/-- One store under some of the keys, and another one under the others. -/
def splice (inside : κ → Bool) (s t : Store κ α keyOf) : Store κ α keyOf where
  get key := if inside key then s.get key else t.get key
  keyed := by
    intro key found held
    split at held
    · exact s.keyed key found held
    · exact t.keyed key found held

theorem get_splice (inside : κ → Bool) (s t : Store κ α keyOf) (key : κ) :
    (s.splice inside t).get key = if inside key then s.get key else t.get key := rfl

variable [DecidableEq κ]

def put (s : Store κ α keyOf) (o : α) : Store κ α keyOf where
  get key := if key = keyOf o then some o else s.get key
  keyed := by
    intro key found held
    split at held
    next same => rw [same,← Option.some.inj held]
    next other => exact s.keyed key found held

@[simp] theorem get_put (s : Store κ α keyOf) (o : α) (key : κ) :
    (s.put o).get key = if key = keyOf o then some o else s.get key := rfl

theorem get_put_same (s : Store κ α keyOf) (o : α) : (s.put o).get (keyOf o) = some o := by simp

theorem get_put_other (s : Store κ α keyOf) (o : α) (key : κ) (other : key ≠ keyOf o) :
    (s.put o).get key = s.get key := by simp [other]

theorem put_get (s : Store κ α keyOf) (o : α) (held : s.get (keyOf o) = some o) : s.put o = s := by
  ext1 key
  rw [get_put]
  split
  next same => rw [same,held]
  next other => rfl

def remove (s : Store κ α keyOf) (gone : κ) : Store κ α keyOf where
  get key := if key = gone then none else s.get key
  keyed := by
    intro key found held
    split at held
    next same => cases held
    next other => exact s.keyed key found held

@[simp] theorem get_remove (s : Store κ α keyOf) (gone key : κ) :
    (s.remove gone).get key = if key = gone then none else s.get key := rfl

/-- The store of the listed objects; of two with one key the first counts. -/
def ofList (objects : List α) : Store κ α keyOf := objects.foldr (fun o s => s.put o) empty

/-! Replaying a list of writes, each to the key of its entry. -/

section Replay
variable {ε : Type} (target : ε → κ) (step : ε → Option α → α)

def replay (s : Store κ α keyOf) (entries : List ε) : Store κ α keyOf :=
  entries.foldl (fun s e => s.put (step e (s.get (target e)))) s

/-- What a list of writes to one key makes of the object there. -/
def replayAt (o : Option α) (entries : List ε) : Option α := entries.foldl (fun o e => some (step e o)) o

theorem replay_append (s : Store κ α keyOf) (first second : List ε) :
    s.replay target step (first++second) = (s.replay target step first).replay target step second :=
  List.foldl_append

variable {target step} (files : ∀ e o, keyOf (step e o) = target e)
include files

theorem get_replay (s : Store κ α keyOf) (entries : List ε) (key : κ) :
    (s.replay target step entries).get key = replayAt step (s.get key) (entries.filter (fun e => target e = key)) := by
  induction entries generalizing s with
  | nil => rfl
  | cons e rest ih =>
    have first : s.replay target step (e::rest) = (s.put (step e (s.get (target e)))).replay target step rest := rfl
    rw [first,ih,get_put,files]
    by_cases same : target e = key
    · subst same
      simp [replayAt]
    · have other : key ≠ target e := fun equal => same equal.symm
      simp [same,other]

/-- An interrupted replay may be started again. -/
theorem replay_absorb
    (again : ∀ entries o done, replayAt step (replayAt step o (entries.take done)) entries = replayAt step o entries)
    (s : Store κ α keyOf) (entries : List ε) (done : Nat) :
    (s.replay target step (entries.take done)).replay target step entries = s.replay target step entries := by
  ext1 key
  rw [get_replay files,get_replay files,get_replay files]
  have part : (entries.take done).filter (fun e => target e = key) <+: entries.filter (fun e => target e = key) :=
    (List.take_prefix done entries).filter _
  rw [List.prefix_iff_eq_take.mp part]
  exact again _ _ _

end Replay

end Store
end Ifaas.Library
