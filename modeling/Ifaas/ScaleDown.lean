import Ifaas.Api

/-! The decision rules of the scale-down guard: the results of one probe round are
voted into an outcome and counted for the status message. -/
namespace Ifaas.ScaleDown

structure Result where
  podName : String
  allowed : Bool
  err : Option ApiError
deriving DecidableEq

inductive Outcome where
  | allowZero
  | block
  | noPods
deriving DecidableEq

def vote (results : List Result) : Outcome :=
  if results = [] then .noPods
  else if results.any (fun r => r.err.isSome || !r.allowed) then .block
  else .allowZero

structure Tally where
  ok : Nat := 0
  refused : Nat := 0
  errored : Nat := 0
deriving DecidableEq

def tally (results : List Result) : Tally :=
  results.foldl (fun t r =>
    match r.err,r.allowed with
    | some _,_ => { t with errored := t.errored + 1 }
    | none,true => { t with ok := t.ok + 1 }
    | none,false => { t with refused := t.refused + 1 }) {}

theorem errored_tally (results : List Result) : (tally results).errored = results.countP (fun r => r.err.isSome) := by
  have counted (f : Tally → Result → Tally) (each : ∀ t r, (f t r).errored = t.errored + if r.err.isSome then 1 else 0)
      (t : Tally) : (results.foldl f t).errored = t.errored + results.countP (fun r => r.err.isSome) := by
    induction results generalizing t with
    | nil => rfl
    | cons r rest ih =>
      rw [List.foldl_cons,ih,each,List.countP_cons]
      omega
  unfold tally
  rw [counted _ (fun t r => by cases err : r.err <;> cases given : r.allowed <;> rfl)]
  exact Nat.zero_add _

/-- The pod confirmed that it may be scaled away. -/
def Result.Confirms (r : Result) : Prop := r.allowed = true ∧ r.err = none

theorem vote_block_iff (results : List Result) : vote results = .block ↔ ∃ r ∈ results, ¬ r.Confirms := by
  have doubt (r : Result) : (r.err.isSome || !r.allowed) = true ↔ ¬ r.Confirms := by
    cases held : r.err <;> cases given : r.allowed <;> simp [Result.Confirms,held,given]
  unfold vote
  split
  next empty => simp [empty]
  next some_ =>
    have found : results.any (fun r => r.err.isSome || !r.allowed) = true ↔ ∃ r ∈ results, ¬ r.Confirms := by
      rw [List.any_eq_true]
      exact exists_congr (fun r => and_congr_right (fun _ => doubt r))
    split
    next blocked => exact iff_of_true rfl (found.mp blocked)
    next clear => exact iff_of_false nofun (fun refused => clear (found.mpr refused))

end Ifaas.ScaleDown
