import Ifaas.Library.Program

/-! Calls that never leave the caller's own process: they are answered whatever happens to
the others. A program is compared with the same program without them, under the same
faults of the calls that both make. -/
namespace Ifaas.Library
variable {Req : Type} {Resp : Req → Type} {E S α β : Type}

namespace Program
variable (silent : (r : Req) → Option (Resp r))

/-- The program without the calls that `silent` answers. -/
def mute : Program Req Resp α → Program Req Resp α
  | .pure value => .pure value
  | .call r next =>
    match silent r with
    | some answer => (next answer).mute
    | none => .call r (fun response => (next response).mute)

theorem mute_bind (p : Program Req Resp α) (f : α → Program Req Resp β) :
    (p >>= f).mute silent = (p.mute silent >>= fun value => (f value).mute silent) := by
  induction p with
  | pure value => rfl
  | call r next ih =>
    rw [bind_call,mute,mute]
    cases silent r with
    | some answer => exact ih answer
    | none =>
      dsimp only
      rw [bind_call]
      congr 1
      funext response
      exact ih response

theorem mute_same (p : Program Req Resp α) (heard : p.Uses (fun r => silent r = none)) : p.mute silent = p := by
  induction p with
  | pure value => rfl
  | call r next ih =>
    rw [mute,heard.1]
    dsimp only
    congr 1
    funext response
    exact ih response (heard.2 response)

/-- `mute_bind` for a first part without silent calls. -/
theorem mute_heard (p : Program Req Resp α) (f : α → Program Req Resp β) (heard : p.Uses (fun r => silent r = none)) :
    (p >>= f).mute silent = (p >>= fun value => (f value).mute silent) := by
  rw [mute_bind,mute_same silent p heard]

end Program

/-- The fault a call meets, and the faults left for the calls after it. -/
def facing (silent : (r : Req) → Option (Resp r)) (faults : List (Fault E)) (r : Req) : Fault E × List (Fault E) :=
  match silent r with
  | some _ => (.none,faults)
  | none => (faults.headD .none,faults.tail)

/-- Run the program to its end. The calls meet the faults one by one and are answered when
there are no more; silent calls are always answered. -/
def Server.attempt (sv : Server Req Resp E S) (silent : (r : Req) → Option (Resp r)) :
    Program Req Resp α → List (Fault E) → S → List (Event Req Resp E S) × α × S
  | .pure value,_,s => ([],value,s)
  | .call r next,faults,s =>
    let (fault,left) := facing silent faults r
    let (log,value,t) := sv.attempt silent (next (sv.serve fault s r).2) left (sv.serve fault s r).1
    (sv.event fault s r::log,value,t)

theorem run_attempt (sv : Server Req Resp E S) (silent : (r : Req) → Option (Resp r)) (drift : S → S → Prop)
    (still : ∀ s, drift s s) (p : Program Req Resp α) (faults : List (Fault E)) (s : S) :
    Run sv drift p s (sv.attempt silent p faults s).1 (some (sv.attempt silent p faults s).2.1)
      (sv.attempt silent p faults s).2.2 := by
  induction p generalizing faults s with
  | pure value => exact .done value s
  | call r next ih => exact .call r next s s _ _ _ _ (still s) (ih _ _ _)

/-- Silent calls do what nobody else notices. -/
structure Unnoticed (sv : Server Req Resp E S) (silent : (r : Req) → Option (Resp r)) (same : S → S → Prop) : Prop where
  answered : ∀ s r answer, silent r = some answer → (sv.effect s r).2 = answer
  hidden : ∀ s t r answer, silent r = some answer → same s t → same s (sv.effect t r).1
  heard : ∀ s t r, silent r = none → same s t →
    same (sv.effect s r).1 (sv.effect t r).1 ∧ (sv.effect t r).2 = (sv.effect s r).2

theorem Unnoticed.serve {sv : Server Req Resp E S} {silent : (r : Req) → Option (Resp r)} {same : S → S → Prop}
    (unnoticed : Unnoticed sv silent same) (fault : Fault E) (s t : S) (r : Req) (loud : silent r = none) (equal : same s t) :
    same (sv.serve fault s r).1 (sv.serve fault t r).1 ∧ (sv.serve fault t r).2 = (sv.serve fault s r).2 := by
  cases fault with
  | none => exact unnoticed.heard s t r loud equal
  | refused error => exact ⟨equal,rfl⟩
  | lost error => exact ⟨(unnoticed.heard s t r loud equal).1,rfl⟩

/-- Under the same faults a program and the program without its silent calls return the same
and leave the same state. -/
theorem attempt_mute {sv : Server Req Resp E S} {silent : (r : Req) → Option (Resp r)} {same : S → S → Prop}
    (unnoticed : Unnoticed sv silent same) (p : Program Req Resp α) (faults : List (Fault E)) (s t : S) (equal : same s t) :
    (sv.attempt silent (p.mute silent) faults s).2.1 = (sv.attempt silent p faults t).2.1 ∧
      same (sv.attempt silent (p.mute silent) faults s).2.2 (sv.attempt silent p faults t).2.2 := by
  induction p generalizing faults s t with
  | pure value => exact ⟨rfl,equal⟩
  | call r next ih =>
    rw [Program.mute]
    cases answered : silent r with
    | some answer =>
      dsimp only [Server.attempt,facing]
      rw [answered]
      dsimp only [Server.serve]
      rw [unnoticed.answered t r answer answered]
      exact ih answer faults s _ (unnoticed.hidden s t r answer answered equal)
    | none =>
      dsimp only [Server.attempt,facing]
      rw [answered]
      dsimp only
      obtain ⟨after,response⟩ := unnoticed.serve (faults.headD .none) s t r answered equal
      rw [response]
      exact ih _ _ _ _ after

end Ifaas.Library
