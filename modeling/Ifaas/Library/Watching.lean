import Ifaas.Library.Calls
import Mathlib.Logic.Function.Basic

/-! A level-triggered loop. Every key has a program, and it is pending while something it depends
on may have changed since the program last looked. A pending key is taken and its program run,
one call at a time, while the environment and the programs of other keys go on changing the
state; every change marks the keys that are told of it, and a program may ask for another run.
Who is told depends on what the handlers of the change read: where a read fails, a key misses
the change, and that is remembered until the key is taken again. Timers may mark a key at any time.
`rest_fresh` is the rule for what such a loop establishes where it is at rest. -/
namespace Ifaas.Library
variable {Req : Type} {Resp : Req → Type} {E S K V N Out : Type}

structure Loop (Req : Type) (Resp : Req → Type) (S K Out : Type) where
  state : S
  pending : K → Prop
  missed : K → Prop
  running : K → Option (Program Req Resp Out)

/-- What the loop is made of: the programs, what the handlers of a change can read, who is told of
the change and who misses it, and who asks to run again. -/
structure Watch (Req : Type) (Resp : Req → Type) (S K N Out : Type) where
  code : K → Program Req Resp Out
  reads : N → S → Prop
  woken : N → S → S → K → Prop
  misses : N → S → S → K → Prop
  again : Out → Prop

namespace Watch
variable (w : Watch Req Resp S K N Out) (sv : Server Req Resp E S) (env : S → S → Prop)

/-- The state has changed: those who are told of it are pending, and the others miss it or need not know. -/
def notify (l : Loop Req Resp S K Out) (t : S) (n : N) : Loop Req Resp S K Out :=
  { l with
    state := t
    pending := fun k => l.pending k ∨ w.woken n l.state t k
    missed := fun k => l.missed k ∨ w.misses n l.state t k }

/-- An answer that can be had while what the key looks at stays as it is. -/
def Unmoved (sv : Server Req Resp E S) (view : S → V) (v : V) (r : Req) (answer : Resp r) : Prop :=
  ∃ fault s, view s = v ∧ (sv.serve fault s r).2 = answer ∧ view (sv.serve fault s r).1 = v

/-- Whoever is not told of a change and does not miss it sees the same after it, and a program that
sees the same all along and does not ask for another run has established what is to hold of it. -/
structure Sound (w : Watch Req Resp S K N Out) (sv : Server Req Resp E S) (view : K → S → V) (fresh : K → V → Prop) : Prop where
  told : ∀ n s t k, w.reads n t → ¬ w.woken n s t k → ¬ w.misses n s t k → view k t = view k s
  establishes : ∀ k v, (w.code k).Keeps (Unmoved sv (view k) v) (fun _ => True) (fun value => ¬ w.again value → fresh k v)

/-- What holds of a key that is not pending and has missed nothing: the rest of its program will
establish it, or it is established. -/
def Sees (view : K → S → V) (fresh : K → V → Prop) (l : Loop Req Resp S K Out) (k : K) : Prop :=
  match l.running k with
  | none => fresh k (view k l.state)
  | some p => p.Keeps (Unmoved sv (view k) (view k l.state)) (fun _ => True) (fun value => ¬ w.again value → fresh k (view k l.state))

section Sees
variable {w sv} {view : K → S → V} {fresh : K → V → Prop}

theorem Sees.congr {l m : Loop Req Resp S K Out} {k : K} (sees : w.Sees sv view fresh l k) (state : m.state = l.state)
    (running : m.running k = l.running k) : w.Sees sv view fresh m k := by
  unfold Sees at *
  rw [state,running]
  exact sees

theorem Sees.moved {l : Loop Req Resp S K Out} {k : K} (sees : w.Sees sv view fresh l k) (t : S) (n : N)
    (same : view k t = view k l.state) : w.Sees sv view fresh (w.notify l t n) k := by
  unfold Sees notify at *
  dsimp only
  rw [same]
  exact sees

/-- A step of the program of a key, where the key sees the same after it. -/
theorem Sees.called {l m : Loop Req Resp S K Out} {k : K} {r : Req} {next : Resp r → Program Req Resp Out}
    (sees : w.Sees sv view fresh l k) (fault : Fault E) (held : l.running k = some (.call r next))
    (same : view k (sv.serve fault l.state r).1 = view k l.state) (state : m.state = (sv.serve fault l.state r).1)
    (running : m.running k = some (next (sv.serve fault l.state r).2)) : w.Sees sv view fresh m k := by
  unfold Sees at *
  rw [held] at sees
  rw [running,state,same]
  exact sees.2 _ ⟨fault,l.state,rfl,rfl,same⟩

end Sees

variable [DecidableEq K]

inductive Reaches (first : Loop Req Resp S K Out) : Loop Req Resp S K Out → Prop
  | start : Reaches first first
  | drift (l : Loop Req Resp S K Out) (t : S) (n : N) (before : Reaches first l) (moved : env l.state t) (read : w.reads n t) :
      Reaches first (w.notify l t n)
  | take (l : Loop Req Resp S K Out) (k : K) (before : Reaches first l) (due : l.pending k) (free : l.running k = none) :
      Reaches first { l with
        pending := Function.update l.pending k False, missed := Function.update l.missed k False
        running := Function.update l.running k (some (w.code k)) }
  | call (l : Loop Req Resp S K Out) (k : K) (r : Req) (next : Resp r → Program Req Resp Out) (fault : Fault E) (n : N)
      (before : Reaches first l) (held : l.running k = some (.call r next)) (read : w.reads n (sv.serve fault l.state r).1) :
      Reaches first { w.notify l (sv.serve fault l.state r).1 n with
        running := Function.update l.running k (some (next (sv.serve fault l.state r).2)) }
  | finish (l : Loop Req Resp S K Out) (k : K) (value : Out) (before : Reaches first l) (held : l.running k = some (.pure value)) :
      Reaches first { l with
        pending := Function.update l.pending k (l.pending k ∨ w.again value), running := Function.update l.running k none }
  | nudge (l : Loop Req Resp S K Out) (k : K) (before : Reaches first l) :
      Reaches first { l with pending := Function.update l.pending k True }
  | restart (l : Loop Req Resp S K Out) (before : Reaches first l) :
      Reaches first { l with pending := fun _ => True, running := fun _ => none }

variable {w sv env} {view : K → S → V} {fresh : K → V → Prop}

/-- The invariant of the loop. -/
theorem reaches_sees (sound : w.Sound sv view fresh) {first l : Loop Req Resp S K Out} (due : ∀ k, first.pending k)
    (run : w.Reaches sv env first l) : ∀ k, ¬ l.pending k → ¬ l.missed k → w.Sees sv view fresh l k := by
  induction run with
  | start => exact fun k rested => absurd (due k) rested
  | drift l t n before moved read ih =>
    intro k rested heard
    have same := sound.told n l.state t k read (fun woken => rested (Or.inr woken)) (fun misses => heard (Or.inr misses))
    exact (ih k (fun pending => rested (Or.inl pending)) (fun missed => heard (Or.inl missed))).moved t n same
  | take l k before due free ih =>
    intro j rested heard
    dsimp only at rested heard
    by_cases here : j = k
    · subst here
      unfold Sees
      dsimp only
      rw [Function.update_self]
      exact sound.establishes j _
    · rw [Function.update_of_ne here] at rested heard
      exact (ih j rested heard).congr rfl (Function.update_of_ne here ..)
  | call l k r next fault n before held read ih =>
    intro j rested heard
    have same := sound.told n l.state _ j read (fun woken => rested (Or.inr woken)) (fun misses => heard (Or.inr misses))
    have sees := ih j (fun pending => rested (Or.inl pending)) (fun missed => heard (Or.inl missed))
    by_cases here : j = k
    · subst here
      exact sees.called fault held same rfl (Function.update_self ..)
    · exact (sees.moved _ n same).congr rfl (Function.update_of_ne here ..)
  | finish l k value before held ih =>
    intro j rested heard
    dsimp only at rested
    by_cases here : j = k
    · subst here
      rw [Function.update_self] at rested
      have sees := ih j (fun pending => rested (Or.inl pending)) heard
      unfold Sees at *
      rw [held] at sees
      dsimp only
      rw [Function.update_self]
      exact sees (fun again => rested (Or.inr again))
    · rw [Function.update_of_ne here] at rested
      exact (ih j rested heard).congr rfl (Function.update_of_ne here ..)
  | nudge l k before ih =>
    intro j rested heard
    dsimp only at rested
    have here : j ≠ k := by
      rintro rfl
      rw [Function.update_self] at rested
      exact rested trivial
    rw [Function.update_of_ne here] at rested
    exact (ih j rested heard).congr rfl rfl
  | restart l before ih => exact fun k rested => absurd trivial rested

/-- A key at rest that has missed nothing is up to date. -/
theorem rest_fresh (sound : w.Sound sv view fresh) {first l : Loop Req Resp S K Out} (due : ∀ k, first.pending k)
    (run : w.Reaches sv env first l) (k : K) (rested : ¬ l.pending k) (heard : ¬ l.missed k) (free : l.running k = none) :
    fresh k (view k l.state) := by
  have sees := reaches_sees sound due run k rested heard
  unfold Sees at sees
  rwa [free] at sees

end Watch
end Ifaas.Library
