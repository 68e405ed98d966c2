import Ifaas.Library.Threads

/-! A machine beside a clock. Time passes between the acts and never during one, and what an
act makes (things that are counted, and numbered in the order in which they are made) is
dated with the present time. -/
namespace Ifaas.Library

structure Clocked (σ τ ι : Type) where
  pool : Pool σ τ
  now : Nat
  madeAt : ι → Nat → Nat

inductive Beat (κ ε : Type) where
  | act (taken : Act κ ε)
  | tick (time : Nat)
deriving DecidableEq

def Beat.acts {κ ε : Type} : Beat κ ε → List (Act κ ε)
  | .act taken => [taken]
  | .tick _ => []

namespace Machine
variable {σ τ κ ε ι : Type} (m : Machine σ τ κ ε) (made : ι → σ → Nat)

def beat (c : Clocked σ τ ι) : Beat κ ε → Option (Clocked σ τ ι)
  | .tick time => some { c with now := c.now + time }
  | .act act => (m.step c.pool act).map (fun q =>
      ⟨q,c.now,fun kind i => if i < made kind c.pool.shared then c.madeAt kind i else c.now⟩)

def beats (c : Clocked σ τ ι) : List (Beat κ ε) → Option (Clocked σ τ ι)
  | [] => some c
  | first::rest => (m.beat made c first).bind (fun next => beats next rest)

/-- Every beat comes where the condition allows it. -/
def InTime (cond : Clocked σ τ ι → Beat κ ε → Prop) (c : Clocked σ τ ι) : List (Beat κ ε) → Prop
  | [] => True
  | first::rest => cond c first ∧ ∀ next, m.beat made c first = some next → InTime cond next rest

/-- `InTime`, evaluated. -/
def inTime (check : Clocked σ τ ι → Beat κ ε → Bool) (c : Clocked σ τ ι) : List (Beat κ ε) → Bool
  | [] => true
  | first::rest => check c first && (m.beat made c first).all (fun next => inTime check next rest)

variable {m made}

theorem inTime_sound {cond : Clocked σ τ ι → Beat κ ε → Prop} (check : Clocked σ τ ι → Beat κ ε → Bool)
    (sound : ∀ c beat, check c beat = true → cond c beat) (c : Clocked σ τ ι) (all : List (Beat κ ε))
    (checked : m.inTime made check c all = true) : m.InTime made cond c all := by
  induction all generalizing c with
  | nil => trivial
  | cons first rest ih =>
    obtain ⟨now,later⟩ := Bool.and_eq_true_iff.mp checked
    refine ⟨sound c first now,fun next moved => ih next ?_⟩
    rw [moved] at later
    exact later

/-- What a beat is: time that passes, or an act that dates what it makes. -/
theorem beat_cases {c next : Clocked σ τ ι} {beat : Beat κ ε} (moved : m.beat made c beat = some next) :
    (∃ time, beat = .tick time ∧ next.pool = c.pool ∧ next.now = c.now + time ∧ next.madeAt = c.madeAt) ∨
    (∃ act, beat = .act act ∧ m.step c.pool act = some next.pool ∧ next.now = c.now ∧
      (∀ kind i, i < made kind c.pool.shared → next.madeAt kind i = c.madeAt kind i) ∧
      ∀ kind i, made kind c.pool.shared ≤ i → next.madeAt kind i = c.now) := by
  cases beat with
  | tick time =>
    cases moved
    exact Or.inl ⟨time,rfl,rfl,rfl,rfl⟩
  | act act =>
    obtain ⟨q,stepped,rfl⟩ := Option.map_eq_some_iff.mp moved
    exact Or.inr ⟨act,rfl,stepped,rfl,fun kind i old => if_pos old,fun kind i fresh => if_neg (Nat.not_lt.mpr fresh)⟩

/-- Nothing is dated in the future. -/
def Dated (c : Clocked σ τ ι) : Prop := ∀ kind i, c.madeAt kind i ≤ c.now

theorem beat_dated {c next : Clocked σ τ ι} {beat : Beat κ ε} (moved : m.beat made c beat = some next) (dated : Dated c) :
    Dated next := by
  intro kind i
  have before := dated kind i
  obtain ⟨time,-,-,now,same⟩ | ⟨act,-,-,now,old,fresh⟩ := beat_cases moved
  · rw [same,now]
    omega
  · rw [now]
    by_cases known : i < made kind c.pool.shared
    · rw [old kind i known]
      exact before
    · exact Nat.le_of_eq (fresh kind i (Nat.le_of_not_lt known))

/-- What every beat in time keeps holds at the end. -/
theorem beats_invariant {cond : Clocked σ τ ι → Beat κ ε → Prop} (I : Clocked σ τ ι → Prop)
    (each : ∀ c beat next, I c → cond c beat → m.beat made c beat = some next → I next) (c last : Clocked σ τ ι)
    (all : List (Beat κ ε)) (start : I c) (inTime : m.InTime made cond c all) (ran : m.beats made c all = some last) :
    I last := by
  induction all generalizing c with
  | nil =>
    cases ran
    exact start
  | cons first rest ih =>
    obtain ⟨next,moved,following⟩ := Option.bind_eq_some_iff.mp ran
    exact ih next (each c first next start inTime.1 moved) (inTime.2 next moved) following

/-- Without the clock the acts are a run of the machine. -/
theorem beats_run (c last : Clocked σ τ ι) (all : List (Beat κ ε)) (ran : m.beats made c all = some last) :
    m.run c.pool (all.flatMap Beat.acts) = some last.pool := by
  induction all generalizing c with
  | nil =>
    cases ran
    rfl
  | cons first rest ih =>
    obtain ⟨next,moved,following⟩ := Option.bind_eq_some_iff.mp ran
    have later := ih next following
    obtain ⟨time,rfl,same,-,-⟩ | ⟨act,rfl,stepped,-,-,-⟩ := beat_cases moved
    · rw [same] at later
      rw [List.flatMap_cons]
      exact later
    · rw [List.flatMap_cons]
      change (m.step c.pool act).bind _ = _
      rw [stepped]
      exact later

end Machine
end Ifaas.Library
