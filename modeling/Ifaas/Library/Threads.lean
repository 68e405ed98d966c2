import Mathlib.Logic.Basic
import Mathlib.Tactic.Common

/-! Tasks at work on one shared state. In every step one task goes on by one atomic
action, which may start other tasks, or something arrives from outside; which task goes
on, and how it chooses, is open. -/
namespace Ifaas.Library

structure Pool (σ τ : Type) where
  shared : σ
  tasks : List τ

structure Machine (σ τ κ ε : Type) where
  advance : σ → τ → κ → Option (σ × List τ)
  arrive : σ → ε → Option (σ × List τ)

inductive Act (κ ε : Type) where
  | task (i : Nat) (choice : κ)
  | outside (event : ε)
deriving DecidableEq

/-- The element at a place, with what stands before and after it. -/
def pickAt {α : Type} (items : List α) (i : Nat) : Option (List α × α × List α) :=
  match items.drop i with
  | [] => none
  | x::after => some (items.take i,x,after)

theorem pickAt_eq {α : Type} (items before after : List α) (i : Nat) (x : α)
    (picked : pickAt items i = some (before,x,after)) : items = before++x::after := by
  unfold pickAt at picked
  split at picked
  · cases picked
  next y rest held =>
    cases picked
    rw [← held,List.take_append_drop]

theorem pickAt_mem {α : Type} (items : List α) (x : α) (member : x ∈ items) :
    ∃ i before after, pickAt items i = some (before,x,after) := by
  obtain ⟨before,after,rfl⟩ := List.append_of_mem member
  refine ⟨before.length,before,after,?_⟩
  unfold pickAt
  rw [List.drop_left,List.take_left]

namespace Machine
variable {σ τ κ ε : Type} (m : Machine σ τ κ ε)

def step (p : Pool σ τ) : Act κ ε → Option (Pool σ τ)
  | .task i choice =>
    match pickAt p.tasks i with
    | none => none
    | some (before,task,after) =>
      (m.advance p.shared task choice).map (fun next => ⟨next.1,before++(next.2++after)⟩)
  | .outside event => (m.arrive p.shared event).map (fun next => ⟨next.1,p.tasks++next.2⟩)

def run (p : Pool σ τ) : List (Act κ ε) → Option (Pool σ τ)
  | [] => some p
  | act::rest => (m.step p act).bind (fun q => run q rest)

/-- Every act of the run is taken where the condition allows it. -/
def Obeys (cond : Pool σ τ → Act κ ε → Prop) (p : Pool σ τ) : List (Act κ ε) → Prop
  | [] => True
  | act::rest => cond p act ∧ ∀ q, m.step p act = some q → Obeys cond q rest

/-- `Obeys`, evaluated. -/
def obeys (check : Pool σ τ → Act κ ε → Bool) (p : Pool σ τ) : List (Act κ ε) → Bool
  | [] => true
  | act::rest =>
    check p act &&
      match m.step p act with
      | none => true
      | some q => obeys check q rest

/-- How many acts of the run are among the chosen. -/
def count (chosen : Pool σ τ → Act κ ε → Bool) (p : Pool σ τ) : List (Act κ ε) → Nat
  | [] => 0
  | act::rest =>
    (if chosen p act then 1 else 0) +
      match m.step p act with
      | none => 0
      | some q => count chosen q rest

variable {m}

theorem obeys_sound {cond : Pool σ τ → Act κ ε → Prop} (check : Pool σ τ → Act κ ε → Bool)
    (sound : ∀ p act, check p act = true → cond p act) (p : Pool σ τ) (acts : List (Act κ ε))
    (checked : m.obeys check p acts = true) : m.Obeys cond p acts := by
  induction acts generalizing p with
  | nil => trivial
  | cons act rest ih =>
    obtain ⟨now,later⟩ := Bool.and_eq_true_iff.mp checked
    refine ⟨sound p act now,fun q moved => ih q ?_⟩
    rw [moved] at later
    exact later

/-- What a step is: a task that goes on in its place, or an arrival. -/
theorem step_cases {p q : Pool σ τ} {act : Act κ ε} (moved : m.step p act = some q) :
    (∃ i choice before task after new, act = .task i choice ∧ pickAt p.tasks i = some (before,task,after) ∧
      p.tasks = before++task::after ∧ m.advance p.shared task choice = some (q.shared,new) ∧
      q.tasks = before++(new++after)) ∨
    (∃ event new, act = .outside event ∧ m.arrive p.shared event = some (q.shared,new) ∧ q.tasks = p.tasks++new) := by
  cases act with
  | task i choice =>
    cases picked : pickAt p.tasks i with
    | none =>
      simp only [step,picked] at moved
      cases moved
    | some found =>
      obtain ⟨before,task,after⟩ := found
      simp only [step,picked] at moved
      obtain ⟨⟨s,new⟩,advanced,rfl⟩ := Option.map_eq_some_iff.mp moved
      exact Or.inl ⟨i,choice,before,task,after,new,rfl,picked,pickAt_eq _ _ _ _ _ picked,advanced,rfl⟩
  | outside event =>
    obtain ⟨⟨s,new⟩,arrived,rfl⟩ := Option.map_eq_some_iff.mp moved
    exact Or.inr ⟨event,new,rfl,arrived,rfl⟩

theorem run_cons {p q : Pool σ τ} {act : Act κ ε} {rest : List (Act κ ε)} (ran : m.run p (act::rest) = some q) :
    ∃ t, m.step p act = some t ∧ m.run t rest = some q :=
  Option.bind_eq_some_iff.mp ran

theorem run_append (p q : Pool σ τ) (acts more : List (Act κ ε)) (ran : m.run p acts = some q) :
    m.run p (acts++more) = m.run q more := by
  induction acts generalizing p with
  | nil =>
    cases ran
    rfl
  | cons act rest ih =>
    obtain ⟨t,moved,following⟩ := run_cons ran
    rw [List.cons_append,run,moved]
    exact ih t following

theorem run_snoc {p q : Pool σ τ} {acts : List (Act κ ε)} {act : Act κ ε} (ran : m.run p (acts++[act]) = some q) :
    ∃ t, m.run p acts = some t ∧ m.step t act = some q := by
  induction acts generalizing p with
  | nil =>
    obtain ⟨t,moved,ends⟩ := run_cons ran
    cases ends
    exact ⟨p,rfl,moved⟩
  | cons first rest ih =>
    obtain ⟨t,moved,following⟩ := run_cons ran
    obtain ⟨u,before,last⟩ := ih following
    refine ⟨u,?_,last⟩
    rw [run,moved]
    exact before

/-- What every allowed act keeps holds at the end of a run that obeys. -/
theorem run_invariant {cond : Pool σ τ → Act κ ε → Prop} (I : Pool σ τ → Prop)
    (each : ∀ p act q, I p → cond p act → m.step p act = some q → I q) (p q : Pool σ τ) (acts : List (Act κ ε))
    (start : I p) (obeys : m.Obeys cond p acts) (ran : m.run p acts = some q) : I q := by
  induction acts generalizing p with
  | nil =>
    cases ran
    exact start
  | cons act rest ih =>
    obtain ⟨t,moved,following⟩ := run_cons ran
    exact ih t (each p act t start obeys.1 moved) (obeys.2 t moved) following

/-- What a step adds to one count it takes from the tasks or adds to the other count. -/
theorem step_balance (F G : σ → Nat) (w : τ → Bool)
    (task : ∀ s x choice s' new, m.advance s x choice = some (s',new) →
      F s' + new.countP w + G s = F s + [x].countP w + G s')
    (arrival : ∀ s event s' new, m.arrive s event = some (s',new) → F s' + new.countP w + G s = F s + G s')
    (p q : Pool σ τ) (act : Act κ ε) (inv : F p.shared + p.tasks.countP w = G p.shared) (moved : m.step p act = some q) :
    F q.shared + q.tasks.countP w = G q.shared := by
  obtain ⟨i,choice,before,x,after,new,-,-,was,advanced,becomes⟩ | ⟨event,new,-,arrived,becomes⟩ := step_cases moved
  · have balance := task _ x choice _ new advanced
    rw [was,List.countP_append,← List.singleton_append,List.countP_append] at inv
    rw [becomes,List.countP_append,List.countP_append]
    omega
  · have balance := arrival _ event _ new arrived
    rw [becomes,List.countP_append]
    omega

theorem obeys_and (first second : Pool σ τ → Act κ ε → Prop) (p : Pool σ τ) (acts : List (Act κ ε))
    (one : m.Obeys first p acts) (two : m.Obeys second p acts) :
    m.Obeys (fun p act => first p act ∧ second p act) p acts := by
  induction acts generalizing p with
  | nil => trivial
  | cons act rest ih =>
    exact ⟨⟨one.1,two.1⟩,fun q moved => ih q (one.2 q moved) (two.2 q moved)⟩

/-- A condition that allows every act wherever a run leads is obeyed by every run. -/
theorem obeys_of_reached (cond : Pool σ τ → Act κ ε → Prop) (p : Pool σ τ)
    (all : ∀ acts q, m.run p acts = some q → ∀ act, cond q act) (acts : List (Act κ ε)) : m.Obeys cond p acts := by
  induction acts generalizing p with
  | nil => trivial
  | cons act rest ih =>
    refine ⟨all [] p rfl act,fun q moved => ih q (fun more t ran => all (act::more) t ?_)⟩
    rw [run,moved]
    exact ran

/-- A condition on the acts alone. -/
theorem obeys_of_forall (cond : Act κ ε → Prop) (acts : List (Act κ ε)) (all : ∀ act ∈ acts, cond act) (p : Pool σ τ) :
    m.Obeys (fun _ act => cond act) p acts := by
  induction acts generalizing p with
  | nil => trivial
  | cons act rest ih =>
    exact ⟨all act (by simp),fun q _ => ih (fun other member => all other (List.mem_cons_of_mem _ member)) q⟩

/-- What every act keeps holds at the end of every run. -/
theorem run_always (I : Pool σ τ → Prop) (each : ∀ p act q, I p → m.step p act = some q → I q) (p q : Pool σ τ)
    (acts : List (Act κ ε)) (start : I p) (ran : m.run p acts = some q) : I q :=
  run_invariant I (fun p act q inv _ moved => each p act q inv moved) p q acts start
    (obeys_of_forall (fun _ => True) acts (fun _ _ => trivial) p) ran

/-- No act that the condition allows can be taken. -/
def Stuck (m : Machine σ τ κ ε) (cond : Pool σ τ → Act κ ε → Prop) (p : Pool σ τ) : Prop := ∀ act, cond p act → m.step p act = none

/-- A task that could go on, if it may, is not there where nothing can go on. -/
theorem Stuck.no_task {cond : Pool σ τ → Act κ ε → Prop} {p : Pool σ τ} (stuck : m.Stuck cond p) (task : τ) (choice : κ)
    (may : ∀ i before after, pickAt p.tasks i = some (before,task,after) → cond p (.task i choice))
    (can : m.advance p.shared task choice ≠ none) : task ∉ p.tasks := by
  intro member
  obtain ⟨i,before,after,picked⟩ := pickAt_mem p.tasks task member
  have stays := stuck (.task i choice) (may i before after picked)
  simp only [step,picked,Option.map_eq_none_iff] at stays
  exact can stays

/-- Where the chosen acts lower the rank and the others do not raise it, a run has no more of the
chosen than the rank is lowered by, however they are interleaved with the others. -/
theorem run_counted {cond : Pool σ τ → Act κ ε → Prop} (chosen : Pool σ τ → Act κ ε → Bool) (I : Pool σ τ → Prop)
    (rank : Pool σ τ → Nat)
    (each : ∀ p act q, I p → cond p act → m.step p act = some q →
      I q ∧ rank q + (if chosen p act then 1 else 0) ≤ rank p) (p q : Pool σ τ)
    (acts : List (Act κ ε)) (start : I p) (obeys : m.Obeys cond p acts) (ran : m.run p acts = some q) :
    m.count chosen p acts + rank q ≤ rank p := by
  induction acts generalizing p with
  | nil =>
    cases ran
    simp [count]
  | cons act rest ih =>
    obtain ⟨t,moved,following⟩ := run_cons ran
    obtain ⟨inv,lower⟩ := each p act t start obeys.1 moved
    have bound := ih t inv (obeys.2 t moved) following
    simp only [count,moved]
    omega

end Machine
end Ifaas.Library
