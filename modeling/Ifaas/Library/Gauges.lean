import Mathlib.Data.List.Induction
import Ifaas.Library.Threads

/-! Gauges. A task reads the gauge in the step that moves it and shows the reading in a later
step, so readings can be shown in another order than they were taken. -/
namespace Ifaas.Library

structure Gauge (σ τ V : Type) where
  /-- What the gauge measures. -/
  value : σ → V
  /-- The readings a task has still to show. -/
  due : τ → List V
  /-- The readings shown so far. -/
  shown : σ → List V

namespace Gauge
variable {σ τ κ ε V : Type} (g : Gauge σ τ V)

def dueIn (tasks : List τ) : List V := tasks.flatMap g.due

theorem dueIn_append (first second : List τ) : g.dueIn (first++second) = g.dueIn first++g.dueIn second := List.flatMap_append

/-- A step leaves the gauge alone, moves it and takes a reading, or shows one. -/
inductive Step (s s' : σ) (old new : List τ) : Prop
  | quiet (value : g.value s' = g.value s) (due : g.dueIn new = g.dueIn old) (shown : g.shown s' = g.shown s)
  | read (none : g.dueIn old = []) (due : g.dueIn new = [g.value s']) (shown : g.shown s' = g.shown s)
  | report (v : V) (value : g.value s' = g.value s) (due : g.dueIn old = [v]) (none : g.dueIn new = [])
      (shown : g.shown s' = g.shown s++[v])

/-- Every step of the machine is one of a gauge. -/
structure Honest (m : Machine σ τ κ ε) : Prop where
  task : ∀ s x choice s' new, m.advance s x choice = some (s',new) → g.Step s s' [x] new
  arrival : ∀ s event s' new, m.arrive s event = some (s',new) → g.Step s s' [] new

/-- The last reading shown, if there is one, is this one. -/
def Shows (s : σ) (v : V) : Prop := ∀ last, (g.shown s).getLast? = some last → last = v

/-- The run showed the reading last, when the gauge was at the actual value. -/
inductive Reported (m : Machine σ τ κ ε) (start : Pool σ τ) : List (Act κ ε) → Pool σ τ → V → V → Prop
  | now (acts : List (Act κ ε)) (act : Act κ ε) (p q : Pool σ τ) (v : V) (ran : m.run start acts = some p)
      (moved : m.step p act = some q) (shown : g.shown q.shared = g.shown p.shared++[v]) :
      Reported m start (acts++[act]) q v (g.value p.shared)
  | later (acts : List (Act κ ε)) (act : Act κ ε) (p q : Pool σ τ) (v actual : V) (known : Reported m start acts p v actual)
      (moved : m.step p act = some q) (silent : g.shown q.shared = g.shown p.shared) :
      Reported m start (acts++[act]) q v actual

/-- A reading is taken only when no other waits to be shown. -/
def Patient (m : Machine σ τ κ ε) (p : Pool σ τ) (act : Act κ ε) : Prop :=
  ∀ q, m.step p act = some q → (g.dueIn p.tasks).length < (g.dueIn q.tasks).length → g.dueIn p.tasks = []

/-- `Patient`, evaluated. -/
def patient (m : Machine σ τ κ ε) (p : Pool σ τ) (act : Act κ ε) : Bool :=
  match m.step p act with
  | none => true
  | some q => (g.dueIn p.tasks).isEmpty || decide ((g.dueIn q.tasks).length ≤ (g.dueIn p.tasks).length)

variable {g} {m : Machine σ τ κ ε}

theorem patient_sound (p : Pool σ τ) (act : Act κ ε) (checked : g.patient m p act = true) : g.Patient m p act := by
  intro q moved more
  unfold patient at checked
  rw [moved] at checked
  rcases Bool.or_eq_true_iff.mp checked with none | fewer
  · exact List.isEmpty_iff.mp none
  · have few := of_decide_eq_true fewer
    omega

/-- What a step does to the pool: the readings that wait change in one place. -/
theorem Honest.step (honest : g.Honest m) {p q : Pool σ τ} {act : Act κ ε} (moved : m.step p act = some q) :
    ∃ before old new after, p.tasks = before++(old++after) ∧ q.tasks = before++(new++after) ∧
      g.Step p.shared q.shared old new := by
  obtain ⟨i,choice,before,x,after,new,-,-,was,advanced,becomes⟩ | ⟨event,new,-,arrived,becomes⟩ := Machine.step_cases moved
  · exact ⟨before,[x],new,after,was,becomes,honest.task _ x choice _ new advanced⟩
  · exact ⟨p.tasks,[],new,[],(List.append_nil _).symm,by rw [becomes,List.append_nil],honest.arrival _ event _ new arrived⟩

/-- The last reading shown, and a gauge that has not moved since unless a reading waits. -/
theorem Reported.last (honest : g.Honest m) {start p : Pool σ τ} {acts : List (Act κ ε)} {v actual : V}
    (reported : g.Reported m start acts p v actual) :
    (g.shown p.shared).getLast? = some v ∧ (g.dueIn p.tasks = [] → g.value p.shared = actual) := by
  induction reported with
  | now acts act p q v ran moved shown =>
    refine ⟨by rw [shown,List.getLast?_concat],fun _ => ?_⟩
    obtain ⟨before,old,new,after,-,-,step⟩ := honest.step moved
    cases step with
    | quiet value due same => exact value
    | read none due same =>
      rw [same] at shown
      exact absurd shown.symm (by simp)
    | report u value due none same => exact value
  | later acts act p q v actual known moved silent ih =>
    obtain ⟨last,unmoved⟩ := ih
    refine ⟨by rw [silent]; exact last,fun none => ?_⟩
    obtain ⟨before,old,new,after,was,becomes,step⟩ := honest.step moved
    simp only [becomes,dueIn_append,List.append_eq_nil_iff] at none
    obtain ⟨left,here,right⟩ := none
    cases step with
    | quiet value due same =>
      rw [value]
      refine unmoved ?_
      rw [was,dueIn_append,dueIn_append,left,← due,here,right]
      rfl
    | read empty due same =>
      rw [here] at due
      cases due
    | report u value due empty same =>
      rw [silent] at same
      exact absurd same.symm (by simp)

/-- A run that showed anything showed something last. -/
theorem reported_of_run (honest : g.Honest m) (start : Pool σ τ) (blank : g.shown start.shared = [])
    (acts : List (Act κ ε)) (p : Pool σ τ) (ran : m.run start acts = some p) :
    g.shown p.shared = [] ∨ ∃ v actual, g.Reported m start acts p v actual := by
  induction acts using List.reverseRecOn generalizing p with
  | nil =>
    cases ran
    exact Or.inl blank
  | append_singleton acts act ih =>
    obtain ⟨t,earlier,moved⟩ := Machine.run_snoc ran
    obtain ⟨before,old,new,after,-,-,step⟩ := honest.step moved
    have silent (same : g.shown p.shared = g.shown t.shared) :
        g.shown p.shared = [] ∨ ∃ v actual, g.Reported m start (acts++[act]) p v actual := by
      rcases ih t earlier with none | ⟨v,actual,known⟩
      · exact Or.inl (same.trans none)
      · exact Or.inr ⟨v,actual,.later acts act t p v actual known moved same⟩
    cases step with
    | quiet value due same => exact silent same
    | read none due same => exact silent same
    | report v value due none shown => exact Or.inr ⟨v,_,.now acts act t p v earlier moved shown⟩

/-- When no reading waits, the gauge shows its value exactly if the last reading shown was up to date. -/
theorem shows_iff (honest : g.Honest m) (start : Pool σ τ) (blank : g.shown start.shared = []) (acts : List (Act κ ε))
    (p : Pool σ τ) (ran : m.run start acts = some p) (none : g.dueIn p.tasks = []) :
    g.Shows p.shared (g.value p.shared) ↔ ∀ v actual, g.Reported m start acts p v actual → v = actual := by
  constructor
  · intro shows v actual reported
    obtain ⟨last,unmoved⟩ := reported.last honest
    exact (shows v last).trans (unmoved none)
  · intro fresh last shown
    rcases reported_of_run honest start blank acts p ran with empty | ⟨v,actual,reported⟩
    · rw [empty] at shown
      cases shown
    · obtain ⟨same,unmoved⟩ := reported.last honest
      rw [shown] at same
      cases same
      exact (fresh last actual reported).trans (unmoved none).symm

/-- At most one reading waits, and it is the value; without one the value has been shown. -/
structure InStep (g : Gauge σ τ V) (p : Pool σ τ) : Prop where
  waits : g.dueIn p.tasks = [] ∨ g.dueIn p.tasks = [g.value p.shared]
  shows : g.dueIn p.tasks = [] → g.Shows p.shared (g.value p.shared)

theorem step_inStep (honest : g.Honest m) (p q : Pool σ τ) (act : Act κ ε) (inv : InStep g p) (patient : g.Patient m p act)
    (moved : m.step p act = some q) : InStep g q := by
  obtain ⟨before,old,new,after,was,becomes,step⟩ := honest.step moved
  have waited : g.dueIn p.tasks = g.dueIn before++(g.dueIn old++g.dueIn after) := by
    rw [was,dueIn_append,dueIn_append]
  have waits : g.dueIn q.tasks = g.dueIn before++(g.dueIn new++g.dueIn after) := by
    rw [becomes,dueIn_append,dueIn_append]
  cases step with
  | quiet value due shown =>
    have same : g.dueIn q.tasks = g.dueIn p.tasks := by rw [waits,waited,due]
    refine ⟨by rw [same,value]; exact inv.waits,fun none last => ?_⟩
    rw [shown,value]
    exact inv.shows (same ▸ none) last
  | read none due shown =>
    have free : g.dueIn p.tasks = [] := by
      refine patient q moved ?_
      rw [waited,waits,none,due]
      simp
    rw [waited] at free
    simp only [List.append_eq_nil_iff] at free
    rw [free.1,due,free.2.2] at waits
    exact ⟨Or.inr waits,fun empty => by rw [waits] at empty; cases empty⟩
  | report v value due none shown =>
    -- the reading that is shown is the only one that waited
    have only : g.dueIn p.tasks = [g.value p.shared] := by
      rcases inv.waits with empty | only
      · rw [waited,due] at empty
        simp at empty
      · exact only
    rw [waited,due] at only
    have alone : g.dueIn before = [] ∧ g.dueIn after = [] := by
      have size := congrArg List.length only
      simp only [List.length_append,List.length_singleton] at size
      exact ⟨List.eq_nil_of_length_eq_zero (by omega),List.eq_nil_of_length_eq_zero (by omega)⟩
    rw [alone.1,alone.2] at only waits
    rw [none] at waits
    refine ⟨Or.inl waits,fun _ last => ?_⟩
    rw [shown,List.getLast?_concat,value]
    intro same
    cases same
    exact (List.cons.inj only).1

/-- A run that takes its readings one at a time shows the value when none waits. -/
theorem shows_of_patient (honest : g.Honest m) (start p : Pool σ τ) (acts : List (Act κ ε)) (blank : g.shown start.shared = [])
    (fresh : g.dueIn start.tasks = []) (patient : m.Obeys (g.Patient m) start acts) (ran : m.run start acts = some p)
    (none : g.dueIn p.tasks = []) : g.Shows p.shared (g.value p.shared) := by
  have begins : InStep g start := ⟨Or.inl fresh,fun _ last shown => by rw [blank] at shown; cases shown⟩
  have inv := Machine.run_invariant (InStep g) (fun p act q inv now moved => step_inStep honest p q act inv now moved)
    start p acts begins patient ran
  exact inv.shows none

end Gauge
end Ifaas.Library
