import Ifaas.Flusher

/-! The in-flight cap. The counter and the semaphore of a lane are tied to where its workers
are: each step of a task moves the worker and the lane together, and the other tasks touch
neither. -/
namespace Ifaas.Flusher
open Library

/-- A worker of the namespace. -/
def Task.live (ns : String) : Task → Bool
  | .runOne t _ => t.ns = ns
  | _ => false

/-- A worker between the increment and the decrement of the lane's counter. -/
def Task.counted (ns : String) : Task → Bool
  | .runOne t (.reportIn _) => t.ns = ns
  | .runOne t .call => t.ns = ns
  | .runOne t .patching => t.ns = ns
  | .runOne t (.settle _) => t.ns = ns
  | _ => false

/-- A worker past the semaphore that has not given its token back. -/
def Task.holds (ns : String) : Task → Bool
  | .runOne _ .acquire => false
  | .runOne _ .done => false
  | .runOne t _ => t.ns = ns
  | _ => false

def Task.patching (ns : String) : Task → Bool
  | .runOne t .patching => t.ns = ns
  | _ => false

theorem holds_of_patching (ns : String) (task : Task) (running : task.patching ns = true) : task.holds ns = true := by
  unfold Task.patching at running
  split at running
  · exact running
  · cases running

theorem live_of_counted (ns : String) (task : Task) (counted : task.counted ns = true) : task.live ns = true := by
  unfold Task.counted at counted
  split at counted <;> first | exact counted | cases counted

theorem live_of_holds (ns : String) (task : Task) (holds : task.holds ns = true) : task.live ns = true := by
  unfold Task.holds at holds
  split at holds <;> first | exact holds | cases holds

/-- What a task does to the lane's counter and semaphore it does to the number of its workers. -/
structure Balanced (cap : Int) (ns : String) (s t : Shared) (old new : List Task) : Prop where
  counted : (t.lane ns).inflight + old.countP (Task.counted ns) = (s.lane ns).inflight + new.countP (Task.counted ns)
  held : (t.lane ns).tokens + old.countP (Task.holds ns) = (s.lane ns).tokens + new.countP (Task.holds ns)
  capped : ((s.lane ns).tokens : Int) ≤ cap → ((t.lane ns).tokens : Int) ≤ cap

/-- The counter follows the worker, with a semaphore or without one. -/
theorem worked_counter (m : Manager) (s s' : Shared) (t : Ticket) (phase : Phase) (choice : Choice) (new : List Task)
    (moved : Worked m s t phase choice s' new) (ns : String) :
    (s'.lane ns).inflight + [Task.runOne t phase].countP (Task.counted ns) = (s.lane ns).inflight + new.countP (Task.counted ns) := by
  by_cases here : ns = t.ns
  · subst here
    cases moved <;> simp [Shared.setLane,Shared.emit,Task.counted]
  · have uncounted (p : Phase) : Task.counted ns (.runOne t p) = false := by
      cases p <;> simp [Task.counted,Ne.symm here]
    rw [worked_elsewhere m s s' t phase choice new moved ns here]
    rcases worked_tasks m s s' t phase choice new moved with rfl | ⟨next,rfl⟩ <;> simp [uncounted]

theorem worked_balanced (m : Manager) (positive : 0 < m.cfg.maxInFlight) (s s' : Shared) (t : Ticket) (phase : Phase)
    (choice : Choice) (new : List Task) (moved : Worked m s t phase choice s' new) (ns : String) :
    Balanced m.cfg.maxInFlight ns s s' [.runOne t phase] new := by
  refine ⟨worked_counter m s s' t phase choice new moved ns,?_,?_⟩ <;> by_cases here : ns = t.ns
  · subst here
    cases moved with
    | unbounded free => omega
    | unheld free => omega
    | released capped held =>
      simp [Shared.setLane,Task.holds]
      omega
    | _ => simp [Shared.setLane,Shared.emit,Task.holds]
  · have unheld (p : Phase) : Task.holds ns (.runOne t p) = false := by
      cases p <;> simp [Task.holds,Ne.symm here]
    rw [worked_elsewhere m s s' t phase choice new moved ns here]
    rcases worked_tasks m s s' t phase choice new moved with rfl | ⟨next,rfl⟩ <;> simp [unheld]
  · subst here
    cases moved with
    | acquired capped room =>
      simp [Shared.setLane]
      omega
    | released capped held =>
      simp [Shared.setLane]
      omega
    | _ => simp [Shared.setLane,Shared.emit]
  · rw [worked_elsewhere m s s' t phase choice new moved ns here]
    exact id

def SameMeters (s t : Shared) : Prop :=
  ∀ ns, (t.lane ns).inflight = (s.lane ns).inflight ∧ (t.lane ns).tokens = (s.lane ns).tokens

theorem SameMeters.trans {s t u : Shared} (first : SameMeters s t) (second : SameMeters t u) : SameMeters s u :=
  fun ns => ⟨(second ns).1.trans (first ns).1,(second ns).2.trans (first ns).2⟩

theorem sameMeters_update (s t : Shared) (ns : String) (lane : Lane) (updated : t.lane = Function.update s.lane ns lane)
    (inflight : lane.inflight = (s.lane ns).inflight) (tokens : lane.tokens = (s.lane ns).tokens) : SameMeters s t := by
  intro other
  rw [updated]
  by_cases here : other = ns
  · subst here
    rw [Function.update_self]
    exact ⟨inflight,tokens⟩
  · rw [Function.update_of_ne here]
    exact ⟨rfl,rfl⟩

theorem sameMeters_accept (s : Shared) (d : Decision) : SameMeters s (s.accept d) :=
  sameMeters_update s _ d.ns _ rfl rfl rfl

theorem sameMeters_drainLocked (s : Shared) (ns : String) : SameMeters s (s.drainLocked ns).1 :=
  sameMeters_update s _ ns _ (Shared.drainLocked_lane s ns) rfl rfl

theorem SameMeters.balanced {cap : Int} {ns : String} {s t : Shared} {old new : List Task} (same : SameMeters s t)
    (counted : old.countP (Task.counted ns) = new.countP (Task.counted ns))
    (held : old.countP (Task.holds ns) = new.countP (Task.holds ns)) : Balanced cap ns s t old new := by
  obtain ⟨inflight,tokens⟩ := same ns
  constructor
  · rw [inflight,counted]
  · rw [tokens,held]
  · rw [tokens]
    exact id

/-- Nothing but a worker touches the counter or the semaphore of a lane. -/
theorem advanced_balanced (m : Manager) (positive : 0 < m.cfg.maxInFlight) (s s' : Shared) (task : Task) (choice : Choice)
    (new : List Task) (moved : Advanced m s task choice s' new) (ns : String) :
    Balanced m.cfg.maxInFlight ns s s' [task] new := by
  cases moved with
  | fast d one => exact ((sameMeters_accept s d).trans (sameMeters_drainLocked _ d.ns)).balanced rfl rfl
  | waiting d slow timed => exact (sameMeters_accept s d).balanced rfl rfl
  | arming d slow idle =>
    have armed : SameMeters (s.accept d) ((s.accept d).afterFunc d.ns) := sameMeters_update _ _ d.ns _ rfl rfl rfl
    exact ((sameMeters_accept s d).trans armed).balanced rfl rfl
  | flushed timer => exact (sameMeters_drainLocked s timer.ns).balanced rfl rfl
  | timerStopped i before name after =>
    exact (sameMeters_update s _ name _ (Shared.stopTimer_lane s name) rfl rfl).balanced rfl rfl
  | worked t phase choice s' new moved => exact worked_balanced m positive s s' t phase choice new moved ns
  | _ => exact SameMeters.balanced (fun _ => ⟨rfl,rfl⟩) rfl rfl

theorem arrived_balanced (cap : Int) (s s' : Shared) (event : Arrival) (new : List Task)
    (moved : Arrived s event s' new) (ns : String) : Balanced cap ns s s' [] new := by
  cases moved <;> exact SameMeters.balanced (fun _ => ⟨rfl,rfl⟩) rfl rfl

/-- The counter and the semaphore of the lane say where its workers are. -/
structure Metered (cap : Int) (ns : String) (p : Pool Shared Task) : Prop where
  counted : (p.shared.lane ns).inflight = p.tasks.countP (Task.counted ns)
  held : (p.shared.lane ns).tokens = p.tasks.countP (Task.holds ns)
  capped : ((p.shared.lane ns).tokens : Int) ≤ cap

theorem Balanced.metered {cap : Int} {ns : String} {p q : Pool Shared Task} {before old new after : List Task}
    (balance : Balanced cap ns p.shared q.shared old new) (was : p.tasks = before++(old++after))
    (becomes : q.tasks = before++(new++after)) (inv : Metered cap ns p) : Metered cap ns q := by
  obtain ⟨counted,held,capped⟩ := inv
  rw [was,List.countP_append,List.countP_append] at counted held
  constructor
  · have moved := balance.counted
    rw [becomes,List.countP_append,List.countP_append]
    omega
  · have moved := balance.held
    rw [becomes,List.countP_append,List.countP_append]
    omega
  · exact balance.capped capped

theorem step_metered (m : Manager) (positive : 0 < m.cfg.maxInFlight) (ns : String) (p q : Pool Shared Task)
    (act : Act Choice Arrival) (inv : Metered m.cfg.maxInFlight ns p) (moved : (machine m).step p act = some q) :
    Metered m.cfg.maxInFlight ns q := by
  obtain ⟨i,choice,before,task,after,new,-,-,was,advanced,becomes⟩ | ⟨event,new,-,arrived,becomes⟩ :=
    Machine.step_cases moved
  · have balance := advanced_balanced m positive _ _ task choice new (advance_advanced m _ _ task choice new advanced) ns
    exact balance.metered was becomes inv
  · have balance := arrived_balanced m.cfg.maxInFlight _ _ event new (arrive_arrived _ _ event new arrived) ns
    exact balance.metered (List.append_nil _).symm (by rw [becomes,List.append_nil]) inv

/-- However the workers of a namespace are interleaved, no more of them than MaxInFlight are
inside a Patch; the counter is the number of workers between its increment and its decrement,
the tokens are those of the workers past the semaphore, and both are back at zero when the
last worker is gone. -/
theorem inflight_capped (cfg : Config) (sink : Bool) (positive : 0 < cfg.withDefaults.maxInFlight)
    (acts : List (Act Choice Arrival)) (p : Pool Shared Task)
    (ran : (machine (new cfg sink)).run initial acts = some p) (ns : String) :
    (p.tasks.countP (Task.patching ns) : Int) ≤ cfg.withDefaults.maxInFlight ∧
    (p.shared.lane ns).inflight = p.tasks.countP (Task.counted ns) ∧
    (p.shared.lane ns).tokens = p.tasks.countP (Task.holds ns) ∧
    (p.tasks.countP (Task.live ns) = 0 → (p.shared.lane ns).inflight = 0 ∧ (p.shared.lane ns).tokens = 0) := by
  have start : Metered cfg.withDefaults.maxInFlight ns initial := ⟨rfl,rfl,Int.le_of_lt positive⟩
  have inv : Metered cfg.withDefaults.maxInFlight ns p :=
    Machine.run_always (Metered cfg.withDefaults.maxInFlight ns)
      (fun p act q inv moved => step_metered (new cfg sink) positive ns p q act inv moved) initial p acts start ran
  have running : p.tasks.countP (Task.patching ns) ≤ p.tasks.countP (Task.holds ns) :=
    List.countP_mono_left (fun task _ => holds_of_patching ns task)
  have held := inv.held
  have capped := inv.capped
  refine ⟨by omega,inv.counted,held,fun gone => ?_⟩
  have uncounted : p.tasks.countP (Task.counted ns) ≤ p.tasks.countP (Task.live ns) :=
    List.countP_mono_left (fun task _ => live_of_counted ns task)
  have unheld : p.tasks.countP (Task.holds ns) ≤ p.tasks.countP (Task.live ns) :=
    List.countP_mono_left (fun task _ => live_of_holds ns task)
  have counted := inv.counted
  omega

namespace Sample

/-- Two decisions on the fast lane of a namespace: the first is inside its Patch, the second
has a worker that waits. -/
def crowded : List (Act Choice Arrival) :=
  [.outside (.call (decision "web" 1)),.task 0 .go,.task 0 .go,.task 0 (.pick 0),.task 1 .go,.task 1 .go,.task 1 .go,
    .task 1 .go,.outside (.call (decision "api" 1)),.task 2 .go,.task 2 .go,.task 2 (.pick 0)]

end Sample

theorem inflight_capped_sample :
    ∃ p, (machine (new ⟨1,0⟩ false)).run initial Sample.crowded = some p ∧
      p.tasks.countP (Task.live "prod") = 2 ∧ p.tasks.countP (Task.patching "prod") = 1 ∧
      (p.tasks.countP (Task.patching "prod") : Int) ≤ 1 ∧ (p.shared.lane "prod").inflight = 1 ∧
      (p.shared.lane "prod").tokens = 1 := by
  have ends : ((machine (new ⟨1,0⟩ false)).run initial Sample.crowded).map Pool.tasks =
      some [.dispatch [],.runOne ⟨0,Sample.decision "web" 1⟩ .patching,.dispatch [],
        .runOne ⟨1,Sample.decision "api" 1⟩ .acquire] := by decide +kernel
  obtain ⟨p,ran,tasks⟩ := Option.map_eq_some_iff.mp ends
  obtain ⟨capped,counted,held,-⟩ := inflight_capped ⟨1,0⟩ false (by decide) Sample.crowded p ran "prod"
  rw [tasks] at capped counted held
  refine ⟨p,ran,?_⟩
  rw [tasks,counted,held]
  decide

end Ifaas.Flusher
