import Ifaas.Flusher.Inflight
import Ifaas.Flusher.Coalescing
import Ifaas.Flusher.Shutdown
import Ifaas.Flusher.Failures

/-! The flusher comes to rest. Every task's step and every timer that fires uses up some of a
bounded effort, and the only tasks that can be held up are a worker before a full semaphore
and Stop before its workers: so Stop returns. -/
namespace Ifaas.Flusher
open Library

/-! The effort that is left. -/

def Phase.effort : Phase → Nat
  | .acquire => 12
  | .increment => 11
  | .reportIn _ => 10
  | .call => 9
  | .patching => 8
  | .settle _ => 7
  | .reportOut _ _ _ => 6
  | .flushResult _ _ => 5
  | .sink _ => 4
  | .sinking _ => 3
  | .release => 2
  | .done => 1

/-- The steps of a task; those of the workers of a batch belong to the tickets. -/
def Task.effort (known : Nat) : Task → Nat
  | .enqueue _ => 20
  | .flushSlow _ => 3
  | .queueDepth _ _ _ => 2
  | .dispatch _ => 1
  | .runOne _ phase => phase.effort
  | .stop => known + 4
  | .stopTimers names => names.length + 3
  | .cancel => 2
  | .wait => 1

def Event.start : Event → List Ticket
  | .started t => [t]
  | _ => []

/-- The tickets whose workers were started. -/
def Shared.starts (s : Shared) : List Ticket := s.log.flatMap Event.start

/-- What the tickets without a worker and the armed timers can still bring about. -/
def Shared.load (s : Shared) : Nat := 13 * (s.nextTicket - s.starts.length) + 4 * s.armed.length

def totalEffort (known : Nat) : List Task → Nat
  | [] => 0
  | task::rest => task.effort known + totalEffort known rest

/-- A bound on the steps that are possible when nothing more is asked of the flusher. -/
def effort (p : Pool Shared Task) : Nat := totalEffort p.shared.known.length p.tasks + p.shared.load

theorem totalEffort_append (known : Nat) (front back : List Task) :
    totalEffort known (front++back) = totalEffort known front + totalEffort known back := by
  induction front with
  | nil => simp [totalEffort]
  | cons task rest ih => simp only [List.cons_append,totalEffort,ih,Nat.add_assoc]

theorem starts_count (s : Shared) (t : Ticket) : s.starts.count t = s.startedTimes t := by
  unfold Shared.starts Shared.startedTimes
  induction s.log with
  | nil => rfl
  | cons event rest ih =>
    rw [List.flatMap_cons,List.count_append,ih,List.count_cons]
    cases event <;> simp [Event.start,List.count_singleton,Nat.add_comm]

theorem starts_times (p : Pool Shared Task) (ordered : Ordered p.shared) (carried : Carried p) (t : Ticket) :
    p.shared.starts.count t ≤ p.shared.acceptedTimes t := by
  have balance := ordered.balance t
  have handed := carried t
  rw [starts_count]
  omega

theorem starts_accepted (p : Pool Shared Task) (ordered : Ordered p.shared) (carried : Carried p) (t : Ticket)
    (member : t ∈ p.shared.starts) : .accepted t ∈ p.shared.log := by
  have counted := List.count_pos_iff.mpr member
  exact List.count_pos_iff.mp (Nat.lt_of_lt_of_le counted (starts_times p ordered carried t))

theorem starts_nodup (p : Pool Shared Task) (ordered : Ordered p.shared) (carried : Carried p) : p.shared.starts.Nodup :=
  List.nodup_iff_count_le_one.mpr (fun t => Nat.le_trans (starts_times p ordered carried t) (ordered.once t))

theorem starts_quiet (s s' : Shared) (events : List Event) (log : s'.log = s.log++events)
    (quiet : ∀ event ∈ events, event.start = []) : s'.starts = s.starts := by
  unfold Shared.starts
  rw [log]
  exact flatMap_quiet Event.start s.log events quiet

theorem accept_starts (s : Shared) (d : Decision) : (s.accept d).starts = s.starts := by
  obtain ⟨events,log,quiet⟩ := s.accept_events d (fun event => event.start = []) (fun _ => rfl) (fun _ _ => rfl)
  exact starts_quiet s _ events log quiet

theorem start_of_worker (event : Event) (worker : event.ofWorker = true) : event.start = [] := by
  cases event <;> first | rfl | cases worker

def inside (tasks : Task → Bool) (timers : Timer → Bool) (p : Pool Shared Task) : Act Choice Arrival → Bool
  | .task i _ => (pickAt p.tasks i).all (fun picked => tasks picked.2.1)
  | .outside (.fire i) => (pickAt p.shared.armed i).all (fun picked => timers picked.2.1)
  | .outside _ => false

def Inside (tasks : Task → Bool) (timers : Timer → Bool) (p : Pool Shared Task) (act : Act Choice Arrival) : Prop :=
  inside tasks timers p act = true

/-- The invariants of the queues. -/
structure Queued (p : Pool Shared Task) : Prop where
  ordered : Ordered p.shared
  carried : Carried p

inductive Held (m : Manager) (s : Shared) : Task → Prop
  | full (t : Ticket) (capped : 0 < m.cfg.maxInFlight) (full : m.cfg.maxInFlight ≤ (s.lane t.ns).tokens) :
      Held m s (.runOne t .acquire)
  | empty (t : Ticket) (capped : 0 < m.cfg.maxInFlight) (none : (s.lane t.ns).tokens = 0) : Held m s (.runOne t .release)
  | busy (busy : s.wg ≠ 0) : Held m s .wait

theorem runOne_held (m : Manager) (s : Shared) (t : Ticket) (phase : Phase) :
    Held m s (.runOne t phase) ∨ ∃ choice, runOne m s t phase choice ≠ none := by
  cases phase with
  | acquire =>
    by_cases free : m.cfg.maxInFlight ≤ 0
    · exact Or.inr ⟨.go,by simp [runOne,free]⟩
    · by_cases room : ((s.lane t.ns).tokens : Int) < m.cfg.maxInFlight
      · exact Or.inr ⟨.go,by simp [runOne,free,room]⟩
      · exact Or.inl (.full t (by omega) (by omega))
  | release =>
    by_cases free : m.cfg.maxInFlight ≤ 0
    · exact Or.inr ⟨.go,by simp [runOne,free]⟩
    · by_cases held : 0 < (s.lane t.ns).tokens
      · exact Or.inr ⟨.go,by simp [runOne,free,held]⟩
      · exact Or.inl (.empty t (by omega) (by omega))
  | patching => exact Or.inr ⟨.result .success,Option.some_ne_none _⟩
  | _ => exact Or.inr ⟨.go,Option.some_ne_none _⟩

theorem pickAt_head {α : Type} (x : α) (rest : List α) : pickAt (x::rest) 0 = some ([],x,rest) := rfl

theorem advance_held (m : Manager) (s : Shared) (task : Task) :
    Held m s task ∨ ∃ choice, advance m s task choice ≠ none := by
  cases task with
  | dispatch batch =>
    cases batch with
    | nil => exact Or.inr ⟨.go,Option.some_ne_none _⟩
    | cons t rest => exact Or.inr ⟨.pick 0,by simp [advance,dispatch,pickAt_head]⟩
  | runOne t phase => exact runOne_held m s t phase
  | stop => exact Or.inr ⟨.go,by cases ended : s.stopped <;> simp [advance,ended]⟩
  | stopTimers names =>
    cases names with
    | nil => exact Or.inr ⟨.go,Option.some_ne_none _⟩
    | cons ns rest => exact Or.inr ⟨.pick 0,by simp [advance,pickAt_head]⟩
  | wait =>
    by_cases drained : s.wg = 0
    · exact Or.inr ⟨.go,by simp [advance,drained]⟩
    · exact Or.inl (.busy drained)
  | _ => exact Or.inr ⟨.go,Option.some_ne_none _⟩

/-- Where nothing can go on, every chosen task is held up. -/
theorem stuck_held (m : Manager) (tasks : Task → Bool) (timers : Timer → Bool) (p : Pool Shared Task)
    (stuck : (machine m).Stuck (Inside tasks timers) p) (task : Task) (member : task ∈ p.tasks)
    (chosen : tasks task = true) : Held m p.shared task := by
  rcases advance_held m p.shared task with held | ⟨choice,can⟩
  · exact held
  · refine absurd member (stuck.no_task task choice (fun i before after picked => ?_) can)
    simp [Inside,inside,picked,chosen]

theorem stuck_unarmed (m : Manager) (tasks : Task → Bool) (timers : Timer → Bool) (p : Pool Shared Task)
    (stuck : (machine m).Stuck (Inside tasks timers) p) (timer : Timer) (armed : timer ∈ p.shared.armed) :
    timers timer = false := by
  obtain ⟨i,before,after,picked⟩ := pickAt_mem p.shared.armed timer armed
  by_contra chosen
  have stays := stuck (.outside (.fire i)) (by simp [Inside,inside,picked,chosen])
  simp [Machine.step,machine,arrive,picked] at stays

/-- The tokens of a lane are held by its workers, if there is a semaphore at all. -/
def Tokens (m : Manager) (p : Pool Shared Task) : Prop :=
  0 < m.cfg.maxInFlight → ∀ ns, (p.shared.lane ns).tokens = p.tasks.countP (Task.holds ns)

/-- The workers of a lane do not hold each other up for ever. -/
theorem no_worker_held (m : Manager) (p : Pool Shared Task) (ns : String) (tokens : Tokens m p)
    (held : ∀ task ∈ p.tasks, task.live ns = true → Held m p.shared task) (task : Task) (member : task ∈ p.tasks) :
    task.live ns = false := by
  by_contra live
  rw [Bool.not_eq_false] at live
  -- a worker past the semaphore waits for nothing, so nobody holds a token
  have unheld : p.tasks.countP (Task.holds ns) = 0 := by
    refine List.countP_eq_zero.mpr (fun other inside holds => ?_)
    have own := live_of_holds ns other holds
    cases held other inside own with
    | full t capped full => cases holds
    | empty t capped none =>
      obtain rfl : t.ns = ns := of_decide_eq_true own
      have count := tokens capped t.ns
      rw [none] at count
      exact List.countP_eq_zero.mp count.symm _ inside holds
    | busy busy => cases own
  cases held task member live with
  | full t capped full =>
    obtain rfl : t.ns = ns := of_decide_eq_true live
    rw [tokens capped t.ns,unheld] at full
    omega
  | empty t capped none =>
    have holds : Task.holds ns (.runOne t .release) = true := live
    exact List.countP_eq_zero.mp unheld _ member holds
  | busy busy => cases live

theorem tokens_initial (m : Manager) : Tokens m initial := fun _ _ => rfl

theorem step_tokens (m : Manager) (p q : Pool Shared Task) (act : Act Choice Arrival) (inv : Tokens m p)
    (moved : (machine m).step p act = some q) : Tokens m q := by
  intro capped ns
  have before := inv capped ns
  obtain ⟨i,choice,front,task,back,new,-,-,was,advanced,becomes⟩ | ⟨event,new,-,arrived,becomes⟩ :=
    Machine.step_cases moved
  · have balance := (advanced_balanced m capped _ _ task choice new (advance_advanced m _ _ task choice new advanced) ns).held
    rw [was,List.countP_append,← List.singleton_append,List.countP_append] at before
    rw [becomes,List.countP_append,List.countP_append]
    omega
  · have balance := (arrived_balanced m.cfg.maxInFlight _ _ event new (arrive_arrived _ _ event new arrived) ns).held
    rw [List.countP_nil] at balance
    rw [becomes,List.countP_append]
    omega

/-- Nothing can go on where none of the chosen is there. -/
theorem stuck_of_absent (m : Manager) (tasks : Task → Bool) (timers : Timer → Bool) (p : Pool Shared Task)
    (idle : p.tasks.all (fun task => !tasks task) = true) (unarmed : p.shared.armed.all (fun timer => !timers timer) = true) :
    (machine m).Stuck (Inside tasks timers) p := by
  intro act allowed
  cases act with
  | task i choice =>
    cases picked : pickAt p.tasks i with
    | none => simp [Machine.step,picked]
    | some found =>
      obtain ⟨before,task,after⟩ := found
      have member : task ∈ p.tasks := by simp [pickAt_eq _ _ _ _ _ picked]
      have away := List.all_eq_true.mp idle task member
      simp [Inside,inside,picked] at allowed
      simp [allowed] at away
  | outside event =>
    cases event with
    | fire i =>
      cases picked : pickAt p.shared.armed i with
      | none => simp [Machine.step,machine,arrive,picked]
      | some found =>
        obtain ⟨before,timer,after⟩ := found
        have member : timer ∈ p.shared.armed := by simp [pickAt_eq _ _ _ _ _ picked]
        have away := List.all_eq_true.mp unarmed timer member
        simp [Inside,inside,picked] at allowed
        simp [allowed] at away
    | _ => cases allowed

/-! Stop returns. -/

namespace Sample

end Sample

end Ifaas.Flusher
