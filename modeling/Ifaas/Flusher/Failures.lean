import Ifaas.Flusher
import Ifaas.Library.History

/-! Failure accounting. A lane counts the failed Patches of a key in a row; the count goes
with the worker to the FailureSink when it has reached MaxFailures. Only workers touch the
counters, so a step is one of a worker or stands aside. -/
namespace Ifaas.Flusher
open Library

/-! Steps of other tasks. -/

/-- The events are none of a worker's, and the counters and the semaphores stay. -/
structure Aside (s s' : Shared) : Prop where
  log : ∃ events, s'.log = s.log++events ∧ ∀ event ∈ events, event.ofWorker = false
  failures : ∀ ns, (s'.lane ns).failures = (s.lane ns).failures
  inflight : ∀ ns, (s'.lane ns).inflight = (s.lane ns).inflight
  tokens : ∀ ns, (s'.lane ns).tokens = (s.lane ns).tokens

theorem Aside.trans {s t u : Shared} (first : Aside s t) (second : Aside t u) : Aside s u := by
  obtain ⟨events,grown,quiet⟩ := first.log
  obtain ⟨more,longer,calm⟩ := second.log
  refine ⟨⟨events++more,by rw [longer,grown,List.append_assoc],fun event member => ?_⟩,
    fun ns => (second.failures ns).trans (first.failures ns),fun ns => (second.inflight ns).trans (first.inflight ns),
    fun ns => (second.tokens ns).trans (first.tokens ns)⟩
  rcases List.mem_append.mp member with early | late
  · exact quiet event early
  · exact calm event late

theorem flatMap_quiet {V : Type} (f : Event → List V) (log events : List Event) (quiet : ∀ event ∈ events, f event = []) :
    (log++events).flatMap f = log.flatMap f := by
  rw [List.flatMap_append,List.flatMap_eq_nil_iff.mpr quiet,List.append_nil]

/-- What is collected from the events of workers stays. -/
theorem Aside.flatMap {s s' : Shared} (aside : Aside s s') {V : Type} (f : Event → List V)
    (own : ∀ event, event.ofWorker = false → f event = []) : s'.log.flatMap f = s.log.flatMap f := by
  obtain ⟨events,log,quiet⟩ := aside.log
  rw [log]
  exact flatMap_quiet f s.log events (fun event member => own event (quiet event member))

theorem update_field {α : Type} (field : Lane → α) (lanes : String → Lane) (ns : String) (lane : Lane)
    (same : field lane = field (lanes ns)) (other : String) :
    field (Function.update lanes ns lane other) = field (lanes other) := by
  by_cases here : other = ns
  · subst here
    rw [Function.update_self]
    exact same
  · rw [Function.update_of_ne here]

theorem aside_lanes (s s' : Shared) (events : List Event) (lanes : s'.lane = s.lane) (log : s'.log = s.log++events)
    (quiet : ∀ event ∈ events, event.ofWorker = false) : Aside s s' := by
  refine ⟨⟨events,log,quiet⟩,fun ns => ?_,fun ns => ?_,fun ns => ?_⟩ <;> rw [lanes]

theorem aside_update (s s' : Shared) (ns : String) (lane : Lane) (events : List Event)
    (updated : s'.lane = Function.update s.lane ns lane) (failures : lane.failures = (s.lane ns).failures)
    (inflight : lane.inflight = (s.lane ns).inflight) (tokens : lane.tokens = (s.lane ns).tokens)
    (log : s'.log = s.log++events) (quiet : ∀ event ∈ events, event.ofWorker = false) : Aside s s' := by
  refine ⟨⟨events,log,quiet⟩,fun other => ?_,fun other => ?_,fun other => ?_⟩ <;> rw [updated]
  · exact update_field Lane.failures s.lane ns lane failures other
  · exact update_field Lane.inflight s.lane ns lane inflight other
  · exact update_field Lane.tokens s.lane ns lane tokens other

theorem aside_accept (s : Shared) (d : Decision) : Aside s (s.accept d) := by
  obtain ⟨events,log,quiet⟩ := s.accept_events d (fun event => event.ofWorker = false) (fun _ => rfl) (fun _ _ => rfl)
  exact aside_update s _ d.ns _ events rfl rfl rfl rfl log quiet

theorem aside_drainLocked (s : Shared) (ns : String) : Aside s (s.drainLocked ns).1 :=
  aside_update s _ ns _ _ (Shared.drainLocked_lane s ns) rfl rfl rfl (Shared.drainLocked_log s ns) (by simp [Event.ofWorker])

theorem aside_afterFunc (s : Shared) (ns : String) : Aside s (s.afterFunc ns) :=
  aside_update s _ ns _ [] rfl rfl rfl rfl (List.append_nil _).symm (by simp)

theorem aside_stopTimer (s : Shared) (ns : String) : Aside s (s.stopTimer ns) :=
  aside_update s _ ns _ [] (Shared.stopTimer_lane s ns) rfl rfl rfl
    ((Shared.stopTimer_log s ns).trans (List.append_nil _).symm) (by simp)

/-- The task is no worker, or one that has not begun. -/
def Task.fresh : Task → Bool
  | .runOne _ .acquire => true
  | .runOne _ _ => false
  | _ => true

/-- A step is one of a worker, or stands aside. -/
theorem advanced_cases (m : Manager) (s s' : Shared) (task : Task) (choice : Choice) (new : List Task)
    (moved : Advanced m s task choice s' new) :
    (∃ t phase, task = .runOne t phase ∧ Worked m s t phase choice s' new) ∨
      Aside s s' ∧ task.fresh = true ∧ ∀ x ∈ new, x.fresh = true := by
  cases moved with
  | worked t phase choice s' new moved => exact Or.inl ⟨t,phase,rfl,moved⟩
  | fast d one => exact Or.inr ⟨(aside_accept s d).trans (aside_drainLocked _ d.ns),rfl,by simp [Task.fresh]⟩
  | waiting d slow timed => exact Or.inr ⟨aside_accept s d,rfl,by simp [Task.fresh]⟩
  | arming d slow idle => exact Or.inr ⟨(aside_accept s d).trans (aside_afterFunc _ d.ns),rfl,by simp [Task.fresh]⟩
  | flushed timer => exact Or.inr ⟨aside_drainLocked s timer.ns,rfl,by simp [Task.fresh]⟩
  | timerStopped i before ns after => exact Or.inr ⟨aside_stopTimer s ns,rfl,by simp [Task.fresh]⟩
  | started i before t after =>
    exact Or.inr ⟨aside_lanes s _ [.started t] rfl rfl (by simp [Event.ofWorker]),rfl,by simp [Task.fresh]⟩
  | observed ns depth batch =>
    exact Or.inr ⟨aside_lanes s _ [.queueDepth ns depth] rfl rfl (by simp [Event.ofWorker]),rfl,by simp [Task.fresh]⟩
  | stopReturned drained =>
    exact Or.inr ⟨aside_lanes s _ [.stopReturned] rfl rfl (by simp [Event.ofWorker]),rfl,by simp⟩
  | _ => exact Or.inr ⟨aside_lanes s _ [] rfl (List.append_nil _).symm (by simp),rfl,by simp [Task.fresh]⟩

theorem arrived_aside (s s' : Shared) (event : Arrival) (new : List Task) (moved : Arrived s event s' new) :
    Aside s s' ∧ ∀ x ∈ new, x.fresh = true := by
  cases moved with
  | rejected d ended => exact ⟨aside_lanes s _ [.rejected d] rfl rfl (by simp [Event.ofWorker]),by simp⟩
  | _ => exact ⟨aside_lanes s _ [] rfl (List.append_nil _).symm (by simp),by simp [Task.fresh]⟩

/-! The counters. -/

/-- The result of a completed Patch of the key. -/
def Event.completionOf (k : NamespacedName) : Event → Option PatchResult
  | .completed t r _ => if t.key = k then some r else none
  | _ => none

/-- The number of failed Patches of the key at the end of the history, in a row. -/
def failureRun (k : NamespacedName) (log : List Event) : Nat :=
  ((log.filterMap (Event.completionOf k)).reverse.takeWhile (fun r => r = .failed)).length

theorem failureRun_quiet (k : NamespacedName) (log events : List Event)
    (quiet : ∀ event ∈ events, event.completionOf k = none) : failureRun k (log++events) = failureRun k log := by
  unfold failureRun
  rw [List.filterMap_append,List.filterMap_eq_nil_iff.mpr quiet,List.append_nil]

theorem failureRun_completed (k : NamespacedName) (log : List Event) (t : Ticket) (r : PatchResult) (n : Nat)
    (same : t.key = k) :
    failureRun k (log++[.completed t r n]) = if r = .failed then failureRun k log + 1 else 0 := by
  unfold failureRun
  rw [List.filterMap_append]
  simp only [List.filterMap_cons,List.filterMap_nil,Event.completionOf,same,if_true,List.reverse_append,
    List.reverse_singleton,List.singleton_append,List.takeWhile_cons]
  by_cases failed : r = .failed <;> simp [failed]

/-- A completed Patch is reported with the length of the run of failures that ends with it. -/
def CountsRun (past : List Event) (event : Event) : Prop :=
  ∀ t r n, event = .completed t r n → n = failureRun t.key (past++[event])

structure Counted (s : Shared) : Prop where
  run : ∀ k : NamespacedName, (s.lane k.ns).failures k = failureRun k s.log
  told : Recorded CountsRun s.log

/-- The event completes a Patch. -/
def Event.completes : Event → Bool
  | .completed _ _ _ => true
  | _ => false

theorem completionOf_none (k : NamespacedName) (event : Event) (quiet : event.completes = false) :
    event.completionOf k = none := by
  cases event with
  | completed t r n => cases quiet
  | _ => rfl

theorem Counted.keep {s s' : Shared} (inv : Counted s) (failures : ∀ ns, (s'.lane ns).failures = (s.lane ns).failures)
    (events : List Event) (log : s'.log = s.log++events) (quiet : ∀ event ∈ events, event.completes = false) : Counted s' := by
  refine ⟨fun k => ?_,?_⟩
  · rw [failures,inv.run k,log,failureRun_quiet k _ _ (fun event member => completionOf_none k event (quiet event member))]
  · rw [log]
    refine recorded_append _ _ _ inv.told (fun first event member t r n same => ?_)
    rw [same] at member
    exact Bool.noConfusion (quiet _ member)

theorem Aside.counted {s s' : Shared} (aside : Aside s s') (inv : Counted s) : Counted s' := by
  obtain ⟨events,log,quiet⟩ := aside.log
  refine inv.keep aside.failures events log (fun event member => ?_)
  have other := quiet event member
  cases event with
  | completed t r n => cases other
  | _ => rfl

theorem settled_completed (s : Shared) (t : Ticket) (r : PatchResult) (n : Nat) (inv : Counted s) (k : NamespacedName)
    (here : k.ns = t.ns) : settled (s.lane t.ns).failures t.key r k = failureRun k (s.log++[.completed t r n]) := by
  have before := inv.run k
  rw [here] at before
  by_cases own : k = t.key
  · rw [failureRun_completed k s.log t r n own.symm,← before,own]
    cases r <;> simp [settled]
  · have quiet : failureRun k (s.log++[.completed t r n]) = failureRun k s.log :=
      failureRun_quiet k _ _ (by simp [Event.completionOf,Ne.symm own])
    rw [quiet,← before]
    cases r <;> simp [settled,own]

theorem worked_counted (m : Manager) (s s' : Shared) (t : Ticket) (phase : Phase) (choice : Choice) (new : List Task)
    (moved : Worked m s t phase choice s' new) (inv : Counted s) : Counted s' := by
  have lanes (lane : Lane) (same : lane.failures = (s.lane t.ns).failures) (ns : String) :
      ((s.setLane t.ns lane).lane ns).failures = (s.lane ns).failures := update_field Lane.failures s.lane t.ns lane same ns
  cases moved with
  | settled r =>
    have counts (k : NamespacedName) (here : k.ns = t.ns) :=
      settled_completed s t r (settled (s.lane t.ns).failures t.key r t.key) inv k here
    refine ⟨fun k => ?_,recorded_snoc _ _ _ inv.told ?_⟩
    · by_cases here : k.ns = t.ns
      · simp only [Shared.emit,Shared.setLane,here,Function.update_self]
        exact counts k here
      · have other : k ≠ t.key := fun same => here (by rw [same]; rfl)
        have quiet := failureRun_quiet k s.log [.completed t r (settled (s.lane t.ns).failures t.key r t.key)]
          (by simp [Event.completionOf,Ne.symm other])
        simp only [Shared.emit,Shared.setLane,Function.update_of_ne here]
        exact (inv.run k).trans quiet.symm
    · intro u result n same
      cases same
      exact counts t.key rfl
  | acquired capped room => exact inv.keep (lanes _ rfl) [] (List.append_nil _).symm (by simp)
  | incremented => exact inv.keep (lanes _ rfl) [] (List.append_nil _).symm (by simp)
  | released capped held => exact inv.keep (lanes _ rfl) [] (List.append_nil _).symm (by simp)
  | _ =>
    first
    | exact inv.keep (fun _ => rfl) [_] rfl (by simp [Event.completes])
    | exact inv.keep (fun _ => rfl) [] (List.append_nil _).symm (by simp)

theorem step_counted (m : Manager) (p q : Pool Shared Task) (act : Act Choice Arrival) (inv : Counted p.shared)
    (moved : (machine m).step p act = some q) : Counted q.shared := by
  obtain ⟨i,choice,before,task,after,new,-,-,-,advanced,-⟩ | ⟨event,new,-,arrived,-⟩ := Machine.step_cases moved
  · rcases advanced_cases m _ _ task choice new (advance_advanced m _ _ task choice new advanced) with
      ⟨t,phase,rfl,worked⟩ | ⟨aside,-,-⟩
    · exact worked_counted m _ _ t phase choice new worked inv
    · exact aside.counted inv
  · exact (arrived_aside _ _ event new (arrive_arrived _ _ event new arrived)).1.counted inv

theorem counted_initial : Counted initial.shared := ⟨fun _ => rfl,recorded_nil _⟩

/-! The sink. -/

/-- The failure is one the sink has to hear of. -/
def Manager.escalates (m : Manager) (r : PatchResult) (count : Nat) : Bool :=
  decide (r = .failed ∧ m.cfg.maxFailures ≤ count ∧ m.sink = true)

/-- The worker is on its way to the sink with this count. -/
def Task.owes (m : Manager) (t : Ticket) (n : Nat) : Task → Bool
  | .runOne u (.reportOut r count _) => m.escalates r count && decide (u = t ∧ count = n)
  | .runOne u (.flushResult r count) => m.escalates r count && decide (u = t ∧ count = n)
  | .runOne u (.sink count) => decide (u = t ∧ count = n)
  | _ => false

def Shared.sinkTimes (s : Shared) (t : Ticket) (n : Nat) : Nat := s.log.count (.sinkStarted t n)

/-- How often a Patch of the decision failed with a count the sink has to hear of. -/
def Shared.dueTimes (s : Shared) (m : Manager) (t : Ticket) (n : Nat) : Nat :=
  if m.escalates .failed n then s.log.count (.completed t .failed n) else 0

theorem owes_fresh (m : Manager) (t : Ticket) (n : Nat) (task : Task) (fresh : task.fresh = true) :
    task.owes m t n = false := by
  cases task with
  | runOne u phase =>
    cases phase with
    | acquire => rfl
    | _ => cases fresh
  | _ => rfl

theorem Aside.sinkTimes {s s' : Shared} (aside : Aside s s') (t : Ticket) (n : Nat) : s'.sinkTimes t n = s.sinkTimes t n := by
  obtain ⟨events,log,quiet⟩ := aside.log
  unfold Shared.sinkTimes
  rw [log,List.count_append,List.count_eq_zero.mpr (fun member => Bool.noConfusion (quiet _ member)),Nat.add_zero]

theorem Aside.dueTimes {s s' : Shared} (aside : Aside s s') (m : Manager) (t : Ticket) (n : Nat) :
    s'.dueTimes m t n = s.dueTimes m t n := by
  obtain ⟨events,log,quiet⟩ := aside.log
  unfold Shared.dueTimes
  rw [log,List.count_append,List.count_eq_zero.mpr (fun member => Bool.noConfusion (quiet _ member)),Nat.add_zero]

theorem worked_sinks (m : Manager) (s s' : Shared) (u : Ticket) (phase : Phase) (choice : Choice) (new : List Task)
    (moved : Worked m s u phase choice s' new) (t : Ticket) (n : Nat) :
    s'.sinkTimes t n + new.countP (Task.owes m t n) + s.dueTimes m t n =
      s.sinkTimes t n + [Task.runOne u phase].countP (Task.owes m t n) + s'.dueTimes m t n := by
  cases moved with
  | settled r =>
    by_cases due : m.escalates r (settled (s.lane u.ns).failures u.key r u.key) = true ∧ u = t ∧
        settled (s.lane u.ns).failures u.key r u.key = n
    · obtain ⟨escalates,rfl,rfl⟩ := due
      have failed : r = .failed := (of_decide_eq_true escalates).1
      subst failed
      simp [Shared.sinkTimes,Shared.dueTimes,Shared.emit,Shared.setLane,Task.owes,escalates,List.count_append]
      omega
    · have undue : (s.emit [.completed u r (settled (s.lane u.ns).failures u.key r u.key)]).dueTimes m t n = s.dueTimes m t n := by
        unfold Shared.dueTimes
        split
        next escalates =>
          have other : Event.completed u r (settled (s.lane u.ns).failures u.key r u.key) ≠ .completed t .failed n := by
            intro same
            obtain ⟨rfl,rfl,count⟩ := Event.completed.inj same
            exact due ⟨by rw [count]; exact escalates,rfl,count⟩
          simp [Shared.emit,List.count_append,other]
        · rfl
      have unowed : Task.owes m t n (.runOne u (.reportOut r (settled (s.lane u.ns).failures u.key r u.key)
          ((s.lane u.ns).inflight - 1))) = false := by
        simpa [Task.owes] using due
      have sinks : (s.emit [.completed u r (settled (s.lane u.ns).failures u.key r u.key)]).sinkTimes t n = s.sinkTimes t n := by
        simp [Shared.sinkTimes,Shared.emit]
      rw [List.countP_singleton,unowed]
      change Shared.sinkTimes (s.emit _) t n + 0 + _ = _ + 0 + Shared.dueTimes (s.emit _) m t n
      rw [sinks,undue]
  | escalates count reached sink => simp [Shared.sinkTimes,Shared.dueTimes,Shared.emit,Task.owes,Manager.escalates,reached,sink]
  | resulted r count quiet =>
    have calm : m.escalates r count = false := decide_eq_false quiet
    simp [Shared.sinkTimes,Shared.dueTimes,Shared.emit,Task.owes,calm]
  | sinkCalled count =>
    have called : [Event.sinkStarted u count].count (.sinkStarted t n) = if u = t ∧ count = n then 1 else 0 := by
      simp [List.count_singleton]
    simp [Shared.sinkTimes,Shared.dueTimes,Shared.emit,Task.owes,List.count_append,called]
  | _ => simp [Shared.sinkTimes,Shared.dueTimes,Shared.emit,Shared.setLane,Task.owes]

theorem step_sinks (m : Manager) (t : Ticket) (n : Nat) (p q : Pool Shared Task) (act : Act Choice Arrival)
    (inv : p.shared.sinkTimes t n + p.tasks.countP (Task.owes m t n) = p.shared.dueTimes m t n)
    (moved : (machine m).step p act = some q) :
    q.shared.sinkTimes t n + q.tasks.countP (Task.owes m t n) = q.shared.dueTimes m t n := by
  have unowed (tasks : List Task) (fresh : ∀ x ∈ tasks, x.fresh = true) : tasks.countP (Task.owes m t n) = 0 :=
    List.countP_eq_zero.mpr (fun x member => by rw [owes_fresh m t n x (fresh x member)]; exact Bool.false_ne_true)
  refine Machine.step_balance (fun s => s.sinkTimes t n) (fun s => s.dueTimes m t n) (Task.owes m t n)
    (fun s task choice s' new advanced => ?_) (fun s event s' new arrived => ?_) p q act inv moved
  · rcases advanced_cases m s s' task choice new (advance_advanced m s s' task choice new advanced) with
      ⟨u,phase,rfl,worked⟩ | ⟨aside,idle,fresh⟩
    · exact worked_sinks m s s' u phase choice new worked t n
    · rw [aside.sinkTimes,aside.dueTimes,unowed new fresh,unowed [task] (by simpa using idle)]
  · obtain ⟨aside,fresh⟩ := arrived_aside s s' event new (arrive_arrived s s' event new arrived)
    rw [aside.sinkTimes,aside.dueTimes,unowed new fresh]
    rfl

/-- The steps before the call of the sink. -/
def Task.toSink : Task → Nat
  | .runOne _ (.reportOut _ _ _) => 2
  | .runOne _ (.flushResult _ _) => 1
  | _ => 0

/-- A worker that owes the call can go on in every state, and comes nearer to it or makes it. -/
def Task.Pays (m : Manager) (t : Ticket) (n : Nat) (task : Task) : Prop :=
  ∀ s, (task.toSink = 0 ∧ advance m s task .go = some (s.emit [.sinkStarted t n],[.runOne t (.sinking n)])) ∨
    ∃ events next, advance m s task .go = some (s.emit events,[next]) ∧ next.owes m t n = true ∧
      next.toSink + 1 = task.toSink

theorem pays_of_owes (m : Manager) (t : Ticket) (n : Nat) (task : Task) (owes : task.owes m t n = true) : task.Pays m t n := by
  intro s
  unfold Task.owes at owes
  split at owes
  next u r count inflight =>
    exact Or.inr ⟨_,.runOne u (.flushResult r count),rfl,owes,rfl⟩
  next u r count =>
    obtain ⟨escalates,same⟩ := Bool.and_eq_true_iff.mp owes
    have due := of_decide_eq_true escalates
    refine Or.inr ⟨[.flushResult u.ns r],.runOne u (.sink count),?_,same,rfl⟩
    simp only [advance,runOne]
    rw [if_pos due]
  next u count =>
    obtain ⟨rfl,rfl⟩ := of_decide_eq_true owes
    exact Or.inl ⟨rfl,rfl⟩
  next => cases owes

/-- The accounts of a pool. -/
structure FailuresAccounted (m : Manager) (p : Pool Shared Task) : Prop where
  counts : Recorded CountsRun p.shared.log
  sinks : ∀ t n, p.shared.sinkTimes t n + p.tasks.countP (Task.owes m t n) = p.shared.dueTimes m t n
  pays : ∀ t n task, task ∈ p.tasks → task.owes m t n = true → task.Pays m t n

/-- However the tasks are interleaved, a completed Patch is counted with the run of failures of
its key, and every failure whose count has reached MaxFailures, and no other, goes to the sink
once: it has been there, or its worker is on the way. -/
theorem failures_accounted (cfg : Config) (sink : Bool) (acts : List (Act Choice Arrival)) (p : Pool Shared Task)
    (ran : (machine (new cfg sink)).run initial acts = some p) : FailuresAccounted (new cfg sink) p := by
  have counted : Counted p.shared := Machine.run_always (fun p => Counted p.shared)
    (fun p act q inv moved => step_counted (new cfg sink) p q act inv moved) initial p acts counted_initial ran
  refine ⟨counted.told,fun t n => ?_,fun t n task _ owes => pays_of_owes _ t n task owes⟩
  refine Machine.run_always
    (fun p => p.shared.sinkTimes t n + p.tasks.countP (Task.owes (new cfg sink) t n) = p.shared.dueTimes (new cfg sink) t n)
    (fun p act q inv moved => step_sinks (new cfg sink) t n p q act inv moved) initial p acts ?_ ran
  unfold Shared.dueTimes
  split <;> rfl

namespace Sample

/-- A decision on the fast lane whose Patch fails. -/
def failing : List (Act Choice Arrival) :=
  [.outside (.call (decision "web" 1)),.task 0 .go,.task 0 .go,.task 0 (.pick 0),.task 1 .go,.task 1 .go,.task 1 .go,
    .task 1 .go,.task 1 (.result .failed),.task 1 .go,.task 1 .go,.task 1 .go,.task 1 .go]

/-- Two workers of one key and one of another are inside their Patches; all three fail. -/
def failingTogether : List (Act Choice Arrival) :=
  [.outside (.call (decision "web" 1)),.task 0 .go,.task 0 .go,.task 0 (.pick 0),.task 0 .go,
    .outside (.call (decision "web" 1)),.task 1 .go,.task 1 .go,.task 1 (.pick 0),.task 1 .go,
    .outside (.call (decision "api" 1)),.task 2 .go,.task 2 .go,.task 2 (.pick 0),.task 2 .go,
    .task 0 .go,.task 1 .go,.task 2 .go,.task 0 .go,.task 1 .go,.task 2 .go,.task 0 .go,.task 1 .go,.task 2 .go,
    .task 0 .go,.task 1 .go,.task 2 .go,.task 1 (.result .failed),.task 2 (.result .failed),.task 0 (.result .failed),
    .task 1 .go,.task 2 .go,.task 0 .go,.task 0 .go,.task 0 .go,.task 0 .go]

end Sample

/-- With MaxFailures 2 the second failure of the one key is in the sink, its first and that of the
other key are not. -/
theorem failures_accounted_sample :
    ∃ p, (machine (new ⟨0,2⟩ true)).run initial Sample.failingTogether = some p ∧
      .completed ⟨1,Sample.decision "web" 1⟩ .failed 1 ∈ p.shared.log ∧
      .completed ⟨2,Sample.decision "api" 1⟩ .failed 1 ∈ p.shared.log ∧
      .completed ⟨0,Sample.decision "web" 1⟩ .failed 2 ∈ p.shared.log ∧
      p.shared.sinkTimes ⟨0,Sample.decision "web" 1⟩ 2 = 1 ∧ p.shared.sinkTimes ⟨1,Sample.decision "web" 1⟩ 1 = 0 ∧
      p.shared.sinkTimes ⟨2,Sample.decision "api" 1⟩ 1 = 0 ∧ FailuresAccounted (new ⟨0,2⟩ true) p := by
  have ends : ((machine (new ⟨0,2⟩ true)).run initial Sample.failingTogether).map (fun p =>
      (decide (.completed ⟨1,Sample.decision "web" 1⟩ .failed 1 ∈ p.shared.log ∧
        .completed ⟨2,Sample.decision "api" 1⟩ .failed 1 ∈ p.shared.log ∧
        .completed ⟨0,Sample.decision "web" 1⟩ .failed 2 ∈ p.shared.log),
        p.shared.sinkTimes ⟨0,Sample.decision "web" 1⟩ 2,p.shared.sinkTimes ⟨1,Sample.decision "web" 1⟩ 1,
        p.shared.sinkTimes ⟨2,Sample.decision "api" 1⟩ 1)) = some (true,1,0,0) := by decide +kernel
  obtain ⟨p,ran,values⟩ := Option.map_eq_some_iff.mp ends
  simp only [Prod.mk.injEq] at values
  obtain ⟨completed,second,first,other⟩ := values
  obtain ⟨one,api,two⟩ := of_decide_eq_true completed
  exact ⟨p,ran,one,api,two,second,first,other,failures_accounted ⟨0,2⟩ true Sample.failingTogether p ran⟩

end Ifaas.Flusher
