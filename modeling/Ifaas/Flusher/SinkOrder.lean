import Ifaas.Flusher.Failures
import Ifaas.Flusher.Inflight

/-! The order of the FailureSink's calls. The count is made under the lock of the lane and the
sink is called later without it, so two workers of one key can be on the way to the sink at
the same time. As long as no failure that is due is counted while another worker of its key
is on the way or in the sink, the calls come one at a time and in the order of the counts. -/
namespace Ifaas.Flusher
open Library

/-- The call the worker has still to make for the key. -/
def Task.owing (m : Manager) (k : NamespacedName) : Task → List (Ticket × Nat)
  | .runOne u (.reportOut r count _) => if m.escalates r count = true ∧ u.key = k then [(u,count)] else []
  | .runOne u (.flushResult r count) => if m.escalates r count = true ∧ u.key = k then [(u,count)] else []
  | .runOne u (.sink count) => if u.key = k then [(u,count)] else []
  | _ => []

/-- The worker is in the sink for the key. -/
def Task.sinking (k : NamespacedName) : Task → Bool
  | .runOne u (.sinking _) => u.key = k
  | _ => false

def owingIn (m : Manager) (k : NamespacedName) (tasks : List Task) : List (Ticket × Nat) := tasks.flatMap (Task.owing m k)

/-- The failure of the key the sink has to hear of. -/
def Event.due (m : Manager) (k : NamespacedName) : Event → List (Ticket × Nat)
  | .completed t r n => if m.escalates r n = true ∧ t.key = k then [(t,n)] else []
  | _ => []

def Event.called (k : NamespacedName) : Event → List (Ticket × Nat)
  | .sinkStarted t n => if t.key = k then [(t,n)] else []
  | _ => []

/-- A Patch of the key that did not fail ends a run of failures. -/
def Event.resets (k : NamespacedName) : Event → Bool
  | .completed t r _ => t.key = k && r ≠ .failed
  | _ => false

/-- The calls of the sink for the key, in order. -/
def sinkCalls (k : NamespacedName) (log : List Event) : List (Ticket × Nat) := log.flatMap (Event.called k)

/-- The failures of the key that are due, in the order of the lock, each with the number of its run. -/
def dueRuns (m : Manager) (k : NamespacedName) : Nat → List Event → List (Nat × Ticket × Nat)
  | _,[] => []
  | run,event::rest =>
    (event.due m k).map (fun call => (run,call))++dueRuns m k (run + if event.resets k then 1 else 0) rest

theorem dueRuns_append (m : Manager) (k : NamespacedName) (run : Nat) (log more : List Event) :
    dueRuns m k run (log++more) = dueRuns m k run log++dueRuns m k (run + log.countP (Event.resets k)) more := by
  induction log generalizing run with
  | nil => rfl
  | cons event rest ih =>
    rw [List.cons_append,dueRuns,dueRuns,ih,List.append_assoc,List.countP_cons,Nat.add_comm (rest.countP _),Nat.add_assoc]

theorem dueRuns_calls (m : Manager) (k : NamespacedName) (run : Nat) (log : List Event) :
    (dueRuns m k run log).map Prod.snd = log.flatMap (Event.due m k) := by
  induction log generalizing run with
  | nil => rfl
  | cons event rest ih =>
    rw [dueRuns,List.map_append,ih,List.map_map,List.flatMap_cons]
    congr 1
    exact List.map_id _

/-- One at a time, each with the count of the failure it is for, and with greater and greater
counts as long as the run of failures is not broken. -/
structure SinksSerial (m : Manager) (p : Pool Shared Task) : Prop where
  one : ∀ k, p.tasks.countP (Task.sinking k) ≤ 1
  increasing : ∀ k, ∃ calls, calls.map Prod.snd = sinkCalls k p.shared.log ∧ calls <+: dueRuns m k 0 p.shared.log ∧
    calls.Pairwise (fun first second => first.1 = second.1 → first.2.2 < second.2.2)

/-! The counts of one run grow. -/

structure Ranked (m : Manager) (k : NamespacedName) (log : List Event) : Prop where
  growing : (dueRuns m k 0 log).Pairwise (fun first second => first.1 = second.1 → first.2.2 < second.2.2)
  past : ∀ x ∈ dueRuns m k 0 log, x.1 ≤ log.countP (Event.resets k) ∧
    (x.1 = log.countP (Event.resets k) → x.2.2 ≤ failureRun k log)

theorem dueRuns_snoc (m : Manager) (k : NamespacedName) (log : List Event) (event : Event) :
    dueRuns m k 0 (log++[event]) =
      dueRuns m k 0 log++(event.due m k).map (fun call => (log.countP (Event.resets k),call)) := by
  rw [dueRuns_append,dueRuns,dueRuns,List.append_nil,Nat.zero_add]

theorem Ranked.quiet {m : Manager} {k : NamespacedName} {log : List Event} (ranked : Ranked m k log) (event : Event)
    (undue : event.due m k = []) (unbroken : event.resets k = false) (silent : event.completionOf k = none) :
    Ranked m k (log++[event]) := by
  have same : dueRuns m k 0 (log++[event]) = dueRuns m k 0 log := by rw [dueRuns_snoc,undue]; simp
  have run : failureRun k (log++[event]) = failureRun k log := failureRun_quiet k log [event] (by simpa using silent)
  refine ⟨by rw [same]; exact ranked.growing,fun x member => ?_⟩
  rw [same] at member
  rw [List.countP_append,run]
  simpa [unbroken] using ranked.past x member

theorem Ranked.failed {m : Manager} {log : List Event} (t : Ticket) (n : Nat) (ranked : Ranked m t.key log)
    (counts : n = failureRun t.key log + 1) : Ranked m t.key (log++[.completed t .failed n]) := by
  have run : failureRun t.key (log++[.completed t .failed n]) = failureRun t.key log + 1 := by
    rw [failureRun_completed _ _ t .failed n rfl,if_pos rfl]
  have resets : (log++[Event.completed t .failed n]).countP (Event.resets t.key) = log.countP (Event.resets t.key) := by
    simp [List.countP_append,Event.resets]
  have last (x : Nat × Ticket × Nat) (new : x ∈ ((Event.completed t .failed n).due m t.key).map
      (fun call => (log.countP (Event.resets t.key),call))) : x = (log.countP (Event.resets t.key),t,n) := by
    obtain ⟨call,member,rfl⟩ := List.mem_map.mp new
    simp only [Event.due] at member
    split at member
    · rw [List.mem_singleton.mp member]
    · cases member
  refine ⟨?_,fun x member => ?_⟩
  · rw [dueRuns_snoc]
    refine List.pairwise_append.mpr ⟨ranked.growing,?_,fun x old y new together => ?_⟩
    · simp only [Event.due]
      split <;> simp
    · rw [last y new] at together ⊢
      have known := (ranked.past x old).2 together
      change x.2.2 < n
      omega
  · rw [dueRuns_snoc] at member
    rw [run,resets]
    rcases List.mem_append.mp member with old | new
    · obtain ⟨earlier,known⟩ := ranked.past x old
      exact ⟨earlier,fun here => Nat.le_succ_of_le (known here)⟩
    · rw [last x new]
      exact ⟨Nat.le_refl _,fun _ => Nat.le_of_eq counts⟩

theorem Ranked.broken {m : Manager} {log : List Event} (t : Ticket) (r : PatchResult) (n : Nat) (ranked : Ranked m t.key log)
    (other : r ≠ .failed) : Ranked m t.key (log++[.completed t r n]) := by
  have same : dueRuns m t.key 0 (log++[.completed t r n]) = dueRuns m t.key 0 log := by
    rw [dueRuns_snoc]
    simp [Event.due,Manager.escalates,other]
  have resets : (log++[Event.completed t r n]).countP (Event.resets t.key) = log.countP (Event.resets t.key) + 1 := by
    simp [List.countP_append,Event.resets,other]
  refine ⟨by rw [same]; exact ranked.growing,fun x member => ?_⟩
  rw [same] at member
  have earlier := (ranked.past x member).1
  rw [resets]
  exact ⟨by omega,by omega⟩

theorem ranked_of_counts (m : Manager) (k : NamespacedName) (log : List Event) (told : Recorded CountsRun log) :
    Ranked m k log := by
  induction log using List.reverseRecOn with
  | nil => exact ⟨.nil,nofun⟩
  | append_singleton log event ih =>
    obtain ⟨before,now⟩ := (recorded_snoc_iff _ _ _).mp told
    have ranked := ih before
    cases event with
    | completed t r n =>
      by_cases own : t.key = k
      · subst own
        by_cases failed : r = .failed
        · subst failed
          exact ranked.failed t n (by rw [now t .failed n rfl,failureRun_completed _ _ t .failed n rfl,if_pos rfl])
        · exact ranked.broken t r n failed
      · exact ranked.quiet _ (by simp [Event.due,own]) (by simp [Event.resets,own]) (by simp [Event.completionOf,own])
    | _ => exact ranked.quiet _ rfl rfl rfl

/-! Under the condition the workers of a key reach the sink in turn. -/

/-- No failure that is due is counted while a worker of its key is on the way to the sink or in it. -/
def SinkFree (m : Manager) (p : Pool Shared Task) (act : Act Choice Arrival) : Prop :=
  ∀ i before t after, act = .task i .go → pickAt p.tasks i = some (before,.runOne t (.settle .failed),after) →
    m.escalates .failed ((p.shared.lane t.ns).failures t.key + 1) = true →
    owingIn m t.key p.tasks = [] ∧ p.tasks.countP (Task.sinking t.key) = 0

/-- At most one worker of the key is on the way to the sink or in it, and the sink has heard
of all failures that are due but the one on the way. -/
structure SinksInTurn (m : Manager) (k : NamespacedName) (p : Pool Shared Task) : Prop where
  one : (owingIn m k p.tasks).length + p.tasks.countP (Task.sinking k) ≤ 1
  calls : p.shared.log.flatMap (Event.due m k) = sinkCalls k p.shared.log++owingIn m k p.tasks

/-- What a step does about the sink: nothing, one more failure that is due, or a call. -/
inductive SinkStep (m : Manager) (k : NamespacedName) (s s' : Shared) (old new : List Task) : Prop
  | quiet (due : s'.log.flatMap (Event.due m k) = s.log.flatMap (Event.due m k))
      (calls : sinkCalls k s'.log = sinkCalls k s.log) (owing : owingIn m k new = owingIn m k old)
      (sinking : new.countP (Task.sinking k) ≤ old.countP (Task.sinking k))
  | counted (t : Ticket) (n : Nat) (own : t.key = k) (settles : old = [.runOne t (.settle .failed)])
      (count : n = (s.lane t.ns).failures t.key + 1) (escalates : m.escalates .failed n = true)
      (due : s'.log.flatMap (Event.due m k) = s.log.flatMap (Event.due m k)++[(t,n)])
      (calls : sinkCalls k s'.log = sinkCalls k s.log) (owing : owingIn m k new = [(t,n)])
      (sinking : new.countP (Task.sinking k) = 0)
  | called (t : Ticket) (n : Nat) (due : s'.log.flatMap (Event.due m k) = s.log.flatMap (Event.due m k))
      (calls : sinkCalls k s'.log = sinkCalls k s.log++[(t,n)]) (owed : owingIn m k old = [(t,n)])
      (owing : owingIn m k new = []) (sinking : new.countP (Task.sinking k) = 1)

/-- A worker of another key has nothing to say. -/
theorem sinkStep_other (m : Manager) (k : NamespacedName) (s s' : Shared) (t : Ticket) (phase : Phase) (choice : Choice)
    (new : List Task) (moved : Worked m s t phase choice s' new) (other : t.key ≠ k) :
    SinkStep m k s s' [.runOne t phase] new := by
  have unowed (p : Phase) : Task.owing m k (.runOne t p) = [] := by cases p <;> simp [Task.owing,other]
  have unsunk (p : Phase) : Task.sinking k (.runOne t p) = false := by cases p <;> simp [Task.sinking,other]
  have tasks : owingIn m k new = [] ∧ new.countP (Task.sinking k) = 0 := by
    rcases worked_tasks m s s' t phase choice new moved with rfl | ⟨next,rfl⟩
    · exact ⟨rfl,rfl⟩
    · simp [owingIn,unowed,unsunk]
  refine .quiet ?_ ?_ (by rw [tasks.1]; simp [owingIn,unowed]) (by rw [tasks.2]; exact Nat.zero_le _)
  · cases moved <;> simp [Shared.emit,Shared.setLane,Event.due,other]
  · cases moved <;> simp [sinkCalls,Shared.emit,Shared.setLane,Event.called,other]

theorem sinkStep_settled (m : Manager) (s : Shared) (t : Ticket) (r : PatchResult) (lane : Lane) (n : Nat) (inflight : Int)
    (count : r = .failed → n = (s.lane t.ns).failures t.key + 1) :
    SinkStep m t.key s ((s.setLane t.ns lane).emit [.completed t r n]) [.runOne t (.settle r)]
      [.runOne t (.reportOut r n inflight)] := by
  cases escalates : m.escalates r n with
  | false =>
    refine .quiet ?_ ?_ ?_ (Nat.le_refl _)
    · simp [Shared.emit,Shared.setLane,Event.due,escalates]
    · simp [sinkCalls,Shared.emit,Shared.setLane,Event.called]
    · simp [owingIn,Task.owing,escalates]
  | true =>
    obtain rfl : r = .failed := (of_decide_eq_true escalates).1
    refine .counted t n rfl rfl (count rfl) escalates ?_ ?_ ?_ rfl
    · simp [Shared.emit,Shared.setLane,Event.due,escalates]
    · simp [sinkCalls,Shared.emit,Shared.setLane,Event.called]
    · simp [owingIn,Task.owing,escalates]

theorem worked_sinkStep (m : Manager) (k : NamespacedName) (s s' : Shared) (t : Ticket) (phase : Phase) (choice : Choice)
    (new : List Task) (moved : Worked m s t phase choice s' new) : SinkStep m k s s' [.runOne t phase] new := by
  by_cases own : t.key = k
  · subst own
    cases moved with
    | settled r => exact sinkStep_settled m s t r _ _ _ (fun failed => by subst failed; exact Function.update_self ..)
    | escalates count reached sink =>
      refine .quiet ?_ ?_ ?_ (Nat.le_refl _)
      · simp [Shared.emit,Event.due]
      · simp [sinkCalls,Shared.emit,Event.called]
      · simp [owingIn,Task.owing,Manager.escalates,reached,sink]
    | resulted r count calm =>
      have undue : m.escalates r count = false := decide_eq_false calm
      refine .quiet ?_ ?_ ?_ (Nat.le_refl _)
      · simp [Shared.emit,Event.due]
      · simp [sinkCalls,Shared.emit,Event.called]
      · simp [owingIn,Task.owing,undue]
    | sinkCalled count =>
      refine .called t count ?_ ?_ ?_ rfl ?_
      · simp [Shared.emit,Event.due]
      · simp [sinkCalls,Shared.emit,Event.called]
      · simp [owingIn,Task.owing]
      · simp [Task.sinking]
    | _ =>
      refine .quiet ?_ ?_ rfl ?_
      · simp [Shared.emit,Shared.setLane,Event.due]
      · simp [sinkCalls,Shared.emit,Shared.setLane,Event.called]
      · simp [Task.sinking]
  · exact sinkStep_other m k s s' t phase choice new moved own

theorem fresh_unowing (m : Manager) (k : NamespacedName) (tasks : List Task) (fresh : ∀ x ∈ tasks, x.fresh = true) :
    owingIn m k tasks = [] ∧ tasks.countP (Task.sinking k) = 0 := by
  have idle (x : Task) (new : x.fresh = true) : x.owing m k = [] ∧ x.sinking k = false := by
    cases x with
    | runOne u phase =>
      cases phase with
      | acquire => exact ⟨rfl,rfl⟩
      | _ => cases new
    | _ => exact ⟨rfl,rfl⟩
  refine ⟨List.flatMap_eq_nil_iff.mpr (fun x member => (idle x (fresh x member)).1),
    List.countP_eq_zero.mpr (fun x member => ?_)⟩
  rw [(idle x (fresh x member)).2]
  exact Bool.false_ne_true

theorem Aside.sinkStep {s s' : Shared} (aside : Aside s s') (m : Manager) (k : NamespacedName) (old new : List Task)
    (was : ∀ x ∈ old, x.fresh = true) (becomes : ∀ x ∈ new, x.fresh = true) : SinkStep m k s s' old new := by
  obtain ⟨unowed,unsunk⟩ := fresh_unowing m k new becomes
  refine .quiet ?_ ?_ (by rw [unowed,(fresh_unowing m k old was).1]) (by rw [unsunk]; exact Nat.zero_le _)
  · exact aside.flatMap _ (fun event other => by cases event <;> first | rfl | cases other)
  · exact aside.flatMap _ (fun event other => by cases event <;> first | rfl | cases other)

theorem owingIn_append (m : Manager) (k : NamespacedName) (first second : List Task) :
    owingIn m k (first++second) = owingIn m k first++owingIn m k second := List.flatMap_append

/-- A step in its place keeps the turns, if a failure that is due finds the way free. -/
theorem SinkStep.inTurn {m : Manager} {k : NamespacedName} {p q : Pool Shared Task} {before old new after : List Task}
    (step : SinkStep m k p.shared q.shared old new) (was : p.tasks = before++(old++after))
    (becomes : q.tasks = before++(new++after))
    (free : ∀ t, t.key = k → old = [.runOne t (.settle .failed)] →
      m.escalates .failed ((p.shared.lane t.ns).failures t.key + 1) = true →
      owingIn m k p.tasks = [] ∧ p.tasks.countP (Task.sinking k) = 0)
    (inv : SinksInTurn m k p) : SinksInTurn m k q := by
  obtain ⟨one,heard⟩ := inv
  rw [was] at one heard free
  simp only [owingIn_append,List.length_append,List.countP_append] at one heard free
  cases step with
  | quiet due calls owing sinking =>
    refine ⟨?_,?_⟩ <;> rw [becomes]
    · simp only [owingIn_append,List.length_append,List.countP_append,owing]
      omega
    · simp only [owingIn_append,owing]
      rw [due,calls]
      exact heard
  | counted t n own settles count escalates due calls owing sinking =>
    obtain ⟨none,idle⟩ := free t own settles (by rw [← count]; exact escalates)
    obtain ⟨left,rest⟩ := List.append_eq_nil_iff.mp none
    obtain ⟨-,right⟩ := List.append_eq_nil_iff.mp rest
    refine ⟨?_,?_⟩ <;> rw [becomes]
    · simp only [owingIn_append,List.length_append,List.countP_append,owing,left,right,sinking,List.length_nil,
        List.length_singleton]
      omega
    · simp only [owingIn_append,owing,left,right,List.nil_append,List.append_nil]
      rw [due,calls,heard,none,List.append_nil]
  | called t n due calls owed owing sinking =>
    simp only [owed,List.length_singleton] at one
    have left : owingIn m k before = [] := List.eq_nil_of_length_eq_zero (by omega)
    have right : owingIn m k after = [] := List.eq_nil_of_length_eq_zero (by omega)
    refine ⟨?_,?_⟩ <;> rw [becomes]
    · simp only [owingIn_append,List.length_append,List.countP_append,owing,left,right,sinking,List.length_nil]
      omega
    · simp only [owingIn_append,owing,left,right,List.append_nil]
      rw [due,calls,heard,left,owed,right,List.nil_append,List.append_nil]

theorem step_sinkStep (m : Manager) (k : NamespacedName) (s s' : Shared) (task : Task) (choice : Choice) (new : List Task)
    (advanced : advance m s task choice = some (s',new)) : SinkStep m k s s' [task] new := by
  rcases advanced_cases m s s' task choice new (advance_advanced m s s' task choice new advanced) with
    ⟨t,phase,rfl,worked⟩ | ⟨aside,idle,fresh⟩
  · exact worked_sinkStep m k s s' t phase choice new worked
  · exact aside.sinkStep m k [task] new (by simpa using idle) fresh

theorem step_inTurn (m : Manager) (k : NamespacedName) (p q : Pool Shared Task) (act : Act Choice Arrival)
    (inv : SinksInTurn m k p) (free : SinkFree m p act) (moved : (machine m).step p act = some q) : SinksInTurn m k q := by
  obtain ⟨i,choice,before,task,after,new,same,picked,was,advanced,becomes⟩ | ⟨event,new,-,arrived,becomes⟩ :=
    Machine.step_cases moved
  · refine (step_sinkStep m k _ _ task choice new advanced).inTurn was becomes (fun t own settles escalates => ?_) inv
    obtain rfl := List.singleton_inj.mp settles
    have go : choice = .go := by
      cases choice with
      | go => rfl
      | _ => cases advanced
    subst go
    rw [← own]
    exact free i before t after same picked escalates
  · obtain ⟨aside,fresh⟩ := arrived_aside _ _ event new (arrive_arrived _ _ event new arrived)
    exact (aside.sinkStep m k [] new (by simp) fresh).inTurn (List.append_nil _).symm (by rw [becomes,List.append_nil])
      (fun t own none => by cases none) inv

theorem SinksInTurn.serial {m : Manager} {p : Pool Shared Task} (turn : ∀ k, SinksInTurn m k p) (told : Recorded CountsRun p.shared.log) :
    SinksSerial m p := by
  refine ⟨fun k => ?_,fun k => ⟨(dueRuns m k 0 p.shared.log).take (sinkCalls k p.shared.log).length,?_,List.take_prefix _ _,?_⟩⟩
  · have one := (turn k).one
    omega
  · rw [List.map_take,dueRuns_calls,(turn k).calls,List.take_left]
  · exact (ranked_of_counts m k p.shared.log told).growing.sublist (List.take_sublist _ _)

theorem inTurn_initial (m : Manager) (k : NamespacedName) : SinksInTurn m k initial := ⟨Nat.zero_le _,rfl⟩

theorem serial_of_free (m : Manager) (acts : List (Act Choice Arrival)) (p : Pool Shared Task)
    (free : (machine m).Obeys (SinkFree m) initial acts) (ran : (machine m).run initial acts = some p) : SinksSerial m p := by
  have counted : Counted p.shared := Machine.run_always (fun p => Counted p.shared)
    (fun p act q inv moved => step_counted m p q act inv moved) initial p acts counted_initial ran
  refine SinksInTurn.serial (fun k => ?_) counted.told
  exact Machine.run_invariant (SinksInTurn m k) (fun p act q inv now moved => step_inTurn m k p q act inv now moved)
    initial p acts (inTurn_initial m k) free ran

/-! Without the condition two workers of a key meet in the sink. -/

theorem owing_cases (m : Manager) (k : NamespacedName) (task : Task) :
    task.owing m k = [] ∨ ∃ u n, task.owing m k = [(u,n)] ∧ u.key = k ∧ task.owes m u n = true := by
  unfold Task.owing
  split
  next u r count inflight =>
    split
    next due => exact Or.inr ⟨u,count,rfl,due.2,by simp [Task.owes,due.1]⟩
    next => exact Or.inl rfl
  next u r count =>
    split
    next due => exact Or.inr ⟨u,count,rfl,due.2,by simp [Task.owes,due.1]⟩
    next => exact Or.inl rfl
  next u count =>
    split
    next own => exact Or.inr ⟨u,count,rfl,own,by simp [Task.owes]⟩
    next => exact Or.inl rfl
  next => exact Or.inl rfl

/-- The first of the workers on the way. -/
theorem owingIn_split (m : Manager) (k : NamespacedName) (tasks : List Task) (some : owingIn m k tasks ≠ []) :
    ∃ before task after u n, tasks = before++task::after ∧ u.key = k ∧ task.owes m u n = true ∧
      (owingIn m k tasks).length = (owingIn m k (before++after)).length + 1 := by
  induction tasks with
  | nil => exact absurd rfl some
  | cons task rest ih =>
    rcases owing_cases m k task with none | ⟨u,n,owed,own,owes⟩
    · have skip : owingIn m k (task::rest) = owingIn m k rest := by
        unfold owingIn
        rw [List.flatMap_cons,none,List.nil_append]
      rw [skip] at some
      obtain ⟨before,found,after,u,n,rfl,own,owes,fewer⟩ := ih some
      refine ⟨task::before,found,after,u,n,rfl,own,owes,?_⟩
      rw [skip,fewer]
      unfold owingIn
      rw [List.cons_append,List.flatMap_cons,none,List.nil_append]
    · refine ⟨[],task,rest,u,n,rfl,own,owes,?_⟩
      unfold owingIn
      rw [List.flatMap_cons,owed,List.length_append,List.length_singleton,Nat.add_comm,List.nil_append]

theorem pickAt_length {α : Type} (before after : List α) (x : α) :
    pickAt (before++x::after) before.length = some (before,x,after) := by
  simp [pickAt]

/-- A worker on the way to the sink can go on alone until it is in it. -/
theorem reach_sinking (m : Manager) (before after : List Task) (u : Ticket) (n : Nat) (task : Task) (s : Shared)
    (owes : task.owes m u n = true) :
    ∃ acts s', (machine m).run ⟨s,before++task::after⟩ acts = some ⟨s',before++.runOne u (.sinking n)::after⟩ := by
  induction far : task.toSink generalizing task s with
  | zero =>
    rcases pays_of_owes m u n task owes s with ⟨-,calls⟩ | ⟨events,next,-,-,nearer⟩
    · refine ⟨[.task before.length .go],s.emit [.sinkStarted u n],?_⟩
      simp [Machine.run,Machine.step,pickAt_length,machine,calls]
    · omega
  | succ d ih =>
    rcases pays_of_owes m u n task owes s with ⟨there,-⟩ | ⟨events,next,goes,still,nearer⟩
    · omega
    · obtain ⟨acts,s',ran⟩ := ih next (s.emit events) still (by omega)
      refine ⟨.task before.length .go::acts,s',?_⟩
      rw [← ran]
      simp [Machine.run,Machine.step,pickAt_length,machine,goes]

/-- All workers on the way can be in the sink at once. -/
theorem reach_crowd (m : Manager) (k : NamespacedName) (p : Pool Shared Task) :
    ∃ acts q, (machine m).run p acts = some q ∧
      q.tasks.countP (Task.sinking k) = (owingIn m k p.tasks).length + p.tasks.countP (Task.sinking k) := by
  induction many : (owingIn m k p.tasks).length generalizing p with
  | zero => exact ⟨[],p,rfl,(Nat.zero_add _).symm⟩
  | succ n ih =>
    have some : owingIn m k p.tasks ≠ [] := fun none => by rw [none] at many; cases many
    obtain ⟨before,task,after,u,count,was,own,owes,fewer⟩ := owingIn_split m k p.tasks some
    obtain ⟨acts,s,ran⟩ := reach_sinking m before after u count task p.shared owes
    have left : (owingIn m k (before++.runOne u (.sinking count)::after)).length = n := by
      have same : owingIn m k (before++.runOne u (.sinking count)::after) = owingIn m k (before++after) := by
        simp [owingIn,Task.owing]
      rw [same]
      omega
    obtain ⟨more,q,further,crowd⟩ := ih ⟨s,before++.runOne u (.sinking count)::after⟩ left
    have idle : task.sinking k = false := by
      cases task with
      | runOne v phase =>
        cases phase with
        | sinking c => cases owes
        | _ => rfl
      | _ => rfl
    have here : Task.sinking k (.runOne u (.sinking count)) = true := decide_eq_true own
    refine ⟨acts++more,q,?_,?_⟩
    · rw [← further]
      refine Machine.run_append p _ acts more ?_
      rw [← ran,← was]
    · rw [crowd,was]
      rw [List.countP_append,List.countP_append,List.countP_cons_of_pos here,
        List.countP_cons_of_neg (Bool.eq_false_iff.mp idle)]
      omega

theorem free_of_serial (m : Manager) (serial : ∀ acts p, (machine m).run initial acts = some p → SinksSerial m p)
    (acts : List (Act Choice Arrival)) (p : Pool Shared Task) (ran : (machine m).run initial acts = some p)
    (act : Act Choice Arrival) : SinkFree m p act := by
  intro i before t after same picked escalates
  subst same
  have was := pickAt_eq _ _ _ _ _ picked
  -- the worker takes its turn: it is now on the way as well
  obtain ⟨q,moved,owing,sinking⟩ : ∃ q, (machine m).step p (.task i .go) = some q ∧
      (owingIn m t.key q.tasks).length = (owingIn m t.key p.tasks).length + 1 ∧
      q.tasks.countP (Task.sinking t.key) = p.tasks.countP (Task.sinking t.key) := by
    have count : settled (p.shared.lane t.ns).failures t.key .failed t.key = (p.shared.lane t.ns).failures t.key + 1 :=
      Function.update_self ..
    refine ⟨_,by simp only [Machine.step,picked]; rfl,?_,?_⟩
    · rw [was]
      simp [owingIn,Task.owing,count,escalates]
      omega
    · rw [was]
      simp [List.countP_append,Task.sinking]
  obtain ⟨more,q',further,crowd⟩ := reach_crowd m t.key q
  have ends : (machine m).run initial (acts++.task i .go::more) = some q' := by
    rw [Machine.run_append initial p acts _ ran]
    simp only [Machine.run,moved,Option.bind_some]
    exact further
  have one := (serial _ q' ends).one t.key
  exact ⟨List.eq_nil_of_length_eq_zero (by omega),by omega⟩

/-! With one worker at a time, or without a sink, the way is always free. -/

theorem holds_of_owing (m : Manager) (k : NamespacedName) (task : Task) (owing : task.owing m k ≠ []) : task.holds k.ns = true := by
  unfold Task.owing at owing
  split at owing
  next u r count inflight =>
    obtain ⟨-,rfl⟩ := (ite_ne_right_iff.mp owing).1
    exact decide_eq_true rfl
  next u r count =>
    obtain ⟨-,rfl⟩ := (ite_ne_right_iff.mp owing).1
    exact decide_eq_true rfl
  next u count =>
    obtain rfl := (ite_ne_right_iff.mp owing).1
    exact decide_eq_true rfl
  next => exact absurd rfl owing

theorem holds_of_sinking (k : NamespacedName) (task : Task) (sinking : task.sinking k = true) : task.holds k.ns = true := by
  unfold Task.sinking at sinking
  split at sinking
  next u count =>
    obtain rfl := of_decide_eq_true sinking
    exact decide_eq_true rfl
  next => cases sinking

theorem free_of_metered (m : Manager) (p : Pool Shared Task) (act : Act Choice Arrival) (inv : ∀ ns, Metered 1 ns p) :
    SinkFree m p act := by
  intro i before t after same picked escalates
  have was := pickAt_eq _ _ _ _ _ picked
  have held := (inv t.ns).held
  have capped := (inv t.ns).capped
  have alone : before.countP (Task.holds t.ns) = 0 ∧ after.countP (Task.holds t.ns) = 0 := by
    have own : Task.holds t.ns (.runOne t (.settle .failed)) = true := decide_eq_true rfl
    rw [was,List.countP_append,List.countP_cons_of_pos own] at held
    omega
  have idle (task : Task) (other : task.holds t.ns ≠ true) : task.owing m t.key = [] ∧ task.sinking t.key = false := by
    refine ⟨?_,?_⟩
    · by_contra owing
      exact other (holds_of_owing m t.key task owing)
    · exact Bool.eq_false_iff.mpr (fun sinking => other (holds_of_sinking t.key task sinking))
  have each (task : Task) (member : task ∈ p.tasks) : task.owing m t.key = [] ∧ task.sinking t.key = false := by
    rw [was] at member
    rcases List.mem_append.mp member with left | here
    · exact idle task (List.countP_eq_zero.mp alone.1 task left)
    · rcases List.mem_cons.mp here with rfl | right
      · exact ⟨rfl,rfl⟩
      · exact idle task (List.countP_eq_zero.mp alone.2 task right)
  refine ⟨List.flatMap_eq_nil_iff.mpr (fun task member => (each task member).1),
    List.countP_eq_zero.mpr (fun task member => ?_)⟩
  rw [(each task member).2]
  exact Bool.false_ne_true

/-- A manager with one worker at a time for each namespace, or without a sink. -/
theorem free_of_alone (cfg : Config) (sink : Bool) (alone : cfg.withDefaults.maxInFlight = 1 ∨ sink = false)
    (acts : List (Act Choice Arrival)) : (machine (new cfg sink)).Obeys (SinkFree (new cfg sink)) initial acts := by
  refine Machine.obeys_of_reached _ initial (fun acts p ran act => ?_) acts
  rcases alone with single | silent
  · have one : (new cfg sink).cfg.maxInFlight = 1 := single
    refine free_of_metered _ p act (fun ns => ?_)
    refine Machine.run_always (Metered 1 ns) (fun p act q inv moved => ?_) initial p acts ⟨rfl,rfl,Int.one_nonneg⟩ ran
    rw [← one] at inv ⊢
    exact step_metered _ (by rw [one]; exact Int.one_pos) ns p q act inv moved
  · intro i before t after _ _ escalates
    have called : (new cfg sink).sink = true := (of_decide_eq_true escalates).2.2
    exact Bool.noConfusion (silent.symm.trans called)

/-- The calls of the sink are serial, and their counts increasing, in every run in which no
failure that is due is counted while a worker of its key is on the way to the sink or in it.
If some run leaves that condition, some run has two calls for one key at once. With MaxInFlight
1, and without a sink, no run leaves it. -/
theorem sinks_serial_iff (cfg : Config) (sink : Bool) :
    (∀ acts p, (machine (new cfg sink)).Obeys (SinkFree (new cfg sink)) initial acts →
      (machine (new cfg sink)).run initial acts = some p → SinksSerial (new cfg sink) p) ∧
    ((∀ acts p, (machine (new cfg sink)).run initial acts = some p → SinksSerial (new cfg sink) p) ↔
      ∀ acts, (machine (new cfg sink)).Obeys (SinkFree (new cfg sink)) initial acts) ∧
    (cfg.withDefaults.maxInFlight = 1 ∨ sink = false →
      ∀ acts, (machine (new cfg sink)).Obeys (SinkFree (new cfg sink)) initial acts) := by
  refine ⟨fun acts p free ran => serial_of_free _ acts p free ran,⟨fun serial acts => ?_,fun free acts p ran => ?_⟩,
    free_of_alone cfg sink⟩
  · exact Machine.obeys_of_reached _ initial (free_of_serial _ serial) acts
  · exact serial_of_free _ acts p (free acts) ran

namespace Sample

def webKey : NamespacedName := ⟨"prod","web"⟩

/-- The decision is made again, and its Patch fails again, when the first worker is gone. -/
def failingTwice : List (Act Choice Arrival) :=
  failing++[.task 1 .go,.task 1 .go,.task 1 .go,.outside (.call (decision "web" 1)),.task 1 .go,.task 1 .go,.task 1 (.pick 0),
    .task 2 .go,.task 2 .go,.task 2 .go,.task 2 .go,.task 2 (.result .failed),.task 2 .go,.task 2 .go,.task 2 .go,.task 2 .go]

/-- The second Patch fails before the first failure is counted, and its worker is faster. -/
def outrunning : List (Act Choice Arrival) :=
  [.outside (.call (decision "web" 1)),.task 0 .go,.task 0 .go,.task 0 (.pick 0),.task 1 .go,.task 1 .go,.task 1 .go,
    .task 1 .go,.task 1 (.result .failed),.outside (.call (decision "web" 1)),.task 2 .go,.task 2 .go,.task 2 (.pick 0),
    .task 3 .go,.task 3 .go,.task 3 .go,.task 3 .go,.task 3 (.result .failed),.task 1 .go,.task 3 .go,.task 3 .go,.task 3 .go,
    .task 3 .go,.task 1 .go,.task 1 .go,.task 1 .go]

end Sample

/-- One after the other, the failures are in the sink with the counts 1 and 2. -/
theorem sinks_serial_sample :
    ∃ p, (machine (new ⟨1,1⟩ true)).run initial Sample.failingTwice = some p ∧
      sinkCalls Sample.webKey p.shared.log = [(⟨0,Sample.decision "web" 1⟩,1),(⟨1,Sample.decision "web" 1⟩,2)] ∧
      SinksSerial (new ⟨1,1⟩ true) p := by
  have ends : ((machine (new ⟨1,1⟩ true)).run initial Sample.failingTwice).map (fun p => sinkCalls Sample.webKey p.shared.log) =
      some [(⟨0,Sample.decision "web" 1⟩,1),(⟨1,Sample.decision "web" 1⟩,2)] := by decide +kernel
  obtain ⟨p,ran,called⟩ := Option.map_eq_some_iff.mp ends
  have free := (sinks_serial_iff ⟨1,1⟩ true).2.2 (Or.inl rfl) Sample.failingTwice
  exact ⟨p,ran,called,(sinks_serial_iff ⟨1,1⟩ true).1 Sample.failingTwice p free ran⟩

/-- Two workers of one key are in the sink at once, and the second failure of the run was
there before the first. -/
theorem sink_overtaken :
    ∃ p, (machine (new ⟨0,1⟩ true)).run initial Sample.outrunning = some p ∧
      p.tasks.countP (Task.sinking Sample.webKey) = 2 ∧ p.shared.log.countP (Event.resets Sample.webKey) = 0 ∧
      sinkCalls Sample.webKey p.shared.log = [(⟨1,Sample.decision "web" 1⟩,2),(⟨0,Sample.decision "web" 1⟩,1)] ∧
      ¬ SinksSerial (new ⟨0,1⟩ true) p := by
  have ends : ((machine (new ⟨0,1⟩ true)).run initial Sample.outrunning).map (fun p =>
      (p.tasks.countP (Task.sinking Sample.webKey),p.shared.log.countP (Event.resets Sample.webKey),sinkCalls Sample.webKey p.shared.log)) =
      some (2,0,[(⟨1,Sample.decision "web" 1⟩,2),(⟨0,Sample.decision "web" 1⟩,1)]) := by decide +kernel
  obtain ⟨p,ran,values⟩ := Option.map_eq_some_iff.mp ends
  obtain ⟨crowd,rest⟩ := Prod.mk.inj values
  obtain ⟨unbroken,calls⟩ := Prod.mk.inj rest
  refine ⟨p,ran,crowd,unbroken,calls,fun serial => ?_⟩
  have one := serial.one Sample.webKey
  omega

end Ifaas.Flusher
