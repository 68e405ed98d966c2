import Ifaas.Flusher
import Ifaas.Library.History

/-! What Stop leaves behind. The wait group counts the workers, but neither an Enqueue past
its check of the stopped flag, nor a timer function, nor a batch whose workers are not started;
Stop is final when none of these is left where it returns. -/
namespace Ifaas.Flusher
open Library

def Task.isWorker : Task → Bool
  | .runOne _ _ => true
  | _ => false

/-- The wait group counts the workers. -/
theorem advanced_wg (m : Manager) (s s' : Shared) (task : Task) (choice : Choice) (new : List Task)
    (moved : Advanced m s task choice s' new) :
    s'.wg + [task].countP Task.isWorker = s.wg + new.countP Task.isWorker := by
  cases moved with
  | fast d one =>
    rw [Shared.drainLocked_wg]
    rfl
  | flushed timer =>
    rw [Shared.drainLocked_wg]
    rfl
  | timerStopped i before ns after =>
    rw [Shared.stopTimer_wg]
    rfl
  | worked t phase choice s' new moved =>
    cases moved <;> simp [Shared.emit,Shared.setLane,Task.isWorker]
  | started i before t after => simp [Shared.emit,Task.isWorker]
  | _ => rfl

/-- The part of Stop after its flag. -/
def Task.afterFlag : Task → Bool
  | .stopTimers _ => true
  | .cancel => true
  | .wait => true
  | _ => false

/-- A task that starts nothing. -/
def Task.inert : Task → Bool
  | .queueDepth _ _ batch => batch = []
  | .dispatch batch => batch = []
  | .stop => true
  | .stopTimers _ => true
  | .cancel => true
  | .wait => true
  | _ => false

structure Dead (p : Pool Shared Task) : Prop where
  stopped : p.shared.stopped = true
  armed : p.shared.armed = []
  tasks : ∀ task ∈ p.tasks, task.inert = true

theorem advanced_inert (m : Manager) (s s' : Shared) (task : Task) (choice : Choice) (new : List Task)
    (moved : Advanced m s task choice s' new) (inert : task.inert = true) (stopped : s.stopped = true)
    (armed : s.armed = []) :
    s'.stopped = true ∧ s'.armed = [] ∧ (∀ other ∈ new, other.inert = true) ∧
      ∃ events, s'.log = s.log++events ∧ ∀ t, .patchStarted t ∉ events := by
  cases moved with
  | observed ns depth batch => exact ⟨stopped,armed,by simpa [Task.inert] using inert,[_],rfl,by simp⟩
  | dispatched => exact ⟨stopped,armed,by simp,[],(List.append_nil _).symm,by simp⟩
  | started i before t after => simp [Task.inert] at inert
  | stoppedAlready already => exact ⟨stopped,armed,by simp,[],(List.append_nil _).symm,by simp⟩
  | stopped first =>
    rw [stopped] at first
    cases first
  | timerStopped i before ns after =>
    refine ⟨(Shared.stopTimer_stopped s ns).trans stopped,?_,by simp [Task.inert],[],
      (Shared.stopTimer_log s ns).trans (List.append_nil _).symm,by simp⟩
    rw [Shared.stopTimer_armed,armed]
    rfl
  | timersStopped => exact ⟨stopped,armed,by simp [Task.inert],[],(List.append_nil _).symm,by simp⟩
  | cancelled => exact ⟨stopped,armed,by simp [Task.inert],[],(List.append_nil _).symm,by simp⟩
  | stopReturned drained => exact ⟨stopped,armed,by simp,[_],rfl,by simp⟩
  | _ => cases inert

/-- The two events that matter here, and the steps that bring them about. -/
def Event.decisive : Event → Bool
  | .patchStarted _ => true
  | .stopReturned => true
  | _ => false

theorem advanced_decisive (m : Manager) (s s' : Shared) (task : Task) (choice : Choice) (new : List Task)
    (moved : Advanced m s task choice s' new) :
    (∃ events, s'.log = s.log++events ∧ ∀ event ∈ events, event.decisive = false) ∨
    (∃ t, s'.log = s.log++[.patchStarted t]) ∨
    task = .wait ∧ choice = .go ∧ s.wg = 0 ∧ s' = s.emit [.stopReturned] ∧ new = [] := by
  have accepting (d : Decision) (rest : List Event) (calm : ∀ event ∈ rest, event.decisive = false) (s' : Shared)
      (log : s'.log = (s.accept d).log++rest) :
      ∃ events, s'.log = s.log++events ∧ ∀ event ∈ events, event.decisive = false := by
    obtain ⟨events,accepted,quiet⟩ := s.accept_events d (fun event => event.decisive = false) (fun _ => rfl) (fun _ _ => rfl)
    rw [accepted,List.append_assoc] at log
    refine ⟨_,log,fun event member => ?_⟩
    rcases List.mem_append.mp member with first | second
    · exact quiet event first
    · exact calm event second
  cases moved with
  | fast d one => exact Or.inl (accepting d [.drained _] (by simp [Event.decisive]) _ (Shared.drainLocked_log _ _))
  | waiting d slow timed => exact Or.inl (accepting d [] (by simp) _ (List.append_nil _).symm)
  | arming d slow idle => exact Or.inl (accepting d [] (by simp) _ (List.append_nil _).symm)
  | flushed timer => exact Or.inl ⟨_,Shared.drainLocked_log s timer.ns,by simp [Event.decisive]⟩
  | timerStopped i before ns after =>
    exact Or.inl ⟨[],(Shared.stopTimer_log s ns).trans (List.append_nil _).symm,by simp⟩
  | stopReturned drained => exact Or.inr (Or.inr ⟨rfl,rfl,drained,rfl,rfl⟩)
  | worked t phase choice s' new moved =>
    cases moved with
    | called => exact Or.inr (Or.inl ⟨t,rfl⟩)
    | _ =>
      first
      | exact Or.inl ⟨[_],rfl,by simp [Event.decisive]⟩
      | exact Or.inl ⟨[],(List.append_nil _).symm,by simp⟩
  | _ =>
    first
    | exact Or.inl ⟨[_],rfl,by simp [Event.decisive]⟩
    | exact Or.inl ⟨[],(List.append_nil _).symm,by simp⟩

theorem advanced_flag (m : Manager) (s s' : Shared) (task : Task) (choice : Choice) (new : List Task)
    (moved : Advanced m s task choice s' new) (flagged : task.afterFlag = true → s.stopped = true) :
    (s.stopped = true → s'.stopped = true) ∧ ∀ other ∈ new, other.afterFlag = true → s'.stopped = true := by
  cases moved with
  | fast d one =>
    rw [Shared.drainLocked_stopped]
    exact ⟨id,by simp [Task.afterFlag]⟩
  | flushed timer =>
    rw [Shared.drainLocked_stopped]
    exact ⟨id,by simp [Task.afterFlag]⟩
  | timerStopped i before ns after =>
    rw [Shared.stopTimer_stopped]
    exact ⟨id,fun _ _ _ => flagged rfl⟩
  | timersStopped => exact ⟨id,fun _ _ _ => flagged rfl⟩
  | cancelled => exact ⟨id,fun _ _ _ => flagged rfl⟩
  | stopped first => exact ⟨fun _ => rfl,fun _ _ _ => rfl⟩
  | worked t phase choice s' new moved =>
    rw [(worked_queues m s s' t phase choice new moved).stopped]
    refine ⟨id,?_⟩
    rcases worked_tasks m s s' t phase choice new moved with rfl | ⟨next,rfl⟩ <;> simp [Task.afterFlag]
  | _ => exact ⟨id,by simp [Task.afterFlag]⟩

/-- Nothing that starts a worker is left when Stop returns. -/
def Task.clear : Task → Bool
  | .enqueue _ => false
  | .flushSlow _ => false
  | .queueDepth _ _ batch => batch = []
  | .dispatch batch => batch = []
  | _ => true

/-- The act, if it is the return of Stop, is taken where no call of Enqueue is past its check,
no timer is armed or fired, and no drained batch waits for its workers. -/
def returnsClear (p : Pool Shared Task) : Act Choice Arrival → Bool
  | .task i _ =>
    match pickAt p.tasks i with
    | some (_,.wait,_) => p.shared.armed.isEmpty && p.tasks.all Task.clear
    | _ => true
  | .outside _ => true

def ReturnsClear (p : Pool Shared Task) (act : Act Choice Arrival) : Prop := returnsClear p act = true

/-- No Patch is started once Stop has returned. -/
def BeforeReturn (past : List Event) (event : Event) : Prop := ∀ t, event = .patchStarted t → .stopReturned ∉ past

structure Closing (p : Pool Shared Task) : Prop where
  wg : p.shared.wg = p.tasks.countP Task.isWorker
  flag : ∀ task ∈ p.tasks, task.afterFlag = true → p.shared.stopped = true
  dead : .stopReturned ∈ p.shared.log → Dead p
  past : Recorded BeforeReturn p.shared.log

theorem inert_of_clear (task : Task) (clear : task.clear = true) (idle : task.isWorker = false) : task.inert = true := by
  cases task <;> first | exact clear | cases idle

theorem unreturned (events : List Event) (calm : ∀ event ∈ events, event.decisive = false) : .stopReturned ∉ events :=
  fun member => Bool.noConfusion (calm _ member)

theorem recorded_undecisive (log events : List Event) (recorded : Recorded BeforeReturn log)
    (calm : ∀ t, .patchStarted t ∉ events) : Recorded BeforeReturn (log++events) :=
  recorded_append BeforeReturn log events recorded (fun _ _ member t same => absurd (same ▸ member) (calm t))

theorem advanced_closing (m : Manager) (s s' : Shared) (before after : List Task) (task : Task) (choice : Choice)
    (new : List Task) (moved : Advanced m s task choice s' new) (i : Nat)
    (picked : pickAt (before++task::after) i = some (before,task,after))
    (clear : ReturnsClear ⟨s,before++task::after⟩ (.task i choice)) (inv : Closing ⟨s,before++task::after⟩) :
    Closing ⟨s',before++(new++after)⟩ := by
  have here : task ∈ before++task::after := List.mem_append_right _ List.mem_cons_self
  have kept (other : Task) (member : other ∈ before++(new++after)) : other ∈ new ∨ other ∈ before++task::after := by
    rcases List.mem_append.mp member with first | rest
    · exact Or.inr (List.mem_append_left _ first)
    · rcases List.mem_append.mp rest with added | last
      · exact Or.inl added
      · exact Or.inr (List.mem_append_right _ (List.mem_cons_of_mem _ last))
  obtain ⟨stays,flagged⟩ := advanced_flag m s s' task choice new moved (inv.flag task here)
  have wg : s'.wg = ((before++(new++after)).countP Task.isWorker : Nat) := by
    have before := inv.wg
    have moved := advanced_wg m s s' task choice new moved
    simp only [List.countP_append,List.countP_cons,List.countP_nil] at before moved ⊢
    omega
  have flag (other : Task) (member : other ∈ before++(new++after)) (late : other.afterFlag = true) : s'.stopped = true := by
    rcases kept other member with added | old
    · exact flagged other added late
    · exact stays (inv.flag other old late)
  by_cases returned : .stopReturned ∈ s.log
  · have dead := inv.dead returned
    obtain ⟨stopped,armed,inert,events,log,calm⟩ :=
      advanced_inert m s s' task choice new moved (dead.tasks task here) dead.stopped dead.armed
    refine ⟨wg,flag,fun _ => ⟨stopped,armed,fun other member => ?_⟩,?_⟩
    · rcases kept other member with added | old
      · exact inert other added
      · exact dead.tasks other old
    · change Recorded BeforeReturn s'.log
      rw [log]
      exact recorded_undecisive s.log events inv.past calm
  · obtain ⟨events,log,calm⟩ | ⟨t,log⟩ | ⟨rfl,-,drained,rfl,rfl⟩ := advanced_decisive m s s' task choice new moved
    · refine ⟨wg,flag,fun held => ?_,?_⟩
      · change .stopReturned ∈ s'.log at held
        rw [log,List.mem_append] at held
        exact absurd (held.resolve_right (unreturned events calm)) returned
      · change Recorded BeforeReturn s'.log
        rw [log]
        exact recorded_undecisive s.log events inv.past (fun t member => Bool.noConfusion (calm _ member))
    · refine ⟨wg,flag,fun held => ?_,?_⟩
      · change .stopReturned ∈ s'.log at held
        rw [log] at held
        exact absurd (by simpa using held) returned
      · change Recorded BeforeReturn s'.log
        rw [log]
        exact recorded_snoc BeforeReturn s.log _ inv.past (fun _ _ => returned)
    · unfold ReturnsClear returnsClear at clear
      simp only [picked] at clear
      obtain ⟨armed,clear⟩ := Bool.and_eq_true_iff.mp clear
      refine ⟨wg,flag,fun _ => ⟨inv.flag _ here rfl,List.isEmpty_iff.mp armed,fun other member => ?_⟩,?_⟩
      · have old : other ∈ before++.wait::after := (kept other member).resolve_left (by simp)
        have none : (before++.wait::after).countP Task.isWorker = 0 := by
          have count := inv.wg
          change s.wg = _ at count
          rw [drained] at count
          exact_mod_cast count.symm
        have idle := List.countP_eq_zero.mp none other old
        exact inert_of_clear other (List.all_eq_true.mp clear other old) (Bool.eq_false_iff.mpr idle)
      · exact recorded_undecisive s.log [.stopReturned] inv.past (by simp)

/-- A task that has not seen the flag may be added before it is set. -/
theorem Closing.flag_snoc {s : Shared} {tasks : List Task} (inv : Closing ⟨s,tasks⟩) (new : Task) (early : new.afterFlag = false) :
    ∀ task ∈ tasks++[new], task.afterFlag = true → s.stopped = true := by
  intro task member late
  rcases List.mem_append.mp member with old | added
  · exact inv.flag task old late
  · rw [List.mem_singleton.mp added,early] at late
    cases late

theorem arrived_closing (s s' : Shared) (tasks : List Task) (event : Arrival) (new : List Task)
    (moved : Arrived s event s' new) (inv : Closing ⟨s,tasks⟩) : Closing ⟨s',tasks++new⟩ := by
  have wg := inv.wg
  change s.wg = _ at wg
  cases moved with
  | rejected d ended =>
    rw [List.append_nil]
    refine ⟨wg,inv.flag,fun held => ?_,recorded_undecisive s.log [.rejected d] inv.past (by simp)⟩
    have returned : .stopReturned ∈ s.log := by simpa [Shared.emit] using held
    exact ⟨ended,(inv.dead returned).armed,(inv.dead returned).tasks⟩
  | admitted d running known =>
    refine ⟨by simpa [Task.isWorker] using wg,inv.flag_snoc _ rfl,fun held => ?_,inv.past⟩
    have stopped := (inv.dead held).stopped
    change s.stopped = true at stopped
    rw [running] at stopped
    cases stopped
  | fired i before timer after armed =>
    refine ⟨by simpa [Task.isWorker] using wg,inv.flag_snoc _ rfl,fun held => ?_,inv.past⟩
    have none := (inv.dead held).armed
    change s.armed = [] at none
    rw [armed] at none
    simp at none
  | stop =>
    refine ⟨by simpa [Task.isWorker] using wg,inv.flag_snoc _ rfl,fun held => ?_,inv.past⟩
    have dead := inv.dead held
    refine ⟨dead.stopped,dead.armed,fun task member => ?_⟩
    rcases List.mem_append.mp member with old | added
    · exact dead.tasks task old
    · cases List.mem_singleton.mp added
      rfl

theorem step_closing (m : Manager) (p q : Pool Shared Task) (act : Act Choice Arrival) (inv : Closing p)
    (clear : ReturnsClear p act) (moved : (machine m).step p act = some q) : Closing q := by
  obtain ⟨s,tasks⟩ := p
  obtain ⟨s',others⟩ := q
  obtain ⟨i,choice,before,task,after,new,rfl,picked,rfl,advanced,rfl⟩ | ⟨event,new,-,arrived,rfl⟩ :=
    Machine.step_cases moved
  · exact advanced_closing m s s' before after task choice new (advance_advanced m s s' task choice new advanced) i
      picked clear inv
  · exact arrived_closing s s' tasks event new (arrive_arrived s s' event new arrived) inv

/-- Where Stop returns only after every call of Enqueue past its check, every timer and every
drained batch is through, no Patch starts after it has returned. -/
theorem stop_final (cfg : Config) (sink : Bool) (acts : List (Act Choice Arrival))
    (clear : (machine (new cfg sink)).Obeys ReturnsClear initial acts) (p : Pool Shared Task)
    (ran : (machine (new cfg sink)).run initial acts = some p) (past rest : List Event)
    (returned : p.shared.log = past++.stopReturned::rest) (t : Ticket) : .patchStarted t ∉ rest := by
  have start : Closing initial := ⟨rfl,nofun,nofun,recorded_nil BeforeReturn⟩
  have inv := Machine.run_invariant Closing (fun p act q inv clear moved => step_closing _ p q act inv clear moved)
    initial p acts start clear ran
  intro member
  obtain ⟨between,later,rfl⟩ := List.append_of_mem member
  have split : p.shared.log = (past++.stopReturned::between)++.patchStarted t::later := by
    rw [returned,List.append_assoc]
    rfl
  exact inv.past _ _ _ split t rfl (by simp)

namespace Sample

/-- A warm-up is written, Stop runs to its end, and a call of Enqueue comes too late. -/
def stopping : List (Act Choice Arrival) :=
  [.outside (.call (decision "web" 1)),.task 0 .go,.task 0 .go,.task 0 (.pick 0),.task 0 .go,.task 0 .go,.task 0 .go,
    .task 0 .go,.task 0 .go,.task 0 (.result .success),.task 0 .go,.task 0 .go,.task 0 .go,.task 0 .go,.task 0 .go,
    .outside .stop,.task 0 .go,.task 0 (.pick 0),.task 0 .go,.task 0 .go,.task 0 .go,.outside (.call (decision "api" 1))]

/-- A call of Enqueue is past its check when Stop runs to its end; then it goes on, and its
worker gets a token although the context is cancelled. -/
def racing : List (Act Choice Arrival) :=
  [.outside (.call (decision "web" 1)),.outside .stop,.task 1 .go,.task 1 (.pick 0),.task 1 .go,.task 1 .go,.task 1 .go,
    .task 0 .go,.task 0 .go,.task 0 (.pick 0),.task 0 .go,.task 0 .go,.task 0 .go,.task 0 .go,.task 0 .go]

end Sample

theorem stop_final_sample :
    ∃ p past, (machine (new {} false)).run initial Sample.stopping = some p ∧
      p.shared.log = past++.stopReturned::[.rejected (Sample.decision "api" 1)] ∧
      .patchStarted ⟨0,Sample.decision "web" 1⟩ ∈ past ∧
      ∀ t, .patchStarted t ∉ [Event.rejected (Sample.decision "api" 1)] := by
  have ends : ((machine (new {} false)).run initial Sample.stopping).map (fun p => p.shared.log) =
      some ([.accepted ⟨0,Sample.decision "web" 1⟩,.drained [⟨0,Sample.decision "web" 1⟩],.queueDepth "prod" 0,
        .started ⟨0,Sample.decision "web" 1⟩,.patchInflight "prod" 1,.patchStarted ⟨0,Sample.decision "web" 1⟩,
        .patched ⟨0,Sample.decision "web" 1⟩ .success,.completed ⟨0,Sample.decision "web" 1⟩ .success 0,
        .patchInflight "prod" 0,.flushResult "prod" .success]++.stopReturned::[.rejected (Sample.decision "api" 1)]) := by decide +kernel
  obtain ⟨p,ran,log⟩ := Option.map_eq_some_iff.mp ends
  have clear : (machine (new {} false)).Obeys ReturnsClear initial Sample.stopping :=
    Machine.obeys_sound returnsClear (fun _ _ => id) _ _ (by decide +kernel)
  exact ⟨p,_,ran,log,by decide,stop_final {} false Sample.stopping clear p ran _ _ log⟩

theorem patch_after_stop :
    ∃ p past between t, (machine (new {} false)).run initial Sample.racing = some p ∧
      p.shared.log = past++.stopReturned::(between++[.patchStarted t]) := by
  have ends : ((machine (new {} false)).run initial Sample.racing).map (fun p => p.shared.log) =
      some ([]++.stopReturned::([.accepted ⟨0,Sample.decision "web" 1⟩,.drained [⟨0,Sample.decision "web" 1⟩],
        .queueDepth "prod" 0,.started ⟨0,Sample.decision "web" 1⟩,.patchInflight "prod" 1]++
        [.patchStarted ⟨0,Sample.decision "web" 1⟩])) := by decide +kernel
  obtain ⟨p,ran,log⟩ := Option.map_eq_some_iff.mp ends
  exact ⟨p,_,_,_,ran,log⟩

end Ifaas.Flusher
