import Ifaas.Flusher.Progress

/-! A lane delivers what it accepted, however its steps are interleaved with those of the other
lanes. What the lane can still do is counted by a rank of its own: its tasks, its tickets
without a worker and its armed timers. A step of the lane lowers the rank, and nothing but a
new decision for the lane raises it. -/
namespace Ifaas.Flusher
open Library

/-! Every worker that starts completes its Patch. -/

/-- The worker has a Patch to complete. -/
def Phase.unsettled : Phase → Bool
  | .acquire => true
  | .increment => true
  | .reportIn _ => true
  | .call => true
  | .patching => true
  | .settle _ => true
  | _ => false

def Task.unsettled (t : Ticket) : Task → Bool
  | .runOne u phase => u = t && phase.unsettled
  | _ => false

def Event.completesFor (t : Ticket) : Event → Bool
  | .completed u _ _ => u = t
  | _ => false

def Shared.completedTimes (s : Shared) (t : Ticket) : Nat := s.log.countP (Event.completesFor t)

/-- Every worker that was started has completed its Patch or will. -/
def Settling (p : Pool Shared Task) : Prop :=
  ∀ t, p.shared.startedTimes t = p.shared.completedTimes t + p.tasks.countP (Task.unsettled t)

/-- What a step adds to the workers started it adds to those that completed or will. -/
def Settles (t : Ticket) (s s' : Shared) (old new : List Task) : Prop :=
  s'.startedTimes t + (s.completedTimes t + old.countP (Task.unsettled t)) =
    s.startedTimes t + (s'.completedTimes t + new.countP (Task.unsettled t))

theorem settles_of_log (t : Ticket) (s s' : Shared) (old new : List Task) (events : List Event)
    (log : s'.log = s.log++events)
    (balance : events.count (.started t) + old.countP (Task.unsettled t) =
      events.countP (Event.completesFor t) + new.countP (Task.unsettled t)) : Settles t s s' old new := by
  unfold Settles Shared.startedTimes Shared.completedTimes
  rw [log,List.count_append,List.countP_append]
  omega

/-- No worker gives up as long as the context is not cancelled. -/
theorem worked_settles (m : Manager) (s s' : Shared) (u : Ticket) (phase : Phase) (choice : Choice) (new : List Task)
    (moved : Worked m s u phase choice s' new) (running : s.cancelled = false) (t : Ticket) :
    Settles t s s' [.runOne u phase] new := by
  cases moved with
  | ctxDone capped ended =>
    rw [running] at ended
    cases ended
  | _ =>
    first
    | exact settles_of_log t _ _ _ _ [] (List.append_nil _).symm (by simp [Task.unsettled,Phase.unsettled])
    | exact settles_of_log t _ _ _ _ [_] rfl (by simp [Task.unsettled,Phase.unsettled,Event.completesFor])

/-- Events that neither start nor complete a Patch. -/
def Event.queues : Event → Bool
  | .started _ => false
  | .completed _ _ _ => false
  | _ => true

theorem settles_of_queues (t : Ticket) (s s' : Shared) (old new : List Task)
    (log : ∃ events, s'.log = s.log++events ∧ ∀ event ∈ events, event.queues = true)
    (same : old.countP (Task.unsettled t) = new.countP (Task.unsettled t)) : Settles t s s' old new := by
  obtain ⟨events,grown,quiet⟩ := log
  have unstarted : events.count (.started t) = 0 := List.count_eq_zero.mpr (fun member => Bool.noConfusion (quiet _ member))
  have uncompleted : events.countP (Event.completesFor t) = 0 := by
    refine List.countP_eq_zero.mpr (fun event member => ?_)
    have other := quiet event member
    cases event <;> simp_all [Event.queues,Event.completesFor]
  exact settles_of_log t s s' old new events grown (by omega)

theorem advanced_settles (m : Manager) (s s' : Shared) (task : Task) (choice : Choice) (new : List Task)
    (moved : Advanced m s task choice s' new) (running : s.cancelled = false) (t : Ticket) : Settles t s s' [task] new := by
  have accepted (d : Decision) := s.accept_events d (fun event => event.queues = true) (fun _ => rfl) (fun _ _ => rfl)
  cases moved with
  | fast d one =>
    obtain ⟨events,log,quiet⟩ := accepted d
    refine settles_of_queues t _ _ _ _ ⟨events++[.drained ((s.accept d).lane d.ns).pending],?_,?_⟩ rfl
    · rw [Shared.drainLocked_log,log,List.append_assoc]
    · simpa [Event.queues,or_imp,forall_and] using quiet
  | waiting d slow timed => exact settles_of_queues t _ _ _ _ (accepted d) rfl
  | arming d slow idle => exact settles_of_queues t _ _ _ _ (accepted d) rfl
  | flushed timer =>
    exact settles_of_log t _ _ _ _ [.drained _] (Shared.drainLocked_log s timer.ns) (by simp [Task.unsettled,Event.completesFor])
  | started i before u after =>
    refine settles_of_log t _ _ _ _ [.started u] rfl ?_
    by_cases same : u = t <;> simp [Task.unsettled,Phase.unsettled,Event.completesFor,same]
  | worked u phase choice s' new moved => exact worked_settles m s s' u phase choice new moved running t
  | timerStopped i before ns after =>
    exact settles_of_log t _ _ _ _ [] ((Shared.stopTimer_log s ns).trans (List.append_nil _).symm) (by simp [Task.unsettled])
  | _ =>
    first
    | exact settles_of_log t _ _ _ _ [] (List.append_nil _).symm (by simp [Task.unsettled])
    | exact settles_of_log t _ _ _ _ [_] rfl (by simp [Task.unsettled,Event.completesFor])

theorem arrived_settles (s s' : Shared) (event : Arrival) (new : List Task) (moved : Arrived s event s' new) (t : Ticket) :
    Settles t s s' [] new := by
  cases moved with
  | rejected d ended => exact settles_of_log t _ _ _ _ [.rejected d] rfl (by simp [Event.completesFor])
  | _ => exact settles_of_log t _ _ _ _ [] (List.append_nil _).symm (by simp [Task.unsettled])

theorem step_settling (m : Manager) (p q : Pool Shared Task) (act : Act Choice Arrival) (running : p.shared.cancelled = false)
    (inv : Settling p) (moved : (machine m).step p act = some q) : Settling q := by
  intro t
  have before := inv t
  obtain ⟨i,choice,front,task,back,new,-,-,was,advanced,becomes⟩ | ⟨event,new,-,arrived,becomes⟩ :=
    Machine.step_cases moved
  · have balance := advanced_settles m _ _ task choice new (advance_advanced m _ _ task choice new advanced) running t
    unfold Settles at balance
    rw [was,List.countP_append,← List.singleton_append,List.countP_append] at before
    rw [becomes,List.countP_append,List.countP_append]
    omega
  · have balance := arrived_settles _ _ event new (arrive_arrived _ _ event new arrived) t
    unfold Settles at balance
    rw [List.countP_nil] at balance
    rw [becomes,List.countP_append]
    omega

/-- The tasks that carry a decision of the namespace. -/
def Task.concerns (ns : String) : Task → Bool
  | .enqueue d => d.ns = ns
  | .flushSlow timer => timer.ns = ns
  | .queueDepth _ _ batch => batch.any (fun t => t.ns = ns)
  | .dispatch batch => batch.any (fun t => t.ns = ns)
  | .runOne t _ => t.ns = ns
  | _ => false

def Timer.concerns (ns : String) (timer : Timer) : Bool := timer.ns = ns

/-! A batch is of one lane. -/

def OneLane (p : Pool Shared Task) : Prop := ∀ task ∈ p.tasks, ∀ t ∈ task.batch, ∀ u ∈ task.batch, t.ns = u.ns

theorem Ordered.drained_placed {s : Shared} (inv : Ordered s) (ns : String) (t : Ticket) (member : t ∈ (s.drainLocked ns).2) :
    t.ns = ns := by
  rw [Shared.drainLocked_batch] at member
  exact inv.placed ns t member

theorem mem_without {α : Type} (before after : List α) (x other : α) (member : other ∈ before++after) :
    other ∈ before++x::after := by
  rcases List.mem_append.mp member with first | last
  · exact List.mem_append_left _ first
  · exact List.mem_append_right _ (List.mem_cons_of_mem _ last)

theorem advanced_oneLane (m : Manager) (s s' : Shared) (task : Task) (choice : Choice) (new : List Task)
    (moved : Advanced m s task choice s' new) (ordered : Ordered s)
    (one : ∀ t ∈ task.batch, ∀ u ∈ task.batch, t.ns = u.ns) :
    ∀ other ∈ new, ∀ t ∈ other.batch, ∀ u ∈ other.batch, t.ns = u.ns := by
  cases moved with
  | fast d fast =>
    intro other member t first u second
    cases List.mem_singleton.mp member
    have placed := (ordered.accept d).drained_placed d.ns
    exact (placed t first).trans (placed u second).symm
  | flushed timer =>
    intro other member t first u second
    cases List.mem_singleton.mp member
    have placed := ordered.drained_placed timer.ns
    exact (placed t first).trans (placed u second).symm
  | observed ns depth batch =>
    intro other member
    cases List.mem_singleton.mp member
    exact one
  | started i before t after =>
    have kept := mem_without before after t
    intro other member u first v second
    rcases List.mem_cons.mp member with rfl | worker
    · exact one u (kept u first) v (kept v second)
    · cases List.mem_singleton.mp worker
      cases first
  | worked t phase choice s' new moved =>
    intro other member u first
    cases moved <;> first | exact absurd member List.not_mem_nil | (cases List.mem_singleton.mp member; cases first)
  | _ => simp [Task.batch]

theorem step_oneLane (m : Manager) (p q : Pool Shared Task) (act : Act Choice Arrival) (ordered : Ordered p.shared)
    (inv : OneLane p) (moved : (machine m).step p act = some q) : OneLane q := by
  obtain ⟨s,tasks⟩ := p
  obtain ⟨s',others⟩ := q
  obtain ⟨i,choice,before,task,after,new,-,-,rfl,advanced,rfl⟩ | ⟨event,new,-,arrived,rfl⟩ := Machine.step_cases moved
  · have added := advanced_oneLane m s s' task choice new (advance_advanced m s s' task choice new advanced) ordered
      (inv task (by simp))
    intro other member
    rcases List.mem_append.mp member with first | rest
    · exact inv other (List.mem_append_left _ first)
    · rcases List.mem_append.mp rest with fresh | last
      · exact added other fresh
      · exact inv other (List.mem_append_right _ (List.mem_cons_of_mem _ last))
  · intro other member
    rcases List.mem_append.mp member with old | fresh
    · exact inv other old
    · have empty : other.batch = [] := by
        cases arrive_arrived s s' event new arrived <;> simp_all [Task.batch]
      simp [empty]

/-! The effort that is left to one lane. -/

def Event.acceptance : Event → List Ticket
  | .accepted t => [t]
  | _ => []

/-- The tickets that were given out. -/
def Shared.accepts (s : Shared) : List Ticket := s.log.flatMap Event.acceptance

/-- What the lane's tickets without a worker and its armed timers can still bring about. -/
def Shared.laneLoad (ns : String) (s : Shared) : Nat :=
  13 * (s.accepts.countP (fun t => t.ns = ns) - s.starts.countP (fun t => t.ns = ns)) + 4 * s.armed.countP (Timer.concerns ns)

/-- A bound on the steps that the lane can take when nothing more is handed to it. -/
def laneEffort (ns : String) (p : Pool Shared Task) : Nat :=
  totalEffort 0 (p.tasks.filter (Task.concerns ns)) + p.shared.laneLoad ns

theorem mem_accepts (s : Shared) (t : Ticket) : t ∈ s.accepts ↔ .accepted t ∈ s.log := by
  unfold Shared.accepts
  rw [List.mem_flatMap]
  constructor
  · rintro ⟨event,member,given⟩
    cases event with
    | accepted u =>
      cases List.mem_singleton.mp given
      exact member
    | _ => cases given
  · exact fun member => ⟨_,member,List.mem_singleton_self t⟩

/-- No more workers of a lane are started than tickets were given out for it. -/
theorem lane_starts_bound (p : Pool Shared Task) (inv : Queued p) (ns : String) :
    p.shared.starts.countP (fun t => t.ns = ns) ≤ p.shared.accepts.countP (fun t => t.ns = ns) := by
  have given (t : Ticket) (member : t ∈ p.shared.starts) : t ∈ p.shared.accepts :=
    (mem_accepts p.shared t).mpr (starts_accepted p inv.ordered inv.carried t member)
  have distinct := starts_nodup p inv.ordered inv.carried
  have kept : p.shared.starts.filter (fun t => t.ns = ns) ⊆ p.shared.accepts.filter (fun t => t.ns = ns) :=
    fun t member => List.mem_filter.mpr ⟨given t (List.mem_filter.mp member).1,(List.mem_filter.mp member).2⟩
  rw [List.countP_eq_length_filter,List.countP_eq_length_filter]
  exact (List.subperm_of_subset (distinct.filter _) kept).length_le

theorem laneLoad_quiet (ns : String) (s s' : Shared) (events : List Event) (log : s'.log = s.log++events)
    (quiet : ∀ event ∈ events, event.start = [] ∧ event.acceptance = []) (armed : s'.armed.Sublist s.armed) :
    s'.laneLoad ns ≤ s.laneLoad ns := by
  have starts : s'.starts = s.starts := starts_quiet s s' events log (fun event member => (quiet event member).1)
  have accepts : s'.accepts = s.accepts := by
    unfold Shared.accepts
    rw [log]
    exact flatMap_quiet Event.acceptance s.log events (fun event member => (quiet event member).2)
  have timers : s'.armed.countP (Timer.concerns ns) ≤ s.armed.countP (Timer.concerns ns) := armed.countP_le
  unfold Shared.laneLoad
  rw [starts,accepts]
  omega

theorem drainLocked_laneLoad (ns : String) (s : Shared) (place : String) :
    (s.drainLocked place).1.laneLoad ns ≤ s.laneLoad ns := by
  refine laneLoad_quiet ns s _ _ (Shared.drainLocked_log s place) (by simp [Event.start,Event.acceptance]) ?_
  rw [Shared.drainLocked_armed]
  exact List.filter_sublist

theorem accept_laneLoad (ns : String) (s : Shared) (d : Decision) :
    (s.accept d).laneLoad ns ≤ s.laneLoad ns + if d.ns = ns then 13 else 0 := by
  have replaced : ((s.replaced d).map (fun old => Event.superseded old (s.ticket d))).flatMap Event.acceptance = [] :=
    List.flatMap_eq_nil_iff.mpr (by simp [Event.acceptance])
  have accepts : (s.accept d).accepts = s.accepts++[s.ticket d] := by
    simp [Shared.accepts,accept_log,replaced,Event.acceptance]
  have armed : (s.accept d).armed = s.armed := rfl
  have own : [s.ticket d].countP (fun t => t.ns = ns) = if d.ns = ns then 1 else 0 := by
    by_cases here : d.ns = ns <;> simp [Shared.ticket,Ticket.ns,here]
  unfold Shared.laneLoad
  rw [accept_starts,accepts,armed,List.countP_append,own]
  split <;> omega

theorem afterFunc_laneLoad (ns : String) (s : Shared) (place : String) :
    (s.afterFunc place).laneLoad ns = s.laneLoad ns + if place = ns then 4 else 0 := by
  have starts : (s.afterFunc place).starts = s.starts := rfl
  have accepts : (s.afterFunc place).accepts = s.accepts := rfl
  have armed : (s.afterFunc place).armed = s.armed++[⟨s.nextTimer,place⟩] := rfl
  have own : [(⟨s.nextTimer,place⟩ : Timer)].countP (Timer.concerns ns) = if place = ns then 1 else 0 := by
    rw [List.countP_singleton]
    simp [Timer.concerns]
  unfold Shared.laneLoad
  rw [starts,accepts,armed,List.countP_append,own]
  split <;> omega

theorem fired_laneLoad (ns : String) (s : Shared) (before after : List Timer) (timer : Timer)
    (armed : s.armed = before++timer::after) :
    ({ s with armed := before++after } : Shared).laneLoad ns + (if timer.concerns ns then 4 else 0) = s.laneLoad ns := by
  change 13 * (s.accepts.countP _ - s.starts.countP _) + 4 * (before++after).countP _ + _ = _
  unfold Shared.laneLoad
  rw [armed,List.countP_append,List.countP_append,List.countP_cons]
  split <;> omega

theorem worked_laneLoad (ns : String) (m : Manager) (s s' : Shared) (t : Ticket) (phase : Phase) (choice : Choice)
    (new : List Task) (moved : Worked m s t phase choice s' new) : s'.laneLoad ns ≤ s.laneLoad ns := by
  have same := worked_queues m s s' t phase choice new moved
  obtain ⟨events,log,workers⟩ := worked_log m s s' t phase choice new moved
  refine laneLoad_quiet ns s s' events log (fun event member => ⟨start_of_worker event (workers event member),?_⟩)
    (same.armed ▸ List.Sublist.refl _)
  have worker := workers event member
  cases event <;> first | rfl | cases worker

theorem laneEffort_own (ns : String) (task : Task) :
    totalEffort 0 ([task].filter (Task.concerns ns)) = if task.concerns ns then task.effort 0 else 0 := by
  by_cases own : task.concerns ns = true <;> simp [own,totalEffort]

/-- A drained batch concerns its lane only. -/
theorem laneEffort_drained (ns place : String) (depth : Nat) (batch : List Ticket) (placed : ∀ t ∈ batch, t.ns = place) :
    totalEffort 0 ([Task.queueDepth place depth batch].filter (Task.concerns ns)) ≤ if place = ns then 2 else 0 := by
  rw [laneEffort_own]
  split
  next own =>
    obtain ⟨t,member,here⟩ := List.any_eq_true.mp own
    rw [if_pos ((placed t member).symm.trans (of_decide_eq_true here))]
    exact Nat.le_refl 2
  next => exact Nat.zero_le _

theorem worked_laneEffort (ns : String) (m : Manager) (s s' : Shared) (t : Ticket) (phase : Phase) (choice : Choice)
    (new : List Task) (moved : Worked m s t phase choice s' new) :
    totalEffort 0 (new.filter (Task.concerns ns)) + (if (Task.runOne t phase).concerns ns then 1 else 0) ≤
      totalEffort 0 ([.runOne t phase].filter (Task.concerns ns)) := by
  by_cases here : t.ns = ns <;> cases moved <;> simp [Task.concerns,totalEffort,Task.effort,Phase.effort,here]

/-- The ticket gets its worker: what it held back pays for the worker's steps. -/
theorem started_laneLoad (ns : String) (s s' : Shared) (t : Ticket) (log : s'.log = s.log++[.started t])
    (armed : s'.armed = s.armed)
    (bound : s'.starts.countP (fun u => u.ns = ns) ≤ s'.accepts.countP (fun u => u.ns = ns)) :
    s'.laneLoad ns + (if t.ns = ns then 13 else 0) = s.laneLoad ns := by
  have starts : s'.starts = s.starts++[t] := by simp [Shared.starts,log,Event.start]
  have accepts : s'.accepts = s.accepts := by simp [Shared.accepts,log,Event.acceptance]
  have own : [t].countP (fun u => u.ns = ns) = if t.ns = ns then 1 else 0 := by
    by_cases here : t.ns = ns <;> simp [here]
  rw [starts,accepts,List.countP_append,own] at bound
  unfold Shared.laneLoad
  rw [starts,accepts,armed,List.countP_append,own]
  by_cases here : t.ns = ns
  · rw [if_pos here] at bound ⊢
    rw [if_pos here]
    omega
  · rw [if_neg here,if_neg here]
    omega

/-- A step of the lane lowers what is left to it, and a step of another lane does not raise it. -/
theorem advanced_laneEffort (ns : String) (m : Manager) (s s' : Shared) (task : Task) (choice : Choice) (new : List Task)
    (moved : Advanced m s task choice s' new) (ordered : Ordered s)
    (one : ∀ t ∈ task.batch, ∀ u ∈ task.batch, t.ns = u.ns)
    (bound : s'.starts.countP (fun t => t.ns = ns) ≤ s'.accepts.countP (fun t => t.ns = ns)) :
    totalEffort 0 (new.filter (Task.concerns ns)) + s'.laneLoad ns + (if task.concerns ns then 1 else 0) ≤
      totalEffort 0 ([task].filter (Task.concerns ns)) + s.laneLoad ns := by
  cases moved with
  | fast d fast =>
    have drained := drainLocked_laneLoad ns (s.accept d) d.ns
    have accepted := accept_laneLoad ns s d
    have few := laneEffort_drained ns d.ns 0 _ ((ordered.accept d).drained_placed d.ns)
    rw [laneEffort_own ns (.enqueue d)]
    simp only [Task.concerns,Task.effort,decide_eq_true_eq]
    by_cases here : d.ns = ns
    · rw [if_pos here] at accepted few
      rw [if_pos here,if_pos here]
      omega
    · rw [if_neg here] at accepted few
      rw [if_neg here,if_neg here]
      omega
  | waiting d slow timed =>
    have accepted := accept_laneLoad ns s d
    by_cases here : d.ns = ns <;> simp [Task.concerns,totalEffort,Task.effort,here] at accepted ⊢ <;> omega
  | arming d slow idle =>
    have armed := afterFunc_laneLoad ns (s.accept d) d.ns
    have accepted := accept_laneLoad ns s d
    by_cases here : d.ns = ns <;> simp [Task.concerns,totalEffort,Task.effort,here] at accepted armed ⊢ <;> omega
  | flushed timer =>
    have drained := drainLocked_laneLoad ns s timer.ns
    have few := laneEffort_drained ns timer.ns 0 _ (ordered.drained_placed timer.ns)
    rw [laneEffort_own ns (.flushSlow timer)]
    simp only [Task.concerns,Task.effort,decide_eq_true_eq]
    by_cases here : timer.ns = ns
    · rw [if_pos here] at few
      rw [if_pos here,if_pos here]
      omega
    · rw [if_neg here] at few
      rw [if_neg here,if_neg here]
      omega
  | observed place depth batch =>
    have load := laneLoad_quiet ns s (s.emit [.queueDepth place depth]) _ rfl (by simp [Event.start,Event.acceptance])
      (List.Sublist.refl _)
    cases own : batch.any (fun t => t.ns = ns) <;> simp [Task.concerns,totalEffort,Task.effort,own] <;> omega
  | dispatched => simp [Task.concerns]
  | started i before t after =>
    have load := started_laneLoad ns s ({ s with wg := s.wg + 1 }.emit [.started t]) t rfl rfl bound
    rw [← List.singleton_append,List.filter_append,totalEffort_append,laneEffort_own,laneEffort_own,laneEffort_own]
    obtain rfl | other := eq_or_ne t.ns ns
    · have own : (Task.dispatch (before++t::after)).concerns t.ns = true := by simp [Task.concerns]
      have worker : (Task.runOne t .acquire).concerns t.ns = true := decide_eq_true rfl
      rw [if_pos rfl] at load
      rw [if_pos own,if_pos own,if_pos worker]
      simp only [Task.effort,Phase.effort]
      split <;> omega
    · have apart (batch : List Ticket) (kept : ∀ u ∈ batch, u ∈ before++t::after) :
          ¬ (Task.dispatch batch).concerns ns = true := by
        intro own
        obtain ⟨u,member,here⟩ := List.any_eq_true.mp own
        exact other ((one t (by simp [Task.batch]) u (kept u member)).trans (of_decide_eq_true here))
      have rest := apart (before++after) (fun u member => mem_without before after t u member)
      have worker : ¬ (Task.runOne t .acquire).concerns ns = true := fun own => other (of_decide_eq_true own)
      have whole := apart (before++t::after) (fun _ => id)
      rw [if_neg other] at load
      rw [if_neg rest,if_neg worker,if_neg whole,if_neg whole]
      omega
  | worked t phase choice s' new moved =>
    have load := worked_laneLoad ns m s s' t phase choice new moved
    have lower := worked_laneEffort ns m s s' t phase choice new moved
    omega
  | timerStopped i before place after =>
    have load := laneLoad_quiet ns s (s.stopTimer place) []
      ((Shared.stopTimer_log s place).trans (List.append_nil _).symm) (by simp)
      (by rw [Shared.stopTimer_armed]; exact List.filter_sublist)
    simpa [Task.concerns,totalEffort] using load
  | stopReturned drained =>
    have load := laneLoad_quiet ns s (s.emit [.stopReturned]) _ rfl (by simp [Event.start,Event.acceptance])
      (List.Sublist.refl _)
    simpa [Task.concerns,totalEffort] using load
  | _ => exact Nat.le_refl _

theorem arrived_laneEffort (ns : String) (s s' : Shared) (event : Arrival) (new : List Task)
    (moved : arrive s event = some (s',new)) (others : ∀ d, event = .call d → d.ns ≠ ns) (tasks : List Task) :
    totalEffort 0 (new.filter (Task.concerns ns)) + s'.laneLoad ns +
        (if inside (Task.concerns ns) (Timer.concerns ns) ⟨s,tasks⟩ (.outside event) then 1 else 0) ≤ s.laneLoad ns := by
  cases event with
  | call d =>
    cases arrive_arrived s s' _ new moved with
    | rejected d ended =>
      have load := laneLoad_quiet ns s (s.emit [.rejected d]) _ rfl (by simp [Event.start,Event.acceptance])
        (List.Sublist.refl _)
      simpa [inside,totalEffort] using load
    | admitted d running known =>
      have apart : ¬ (Task.enqueue d).concerns ns = true := fun own => others d rfl (of_decide_eq_true own)
      rw [List.filter_cons_of_neg apart,List.filter_nil]
      change 0 + s.laneLoad ns + 0 ≤ _
      omega
  | fire i =>
    cases picked : pickAt s.armed i with
    | none =>
      simp only [arrive,picked] at moved
      cases moved
    | some found =>
      obtain ⟨before,timer,after⟩ := found
      simp only [arrive,picked] at moved
      cases moved
      have load := fired_laneLoad ns s before after timer (pickAt_eq _ _ _ _ _ picked)
      have chosen : inside (Task.concerns ns) (Timer.concerns ns) ⟨s,tasks⟩ (.outside (.fire i)) = timer.concerns ns := by
        simp only [inside,picked,Option.all_some]
      have own : (Task.flushSlow timer).concerns ns = timer.concerns ns := rfl
      rw [chosen,laneEffort_own,own]
      simp only [Task.effort]
      split at load
      next here =>
        rw [if_pos here,if_pos here]
        omega
      next away =>
        rw [if_neg away,if_neg away]
        omega
  | stop =>
    cases moved
    exact Nat.le_of_eq (Nat.zero_add _)

theorem step_laneEffort (ns : String) (m : Manager) (p q : Pool Shared Task) (act : Act Choice Arrival) (inv : Queued p)
    (one : OneLane p) (others : ∀ d, act = .outside (.call d) → d.ns ≠ ns) (moved : (machine m).step p act = some q) :
    laneEffort ns q + (if inside (Task.concerns ns) (Timer.concerns ns) p act then 1 else 0) ≤ laneEffort ns p := by
  obtain ⟨ordered,carried⟩ := step_queue m p q act inv.ordered inv.carried moved
  have bound := lane_starts_bound q ⟨ordered,carried⟩ ns
  obtain ⟨s,tasks⟩ := p
  obtain ⟨s',left⟩ := q
  obtain ⟨i,choice,before,task,after,new,rfl,picked,rfl,advanced,rfl⟩ | ⟨event,new,rfl,arrived,rfl⟩ :=
    Machine.step_cases moved
  · have lower := advanced_laneEffort ns m s s' task choice new (advance_advanced m s s' task choice new advanced)
      inv.ordered (one task (by simp)) bound
    have chosen : inside (Task.concerns ns) (Timer.concerns ns) ⟨s,before++task::after⟩ (.task i choice) = task.concerns ns := by
      simp only [inside,picked,Option.all_some]
    unfold laneEffort
    rw [chosen,List.filter_append,List.filter_append,← List.singleton_append,List.filter_append,List.filter_append,
      totalEffort_append,totalEffort_append,totalEffort_append,totalEffort_append]
    dsimp only
    omega
  · have lower := arrived_laneEffort ns s s' event new arrived
      (fun d same => others d (congrArg Act.outside same)) tasks
    unfold laneEffort
    rw [List.filter_append,totalEffort_append]
    dsimp only
    omega

/-- What holds in every state that is reached without Stop. -/
structure Serving (m : Manager) (p : Pool Shared Task) : Prop where
  queued : Queued p
  calm : Calm p
  timed : Timed p
  settling : Settling p
  tokens : Tokens m p
  onelane : OneLane p

theorem step_serving (m : Manager) (p q : Pool Shared Task) (act : Act Choice Arrival) (inv : Serving m p)
    (quiet : act ≠ .outside .stop) (moved : (machine m).step p act = some q) : Serving m q := by
  obtain ⟨ordered,carried⟩ := step_queue m p q act inv.queued.ordered inv.queued.carried moved
  exact ⟨⟨ordered,carried⟩,step_calm m p q act inv.calm quiet moved,step_timed m p q act inv.calm inv.timed moved,
    step_settling m p q act inv.calm.running inv.settling moved,step_tokens m p q act inv.tokens moved,
    step_oneLane m p q act inv.queued.ordered inv.onelane moved⟩

theorem serving_initial (m : Manager) : Serving m initial :=
  ⟨⟨ordered_initial,fun _ => rfl⟩,⟨nofun,rfl⟩,⟨nofun,fun _ waits => absurd rfl waits,nofun⟩,fun _ => rfl,tokens_initial m,nofun⟩

/-- How an accepted decision can end. -/
inductive Delivered (s : Shared) (t : Ticket) : Prop
  | replaced (new : Ticket) (superseded : .superseded t new ∈ s.log) (accepted : .accepted new ∈ s.log)
      (key : t.key = new.key) (later : t.seq < new.seq) (unstarted : s.startedTimes t = 0)
  | patched (started : s.startedTimes t = 1) (completed : s.completedTimes t = 1)

/-- A lane in which nothing can go on is empty, and everything it accepted is delivered. -/
theorem lane_rests (m : Manager) (p : Pool Shared Task) (ns : String) (inv : Serving m p)
    (stuck : (machine m).Stuck (Inside (Task.concerns ns) (Timer.concerns ns)) p) :
    (p.shared.lane ns).pending = [] ∧ (∀ task ∈ p.tasks, task.concerns ns = false) ∧
      ∀ t, t.ns = ns → .accepted t ∈ p.shared.log → Delivered p.shared t := by
  have held (task : Task) (member : task ∈ p.tasks) (own : task.concerns ns = true) : Held m p.shared task :=
    stuck_held m _ _ p stuck task member own
  have workers (task : Task) (member : task ∈ p.tasks) : task.live ns = false := by
    refine no_worker_held m p ns inv.tokens (fun other inside live => held other inside ?_) task member
    cases other <;> first | exact live | cases live
  have nothing (task : Task) (member : task ∈ p.tasks) : task.concerns ns = false := by
    by_contra own
    rw [Bool.not_eq_false] at own
    have gone := workers task member
    cases held task member own with
    | full t capped full => exact Bool.noConfusion (own.symm.trans gone)
    | empty t capped none => exact Bool.noConfusion (own.symm.trans gone)
    | busy busy => cases own
  have empty : (p.shared.lane ns).pending = [] := by
    by_contra waits
    obtain ⟨timer,timed⟩ := Option.ne_none_iff_exists'.mp (inv.timed.timed ns waits)
    obtain ⟨own,armed | fired⟩ := inv.timed.alive ns timer timed
    · exact Bool.noConfusion ((decide_eq_true own).symm.trans (stuck_unarmed m _ _ p stuck timer armed))
    · exact Bool.noConfusion ((decide_eq_true own).symm.trans (nothing _ fired))
  refine ⟨empty,nothing,fun t own accepted => ?_⟩
  have unheld : heldTimes p.tasks t = 0 := by
    refine List.count_eq_zero.mpr (fun member => ?_)
    obtain ⟨task,inside,batch⟩ := List.mem_flatMap.mp member
    have away := nothing task inside
    cases task with
    | queueDepth name depth tickets => exact Bool.noConfusion (away.symm.trans (List.any_eq_true.mpr ⟨t,batch,decide_eq_true own⟩))
    | dispatch tickets => exact Bool.noConfusion (away.symm.trans (List.any_eq_true.mpr ⟨t,batch,decide_eq_true own⟩))
    | _ => cases batch
  have settled : p.tasks.countP (Task.unsettled t) = 0 := by
    refine List.countP_eq_zero.mpr (fun task member unsettled => ?_)
    have away := nothing task member
    cases task with
    | runOne u phase =>
      obtain ⟨same,-⟩ := Bool.and_eq_true_iff.mp unsettled
      obtain rfl : u = t := of_decide_eq_true same
      exact Bool.noConfusion (away.symm.trans (decide_eq_true own))
    | _ => cases unsettled
  cases fate_of_accepted p inv.queued.ordered inv.queued.carried t accepted with
  | pending waits =>
    unfold Shared.pendingTimes at waits
    rw [own,empty] at waits
    cases waits
  | superseded gone once undrained undispatched later =>
    obtain ⟨new,superseded,accepted,key,later⟩ := later
    exact .replaced new superseded accepted key later (by omega)
  | dispatched gone kept once handed latest =>
    have started : p.shared.startedTimes t = 1 := by omega
    have settling := inv.settling t
    exact .patched started (by omega)

/-- Whatever the other lanes do or leave undone, and however their steps are interleaved with
its own, a lane to which nothing new is handed takes a bounded number of steps; and where it
can take none, every decision it accepted was replaced by a later one for its key or patched
once. -/
theorem lane_delivers (cfg : Config) (sink : Bool) (acts : List (Act Choice Arrival))
    (quiet : ∀ act ∈ acts, act ≠ .outside .stop) (p : Pool Shared Task)
    (ran : (machine (new cfg sink)).run initial acts = some p) (ns : String) (more : List (Act Choice Arrival))
    (others : ∀ act ∈ more, act ≠ .outside .stop ∧ ∀ d, act = .outside (.call d) → d.ns ≠ ns)
    (q : Pool Shared Task) (goes : (machine (new cfg sink)).run p more = some q) :
    (machine (new cfg sink)).count (inside (Task.concerns ns) (Timer.concerns ns)) p more ≤ laneEffort ns p ∧
    ((machine (new cfg sink)).Stuck (Inside (Task.concerns ns) (Timer.concerns ns)) q →
      (q.shared.lane ns).pending = [] ∧ (∀ task ∈ q.tasks, task.concerns ns = false) ∧
      ∀ t, t.ns = ns → .accepted t ∈ q.shared.log → Delivered q.shared t) := by
  have inv : Serving (new cfg sink) p := Machine.run_invariant (Serving (new cfg sink))
    (fun p act q inv quiet moved => step_serving _ p q act inv quiet moved) initial p acts (serving_initial _)
    (Machine.obeys_of_forall (fun act => act ≠ .outside .stop) acts quiet initial) ran
  have later : Serving (new cfg sink) q := Machine.run_invariant (Serving (new cfg sink))
    (fun p act q inv quiet moved => step_serving _ p q act inv quiet moved) p q more inv
    (Machine.obeys_of_forall (fun act => act ≠ .outside .stop) more (fun act member => (others act member).1) p) goes
  have bound := Machine.run_counted (inside (Task.concerns ns) (Timer.concerns ns)) (Serving (new cfg sink)) (laneEffort ns)
    (fun p act q inv allowed moved => ⟨step_serving _ p q act inv allowed.1 moved,
      step_laneEffort ns _ p q act inv.queued inv.onelane allowed.2 moved⟩) p q more inv
    (Machine.obeys_of_forall (fun act => act ≠ .outside .stop ∧ ∀ d, act = .outside (.call d) → d.ns ≠ ns) more others p) goes
  exact ⟨by omega,lane_rests (new cfg sink) q ns later⟩

namespace Sample

def elsewhere (desired : Int) : Decision := { decision "api" desired with ns := "dev" }

/-- The Patch of one namespace hangs, and two decisions for one key of another are accepted. -/
def hanging : List (Act Choice Arrival) :=
  [.outside (.call (decision "web" 1)),.task 0 .go,.task 0 .go,.task 0 (.pick 0),.task 1 .go,.task 1 .go,.task 1 .go,
    .task 1 .go,.outside (.call (elsewhere 0)),.task 2 .go,.outside (.call (elsewhere 0)),.task 3 .go]

/-- The timer of the other namespace fires, and its worker runs to the end; in between the first
namespace accepts a decision and starts another worker. -/
def delivering : List (Act Choice Arrival) :=
  [.outside (.fire 0),.task 4 .go,.outside (.call (decision "api" 1)),.task 4 .go,.task 5 .go,.task 4 (.pick 0),.task 5 .go,
    .task 6 .go,.task 5 .go,.task 6 (.pick 0),.task 5 .go,.task 5 .go,.task 7 .go,.task 5 (.result .skipped),.task 5 .go,
    .task 5 .go,.task 7 .go,.task 5 .go,.task 5 .go,.task 5 .go]

end Sample

theorem lane_delivers_sample :
    ∃ p q, (machine (new {} false)).run initial Sample.hanging = some p ∧
      (machine (new {} false)).run p Sample.delivering = some q ∧ 14 ≤ laneEffort "dev" p ∧
      .runOne ⟨0,Sample.decision "web" 1⟩ .patching ∈ q.tasks ∧
      .runOne ⟨3,Sample.decision "api" 1⟩ (.reportIn 2) ∈ q.tasks ∧ Delivered q.shared ⟨1,Sample.elsewhere 0⟩ ∧
      Delivered q.shared ⟨2,Sample.elsewhere 0⟩ := by
  have counted : ((machine (new {} false)).run initial Sample.hanging).map (fun p =>
      (machine (new {} false)).count (inside (Task.concerns "dev") (Timer.concerns "dev")) p Sample.delivering) =
      some 14 := by decide +kernel
  have ends : ((machine (new {} false)).run initial (Sample.hanging++Sample.delivering)).map (fun q =>
      ((q.tasks,q.shared.armed),decide (.accepted ⟨1,Sample.elsewhere 0⟩ ∈ q.shared.log),
        decide (.accepted ⟨2,Sample.elsewhere 0⟩ ∈ q.shared.log))) =
      some (([.dispatch [],.runOne ⟨0,Sample.decision "web" 1⟩ .patching,.queueDepth "dev" 1 [],.queueDepth "dev" 1 [],
        .dispatch [],.dispatch [],.runOne ⟨3,Sample.decision "api" 1⟩ (.reportIn 2)],[]),true,true) := by decide +kernel
  obtain ⟨p,ran,counted⟩ := Option.map_eq_some_iff.mp counted
  rw [Machine.run_append _ _ _ _ ran] at ends
  obtain ⟨q,goes,found⟩ := Option.map_eq_some_iff.mp ends
  obtain ⟨found,accepted⟩ := Prod.mk.inj found
  obtain ⟨tasks,armed⟩ := Prod.mk.inj found
  obtain ⟨first,second⟩ := Prod.mk.inj accepted
  have others : ∀ act ∈ Sample.delivering, act ≠ .outside .stop ∧ ∀ d, act = .outside (.call d) → d.ns ≠ "dev" := by
    simp [Sample.delivering,Sample.decision]
  obtain ⟨bound,rests⟩ := lane_delivers {} false Sample.hanging (by decide) p ran "dev" Sample.delivering others q goes
  rw [counted] at bound
  obtain ⟨-,-,delivered⟩ := rests (stuck_of_absent _ _ _ q (by rw [tasks]; decide) (by rw [armed]; rfl))
  exact ⟨p,q,ran,goes,bound,by rw [tasks]; decide,by rw [tasks]; decide,delivered _ rfl (of_decide_eq_true first),
    delivered _ rfl (of_decide_eq_true second)⟩

end Ifaas.Flusher
