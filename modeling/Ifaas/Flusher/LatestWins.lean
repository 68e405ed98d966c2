import Ifaas.Flusher.Coalescing

/-! Which decision has the last word. The workers of one key are not ordered, so the register
of a Knative Service follows the decisions only as long as no Patch overtakes an older
decision that is still on its way. -/
namespace Ifaas.Flusher
open Library

def Phase.unwritten : Phase → Bool
  | .acquire => true
  | .increment => true
  | .reportIn _ => true
  | .call => true
  | .patching => true
  | _ => false

/-- The ticket of a worker that has not written. -/
def Task.writer : Task → List Ticket
  | .runOne t phase => if phase.unwritten then [t] else []
  | _ => []

def writingTimes (tasks : List Task) (t : Ticket) : Nat := (tasks.flatMap Task.writer).count t

def Shared.patchedTimes (s : Shared) (t : Ticket) : Nat := s.log.count (.patched t .success)

/-- The workers a step starts and the writes it makes balance. -/
def WritesOn (t : Ticket) (s s' : Shared) (old new : List Task) : Prop :=
  s'.startedTimes t + (writingTimes old t + s.patchedTimes t) =
    s.startedTimes t + (writingTimes new t + s'.patchedTimes t)

theorem writesOn_of_log (t : Ticket) (s s' : Shared) (old new : List Task) (events : List Event)
    (log : s'.log = s.log++events) (moved : events.count (.started t) + writingTimes old t =
      writingTimes new t + events.count (.patched t .success)) : WritesOn t s s' old new := by
  unfold WritesOn Shared.startedTimes Shared.patchedTimes
  rw [log,List.count_append,List.count_append]
  omega

theorem worked_writesOn (m : Manager) (s s' : Shared) (u : Ticket) (phase : Phase) (choice : Choice) (new : List Task)
    (moved : Worked m s u phase choice s' new) (running : s.cancelled = false)
    (succeeds : ∀ r, choice = .result r → r = .success) (t : Ticket) : WritesOn t s s' [.runOne u phase] new := by
  cases moved with
  | ctxDone capped ended =>
    rw [running] at ended
    cases ended
  | unwritten r fault => exact absurd (succeeds r rfl) fault
  | written =>
    refine writesOn_of_log t s _ _ _ [.patched u .success] rfl ?_
    simp [writingTimes,Task.writer,Phase.unwritten,List.count_cons]
  | _ =>
    first
    | exact writesOn_of_log t s _ _ _ [_] rfl (by simp [writingTimes,Task.writer,Phase.unwritten])
    | exact writesOn_of_log t s _ _ _ [] (List.append_nil _).symm (by simp [writingTimes,Task.writer,Phase.unwritten])

theorem advanced_writesOn (m : Manager) (s s' : Shared) (task : Task) (choice : Choice) (new : List Task)
    (moved : Advanced m s task choice s' new) (running : s.cancelled = false)
    (succeeds : ∀ r, choice = .result r → r = .success) (t : Ticket) : WritesOn t s s' [task] new := by
  have unrelated (d : Decision) (event : Event) (other : ∀ old new, event ≠ .superseded old new) :
      ((s.replaced d).map (fun old => Event.superseded old (s.ticket d))).count event = 0 :=
    List.count_eq_zero.mpr (by simpa using fun old _ same => other _ _ same.symm)
  have accepting (d : Decision) (rest : List Event) (quiet : rest.count (.started t) = 0 ∧ rest.count (.patched t .success) = 0)
      (fresh : List Task) (idle : writingTimes fresh t = 0) (s' : Shared) (log : s'.log = (s.accept d).log++rest) :
      WritesOn t s s' [.enqueue d] fresh := by
    rw [accept_log,List.append_assoc,List.append_assoc] at log
    refine writesOn_of_log t s s' _ _ _ log ?_
    have none : writingTimes [.enqueue d] t = 0 := rfl
    simp [unrelated,quiet.1,quiet.2,idle,none]
  cases moved with
  | fast d one => exact accepting d [.drained _] (by simp) _ rfl _ (Shared.drainLocked_log _ _)
  | waiting d slow timed => exact accepting d [] (by simp) _ rfl _ (List.append_nil _).symm
  | arming d slow idle => exact accepting d [] (by simp) _ rfl _ (List.append_nil _).symm
  | flushed timer =>
    exact writesOn_of_log t s _ _ _ _ (Shared.drainLocked_log s timer.ns) (by simp [writingTimes,Task.writer])
  | started i before u after =>
    refine writesOn_of_log t s _ _ _ [.started u] rfl ?_
    simp [writingTimes,Task.writer,Phase.unwritten,List.count_cons]
  | worked u phase choice s' new moved => exact worked_writesOn m s s' u phase choice new moved running succeeds t
  | timerStopped i before ns after =>
    refine writesOn_of_log t s _ _ _ [] ((Shared.stopTimer_log s ns).trans (List.append_nil _).symm) ?_
    simp [writingTimes,Task.writer]
  | _ =>
    first
    | exact writesOn_of_log t s _ _ _ [_] rfl (by simp [writingTimes,Task.writer])
    | exact writesOn_of_log t s _ _ _ [] (List.append_nil _).symm (by simp [writingTimes,Task.writer])

theorem arrived_writesOn (s s' : Shared) (event : Arrival) (new : List Task) (moved : Arrived s event s' new)
    (t : Ticket) : WritesOn t s s' [] new := by
  cases moved <;>
    first
    | exact writesOn_of_log t s _ _ _ [_] rfl (by simp [writingTimes,Task.writer])
    | exact writesOn_of_log t s _ _ _ [] (List.append_nil _).symm (by simp [writingTimes,Task.writer])

/-- Every started worker has written, or will. -/
def Working (p : Pool Shared Task) : Prop :=
  ∀ t, p.shared.startedTimes t = writingTimes p.tasks t + p.shared.patchedTimes t

theorem WritesOn.working {t : Ticket} {p q : Pool Shared Task} {before old new after : List Task}
    (moved : WritesOn t p.shared q.shared old new) (was : p.tasks = before++(old++after))
    (becomes : q.tasks = before++(new++after))
    (inv : p.shared.startedTimes t = writingTimes p.tasks t + p.shared.patchedTimes t) :
    q.shared.startedTimes t = writingTimes q.tasks t + q.shared.patchedTimes t := by
  have apart (tasks : List Task) : writingTimes (before++(tasks++after)) t =
      writingTimes before t + (writingTimes tasks t + writingTimes after t) := by
    simp [writingTimes]
  rw [was,apart] at inv
  rw [becomes,apart]
  unfold WritesOn at moved
  omega

/-- The Patches of the run all succeed, and nobody calls Stop. -/
def Succeeding (act : Act Choice Arrival) : Prop :=
  act ≠ .outside .stop ∧ ∀ i r, act = .task i (.result r) → r = .success

theorem step_working (m : Manager) (p q : Pool Shared Task) (act : Act Choice Arrival) (calm : Calm p) (inv : Working p)
    (fine : Succeeding act) (moved : (machine m).step p act = some q) : Working q := by
  intro t
  obtain ⟨i,choice,before,task,after,new,rfl,-,was,advanced,becomes⟩ | ⟨event,new,rfl,arrived,becomes⟩ :=
    Machine.step_cases moved
  · have succeeds (r : PatchResult) (result : choice = .result r) : r = .success := fine.2 i r (congrArg _ result)
    have balance := advanced_writesOn m _ _ task choice new (advance_advanced m _ _ task choice new advanced)
      calm.running succeeds t
    exact balance.working was becomes (inv t)
  · have balance := arrived_writesOn _ _ event new (arrive_arrived _ _ event new arrived) t
    exact balance.working (List.append_nil _).symm (by rw [becomes,List.append_nil]) (inv t)

/-! The history only grows, and only `accept` gives out tickets. -/

theorem advanced_log (m : Manager) (s s' : Shared) (task : Task) (choice : Choice) (new : List Task)
    (moved : Advanced m s task choice s' new) :
    ∃ events, s'.log = s.log++events ∧ ∀ u, .accepted u ∈ events → u.seq = s.nextTicket := by
  have accepting (d : Decision) (rest : List Event) (none : ∀ u, .accepted u ∉ rest) (s' : Shared)
      (log : s'.log = (s.accept d).log++rest) :
      ∃ events, s'.log = s.log++events ∧ ∀ u, .accepted u ∈ events → u.seq = s.nextTicket := by
    rw [accept_log,List.append_assoc,List.append_assoc] at log
    refine ⟨_,log,fun u member => ?_⟩
    have same : u = s.ticket d := by simpa [none u] using member
    rw [same]
    rfl
  cases moved with
  | fast d one => exact accepting d [.drained _] (by simp) _ (Shared.drainLocked_log _ _)
  | waiting d slow timed => exact accepting d [] (by simp) _ (List.append_nil _).symm
  | arming d slow idle => exact accepting d [] (by simp) _ (List.append_nil _).symm
  | flushed timer => exact ⟨_,Shared.drainLocked_log s timer.ns,by simp⟩
  | worked u phase choice s' new moved =>
    obtain ⟨events,log,workers⟩ := worked_log m s s' u phase choice new moved
    exact ⟨events,log,fun u member => Bool.noConfusion (workers _ member)⟩
  | timerStopped i before ns after =>
    exact ⟨[],(Shared.stopTimer_log s ns).trans (List.append_nil _).symm,by simp⟩
  | _ => first | exact ⟨[_],rfl,by simp⟩ | exact ⟨[],(List.append_nil _).symm,by simp⟩

theorem step_log (m : Manager) (p q : Pool Shared Task) (act : Act Choice Arrival)
    (moved : (machine m).step p act = some q) :
    ∃ events, q.shared.log = p.shared.log++events ∧ ∀ u, .accepted u ∈ events → u.seq = p.shared.nextTicket := by
  obtain ⟨s,tasks⟩ := p
  obtain ⟨s',others⟩ := q
  obtain ⟨i,choice,before,task,after,new,-,-,-,advanced,-⟩ | ⟨event,new,-,arrived,-⟩ := Machine.step_cases moved
  · exact advanced_log m s s' task choice new (advance_advanced m s s' task choice new advanced)
  · cases arrive_arrived s s' event new arrived <;>
      first | exact ⟨[_],rfl,by simp⟩ | exact ⟨[],(List.append_nil _).symm,by simp⟩

/-- A step of a run of successes writes one decision to its register, or none to any. -/
theorem step_register (m : Manager) (p q : Pool Shared Task) (act : Act Choice Arrival) (fine : Succeeding act)
    (moved : (machine m).step p act = some q) :
    (∃ i choice t before after, act = .task i choice ∧ pickAt p.tasks i = some (before,.runOne t .patching,after) ∧
      q.shared.log = p.shared.log++[.patched t .success] ∧
      q.shared.register = Function.update p.shared.register t.key (some t.decision.desiredMinScale)) ∨
    q.shared.register = p.shared.register ∧
      ∀ w, .patched w .success ∈ q.shared.log ↔ .patched w .success ∈ p.shared.log := by
  obtain ⟨s,tasks⟩ := p
  obtain ⟨s',others⟩ := q
  obtain ⟨i,choice,before,task,after,new,rfl,picked,-,advanced,-⟩ | ⟨event,new,-,arrived,-⟩ := Machine.step_cases moved
  · cases advance_advanced m s s' task choice new advanced with
    | worked t phase choice s' new moved =>
      cases moved with
      | written => exact Or.inl ⟨i,_,t,before,after,rfl,picked,rfl,rfl⟩
      | unwritten r fault => exact absurd (fine.2 i r rfl) fault
      | _ => exact Or.inr ⟨rfl,fun w => by simp [Shared.emit,Shared.setLane]⟩
    | fast d one =>
      exact Or.inr ⟨Shared.drainLocked_register (s.accept d) d.ns,fun w => by simp [Shared.drainLocked_log,accept_log]⟩
    | flushed timer =>
      exact Or.inr ⟨Shared.drainLocked_register s timer.ns,fun w => by simp [Shared.drainLocked_log]⟩
    | timerStopped i before ns after =>
      exact Or.inr ⟨Shared.stopTimer_register s ns,fun w => by simp [Shared.stopTimer_log]⟩
    | _ => exact Or.inr ⟨rfl,fun w => by simp [Shared.emit,Shared.setLane,Shared.afterFunc,accept_log]⟩
  · cases arrive_arrived s s' event new arrived <;> exact Or.inr ⟨rfl,fun w => by simp [Shared.emit]⟩

/-! Older decisions that are still on their way. -/

def OnItsWay (p : Pool Shared Task) (t : Ticket) : Prop :=
  t ∈ (p.shared.lane t.ns).pending ∨ t ∈ p.tasks.flatMap Task.batch ∨ t ∈ p.tasks.flatMap Task.writer

theorem onItsWay_iff (p : Pool Shared Task) (t : Ticket) :
    OnItsWay p t ↔ p.shared.pendingTimes t + heldTimes p.tasks t + writingTimes p.tasks t ≠ 0 := by
  unfold OnItsWay
  rw [← List.count_pos_iff,← List.count_pos_iff,← List.count_pos_iff]
  change 0 < p.shared.pendingTimes t ∨ 0 < heldTimes p.tasks t ∨ 0 < writingTimes p.tasks t ↔ _
  omega

/-- The older decisions for the same Knative Service that are still on their way. -/
def overtaken (p : Pool Shared Task) (t : Ticket) : List Ticket :=
  ((p.shared.lane t.ns).pending++(p.tasks.flatMap Task.batch++p.tasks.flatMap Task.writer)).filter (fun u =>
    u.key = t.key ∧ u.seq < t.seq)

theorem mem_overtaken (p : Pool Shared Task) (t u : Ticket) (way : OnItsWay p u) (same : u.key = t.key)
    (older : u.seq < t.seq) : u ∈ overtaken p t := by
  refine List.mem_filter.mpr ⟨?_,decide_eq_true ⟨same,older⟩⟩
  have ns : u.ns = t.ns := congrArg NamespacedName.ns same
  unfold OnItsWay at way
  rw [ns] at way
  simpa using way

/-- A Patch is executed only when no older decision for the same Knative Service with another
value is still on its way. -/
def inTurn (p : Pool Shared Task) : Act Choice Arrival → Bool
  | .task i _ =>
    match pickAt p.tasks i with
    | some (_,.runOne t .patching,_) =>
      (overtaken p t).all (fun u => u.decision.desiredMinScale = t.decision.desiredMinScale)
    | _ => true
  | .outside _ => true

def InTurn (p : Pool Shared Task) (act : Act Choice Arrival) : Prop := inTurn p act = true

theorem inTurn_older (p : Pool Shared Task) (i : Nat) (choice : Choice) (t : Ticket) (before after : List Task)
    (turn : InTurn p (.task i choice)) (picked : pickAt p.tasks i = some (before,.runOne t .patching,after)) (u : Ticket)
    (way : OnItsWay p u) (same : u.key = t.key) (older : u.seq < t.seq) :
    u.decision.desiredMinScale = t.decision.desiredMinScale := by
  unfold InTurn inTurn at turn
  simp only [picked] at turn
  exact of_decide_eq_true (List.all_eq_true.mp turn u (mem_overtaken p t u way same older))

/-- The books of the flusher as long as nobody calls Stop and every Patch succeeds. -/
structure Books (p : Pool Shared Task) : Prop where
  ordered : Ordered p.shared
  carried : Carried p
  calm : Calm p
  working : Working p

theorem step_books (m : Manager) (p q : Pool Shared Task) (act : Act Choice Arrival) (inv : Books p)
    (fine : Succeeding act) (moved : (machine m).step p act = some q) : Books q := by
  obtain ⟨ordered,carried⟩ := step_queue m p q act inv.ordered inv.carried moved
  exact ⟨ordered,carried,step_calm m p q act inv.calm fine.1 moved,step_working m p q act inv.calm inv.working fine moved⟩

namespace Books
variable {p : Pool Shared Task} (books : Books p)
include books

/-- A decision is accepted once, and is then in one place. -/
theorem total (t : Ticket) : p.shared.acceptedTimes t = p.shared.pendingTimes t + heldTimes p.tasks t +
    writingTimes p.tasks t + p.shared.supersededTimes t + p.shared.patchedTimes t := by
  have balance := books.ordered.balance t
  have carried := books.carried t
  have working := books.working t
  omega

theorem accepted_iff (t : Ticket) : .accepted t ∈ p.shared.log ↔ p.shared.acceptedTimes t = 1 := by
  have once := books.ordered.once t
  rw [← List.count_pos_iff]
  change 0 < p.shared.acceptedTimes t ↔ _
  omega

theorem onItsWay_accepted (t : Ticket) (way : OnItsWay p t) : .accepted t ∈ p.shared.log := by
  have total := books.total t
  have once := books.ordered.once t
  have some := (onItsWay_iff p t).mp way
  exact (books.accepted_iff t).mpr (by omega)

theorem patched_accepted (t : Ticket) (patched : .patched t .success ∈ p.shared.log) : .accepted t ∈ p.shared.log := by
  have total := books.total t
  have once := books.ordered.once t
  have some : 0 < p.shared.patchedTimes t := List.count_pos_iff.mpr patched
  exact (books.accepted_iff t).mpr (by omega)

end Books

/-- Who is on the way after a step was on the way before it, or has the newest ticket. -/
theorem onItsWay_before (m : Manager) (p q : Pool Shared Task) (act : Act Choice Arrival) (before : Books p)
    (after : Books q) (moved : (machine m).step p act = some q) (t : Ticket) (way : OnItsWay q t) :
    OnItsWay p t ∨ t.seq = p.shared.nextTicket := by
  obtain ⟨events,log,fresh⟩ := step_log m p q act moved
  have accepted := after.onItsWay_accepted t way
  rw [log,List.mem_append] at accepted
  rcases accepted with earlier | now
  · refine Or.inl ((onItsWay_iff p t).mpr ?_)
    have once := (before.accepted_iff t).mp earlier
    have total := before.total t
    have final := after.total t
    have still := (onItsWay_iff q t).mp way
    have bound := after.ordered.once t
    have superseded : p.shared.supersededTimes t ≤ q.shared.supersededTimes t := by
      simp [Shared.supersededTimes,log]
    have patched : p.shared.patchedTimes t ≤ q.shared.patchedTimes t := by
      simp [Shared.patchedTimes,log]
    omega
  · exact Or.inr (fresh t now)

structure InOrder (p : Pool Shared Task) : Prop where
  agree : ∀ u w, OnItsWay p u → .patched w .success ∈ p.shared.log → u.key = w.key → u.seq < w.seq →
    u.decision.desiredMinScale = w.decision.desiredMinScale
  register : ∀ w, .patched w .success ∈ p.shared.log →
    (∀ v, .patched v .success ∈ p.shared.log → v.key = w.key → v.seq ≤ w.seq) →
    p.shared.register w.key = some w.decision.desiredMinScale

theorem step_inOrder (m : Manager) (p q : Pool Shared Task) (act : Act Choice Arrival) (before : Books p)
    (after : Books q) (fine : Succeeding act) (turn : InTurn p act) (inv : InOrder p)
    (moved : (machine m).step p act = some q) : InOrder q := by
  have earlier := onItsWay_before m p q act before after moved
  have old (w : Ticket) (accepted : .accepted w ∈ p.shared.log) (u : Ticket) (newest : u.seq = p.shared.nextTicket) :
      ¬ u.seq < w.seq := by
    have bound := before.ordered.fresh w accepted
    omega
  obtain ⟨i,choice,t,front,back,rfl,picked,log,register⟩ | ⟨register,patched⟩ := step_register m p q act fine moved
  · have way : OnItsWay p t := by
      refine Or.inr (Or.inr (List.mem_flatMap.mpr ⟨.runOne t .patching,?_,List.mem_cons_self⟩))
      rw [pickAt_eq _ _ _ _ _ picked]
      exact List.mem_append_right _ List.mem_cons_self
    have known := before.onItsWay_accepted t way
    have written (w : Ticket) : .patched w .success ∈ q.shared.log ↔ .patched w .success ∈ p.shared.log ∨ w = t := by
      simp [log]
    constructor
    · intro u w later patched same older
      rcases earlier u later with was | newest
      · rcases (written w).mp patched with before | rfl
        · exact inv.agree u w was before same older
        · exact inTurn_older p i choice w front back turn picked u was same older
      · rcases (written w).mp patched with done | rfl
        · exact absurd older (old w (before.patched_accepted w done) u newest)
        · exact absurd older (old w known u newest)
    · intro w patched last
      rw [register]
      by_cases here : w.key = t.key
      · rw [here,Function.update_self]
        rcases (written w).mp patched with done | rfl
        · have bound : t.seq ≤ w.seq := last t ((written t).mpr (Or.inr rfl)) here.symm
          rcases Nat.lt_or_eq_of_le bound with older | same
          · rw [inv.agree t w way done here.symm older]
          · rw [before.ordered.unique t w known (before.patched_accepted w done) same]
        · rfl
      · rw [Function.update_of_ne here]
        rcases (written w).mp patched with done | rfl
        · exact inv.register w done (fun v held => last v ((written v).mpr (Or.inl held)))
        · exact absurd rfl here
  · constructor
    · intro u w later done same older
      have done := (patched w).mp done
      rcases earlier u later with was | newest
      · exact inv.agree u w was done same older
      · exact absurd older (old w (before.patched_accepted w done) u newest)
    · intro w done last
      rw [register]
      exact inv.register w ((patched w).mp done) (fun v held => last v ((patched v).mpr held))

/-! A lane at rest. -/

def Task.busy (ns : String) : Task → Bool
  | .flushSlow timer => timer.ns = ns
  | .queueDepth _ _ batch => batch.any (fun t => t.ns = ns)
  | .dispatch batch => batch.any (fun t => t.ns = ns)
  | .runOne t _ => t.ns = ns
  | _ => false

structure Quiescent (p : Pool Shared Task) (ns : String) : Prop where
  pending : (p.shared.lane ns).pending = []
  armed : ∀ timer ∈ p.shared.armed, timer.ns ≠ ns
  tasks : ∀ task ∈ p.tasks, task.busy ns = false

theorem Quiescent.arrived {p : Pool Shared Task} {ns : String} (rest : Quiescent p ns) (t : Ticket) (here : t.ns = ns) :
    ¬ OnItsWay p t := by
  subst here
  rintro (waits | held | writes)
  · rw [rest.pending] at waits
    cases waits
  · obtain ⟨task,member,inside⟩ := List.mem_flatMap.mp held
    have idle := rest.tasks task member
    cases task <;> simp only [Task.batch,List.not_mem_nil] at inside
    all_goals
      have busy := List.any_eq_false.mp idle t inside
      exact busy (decide_eq_true rfl)
  · obtain ⟨task,member,inside⟩ := List.mem_flatMap.mp writes
    have idle := rest.tasks task member
    cases task <;> simp only [Task.writer,List.not_mem_nil] at inside
    split at inside
    · cases List.mem_singleton.mp inside
      simp [Task.busy] at idle
    · cases inside

theorem Books.lastWritten {p : Pool Shared Task} (books : Books p) (t : Ticket) (ended : ¬ OnItsWay p t)
    (last : Latest p.shared.log t) : .patched t .success ∈ p.shared.log := by
  have once := (books.accepted_iff t).mp last.1
  have total := books.total t
  have gone : p.shared.pendingTimes t + heldTimes p.tasks t + writingTimes p.tasks t = 0 :=
    not_not.mp (fun some => ended ((onItsWay_iff p t).mpr some))
  have kept : p.shared.supersededTimes t = 0 := by
    by_contra replaced
    obtain ⟨new,-,accepted,same,later⟩ := books.ordered.superseded t replaced
    exact absurd (last.2 new accepted same.symm) (Nat.not_le_of_lt later)
  exact List.count_pos_iff.mp (by change 0 < p.shared.patchedTimes t; omega)

/-- When no Patch overtakes an older decision for its Knative Service, a lane at rest has left
the last accepted decision of every key in the register. -/
theorem latest_wins (cfg : Config) (sink : Bool) (acts : List (Act Choice Arrival))
    (quiet : ∀ act ∈ acts, act ≠ .outside .stop) (succeed : ∀ i r, .task i (.result r) ∈ acts → r = .success)
    (turn : (machine (new cfg sink)).Obeys InTurn initial acts) (p : Pool Shared Task)
    (ran : (machine (new cfg sink)).run initial acts = some p) (ns : String) (rest : Quiescent p ns) (t : Ticket)
    (here : t.ns = ns) (last : Latest p.shared.log t) :
    p.shared.register t.key = some t.decision.desiredMinScale := by
  have fine (act : Act Choice Arrival) (member : act ∈ acts) : Succeeding act :=
    ⟨quiet act member,fun i r same => succeed i r (same ▸ member)⟩
  have start : Books initial ∧ InOrder initial :=
    ⟨⟨ordered_initial,fun _ => rfl,⟨nofun,rfl⟩,fun _ => rfl⟩,⟨nofun,nofun⟩⟩
  have obeys := Machine.obeys_and (fun _ act => Succeeding act) InTurn initial acts
    (Machine.obeys_of_forall Succeeding acts fine initial) turn
  obtain ⟨books,order⟩ := Machine.run_invariant (fun p => Books p ∧ InOrder p)
    (fun p act q inv allowed moved =>
      have next := step_books _ p q act inv.1 allowed.1 moved
      ⟨next,step_inOrder _ p q act inv.1 next allowed.1 allowed.2 inv.2 moved⟩) initial p acts start obeys ran
  have written := books.lastWritten t (rest.arrived t here) last
  exact order.register t written (fun v held same => last.2 v (books.patched_accepted v held) same)

namespace Sample

/-- A decision is taken through the fast lane or by its timer, and its worker runs to the end. -/
def worker (i : Nat) : List (Act Choice Arrival) :=
  [.task i .go,.task i .go,.task i .go,.task i .go,.task i (.result .success),.task i .go,.task i .go,.task i .go,
    .task i .go,.task i .go]

def cooling : List (Act Choice Arrival) :=
  [.outside (.call (decision "web" 0)),.task 0 .go,.task 0 .go,.task 0 .go,.outside (.fire 0),.task 0 .go,.task 0 .go,
    .task 0 (.pick 0),.task 0 .go]

def warming (i : Nat) : List (Act Choice Arrival) :=
  [.outside (.call (decision "web" 1)),.task i .go,.task i .go,.task i (.pick 0),.task i .go]

/-- The warm-up comes after the scale-down was written. -/
def inOrder : List (Act Choice Arrival) := cooling++worker 0++warming 0++worker 0

/-- The warm-up is written while the worker of the scale-down has not got to its Patch. -/
def overtaking : List (Act Choice Arrival) := cooling++warming 1++worker 1++worker 0

end Sample

/-- What is looked at where a sample run ends. -/
def Sample.result (p : Pool Shared Task) : List Ticket × List Timer × List Task × List Ticket :=
  ((p.shared.lane "prod").pending,p.shared.armed,p.tasks,p.shared.log.filterMap (fun event =>
    match event with
    | .accepted t => some t
    | _ => none))

theorem sample_rests (p : Pool Shared Task) (accepted : List Ticket) (t : Ticket)
    (ends : Sample.result p = ([],[],[],accepted)) (member : t ∈ accepted) (last : ∀ u ∈ accepted, u.seq ≤ t.seq) :
    Quiescent p "prod" ∧ Latest p.shared.log t := by
  simp only [Sample.result,Prod.mk.injEq] at ends
  obtain ⟨pending,armed,tasks,log⟩ := ends
  have inside (u : Ticket) : .accepted u ∈ p.shared.log ↔ u ∈ accepted := by
    rw [← log,List.mem_filterMap]
    constructor
    · exact fun held => ⟨_,held,rfl⟩
    · rintro ⟨event,held,same⟩
      split at same
      · cases same
        exact held
      · cases same
  exact ⟨⟨pending,by simp [armed],by simp [tasks]⟩,(inside t).mpr member,fun u held _ => last u ((inside u).mp held)⟩

theorem latest_wins_sample :
    ∃ p, (machine (new {} false)).run initial Sample.inOrder = some p ∧
      p.shared.register ⟨"prod","web"⟩ = some 1 := by
  have ends : ((machine (new {} false)).run initial Sample.inOrder).map Sample.result =
      some ([],[],[],[⟨0,Sample.decision "web" 0⟩,⟨1,Sample.decision "web" 1⟩]) := by decide +kernel
  obtain ⟨p,ran,found⟩ := Option.map_eq_some_iff.mp ends
  obtain ⟨rest,last⟩ := sample_rests p _ ⟨1,Sample.decision "web" 1⟩ found (by decide) (by decide)
  have succeed (i : Nat) (r : PatchResult) (member : .task i (.result r) ∈ Sample.inOrder) : r = .success := by
    simp [Sample.inOrder,Sample.cooling,Sample.warming,Sample.worker] at member
    exact member.2
  have turn : (machine (new {} false)).Obeys InTurn initial Sample.inOrder :=
    Machine.obeys_sound inTurn (fun _ _ => id) _ _ (by decide +kernel)
  exact ⟨p,ran,latest_wins {} false Sample.inOrder (by decide) succeed turn p ran "prod" rest
    ⟨1,Sample.decision "web" 1⟩ rfl last⟩

/-- A warm-up that overtakes the scale-down before it is undone by it: the lane is at rest, the
last accepted decision is one, the register says zero. -/
theorem latest_overtaken :
    ∃ p t, (machine (new {} false)).run initial Sample.overtaking = some p ∧
      (∀ act ∈ Sample.overtaking, act ≠ .outside .stop) ∧
      (∀ i r, .task i (.result r) ∈ Sample.overtaking → r = .success) ∧ Quiescent p t.ns ∧ Latest p.shared.log t ∧
      t.decision.desiredMinScale = 1 ∧ p.shared.register t.key = some 0 := by
  have ends : ((machine (new {} false)).run initial Sample.overtaking).map Sample.result =
      some ([],[],[],[⟨0,Sample.decision "web" 0⟩,⟨1,Sample.decision "web" 1⟩]) := by decide +kernel
  have register : ((machine (new {} false)).run initial Sample.overtaking).map (fun p =>
      p.shared.register ⟨"prod","web"⟩) = some (some 0) := by decide +kernel
  obtain ⟨p,ran,found⟩ := Option.map_eq_some_iff.mp ends
  obtain ⟨rest,last⟩ := sample_rests p _ ⟨1,Sample.decision "web" 1⟩ found (by decide) (by decide)
  rw [ran] at register
  refine ⟨p,⟨1,Sample.decision "web" 1⟩,ran,by decide,fun i r member => ?_,rest,last,rfl,Option.some.inj register⟩
  simp [Sample.overtaking,Sample.cooling,Sample.warming,Sample.worker] at member
  rcases member with ⟨-,same⟩ | ⟨-,same⟩ <;> exact same

end Ifaas.Flusher
