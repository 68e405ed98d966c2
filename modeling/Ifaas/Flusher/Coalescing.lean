import Ifaas.Flusher
import Ifaas.Library.History

/-! What becomes of an accepted decision. It waits in its lane, a later decision of its key
takes its place, or one drain hands it on; every ticket is counted at each of these places, and
a step moves it from one to the next. -/
namespace Ifaas.Flusher
open Library

/-- The tickets a drain handed on and whose workers are not started. -/
def Task.batch : Task → List Ticket
  | .queueDepth _ _ batch => batch
  | .dispatch batch => batch
  | _ => []

def Event.batch : Event → List Ticket
  | .drained batch => batch
  | _ => []

def Event.supersedes (t : Ticket) : Event → Bool
  | .superseded old _ => old = t
  | _ => false

/-- The events of the pending map. -/
def Event.queued : Event → Bool
  | .accepted _ => true
  | .superseded _ _ => true
  | .drained _ => true
  | _ => false

def Shared.acceptedTimes (s : Shared) (t : Ticket) : Nat := s.log.count (.accepted t)

def Shared.pendingTimes (s : Shared) (t : Ticket) : Nat := (s.lane t.ns).pending.count t

def Shared.supersededTimes (s : Shared) (t : Ticket) : Nat := s.log.countP (Event.supersedes t)

def Shared.drainedTimes (s : Shared) (t : Ticket) : Nat := (s.log.flatMap Event.batch).count t

def Shared.startedTimes (s : Shared) (t : Ticket) : Nat := s.log.count (.started t)

def heldTimes (tasks : List Task) (t : Ticket) : Nat := (tasks.flatMap Task.batch).count t

/-- The last decision accepted for its key so far. -/
def Latest (log : List Event) (t : Ticket) : Prop :=
  .accepted t ∈ log ∧ ∀ u, .accepted u ∈ log → u.key = t.key → u.seq ≤ t.seq

/-- What holds when a decision is replaced, and when a lane is drained. -/
def Sound (past : List Event) : Event → Prop
  | .superseded old new => .accepted old ∈ past ∧ .accepted new ∈ past ∧ old.key = new.key ∧ old.seq < new.seq
  | .drained batch => ∀ t ∈ batch, Latest past t
  | _ => True

structure Ordered (s : Shared) : Prop where
  placed : ∀ ns, ∀ t ∈ (s.lane ns).pending, t.ns = ns
  latest : ∀ ns, ∀ t ∈ (s.lane ns).pending, Latest s.log t
  fresh : ∀ t, .accepted t ∈ s.log → t.seq < s.nextTicket
  unique : ∀ t u, .accepted t ∈ s.log → .accepted u ∈ s.log → t.seq = u.seq → t = u
  once : ∀ t, s.acceptedTimes t ≤ 1
  sound : Recorded Sound s.log
  balance : ∀ t, s.acceptedTimes t = s.pendingTimes t + s.supersededTimes t + s.drainedTimes t

/-! A step that leaves the pending maps alone. -/

structure Still (s s' : Shared) : Prop where
  pending : ∀ ns, (s'.lane ns).pending = (s.lane ns).pending
  nextTicket : s'.nextTicket = s.nextTicket
  log : ∃ events, s'.log = s.log++events ∧ ∀ event ∈ events, event.queued = false

theorem unqueued_accepted (events : List Event) (quiet : ∀ event ∈ events, event.queued = false) (t : Ticket) :
    .accepted t ∉ events :=
  fun member => Bool.noConfusion (quiet _ member)

theorem unqueued_superseded (events : List Event) (quiet : ∀ event ∈ events, event.queued = false) (t : Ticket) :
    events.countP (Event.supersedes t) = 0 := by
  refine List.countP_eq_zero.mpr (fun event member => ?_)
  have other := quiet event member
  cases event <;> simp_all [Event.queued,Event.supersedes]

theorem unqueued_batch (events : List Event) (quiet : ∀ event ∈ events, event.queued = false) :
    events.flatMap Event.batch = [] := by
  refine List.flatMap_eq_nil_iff.mpr (fun event member => ?_)
  have other := quiet event member
  cases event <;> simp_all [Event.queued,Event.batch]

theorem Still.ordered {s s' : Shared} (still : Still s s') (inv : Ordered s) : Ordered s' := by
  obtain ⟨pending,next,events,log,quiet⟩ := still
  have unaccepted := unqueued_accepted events quiet
  have accepted (t : Ticket) : .accepted t ∈ s'.log ↔ .accepted t ∈ s.log := by
    rw [log,List.mem_append,or_iff_left (unaccepted t)]
  have times (t : Ticket) : s'.acceptedTimes t = s.acceptedTimes t := by
    simp [Shared.acceptedTimes,log,List.count_eq_zero.mpr (unaccepted t)]
  constructor
  · intro ns t member
    rw [pending] at member
    exact inv.placed ns t member
  · intro ns t member
    rw [pending] at member
    obtain ⟨first,second⟩ := inv.latest ns t member
    exact ⟨(accepted t).mpr first,fun u held => second u ((accepted u).mp held)⟩
  · intro t held
    rw [next]
    exact inv.fresh t ((accepted t).mp held)
  · exact fun t u held other => inv.unique t u ((accepted t).mp held) ((accepted u).mp other)
  · intro t
    rw [times]
    exact inv.once t
  · rw [log]
    refine recorded_append Sound s.log events inv.sound (fun first event member => ?_)
    have other := quiet event member
    cases event <;> trivial
  · intro t
    have superseded : s'.supersededTimes t = s.supersededTimes t := by
      simp [Shared.supersededTimes,log,unqueued_superseded events quiet t]
    have drained : s'.drainedTimes t = s.drainedTimes t := by
      simp [Shared.drainedTimes,log,unqueued_batch events quiet]
    have waiting : s'.pendingTimes t = s.pendingTimes t := by simp [Shared.pendingTimes,pending]
    rw [times,superseded,drained,waiting]
    exact inv.balance t

/-! The lane's critical sections. -/

theorem Ordered.drainLocked {s : Shared} (inv : Ordered s) (ns : String) : Ordered (s.drainLocked ns).1 := by
  have log := Shared.drainLocked_log s ns
  have lane := Shared.drainLocked_lane s ns
  have next : (s.drainLocked ns).1.nextTicket = s.nextTicket := by
    have same := congrArg Shared.nextTicket (Shared.drainLocked_rest s ns)
    dsimp only at same
    exact same
  have accepted (t : Ticket) : .accepted t ∈ (s.drainLocked ns).1.log ↔ .accepted t ∈ s.log := by
    simp [log]
  have pending (name : String) : ((s.drainLocked ns).1.lane name).pending =
      if name = ns then [] else (s.lane name).pending := by
    rw [lane]
    by_cases here : name = ns
    · simp [here]
    · simp [here]
  have inside (name : String) (t : Ticket) (member : t ∈ ((s.drainLocked ns).1.lane name).pending) :
      t ∈ (s.lane name).pending := by
    rw [pending] at member
    split at member
    · cases member
    · exact member
  constructor
  · exact fun name t member => inv.placed name t (inside name t member)
  · intro name t member
    obtain ⟨first,second⟩ := inv.latest name t (inside name t member)
    exact ⟨(accepted t).mpr first,fun u held => second u ((accepted u).mp held)⟩
  · intro t held
    rw [next]
    exact inv.fresh t ((accepted t).mp held)
  · exact fun t u held other => inv.unique t u ((accepted t).mp held) ((accepted u).mp other)
  · intro t
    have same := inv.once t
    simpa [Shared.acceptedTimes,log] using same
  · rw [log]
    exact recorded_snoc Sound s.log _ inv.sound (fun t member => inv.latest ns t member)
  · intro t
    have balance := inv.balance t
    have times : (s.drainLocked ns).1.acceptedTimes t = s.acceptedTimes t := by simp [Shared.acceptedTimes,log]
    have superseded : (s.drainLocked ns).1.supersededTimes t = s.supersededTimes t := by
      simp [Shared.supersededTimes,log,Event.supersedes]
    have drained : (s.drainLocked ns).1.drainedTimes t = s.drainedTimes t + (s.lane ns).pending.count t := by
      simp [Shared.drainedTimes,log,Event.batch]
    have waiting : (s.drainLocked ns).1.pendingTimes t + (s.lane ns).pending.count t = s.pendingTimes t := by
      unfold Shared.pendingTimes
      rw [pending]
      by_cases here : t.ns = ns
      · rw [if_pos here,here]
        simp
      · have away : t ∉ (s.lane ns).pending := fun member => here (inv.placed ns t member)
        rw [if_neg here,List.count_eq_zero.mpr away,Nat.add_zero]
    omega

/-- The ticket a decision gets, and the ones it replaces. -/
def Shared.ticket (s : Shared) (d : Decision) : Ticket := ⟨s.nextTicket,d⟩

def Shared.replaced (s : Shared) (d : Decision) : List Ticket :=
  (s.lane d.ns).pending.filter (fun old => old.key = (s.ticket d).key)

theorem accept_log (s : Shared) (d : Decision) : (s.accept d).log =
    (s.log++[.accepted (s.ticket d)])++(s.replaced d).map (fun old => .superseded old (s.ticket d)) :=
  List.append_cons _ _ _

theorem accept_pending (s : Shared) (d : Decision) (ns : String) : ((s.accept d).lane ns).pending =
    if ns = d.ns then (s.lane d.ns).pending.filter (fun old => old.key ≠ (s.ticket d).key)++[s.ticket d]
    else (s.lane ns).pending := by
  change (Function.update s.lane d.ns _ ns).pending = _
  by_cases here : ns = d.ns
  · subst here
    rw [if_pos rfl,Function.update_self]
    rfl
  · rw [if_neg here,Function.update_of_ne here]

theorem accept_accepted (s : Shared) (d : Decision) (t : Ticket) :
    .accepted t ∈ (s.accept d).log ↔ .accepted t ∈ s.log ∨ t = s.ticket d := by
  simp [accept_log]

/-- What waits after a decision is accepted: the decision, and what waited under other keys. -/
theorem Ordered.accept_waits {s : Shared} (inv : Ordered s) (d : Decision) (ns : String) (t : Ticket)
    (member : t ∈ ((s.accept d).lane ns).pending) :
    ns = d.ns ∧ t = s.ticket d ∨ t ∈ (s.lane ns).pending ∧ t.key ≠ (s.ticket d).key := by
  rw [accept_pending] at member
  split at member
  next here =>
    subst here
    rcases List.mem_append.mp member with kept | added
    · obtain ⟨held,other⟩ := List.mem_filter.mp kept
      exact Or.inr ⟨held,of_decide_eq_true other⟩
    · exact Or.inl ⟨rfl,List.mem_singleton.mp added⟩
  next away =>
    refine Or.inr ⟨member,fun same => away ?_⟩
    rw [← inv.placed ns t member]
    exact congrArg NamespacedName.ns same

theorem accept_acceptedTimes (s : Shared) (d : Decision) (t : Ticket) :
    (s.accept d).acceptedTimes t = s.acceptedTimes t + [s.ticket d].count t := by
  have unrelated : ((s.replaced d).map (fun old => Event.superseded old (s.ticket d))).count (.accepted t) = 0 :=
    List.count_eq_zero.mpr (by simp)
  unfold Shared.acceptedTimes
  rw [accept_log,List.count_append,List.count_append,unrelated]
  simp [List.count_singleton]

theorem accept_drainedTimes (s : Shared) (d : Decision) (t : Ticket) : (s.accept d).drainedTimes t = s.drainedTimes t := by
  have nothing : ((s.replaced d).map (fun old => Event.superseded old (s.ticket d))).flatMap Event.batch = [] :=
    List.flatMap_eq_nil_iff.mpr (by simp [Event.batch])
  simp [Shared.drainedTimes,accept_log,nothing,Event.batch]

theorem Ordered.accept_balance {s : Shared} (inv : Ordered s) (d : Decision) (t : Ticket) :
    (s.accept d).acceptedTimes t =
      (s.accept d).pendingTimes t + (s.accept d).supersededTimes t + (s.accept d).drainedTimes t := by
  have balance := inv.balance t
  have times := accept_acceptedTimes s d t
  have superseded : (s.accept d).supersededTimes t = s.supersededTimes t + (s.replaced d).count t := by
    unfold Shared.supersededTimes
    rw [accept_log,List.countP_append,List.countP_append,List.countP_map]
    rfl
  have drained := accept_drainedTimes s d t
  have waiting : (s.accept d).pendingTimes t + (s.replaced d).count t = s.pendingTimes t + [s.ticket d].count t := by
    unfold Shared.pendingTimes
    rw [accept_pending]
    split
    next here =>
      have parts := List.countP_eq_countP_filter_add (s.lane d.ns).pending (· == t) (fun old => old.key = (s.ticket d).key)
      change (s.lane d.ns).pending.count t = (s.replaced d).count t + _ at parts
      rw [here,List.count_append,parts]
      simp only [ne_eq,decide_not,List.count]
      omega
    next away =>
      have kept : t ∉ s.replaced d := by
        intro member
        exact away (inv.placed d.ns t (List.mem_filter.mp member).1)
      have other : t ∉ [s.ticket d] := by
        intro member
        exact away (congrArg Ticket.ns (List.mem_singleton.mp member))
      rw [List.count_eq_zero.mpr kept,List.count_eq_zero.mpr other]
  omega

theorem Ordered.accept {s : Shared} (inv : Ordered s) (d : Decision) : Ordered (s.accept d) := by
  have accepted := accept_accepted s d
  have old (t : Ticket) (held : .accepted t ∈ s.log) : t.seq < (s.ticket d).seq := inv.fresh t held
  constructor
  · intro ns t member
    rcases inv.accept_waits d ns t member with ⟨rfl,rfl⟩ | ⟨held,-⟩
    · rfl
    · exact inv.placed ns t held
  · intro ns t member
    rcases inv.accept_waits d ns t member with ⟨-,rfl⟩ | ⟨held,other⟩
    · refine ⟨(accepted _).mpr (Or.inr rfl),fun u held _ => ?_⟩
      rcases (accepted u).mp held with earlier | rfl
      · exact Nat.le_of_lt (old u earlier)
      · exact Nat.le_refl _
    · obtain ⟨first,second⟩ := inv.latest ns t held
      refine ⟨(accepted _).mpr (Or.inl first),fun u held same => ?_⟩
      rcases (accepted u).mp held with earlier | rfl
      · exact second u earlier same
      · exact absurd same.symm other
  · intro t held
    change t.seq < s.nextTicket + 1
    rcases (accepted t).mp held with earlier | rfl
    · exact Nat.lt_succ_of_lt (inv.fresh t earlier)
    · exact Nat.lt_succ_self _
  · intro t u held other same
    rcases (accepted t).mp held with first | rfl <;> rcases (accepted u).mp other with second | rfl
    · exact inv.unique t u first second same
    · exact absurd same (Nat.ne_of_lt (old t first))
    · exact absurd same.symm (Nat.ne_of_lt (old u second))
    · rfl
  · intro t
    rw [accept_acceptedTimes]
    by_cases added : t = s.ticket d
    · have unseen : .accepted t ∉ s.log := fun held => Nat.lt_irrefl _ (added ▸ old t held)
      have none : s.acceptedTimes t = 0 := List.count_eq_zero.mpr unseen
      rw [none,added]
      simp
    · have other : t ∉ [s.ticket d] := fun member => added (List.mem_singleton.mp member)
      rw [List.count_eq_zero.mpr other]
      exact inv.once t
  · rw [accept_log]
    refine recorded_append Sound _ _ (recorded_snoc Sound _ _ inv.sound trivial) (fun first event member => ?_)
    obtain ⟨replaced,among,rfl⟩ := List.mem_map.mp member
    obtain ⟨held,same⟩ := List.mem_filter.mp among
    have known := (inv.latest d.ns replaced held).1
    exact ⟨by simp [known],by simp,of_decide_eq_true same,old replaced known⟩
  · exact inv.accept_balance d

/-! Whole steps. -/

theorem still_of_lane (s t : Shared) (ns : String) (lane : Lane) (updated : t.lane = Function.update s.lane ns lane)
    (pending : lane.pending = (s.lane ns).pending) (next : t.nextTicket = s.nextTicket) (log : t.log = s.log) :
    Still s t := by
  refine ⟨fun name => ?_,next,[],by rw [log,List.append_nil],by simp⟩
  rw [updated]
  by_cases here : name = ns
  · subst here
    rw [Function.update_self,pending]
  · rw [Function.update_of_ne here]

theorem still_of_log (s t : Shared) (events : List Event) (lane : t.lane = s.lane) (next : t.nextTicket = s.nextTicket)
    (log : t.log = s.log++events) (quiet : ∀ event ∈ events, event.queued = false) : Still s t :=
  ⟨fun _ => by rw [lane],next,events,log,quiet⟩

theorem unqueued_of_worker (event : Event) (worker : event.ofWorker = true) : event.queued = false := by
  cases event <;> first | rfl | cases worker

theorem worked_still (m : Manager) (s s' : Shared) (t : Ticket) (phase : Phase) (choice : Choice) (new : List Task)
    (moved : Worked m s t phase choice s' new) : Still s s' := by
  have same := worked_queues m s s' t phase choice new moved
  obtain ⟨events,log,workers⟩ := worked_log m s s' t phase choice new moved
  exact ⟨fun ns => (same.lane ns).1,same.nextTicket,events,log,fun event member =>
    unqueued_of_worker event (workers event member)⟩

theorem advanced_ordered (m : Manager) (s s' : Shared) (task : Task) (choice : Choice) (new : List Task)
    (moved : Advanced m s task choice s' new) (inv : Ordered s) : Ordered s' := by
  cases moved with
  | fast d one => exact (inv.accept d).drainLocked d.ns
  | waiting d slow timed => exact inv.accept d
  | arming d slow idle =>
    refine Still.ordered ?_ (inv.accept d)
    exact still_of_lane _ _ d.ns _ rfl rfl rfl rfl
  | flushed timer => exact inv.drainLocked timer.ns
  | worked t phase choice s' new moved => exact (worked_still m s s' t phase choice new moved).ordered inv
  | observed ns depth batch =>
    refine Still.ordered ?_ inv
    exact still_of_log s _ [.queueDepth ns depth] rfl rfl rfl (by simp [Event.queued])
  | started i before t after =>
    refine Still.ordered ?_ inv
    exact still_of_log s _ [.started t] rfl rfl rfl (by simp [Event.queued])
  | stopReturned drained =>
    refine Still.ordered ?_ inv
    exact still_of_log s _ [.stopReturned] rfl rfl rfl (by simp [Event.queued])
  | timerStopped i before ns after =>
    refine Still.ordered ?_ inv
    exact still_of_lane s _ ns _ (Shared.stopTimer_lane s ns) rfl (Shared.stopTimer_nextTicket s ns) (Shared.stopTimer_log s ns)
  | _ =>
    refine Still.ordered ?_ inv
    exact still_of_log s _ [] rfl rfl (List.append_nil _).symm (by simp)

theorem arrived_ordered (s s' : Shared) (event : Arrival) (new : List Task) (moved : Arrived s event s' new)
    (inv : Ordered s) : Ordered s' := by
  cases moved with
  | rejected d ended =>
    refine Still.ordered ?_ inv
    exact still_of_log s _ [.rejected d] rfl rfl rfl (by simp [Event.queued])
  | _ =>
    refine Still.ordered ?_ inv
    exact still_of_log s _ [] rfl rfl (List.append_nil _).symm (by simp)

/-! From a drain to the workers. -/

/-- A step hands on the tickets it holds, and those it drains, to its tasks or to workers. -/
def HandsOn (t : Ticket) (s s' : Shared) (old new : List Task) : Prop :=
  s'.drainedTimes t + (heldTimes old t + s.startedTimes t) = s.drainedTimes t + (heldTimes new t + s'.startedTimes t)

theorem drainLocked_handsOn (s : Shared) (ns : String) (task : Task) (empty : task.batch = []) (depth : Nat) (t : Ticket) :
    HandsOn t s (s.drainLocked ns).1 [task] [.queueDepth ns depth (s.drainLocked ns).2] := by
  have drained : (s.drainLocked ns).1.drainedTimes t = s.drainedTimes t + (s.lane ns).pending.count t := by
    simp [Shared.drainedTimes,Shared.drainLocked_log,Event.batch]
  have started : (s.drainLocked ns).1.startedTimes t = s.startedTimes t := by
    simp [Shared.startedTimes,Shared.drainLocked_log]
  have held : heldTimes [task] t = 0 := by simp [heldTimes,empty]
  have handed : heldTimes [.queueDepth ns depth (s.drainLocked ns).2] t = (s.lane ns).pending.count t := by
    simp [heldTimes,Task.batch,Shared.drainLocked_batch]
  unfold HandsOn
  omega

theorem handsOn_of_log (t : Ticket) (s s' : Shared) (old new : List Task) (events : List Event)
    (log : s'.log = s.log++events) (quiet : ∀ event ∈ events, event.queued = false)
    (started : heldTimes old t = heldTimes new t + events.count (.started t)) : HandsOn t s s' old new := by
  have nothing := unqueued_batch events quiet
  unfold HandsOn Shared.drainedTimes Shared.startedTimes
  rw [log,List.flatMap_append,List.count_append,List.count_append,nothing,List.count_nil]
  omega

theorem accept_startedTimes (s : Shared) (d : Decision) (t : Ticket) : (s.accept d).startedTimes t = s.startedTimes t := by
  have nothing : ((s.replaced d).map (fun old => Event.superseded old (s.ticket d))).count (.started t) = 0 :=
    List.count_eq_zero.mpr (by simp)
  simp [Shared.startedTimes,accept_log,nothing]

theorem advanced_handsOn (m : Manager) (s s' : Shared) (task : Task) (choice : Choice) (new : List Task)
    (moved : Advanced m s task choice s' new) (t : Ticket) : HandsOn t s s' [task] new := by
  cases moved with
  | fast d one =>
    have drained := drainLocked_handsOn (s.accept d) d.ns (.enqueue d) rfl 0 t
    unfold HandsOn at drained ⊢
    rwa [accept_drainedTimes,accept_startedTimes] at drained
  | waiting d slow timed =>
    unfold HandsOn
    rw [accept_drainedTimes,accept_startedTimes]
    rfl
  | arming d slow idle =>
    have drained : ((s.accept d).afterFunc d.ns).drainedTimes t = s.drainedTimes t := accept_drainedTimes s d t
    have started : ((s.accept d).afterFunc d.ns).startedTimes t = s.startedTimes t := accept_startedTimes s d t
    unfold HandsOn
    rw [drained,started]
    rfl
  | flushed timer => exact drainLocked_handsOn s timer.ns (.flushSlow timer) rfl 0 t
  | observed ns depth batch =>
    refine handsOn_of_log t s _ _ _ [.queueDepth ns depth] rfl (by simp [Event.queued]) ?_
    simp [heldTimes,Task.batch]
  | started i before u after =>
    refine handsOn_of_log t s _ _ _ [.started u] rfl (by simp [Event.queued]) ?_
    simp [heldTimes,Task.batch,List.count_cons]
    omega
  | stopReturned drained =>
    refine handsOn_of_log t s _ _ _ [.stopReturned] rfl (by simp [Event.queued]) ?_
    simp [heldTimes,Task.batch]
  | timerStopped i before ns after =>
    refine handsOn_of_log t s _ _ _ [] ((Shared.stopTimer_log s ns).trans (List.append_nil _).symm) (by simp) ?_
    simp [heldTimes,Task.batch]
  | worked u phase choice s' new moved =>
    obtain ⟨events,log,workers⟩ := worked_log m s s' u phase choice new moved
    have unstarted : .started t ∉ events := fun member => Bool.noConfusion (workers _ member)
    refine handsOn_of_log t s s' _ new events log (fun event member => unqueued_of_worker event (workers event member)) ?_
    rw [List.count_eq_zero.mpr unstarted]
    rcases worked_tasks m s s' u phase choice new moved with rfl | ⟨next,rfl⟩ <;> rfl
  | _ =>
    refine handsOn_of_log t s _ _ _ [] (List.append_nil _).symm (by simp) ?_
    simp [heldTimes,Task.batch]

theorem arrived_handsOn (s s' : Shared) (event : Arrival) (new : List Task) (moved : Arrived s event s' new)
    (t : Ticket) : HandsOn t s s' [] new := by
  cases moved with
  | rejected d ended =>
    refine handsOn_of_log t s _ _ _ [.rejected d] rfl (by simp [Event.queued]) ?_
    simp [heldTimes]
  | _ =>
    refine handsOn_of_log t s _ _ _ [] (List.append_nil _).symm (by simp) ?_
    simp [heldTimes,Task.batch]

/-- Every drained ticket is with a drain that has not started its worker, or started. -/
def Carried (p : Pool Shared Task) : Prop :=
  ∀ t, p.shared.drainedTimes t = heldTimes p.tasks t + p.shared.startedTimes t

theorem HandsOn.carried {t : Ticket} {p q : Pool Shared Task} {before old new after : List Task}
    (handed : HandsOn t p.shared q.shared old new) (was : p.tasks = before++(old++after))
    (becomes : q.tasks = before++(new++after))
    (inv : p.shared.drainedTimes t = heldTimes p.tasks t + p.shared.startedTimes t) :
    q.shared.drainedTimes t = heldTimes q.tasks t + q.shared.startedTimes t := by
  have apart (tasks : List Task) : heldTimes (before++(tasks++after)) t =
      heldTimes before t + (heldTimes tasks t + heldTimes after t) := by
    simp [heldTimes]
  rw [was,apart] at inv
  rw [becomes,apart]
  unfold HandsOn at handed
  omega

theorem step_queue (m : Manager) (p q : Pool Shared Task) (act : Act Choice Arrival) (ordered : Ordered p.shared)
    (carried : Carried p) (moved : (machine m).step p act = some q) : Ordered q.shared ∧ Carried q := by
  obtain ⟨i,choice,before,task,after,new,-,-,was,advanced,becomes⟩ | ⟨event,new,-,arrived,becomes⟩ :=
    Machine.step_cases moved
  · have inverted := advance_advanced m _ _ task choice new advanced
    refine ⟨advanced_ordered m _ _ task choice new inverted ordered,fun t => ?_⟩
    exact (advanced_handsOn m _ _ task choice new inverted t).carried was becomes (carried t)
  · have inverted := arrive_arrived _ _ event new arrived
    refine ⟨arrived_ordered _ _ event new inverted ordered,fun t => ?_⟩
    exact (arrived_handsOn _ _ event new inverted t).carried (List.append_nil _).symm
      (by rw [becomes,List.append_nil]) (carried t)

theorem ordered_initial : Ordered initial.shared where
  placed := nofun
  latest := nofun
  fresh := nofun
  unique := nofun
  once := fun _ => Nat.zero_le 1
  sound := recorded_nil Sound
  balance := fun _ => rfl

/-! Without a Stop every lane that waits has a timer that will drain it. -/

def Task.stopping : Task → Bool
  | .stop => true
  | .stopTimers _ => true
  | .cancel => true
  | .wait => true
  | _ => false

structure Calm (p : Pool Shared Task) : Prop where
  tasks : ∀ task ∈ p.tasks, task.stopping = false
  running : p.shared.cancelled = false

theorem advanced_calm (m : Manager) (s s' : Shared) (task : Task) (choice : Choice) (new : List Task) (moved : Advanced m s task choice s' new)
    (calm : task.stopping = false) : s'.cancelled = s.cancelled ∧ ∀ other ∈ new, other.stopping = false := by
  have drained (t : Shared) (ns : String) : (t.drainLocked ns).1.cancelled = t.cancelled :=
    (congrArg Shared.cancelled (Shared.drainLocked_rest t ns) :)
  cases moved with
  | fast d one => exact ⟨drained _ _,by simp [Task.stopping]⟩
  | flushed timer => exact ⟨drained _ _,by simp [Task.stopping]⟩
  | worked t phase choice s' new moved =>
    refine ⟨(worked_queues m s s' t phase choice new moved).cancelled,?_⟩
    rcases worked_tasks m s s' t phase choice new moved with rfl | ⟨next,rfl⟩ <;> simp [Task.stopping]
  | _ => first | exact Bool.noConfusion calm | exact ⟨rfl,by simp [Task.stopping]⟩

theorem arrived_calm (s s' : Shared) (event : Arrival) (new : List Task) (moved : Arrived s event s' new)
    (quiet : event ≠ .stop) : s'.cancelled = s.cancelled ∧ ∀ other ∈ new, other.stopping = false := by
  cases moved with
  | stop => exact absurd rfl quiet
  | _ => exact ⟨rfl,by simp [Task.stopping]⟩

theorem step_calm (m : Manager) (p q : Pool Shared Task) (act : Act Choice Arrival) (inv : Calm p)
    (quiet : act ≠ .outside .stop) (moved : (machine m).step p act = some q) : Calm q := by
  obtain ⟨i,choice,before,task,after,new,-,-,was,advanced,becomes⟩ | ⟨event,new,rfl,arrived,becomes⟩ :=
    Machine.step_cases moved
  · have here : task.stopping = false := inv.tasks task (by rw [was]; simp)
    obtain ⟨cancelled,fresh⟩ := advanced_calm m _ _ task choice new (advance_advanced m _ _ task choice new advanced) here
    refine ⟨fun other member => ?_,cancelled.trans inv.running⟩
    rw [becomes,List.mem_append,List.mem_append] at member
    rcases member with kept | added | kept
    · exact inv.tasks other (by rw [was]; simp [kept])
    · exact fresh other added
    · exact inv.tasks other (by rw [was]; simp [kept])
  · have other : event ≠ .stop := fun same => quiet (congrArg Act.outside same)
    obtain ⟨cancelled,fresh⟩ := arrived_calm _ _ event new (arrive_arrived _ _ event new arrived) other
    refine ⟨fun other member => ?_,cancelled.trans inv.running⟩
    rw [becomes,List.mem_append] at member
    rcases member with kept | added
    · exact inv.tasks other kept
    · exact fresh other added

/-- A timer that will still drain its lane. -/
def Alive (p : Pool Shared Task) (timer : Timer) : Prop := timer ∈ p.shared.armed ∨ .flushSlow timer ∈ p.tasks

structure Timed (p : Pool Shared Task) : Prop where
  slow : ∀ ns, ∀ t ∈ (p.shared.lane ns).pending, t.decision.desiredMinScale ≠ 1
  timed : ∀ ns, (p.shared.lane ns).pending ≠ [] → (p.shared.lane ns).timer ≠ none
  alive : ∀ ns timer, (p.shared.lane ns).timer = some timer → timer.ns = ns ∧ Alive p timer

theorem Timed.keep {p q : Pool Shared Task} (inv : Timed p)
    (lane : ∀ ns, (q.shared.lane ns).pending = (p.shared.lane ns).pending ∧
      (q.shared.lane ns).timer = (p.shared.lane ns).timer)
    (alive : ∀ timer, Alive p timer → Alive q timer) : Timed q := by
  constructor
  · intro ns t member
    rw [(lane ns).1] at member
    exact inv.slow ns t member
  · intro ns waits
    rw [(lane ns).1] at waits
    rw [(lane ns).2]
    exact inv.timed ns waits
  · intro ns timer held
    rw [(lane ns).2] at held
    exact ⟨(inv.alive ns timer held).1,alive timer (inv.alive ns timer held).2⟩

theorem Timed.update {p q : Pool Shared Task} (inv : Timed p) (ns : String) (lane : Lane)
    (updated : q.shared.lane = Function.update p.shared.lane ns lane)
    (slow : ∀ t ∈ lane.pending, t.decision.desiredMinScale ≠ 1) (timed : lane.pending ≠ [] → lane.timer ≠ none)
    (alive : ∀ timer, lane.timer = some timer → timer.ns = ns ∧ Alive q timer)
    (others : ∀ timer, timer.ns ≠ ns → Alive p timer → Alive q timer) : Timed q := by
  constructor
  all_goals
    intro name
    rw [updated]
    by_cases here : name = ns
    · subst here
      rw [Function.update_self]
      assumption
    rw [Function.update_of_ne here]
  · exact inv.slow name
  · exact inv.timed name
  · intro timer held
    obtain ⟨own,before⟩ := inv.alive name timer held
    exact ⟨own,others timer (own ▸ here) before⟩

theorem alive_moved (s s' : Shared) (before new after : List Task) (task : Task) (timer : Timer)
    (armed : timer ∈ s.armed → timer ∈ s'.armed) (other : task ≠ .flushSlow timer)
    (alive : Alive ⟨s,before++task::after⟩ timer) : Alive ⟨s',before++(new++after)⟩ timer := by
  rcases alive with held | fired
  · exact Or.inl (armed held)
  · refine Or.inr ?_
    rcases List.mem_append.mp fired with first | rest
    · exact List.mem_append_left _ first
    · rcases List.mem_cons.mp rest with same | last
      · exact absurd same.symm other
      · exact List.mem_append_right _ (List.mem_append_right _ last)

/-- A drain stops the timer of its lane only. -/
theorem drainLocked_others (s : Shared) (ns : String) (own : ∀ timer, (s.lane ns).timer = some timer → timer.ns = ns)
    (timer : Timer) (away : timer.ns ≠ ns) (armed : timer ∈ s.armed) : timer ∈ (s.drainLocked ns).1.armed := by
  rw [Shared.drainLocked_armed]
  refine List.mem_filter.mpr ⟨armed,decide_eq_true (fun same => away (own timer same.symm))⟩

theorem accept_slow (s : Shared) (d : Decision) (slow : d.desiredMinScale ≠ 1)
    (before : ∀ t ∈ (s.lane d.ns).pending, t.decision.desiredMinScale ≠ 1) :
    ∀ t ∈ ((s.accept d).lane d.ns).pending, t.decision.desiredMinScale ≠ 1 := by
  intro t member
  rw [accept_pending,if_pos rfl] at member
  rcases List.mem_append.mp member with kept | added
  · exact before t (List.mem_filter.mp kept).1
  · rw [List.mem_singleton.mp added]
    exact slow

theorem accept_lane (s : Shared) (d : Decision) :
    (s.accept d).lane = Function.update s.lane d.ns ((s.accept d).lane d.ns) := by
  change Function.update s.lane d.ns _ = Function.update s.lane d.ns (Function.update s.lane d.ns _ d.ns)
  rw [Function.update_self]

theorem accept_timer (s : Shared) (d : Decision) : ((s.accept d).lane d.ns).timer = (s.lane d.ns).timer := by
  change (Function.update s.lane d.ns _ d.ns).timer = _
  rw [Function.update_self]

theorem advanced_timed (m : Manager) (s s' : Shared) (before after : List Task) (task : Task) (choice : Choice) (new : List Task)
    (moved : Advanced m s task choice s' new) (calm : task.stopping = false) (inv : Timed ⟨s,before++task::after⟩) :
    Timed ⟨s',before++(new++after)⟩ := by
  have own (ns : String) (timer : Timer) (held : (s.lane ns).timer = some timer) : timer.ns = ns :=
    (inv.alive ns timer held).1
  cases moved with
  | fast d one =>
    have lane := Shared.drainLocked_lane (s.accept d) d.ns
    rw [accept_lane,Function.update_idem] at lane
    refine inv.update d.ns _ lane (by simp) (by simp) (by simp) (fun timer away => ?_)
    refine alive_moved _ _ before _ after _ timer (drainLocked_others (s.accept d) d.ns ?_ timer away) nofun
    intro timer held
    rw [accept_timer] at held
    exact own d.ns timer held
  | waiting d slow timed =>
    refine inv.update d.ns _ (accept_lane s d) (accept_slow s d slow (inv.slow d.ns)) (fun _ => timed) ?_ ?_
    · intro timer held
      rw [accept_timer] at held
      exact ⟨own d.ns timer held,alive_moved s _ before _ after (.enqueue d) timer id nofun (inv.alive d.ns timer held).2⟩
    · exact fun timer _ => alive_moved _ _ before _ after _ timer id nofun
  | arming d slow idle =>
    have lane : ((s.accept d).afterFunc d.ns).lane = Function.update s.lane d.ns
        { (s.accept d).lane d.ns with timer := some ⟨s.nextTimer,d.ns⟩ } := by
      change Function.update (s.accept d).lane d.ns _ = _
      rw [accept_lane,Function.update_idem,← accept_lane]
      rfl
    refine inv.update d.ns _ lane (accept_slow s d slow (inv.slow d.ns)) (by simp) ?_ ?_
    · intro timer held
      cases held
      exact ⟨rfl,Or.inl (List.mem_append_right _ List.mem_cons_self)⟩
    · exact fun timer _ => alive_moved _ _ before _ after _ timer (List.mem_append_left _) nofun
  | flushed fired =>
    refine inv.update fired.ns _ (Shared.drainLocked_lane s fired.ns) (by simp) (by simp) (by simp) ?_
    intro timer away
    refine alive_moved _ _ before _ after _ timer (drainLocked_others s fired.ns (own fired.ns) timer away) ?_
    intro same
    cases same
    exact away rfl
  | worked t phase choice s' new moved =>
    have same := worked_queues m s s' t phase choice new moved
    refine inv.keep same.lane (fun timer => alive_moved _ _ before _ after _ timer ?_ nofun)
    rw [same.armed]
    exact id
  | _ =>
    first
    | exact Bool.noConfusion calm
    | exact inv.keep (fun _ => ⟨rfl,rfl⟩) (fun timer => alive_moved _ _ before _ after _ timer id nofun)

theorem arrived_timed (s s' : Shared) (tasks : List Task) (event : Arrival) (new : List Task)
    (moved : Arrived s event s' new) (inv : Timed ⟨s,tasks⟩) : Timed ⟨s',tasks++new⟩ := by
  have later (timer : Timer) (fired : .flushSlow timer ∈ tasks) : .flushSlow timer ∈ tasks++new :=
    List.mem_append_left _ fired
  cases moved with
  | fired i before timer after armed =>
    refine inv.keep (fun _ => ⟨rfl,rfl⟩) (fun other alive => ?_)
    rcases alive with held | fired
    · change other ∈ s.armed at held
      rw [armed] at held
      rcases List.mem_append.mp held with first | rest
      · exact Or.inl (List.mem_append_left _ first)
      · rcases List.mem_cons.mp rest with rfl | last
        · exact Or.inr (List.mem_append_right _ List.mem_cons_self)
        · exact Or.inl (List.mem_append_right _ last)
    · exact Or.inr (later other fired)
  | _ => exact inv.keep (fun _ => ⟨rfl,rfl⟩) (fun other alive => alive.imp id (later other))

theorem step_timed (m : Manager) (p q : Pool Shared Task) (act : Act Choice Arrival) (calm : Calm p) (inv : Timed p)
    (moved : (machine m).step p act = some q) : Timed q := by
  obtain ⟨s,tasks⟩ := p
  obtain ⟨s',others⟩ := q
  obtain ⟨i,choice,before,task,after,new,-,-,rfl,advanced,rfl⟩ | ⟨event,new,-,arrived,rfl⟩ := Machine.step_cases moved
  · have here : task.stopping = false := calm.tasks task (by simp)
    exact advanced_timed m s s' before after task choice new (advance_advanced m s s' task choice new advanced) here inv
  · exact arrived_timed s s' tasks event new (arrive_arrived s s' event new arrived) inv

/-! Every decision has exactly one fate. -/

inductive Fate (p : Pool Shared Task) (t : Ticket) : Prop
  | pending (waits : p.shared.pendingTimes t = 1) (kept : p.shared.supersededTimes t = 0)
      (undrained : p.shared.drainedTimes t = 0) (undispatched : heldTimes p.tasks t + p.shared.startedTimes t = 0)
  | superseded (gone : p.shared.pendingTimes t = 0) (once : p.shared.supersededTimes t = 1)
      (undrained : p.shared.drainedTimes t = 0) (undispatched : heldTimes p.tasks t + p.shared.startedTimes t = 0)
      (later : ∃ new, .superseded t new ∈ p.shared.log ∧ .accepted new ∈ p.shared.log ∧ t.key = new.key ∧ t.seq < new.seq)
  | dispatched (gone : p.shared.pendingTimes t = 0) (kept : p.shared.supersededTimes t = 0)
      (once : p.shared.drainedTimes t = 1) (handed : heldTimes p.tasks t + p.shared.startedTimes t = 1)
      (latest : ∃ past batch rest, p.shared.log = past++.drained batch::rest ∧ t ∈ batch ∧ Latest past t)

theorem Ordered.superseded {s : Shared} (inv : Ordered s) (t : Ticket) (replaced : s.supersededTimes t ≠ 0) :
    ∃ new, .superseded t new ∈ s.log ∧ .accepted new ∈ s.log ∧ t.key = new.key ∧ t.seq < new.seq := by
  obtain ⟨event,member,same⟩ := List.countP_pos_iff.mp (Nat.pos_of_ne_zero replaced)
  unfold Event.supersedes at same
  split at same
  next old new =>
    obtain rfl : old = t := of_decide_eq_true same
    obtain ⟨past,rest,log⟩ := List.append_of_mem member
    obtain ⟨-,accepted,key,later⟩ := inv.sound past _ rest log
    exact ⟨new,member,by rw [log]; exact List.mem_append_left _ accepted,key,later⟩
  next => cases same

theorem Ordered.drained {s : Shared} (inv : Ordered s) (t : Ticket) (drained : s.drainedTimes t ≠ 0) :
    ∃ past batch rest, s.log = past++.drained batch::rest ∧ t ∈ batch ∧ Latest past t := by
  obtain ⟨event,member,inside⟩ := List.mem_flatMap.mp (List.count_pos_iff.mp (Nat.pos_of_ne_zero drained))
  unfold Event.batch at inside
  split at inside
  next batch =>
    obtain ⟨past,rest,log⟩ := List.append_of_mem member
    exact ⟨past,batch,rest,log,inside,inv.sound past _ rest log t inside⟩
  next => cases inside

theorem fate_of_accepted (p : Pool Shared Task) (ordered : Ordered p.shared) (carried : Carried p) (t : Ticket)
    (accepted : .accepted t ∈ p.shared.log) : Fate p t := by
  have known : 0 < p.shared.acceptedTimes t := List.count_pos_iff.mpr accepted
  have once := ordered.once t
  have balance := ordered.balance t
  have handed := carried t
  by_cases replaced : p.shared.supersededTimes t = 0
  · by_cases drained : p.shared.drainedTimes t = 0
    · exact .pending (by omega) replaced drained (by omega)
    · exact .dispatched (by omega) replaced (by omega) (by omega) (ordered.drained t drained)
  · exact .superseded (by omega) (by omega) (by omega) (by omega) (ordered.superseded t replaced)

/-- As long as nobody calls Stop, every accepted decision waits, was replaced by a later one of
its key while it waited, or was handed on once, as the latest of its key; a lane in which one
waits has an armed timer or a timer function on its way to it, and no warm-up waits. -/
theorem decisions_accounted (cfg : Config) (sink : Bool) (acts : List (Act Choice Arrival))
    (quiet : ∀ act ∈ acts, act ≠ .outside .stop) (p : Pool Shared Task)
    (ran : (machine (new cfg sink)).run initial acts = some p) :
    (∀ t, .accepted t ∈ p.shared.log → Fate p t) ∧
    (∀ ns, (p.shared.lane ns).pending ≠ [] →
      ∃ timer, timer.ns = ns ∧ (timer ∈ p.shared.armed ∨ .flushSlow timer ∈ p.tasks)) ∧
    (∀ ns, ∀ t ∈ (p.shared.lane ns).pending, t.decision.desiredMinScale ≠ 1) := by
  have start : (Ordered initial.shared ∧ Carried initial) ∧ Calm initial ∧ Timed initial :=
    ⟨⟨ordered_initial,fun _ => rfl⟩,⟨nofun,rfl⟩,⟨nofun,fun _ waits => absurd rfl waits,nofun⟩⟩
  obtain ⟨⟨ordered,carried⟩,-,timed⟩ := Machine.run_invariant
    (fun p => (Ordered p.shared ∧ Carried p) ∧ Calm p ∧ Timed p)
    (fun p act q inv quiet moved => ⟨step_queue _ p q act inv.1.1 inv.1.2 moved,step_calm _ p q act inv.2.1 quiet moved,
      step_timed _ p q act inv.2.1 inv.2.2 moved⟩)
    initial p acts start (Machine.obeys_of_forall (fun act => act ≠ .outside .stop) acts quiet initial) ran
  refine ⟨fate_of_accepted p ordered carried,fun ns waits => ?_,timed.slow⟩
  obtain ⟨timer,held⟩ := Option.ne_none_iff_exists'.mp (timed.timed ns waits)
  exact ⟨timer,timed.alive ns timer held⟩

namespace Sample

/-- Two decisions for one key and one for another; the timer has fired and its function waits
for the lane. -/
def coalesced : List (Act Choice Arrival) :=
  [.outside (.call (decision "web" 0)),.task 0 .go,.outside (.call (decision "web" 0)),.task 1 .go,.outside (.fire 0),
    .outside (.call (decision "api" 0)),.task 3 .go]

end Sample

theorem decisions_accounted_sample :
    ∃ p, (machine (new {} false)).run initial Sample.coalesced = some p ∧ p.shared.armed = [] ∧
      Fate p ⟨0,Sample.decision "web" 0⟩ ∧ p.shared.supersededTimes ⟨0,Sample.decision "web" 0⟩ = 1 ∧
      ∃ timer, timer.ns = "prod" ∧ (timer ∈ p.shared.armed ∨ .flushSlow timer ∈ p.tasks) := by
  have ends : ((machine (new {} false)).run initial Sample.coalesced).map (fun p =>
      (p.shared.armed,p.shared.log,(p.shared.lane "prod").pending)) =
      some ([],[.accepted ⟨0,Sample.decision "web" 0⟩,.accepted ⟨1,Sample.decision "web" 0⟩,
        .superseded ⟨0,Sample.decision "web" 0⟩ ⟨1,Sample.decision "web" 0⟩,.accepted ⟨2,Sample.decision "api" 0⟩],
        [⟨1,Sample.decision "web" 0⟩,⟨2,Sample.decision "api" 0⟩]) := by decide +kernel
  obtain ⟨p,ran,found⟩ := Option.map_eq_some_iff.mp ends
  obtain ⟨armed,rest⟩ := Prod.mk.inj found
  obtain ⟨log,pending⟩ := Prod.mk.inj rest
  obtain ⟨fates,timers,-⟩ := decisions_accounted {} false Sample.coalesced (by decide) p ran
  refine ⟨p,ran,armed,fates _ (by rw [log]; decide),?_,timers "prod" (by rw [pending]; decide)⟩
  unfold Shared.supersededTimes
  rw [log]
  decide

end Ifaas.Flusher
