import Ifaas.Api
import Ifaas.Library.Threads

/-! The flusher. Every namespace has a lane with the decisions that wait for the debounce
window, a timer, a failure counter for each key and a semaphore. Callers of Enqueue, timer
functions, workers and Stop are tasks that take turns; what a task does under a lock is one
step, and so is every call it makes outside of one. -/
namespace Ifaas.Flusher
open Library

structure Config where
  maxInFlight : Int := 0
  maxFailures : Int := 0
deriving DecidableEq

def defaultMaxInFlight : Int := 5

def defaultMaxFailures : Int := 5

def Config.withDefaults (c : Config) : Config where
  maxInFlight := if c.maxInFlight = 0 then defaultMaxInFlight else c.maxInFlight
  maxFailures := if c.maxFailures ≤ 0 then defaultMaxFailures else c.maxFailures

structure Manager where
  cfg : Config
  sink : Bool

def new (cfg : Config) (sink : Bool) : Manager := ⟨cfg.withDefaults,sink⟩

/-- An accepted decision, with its place among all accepted ones. -/
structure Ticket where
  seq : Nat
  decision : Decision
deriving DecidableEq

def Ticket.key (t : Ticket) : NamespacedName := t.decision.key

def Ticket.ns (t : Ticket) : String := t.decision.ns

inductive PatchResult where
  | success
  | skipped
  | failed
deriving DecidableEq

structure Timer where
  id : Nat
  ns : String
deriving DecidableEq

structure Lane where
  pending : List Ticket := []
  failures : NamespacedName → Nat := fun _ => 0
  timer : Option Timer := none
  inflight : Int := 0
  tokens : Nat := 0

/-- What happened, in the order in which it happened. -/
inductive Event where
  | rejected (d : Decision)
  | accepted (t : Ticket)
  | superseded (old new : Ticket)
  | drained (batch : List Ticket)
  | queueDepth (ns : String) (depth : Nat)
  | started (t : Ticket)
  | patchInflight (ns : String) (inflight : Int)
  | patchStarted (t : Ticket)
  | patched (t : Ticket) (result : PatchResult)
  | completed (t : Ticket) (result : PatchResult) (count : Nat)
  | flushResult (ns : String) (result : PatchResult)
  | sinkStarted (t : Ticket) (attempts : Nat)
  | sinkEnded (t : Ticket) (attempts : Nat)
  | stopReturned
deriving DecidableEq

/-- The Manager's fields with its lanes, the armed timers and the min-scale registers of the
Knative Services. A lane that was never used is an empty one; `known` lists the others. -/
structure Shared where
  lane : String → Lane := fun _ => {}
  known : List String := []
  stopped : Bool := false
  cancelled : Bool := false
  wg : Int := 0
  armed : List Timer := []
  nextTimer : Nat := 0
  nextTicket : Nat := 0
  register : NamespacedName → Option Int := fun _ => none
  log : List Event := []

/-- Where a worker is: before the semaphore, before and after each locked section and each
call to the Observer, the Patcher and the FailureSink. -/
inductive Phase where
  | acquire
  | increment
  | reportIn (inflight : Int)
  | call
  | patching
  | settle (result : PatchResult)
  | reportOut (result : PatchResult) (count : Nat) (inflight : Int)
  | flushResult (result : PatchResult) (count : Nat)
  | sink (count : Nat)
  | sinking (count : Nat)
  | release
  | done
deriving DecidableEq

inductive Task where
  | enqueue (d : Decision)
  | flushSlow (timer : Timer)
  | queueDepth (ns : String) (depth : Nat) (batch : List Ticket)
  | dispatch (batch : List Ticket)
  | runOne (t : Ticket) (phase : Phase)
  | stop
  | stopTimers (names : List String)
  | cancel
  | wait
deriving DecidableEq

/-- How a task goes on where the runtime or the Patcher decides. -/
inductive Choice where
  | go
  | pick (i : Nat)
  | ctxDone
  | result (r : PatchResult)
deriving DecidableEq

inductive Arrival where
  | call (d : Decision)
  | fire (i : Nat)
  | stop
deriving DecidableEq

namespace Shared

def setLane (s : Shared) (ns : String) (lane : Lane) : Shared := { s with lane := Function.update s.lane ns lane }

def emit (s : Shared) (events : List Event) : Shared := { s with log := s.log++events }

/-- Stop the timer of a lane; one that has fired already is out of reach. -/
def stopTimer (s : Shared) (ns : String) : Shared :=
  match (s.lane ns).timer with
  | none => s
  | some timer => { s.setLane ns { s.lane ns with timer := none } with armed := s.armed.filter (fun t => t ≠ timer) }

def drainLocked (s : Shared) (ns : String) : Shared × List Ticket :=
  let s := s.stopTimer ns
  ((s.setLane ns { s.lane ns with pending := [] }).emit [.drained (s.lane ns).pending],(s.lane ns).pending)

/-- `Clock.AfterFunc` for the lane's `flushSlow`. -/
def afterFunc (s : Shared) (ns : String) : Shared :=
  { s.setLane ns { s.lane ns with timer := some ⟨s.nextTimer,ns⟩ } with
    armed := s.armed++[⟨s.nextTimer,ns⟩], nextTimer := s.nextTimer + 1 }

/-- `pending[d.Key()] = d`. -/
def accept (s : Shared) (d : Decision) : Shared :=
  let t : Ticket := ⟨s.nextTicket,d⟩
  let lane := s.lane d.ns
  { (s.setLane d.ns { lane with pending := lane.pending.filter (fun old => old.key ≠ t.key)++[t] }).emit
      (.accepted t::(lane.pending.filter (fun old => old.key = t.key)).map (fun old => .superseded old t)) with
    nextTicket := s.nextTicket + 1 }

theorem stopTimer_lane (s : Shared) (ns : String) :
    (s.stopTimer ns).lane = Function.update s.lane ns { s.lane ns with timer := none } := by
  unfold stopTimer
  split
  next none =>
    rw [← none,Function.update_eq_self]
  next => rfl

theorem stopTimer_armed (s : Shared) (ns : String) :
    (s.stopTimer ns).armed = s.armed.filter (fun t => some t ≠ (s.lane ns).timer) := by
  unfold stopTimer
  split
  next none => simp [none]
  next timer held => simp [held]

/-- Stopping a timer touches nothing but the lane and the armed timers. -/
theorem stopTimer_rest (s : Shared) (ns : String) :
    { s.stopTimer ns with lane := s.lane, armed := s.armed } = s := by
  unfold stopTimer
  split <;> rfl

theorem stopTimer_log (s : Shared) (ns : String) : (s.stopTimer ns).log = s.log := (congrArg log (stopTimer_rest s ns) :)

theorem stopTimer_stopped (s : Shared) (ns : String) : (s.stopTimer ns).stopped = s.stopped :=
  (congrArg stopped (stopTimer_rest s ns) :)

theorem stopTimer_wg (s : Shared) (ns : String) : (s.stopTimer ns).wg = s.wg := (congrArg wg (stopTimer_rest s ns) :)

theorem stopTimer_nextTicket (s : Shared) (ns : String) : (s.stopTimer ns).nextTicket = s.nextTicket :=
  (congrArg nextTicket (stopTimer_rest s ns) :)

theorem stopTimer_register (s : Shared) (ns : String) : (s.stopTimer ns).register = s.register :=
  (congrArg register (stopTimer_rest s ns) :)

theorem drainLocked_lane (s : Shared) (ns : String) :
    (s.drainLocked ns).1.lane = Function.update s.lane ns { s.lane ns with timer := none, pending := [] } := by
  simp [drainLocked,emit,setLane,stopTimer_lane]

theorem drainLocked_batch (s : Shared) (ns : String) : (s.drainLocked ns).2 = (s.lane ns).pending := by
  simp [drainLocked,stopTimer_lane]

theorem drainLocked_armed (s : Shared) (ns : String) :
    (s.drainLocked ns).1.armed = s.armed.filter (fun t => some t ≠ (s.lane ns).timer) :=
  stopTimer_armed s ns

theorem drainLocked_rest (s : Shared) (ns : String) :
    { (s.drainLocked ns).1 with lane := s.lane, armed := s.armed, log := s.log } = s :=
  (congrArg (fun t : Shared => { t with log := s.log }) (stopTimer_rest s ns))

theorem drainLocked_stopped (s : Shared) (ns : String) : (s.drainLocked ns).1.stopped = s.stopped :=
  (congrArg stopped (drainLocked_rest s ns) :)

theorem drainLocked_wg (s : Shared) (ns : String) : (s.drainLocked ns).1.wg = s.wg := (congrArg wg (drainLocked_rest s ns) :)

theorem drainLocked_register (s : Shared) (ns : String) : (s.drainLocked ns).1.register = s.register :=
  (congrArg register (drainLocked_rest s ns) :)

theorem drainLocked_log (s : Shared) (ns : String) :
    (s.drainLocked ns).1.log = s.log++[.drained (s.lane ns).pending] := by
  simp [drainLocked,emit,setLane,stopTimer_lane,stopTimer_log]

/-- The events of an accepted decision: its own, and those of the decisions it replaces. -/
theorem accept_events (s : Shared) (d : Decision) (P : Event → Prop) (accepted : ∀ t, P (.accepted t))
    (superseded : ∀ old new, P (.superseded old new)) :
    ∃ events, (s.accept d).log = s.log++events ∧ ∀ event ∈ events, P event := by
  refine ⟨_,rfl,fun event member => ?_⟩
  rcases List.mem_cons.mp member with rfl | replaced
  · exact accepted _
  · obtain ⟨old,-,rfl⟩ := List.mem_map.mp replaced
    exact superseded _ _

end Shared

/-! The tasks. -/

/-- `nsLane.enqueue` under the lane's lock. -/
def enqueue (s : Shared) (d : Decision) : Shared × List Task :=
  let s := s.accept d
  if d.desiredMinScale = 1 then
    let (s,batch) := s.drainLocked d.ns
    (s,[.queueDepth d.ns 0 batch])
  else
    let s := if (s.lane d.ns).timer = none then s.afterFunc d.ns else s
    (s,[.queueDepth d.ns (s.lane d.ns).pending.length []])

def flushSlow (s : Shared) (ns : String) : Shared × List Task :=
  let (s,batch) := s.drainLocked ns
  (s,[.queueDepth ns 0 batch])

/-- Start the worker of one more decision of the batch; a batch comes in the order of a Go map. -/
def dispatch (s : Shared) (batch : List Ticket) : Choice → Option (Shared × List Task)
  | .go => if batch = [] then some (s,[]) else none
  | .pick i =>
    match pickAt batch i with
    | none => none
    | some (before,t,after) =>
      some ({ s with wg := s.wg + 1 }.emit [.started t],[.dispatch (before++after),.runOne t .acquire])
  | _ => none

/-- The failure counter of the key after a Patch: reset on success and skip. -/
def settled (failures : NamespacedName → Nat) (key : NamespacedName) : PatchResult → NamespacedName → Nat
  | .failed => Function.update failures key (failures key + 1)
  | _ => Function.update failures key 0

def runOne (m : Manager) (s : Shared) (t : Ticket) : Phase → Choice → Option (Shared × List Task)
  | .acquire,.go =>
    let lane := s.lane t.ns
    if m.cfg.maxInFlight ≤ 0 then some (s,[.runOne t .increment])
    else if (lane.tokens : Int) < m.cfg.maxInFlight then
      some (s.setLane t.ns { lane with tokens := lane.tokens + 1 },[.runOne t .increment])
    else none
  | .acquire,.ctxDone => if 0 < m.cfg.maxInFlight ∧ s.cancelled = true then some (s,[.runOne t .done]) else none
  | .increment,.go =>
    let lane := s.lane t.ns
    some (s.setLane t.ns { lane with inflight := lane.inflight + 1 },[.runOne t (.reportIn (lane.inflight + 1))])
  | .reportIn inflight,.go => some (s.emit [.patchInflight t.ns inflight],[.runOne t .call])
  | .call,.go => some (s.emit [.patchStarted t],[.runOne t .patching])
  | .patching,.result r =>
    let register :=
      match r with
      | .success => Function.update s.register t.key (some t.decision.desiredMinScale)
      | _ => s.register
    some ({ s with register := register }.emit [.patched t r],[.runOne t (.settle r)])
  | .settle r,.go =>
    let lane := s.lane t.ns
    let failures := settled lane.failures t.key r
    some ((s.setLane t.ns { lane with inflight := lane.inflight - 1, failures := failures }).emit
      [.completed t r (failures t.key)],[.runOne t (.reportOut r (failures t.key) (lane.inflight - 1))])
  | .reportOut r count inflight,.go => some (s.emit [.patchInflight t.ns inflight],[.runOne t (.flushResult r count)])
  | .flushResult r count,.go =>
    let escalates := r = .failed ∧ m.cfg.maxFailures ≤ count ∧ m.sink = true
    some (s.emit [.flushResult t.ns r],[.runOne t (if escalates then .sink count else .release)])
  | .sink count,.go => some (s.emit [.sinkStarted t count],[.runOne t (.sinking count)])
  | .sinking count,.go => some (s.emit [.sinkEnded t count],[.runOne t .release])
  | .release,.go =>
    let lane := s.lane t.ns
    if m.cfg.maxInFlight ≤ 0 then some (s,[.runOne t .done])
    else if 0 < lane.tokens then some (s.setLane t.ns { lane with tokens := lane.tokens - 1 },[.runOne t .done])
    else none
  | .done,.go => some ({ s with wg := s.wg - 1 },[])
  | _,_ => none

def advance (m : Manager) (s : Shared) : Task → Choice → Option (Shared × List Task)
  | .enqueue d,.go => some (enqueue s d)
  | .flushSlow timer,.go => some (flushSlow s timer.ns)
  | .queueDepth ns depth batch,.go => some (s.emit [.queueDepth ns depth],[.dispatch batch])
  | .dispatch batch,choice => dispatch s batch choice
  | .runOne t phase,choice => runOne m s t phase choice
  | .stop,.go => if s.stopped then some (s,[]) else some ({ s with stopped := true },[.stopTimers s.known])
  | .stopTimers names,.pick i =>
    match pickAt names i with
    | none => none
    | some (before,ns,after) => some (s.stopTimer ns,[.stopTimers (before++after)])
  | .stopTimers names,.go => if names = [] then some (s,[.cancel]) else none
  | .cancel,.go => some ({ s with cancelled := true },[.wait])
  | .wait,.go => if s.wg = 0 then some (s.emit [.stopReturned],[]) else none
  | _,_ => none

/-- A call of `Manager.Enqueue` up to the lane, a timer that fires, a call of Stop. -/
def arrive (s : Shared) : Arrival → Option (Shared × List Task)
  | .call d =>
    if s.stopped then some (s.emit [.rejected d],[])
    else some ({ s with known := if d.ns ∈ s.known then s.known else s.known++[d.ns] },[.enqueue d])
  | .fire i =>
    match pickAt s.armed i with
    | none => none
    | some (before,timer,after) => some ({ s with armed := before++after },[.flushSlow timer])
  | .stop => some (s,[.stop])

def machine (m : Manager) : Machine Shared Task Choice Arrival := ⟨advance m,arrive⟩

def initial : Pool Shared Task := ⟨{},[]⟩

/-! What one step can do. -/

/-- A worker's step, with the state and the tasks it leaves behind. -/
inductive Worked (m : Manager) (s : Shared) (t : Ticket) : Phase → Choice → Shared → List Task → Prop
  | unbounded (free : m.cfg.maxInFlight ≤ 0) : Worked m s t .acquire .go s [.runOne t .increment]
  | acquired (capped : 0 < m.cfg.maxInFlight) (room : ((s.lane t.ns).tokens : Int) < m.cfg.maxInFlight) :
      Worked m s t .acquire .go (s.setLane t.ns { s.lane t.ns with tokens := (s.lane t.ns).tokens + 1 })
        [.runOne t .increment]
  | ctxDone (capped : 0 < m.cfg.maxInFlight) (ended : s.cancelled = true) : Worked m s t .acquire .ctxDone s [.runOne t .done]
  | incremented : Worked m s t .increment .go
      (s.setLane t.ns { s.lane t.ns with inflight := (s.lane t.ns).inflight + 1 })
      [.runOne t (.reportIn ((s.lane t.ns).inflight + 1))]
  | reportedIn (inflight : Int) : Worked m s t (.reportIn inflight) .go (s.emit [.patchInflight t.ns inflight])
      [.runOne t .call]
  | called : Worked m s t .call .go (s.emit [.patchStarted t]) [.runOne t .patching]
  | written : Worked m s t .patching (.result .success)
      ({ s with register := Function.update s.register t.key (some t.decision.desiredMinScale) }.emit
        [.patched t .success]) [.runOne t (.settle .success)]
  | unwritten (r : PatchResult) (fault : r ≠ .success) : Worked m s t .patching (.result r) (s.emit [.patched t r])
      [.runOne t (.settle r)]
  | settled (r : PatchResult) : Worked m s t (.settle r) .go
      ((s.setLane t.ns { s.lane t.ns with
          inflight := (s.lane t.ns).inflight - 1
          failures := settled (s.lane t.ns).failures t.key r }).emit
        [.completed t r (settled (s.lane t.ns).failures t.key r t.key)])
      [.runOne t (.reportOut r (settled (s.lane t.ns).failures t.key r t.key) ((s.lane t.ns).inflight - 1))]
  | reportedOut (r : PatchResult) (count : Nat) (inflight : Int) : Worked m s t (.reportOut r count inflight) .go
      (s.emit [.patchInflight t.ns inflight]) [.runOne t (.flushResult r count)]
  | escalates (count : Nat) (reached : m.cfg.maxFailures ≤ count) (sink : m.sink = true) :
      Worked m s t (.flushResult .failed count) .go (s.emit [.flushResult t.ns .failed]) [.runOne t (.sink count)]
  | resulted (r : PatchResult) (count : Nat) (quiet : ¬ (r = .failed ∧ m.cfg.maxFailures ≤ count ∧ m.sink = true)) :
      Worked m s t (.flushResult r count) .go (s.emit [.flushResult t.ns r]) [.runOne t .release]
  | sinkCalled (count : Nat) : Worked m s t (.sink count) .go (s.emit [.sinkStarted t count]) [.runOne t (.sinking count)]
  | sinkReturned (count : Nat) : Worked m s t (.sinking count) .go (s.emit [.sinkEnded t count]) [.runOne t .release]
  | unheld (free : m.cfg.maxInFlight ≤ 0) : Worked m s t .release .go s [.runOne t .done]
  | released (capped : 0 < m.cfg.maxInFlight) (held : 0 < (s.lane t.ns).tokens) :
      Worked m s t .release .go (s.setLane t.ns { s.lane t.ns with tokens := (s.lane t.ns).tokens - 1 }) [.runOne t .done]
  | returned : Worked m s t .done .go { s with wg := s.wg - 1 } []

theorem runOne_worked (m : Manager) (s s' : Shared) (t : Ticket) (phase : Phase) (choice : Choice) (new : List Task)
    (moved : runOne m s t phase choice = some (s',new)) : Worked m s t phase choice s' new := by
  cases phase with
  | acquire =>
    cases choice with
    | go =>
      simp only [runOne] at moved
      split at moved
      next free =>
        cases moved
        exact .unbounded free
      next capped =>
        split at moved
        next room =>
          cases moved
          exact .acquired (by omega) room
        next => cases moved
    | ctxDone =>
      simp only [runOne] at moved
      split at moved
      next ended =>
        cases moved
        exact .ctxDone ended.1 ended.2
      next => cases moved
    | pick i => cases moved
    | result r => cases moved
  | patching =>
    cases choice with
    | result r =>
      cases r with
      | success =>
        cases moved
        exact .written
      | skipped =>
        cases moved
        exact .unwritten _ nofun
      | failed =>
        cases moved
        exact .unwritten _ nofun
    | _ => cases moved
  | flushResult r count =>
    cases choice with
    | go =>
      simp only [runOne] at moved
      cases moved
      split
      next escalates =>
        obtain ⟨rfl,reached,sink⟩ := escalates
        exact .escalates count reached sink
      next quiet => exact .resulted r count quiet
    | _ => cases moved
  | release =>
    cases choice with
    | go =>
      simp only [runOne] at moved
      split at moved
      next free =>
        cases moved
        exact .unheld free
      next capped =>
        split at moved
        next held =>
          cases moved
          exact .released (by omega) held
        next => cases moved
    | _ => cases moved
  | _ =>
    cases choice with
    | go =>
      cases moved
      constructor
    | _ => cases moved

theorem worked_elsewhere (m : Manager) (s s' : Shared) (t : Ticket) (phase : Phase) (choice : Choice)
    (new : List Task) (moved : Worked m s t phase choice s' new) (ns : String) (away : ns ≠ t.ns) : s'.lane ns = s.lane ns := by
  cases moved <;> first | rfl | exact Function.update_of_ne away _ _

theorem worked_tasks (m : Manager) (s s' : Shared) (t : Ticket) (phase : Phase) (choice : Choice)
    (new : List Task) (moved : Worked m s t phase choice s' new) : new = [] ∨ ∃ next, new = [.runOne t next] := by
  cases moved <;> first | exact Or.inl rfl | exact Or.inr ⟨_,rfl⟩

/-- The events a worker brings about. -/
def Event.ofWorker : Event → Bool
  | .patchInflight _ _ => true
  | .patchStarted _ => true
  | .patched _ _ => true
  | .completed _ _ _ => true
  | .flushResult _ _ => true
  | .sinkStarted _ _ => true
  | .sinkEnded _ _ => true
  | _ => false

theorem worked_log (m : Manager) (s s' : Shared) (t : Ticket) (phase : Phase) (choice : Choice)
    (new : List Task) (moved : Worked m s t phase choice s' new) : ∃ events, s'.log = s.log++events ∧ ∀ event ∈ events, event.ofWorker = true := by
  cases moved <;> first | exact ⟨[_],rfl,by simp [Event.ofWorker]⟩ | exact ⟨[],(List.append_nil _).symm,by simp⟩

/-- What a worker leaves alone: the queues, the timers and the state of the Manager. -/
structure SameQueues (s s' : Shared) : Prop where
  lane : ∀ ns, (s'.lane ns).pending = (s.lane ns).pending ∧ (s'.lane ns).timer = (s.lane ns).timer
  armed : s'.armed = s.armed
  nextTicket : s'.nextTicket = s.nextTicket
  stopped : s'.stopped = s.stopped
  cancelled : s'.cancelled = s.cancelled

theorem worked_queues (m : Manager) (s s' : Shared) (t : Ticket) (phase : Phase) (choice : Choice)
    (new : List Task) (moved : Worked m s t phase choice s' new) : SameQueues s s' := by
  refine ⟨fun ns => ?_,?_,?_,?_,?_⟩
  · by_cases here : ns = t.ns
    · subst here
      cases moved <;> simp [Shared.setLane,Shared.emit]
    · rw [worked_elsewhere m s s' t phase choice new moved ns here]
      exact ⟨rfl,rfl⟩
  all_goals cases moved <;> rfl

/-- A task's step. -/
inductive Advanced (m : Manager) (s : Shared) : Task → Choice → Shared → List Task → Prop
  | fast (d : Decision) (one : d.desiredMinScale = 1) : Advanced m s (.enqueue d) .go ((s.accept d).drainLocked d.ns).1
      [.queueDepth d.ns 0 ((s.accept d).drainLocked d.ns).2]
  | waiting (d : Decision) (slow : d.desiredMinScale ≠ 1) (timed : ((s.accept d).lane d.ns).timer ≠ none) :
      Advanced m s (.enqueue d) .go (s.accept d) [.queueDepth d.ns ((s.accept d).lane d.ns).pending.length []]
  | arming (d : Decision) (slow : d.desiredMinScale ≠ 1) (idle : ((s.accept d).lane d.ns).timer = none) :
      Advanced m s (.enqueue d) .go ((s.accept d).afterFunc d.ns)
        [.queueDepth d.ns (((s.accept d).afterFunc d.ns).lane d.ns).pending.length []]
  | flushed (timer : Timer) : Advanced m s (.flushSlow timer) .go (s.drainLocked timer.ns).1
      [.queueDepth timer.ns 0 (s.drainLocked timer.ns).2]
  | observed (ns : String) (depth : Nat) (batch : List Ticket) : Advanced m s (.queueDepth ns depth batch) .go
      (s.emit [.queueDepth ns depth]) [.dispatch batch]
  | dispatched : Advanced m s (.dispatch []) .go s []
  | started (i : Nat) (before : List Ticket) (t : Ticket) (after : List Ticket) :
      Advanced m s (.dispatch (before++t::after)) (.pick i)
      ({ s with wg := s.wg + 1 }.emit [.started t]) [.dispatch (before++after),.runOne t .acquire]
  | worked (t : Ticket) (phase : Phase) (choice : Choice) (s' : Shared) (new : List Task)
      (moved : Worked m s t phase choice s' new) : Advanced m s (.runOne t phase) choice s' new
  | stoppedAlready (already : s.stopped = true) : Advanced m s .stop .go s []
  | stopped (first : s.stopped = false) : Advanced m s .stop .go { s with stopped := true } [.stopTimers s.known]
  | timerStopped (i : Nat) (before : List String) (ns : String) (after : List String) :
      Advanced m s (.stopTimers (before++ns::after)) (.pick i) (s.stopTimer ns) [.stopTimers (before++after)]
  | timersStopped : Advanced m s (.stopTimers []) .go s [.cancel]
  | cancelled : Advanced m s .cancel .go { s with cancelled := true } [.wait]
  | stopReturned (drained : s.wg = 0) : Advanced m s .wait .go (s.emit [.stopReturned]) []

theorem enqueue_advanced (m : Manager) (s : Shared) (d : Decision) :
    Advanced m s (.enqueue d) .go (enqueue s d).1 (enqueue s d).2 := by
  unfold enqueue
  dsimp only
  by_cases one : d.desiredMinScale = 1
  · rw [if_pos one]
    exact .fast d one
  · rw [if_neg one]
    by_cases idle : ((s.accept d).lane d.ns).timer = none
    · rw [if_pos idle]
      exact .arming d one idle
    · rw [if_neg idle]
      exact .waiting d one idle

theorem dispatch_advanced (m : Manager) (s s' : Shared) (batch : List Ticket) (choice : Choice) (new : List Task)
    (moved : dispatch s batch choice = some (s',new)) : Advanced m s (.dispatch batch) choice s' new := by
  cases choice with
  | go =>
    simp only [dispatch] at moved
    split at moved
    next none =>
      subst none
      cases moved
      exact .dispatched
    next => cases moved
  | pick i =>
    cases picked : pickAt batch i with
    | none =>
      simp only [dispatch,picked] at moved
      cases moved
    | some found =>
      obtain ⟨before,t,after⟩ := found
      simp only [dispatch,picked] at moved
      cases moved
      rw [pickAt_eq _ _ _ _ _ picked]
      exact .started i before t after
  | ctxDone => cases moved
  | result r => cases moved

theorem stopTimers_advanced (m : Manager) (s s' : Shared) (names : List String) (choice : Choice) (new : List Task)
    (moved : advance m s (.stopTimers names) choice = some (s',new)) : Advanced m s (.stopTimers names) choice s' new := by
  cases choice with
  | go =>
    simp only [advance] at moved
    split at moved
    next none =>
      subst none
      cases moved
      exact .timersStopped
    next => cases moved
  | pick i =>
    cases picked : pickAt names i with
    | none =>
      simp only [advance,picked] at moved
      cases moved
    | some found =>
      obtain ⟨before,ns,after⟩ := found
      simp only [advance,picked] at moved
      cases moved
      rw [pickAt_eq _ _ _ _ _ picked]
      exact .timerStopped i before ns after
  | ctxDone => cases moved
  | result r => cases moved

theorem advance_advanced (m : Manager) (s s' : Shared) (task : Task) (choice : Choice) (new : List Task)
    (moved : advance m s task choice = some (s',new)) : Advanced m s task choice s' new := by
  cases task with
  | dispatch batch => exact dispatch_advanced m s s' batch choice new moved
  | runOne t phase => exact .worked t phase choice s' new (runOne_worked m s s' t phase choice new moved)
  | stopTimers names => exact stopTimers_advanced m s s' names choice new moved
  | enqueue d =>
    cases choice with
    | go =>
      have same : enqueue s d = (s',new) := Option.some.inj moved
      have advanced := enqueue_advanced m s d
      rw [same] at advanced
      exact advanced
    | _ => cases moved
  | stop =>
    cases choice with
    | go =>
      simp only [advance] at moved
      split at moved
      next already =>
        cases moved
        exact .stoppedAlready already
      next first =>
        cases moved
        exact .stopped (Bool.eq_false_iff.mpr first)
    | _ => cases moved
  | wait =>
    cases choice with
    | go =>
      simp only [advance] at moved
      split at moved
      next drained =>
        cases moved
        exact .stopReturned drained
      next => cases moved
    | _ => cases moved
  | _ =>
    cases choice with
    | go =>
      cases moved
      constructor
    | _ => cases moved

/-- An arrival. -/
inductive Arrived (s : Shared) : Arrival → Shared → List Task → Prop
  | rejected (d : Decision) (ended : s.stopped = true) : Arrived s (.call d) (s.emit [.rejected d]) []
  | admitted (d : Decision) (running : s.stopped = false) (known : List String) :
      Arrived s (.call d) { s with known := known } [.enqueue d]
  | fired (i : Nat) (before : List Timer) (timer : Timer) (after : List Timer) (armed : s.armed = before++timer::after) :
      Arrived s (.fire i) { s with armed := before++after } [.flushSlow timer]
  | stop : Arrived s .stop s [.stop]

theorem arrive_arrived (s s' : Shared) (event : Arrival) (new : List Task) (moved : arrive s event = some (s',new)) :
    Arrived s event s' new := by
  cases event with
  | call d =>
    simp only [arrive] at moved
    split at moved
    next ended =>
      cases moved
      exact .rejected d ended
    next running =>
      cases moved
      exact .admitted d (Bool.eq_false_iff.mpr running) _
  | fire i =>
    cases picked : pickAt s.armed i with
    | none =>
      simp only [arrive,picked] at moved
      cases moved
    | some found =>
      obtain ⟨before,timer,after⟩ := found
      simp only [arrive,picked] at moved
      cases moved
      exact .fired i before timer after (pickAt_eq _ _ _ _ _ picked)
  | stop =>
    cases moved
    exact .stop

namespace Sample

def decision (name : String) (desired : Int) : Decision where
  ns := "prod"
  ksvcName := name
  adoptionName := name
  desiredMinScale := desired
  reason := "scaledownz"

end Sample

end Ifaas.Flusher
