import Ifaas.Flusher.Failures
import Ifaas.Flusher.Inflight
import Ifaas.Library.Gauges

/-! The Observer's gauges. Depth and counter of a lane are read under its lock and reported
after it is released, so a reading can arrive when the lane has moved on, and the gauge of a
lane at rest can keep it. -/
namespace Ifaas.Flusher
open Library

def Task.depthDue (ns : String) : Task → List Nat
  | .queueDepth other depth _ => if other = ns then [depth] else []
  | _ => []

def Event.depthShown (ns : String) : Event → List Nat
  | .queueDepth other depth => if other = ns then [depth] else []
  | _ => []

/-- `QueueDepth` of the namespace. -/
def depthGauge (ns : String) : Gauge Shared Task Nat where
  value s := (s.lane ns).pending.length
  due := Task.depthDue ns
  shown s := s.log.flatMap (Event.depthShown ns)

def Task.inflightDue (ns : String) : Task → List Int
  | .runOne t (.reportIn inflight) => if t.ns = ns then [inflight] else []
  | .runOne t (.reportOut _ _ inflight) => if t.ns = ns then [inflight] else []
  | _ => []

def Event.inflightShown (ns : String) : Event → List Int
  | .patchInflight other inflight => if other = ns then [inflight] else []
  | _ => []

/-- `PatchInflight` of the namespace. -/
def inflightGauge (ns : String) : Gauge Shared Task Int where
  value s := (s.lane ns).inflight
  due := Task.inflightDue ns
  shown s := s.log.flatMap (Event.inflightShown ns)

/-! PatchInflight. -/

theorem worked_inflightGauge (m : Manager) (s s' : Shared) (t : Ticket) (phase : Phase) (choice : Choice) (new : List Task)
    (moved : Worked m s t phase choice s' new) (ns : String) :
    (inflightGauge ns).Step s s' [.runOne t phase] new := by
  by_cases here : t.ns = ns
  · subst here
    cases moved with
    | incremented =>
      refine .read rfl ?_ rfl
      simp [Gauge.dueIn,inflightGauge,Task.inflightDue,Shared.setLane]
    | settled r =>
      refine .read rfl ?_ ?_
      · simp [Gauge.dueIn,inflightGauge,Task.inflightDue,Shared.setLane,Shared.emit]
      · exact flatMap_quiet _ s.log _ (by simp [Event.inflightShown])
    | reportedIn inflight =>
      refine .report inflight rfl ?_ rfl ?_
      · simp [Gauge.dueIn,inflightGauge,Task.inflightDue]
      · simp [inflightGauge,Event.inflightShown,Shared.emit]
    | reportedOut r count inflight =>
      refine .report inflight rfl ?_ rfl ?_
      · simp [Gauge.dueIn,inflightGauge,Task.inflightDue]
      · simp [inflightGauge,Event.inflightShown,Shared.emit]
    | _ =>
      refine .quiet ?_ rfl ?_
      · simp [inflightGauge,Shared.setLane,Shared.emit]
      · simp [inflightGauge,Event.inflightShown,Shared.setLane,Shared.emit]
  · have undue (p : Phase) : Task.inflightDue ns (.runOne t p) = [] := by cases p <;> simp [Task.inflightDue,here]
    refine .quiet ?_ ?_ ?_
    · exact congrArg Lane.inflight (worked_elsewhere m s s' t phase choice new moved ns (Ne.symm here))
    · rcases worked_tasks m s s' t phase choice new moved with rfl | ⟨next,rfl⟩ <;>
        simp [Gauge.dueIn,inflightGauge,undue]
    · cases moved <;> simp [inflightGauge,Event.inflightShown,Shared.setLane,Shared.emit,here]

theorem Aside.inflightGauge {s s' : Shared} (aside : Aside s s') (ns : String) (old new : List Task)
    (was : ∀ x ∈ old, x.fresh = true) (becomes : ∀ x ∈ new, x.fresh = true) :
    (inflightGauge ns).Step s s' old new := by
  have undue (tasks : List Task) (fresh : ∀ x ∈ tasks, x.fresh = true) : (Flusher.inflightGauge ns).dueIn tasks = [] := by
    refine List.flatMap_eq_nil_iff.mpr (fun x member => ?_)
    have idle := fresh x member
    cases x with
    | runOne u phase =>
      cases phase with
      | acquire => rfl
      | _ => cases idle
    | _ => rfl
  refine .quiet (aside.inflight ns) (by rw [undue old was,undue new becomes]) ?_
  exact aside.flatMap (Event.inflightShown ns) (fun event other => by cases event <;> first | rfl | cases other)

theorem inflight_honest (m : Manager) (ns : String) : (inflightGauge ns).Honest (machine m) := by
  refine ⟨fun s task choice s' new advanced => ?_,fun s event s' new arrived => ?_⟩
  · rcases advanced_cases m s s' task choice new (advance_advanced m s s' task choice new advanced) with
      ⟨t,phase,rfl,worked⟩ | ⟨aside,idle,fresh⟩
    · exact worked_inflightGauge m s s' t phase choice new worked ns
    · exact aside.inflightGauge ns [task] new (by simpa using idle) fresh
  · obtain ⟨aside,fresh⟩ := arrived_aside s s' event new (arrive_arrived s s' event new arrived)
    exact aside.inflightGauge ns [] new (by simp) fresh

/-! QueueDepth. -/

/-- A locked section of the lane that leaves its reading behind. -/
theorem depthGauge_read (s s' : Shared) (place : String) (task : Task) (batch : List Ticket) (depth : Nat) (ns : String)
    (undue : task.depthDue ns = []) (depths : depth = (s'.lane place).pending.length)
    (elsewhere : ∀ other, other ≠ place → (s'.lane other).pending = (s.lane other).pending)
    (shown : (depthGauge ns).shown s' = (depthGauge ns).shown s) :
    (depthGauge ns).Step s s' [task] [.queueDepth place depth batch] := by
  have none : (depthGauge ns).dueIn [task] = [] := by simpa [Gauge.dueIn,depthGauge] using undue
  by_cases here : place = ns
  · subst here
    refine .read none ?_ shown
    simp [Gauge.dueIn,depthGauge,Task.depthDue,depths]
  · refine .quiet ?_ ?_ shown
    · exact congrArg List.length (elsewhere ns (Ne.symm here))
    · rw [none]
      simp [Gauge.dueIn,depthGauge,Task.depthDue,here]

theorem accept_shown (s : Shared) (d : Decision) (ns : String) : (depthGauge ns).shown (s.accept d) = (depthGauge ns).shown s := by
  obtain ⟨events,log,quiet⟩ := s.accept_events d (fun event => event.depthShown ns = []) (fun _ => rfl) (fun _ _ => rfl)
  change (s.accept d).log.flatMap _ = _
  rw [log]
  exact flatMap_quiet _ s.log events quiet

theorem drainLocked_shown (s : Shared) (place ns : String) :
    (depthGauge ns).shown (s.drainLocked place).1 = (depthGauge ns).shown s := by
  change (s.drainLocked place).1.log.flatMap _ = _
  rw [Shared.drainLocked_log]
  exact flatMap_quiet _ s.log _ (by simp [Event.depthShown])

theorem accept_elsewhere (s : Shared) (d : Decision) (other : String) (away : other ≠ d.ns) :
    (s.accept d).lane other = s.lane other := Function.update_of_ne away _ _

theorem drainLocked_elsewhere (s : Shared) (place other : String) (away : other ≠ place) :
    (s.drainLocked place).1.lane other = s.lane other := by
  rw [Shared.drainLocked_lane,Function.update_of_ne away]

theorem drainLocked_empty (s : Shared) (place : String) : ((s.drainLocked place).1.lane place).pending = [] := by
  rw [Shared.drainLocked_lane,Function.update_self]

theorem worked_depthGauge (m : Manager) (s s' : Shared) (t : Ticket) (phase : Phase) (choice : Choice) (new : List Task)
    (moved : Worked m s t phase choice s' new) (ns : String) : (depthGauge ns).Step s s' [.runOne t phase] new := by
  refine .quiet ?_ ?_ ?_
  · exact congrArg List.length ((worked_queues m s s' t phase choice new moved).lane ns).1
  · rcases worked_tasks m s s' t phase choice new moved with rfl | ⟨next,rfl⟩ <;> rfl
  · obtain ⟨events,log,own⟩ := worked_log m s s' t phase choice new moved
    have silent := flatMap_quiet (Event.depthShown ns) s.log events (fun event member => by
      have worker := own event member
      cases event <;> first | rfl | cases worker)
    rw [← log] at silent
    exact silent

theorem advanced_depthGauge (m : Manager) (s s' : Shared) (task : Task) (choice : Choice) (new : List Task)
    (moved : Advanced m s task choice s' new) (ns : String) : (depthGauge ns).Step s s' [task] new := by
  cases moved with
  | worked t phase choice s' new moved => exact worked_depthGauge m s s' t phase choice new moved ns
  | fast d one =>
    refine depthGauge_read s _ d.ns _ _ 0 ns rfl (by rw [drainLocked_empty]; rfl) (fun other away => ?_)
      ((drainLocked_shown _ d.ns ns).trans (accept_shown s d ns))
    rw [drainLocked_elsewhere _ _ other away,accept_elsewhere s d other away]
  | waiting d slow timed =>
    refine depthGauge_read s _ d.ns _ _ _ ns rfl rfl (fun other away => ?_) (accept_shown s d ns)
    rw [accept_elsewhere s d other away]
  | arming d slow idle =>
    refine depthGauge_read s _ d.ns _ _ _ ns rfl rfl (fun other away => ?_) (accept_shown s d ns)
    have armed : ((s.accept d).afterFunc d.ns).lane other = (s.accept d).lane other := Function.update_of_ne away _ _
    rw [armed,accept_elsewhere s d other away]
  | flushed timer =>
    refine depthGauge_read s _ timer.ns _ _ 0 ns rfl (by rw [drainLocked_empty]; rfl) (fun other away => ?_)
      (drainLocked_shown s timer.ns ns)
    rw [drainLocked_elsewhere _ _ other away]
  | observed place depth batch =>
    by_cases here : place = ns
    · subst here
      refine .report depth rfl ?_ rfl ?_
      · simp [Gauge.dueIn,depthGauge,Task.depthDue]
      · simp [depthGauge,Event.depthShown,Shared.emit]
    · refine .quiet rfl ?_ ?_
      · simp [Gauge.dueIn,depthGauge,Task.depthDue,here]
      · exact flatMap_quiet _ s.log _ (by simp [Event.depthShown,here])
  | timerStopped i before place after =>
    refine .quiet ?_ rfl ?_
    · have same := update_field (fun lane => lane.pending) s.lane place { s.lane place with timer := none } rfl ns
      rw [← Shared.stopTimer_lane] at same
      exact congrArg List.length same
    · exact congrArg (fun log => log.flatMap (Event.depthShown ns)) (Shared.stopTimer_log s place)
  | started i before t after => exact .quiet rfl rfl (flatMap_quiet _ s.log _ (by simp [Event.depthShown]))
  | stopReturned drained => exact .quiet rfl rfl (flatMap_quiet _ s.log _ (by simp [Event.depthShown]))
  | _ => exact .quiet rfl rfl rfl

theorem depth_honest (m : Manager) (ns : String) : (depthGauge ns).Honest (machine m) := by
  refine ⟨fun s task choice s' new advanced => ?_,fun s event s' new arrived => ?_⟩
  · exact advanced_depthGauge m s s' task choice new (advance_advanced m s s' task choice new advanced) ns
  · cases arrive_arrived s s' event new arrived with
    | rejected d ended => exact .quiet rfl rfl (flatMap_quiet _ s.log _ (by simp [Event.depthShown]))
    | _ => exact .quiet rfl rfl rfl

/-! The counter of a lane at rest, also where the semaphore is off. -/

theorem uncounted_of_fresh (ns : String) (tasks : List Task) (fresh : ∀ x ∈ tasks, x.fresh = true) :
    tasks.countP (Task.counted ns) = 0 := by
  refine List.countP_eq_zero.mpr (fun x member => ?_)
  have idle := fresh x member
  cases x with
  | runOne u phase =>
    cases phase with
    | acquire => exact Bool.false_ne_true
    | _ => cases idle
  | _ => exact Bool.false_ne_true

theorem step_counter (m : Manager) (ns : String) (p q : Pool Shared Task) (act : Act Choice Arrival)
    (inv : (p.shared.lane ns).inflight = p.tasks.countP (Task.counted ns)) (moved : (machine m).step p act = some q) :
    (q.shared.lane ns).inflight = q.tasks.countP (Task.counted ns) := by
  obtain ⟨i,choice,before,task,after,new,-,-,was,advanced,becomes⟩ | ⟨event,new,-,arrived,becomes⟩ := Machine.step_cases moved
  · have balance : (q.shared.lane ns).inflight + [task].countP (Task.counted ns) =
        (p.shared.lane ns).inflight + new.countP (Task.counted ns) := by
      rcases advanced_cases m _ _ task choice new (advance_advanced m _ _ task choice new advanced) with
        ⟨t,phase,rfl,worked⟩ | ⟨aside,idle,fresh⟩
      · exact worked_counter m _ _ t phase choice new worked ns
      · rw [aside.inflight,uncounted_of_fresh ns [task] (by simpa using idle),uncounted_of_fresh ns new fresh]
    rw [was,List.countP_append,← List.singleton_append,List.countP_append] at inv
    rw [becomes,List.countP_append,List.countP_append]
    omega
  · obtain ⟨aside,fresh⟩ := arrived_aside _ _ event new (arrive_arrived _ _ event new arrived)
    rw [aside.inflight,inv,becomes,List.countP_append,uncounted_of_fresh ns new fresh,Nat.add_zero]

/-- Nothing is pending, no worker is live, and no reading of the depth has still to be reported;
the workers report the counter themselves. -/
structure AtRest (p : Pool Shared Task) (ns : String) : Prop where
  pending : (p.shared.lane ns).pending = []
  workers : ∀ task ∈ p.tasks, task.live ns = false
  reported : ∀ task ∈ p.tasks, task.depthDue ns = []

theorem AtRest.depth {p : Pool Shared Task} {ns : String} (rest : AtRest p ns) :
    (depthGauge ns).dueIn p.tasks = [] ∧ (depthGauge ns).value p.shared = 0 :=
  ⟨List.flatMap_eq_nil_iff.mpr rest.reported,congrArg List.length rest.pending⟩

theorem live_of_inflightDue (ns : String) (task : Task) (due : task.inflightDue ns ≠ []) : task.live ns = true := by
  unfold Task.inflightDue at due
  split at due
  next t inflight => exact decide_eq_true (ite_ne_right_iff.mp due).1
  next t r count inflight => exact decide_eq_true (ite_ne_right_iff.mp due).1
  next => exact absurd rfl due

theorem AtRest.inflight {p : Pool Shared Task} {ns : String} (rest : AtRest p ns)
    (counts : (p.shared.lane ns).inflight = p.tasks.countP (Task.counted ns)) :
    (inflightGauge ns).dueIn p.tasks = [] ∧ (inflightGauge ns).value p.shared = 0 := by
  refine ⟨List.flatMap_eq_nil_iff.mpr (fun task member => ?_),?_⟩
  · by_contra due
    exact Bool.noConfusion ((rest.workers task member).symm.trans (live_of_inflightDue ns task due))
  · have gone : p.tasks.countP (Task.counted ns) = 0 := List.countP_eq_zero.mpr (fun task member counted =>
      Bool.noConfusion ((rest.workers task member).symm.trans (live_of_counted ns task counted)))
    change (p.shared.lane ns).inflight = 0
    rw [counts,gone]
    rfl

/-! One worker at a time takes and reports its readings one at a time. -/

theorem holds_of_inflightDue (ns : String) (tasks : List Task) :
    ((inflightGauge ns).dueIn tasks).length ≤ tasks.countP (Task.holds ns) := by
  induction tasks with
  | nil => exact Nat.le_refl 0
  | cons task rest ih =>
    have one : (task.inflightDue ns).length ≤ if task.holds ns then 1 else 0 := by
      unfold Task.inflightDue
      split
      next t inflight => by_cases here : t.ns = ns <;> simp [Task.holds,here]
      next t r count inflight => by_cases here : t.ns = ns <;> simp [Task.holds,here]
      next => exact Nat.zero_le _
    have apart : (inflightGauge ns).dueIn (task::rest) = task.inflightDue ns++(inflightGauge ns).dueIn rest := rfl
    rw [apart,List.length_append,List.countP_cons]
    omega

theorem patient_of_metered (m : Manager) (ns : String) (p q : Pool Shared Task) (act : Act Choice Arrival)
    (one : m.cfg.maxInFlight = 1) (inv : Metered m.cfg.maxInFlight ns p) (moved : (machine m).step p act = some q)
    (more : ((inflightGauge ns).dueIn p.tasks).length < ((inflightGauge ns).dueIn q.tasks).length) :
    (inflightGauge ns).dueIn p.tasks = [] := by
  have after := step_metered m (by rw [one]; exact Int.one_pos) ns p q act inv moved
  have held := after.held
  have capped := after.capped
  have readings := holds_of_inflightDue ns q.tasks
  exact List.eq_nil_of_length_eq_zero (by omega)

theorem patient_of_single (cfg : Config) (sink : Bool) (one : cfg.withDefaults.maxInFlight = 1) (ns : String)
    (acts : List (Act Choice Arrival)) :
    (machine (new cfg sink)).Obeys ((inflightGauge ns).Patient (machine (new cfg sink))) initial acts := by
  refine Machine.obeys_of_reached _ initial (fun acts p ran act q moved more => ?_) acts
  have single : (new cfg sink).cfg.maxInFlight = 1 := one
  have metered : Metered (new cfg sink).cfg.maxInFlight ns p :=
    Machine.run_always (Metered (new cfg sink).cfg.maxInFlight ns)
      (fun p act q inv moved => step_metered _ (by rw [single]; exact Int.one_pos) ns p q act inv moved)
      initial p acts ⟨rfl,rfl,by rw [single]; exact Int.one_nonneg⟩ ran
  exact patient_of_metered _ ns p q act single metered moved more

/-- In a lane at rest a gauge shows 0 exactly if its last report was up to date when it was
made. It was in a run that takes every reading when no other one waits; for PatchInflight that
is every run with MaxInFlight 1. -/
theorem gauges_settle_iff (cfg : Config) (sink : Bool) (acts : List (Act Choice Arrival)) (p : Pool Shared Task)
    (ran : (machine (new cfg sink)).run initial acts = some p) (ns : String) (rest : AtRest p ns) :
    ((depthGauge ns).Shows p.shared 0 ↔ ∀ depth actual,
      (depthGauge ns).Reported (machine (new cfg sink)) initial acts p depth actual → depth = actual) ∧
    ((inflightGauge ns).Shows p.shared 0 ↔ ∀ inflight actual,
      (inflightGauge ns).Reported (machine (new cfg sink)) initial acts p inflight actual → inflight = actual) ∧
    ((machine (new cfg sink)).Obeys ((depthGauge ns).Patient (machine (new cfg sink))) initial acts →
      (depthGauge ns).Shows p.shared 0) ∧
    ((machine (new cfg sink)).Obeys ((inflightGauge ns).Patient (machine (new cfg sink))) initial acts →
      (inflightGauge ns).Shows p.shared 0) ∧
    (cfg.withDefaults.maxInFlight = 1 → (inflightGauge ns).Shows p.shared 0) := by
  have counts : (p.shared.lane ns).inflight = p.tasks.countP (Task.counted ns) :=
    Machine.run_always (fun p : Pool Shared Task => (p.shared.lane ns).inflight = (p.tasks.countP (Task.counted ns) : Int))
      (fun p act q inv moved => step_counter _ ns p q act inv moved) initial p acts rfl ran
  obtain ⟨shallow,empty⟩ := rest.depth
  obtain ⟨told,zero⟩ := rest.inflight counts
  have depth := Gauge.shows_iff (depth_honest (new cfg sink) ns) initial rfl acts p ran shallow
  have inflight := Gauge.shows_iff (inflight_honest (new cfg sink) ns) initial rfl acts p ran told
  have patient (obeys : (machine (new cfg sink)).Obeys ((inflightGauge ns).Patient (machine (new cfg sink))) initial acts) :=
    Gauge.shows_of_patient (inflight_honest (new cfg sink) ns) initial p acts rfl rfl obeys ran told
  rw [empty] at depth
  rw [zero] at inflight patient
  refine ⟨depth,inflight,fun obeys => ?_,patient,fun one => patient (patient_of_single cfg sink one ns acts)⟩
  rw [← empty]
  exact Gauge.shows_of_patient (depth_honest (new cfg sink) ns) initial p acts rfl rfl obeys ran shallow

namespace Sample

/-- A decision waits on the slow lane until its timer fires; its Patch fails, and its worker leaves
the sink and goes. -/
def failedAndGone : List (Act Choice Arrival) :=
  [.outside (.call (decision "web" 0)),.task 0 .go,.task 0 .go,.task 0 .go,.outside (.fire 0),.task 0 .go,.task 0 .go,
    .task 0 (.pick 0),.task 1 .go,.task 1 .go,.task 1 .go,.task 1 .go,.task 1 (.result .failed),.task 1 .go,.task 1 .go,
    .task 1 .go,.task 1 .go,.task 1 .go,.task 1 .go,.task 1 .go,.task 0 .go]

/-- Two decisions on the slow lane; the caller of the second is slow to report the depth 2. The
timer fires, both workers patch, and the first to count out is the last to report. -/
def straggling : List (Act Choice Arrival) :=
  [.outside (.call (decision "web" 0)),.task 0 .go,.outside (.call (decision "api" 0)),.task 1 .go,.task 0 .go,.task 0 .go,
    .outside (.fire 0),.task 1 .go,.task 1 .go,.task 1 (.pick 0),.task 1 (.pick 0),.task 1 .go,
    .task 1 .go,.task 1 .go,.task 1 .go,.task 1 .go,.task 1 (.result .success),
    .task 2 .go,.task 2 .go,.task 2 .go,.task 2 .go,.task 2 (.result .success),
    .task 1 .go,.task 2 .go,.task 2 .go,.task 1 .go,.task 1 .go,.task 2 .go,.task 1 .go,.task 2 .go,.task 1 .go,.task 1 .go,
    .task 0 .go,.task 0 .go]

end Sample

theorem gauges_settle_sample :
    ∃ p, (machine (new ⟨1,1⟩ true)).run initial Sample.failedAndGone = some p ∧ AtRest p "prod" ∧
      (depthGauge "prod").shown p.shared = [1,0] ∧ (inflightGauge "prod").shown p.shared = [1,0] ∧
      (depthGauge "prod").Shows p.shared 0 ∧ (inflightGauge "prod").Shows p.shared 0 := by
  have ends : ((machine (new ⟨1,1⟩ true)).run initial Sample.failedAndGone).map (fun p =>
      (p.tasks,(p.shared.lane "prod").pending,(depthGauge "prod").shown p.shared,(inflightGauge "prod").shown p.shared)) =
      some ([],[],[1,0],[1,0]) := by decide +kernel
  obtain ⟨p,ran,values⟩ := Option.map_eq_some_iff.mp ends
  simp only [Prod.mk.injEq] at values
  obtain ⟨tasks,pending,depths,inflights⟩ := values
  have rest : AtRest p "prod" := ⟨pending,by rw [tasks]; nofun,by rw [tasks]; nofun⟩
  have patient : (machine (new ⟨1,1⟩ true)).Obeys ((depthGauge "prod").Patient (machine (new ⟨1,1⟩ true))) initial Sample.failedAndGone :=
    Machine.obeys_sound ((depthGauge "prod").patient (machine (new ⟨1,1⟩ true))) Gauge.patient_sound _ _ (by decide +kernel)
  obtain ⟨-,-,depth,-,inflight⟩ := gauges_settle_iff ⟨1,1⟩ true Sample.failedAndGone p ran "prod" rest
  exact ⟨p,ran,rest,depths,inflights,depth patient,inflight rfl⟩

/-- Nobody calls Stop, everything is done and no timer is armed, but the gauges stay at a
depth of 2 and at 1 Patch in flight. -/
theorem gauges_stuck :
    (∀ act ∈ Sample.straggling, act ≠ .outside .stop) ∧
    ∃ p, (machine (new {} false)).run initial Sample.straggling = some p ∧ p.tasks = [] ∧ p.shared.armed = [] ∧
      AtRest p "prod" ∧ (depthGauge "prod").shown p.shared = [1,0,2] ∧ (inflightGauge "prod").shown p.shared = [1,2,0,1] ∧
      ¬ (depthGauge "prod").Shows p.shared 0 ∧ ¬ (inflightGauge "prod").Shows p.shared 0 := by
  have ends : ((machine (new {} false)).run initial Sample.straggling).map (fun p =>
      ((p.tasks,p.shared.armed,(p.shared.lane "prod").pending),(depthGauge "prod").shown p.shared,
        (inflightGauge "prod").shown p.shared)) = some (([],[],[]),[1,0,2],[1,2,0,1]) := by decide +kernel
  obtain ⟨p,ran,values⟩ := Option.map_eq_some_iff.mp ends
  simp only [Prod.mk.injEq] at values
  obtain ⟨⟨tasks,armed,pending⟩,depths,inflights⟩ := values
  refine ⟨by decide,p,ran,tasks,armed,⟨pending,by rw [tasks]; nofun,by rw [tasks]; nofun⟩,depths,inflights,?_,?_⟩
  · intro shows
    exact absurd (shows 2 (by rw [depths]; rfl)) (by decide)
  · intro shows
    exact absurd (shows 1 (by rw [inflights]; rfl)) (by decide)

end Ifaas.Flusher
