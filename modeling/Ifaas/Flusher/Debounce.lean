import Ifaas.Flusher.Coalescing
import Ifaas.Library.Clock

/-! The debounce window. The timer of a lane is armed by the first decision that waits and is
not moved by those that follow, so that however many come, each is on its way one window after
it was accepted, as late as the runtime is with the timer. -/
namespace Ifaas.Flusher
open Library

/-- The window in milliseconds, as configured. -/
structure Window where
  debounceWindow : Int := 0
deriving DecidableEq

def defaultDebounceWindow : Nat := 2000

def Window.withDefaults (w : Window) : Nat := if w.debounceWindow ≤ 0 then defaultDebounceWindow else w.debounceWindow.toNat

/-- What is dated: the timers when they are armed, the decisions when they are accepted. -/
inductive Made where
  | timer
  | ticket
deriving DecidableEq

def made : Made → Shared → Nat
  | .timer,s => s.nextTimer
  | .ticket,s => s.nextTicket

abbrev Timeline := Clocked Shared Task Made

def begun : Timeline := ⟨initial,0,fun _ _ => 0⟩

/-- A timer that was armed and whose function has not drained the lane yet. -/
def outstanding (p : Pool Shared Task) : List Timer :=
  p.shared.armed++p.tasks.filterMap (fun task => match task with | .flushSlow timer => some timer | _ => none)

/-- Time does not pass the end of a timer's window by more than the lag before its function has
had the lane; and nobody calls Stop. -/
def punctual (window lag : Nat) (c : Timeline) : Beat Choice Arrival → Bool
  | .tick time => (outstanding c.pool).all (fun timer => c.now + time ≤ c.madeAt .timer timer.id + window + lag)
  | .act act => act ≠ .outside .stop

def Punctual (window lag : Nat) (c : Timeline) (beat : Beat Choice Arrival) : Prop := punctual window lag c beat = true

theorem outstanding_of_alive (p : Pool Shared Task) (timer : Timer) (alive : Alive p timer) : timer ∈ outstanding p := by
  rcases alive with armed | fired
  · exact List.mem_append_left _ armed
  · exact List.mem_append_right _ (List.mem_filterMap.mpr ⟨_,fired,rfl⟩)

/-- What a step does to the queue of a lane. -/
inductive Queues (s s' : Shared) (ns : String) : Prop
  | same (pending : (s'.lane ns).pending = (s.lane ns).pending) (timer : (s'.lane ns).timer = (s.lane ns).timer)
  | drained (pending : (s'.lane ns).pending = []) (timer : (s'.lane ns).timer = none)
  | joins (new : Ticket) (seq : new.seq = s.nextTicket)
      (pending : ∀ t ∈ (s'.lane ns).pending, t ∈ (s.lane ns).pending ∨ t = new)
      (timed : (s.lane ns).timer ≠ none) (timer : (s'.lane ns).timer = (s.lane ns).timer)
  | arms (new : Ticket) (seq : new.seq = s.nextTicket)
      (pending : ∀ t ∈ (s'.lane ns).pending, t ∈ (s.lane ns).pending ∨ t = new)
      (idle : (s.lane ns).timer = none) (timer : (s'.lane ns).timer = some ⟨s.nextTimer,ns⟩) (next : s'.nextTimer = s.nextTimer + 1)

theorem accept_members (s : Shared) (d : Decision) (t : Ticket) (member : t ∈ ((s.accept d).lane d.ns).pending) :
    t ∈ (s.lane d.ns).pending ∨ t = s.ticket d := by
  rw [accept_pending,if_pos rfl] at member
  rcases List.mem_append.mp member with kept | added
  · exact Or.inl (List.mem_filter.mp kept).1
  · exact Or.inr (List.mem_singleton.mp added)

theorem accept_otherLane (s : Shared) (d : Decision) (ns : String) (away : ns ≠ d.ns) : (s.accept d).lane ns = s.lane ns := by
  rw [accept_lane,Function.update_of_ne away]

theorem drainLocked_queues (s t : Shared) (ns name : String) (lanes : ∀ other, other ≠ ns → t.lane other = s.lane other) :
    Queues s (t.drainLocked ns).1 name := by
  have lane := Shared.drainLocked_lane t ns
  by_cases here : name = ns
  · subst here
    refine .drained ?_ ?_ <;> rw [lane,Function.update_self]
  · refine .same ?_ ?_ <;> rw [lane,Function.update_of_ne here,lanes name here]

theorem advanced_queues (m : Manager) (s s' : Shared) (task : Task) (choice : Choice) (new : List Task)
    (moved : Advanced m s task choice s' new) (calm : task.stopping = false) (ns : String) : Queues s s' ns := by
  cases moved with
  | fast d one => exact drainLocked_queues s (s.accept d) d.ns ns (fun other away => accept_otherLane s d other away)
  | waiting d slow timed =>
    by_cases here : ns = d.ns
    · subst here
      rw [accept_timer] at timed
      exact .joins (s.ticket d) rfl (accept_members s d) timed (accept_timer s d)
    · have lane := accept_otherLane s d ns here
      exact .same (by rw [lane]) (by rw [lane])
  | arming d slow idle =>
    rw [accept_timer] at idle
    by_cases here : ns = d.ns
    · subst here
      have lane : ((s.accept d).afterFunc d.ns).lane d.ns =
          { (s.accept d).lane d.ns with timer := some ⟨s.nextTimer,d.ns⟩ } := Function.update_self _ _ _
      refine .arms (s.ticket d) rfl (fun t member => accept_members s d t ?_) idle (by rw [lane]) rfl
      rw [lane] at member
      exact member
    · have lane : ((s.accept d).afterFunc d.ns).lane ns = s.lane ns :=
        (Function.update_of_ne here _ _).trans (accept_otherLane s d ns here)
      exact .same (by rw [lane]) (by rw [lane])
  | flushed timer => exact drainLocked_queues s s timer.ns ns (fun _ _ => rfl)
  | worked t phase choice s' new moved =>
    have same := worked_queues m s s' t phase choice new moved
    exact .same (same.lane ns).1 (same.lane ns).2
  | _ => first | exact Bool.noConfusion calm | exact .same rfl rfl

theorem arrived_queues (s s' : Shared) (event : Arrival) (new : List Task) (moved : Arrived s event s' new) (ns : String) :
    Queues s s' ns := by
  cases moved <;> exact .same rfl rfl

theorem advanced_nextTimer (m : Manager) (s s' : Shared) (task : Task) (choice : Choice) (new : List Task)
    (moved : Advanced m s task choice s' new) : s.nextTimer ≤ s'.nextTimer := by
  have drained (t : Shared) (ns : String) : (t.drainLocked ns).1.nextTimer = t.nextTimer :=
    (congrArg Shared.nextTimer (Shared.drainLocked_rest t ns) :)
  cases moved with
  | fast d one => exact Nat.le_of_eq (drained (s.accept d) d.ns).symm
  | arming d slow idle => exact Nat.le_succ _
  | flushed timer => exact Nat.le_of_eq (drained s timer.ns).symm
  | timerStopped i before ns after => exact Nat.le_of_eq (congrArg Shared.nextTimer (Shared.stopTimer_rest s ns) :).symm
  | worked t phase choice s' new moved => cases moved <;> exact Nat.le_refl _
  | _ => exact Nat.le_refl _

/-- One step, lane by lane. -/
theorem step_queues (m : Manager) (p q : Pool Shared Task) (act : Act Choice Arrival) (calm : Calm p)
    (moved : (machine m).step p act = some q) :
    p.shared.nextTimer ≤ q.shared.nextTimer ∧ ∀ ns, Queues p.shared q.shared ns := by
  obtain ⟨i,choice,before,task,after,new,-,-,was,advanced,-⟩ | ⟨event,new,-,arrived,-⟩ := Machine.step_cases moved
  · have inverted := advance_advanced m _ _ task choice new advanced
    have here : task.stopping = false := calm.tasks task (by rw [was]; simp)
    exact ⟨advanced_nextTimer m _ _ task choice new inverted,advanced_queues m _ _ task choice new inverted here⟩
  · have inverted := arrive_arrived _ _ event new arrived
    refine ⟨?_,arrived_queues _ _ event new inverted⟩
    generalize q.shared = s' at *
    cases inverted <;> exact Nat.le_refl _

/-- The timer of a lane is no younger than the decisions that wait in it. -/
structure Debounced (window lag : Nat) (c : Timeline) : Prop where
  ordered : Ordered c.pool.shared
  carried : Carried c.pool
  calm : Calm c.pool
  timed : Timed c.pool
  dated : Machine.Dated c
  known : ∀ ns timer, (c.pool.shared.lane ns).timer = some timer → timer.id < c.pool.shared.nextTimer
  early : ∀ ns timer, (c.pool.shared.lane ns).timer = some timer → ∀ t ∈ (c.pool.shared.lane ns).pending,
    c.madeAt .timer timer.id ≤ c.madeAt .ticket t.seq
  due : ∀ ns, ∀ t ∈ (c.pool.shared.lane ns).pending, c.now ≤ c.madeAt .ticket t.seq + window + lag

theorem Ordered.waits_known {s : Shared} (inv : Ordered s) (ns : String) (t : Ticket) (member : t ∈ (s.lane ns).pending) :
    t.seq < s.nextTicket :=
  inv.fresh t (inv.latest ns t member).1

/-- Time passes: the lane's timer says that no decision is late. -/
theorem tick_debounced (window lag time : Nat) (c next : Timeline) (inv : Debounced window lag c)
    (inTime : Punctual window lag c (.tick time)) (pool : next.pool = c.pool) (now : next.now = c.now + time)
    (same : next.madeAt = c.madeAt) : Debounced window lag next := by
  obtain ⟨p,n,born⟩ := next
  cases pool
  cases now
  cases same
  refine ⟨inv.ordered,inv.carried,inv.calm,inv.timed,fun kind i => ?_,inv.known,inv.early,fun ns t member => ?_⟩
  · exact Nat.le_trans (inv.dated kind i) (Nat.le_add_right _ _)
  · have waits : (c.pool.shared.lane ns).pending ≠ [] := List.ne_nil_of_mem member
    obtain ⟨timer,held⟩ := Option.ne_none_iff_exists'.mp (inv.timed.timed ns waits)
    have alive := (inv.timed.alive ns timer held).2
    have bound := of_decide_eq_true (List.all_eq_true.mp inTime timer (outstanding_of_alive c.pool timer alive))
    have early := inv.early ns timer held t member
    change c.now + time ≤ c.madeAt .ticket t.seq + window + lag
    omega

/-- An act: the decision that joins a lane is younger than its timer, or arms it. -/
theorem act_debounced (m : Manager) (window lag : Nat) (c next : Timeline) (act : Act Choice Arrival)
    (inv : Debounced window lag c) (quiet : act ≠ .outside .stop) (moved : (machine m).step c.pool act = some next.pool)
    (now : next.now = c.now) (dated : Machine.Dated next)
    (old : ∀ kind i, i < made kind c.pool.shared → next.madeAt kind i = c.madeAt kind i)
    (fresh : ∀ kind i, made kind c.pool.shared ≤ i → next.madeAt kind i = c.now) : Debounced window lag next := by
  obtain ⟨ordered,carried⟩ := step_queue m _ _ act inv.ordered inv.carried moved
  obtain ⟨later,queues⟩ := step_queues m _ _ act inv.calm moved
  have kept (ns : String) (t : Ticket) (member : t ∈ (c.pool.shared.lane ns).pending) :
      next.madeAt .ticket t.seq = c.madeAt .ticket t.seq := old .ticket t.seq (inv.ordered.waits_known ns t member)
  refine ⟨ordered,carried,step_calm m _ _ act inv.calm quiet moved,step_timed m _ _ act inv.calm inv.timed moved,dated,
    fun ns timer held => ?_,fun ns timer held t member => ?_,fun ns t member => ?_⟩
  · cases queues ns with
    | same pending timed => exact Nat.lt_of_lt_of_le (inv.known ns timer (timed ▸ held)) later
    | drained pending timed =>
      rw [timed] at held
      cases held
    | joins new seq pending busy timed => exact Nat.lt_of_lt_of_le (inv.known ns timer (timed ▸ held)) later
    | arms new seq pending idle timed count =>
      rw [timed] at held
      cases held
      rw [count]
      exact Nat.lt_succ_self _
  · cases queues ns with
    | same pending timed =>
      rw [pending] at member
      rw [timed] at held
      rw [kept ns t member,old .timer timer.id (inv.known ns timer held)]
      exact inv.early ns timer held t member
    | drained pending timed =>
      rw [pending] at member
      cases member
    | joins new seq pending busy timed =>
      rw [timed] at held
      rw [old .timer timer.id (inv.known ns timer held)]
      rcases pending t member with waited | rfl
      · rw [kept ns t waited]
        exact inv.early ns timer held t waited
      · rw [fresh .ticket t.seq (Nat.le_of_eq seq.symm)]
        exact inv.dated .timer timer.id
    | arms new seq pending idle timed count =>
      -- without a timer nothing waited, so the decision is the first one
      have none : (c.pool.shared.lane ns).pending = [] := by
        by_contra waits
        exact inv.timed.timed ns waits idle
      rw [timed] at held
      cases held
      rcases pending t member with waited | rfl
      · rw [none] at waited
        cases waited
      · rw [fresh .ticket t.seq (Nat.le_of_eq seq.symm),fresh .timer c.pool.shared.nextTimer (Nat.le_refl _)]
  · have added (t : Ticket) (seq : t.seq = c.pool.shared.nextTicket) : next.now ≤ next.madeAt .ticket t.seq + window + lag := by
      rw [now,fresh .ticket t.seq (Nat.le_of_eq seq.symm)]
      omega
    have waited (t : Ticket) (member : t ∈ (c.pool.shared.lane ns).pending) :
        next.now ≤ next.madeAt .ticket t.seq + window + lag := by
      rw [now,kept ns t member]
      exact inv.due ns t member
    cases queues ns with
    | same pending timed => exact waited t (pending ▸ member)
    | drained pending timed =>
      rw [pending] at member
      cases member
    | joins new seq pending busy timed => exact (pending t member).elim (waited t) (fun same => added t (same ▸ seq))
    | arms new seq pending idle timed count => exact (pending t member).elim (waited t) (fun same => added t (same ▸ seq))

theorem beat_debounced (m : Manager) (window lag : Nat) (c : Timeline) (beat : Beat Choice Arrival) (next : Timeline)
    (inv : Debounced window lag c) (inTime : Punctual window lag c beat) (moved : (machine m).beat made c beat = some next) :
    Debounced window lag next := by
  have dated := Machine.beat_dated moved inv.dated
  obtain ⟨time,rfl,pool,now,same⟩ | ⟨act,rfl,stepped,now,old,fresh⟩ := Machine.beat_cases moved
  · exact tick_debounced window lag time c next inv inTime pool now same
  · exact act_debounced m window lag c next act inv (of_decide_eq_true inTime) stepped now dated old fresh

/-- On a run against the clock, while Stop is not called, no decision waits in its lane for longer
than the window and the lag of its timer, however many decisions are accepted meanwhile. -/
theorem debounce_bounded (cfg : Config) (sink : Bool) (w : Window) (lag : Nat) (beats : List (Beat Choice Arrival))
    (inTime : (machine (new cfg sink)).InTime made (Punctual w.withDefaults lag) begun beats) (c : Timeline)
    (ran : (machine (new cfg sink)).beats made begun beats = some c) :
    (machine (new cfg sink)).run initial (beats.flatMap Beat.acts) = some c.pool ∧
    ∀ ns, ∀ t ∈ (c.pool.shared.lane ns).pending, c.now ≤ c.madeAt .ticket t.seq + w.withDefaults + lag := by
  have start : Debounced w.withDefaults lag begun :=
    ⟨ordered_initial,fun _ => rfl,⟨nofun,rfl⟩,⟨nofun,fun _ waits => absurd rfl waits,nofun⟩,fun _ _ => Nat.le_refl _,nofun,
      nofun,nofun⟩
  have inv := Machine.beats_invariant (Debounced w.withDefaults lag) (beat_debounced (new cfg sink) w.withDefaults lag)
    begun c beats start inTime ran
  exact ⟨Machine.beats_run begun c beats ran,inv.due⟩

namespace Sample

/-- A second decision follows three quarters of a window after the first; the timer of the
first one is late by a tenth of a second. -/
def late : List (Beat Choice Arrival) :=
  [.act (.outside (.call (decision "web" 0))),.act (.task 0 .go),.tick 1500,.act (.outside (.call (decision "api" 0))),
    .act (.task 1 .go),.tick 600]

end Sample

theorem debounce_bounded_sample :
    ∃ c, (machine (new {} false)).beats made begun Sample.late = some c ∧ c.now = 2100 ∧
      (c.pool.shared.lane "prod").pending = [⟨0,Sample.decision "web" 0⟩,⟨1,Sample.decision "api" 0⟩] ∧
      c.now ≤ c.madeAt .ticket 0 + 2000 + 100 ∧ c.madeAt .ticket 0 = 0 := by
  have ends : ((machine (new {} false)).beats made begun Sample.late).map (fun c =>
      ((c.pool.shared.lane "prod").pending,c.now,c.madeAt .ticket 0)) =
      some ([⟨0,Sample.decision "web" 0⟩,⟨1,Sample.decision "api" 0⟩],2100,0) := by decide +kernel
  obtain ⟨c,ran,found⟩ := Option.map_eq_some_iff.mp ends
  obtain ⟨pending,found⟩ := Prod.mk.inj found
  obtain ⟨now,made⟩ := Prod.mk.inj found
  have inTime : (machine (new {} false)).InTime Flusher.made (Punctual (Window.withDefaults {}) 100) begun Sample.late :=
    Machine.inTime_sound (punctual (Window.withDefaults {}) 100) (fun _ _ => id) _ _ (by decide +kernel)
  obtain ⟨-,due⟩ := debounce_bounded {} false {} 100 Sample.late inTime c ran
  exact ⟨c,ran,now,pending,due "prod" ⟨0,Sample.decision "web" 0⟩ (by rw [pending]; decide),made⟩

end Ifaas.Flusher
