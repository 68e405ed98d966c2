import Mathlib.Logic.Basic
import Mathlib.Tactic.Common

/-! Programs that talk to a server by typed requests. A program is a tree: it has
returned, or it issues a request and goes on with the response. Every call may be
refused, may take effect and lose its response, or may be answered; the server's
state may drift before each call, and a run may stop anywhere. `Ensures` is the
rule format for such runs and `Passes` repeats one program. -/
namespace Ifaas.Library

inductive Program (Req : Type) (Resp : Req → Type) (α : Type) where
  | pure (value : α)
  | call (request : Req) (next : Resp request → Program Req Resp α)

namespace Program
variable {Req : Type} {Resp : Req → Type} {α β : Type}

def bind (p : Program Req Resp α) (f : α → Program Req Resp β) : Program Req Resp β :=
  match p with
  | .pure value => f value
  | .call r next => .call r (fun response => (next response).bind f)

instance : Monad (Program Req Resp) where
  pure := Program.pure
  bind := Program.bind

/-- Issue one request and return its response. -/
def request (r : Req) : Program Req Resp (Resp r) := .call r .pure

theorem bind_call (r : Req) (next : Resp r → Program Req Resp α) (f : α → Program Req Resp β) :
    (Program.call r next >>= f) = .call r (fun response => next response >>= f) := rfl

theorem bind_assoc {γ : Type} (p : Program Req Resp α) (f : α → Program Req Resp β) (g : β → Program Req Resp γ) :
    ((p >>= f) >>= g) = (p >>= fun value => f value >>= g) := by
  induction p with
  | pure value => rfl
  | call r next ih =>
    simp only [bind_call]
    congr 1
    funext response
    exact ih response

/-- Every request the program can issue is allowed, whatever the responses are. -/
def Uses (allowed : Req → Prop) : Program Req Resp α → Prop
  | .pure _ => True
  | .call r next => allowed r ∧ ∀ response, (next response).Uses allowed

theorem uses_pure (allowed : Req → Prop) (value : α) :
    Uses allowed (Pure.pure value : Program Req Resp α) := trivial

theorem uses_request {allowed : Req → Prop} {r : Req} (fine : allowed r) :
    Uses allowed (request r : Program Req Resp (Resp r)) := ⟨fine,fun _ => trivial⟩

theorem uses_bind {allowed : Req → Prop} {p : Program Req Resp α} {f : α → Program Req Resp β}
    (first : p.Uses allowed) (rest : ∀ value, (f value).Uses allowed) : (p >>= f).Uses allowed := by
  induction p with
  | pure value => exact rest value
  | call r next ih => exact ⟨first.1,fun response => ih response (first.2 response)⟩

theorem uses_mono (allowed wider : Req → Prop) (p : Program Req Resp α)
    (inside : ∀ r, allowed r → wider r) (uses : p.Uses allowed) : p.Uses wider := by
  induction p with
  | pure value => trivial
  | call r next ih => exact ⟨inside r uses.1,fun response => ih response (uses.2 response)⟩

/-- Every value the program can return satisfies `P`, whatever the responses are. -/
def Returns (P : α → Prop) : Program Req Resp α → Prop
  | .pure value => P value
  | .call _ next => ∀ response, (next response).Returns P

/-- `uses_bind` where the rest is only reached with values the first part can return. -/
theorem uses_bind_returns (allowed : Req → Prop) (P : α → Prop) (p : Program Req Resp α)
    (f : α → Program Req Resp β) (first : p.Uses allowed) (returns : p.Returns P)
    (rest : ∀ value, P value → (f value).Uses allowed) : (p >>= f).Uses allowed := by
  induction p with
  | pure value => exact rest value returns
  | call r next ih => exact ⟨first.1,fun response => ih response (first.2 response) (returns response)⟩

theorem returns_pure (P : α → Prop) (value : α) (holds : P value) :
    Returns P (Pure.pure value : Program Req Resp α) := holds

theorem returns_true (p : Program Req Resp α) : p.Returns (fun _ => True) := by
  induction p with
  | pure value => trivial
  | call r next ih => exact fun response => ih response

theorem returns_mono (P Q : α → Prop) (p : Program Req Resp α) (inside : ∀ value, P value → Q value)
    (returns : p.Returns P) : p.Returns Q := by
  induction p with
  | pure value => exact inside value returns
  | call r next ih => exact fun response => ih response (returns response)

theorem returns_and (P Q : α → Prop) (p : Program Req Resp α) (first : p.Returns P) (second : p.Returns Q) :
    p.Returns (fun value => P value ∧ Q value) := by
  induction p with
  | pure value => exact ⟨first,second⟩
  | call r next ih => exact fun answer => ih answer (first answer) (second answer)

theorem returns_bind (P : α → Prop) {Q : β → Prop} {p : Program Req Resp α} {f : α → Program Req Resp β}
    (first : p.Returns P) (rest : ∀ value, P value → (f value).Returns Q) : (p >>= f).Returns Q := by
  induction p with
  | pure value => exact rest value first
  | call r next ih => exact fun response => ih response (first response)

end Program

/-- What happens to one call: it is answered, it is refused without effect, or it
takes effect and the caller sees an error. -/
inductive Fault (E : Type) where
  | none
  | refused (error : E)
  | lost (error : E)
deriving DecidableEq

structure Server (Req : Type) (Resp : Req → Type) (E S : Type) where
  effect : S → (r : Req) → S × Resp r
  fail : (r : Req) → E → Resp r

structure Event (Req : Type) (Resp : Req → Type) (E S : Type) where
  before : S
  fault : Fault E
  request : Req
  response : Resp request

/-- The call was not refused: whatever it does to the server has been done. -/
def Event.Took {Req : Type} {Resp : Req → Type} {E S : Type} (e : Event Req Resp E S) : Prop :=
  ∀ error, e.fault ≠ .refused error

/-- Every call was answered. -/
def Clean {Req : Type} {Resp : Req → Type} {E S : Type} (log : List (Event Req Resp E S)) : Prop :=
  ∀ e ∈ log, e.fault = .none

namespace Server
variable {Req : Type} {Resp : Req → Type} {E S : Type}

def serve (sv : Server Req Resp E S) (fault : Fault E) (s : S) (r : Req) : S × Resp r :=
  match fault with
  | .none => sv.effect s r
  | .refused error => (s,sv.fail r error)
  | .lost error => ((sv.effect s r).1,sv.fail r error)

def event (sv : Server Req Resp E S) (fault : Fault E) (s : S) (r : Req) : Event Req Resp E S :=
  ⟨s,fault,r,(sv.serve fault s r).2⟩

theorem event_answered (sv : Server Req Resp E S) {fault : Fault E} {s : S} {r : Req} {answer : Resp r}
    (answered : (sv.serve fault s r).2 = answer) : sv.event fault s r = ⟨s,fault,r,answer⟩ := by
  rw [event,answered]

theorem serve_state (sv : Server Req Resp E S) (fault : Fault E) (s : S) (r : Req) :
    (sv.serve fault s r).1 = s ∨
      (sv.serve fault s r).1 = (sv.effect s r).1 ∧ (sv.event fault s r).Took := by
  cases fault with
  | none => exact Or.inr ⟨rfl,nofun⟩
  | refused error => exact Or.inl rfl
  | lost error => exact Or.inr ⟨rfl,nofun⟩

/-- A call either does nothing, because it was refused, or has its effect. -/
theorem serve_cases (sv : Server Req Resp E S) (fault : Fault E) (s : S) (r : Req) :
    ((sv.serve fault s r).1 = s ∧ ¬ (sv.event fault s r).Took) ∨
      ((sv.serve fault s r).1 = (sv.effect s r).1 ∧ (sv.event fault s r).Took) := by
  cases fault with
  | none => exact Or.inr ⟨rfl,nofun⟩
  | refused error => exact Or.inl ⟨rfl,fun took => took error rfl⟩
  | lost error => exact Or.inr ⟨rfl,nofun⟩

theorem clean_fault {sv : Server Req Resp E S} {fault : Fault E} {s : S} {r : Req} {log : List (Event Req Resp E S)}
    (clean : Clean (log++[sv.event fault s r])) : fault = .none := clean (sv.event fault s r) (by simp)

theorem serve_clean {sv : Server Req Resp E S} {fault : Fault E} {s : S} {r : Req} {log : List (Event Req Resp E S)}
    (clean : Clean (log++[sv.event fault s r])) : sv.serve fault s r = sv.effect s r := by
  rw [clean_fault clean]
  rfl

end Server

variable {Req : Type} {Resp : Req → Type} {E S α β : Type}

theorem Clean.left (first second : List (Event Req Resp E S)) (clean : Clean (first++second)) : Clean first :=
  fun e member => clean e (List.mem_append_left _ member)

/-- The runs of a program: `log` lists the calls made, `out` is what it returned,
or `none` for a run that stopped on the way. -/
inductive Run (sv : Server Req Resp E S) (drift : S → S → Prop) :
    Program Req Resp α → S → List (Event Req Resp E S) → Option α → S → Prop where
  | stop (p : Program Req Resp α) (s : S) : Run sv drift p s [] none s
  | done (value : α) (s : S) : Run sv drift (.pure value) s [] (some value) s
  | call (r : Req) (next : Resp r → Program Req Resp α) (s t u : S) (fault : Fault E)
      (log : List (Event Req Resp E S)) (out : Option α) (moved : drift s t)
      (rest : Run sv drift (next (sv.serve fault t r).2) (sv.serve fault t r).1 log out u) :
      Run sv drift (.call r next) s (sv.event fault t r::log) out u

section Runs
variable {sv : Server Req Resp E S} {drift : S → S → Prop}

theorem run_pure {value : α} {s t : S} {log : List (Event Req Resp E S)} {out : Option α}
    (run : Run sv drift (pure value : Program Req Resp α) s log out t) :
    log = [] ∧ t = s ∧ ∀ v, out = some v → v = value := by
  cases run with
  | stop => exact ⟨rfl,rfl,nofun⟩
  | done => exact ⟨rfl,rfl,fun v same => (Option.some.inj same).symm⟩

/-- A program that only returns has returned its value. -/
theorem run_return {value out : α} {s t : S} {log : List (Event Req Resp E S)}
    (run : Run sv drift (pure value : Program Req Resp α) s log (some out) t) : log = [] ∧ t = s ∧ out = value := by
  obtain ⟨none,same,returned⟩ := run_pure run
  exact ⟨none,same,returned out rfl⟩

theorem run_bind (p : Program Req Resp α) (f : α → Program Req Resp β) (s t : S)
    (log : List (Event Req Resp E S)) (out : Option β) (run : Run sv drift (p >>= f) s log out t) :
    (out = none ∧ Run sv drift p s log none t) ∨
    ∃ value m first rest, log = first++rest ∧ Run sv drift p s first (some value) m ∧
      Run sv drift (f value) m rest out t := by
  induction p generalizing s log with
  | pure value => exact Or.inr ⟨value,s,[],log,rfl,.done value s,run⟩
  | call r next ih =>
    rw [Program.bind_call] at run
    cases run with
    | stop => exact Or.inl ⟨rfl,.stop _ _⟩
    | call r next' s m t fault log out moved rest =>
      rcases ih _ _ _ rest with ⟨stopped,first⟩ | ⟨value,k,first,second,rfl,ran,after⟩
      · exact Or.inl ⟨stopped,.call r next s m t fault log none moved first⟩
      · exact Or.inr ⟨value,k,_,second,rfl,.call r next s m k fault first _ moved ran,after⟩

/-- A sequence that returned has run both its parts. -/
theorem run_bind_some {p : Program Req Resp α} {f : α → Program Req Resp β} {s t : S}
    {log : List (Event Req Resp E S)} {out : β} (run : Run sv drift (p >>= f) s log (some out) t) :
    ∃ value m first rest, log = first++rest ∧ Run sv drift p s first (some value) m ∧
      Run sv drift (f value) m rest (some out) t := by
  rcases run_bind _ _ _ _ _ _ run with ⟨stopped,_⟩ | both
  · cases stopped
  · exact both

theorem run_call {r : Req} {next : Resp r → Program Req Resp α} {s t : S} {log : List (Event Req Resp E S)}
    {out : Option α} (run : Run sv drift (.call r next) s log out t) :
    (log = [] ∧ out = none ∧ t = s) ∨
    ∃ m fault rest, drift s m ∧ log = sv.event fault m r::rest ∧
      Run sv drift (next (sv.serve fault m r).2) (sv.serve fault m r).1 rest out t := by
  cases run with
  | stop => exact Or.inl ⟨rfl,rfl,rfl⟩
  | call r next s m t fault log out moved rest => exact Or.inr ⟨m,fault,log,moved,rfl,rest⟩

theorem run_request {r : Req} {s t : S} {log : List (Event Req Resp E S)} {value : Resp r}
    (run : Run sv drift (Program.request r) s log (some value) t) :
    ∃ m fault, drift s m ∧ log = [sv.event fault m r] ∧ sv.serve fault m r = (t,value) := by
  rcases run_call run with ⟨_,stopped,_⟩ | ⟨m,fault,rest,moved,rfl,following⟩
  · cases stopped
  · obtain ⟨rfl,rfl,rfl⟩ := run_return following
    exact ⟨m,fault,moved,rfl,rfl⟩

/-- A sequence that begins with a request and returned: the call, its answer and the rest. -/
theorem run_ask {r : Req} {f : Resp r → Program Req Resp α} {s t : S} {log : List (Event Req Resp E S)} {out : α}
    (run : Run sv drift (Program.request r >>= f) s log (some out) t) :
    ∃ answer before fault after rest, drift s before ∧ sv.serve fault before r = (after,answer) ∧
      log = [⟨before,fault,r,answer⟩]++rest ∧ Run sv drift (f answer) after rest (some out) t := by
  obtain ⟨answer,after,first,rest,rfl,asked,following⟩ := run_bind_some run
  obtain ⟨before,fault,moved,rfl,served⟩ := run_request asked
  rw [sv.event_answered (congrArg Prod.snd served)]
  exact ⟨answer,before,fault,after,rest,moved,served,rfl,following⟩

/-- A run is determined by its calls: after the calls of a first part that returned it
goes on with the second. -/
theorem run_bind_rest (p : Program Req Resp α) (f : α → Program Req Resp β) (s m t : S) (value : α)
    (first rest : List (Event Req Resp E S)) (out : Option β) (ran : Run sv drift p s first (some value) m)
    (run : Run sv drift (p >>= f) s (first++rest) out t) : Run sv drift (f value) m rest out t := by
  induction p generalizing s first with
  | pure v =>
    cases ran with
    | done => exact run
  | call r next ih =>
    rcases run_call ran with ⟨_,stopped,_⟩ | ⟨k,fault,more,_,rfl,following⟩
    · cases stopped
    · rcases run_call run with ⟨empty,_,_⟩ | ⟨k',fault',other,_,same,after⟩
      · cases empty
      · obtain ⟨event,calls⟩ := List.cons.inj same
        have state : k = k' := congrArg Event.before event
        have outcome : fault = fault' := congrArg Event.fault event
        subst state
        subst outcome
        rw [← calls] at after
        exact ih _ _ _ following after

theorem run_drift (wider : S → S → Prop) (inside : ∀ s t, drift s t → wider s t) (p : Program Req Resp α) (s t : S)
    (log : List (Event Req Resp E S)) (out : Option α) (run : Run sv drift p s log out t) : Run sv wider p s log out t := by
  induction run with
  | stop p s => exact .stop p s
  | done value s => exact .done value s
  | call r next s m u fault log out moved rest ih => exact .call r next s m u fault log out (inside s m moved) ih

/-- Before each of its calls a run could have stopped; only drift lies between. -/
theorem run_before (p : Program Req Resp α) (s t : S) (before after : List (Event Req Resp E S))
    (e : Event Req Resp E S) (out : Option α) (run : Run sv drift p s (before++e::after) out t) :
    ∃ m, Run sv drift p s before none m ∧ drift m e.before := by
  induction before generalizing p s with
  | nil =>
    cases run with
    | call r next s m t fault log out moved rest => exact ⟨s,.stop _ s,moved⟩
  | cons first before ih =>
    cases run with
    | call r next s m t fault log out moved rest =>
      obtain ⟨k,ran,gap⟩ := ih _ _ rest
      exact ⟨k,.call r next s m k fault before none moved ran,gap⟩

/-- From state `s` and calls `past`, every run of `p` keeps `I` wherever it stops
and has `Q` where it returns. -/
def Ensures (sv : Server Req Resp E S) (drift : S → S → Prop)
    (I : S → List (Event Req Resp E S) → Prop) (p : Program Req Resp α)
    (Q : α → S → List (Event Req Resp E S) → Prop) (s : S) (past : List (Event Req Resp E S)) : Prop :=
  ∀ log out t, Run sv drift p s log out t →
    I t (past++log) ∧ ∀ value, out = some value → Q value t (past++log)

variable {I : S → List (Event Req Resp E S) → Prop}

theorem ensures_pure {value : α} {Q : α → S → List (Event Req Resp E S) → Prop} {s : S}
    {past : List (Event Req Resp E S)} (inv : I s past) (post : Q value s past) :
    Ensures sv drift I (pure value) Q s past := by
  intro log out t run
  obtain ⟨rfl,rfl,returned⟩ := run_pure run
  rw [List.append_nil]
  exact ⟨inv,fun v same => returned v same ▸ post⟩

theorem ensures_call {r : Req} {next : Resp r → Program Req Resp α}
    {Q : α → S → List (Event Req Resp E S) → Prop} {s : S} {past : List (Event Req Resp E S)} (inv : I s past)
    (each : ∀ t fault, drift s t → Ensures sv drift I (next (sv.serve fault t r).2) Q
      (sv.serve fault t r).1 (past++[sv.event fault t r])) :
    Ensures sv drift I (.call r next) Q s past := by
  intro log out t run
  cases run with
  | stop =>
    rw [List.append_nil]
    exact ⟨inv,nofun⟩
  | call r next s m t fault log out moved rest =>
    have following := each m fault moved log out t rest
    rwa [List.append_assoc] at following

/-- `ensures_call` for a request at the head of a sequence. -/
theorem ensures_ask {r : Req} {f : Resp r → Program Req Resp α}
    {Q : α → S → List (Event Req Resp E S) → Prop} {s : S} {past : List (Event Req Resp E S)} (inv : I s past)
    (each : ∀ t fault, drift s t → Ensures sv drift I (f (sv.serve fault t r).2) Q
      (sv.serve fault t r).1 (past++[sv.event fault t r])) :
    Ensures sv drift I (Program.request r >>= f) Q s past :=
  ensures_call inv each

theorem ensures_inv (J : S → List (Event Req Resp E S) → Prop) (p : Program Req Resp α)
    (Q : α → S → List (Event Req Resp E S) → Prop) (s : S) (past : List (Event Req Resp E S))
    (weaker : ∀ t log, I t log → J t log) (holds : Ensures sv drift I p Q s past) :
    Ensures sv drift J p Q s past := by
  intro log out t run
  obtain ⟨inv,post⟩ := holds log out t run
  exact ⟨weaker _ _ inv,post⟩

theorem ensures_bind {p : Program Req Resp α} {f : α → Program Req Resp β}
    {Q : β → S → List (Event Req Resp E S) → Prop} {s : S} {past : List (Event Req Resp E S)}
    (first : Ensures sv drift I p (fun value => Ensures sv drift I (f value) Q) s past) :
    Ensures sv drift I (p >>= f) Q s past := by
  intro log out t run
  rcases run_bind p f s t log out run with ⟨rfl,ran⟩ | ⟨value,m,before,after,rfl,ran,following⟩
  · exact ⟨(first log none t ran).1,nofun⟩
  · have rest := (first before (some value) m ran).2 value rfl after out t following
    rwa [List.append_assoc] at rest

theorem ensures_mono {p : Program Req Resp α} {Q R : α → S → List (Event Req Resp E S) → Prop} {s : S}
    {past : List (Event Req Resp E S)} (holds : Ensures sv drift I p Q s past)
    (weaker : ∀ value t log, Run sv drift p s log (some value) t → Q value t (past++log) → R value t (past++log)) :
    Ensures sv drift I p R s past := by
  intro log out t run
  obtain ⟨inv,post⟩ := holds log out t run
  refine ⟨inv,fun value returned => ?_⟩
  subst returned
  exact weaker value t log run (post value rfl)

/-- Two properties of one program are shown one by one. -/
theorem ensures_and (J : S → List (Event Req Resp E S) → Prop) (p : Program Req Resp α)
    (Q R : α → S → List (Event Req Resp E S) → Prop) (s : S) (past : List (Event Req Resp E S))
    (first : Ensures sv drift I p Q s past) (second : Ensures sv drift J p R s past) :
    Ensures sv drift (fun t log => I t log ∧ J t log) p (fun value t log => Q value t log ∧ R value t log) s past := by
  intro log out t run
  obtain ⟨inv,post⟩ := first log out t run
  obtain ⟨inv',post'⟩ := second log out t run
  exact ⟨⟨inv,inv'⟩,fun value returned => ⟨post value returned,post' value returned⟩⟩

/-- Where a run returns, the invariant holds as well. -/
theorem ensures_both (p : Program Req Resp α) (Q : α → S → List (Event Req Resp E S) → Prop) (s : S)
    (past : List (Event Req Resp E S)) (holds : Ensures sv drift I p Q s past) :
    Ensures sv drift I p (fun value t log => I t log ∧ Q value t log) s past := by
  intro log out t run
  obtain ⟨inv,post⟩ := holds log out t run
  exact ⟨inv,fun value returned => ⟨inv,post value returned⟩⟩

/-- A property kept by drift and by every allowed call is kept by a program that
makes no other calls. -/
theorem ensures_uses (allowed : Req → Prop)
    (stable : ∀ s t log, drift s t → I s log → I t log)
    (kept : ∀ s log fault r, allowed r → I s log → I (sv.serve fault s r).1 (log++[sv.event fault s r]))
    (p : Program Req Resp α) (uses : p.Uses allowed) (s : S) (past : List (Event Req Resp E S))
    (start : I s past) : Ensures sv drift I p (fun _ => I) s past := by
  induction p generalizing s past with
  | pure value => exact ensures_pure start start
  | call r next ih =>
    refine ensures_call start (fun t fault moved => ?_)
    exact ih _ (uses.2 _) _ _ (kept t past fault r uses.1 (stable s t past moved start))

theorem run_uses {allowed : Req → Prop} {p : Program Req Resp α} (uses : p.Uses allowed) {s t : S}
    {log : List (Event Req Resp E S)} {out : Option α} (run : Run sv drift p s log out t) :
    ∀ e ∈ log, allowed e.request := by
  induction run with
  | stop | done => simp
  | call r next s t u fault log out moved rest ih =>
    intro e member
    rcases List.mem_cons.mp member with rfl | inside
    · exact uses.1
    · exact ih (uses.2 _) e inside

theorem run_returns {P : α → Prop} {p : Program Req Resp α} (returns : p.Returns P) {s t : S} {value : α}
    {log : List (Event Req Resp E S)} (run : Run sv drift p s log (some value) t) : P value := by
  induction p generalizing s log with
  | pure v =>
    cases run with
    | done => exact returns
  | call r next ih =>
    cases run with
    | call r next s m t fault log out moved rest => exact ih _ (returns _) rest

theorem ensures_returns (P : α → Prop) (p : Program Req Resp α) (returns : p.Returns P)
    (Q : α → S → List (Event Req Resp E S) → Prop) (s : S) (past : List (Event Req Resp E S))
    (holds : Ensures sv drift I p Q s past) :
    Ensures sv drift I p (fun value t log => P value ∧ Q value t log) s past :=
  ensures_mono holds
    (fun _ _ _ run post => ⟨run_returns returns run,post⟩)

end Runs

/-- The program's result when every call is answered and nothing drifts. -/
def Server.succeed (sv : Server Req Resp E S) : Program Req Resp α → S → α × S
  | .pure value,s => (value,s)
  | .call r next,s => sv.succeed (next (sv.effect s r).2) (sv.effect s r).1

theorem succeed_ask (sv : Server Req Resp E S) (r : Req) (f : Resp r → Program Req Resp α) (s : S) :
    sv.succeed (Program.request r >>= f) s = sv.succeed (f (sv.effect s r).2) (sv.effect s r).1 := rfl

theorem succeed_bind (sv : Server Req Resp E S) (p : Program Req Resp α) (f : α → Program Req Resp β) (s : S) :
    sv.succeed (p >>= f) s = sv.succeed (f (sv.succeed p s).1) (sv.succeed p s).2 := by
  induction p generalizing s with
  | pure value => rfl
  | call r next ih => exact ih _ _

theorem succeed_then {sv : Server Req Resp E S} {p : Program Req Resp α} {s t : S} {value : α}
    (ran : sv.succeed p s = (value,t)) (f : α → Program Req Resp β) : sv.succeed (p >>= f) s = sv.succeed (f value) t := by
  rw [succeed_bind,ran]

theorem run_succeed (sv : Server Req Resp E S) (drift : S → S → Prop) (still : ∀ s, drift s s)
    (p : Program Req Resp α) (s : S) :
    ∃ log, Run sv drift p s log (some (sv.succeed p s).1) (sv.succeed p s).2 ∧ Clean log := by
  induction p generalizing s with
  | pure value => exact ⟨[],.done value s,by simp [Clean]⟩
  | call r next ih =>
    obtain ⟨log,run,clean⟩ := ih (sv.effect s r).2 (sv.effect s r).1
    refine ⟨_,.call r next s s _ .none log _ (still s) run,?_⟩
    intro e member
    rcases List.mem_cons.mp member with rfl | inside
    · rfl
    · exact clean e inside

/-- Run the program against a list of faults, one for each call; the run stops
where the list ends. -/
def Server.exec (sv : Server Req Resp E S) :
    Program Req Resp α → List (Fault E) → S → List (Event Req Resp E S) × Option α × S
  | .pure value,_,s => ([],some value,s)
  | .call _ _,[],s => ([],none,s)
  | .call r next,fault::faults,s =>
    let (log,out,t) := sv.exec (next (sv.serve fault s r).2) faults (sv.serve fault s r).1
    (sv.event fault s r::log,out,t)

theorem run_exec (sv : Server Req Resp E S) (drift : S → S → Prop) (still : ∀ s, drift s s)
    (p : Program Req Resp α) (faults : List (Fault E)) (s : S) :
    Run sv drift p s (sv.exec p faults s).1 (sv.exec p faults s).2.1 (sv.exec p faults s).2.2 := by
  induction p generalizing faults s with
  | pure value => exact .done value s
  | call r next ih =>
    cases faults with
    | nil => exact .stop _ s
    | cons fault faults => exact .call r next s s _ fault _ _ (still s) (ih _ faults _)

/-- The calls of a first part that returns come first. -/
theorem exec_bind (sv : Server Req Resp E S) (p : Program Req Resp α) (f : α → Program Req Resp β) (faults : List (Fault E))
    (s : S) (value : α) (returned : (sv.exec p faults s).2.1 = some value) :
    ∃ rest, (sv.exec (p >>= f) faults s).1 = (sv.exec p faults s).1++rest := by
  induction p generalizing faults s with
  | pure v => exact ⟨_,rfl⟩
  | call r next ih =>
    cases faults with
    | nil => cases returned
    | cons fault faults =>
      obtain ⟨rest,same⟩ := ih _ faults _ returned
      exact ⟨rest,congrArg (fun log => sv.event fault s r::log) same⟩

structure Pass (Req : Type) (Resp : Req → Type) (E S α : Type) where
  start : S
  log : List (Event Req Resp E S)
  out : Option α

/-- The program is run again and again, the state drifting in between. -/
inductive Passes (sv : Server Req Resp E S) (drift : S → S → Prop) (body : Program Req Resp α) :
    S → List (Pass Req Resp E S α) → S → Prop where
  | start (s : S) : Passes sv drift body s [] s
  | drift (s t u : S) (passes : List (Pass Req Resp E S α)) (before : Passes sv drift body s passes t)
      (moved : drift t u) : Passes sv drift body s passes u
  | pass (s t u : S) (passes : List (Pass Req Resp E S α)) (log : List (Event Req Resp E S)) (out : Option α)
      (before : Passes sv drift body s passes t) (run : Run sv drift body t log out u) :
      Passes sv drift body s (passes++[⟨t,log,out⟩]) u

/-- Run passes one after another, each against its own list of faults. -/
def Server.execPasses (sv : Server Req Resp E S) (body : Program Req Resp α) (scripts : List (List (Fault E)))
    (s : S) : List (Pass Req Resp E S α) × S :=
  scripts.foldl (fun done faults =>
    let (log,out,t) := sv.exec body faults done.2
    (done.1++[⟨done.2,log,out⟩],t)) ([],s)

theorem passes_exec (sv : Server Req Resp E S) (drift : S → S → Prop) (still : ∀ s, drift s s)
    (body : Program Req Resp α) (scripts : List (List (Fault E))) (s : S) :
    Passes sv drift body s (sv.execPasses body scripts s).1 (sv.execPasses body scripts s).2 := by
  have from_here (done : List (Pass Req Resp E S α) × S) (before : Passes sv drift body s done.1 done.2) :
      Passes sv drift body s
        (scripts.foldl (fun done faults =>
          let (log,out,t) := sv.exec body faults done.2
          (done.1++[⟨done.2,log,out⟩],t)) done).1
        (scripts.foldl (fun done faults =>
          let (log,out,t) := sv.exec body faults done.2
          (done.1++[⟨done.2,log,out⟩],t)) done).2 := by
    induction scripts generalizing done with
    | nil => exact before
    | cons faults scripts ih =>
      exact ih _ (.pass s done.2 _ done.1 _ _ before (run_exec sv drift still body faults done.2))
  exact from_here ([],s) (.start s)

/-- All calls of a list of passes, in order. -/
def history (passes : List (Pass Req Resp E S α)) : List (Event Req Resp E S) :=
  passes.flatMap (fun pass => pass.log)

theorem history_append (passes : List (Pass Req Resp E S α)) (pass : Pass Req Resp E S α) :
    history (passes++[pass]) = history passes ++ pass.log := by
  simp [history]

/-- What holds at the start, under drift and along every pass holds of all passes. -/
theorem passes_invariant (sv : Server Req Resp E S) (drift : S → S → Prop) (body : Program Req Resp α)
    (I : S → List (Event Req Resp E S) → Prop)
    (stable : ∀ s t log, drift s t → I s log → I t log)
    (step : ∀ s log, I s log → Ensures sv drift I body (fun _ => I) s log)
    (s t : S) (passes : List (Pass Req Resp E S α)) (start : I s [])
    (run : Passes sv drift body s passes t) : I t (history passes) := by
  induction run with
  | start => exact start
  | drift t u passes before moved ih => exact stable _ _ _ moved ih
  | pass t u passes log out before ran ih =>
    rw [history_append]
    exact (step _ _ ih log out u ran).1

end Ifaas.Library
