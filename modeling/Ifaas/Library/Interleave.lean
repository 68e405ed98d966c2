import Ifaas.Library.Program
import Ifaas.Library.History

/-! Programs that run side by side on one server. Each of them is started at some moment and
makes its calls one at a time, with anything in between; what a program guarantees of its
own calls in any environment holds of them in the common history. -/
namespace Ifaas.Library
variable {A Req : Type} {Resp : Req → Type} {E S : Type}

/-- A program under way: who runs it, what it still has to do, and the calls it made. -/
structure Strand (A Req : Type) (Resp : Req → Type) (E S : Type) where
  who : A
  rest : Program Req Resp Unit
  log : List (Event Req Resp E S)

/-- One call in the common history. -/
structure Turn (A Req : Type) (Resp : Req → Type) (E S : Type) where
  strand : Nat
  who : A
  event : Event Req Resp E S

structure Scene (A Req : Type) (Resp : Req → Type) (E S : Type) where
  strands : List (Strand A Req Resp E S)
  history : List (Turn A Req Resp E S)
  state : S

namespace Scene

def spawn (code : A → Program Req Resp Unit) (scene : Scene A Req Resp E S) (who : A) : Scene A Req Resp E S :=
  { scene with strands := scene.strands++[⟨who,code who,[]⟩] }

/-- The next call of one program; nothing happens where there is none. -/
def turn (sv : Server Req Resp E S) (scene : Scene A Req Resp E S) (i : Nat) (fault : Fault E) : Scene A Req Resp E S :=
  match scene.strands[i]? with
  | some ⟨who,.call r next,log⟩ =>
    { strands := scene.strands.set i ⟨who,next (sv.serve fault scene.state r).2,log++[sv.event fault scene.state r]⟩
      history := scene.history++[⟨i,who,sv.event fault scene.state r⟩]
      state := (sv.serve fault scene.state r).1 }
  | _ => scene

def turns (sv : Server Req Resp E S) (scene : Scene A Req Resp E S) (i : Nat) (faults : List (Fault E)) :
    Scene A Req Resp E S :=
  faults.foldl (fun scene fault => scene.turn sv i fault) scene

theorem turn_cases (sv : Server Req Resp E S) (scene : Scene A Req Resp E S) (i : Nat) (fault : Fault E) :
    scene.turn sv i fault = scene ∨ ∃ who r next log, scene.strands[i]? = some ⟨who,.call r next,log⟩ ∧
      scene.turn sv i fault =
        { strands := scene.strands.set i ⟨who,next (sv.serve fault scene.state r).2,log++[sv.event fault scene.state r]⟩
          history := scene.history++[⟨i,who,sv.event fault scene.state r⟩]
          state := (sv.serve fault scene.state r).1 } := by
  unfold turn
  split
  next who r next log held => exact Or.inr ⟨who,r,next,log,held,rfl⟩
  next => exact Or.inl rfl

end Scene

/-- What can be seen while programs run side by side: they are started where that is allowed,
they take turns, and the environment moves. -/
inductive Interleaved (sv : Server Req Resp E S) (code : A → Program Req Resp Unit) (env : S → S → Prop)
    (starts : List (Turn A Req Resp E S) → A → Prop) (first : S) : Scene A Req Resp E S → Prop where
  | start : Interleaved sv code env starts first ⟨[],[],first⟩
  | drift (scene : Scene A Req Resp E S) (t : S) (before : Interleaved sv code env starts first scene)
      (moved : env scene.state t) : Interleaved sv code env starts first { scene with state := t }
  | spawn (scene : Scene A Req Resp E S) (who : A) (before : Interleaved sv code env starts first scene)
      (allowed : starts scene.history who) : Interleaved sv code env starts first (scene.spawn code who)
  | turn (scene : Scene A Req Resp E S) (i : Nat) (fault : Fault E) (before : Interleaved sv code env starts first scene) :
      Interleaved sv code env starts first (scene.turn sv i fault)

/-- The calls of one program in the common history. -/
def own (i : Nat) (history : List (Turn A Req Resp E S)) : List (Event Req Resp E S) :=
  (history.filter (fun turn => turn.strand = i)).map (fun turn => turn.event)

theorem own_snoc (i : Nat) (history : List (Turn A Req Resp E S)) (turn : Turn A Req Resp E S) :
    own i (history++[turn]) = own i history++(if turn.strand = i then [turn.event] else []) := by
  unfold own
  rw [List.filter_append,List.map_append]
  by_cases here : turn.strand = i <;> simp [here]

theorem own_member (i : Nat) (history : List (Turn A Req Resp E S)) (e : Event Req Resp E S) (member : e ∈ own i history) :
    ∃ turn ∈ history, turn.strand = i ∧ turn.event = e := by
  obtain ⟨turn,there,same⟩ := List.mem_map.mp member
  obtain ⟨inside,strand⟩ := List.mem_filter.mp there
  exact ⟨turn,inside,of_decide_eq_true strand,same⟩

/-- A program whose calls were answered like this has that much left to do. -/
inductive Follows (sv : Server Req Resp E S) (p : Program Req Resp Unit) :
    List (Event Req Resp E S) → Program Req Resp Unit → Prop where
  | start : Follows sv p [] p
  | call (log : List (Event Req Resp E S)) (r : Req) (next : Resp r → Program Req Resp Unit) (s : S) (fault : Fault E)
      (before : Follows sv p log (.call r next)) :
      Follows sv p (log++[sv.event fault s r]) (next (sv.serve fault s r).2)

section Runs
variable {sv : Server Req Resp E S} {code : A → Program Req Resp Unit} {env : S → S → Prop}
  {starts : List (Turn A Req Resp E S) → A → Prop} {first : S}

theorem follows_append (fine : S → Prop) (p q : Program Req Resp Unit) (log more : List (Event Req Resp E S))
    (follows : Follows sv p log q) (safe : ∀ e ∈ log, fine e.before)
    (further : ∀ s, ∃ t, Run sv (fun _ t => fine t) q s more none t) (s : S) :
    ∃ t, Run sv (fun _ t => fine t) p s (log++more) none t := by
  induction follows generalizing more s with
  | start => exact further s
  | call log r next at_ fault before ih =>
    rw [List.append_assoc]
    refine ih _ (fun e member => safe e (List.mem_append_left _ member)) (fun u => ?_) s
    obtain ⟨t,run⟩ := further (sv.serve fault at_ r).1
    exact ⟨t,.call r next u at_ t fault more none (safe _ (List.mem_append_right _ (List.mem_singleton_self _))) run⟩

theorem follows_run (fine : S → Prop) (p q : Program Req Resp Unit) (log : List (Event Req Resp E S)) (follows : Follows sv p log q)
    (safe : ∀ e ∈ log, fine e.before) (s : S) : ∃ t, Run sv (fun _ t => fine t) p s log none t := by
  have ends := follows_append fine p q log [] follows safe (fun t => ⟨t,.stop q t⟩) s
  rwa [List.append_nil] at ends

theorem interleaved_turns (scene : Scene A Req Resp E S) (i : Nat) (faults : List (Fault E))
    (run : Interleaved sv code env starts first scene) : Interleaved sv code env starts first (scene.turns sv i faults) := by
  induction faults generalizing scene with
  | nil => exact run
  | cons fault rest ih => exact ih _ (.turn scene i fault run)

/-- No program has a part in the history before it is started. -/
theorem interleaved_bound (scene : Scene A Req Resp E S) (run : Interleaved sv code env starts first scene) :
    ∀ turn ∈ scene.history, turn.strand < scene.strands.length := by
  induction run with
  | start => simp
  | drift scene t before moved ih => exact ih
  | spawn scene who before allowed ih =>
    intro turn member
    rw [Scene.spawn,List.length_append]
    exact Nat.lt_add_right 1 (ih turn member)
  | turn scene i fault before ih =>
    rcases scene.turn_cases sv i fault with same | ⟨who,r,next,log,held,same⟩
    · rwa [same]
    · rw [same]
      intro turn member
      rw [List.length_set]
      rcases List.mem_append.mp member with earlier | now
      · exact ih turn earlier
      · rw [List.mem_singleton.mp now]
        exact (List.getElem?_eq_some_iff.mp held).1

/-- Every program under way has made its part of the common history. -/
theorem interleaved_strand (scene : Scene A Req Resp E S) (run : Interleaved sv code env starts first scene) (i : Nat)
    (strand : Strand A Req Resp E S) (held : scene.strands[i]? = some strand) :
    Follows sv (code strand.who) strand.log strand.rest ∧ strand.log = own i scene.history := by
  induction run generalizing i strand with
  | start => cases held
  | drift scene t before moved ih => exact ih i strand held
  | spawn scene who before allowed ih =>
    rw [Scene.spawn,List.getElem?_append] at held
    split at held
    · exact ih i strand held
    next beyond =>
      have place : i - scene.strands.length = 0 := by
        by_contra later
        rw [List.getElem?_eq_none (by simp; omega)] at held
        cases held
      rw [place] at held
      cases held
      refine ⟨.start,?_⟩
      have silent : own i scene.history = [] := by
        unfold own
        rw [List.map_eq_nil_iff,List.filter_eq_nil_iff]
        intro turn member mine
        have bound := interleaved_bound scene before turn member
        exact beyond (of_decide_eq_true mine ▸ bound)
      exact silent.symm
  | turn scene j fault before ih =>
    rcases scene.turn_cases sv j fault with same | ⟨who,r,next,log,there,same⟩
    · rw [same] at held ⊢
      exact ih i strand held
    · rw [same] at held ⊢
      rw [own_snoc]
      by_cases here : j = i
      · subst here
        have bound := (List.getElem?_eq_some_iff.mp there).1
        rw [List.getElem?_set_self bound] at held
        cases held
        obtain ⟨follows,logged⟩ := ih j _ there
        refine ⟨.call log r next scene.state fault follows,?_⟩
        rw [if_pos rfl,← logged]
      · rw [List.getElem?_set_ne here] at held
        rw [if_neg here,List.append_nil]
        exact ih i strand held

/-- What a program guarantees of each of its calls, given the calls it made before, as long as
every call finds a fine state, holds along a common history of fine states. -/
theorem interleaved_relied (fine : S → Prop) (P : A → List (Event Req Resp E S) → Event Req Resp E S → Prop)
    (each : ∀ who s log t, Run sv (fun _ t => fine t) (code who) s log none t → Recorded (P who) log)
    (scene : Scene A Req Resp E S) (run : Interleaved sv code env starts first scene)
    (safe : ∀ turn ∈ scene.history, fine turn.event.before) :
    Recorded (fun past turn => P turn.who (own turn.strand past) turn.event) scene.history := by
  induction run with
  | start => exact recorded_nil _
  | drift scene t before moved ih => exact ih safe
  | spawn scene who before allowed ih => exact ih safe
  | turn scene i fault before ih =>
    rcases scene.turn_cases sv i fault with same | ⟨who,r,next,log,held,same⟩
    · rw [same] at safe ⊢
      exact ih safe
    · rw [same] at safe ⊢
      refine recorded_snoc _ _ _ (ih (fun turn member => safe turn (List.mem_append_left _ member))) ?_
      obtain ⟨follows,logged⟩ := interleaved_strand scene before i _ held
      have before_ : ∀ e ∈ log++[sv.event fault scene.state r], fine e.before := by
        intro e member
        rcases List.mem_append.mp member with earlier | now
        · rw [show log = own i scene.history from logged] at earlier
          obtain ⟨turn,there,-,rfl⟩ := own_member i scene.history e earlier
          exact safe turn (List.mem_append_left _ there)
        · rw [List.mem_singleton.mp now]
          exact safe ⟨i,who,sv.event fault scene.state r⟩ (List.mem_append_right _ (List.mem_singleton_self _))
      obtain ⟨t,ran⟩ := follows_run fine _ _ _ (.call log r next scene.state fault follows) before_ scene.state
      dsimp only
      rw [← logged]
      exact each who _ _ t ran log _ [] rfl

/-- `interleaved_relied` for what a program guarantees in any environment. -/
theorem interleaved_recorded (P : A → List (Event Req Resp E S) → Event Req Resp E S → Prop)
    (each : ∀ who s log t, Run sv (fun _ _ => True) (code who) s log none t → Recorded (P who) log)
    (scene : Scene A Req Resp E S) (run : Interleaved sv code env starts first scene) :
    Recorded (fun past turn => P turn.who (own turn.strand past) turn.event) scene.history :=
  interleaved_relied (fun _ => True) P each scene run (fun _ _ => trivial)

/-- A program was started before it made its calls. -/
theorem interleaved_started (scene : Scene A Req Resp E S) (run : Interleaved sv code env starts first scene) :
    Recorded (fun past turn => ∃ earlier later, past = earlier++later ∧ starts earlier turn.who) scene.history ∧
      ∀ strand ∈ scene.strands, ∃ earlier later, scene.history = earlier++later ∧ starts earlier strand.who := by
  induction run with
  | start => exact ⟨recorded_nil _,by simp⟩
  | drift scene t before moved ih => exact ih
  | spawn scene who before allowed ih =>
    refine ⟨ih.1,fun strand member => ?_⟩
    rcases List.mem_append.mp member with earlier | new
    · exact ih.2 strand earlier
    · rw [List.mem_singleton.mp new]
      exact ⟨scene.history,[],(List.append_nil _).symm,allowed⟩
  | turn scene i fault before ih =>
    rcases scene.turn_cases sv i fault with same | ⟨who,r,next,log,held,same⟩
    · rwa [same]
    · rw [same]
      obtain ⟨earlier,later,split,allowed⟩ := ih.2 _ (List.mem_of_getElem? held)
      refine ⟨recorded_snoc _ _ _ ih.1 ⟨earlier,later,split,allowed⟩,fun strand member => ?_⟩
      rcases List.mem_or_eq_of_mem_set member with old | rfl
      · obtain ⟨earlier,later,split,allowed⟩ := ih.2 strand old
        exact ⟨earlier,later++[_],by rw [split,List.append_assoc],allowed⟩
      · exact ⟨earlier,later++[_],by rw [split,List.append_assoc],allowed⟩

end Runs
end Ifaas.Library
