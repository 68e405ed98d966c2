import Ifaas.Library.Calls
import Mathlib.Data.Option.Basic

/-! Programs that keep to one place of a server. If the calls of some programs are answered
from a part of the state that the other programs leave alone, then in every interleaving they
do what they do where the others never get a turn. -/
namespace Ifaas.Library
variable {Req : Type} {Resp : Req → Type} {E S : Type}

/-- A place of the server: who calls from there is answered from the state of the place, and the
calls of the others leave it alone. -/
structure Place (sv : Server Req Resp E S) (same : S → S → Prop) (mine theirs : Req → Prop) : Prop where
  trans : ∀ s t u, same s t → same t u → same s u
  symm : ∀ s t, same s t → same t s
  answers : ∀ fault s t r, mine r → same s t → (sv.serve fault s r).2 = (sv.serve fault t r).2
  moves : ∀ fault s t r, mine r → same s t → same (sv.serve fault s r).1 (sv.serve fault t r).1
  spares : ∀ fault s r, theirs r → same s (sv.serve fault s r).1

/-- A call and its answer, without the state they met. -/
structure Exchange (Req : Type) (Resp : Req → Type) (E : Type) where
  fault : Fault E
  request : Req
  response : Resp request

def Event.exchange (e : Event Req Resp E S) : Exchange Req Resp E := ⟨e.fault,e.request,e.response⟩

def exchanges (log : List (Event Req Resp E S)) : List (Exchange Req Resp E) := log.map (fun e => e.exchange)

section Projection
variable {A : Type} {sv : Server Req Resp E S} {code : A → Program Req Resp Unit} {env : S → S → Prop}
  {starts : List (Turn A Req Resp E S) → A → Prop} {same : S → S → Prop} {mine theirs : Req → Prop}
  {sane : ∀ r, Resp r → Prop}

theorem rel_some {γ δ : Type} {R : γ → δ → Prop} {x : γ} {o : Option δ} (rel : Option.Rel R (some x) o) :
    ∃ y, o = some y ∧ R x y := by
  cases rel with
  | some held => exact ⟨_,rfl,held⟩

/-- Two copies of a program under way; if it belongs here they have done the same. -/
structure Twin (here : A → Bool) (s t : Strand A Req Resp E S) : Prop where
  who : t.who = s.who
  rest : here s.who = true → t.rest = s.rest
  log : here s.who = true → exchanges t.log = exchanges s.log

/-- The calls made from here, in their order. -/
def seen (here : A → Bool) (history : List (Turn A Req Resp E S)) : List (A × Exchange Req Resp E) :=
  (history.filter (fun turn => here turn.who)).map (fun turn => (turn.who,turn.event.exchange))

theorem seen_snoc (here : A → Bool) (history : List (Turn A Req Resp E S)) (turn : Turn A Req Resp E S) :
    seen here (history++[turn]) =
      seen here history++(if here turn.who then [(turn.who,turn.event.exchange)] else []) := by
  unfold seen
  rw [List.filter_append,List.map_append]
  by_cases inside : here turn.who = true <;> simp [inside]

/-- A run beside another one in which only the programs from here take turns. -/
structure Shadow (here : A → Bool) (same : S → S → Prop) (scene alone : Scene A Req Resp E S) : Prop where
  strands : ∀ i : Nat, Option.Rel (Twin here) scene.strands[i]? alone.strands[i]?
  length : alone.strands.length = scene.strands.length
  only : ∀ turn ∈ alone.history, here turn.who = true
  history : seen here alone.history = seen here scene.history
  state : same scene.state alone.state

theorem Shadow.spawn {here : A → Bool} {scene alone : Scene A Req Resp E S} (shadow : Shadow here same scene alone) (who : A) :
    Shadow here same (scene.spawn code who) (alone.spawn code who) := by
  refine ⟨fun i => ?_,?_,shadow.only,shadow.history,shadow.state⟩
  · unfold Scene.spawn
    dsimp only
    rw [List.getElem?_append,List.getElem?_append,shadow.length]
    split
    · exact shadow.strands i
    · cases place : i - scene.strands.length with
      | zero => exact .some ⟨rfl,fun _ => rfl,fun _ => rfl⟩
      | succ n => exact .none
  · simp [Scene.spawn,shadow.length]

/-- A call of another program is not seen. -/
theorem Shadow.turn_theirs {here : A → Bool} {scene alone : Scene A Req Resp E S} (place : Place sv same mine theirs)
    (shadow : Shadow here same scene alone) (i : Nat) (fault : Fault E) (who : A) (r : Req) (next : Resp r → Program Req Resp Unit)
    (log : List (Event Req Resp E S)) (held : scene.strands[i]? = some ⟨who,.call r next,log⟩) (away : here who = false)
    (other : theirs r) : Shadow here same (scene.turn sv i fault) alone := by
  have bound := (List.getElem?_eq_some_iff.mp held).1
  unfold Scene.turn
  rw [held]
  refine ⟨fun j => ?_,shadow.length.trans (List.length_set ..).symm,shadow.only,?_,?_⟩
  · by_cases equal : i = j
    · subst equal
      have pair := shadow.strands i
      rw [held] at pair
      obtain ⟨other,paired,twin⟩ := rel_some pair
      rw [List.getElem?_set_self bound,paired]
      exact .some ⟨twin.who,fun inside => absurd inside (by simp [away]),fun inside => absurd inside (by simp [away])⟩
    · rw [List.getElem?_set_ne equal]
      exact shadow.strands j
  · rw [seen_snoc,shadow.history]
    simp [away]
  · exact place.trans _ _ _ (place.symm _ _ (place.spares fault scene.state r other)) shadow.state

/-- A call from here is made in the shadow too, and is answered there in the same way. -/
theorem Shadow.turn_mine {here : A → Bool} {scene alone : Scene A Req Resp E S} (place : Place sv same mine theirs)
    (shadow : Shadow here same scene alone) (i : Nat) (fault : Fault E) (who : A) (r : Req) (next : Resp r → Program Req Resp Unit)
    (log : List (Event Req Resp E S)) (held : scene.strands[i]? = some ⟨who,.call r next,log⟩) (inside : here who = true)
    (own : mine r) : Shadow here same (scene.turn sv i fault) (alone.turn sv i fault) := by
  have bound := (List.getElem?_eq_some_iff.mp held).1
  have pair := shadow.strands i
  rw [held] at pair
  obtain ⟨⟨other,rest,past⟩,paired,twin⟩ := rel_some pair
  obtain rfl : other = who := twin.who
  obtain rfl : rest = .call r next := twin.rest inside
  have answered := place.answers fault scene.state alone.state r own shadow.state
  have exchanged : (sv.event fault alone.state r).exchange = (sv.event fault scene.state r).exchange := by
    unfold Server.event Event.exchange
    rw [answered]
  have logged : exchanges past = exchanges log := twin.log inside
  unfold Scene.turn
  rw [held,paired]
  refine ⟨fun j => ?_,?_,?_,?_,place.moves fault _ _ r own shadow.state⟩
  · by_cases equal : i = j
    · subst equal
      rw [List.getElem?_set_self bound,List.getElem?_set_self (by rw [shadow.length]; exact bound)]
      refine .some ⟨rfl,fun _ => congrArg next answered.symm,fun _ => ?_⟩
      unfold exchanges at logged ⊢
      rw [List.map_append,List.map_append,logged,List.map_singleton,List.map_singleton,exchanged]
    · rw [List.getElem?_set_ne equal,List.getElem?_set_ne equal]
      exact shadow.strands j
  · rw [List.length_set,List.length_set,shadow.length]
  · intro turn member
    rcases List.mem_append.mp member with earlier | now
    · exact shadow.only turn earlier
    · rw [List.mem_singleton.mp now]
      exact inside
  · rw [seen_snoc,seen_snoc,shadow.history]
    dsimp only
    rw [exchanged]

/-- What the programs from here do in an interleaving they do where the others never get a turn;
they are started there by what happened here. -/
theorem interleaved_shadow (here : A → Bool) (place : Place sv same mine theirs)
    (answers : ∀ fault s r, sane r (sv.serve fault s r).2)
    (own : ∀ who, here who = true → (code who).Keeps sane mine (fun _ => True))
    (others : ∀ who, here who = false → (code who).Keeps sane theirs (fun _ => True))
    (drifts : ∀ s t u, same s t → env s u → ∃ v, env t v ∧ same u v)
    (begins : ∀ past alone who, here who = true → (∀ turn ∈ past, here turn.who = false → theirs turn.event.request) →
      seen here alone = seen here past → starts past who → starts alone who)
    (first : S) (reflexive : same first first) (scene : Scene A Req Resp E S) (run : Interleaved sv code env starts first scene) :
    ∃ alone, Interleaved sv code env (fun past who => here who = true → starts past who) first alone ∧
      Shadow here same scene alone := by
  have assured : Assured sv code env starts (fun _ => True) sane (fun who r => if here who = true then mine r else theirs r) := by
    refine ⟨fun fault s r _ => answers fault s r,fun past who _ _ => ?_,fun _ _ _ _ _ _ => trivial,fun _ _ _ _ => trivial⟩
    by_cases inside : here who = true
    · simpa only [inside,if_true] using own who inside
    · have away := Bool.eq_false_iff.mpr inside
      simpa [away] using others who away
  induction run with
  | start => exact ⟨_,.start,fun i => .none,rfl,nofun,rfl,reflexive⟩
  | drift scene u before moved ih =>
    obtain ⟨alone,ran,shadow⟩ := ih
    obtain ⟨v,drifted,kept⟩ := drifts _ _ u shadow.state moved
    exact ⟨_,.drift alone v ran drifted,shadow.strands,shadow.length,shadow.only,shadow.history,kept⟩
  | spawn scene who before allowed ih =>
    obtain ⟨alone,ran,shadow⟩ := ih
    have called := (interleaved_assured assured trivial scene before).2.2
    refine ⟨_,.spawn alone who ran (fun inside => begins _ _ who inside (fun turn member away => ?_) shadow.history allowed),
      shadow.spawn who⟩
    simpa [away] using (called turn member).1
  | turn scene i fault before ih =>
    obtain ⟨alone,ran,shadow⟩ := ih
    rcases scene.turn_cases sv i fault with still | ⟨who,r,next,log,held,-⟩
    · rw [still]
      exact ⟨alone,ran,shadow⟩
    · have call := ((interleaved_assured assured trivial scene before).2.1 _ (List.mem_of_getElem? held)).1
      by_cases inside : here who = true
      · exact ⟨_,.turn alone i fault ran,shadow.turn_mine place i fault who r next log held inside (by simpa [inside] using call)⟩
      · have away := Bool.eq_false_iff.mpr inside
        exact ⟨alone,ran,shadow.turn_theirs place i fault who r next log held away (by simpa [away] using call)⟩

end Projection
end Ifaas.Library
