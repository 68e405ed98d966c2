import Ifaas.Library.Interleave

/-! The calls a program makes and the values it returns, as far as the answers it gets are sane,
and a rule of assumption and guarantee for programs that run at the same time. -/
namespace Ifaas.Library
variable {Req : Type} {Resp : Req → Type} {E S α β : Type}

namespace Program

/-- The program makes allowed calls and returns such values, as long as the answers are sane. -/
def Keeps (sane : ∀ r, Resp r → Prop) (allowed : Req → Prop) (P : α → Prop) : Program Req Resp α → Prop
  | .pure value => P value
  | .call r next => allowed r ∧ ∀ answer, sane r answer → Keeps sane allowed P (next answer)

variable {sane : ∀ r, Resp r → Prop} {allowed : Req → Prop}

theorem keeps_call (P : β → Prop) (r : Req) (f : Resp r → Program Req Resp β) (fine : allowed r)
    (rest : ∀ answer, sane r answer → Keeps sane allowed P (f answer)) :
    Keeps sane allowed P ((request r : Program Req Resp (Resp r)) >>= f) := ⟨fine,rest⟩

theorem keeps_bind (P : α → Prop) (Q : β → Prop) (p : Program Req Resp α) (f : α → Program Req Resp β)
    (first : Keeps sane allowed P p) (rest : ∀ value, P value → Keeps sane allowed Q (f value)) :
    Keeps sane allowed Q (p >>= f) := by
  induction p with
  | pure value => exact rest value first
  | call r next ih => exact ⟨first.1,fun answer fine => ih answer (first.2 answer fine)⟩

theorem keeps_mono (wider : Req → Prop) (P Q : α → Prop) (p : Program Req Resp α) (inside : ∀ r, allowed r → wider r)
    (weaker : ∀ value, P value → Q value) (keeps : Keeps sane allowed P p) : Keeps sane wider Q p := by
  induction p with
  | pure value => exact weaker value keeps
  | call r next ih => exact ⟨inside r keeps.1,fun answer fine => ih answer (keeps.2 answer fine)⟩

theorem keeps_true (p : Program Req Resp α) : Keeps sane (fun _ => True) (fun _ => True) p := by
  induction p with
  | pure value => trivial
  | call r next ih => exact ⟨trivial,fun answer _ => ih answer⟩

theorem keeps_returns (P R : α → Prop) (p : Program Req Resp α) (keeps : Keeps sane allowed P p) (returns : p.Returns R) :
    Keeps sane allowed R p := by
  induction p with
  | pure value => exact returns
  | call r next ih => exact ⟨keeps.1,fun answer fine => ih answer (keeps.2 answer fine) (returns answer)⟩

end Program

section Assumption
variable {A : Type} {sv : Server Req Resp E S} {code : A → Program Req Resp Unit} {env : S → S → Prop}
  {starts : List (Turn A Req Resp E S) → A → Prop} {first : S}

/-- What the programs guarantee while they may assume an invariant of the state: in such states
the answers are sane, and the allowed calls and the environment keep the invariant. -/
structure Assured (sv : Server Req Resp E S) (code : A → Program Req Resp Unit) (env : S → S → Prop)
    (starts : List (Turn A Req Resp E S) → A → Prop) (I : S → Prop) (sane : ∀ r, Resp r → Prop)
    (allowed : A → Req → Prop) : Prop where
  answers : ∀ fault s r, I s → sane r (sv.serve fault s r).2
  calls : ∀ past who, (∀ turn ∈ past, allowed turn.who turn.event.request) → starts past who →
    (code who).Keeps sane (allowed who) (fun _ => True)
  keeps : ∀ who fault s r, I s → allowed who r → I (sv.serve fault s r).1
  drifts : ∀ s t, I s → env s t → I t

/-- The invariant holds in every state of an interleaving, and every call in it is an allowed one. -/
theorem interleaved_assured {I : S → Prop} {sane : ∀ r, Resp r → Prop} {allowed : A → Req → Prop}
    (assured : Assured sv code env starts I sane allowed) (start : I first) (scene : Scene A Req Resp E S)
    (run : Interleaved sv code env starts first scene) :
    I scene.state ∧ (∀ strand ∈ scene.strands, strand.rest.Keeps sane (allowed strand.who) (fun _ => True)) ∧
      ∀ turn ∈ scene.history, allowed turn.who turn.event.request ∧ I turn.event.before := by
  induction run with
  | start => exact ⟨start,nofun,nofun⟩
  | drift scene t before moved ih => exact ⟨assured.drifts _ t ih.1 moved,ih.2⟩
  | spawn scene who before allowed ih =>
    obtain ⟨inv,strands,history⟩ := ih
    refine ⟨inv,fun strand member => ?_,history⟩
    rcases List.mem_append.mp member with earlier | now
    · exact strands strand earlier
    · rw [List.mem_singleton.mp now]
      exact assured.calls scene.history who (fun turn there => (history turn there).1) allowed
  | turn scene i fault before ih =>
    obtain ⟨inv,strands,history⟩ := ih
    rcases scene.turn_cases sv i fault with same | ⟨who,r,next,log,held,same⟩
    · rw [same]
      exact ⟨inv,strands,history⟩
    · have call := strands _ (List.mem_of_getElem? held)
      rw [same]
      refine ⟨assured.keeps who fault _ r inv call.1,fun strand member => ?_,fun turn member => ?_⟩
      · rcases List.mem_or_eq_of_mem_set member with earlier | now
        · exact strands strand earlier
        · rw [now]
          exact call.2 _ (assured.answers fault _ r inv)
      · rcases List.mem_append.mp member with earlier | now
        · exact history turn earlier
        · rw [List.mem_singleton.mp now]
          exact ⟨call.1,inv⟩

end Assumption
end Ifaas.Library
