import Mathlib.Tactic.Common

/-! Histories: a list of events in the order in which they happened, and what was true of the
past of each event when it happened. -/
namespace Ifaas.Library
variable {ε : Type}

def Recorded (P : List ε → ε → Prop) (log : List ε) : Prop :=
  ∀ before event after, log = before++event::after → P before event

theorem recorded_nil (P : List ε → ε → Prop) : Recorded P [] := by
  intro before event after same
  cases before <;> cases same

theorem recorded_left (P : List ε → ε → Prop) (log more : List ε) (recorded : Recorded P (log++more)) : Recorded P log := by
  intro before event after same
  exact recorded before event (after++more) (by rw [same,List.append_assoc,List.cons_append])

theorem recorded_snoc (P : List ε → ε → Prop) (log : List ε) (event : ε) (recorded : Recorded P log)
    (now : P log event) : Recorded P (log++[event]) := by
  intro before other after same
  rcases List.eq_nil_or_concat after with rfl | ⟨kept,final,rfl⟩
  · obtain ⟨rfl,last⟩ := List.append_inj' same rfl
    cases last
    exact now
  · have shorter : log++[event] = (before++other::kept)++[final] := by simpa using same
    obtain ⟨rfl,-⟩ := List.append_inj' shorter rfl
    exact recorded before other kept rfl

theorem recorded_snoc_iff (P : List ε → ε → Prop) (log : List ε) (event : ε) :
    Recorded P (log++[event]) ↔ Recorded P log ∧ P log event := by
  constructor
  · intro recorded
    exact ⟨recorded_left P log [event] recorded,recorded log event [] rfl⟩
  · intro ⟨recorded,now⟩
    exact recorded_snoc P log event recorded now

theorem recorded_append (P : List ε → ε → Prop) (log events : List ε) (recorded : Recorded P log)
    (each : ∀ first event, event ∈ events → P (log++first) event) : Recorded P (log++events) := by
  induction events generalizing log with
  | nil => rwa [List.append_nil]
  | cons event rest ih =>
    have now : Recorded P (log++[event]) :=
      recorded_snoc P log event recorded (by simpa using each [] event List.mem_cons_self)
    have further := ih (log++[event]) now (fun first other member => by
      simpa using each (event::first) other (List.mem_cons_of_mem _ member))
    simpa using further

/-- There was an event of one kind, and every event after it is of the other. -/
def Since (P Q : ε → Prop) (log : List ε) : Prop :=
  ∃ before event after, log = before++event::after ∧ P event ∧ ∀ later ∈ after, Q later

theorem since_nil (P Q : ε → Prop) : ¬ Since P Q [] := by
  rintro ⟨before,event,after,same,-⟩
  cases before <;> cases same

theorem since_snoc (P Q : ε → Prop) (log : List ε) (event : ε) :
    Since P Q (log++[event]) ↔ P event ∨ Since P Q log ∧ Q event := by
  constructor
  · rintro ⟨before,first,after,same,started,kept⟩
    rcases List.eq_nil_or_concat after with rfl | ⟨middle,final,rfl⟩
    · obtain ⟨-,last⟩ := List.append_inj' same rfl
      cases last
      exact Or.inl started
    · have shorter : log++[event] = (before++first::middle)++[final] := by simpa using same
      obtain ⟨rfl,last⟩ := List.append_inj' shorter rfl
      cases last
      exact Or.inr ⟨⟨before,first,middle,rfl,started,fun later member => kept later (by simp [member])⟩,kept _ (by simp)⟩
  · rintro (started | ⟨⟨before,first,after,rfl,started,kept⟩,still⟩)
    · exact ⟨log,event,[],rfl,started,nofun⟩
    · refine ⟨before,first,after++[event],by simp,started,fun later member => ?_⟩
      rcases List.mem_append.mp member with old | new
      · exact kept later old
      · rw [List.mem_singleton.mp new]
        exact still

theorem since_mono {P Q P' Q' : ε → Prop} {log : List ε} (since : Since P Q log) (start : ∀ e, P e → P' e)
    (stay : ∀ e, Q e → Q' e) : Since P' Q' log := by
  obtain ⟨before,event,after,same,started,kept⟩ := since
  exact ⟨before,event,after,same,start event started,fun later member => stay later (kept later member)⟩

end Ifaas.Library
