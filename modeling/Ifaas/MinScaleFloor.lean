import Mathlib
import Ifaas.FlusherAdapter
import Ifaas.Library.Interleave
import Ifaas.Pipeline
import Ifaas.WriteAhead

/-! The two writers of min-scale and the floor the user sets. A pass applies a Knative Service
made from the adoption it read, and the flusher patches the annotation long after the pass
that decided it; users move the floor at any moment in between. -/
namespace Ifaas
open Library

/-- The floor of an adoption. -/
def floorOf (a : KnativeAdoption) : Int := a.spec.autoscaling.minScale.getD 0

theorem floorOf_le_effective (a : KnativeAdoption) : floorOf a ≤ effectiveMinScale a := by
  unfold effectiveMinScale floorOf
  dsimp only
  split
  next base => omega
  next => exact Int.le_refl _

theorem floorOf_guarded (a : KnativeAdoption) (enabled : guardEnabled a = true) : floorOf a = 0 := by
  unfold guardEnabled at enabled
  unfold floorOf
  split at enabled
  next unset => rw [unset]; rfl
  next n held =>
    rw [held]
    exact of_decide_eq_true enabled

/-- The text a call writes into the min-scale annotation. -/
def writtenText : Request → Option String
  | .applyKService ksvc => ksvc.template.annotations.lookup autoscalingMinScaleAnnotation
  | .patchKService _ annotations => annotations.lookup autoscalingMinScaleAnnotation
  | _ => none

/-- The min-scale a call writes. -/
def writtenMinScale (q : Request) : Option Int := (writtenText q).bind String.toInt?

theorem writtenMinScale_text (q : Request) (n : Int) (written : writtenText q = some (toString n)) :
    writtenMinScale q = some n := by
  unfold writtenMinScale
  rw [written,Option.bind_some,Int.toString_eq_repr]
  exact Int.toInt?_repr n

theorem writtenMinScale_applied (a : KnativeAdoption) (ksvc : KService)
    (annotations : ksvc.template.annotations = buildKPAAnnotations a) :
    writtenMinScale (.applyKService ksvc) = some (effectiveMinScale a) := by
  refine writtenMinScale_text _ _ ?_
  rw [writtenText,annotations]
  exact buildKPAAnnotations_minScale a

theorem writtenMinScale_patched (key : NamespacedName) (n : Int) :
    writtenMinScale (.patchKService key (buildMinScaleMergePatch (toString n))) = some n := by
  refine writtenMinScale_text _ _ ?_
  rw [writtenText,buildMinScaleMergePatch]
  exact List.lookup_cons_self

/-! The versions a pass works on. -/

/-- The adoption an answer brings. -/
def broughtAdoption : Event Request Response String Cluster → Option KnativeAdoption
  | ⟨_,_,.getAdoption _,.ok a⟩ => some a
  | ⟨_,_,.patchFinalizers _ _,.ok a⟩ => some a
  | _ => none

/-- The version a pass works on after these calls. -/
def workedOn (log : CallLog) : Option KnativeAdoption := log.reverse.findSome? broughtAdoption

theorem workedOn_snoc (log : CallLog) (e : Event Request Response String Cluster) :
    workedOn (log++[e]) = (broughtAdoption e).or (workedOn log) := by
  unfold workedOn
  rw [List.reverse_append,List.findSome?_append]
  cases brought : broughtAdoption e <;> simp [brought]

/-- What a pass writes comes from the version it works on. -/
structure FromVersion (log : CallLog) (e : Event Request Response String Cluster) : Prop where
  applies : ∀ ksvc, e.request = .applyKService ksvc → ∃ v b, workedOn log = some v ∧ b.spec = v.spec ∧
    ksvc.template.annotations = buildKPAAnnotations b
  decides : ∀ d, e.request = .enqueue d → ∃ v, workedOn log = some v ∧ guardEnabled v = true ∧
    (d.desiredMinScale = 0 ∨ d.desiredMinScale = 1)
  patches : ∀ key annotations, e.request ≠ .patchKService key annotations

/-- A call that neither writes a min-scale nor decides one. -/
def Request.setsNothing : Request → Bool
  | .applyKService _ => false
  | .enqueue _ => false
  | .patchKService _ _ => false
  | _ => true

theorem fromVersion_nothing (log : CallLog) (e : Event Request Response String Cluster)
    (nothing : e.request.setsNothing = true) : FromVersion log e := by
  refine ⟨fun ksvc same => ?_,fun d same => ?_,fun key annotations same => ?_⟩ <;> rw [same] at nothing <;> cases nothing

/-- The calls of the pipeline, for the version it works on. -/
def WorksOn (v : KnativeAdoption) (q : Request) : Prop :=
  (q.setsNothing = true ∧ (∀ key, q ≠ .getAdoption key) ∧ ∀ key finalizers, q ≠ .patchFinalizers key finalizers) ∨
  (∃ ksvc b, q = .applyKService ksvc ∧ b.spec = v.spec ∧ ksvc.template.annotations = buildKPAAnnotations b) ∨
  ∃ d, q = .enqueue d ∧ guardEnabled v = true ∧ (d.desiredMinScale = 0 ∨ d.desiredMinScale = 1)

theorem worksOn_reconcileAdoption (r : KnativeAdoptionReconciler) (v : KnativeAdoption) :
    (reconcileAdoption r v).Uses (WorksOn v) := by
  refine uses_reconcileAdoption (fun q stage => Or.inl ?_) r v (Or.inl ⟨rfl,nofun,nofun⟩) (fun q call => ?_)
    (fun dep b ksvc sent same translated sends => Or.inr (Or.inl ⟨sent,b,rfl,same.spec,?_⟩))
  · cases q with
    | getService key => exact ⟨rfl,nofun,nofun⟩
    | deleteService key => exact ⟨rfl,nofun,nofun⟩
    | getTraffic key => exact ⟨rfl,nofun,nofun⟩
    | patchTraffic key patch => exact ⟨rfl,nofun,nofun⟩
    | getKService key => exact ⟨rfl,nofun,nofun⟩
    | applyReplicas key replicas => exact ⟨rfl,nofun,nofun⟩
    | _ => cases stage
  · cases call with
    | ksvc => exact Or.inl ⟨rfl,nofun,nofun⟩
    | pods => exact Or.inl ⟨rfl,nofun,nofun⟩
    | probe ns pod port path timeout => exact Or.inl ⟨rfl,nofun,nofun⟩
    | enqueue desired reason enabled bit => exact Or.inr (Or.inr ⟨_,rfl,enabled,bit⟩)
  · obtain ⟨primary,rfl⟩ := translate_ok dep b ksvc translated
    rw [sends.template]
    rfl

section Pass
variable {α : Type} {c : Cluster} {log : CallLog} (before : Library.Recorded FromVersion log)
include before

theorem ensures_nothing (p : Op α) (uses : p.Uses (fun r => r.setsNothing = true)) :
    Ensures apiserver (fun _ _ => True) (fun _ past => Library.Recorded FromVersion past) p (fun _ _ past => Library.Recorded FromVersion past)
      c log :=
  ensures_uses (fun r => r.setsNothing = true) (fun _ _ _ _ held => held)
    (fun _ past _ _ nothing held => recorded_snoc _ past _ held (fromVersion_nothing past _ nothing)) p uses c log before

theorem ensures_worksOn (v : KnativeAdoption) (version : workedOn log = some v) (p : Op α) (uses : p.Uses (WorksOn v)) :
    Ensures apiserver (fun _ _ => True) (fun _ past => Library.Recorded FromVersion past) p (fun _ _ past => Library.Recorded FromVersion past)
      c log := by
  have both : Ensures apiserver (fun _ _ => True) (fun _ past => Library.Recorded FromVersion past ∧ workedOn past = some v)
      p (fun _ _ past => Library.Recorded FromVersion past ∧ workedOn past = some v) c log := by
    refine ensures_uses (WorksOn v) (fun _ _ _ _ held => held) (fun s past fault q works held => ?_) p uses c log
      ⟨before,version⟩
    obtain ⟨recorded,working⟩ := held
    rcases works with ⟨nothing,unread,unpatched⟩ | ⟨ksvc,b,rfl,spec,annotations⟩ | ⟨d,rfl,enabled,bit⟩
    · refine ⟨recorded_snoc _ past _ recorded (fromVersion_nothing past _ nothing),?_⟩
      have silent : broughtAdoption (apiserver.event fault s q) = none := by
        cases q with
        | getAdoption key => exact absurd rfl (unread key)
        | patchFinalizers key finalizers => exact absurd rfl (unpatched key finalizers)
        | _ => rfl
      rw [workedOn_snoc,silent]
      exact working
    · refine ⟨recorded_snoc _ past _ recorded ⟨fun other same => ?_,nofun,nofun⟩,?_⟩
      · cases same
        exact ⟨v,b,working,spec,annotations⟩
      · rw [workedOn_snoc]
        exact working
    · refine ⟨recorded_snoc _ past _ recorded ⟨nofun,fun other same => ?_,nofun⟩,?_⟩
      · cases same
        exact ⟨v,working,enabled,bit⟩
      · rw [workedOn_snoc]
        exact working
  exact ensures_inv _ _ _ _ _ (fun _ _ held => held.1) (ensures_mono both (fun _ _ _ _ held => held.1))

theorem ensures_patchStatus_nothing (original current : KnativeAdoption) :
    Ensures apiserver (fun _ _ => True) (fun _ past => Library.Recorded FromVersion past) (patchStatus original current)
      (fun _ _ past => Library.Recorded FromVersion past) c log := by
  refine ensures_nothing before _ ?_
  unfold patchStatus
  split
  · trivial
  · exact ⟨rfl,fun _ => trivial⟩

theorem ensures_reconcileDeleted_version (v : KnativeAdoption) :
    Ensures apiserver (fun _ _ => True) (fun _ past => Library.Recorded FromVersion past) (reconcileDeleted v)
      (fun _ _ past => Library.Recorded FromVersion past) c log := by
  have deletes : (handleDeletion v).Uses (fun r => r.setsNothing = true) := by
    refine Program.uses_mono _ _ _ (fun q release => ?_) (uses_handleDeletion v)
    cases q with
    | applyKService ksvc => cases release.1
    | enqueue d => cases release.1
    | patchKService key annotations => cases release.1
    | _ => rfl
  refine ensures_bind (ensures_mono (ensures_nothing before _ deletes) (fun done d calls _ held => ?_))
  refine ensures_bind (ensures_mono (ensures_patchStatus_nothing held _ _) (fun answer e more _ last => ?_))
  cases answer with
  | ok patched => exact ensures_pure last last
  | error err =>
    dsimp only
    split <;> exact ensures_pure last last

theorem ensures_reconcileLive_version (r : KnativeAdoptionReconciler) (v : KnativeAdoption) (version : workedOn log = some v) :
    Ensures apiserver (fun _ _ => True) (fun _ past => Library.Recorded FromVersion past) (reconcileLive r v)
      (fun _ _ past => Library.Recorded FromVersion past) c log := by
  have finalizers : Ensures apiserver (fun _ _ => True) (fun _ past => Library.Recorded FromVersion past) (ensureFinalizers v)
      (fun result _ past => Library.Recorded FromVersion past ∧ ∀ original, result = .ok original → workedOn past = some original)
      c log := by
    unfold ensureFinalizers
    dsimp only
    split
    · refine ensures_pure before ⟨before,fun original same => ?_⟩
      cases same
      exact version
    · refine ensures_ask before (fun d fault _ => ?_)
      have after := recorded_snoc _ log (apiserver.event fault d (.patchFinalizers v.key (addFinalizer (addFinalizer
        v.finalizers finalizerRestoreSourceService) finalizerRestoreSource))) before (fromVersion_nothing _ _ rfl)
      cases answer : (apiserver.serve fault d (.patchFinalizers v.key (addFinalizer (addFinalizer
          v.finalizers finalizerRestoreSourceService) finalizerRestoreSource))).2 with
      | error err => exact ensures_pure after ⟨after,fun _ same => by cases same⟩
      | ok stored =>
        refine ensures_pure after ⟨after,fun original same => ?_⟩
        cases same
        rw [workedOn_snoc,apiserver.event_answered answer]
        rfl
  refine ensures_bind (ensures_mono finalizers (fun result d calls _ held => ?_))
  cases result with
  | error err => exact ensures_pure held.1 held.1
  | ok original =>
    refine ensures_bind (ensures_mono (ensures_worksOn held.1 original (held.2 original rfl) _
      (worksOn_reconcileAdoption r original)) (fun done e more _ later => ?_))
    refine ensures_bind (ensures_mono (ensures_patchStatus_nothing later _ _)
      (fun answer f rest _ last => ?_))
    cases answer <;> exact ensures_pure last last

end Pass

/-- Whatever happens around a pass, what it writes comes from the version it works on. -/
theorem reconcile_fromVersion (r : KnativeAdoptionReconciler) (key : NamespacedName) (c : Cluster) :
    Ensures apiserver (fun _ _ => True) (fun _ past => Library.Recorded FromVersion past) (reconcile r key)
      (fun _ _ past => Library.Recorded FromVersion past) c [] := by
  refine ensures_ask (recorded_nil _) (fun d fault _ => ?_)
  have after := recorded_snoc _ [] (apiserver.event fault d (.getAdoption key)) (recorded_nil _)
    (fromVersion_nothing _ _ rfl)
  cases answer : (apiserver.serve fault d (.getAdoption key)).2 with
  | error err =>
    dsimp only
    split <;> exact ensures_pure after after
  | ok v =>
    have version : workedOn ([]++[apiserver.event fault d (.getAdoption key)]) = some v := by
      rw [workedOn_snoc,apiserver.event_answered answer]
      rfl
    dsimp only
    split
    · exact ensures_reconcileDeleted_version after v
    · exact ensures_reconcileLive_version after r v version

/-! The writers side by side. -/

/-- Who writes min-scale: passes of the controller, and the flusher for one decision. -/
inductive Writer where
  | pass (r : KnativeAdoptionReconciler) (key : NamespacedName)
  | patch (d : Decision)

namespace Writer

def isPatch : Writer → Bool
  | pass _ _ => false
  | patch _ => true

def code : Writer → Op Unit
  | pass r key => do
    let _ ← reconcile r key
    return ()
  | patch d => do
    let _ ← patchMinScale d
    return ()

def adoption : Writer → NamespacedName
  | pass _ key => key
  | patch d => ⟨d.ns,d.adoptionName⟩

/-- A pass begins at any moment; a decision is patched any time after it was enqueued, as often
as the flusher tries. -/
def starts (history : List (Turn Writer Request Response String Cluster)) : Writer → Prop
  | pass _ _ => True
  | patch d => ∃ turn ∈ history, turn.event.request = .enqueue d

end Writer

abbrev WriterTurn := Turn Writer Request Response String Cluster

/-- What a writer's call writes follows from its own earlier calls, or from its decision. -/
def Writer.Honest : Writer → CallLog → Event Request Response String Cluster → Prop
  | pass _ _,log,e => FromVersion log e
  | patch d,_,e => (∀ other, e.request ≠ .enqueue other) ∧
      ∀ n, writtenMinScale e.request = some n → n = d.desiredMinScale

theorem honest_patch (d : Decision) (s t : Cluster) (log : CallLog)
    (run : Run apiserver (fun _ _ => True) (Writer.code (.patch d)) s log none t) :
    Library.Recorded (Writer.Honest (.patch d)) log := by
  have calls : (Writer.code (.patch d)).Uses (fun q => (∀ other, q ≠ .enqueue other) ∧
      ∀ n, writtenMinScale q = some n → n = d.desiredMinScale) := by
    refine Program.uses_bind (Program.uses_bind (Program.uses_request ⟨nofun,nofun⟩) (fun answer => ?_))
      (fun _ => trivial)
    cases answer with
    | error err =>
      dsimp only
      split <;> trivial
    | ok live =>
      dsimp only
      split
      · trivial
      · refine Program.uses_bind (Program.uses_request ⟨nofun,fun n written => ?_⟩) (fun answer => ?_)
        · rw [writtenMinScale_patched] at written
          cases written
          rfl
        · cases answer <;> trivial
  intro before event after split
  exact run_uses calls run event (by rw [split]; simp)

theorem honest_writers (who : Writer) (s : Cluster) (log : CallLog) (t : Cluster)
    (run : Run apiserver (fun _ _ => True) who.code s log none t) : Library.Recorded who.Honest log := by
  cases who with
  | pass r key =>
    have wrote : Ensures apiserver (fun _ _ => True) (fun _ past => Library.Recorded FromVersion past)
        (Writer.code (.pass r key)) (fun _ _ past => Library.Recorded FromVersion past) s [] :=
      ensures_bind (ensures_mono (reconcile_fromVersion r key s)
        (fun _ _ _ _ held => ensures_pure held held))
    exact (wrote log none t run).1
  | patch d => exact honest_patch d s t log run

/-- The version a write was computed from: the one its pass works on, or the one the pass worked
on that enqueued the decision. -/
def ComputedFrom (past : List WriterTurn) (turn : WriterTurn) (v : KnativeAdoption) : Prop :=
  match turn.who with
  | .pass _ _ => workedOn (own turn.strand past) = some v
  | .patch d => ∃ earlier decided later, past = earlier++decided::later ∧ decided.event.request = .enqueue d ∧
      workedOn (own decided.strand earlier) = some v

/-- The user has not raised the floor since. -/
def Unraised (past : List WriterTurn) (turn : WriterTurn) : Prop :=
  ∀ v, ComputedFrom past turn v → ∀ st, turn.event.before.adoptions.get turn.who.adoption = some st → floorOf st ≤ floorOf v

def RespectsFloor (turn : WriterTurn) : Prop :=
  ∀ n, writtenMinScale turn.event.request = some n →
    ∀ st, turn.event.before.adoptions.get turn.who.adoption = some st → floorOf st ≤ n

theorem respects_of_unraised (first : Cluster) (scene : Scene Writer Request Response String Cluster)
    (run : Interleaved apiserver Writer.code (fun _ _ => True) Writer.starts first scene) :
    Library.Recorded (fun past turn => Unraised past turn → RespectsFloor turn) scene.history := by
  have honest := interleaved_recorded Writer.Honest honest_writers scene run
  have started := (interleaved_started scene run).1
  intro past turn later split unraised n written st held
  have wrote : turn.who.Honest (own turn.strand past) turn.event := honest past turn later split
  cases who : turn.who with
  | pass r key =>
    rw [who] at wrote
    cases request : turn.event.request with
    | applyKService ksvc =>
      obtain ⟨v,b,version,spec,annotations⟩ := wrote.applies ksvc request
      have below := unraised v (by unfold ComputedFrom; rw [who]; exact version) st held
      rw [request,writtenMinScale_applied b ksvc annotations] at written
      cases written
      have floor : floorOf b = floorOf v := by
        unfold floorOf
        rw [spec]
      exact le_trans below (floor ▸ floorOf_le_effective b)
    | patchKService at_ annotations => exact absurd request (wrote.patches at_ annotations)
    | _ =>
      rw [request] at written
      cases written
  | patch d =>
    rw [who] at wrote
    obtain ⟨before,between,prior,enqueued⟩ := started past turn later split
    rw [who] at enqueued
    obtain ⟨decided,member,request⟩ := enqueued
    obtain ⟨earlier,rest,cut⟩ := List.append_of_mem member
    have whole : scene.history = earlier++decided::(rest++(between++turn::later)) := by
      rw [split,prior,cut]
      simp
    have decision : decided.who.Honest (own decided.strand earlier) decided.event := honest earlier decided _ whole
    cases author : decided.who with
    | patch other =>
      rw [author] at decision
      exact absurd request (decision.1 d)
    | pass r key =>
      rw [author] at decision
      obtain ⟨v,version,enabled,bit⟩ := decision.decides d request
      have below := unraised v (by
        unfold ComputedFrom
        rw [who]
        exact ⟨earlier,decided,rest++between,by rw [prior,cut]; simp,request,version⟩) st held
      rw [floorOf_guarded v enabled] at below
      rw [wrote.2 n written]
      omega

/-- No min-scale below the user's floor is written in a run in which the floor is not raised
between the read a write is computed from and the write. -/
theorem floor_respected (first : Cluster) (scene : Scene Writer Request Response String Cluster)
    (run : Interleaved apiserver Writer.code (fun _ _ => True) Writer.starts first scene)
    (unraised : Library.Recorded (fun past turn => (writtenMinScale turn.event.request).isSome = true → Unraised past turn)
      scene.history) : ∀ turn ∈ scene.history, RespectsFloor turn := by
  intro turn member
  obtain ⟨past,later,split⟩ := List.append_of_mem member
  intro n written
  have kept := unraised past turn later split (by rw [written]; rfl)
  exact respects_of_unraised first scene run past turn later split kept n written

namespace Sample

abbrev WriterScene := Scene Writer Request Response String Cluster

def onePass (scene : WriterScene) (calls : Nat) : WriterScene :=
  (scene.spawn Writer.code (.pass reconciler adoption.key)).turns apiserver scene.strands.length (List.replicate calls .none)

/-- Adopted in two passes; a third one runs the guard, which finds no pods. -/
def guarding : WriterScene := onePass (onePass (onePass ⟨[],[],cluster⟩ 7) 11) 15

def withFloor (a : KnativeAdoption) (n : Int) : KnativeAdoption :=
  { a with spec := { a.spec with autoscaling := { a.spec.autoscaling with minScale := some n } } }

/-- The user raises the floor to three. -/
def raised : Cluster :=
  { guarding.state with
    adoptions := guarding.state.adoptions.put (withFloor ((guarding.state.adoptions.get adoption.key).getD adoption) 3) }

def noPods : Decision := ⟨"prod","web","web",0,"no-pods"⟩

/-- Somebody takes the annotations off the Knative Services. -/
def stripped (c : Cluster) : Cluster where
  __ := c
  ksvcs := {
    get := fun key => (c.ksvcs.get key).map (fun k => { k with template := { k.template with annotations := [] } })
    keyed := by
      intro key k held
      obtain ⟨old,there,rfl⟩ := Option.map_eq_some_iff.mp held
      exact c.ksvcs.keyed key old there }

def bared : WriterScene := { guarding with state := stripped guarding.state }

/-- The flusher patches the decision of the guard. -/
def patched : WriterScene := (bared.spawn Writer.code (.patch noPods)).turns apiserver 3 [.none,.none]

/-- Then the user raises the floor to three, and a pass applies it. -/
def heeded : WriterScene :=
  onePass { patched with state := { patched.state with
    adoptions := patched.state.adoptions.put (withFloor ((patched.state.adoptions.get adoption.key).getD adoption) 3) } } 12

/-- A pass applies the new floor, then the flusher gets to the old decision. -/
def delayed : WriterScene :=
  ((onePass { guarding with state := raised } 12).spawn Writer.code (.patch noPods)).turns apiserver 4 [.none,.none]

theorem interleaved_onePass (first : Cluster) (scene : WriterScene) (calls : Nat)
    (run : Interleaved apiserver Writer.code (fun _ _ => True) Writer.starts first scene) :
    Interleaved apiserver Writer.code (fun _ _ => True) Writer.starts first (onePass scene calls) :=
  interleaved_turns _ _ _ (.spawn scene _ run trivial)

theorem interleaved_guarding : Interleaved apiserver Writer.code (fun _ _ => True) Writer.starts cluster guarding :=
  interleaved_onePass _ _ _ (interleaved_onePass _ _ _ (interleaved_onePass _ _ _ .start))

end Sample

theorem workedOn_brought (log : CallLog) (v : KnativeAdoption) (version : workedOn log = some v) :
    ∃ e ∈ log, broughtAdoption e = some v := by
  obtain ⟨e,member,brought⟩ := List.exists_of_findSome?_eq_some version
  exact ⟨e,List.mem_reverse.mp member,brought⟩

def Request.decision : Request → Option Decision
  | .enqueue d => some d
  | _ => none

theorem Request.decision_enqueue (q : Request) (d : Decision) (held : q.decision = some d) : q = .enqueue d := by
  cases q with
  | enqueue other =>
    cases held
    rfl
  | _ => cases held

theorem Sample.interleaved_heeded :
    Interleaved apiserver Writer.code (fun _ _ => True) Writer.starts Sample.cluster Sample.heeded := by
  have enqueued : Sample.bared.history.any (fun turn => turn.event.request.decision = some Sample.noPods) = true := by decide +kernel
  have bared : Interleaved apiserver Writer.code (fun _ _ => True) Writer.starts Sample.cluster Sample.bared :=
    .drift _ _ Sample.interleaved_guarding trivial
  have patched : Interleaved apiserver Writer.code (fun _ _ => True) Writer.starts Sample.cluster Sample.patched := by
    refine interleaved_turns _ _ _ (.spawn _ _ bared ?_)
    obtain ⟨turn,member,held⟩ := List.any_eq_true.mp enqueued
    exact ⟨turn,member,Request.decision_enqueue _ _ (of_decide_eq_true held)⟩
  exact Sample.interleaved_onePass _ _ _ (.drift _ _ patched trivial)

/-- The floor is 0 for the first passes and the Patch, and three for the last pass, which has read it. -/
theorem floor_respected_sample :
    Sample.heeded.history.any (fun turn => turn.strand = 3 ∧ writtenText turn.event.request = some "0") = true ∧
      Sample.heeded.history.any (fun turn => turn.strand = 4 ∧ writtenText turn.event.request = some "3") = true ∧
      ∀ turn ∈ Sample.heeded.history, RespectsFloor turn := by
  have stored : Sample.heeded.history.all (fun turn => (turn.event.before.adoptions.get turn.who.adoption).all
      (fun st => floorOf st = if turn.strand = 4 then 3 else 0)) = true := by decide +kernel
  have brought : Sample.heeded.history.all (fun turn => (broughtAdoption turn.event).all
      (fun v => floorOf v = if turn.strand = 4 then 3 else 0)) = true := by decide +kernel
  have patches : Sample.heeded.history.all (fun turn => turn.strand ≠ 4 ∨ turn.who.isPatch = false) = true := by decide +kernel
  refine ⟨by decide +kernel,by decide +kernel,floor_respected Sample.cluster Sample.heeded Sample.interleaved_heeded ?_⟩
  intro past turn later split _ v computed st held
  have version (i : Nat) (earlier : List WriterTurn) (inside : ∀ t ∈ earlier, t ∈ Sample.heeded.history)
      (worked : workedOn (own i earlier) = some v) : floorOf v = if i = 4 then 3 else 0 := by
    obtain ⟨e,member,came⟩ := workedOn_brought _ v worked
    obtain ⟨t,there,rfl,rfl⟩ := own_member i earlier e member
    have checked := List.all_eq_true.mp brought t (inside t there)
    rw [came] at checked
    exact of_decide_eq_true checked
  have here : turn ∈ Sample.heeded.history := by
    rw [split]
    simp
  have floor : floorOf st = if turn.strand = 4 then 3 else 0 := by
    have checked := List.all_eq_true.mp stored turn here
    rw [held] at checked
    exact of_decide_eq_true checked
  unfold ComputedFrom at computed
  cases who : turn.who with
  | pass r key =>
    rw [who] at computed
    have read := version turn.strand past (fun t member => by rw [split]; exact List.mem_append_left _ member) computed
    exact Int.le_of_eq (floor.trans read.symm)
  | patch d =>
    rw [who] at computed
    obtain ⟨earlier,decided,rest,cut,-,worked⟩ := computed
    have read := version decided.strand earlier (fun t member => by rw [split,cut]; simp [member]) worked
    have before : turn.strand ≠ 4 := by
      have checked := List.all_eq_true.mp patches turn here
      rw [who] at checked
      exact (of_decide_eq_true checked).resolve_right Bool.noConfusion
    rw [floor,if_neg before,read]
    split <;> decide

/-- A decision is patched after the user raised the floor, and undoes the apply that had it. -/
theorem floor_undercut :
    Interleaved apiserver Writer.code (fun _ _ => True) Writer.starts Sample.cluster Sample.delayed ∧
      ∃ turn ∈ Sample.delayed.history, turn.who = .patch Sample.noPods ∧ ¬ RespectsFloor turn := by
  have enqueued : (Sample.onePass { Sample.guarding with state := Sample.raised } 12).history.any
      (fun turn => turn.event.request.decision = some Sample.noPods) = true := by decide +kernel
  have below : Sample.delayed.history.any (fun turn => writtenText turn.event.request = some "0" &&
      (turn.event.before.adoptions.get turn.who.adoption).any (fun st => floorOf st = 3) &&
      match turn.who with
      | .patch d => d = Sample.noPods
      | .pass _ _ => false) = true := by decide +kernel
  refine ⟨interleaved_turns _ _ _ (.spawn _ _ (Sample.interleaved_onePass _ _ _ (.drift _ _ Sample.interleaved_guarding
    trivial)) ?_),?_⟩
  · obtain ⟨turn,member,held⟩ := List.any_eq_true.mp enqueued
    exact ⟨turn,member,Request.decision_enqueue _ _ (of_decide_eq_true held)⟩
  · obtain ⟨turn,member,held⟩ := List.any_eq_true.mp below
    simp only [Bool.and_eq_true,decide_eq_true_eq] at held
    obtain ⟨⟨written,floor⟩,who⟩ := held
    obtain ⟨st,stored,three⟩ := (Option.any_eq_true _ _).mp floor
    refine ⟨turn,member,?_,fun respects => ?_⟩
    · cases author : turn.who with
      | pass r key => rw [author] at who; cases who
      | patch d =>
        rw [author] at who
        rw [of_decide_eq_true who]
    · have bound := respects 0 (writtenMinScale_text _ 0 written) st stored
      rw [of_decide_eq_true three] at bound
      omega

end Ifaas
