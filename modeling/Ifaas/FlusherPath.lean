import Ifaas.Course
import Ifaas.FlusherAdapter
import Ifaas.Library.Muting

/-! The flusher path beside the single-object path. Both passes make the same API calls. In one
the guard hands its verdict to the flusher, which patches it; in the other the verdict reaches
the Knative Service only if the pass comes to its apply. -/
namespace Ifaas
open Library

/-- Handing a decision to the flusher is the one call that is not made to the API server. -/
def inProcess : (q : Request) → Option (Response q)
  | .enqueue _ => some (.ok ())
  | _ => none

def KnativeAdoptionReconciler.withFlusher (r : KnativeAdoptionReconciler) (on : Bool) : KnativeAdoptionReconciler :=
  { r with flusher := on }

/-! Without the decision the two passes are the same program. -/

section Muted
variable (r : KnativeAdoptionReconciler) (a : KnativeAdoption)

theorem heard_quiet (q : Request) (quiet : q.asksPods = false) : inProcess q = none := by
  cases q with
  | enqueue d => cases quiet
  | _ => rfl

theorem heard_listKSvcPods (ns name : String) : (listKSvcPods ns name).Uses (fun q => inProcess q = none) := by
  refine Program.uses_bind (Program.uses_request rfl) (fun answer => ?_)
  cases answer <;> trivial

theorem quiet_getSourceDeployment : (getSourceDeployment a).Uses (fun q => q.asksPods = false) := by
  refine Program.uses_bind (Program.uses_request rfl) (fun answer => ?_)
  cases answer with
  | error err =>
    dsimp only
    split <;> trivial
  | ok dep => trivial

/-- The calls of a pass about its own adoption. -/
def Request.ofAdoption : Request → Bool
  | .getAdoption _ => true
  | .patchFinalizers _ _ => true
  | .patchStatus _ _ => true
  | _ => false

theorem Request.ofAdoption_quiet (q : Request) (own : q.ofAdoption = true) : q.asksPods = false := by
  cases q with
  | getAdoption key => rfl
  | patchFinalizers key finalizers => rfl
  | patchStatus original current => rfl
  | _ => cases own

theorem own_ensureFinalizers : (ensureFinalizers a).Uses (fun q => q.ofAdoption = true) := by
  unfold ensureFinalizers
  dsimp only
  split
  · trivial
  · refine Program.uses_bind (Program.uses_request rfl) (fun answer => ?_)
    cases answer <;> trivial

theorem own_patchStatus (b : KnativeAdoption) : (patchStatus a b).Uses (fun q => q.ofAdoption = true) := by
  unfold patchStatus
  split
  · trivial
  · exact ⟨rfl,fun _ => trivial⟩

theorem quiet_reconcileDeleted : (reconcileDeleted a).Uses (fun q => q.asksPods = false) := by
  refine Program.uses_bind (Program.uses_mono _ _ _ (fun q release => ?_) (uses_handleDeletion a)) (fun done => ?_)
  · cases q with
    | enqueue d => cases release.1
    | listPods ns service => cases release.1
    | probe ns pod port path timeout => cases release.1
    | _ => rfl
  · refine Program.uses_bind (Program.uses_mono _ _ _ Request.ofAdoption_quiet (own_patchStatus a _)) (fun answer => ?_)
    cases answer with
    | error err =>
      dsimp only
      split <;> trivial
    | ok patched => trivial

theorem mute_runScaleDownGuard : (runScaleDownGuard (r.withFlusher true) a).mute inProcess =
    runScaleDownGuard (r.withFlusher false) a := by
  unfold runScaleDownGuard
  change Program.mute inProcess (if !r.prober then _ else _) = if !r.prober then _ else _
  cases r.prober with
  | false => rfl
  | true =>
    simp only [Bool.not_true,Bool.false_eq_true,if_false]
    rw [Program.mute_heard _ _ _ (heard_listKSvcPods a.ns a.name)]
    congr 1
    funext answer
    cases answer with
    | error err => rfl
    | ok pods =>
      dsimp only
      rw [Program.mute_heard _ _ _ (uses_probeAll a (fun _ _ _ _ _ => rfl) _ _ pods)]
      congr 1
      funext results
      cases ScaleDown.vote results <;> rfl

theorem mute_maybeRunGuard : (maybeRunGuard (r.withFlusher true) a).mute inProcess =
    maybeRunGuard (r.withFlusher false) a := by
  unfold maybeRunGuard
  split
  · rfl
  · rw [Program.mute_heard _ _ _ (Program.uses_request rfl)]
    congr 1
    funext answer
    cases answer with
    | error err => rfl
    | ok live =>
      change Program.mute inProcess (if (r.ready live).1 then _ else _) = if (r.ready live).1 then _ else _
      split
      · rw [Program.mute_bind,mute_runScaleDownGuard]
        rfl
      · rfl

theorem mute_reconcileAdoption : (reconcileAdoption (r.withFlusher true) a).mute inProcess =
    reconcileAdoption (r.withFlusher false) a := by
  unfold reconcileAdoption
  rw [Program.mute_heard _ _ _ (Program.uses_mono _ _ _ heard_quiet (quiet_getSourceDeployment a))]
  congr 1
  funext source
  cases source with
  | error err => rfl
  | ok found =>
    cases found with
    | none => rfl
    | some dep =>
      dsimp only
      rw [Program.mute_bind,mute_maybeRunGuard]
      congr 1
      funext b
      cases translate dep b with
      | error err => rfl
      | ok ksvc => exact Program.mute_same _ _ (Program.uses_mono _ _ _ heard_quiet (uses_adoptTranslated_quiet _ _ dep ksvc))

theorem mute_reconcile (key : NamespacedName) : (reconcile (r.withFlusher true) key).mute inProcess =
    reconcile (r.withFlusher false) key := by
  unfold reconcile
  rw [Program.mute_heard _ _ _ (Program.uses_request rfl)]
  congr 1
  funext answer
  cases answer with
  | error err =>
    dsimp only
    split <;> rfl
  | ok stored =>
    dsimp only
    split
    · exact Program.mute_same _ _ (Program.uses_mono _ _ _ heard_quiet (quiet_reconcileDeleted stored))
    · unfold reconcileLive
      rw [Program.mute_heard _ _ _ (Program.uses_mono _ _ _ (fun q own => heard_quiet q (q.ofAdoption_quiet own))
        (own_ensureFinalizers stored))]
      congr 1
      funext finalized
      cases finalized with
      | error err => rfl
      | ok original =>
        dsimp only
        rw [Program.mute_bind,mute_reconcileAdoption]
        congr 1
        funext done
        rw [Program.mute_heard _ _ _ (Program.uses_mono _ _ _ (fun q own => heard_quiet q (q.ofAdoption_quiet own))
          (own_patchStatus original _))]
        congr 1
        funext patched
        cases patched <;> rfl

end Muted

def Cluster.withQueue (c : Cluster) (queue : List Decision) : Cluster := { c with queue := queue }

/-- The clusters differ in the flusher's queue only. -/
def SameButQueue (c d : Cluster) : Prop := ∃ queue, d = c.withQueue queue

theorem effect_queue (c : Cluster) (queue : List Decision) (q : Request) (heard : inProcess q = none) :
    (c.withQueue queue).effect q = ((c.effect q).1.withQueue queue,(c.effect q).2) := by
  unfold Cluster.withQueue
  cases q with
  | enqueue d => cases heard
  | _ =>
    first
    | rfl
    | simp only [Cluster.effect,Cluster.patchFinalizers,Cluster.updateAdoption,Cluster.patchStatus,
        Cluster.applyAdoption,Cluster.deleteAdoption,Cluster.applyReplicas,Cluster.patchDeployment,
        Cluster.createService,Cluster.deleteService,Cluster.applyKService,Cluster.deleteKService,Cluster.patchKService,
        Cluster.createTraffic,Cluster.patchTraffic]
      repeat' split
      all_goals rfl

theorem unnoticed_enqueue : Unnoticed apiserver inProcess SameButQueue where
  answered c q answer silent := by
    cases q with
    | enqueue d =>
      cases silent
      rfl
    | _ => cases silent
  hidden c d q answer silent same := by
    obtain ⟨queue,rfl⟩ := same
    cases q with
    | enqueue d => exact ⟨_,rfl⟩
    | _ => cases silent
  heard c d q loud same := by
    obtain ⟨queue,rfl⟩ := same
    change SameButQueue (c.effect q).1 ((c.withQueue queue).effect q).1 ∧ ((c.withQueue queue).effect q).2 = (c.effect q).2
    rw [effect_queue c queue q loud]
    exact ⟨⟨queue,rfl⟩,rfl⟩

/-! What becomes of the annotation. -/

/-- The min-scale annotation of a Knative Service. -/
def minScaleOf (c : Cluster) (key : NamespacedName) : Option String :=
  (c.ksvcs.get key).bind (fun ksvc => ksvc.template.annotations.lookup autoscalingMinScaleAnnotation)

/-- The call is an apply of this Knative Service that the API server accepted. -/
def landed (key : NamespacedName) (e : Event Request Response String Cluster) : Bool :=
  match e.request,e.fault with
  | .applyKService _,.refused _ => false
  | .applyKService ksvc,_ => ksvc.key = key && (e.before.applyKService ksvc).2.isOk
  | _,_ => false

/-- Calls about other things than Knative Services land nothing. -/
theorem any_landed (key : NamespacedName) (log : CallLog) (outside : ∀ e ∈ log, e.request.part ≠ some .ksvcs) :
    log.any (landed key) = false := by
  refine List.any_eq_false.mpr (fun e member => Bool.eq_false_iff.mp ?_)
  have other := outside e member
  obtain ⟨before,fault,q,answer⟩ := e
  cases q with
  | applyKService ksvc => exact absurd rfl other
  | _ => rfl

theorem minScaleOf_put (c d : Cluster) (next : KService) (stored : d.ksvcs = c.ksvcs.put next) (key : NamespacedName) :
    minScaleOf d key =
      if key = next.key then next.template.annotations.lookup autoscalingMinScaleAnnotation else minScaleOf c key := by
  unfold minScaleOf
  rw [stored,Store.get_put]
  split <;> rfl

theorem lookup_overlay (labels sent : Labels) (name text : String) (held : sent.lookup name = some text) :
    (labels.overlay sent).lookup name = some text := by
  unfold Labels.overlay
  rw [List.lookup_append,held]
  rfl

/-- An apply is turned down, or the annotations sent are the ones stored. -/
theorem applyKService_cases (c : Cluster) (ksvc : KService) :
    ((c.applyKService ksvc).1 = c ∧ (c.applyKService ksvc).2.isOk = false) ∨
    ∃ next, next.key = ksvc.key ∧ (c.applyKService ksvc).1.ksvcs = c.ksvcs.put next ∧ (c.applyKService ksvc).2.isOk = true ∧
      ∀ name text, ksvc.template.annotations.lookup name = some text → next.template.annotations.lookup name = some text := by
  unfold Cluster.applyKService
  cases held : c.ksvcs.get ksvc.key with
  | none => exact Or.inr ⟨{ ksvc with status := {} },rfl,rfl,rfl,fun _ _ sent => sent⟩
  | some stored =>
    dsimp only
    split
    · exact Or.inl ⟨rfl,rfl⟩
    · have filed : stored.key = ksvc.key := c.ksvcs.keyed _ _ held
      exact Or.inr ⟨Cluster.appliedKService stored ksvc,filed,rfl,rfl,fun name text sent => lookup_overlay _ _ name text sent⟩

/-- The value of a Knative Service's annotation after some calls of a pass, all of whose applies carry `text`. -/
structure Annotated (start : Cluster) (key : NamespacedName) (text : String) (c : Cluster) (log : CallLog) : Prop where
  present : (c.ksvcs.get key).isSome = true
  value : minScaleOf c key = if log.any (landed key) then some text else minScaleOf start key

def Carries (text : String) (q : Request) : Prop :=
  q.part ≠ some .ksvcs ∨
    ∃ ksvc, q = .applyKService ksvc ∧ ksvc.template.annotations.lookup autoscalingMinScaleAnnotation = some text

section Annotating
variable {start c : Cluster} {key : NamespacedName} {text : String} {log : CallLog}

theorem Annotated.same (annotated : Annotated start key text c log) (d : Cluster) (more : CallLog) (same : d.ksvcs = c.ksvcs)
    (unapplied : more.any (landed key) = false) : Annotated start key text d (log++more) := by
  refine ⟨same ▸ annotated.present,?_⟩
  rw [List.any_append,unapplied,Bool.or_false,← annotated.value]
  unfold minScaleOf
  rw [same]

theorem Annotated.call (annotated : Annotated start key text c log) (fault : Fault String) (q : Request) (carries : Carries text q) :
    Annotated start key text (apiserver.serve fault c q).1 (log++[apiserver.event fault c q]) := by
  rcases carries with other | ⟨ksvc,rfl,sent⟩
  · exact annotated.same _ _ (serve_ksvcs fault c q other)
      (any_landed key _ (fun e member => List.mem_singleton.mp member ▸ other))
  · have taken (reply : Fault String) (lands : landed key (apiserver.event reply c (.applyKService ksvc)) =
        (decide (ksvc.key = key) && (c.applyKService ksvc).2.isOk)) :
        Annotated start key text (c.applyKService ksvc).1 (log++[apiserver.event reply c (.applyKService ksvc)]) := by
      rcases applyKService_cases c ksvc with ⟨same,refused⟩ | ⟨next,filed,stored,accepted,kept⟩
      · rw [same]
        refine annotated.same c _ rfl ?_
        rw [List.any_cons,List.any_nil,lands,refused,Bool.and_false,Bool.or_false]
      · refine ⟨?_,?_⟩
        · rw [stored,Store.get_put]
          split
          · rfl
          · exact annotated.present
        · rw [minScaleOf_put c _ next stored key,List.any_append,List.any_cons,List.any_nil,lands,accepted,filed,
            kept _ _ sent,annotated.value,Bool.and_true,Bool.or_false]
          by_cases here : ksvc.key = key
          · simp [here]
          · rw [if_neg (fun same => here same.symm)]
            simp [here]
    cases fault with
    | none => exact taken _ rfl
    | lost error => exact taken _ rfl
    | refused error => exact annotated.same c _ rfl rfl

theorem Annotated.run {α : Type} (p : Op α) (carries : p.Uses (Carries text)) (annotated : Annotated start key text c log)
    (d : Cluster) (more : CallLog) (out : Option α) (run : Run apiserver Eq p c more out d) :
    Annotated start key text d (log++more) :=
  (ensures_uses (Carries text) (fun _ _ _ same held => same ▸ held) (fun _ _ fault q fine held => held.call fault q fine)
    p carries c log annotated more out d run).1

theorem Annotated.within {α : Type} {parts : List Part} (p : Op α) (inside : Within parts p) (outside : .ksvcs ∉ parts)
    (annotated : Annotated start key text c log) (d : Cluster) (more : CallLog) (out : Option α)
    (run : Run apiserver Eq p c more out d) : Annotated start key text d (log++more) :=
  annotated.run p (Program.uses_mono _ _ p (fun _ fine => Or.inl (fun found => outside (fine _ found))) inside) d more out run

end Annotating

/-! The decision of a pass. -/

theorem enqueued_quiet (log : CallLog) (quiet : ∀ e ∈ log, e.request.asksPods = false) : enqueued log = [] := by
  refine List.filterMap_eq_nil_iff.mpr (fun e member => ?_)
  have silent := quiet e member
  obtain ⟨before,fault,q,answer⟩ := e
  cases q with
  | enqueue d => cases silent
  | _ => rfl

/-- The minimum scale that follows from a vote. -/
def votedScale (results : List ScaleDown.Result) : Int := if ScaleDown.vote results = .block then 1 else 0

/-- The pods were not asked and nothing is decided, or the vote on their answers is; the annotation
is then what the applies of the pass make it. -/
def Decisive (key : NamespacedName) (start : Cluster) (log : CallLog) (c : Cluster) : Prop :=
  ((∀ results, round log ≠ .probed results) ∧ enqueued log = []) ∨
  ∃ results d, round log = .probed results ∧ enqueued log = [d] ∧ d.key = key ∧ d.desiredMinScale = votedScale results ∧
    Annotated start key (toString (votedScale results)) c log

theorem run_maybeRunGuard_decides (r : KnativeAdoptionReconciler) (a b : KnativeAdoption) (on : r.flusher = true)
    (c d : Cluster) (log : CallLog) (run : Run apiserver Eq (maybeRunGuard r a) c log (some b) d) :
    ((∀ results, round log ≠ .probed results) ∧ enqueued log = []) ∨
    ∃ results decision, round log = .probed results ∧ enqueued log = [decision] ∧ decision.key = a.key ∧
      decision.desiredMinScale = votedScale results ∧ effectiveMinScale b = votedScale results ∧
      (c.ksvcs.get a.key).isSome = true := by
  have unheard (told : CallLog) (none : podList told = none) (results : List ScaleDown.Result) : round told ≠ .probed results := by
    unfold round
    rw [none]
    nofun
  rcases maybeRunGuard_cases r a b c d log run with
    ⟨-,unlisted,none⟩ | ⟨enabled,before,fault,live,rest,outcome,after,rfl,rfl,held,guarded⟩
  · exact Or.inl ⟨unheard log unlisted,none⟩
  have told : enqueued (apiserver.event fault c (.getKService a.key)::rest) = enqueued rest ∧
      round (apiserver.event fault c (.getKService a.key)::rest) = round rest := ⟨rfl,rfl⟩
  rw [told.1,told.2]
  cases prober : r.prober with
  | false =>
    unfold runScaleDownGuard at guarded
    simp only [prober,Bool.not_false,if_true] at guarded
    obtain ⟨rfl,-,-⟩ := run_pure guarded
    exact Or.inl ⟨unheard [] rfl,rfl⟩
  | true =>
    obtain ⟨answers,heard,concludes⟩ := run_runScaleDownGuard r a b outcome after _ _ rest prober guarded
    cases heard with
    | unlisted err refused unasked =>
      obtain ⟨-,-,none⟩ : b = unlisted a _ ∧ outcome = .block ∧ enqueued rest = [] := by simpa [concluded] using concludes
      refine Or.inl ⟨fun results same => ?_,none⟩
      unfold round at same
      rw [refused] at same
      cases same
    | probed items listed asked =>
      simp only [concluded,Prod.mk.injEq,on,if_true] at concludes
      obtain ⟨rfl,-,sent⟩ := concludes
      refine Or.inr ⟨(probeAnswers rest).map (fun answer => answer.2),_,?_,sent,?_,?_,?_,by rw [held]; rfl⟩
      · unfold round
        rw [listed]
      · cases ScaleDown.vote ((probeAnswers rest).map (fun answer => answer.2)) <;> rfl
      · unfold votedScale
        cases ScaleDown.vote ((probeAnswers rest).map (fun answer => answer.2)) <;> rfl
      · exact effectiveMinScale_voted a _ enabled

theorem carries_adopts (r : KnativeAdoptionReconciler) (b : KnativeAdoption) (dep : Deployment) :
    (adopts r b dep).Uses (Carries (toString (effectiveMinScale b))) := by
  unfold adopts
  cases translated : translate dep b with
  | error err => trivial
  | ok ksvc =>
    refine uses_adoptTranslated (fun q stage => Or.inl ?_) r _ dep ksvc (fun sent sends => Or.inr ⟨sent,rfl,?_⟩)
    · cases q with
      | applyKService sent => cases stage
      | deleteKService key => cases stage
      | patchKService key annotations => cases stage
      | _ => simp [Request.part]
    · obtain ⟨primary,rfl⟩ := translate_ok dep b ksvc translated
      rw [sends.template]
      exact buildKPAAnnotations_minScale b

theorem round_front (front log : CallLog) (quiet : ∀ e ∈ front, e.request.asksPods = false) :
    round (front++log) = round log := by
  have unlisted : podList front = none := by
    refine List.findSome?_eq_none_iff.mpr (fun e member => ?_)
    have silent := quiet e member
    obtain ⟨before,fault,q,answer⟩ := e
    cases q with
    | listPods ns service => cases silent
    | _ => rfl
  have unasked : probeAnswers front = [] := by
    refine List.filterMap_eq_nil_iff.mpr (fun e member => ?_)
    have silent := quiet e member
    obtain ⟨before,fault,q,answer⟩ := e
    cases q with
    | probe ns pod port path timeout => cases silent
    | _ => rfl
  have lists : podList (front++log) = podList log := by
    unfold podList at unlisted ⊢
    rw [List.findSome?_append,unlisted,Option.none_or]
  unfold round
  rw [lists,probeAnswers_append,unasked,List.nil_append]

theorem minScaleOf_same (c d : Cluster) (same : d.ksvcs = c.ksvcs) (key : NamespacedName) : minScaleOf d key = minScaleOf c key := by
  unfold minScaleOf
  rw [same]

/-- Calls before and after that neither ask pods nor write Knative Services change nothing. -/
theorem Decisive.around {key : NamespacedName} {c m n d : Cluster} {log : CallLog} (decisive : Decisive key m log n)
    (front back : CallLog)
    (quiet : ∀ e ∈ front++back, e.request.asksPods = false ∧ e.request.part ≠ some .ksvcs) (start : m.ksvcs = c.ksvcs)
    (stop : d.ksvcs = n.ksvcs) : Decisive key c (front++(log++back)) d := by
  have first (e : Event Request Response String Cluster) (member : e ∈ front) := quiet e (List.mem_append_left _ member)
  have last (e : Event Request Response String Cluster) (member : e ∈ back) := quiet e (List.mem_append_right _ member)
  unfold Decisive
  rw [enqueued_append,enqueued_append,enqueued_quiet front (fun e member => (first e member).1),
    enqueued_quiet back (fun e member => (last e member).1),List.nil_append,List.append_nil,
    round_front front _ (fun e member => (first e member).1),round_append log back (fun e member => (last e member).1)]
  refine Or.imp_right (fun ⟨results,decision,told,sent,filed,scale,annotated⟩ =>
    ⟨results,decision,told,sent,filed,scale,stop ▸ annotated.present,?_⟩) decisive
  rw [minScaleOf_same n d stop,annotated.value,List.any_append,List.any_append,
    any_landed key front (fun e member => (first e member).2),any_landed key back (fun e member => (last e member).2),
    Bool.false_or,Bool.or_false,minScaleOf_same c m start]

theorem decisive_quiet (key : NamespacedName) (c d : Cluster) (log : CallLog)
    (silent : ∀ e ∈ log, e.request.asksPods = false) : Decisive key c log d := by
  refine Or.inl ⟨fun results same => ?_,enqueued_quiet log silent⟩
  rw [← List.append_nil log,round_front log [] silent] at same
  cases same

theorem run_reconcileAdoption_decides (r : KnativeAdoptionReconciler) (a : KnativeAdoption) (on : r.flusher = true)
    (c d : Cluster) (log : CallLog) (done : Reconciled)
    (run : Run apiserver Eq (reconcileAdoption r a) c log (some done) d) : Decisive a.key c log d := by
  cases opening_of_run r a c d log done run with
  | unread before fault err real => exact decisive_quiet _ _ _ _ (fun e member => by rw [List.mem_singleton.mp member]; rfl)
  | missing before fault err gone => exact decisive_quiet _ _ _ _ (fun e member => by rw [List.mem_singleton.mp member]; rfl)
  | found before m k fault dep filed b guard rest done asked guarded adopting =>
    have silent := run_uses (quiet_adopts r b dep) adopting
    have decided : Decisive a.key m (guard++rest) d := by
      unfold Decisive
      rw [enqueued_append,enqueued_quiet rest silent,List.append_nil,round_append guard rest silent]
      refine (run_maybeRunGuard_decides r _ b on m k guard guarded).imp_right
        (fun ⟨results,decision,told,sent,filed,scale,effective,present⟩ => ⟨results,decision,told,sent,filed,scale,?_⟩)
      have start : Annotated m a.key (toString (votedScale results)) m [] := ⟨present,rfl⟩
      have voted := start.within _ (within_maybeRunGuard r _) (by simp) k guard _ guarded
      exact voted.run _ (effective ▸ carries_adopts r b dep) d rest _ adopting
    have same : m.ksvcs = c.ksvcs :=
      run_same .ksvcs (same_of_eq .ksvcs) (within_getSourceDeployment a) (by simp) asked
    have whole := decided.around [⟨before,fault,.getDeployment (sourceKey a),.ok dep⟩] [] (fun e member => ?_) same rfl
    · rw [List.append_nil] at whole
      exact whole
    · rw [List.append_nil,List.mem_singleton] at member
      rw [member]
      exact ⟨rfl,nofun⟩

/-! When the pass carries its decision itself. -/

/-- The call is an apply that got to the API server. -/
def arrives (e : Event Request Response String Cluster) : Bool :=
  match e.request,e.fault with
  | .applyKService _,.refused _ => false
  | .applyKService _,_ => true
  | _,_ => false

/-- The pass comes to its apply, the apply is of the Knative Service the guard looked at, and the
API server takes it. -/
structure AppliesVote (a : KnativeAdoption) (c : Cluster) (log : CallLog) : Prop where
  named : sourceName a = a.name
  reached : turn a log = .applied
  arrived : log.any arrives = true
  alone : ∀ live, c.ksvcs.get a.key = some live → Sole a live

theorem applyKService_accepts (c : Cluster) (a : KnativeAdoption) (sent : KService)
    (owner : sent.ownerReferences = [ownerReferenceOf a]) :
    (c.applyKService sent).2.isOk = true ↔ ∀ live, c.ksvcs.get sent.key = some live → Sole a live := by
  unfold Cluster.applyKService
  cases held : c.ksvcs.get sent.key with
  | none => exact iff_of_true rfl nofun
  | some stored =>
    have owners : (Cluster.appliedKService stored sent).ownerReferences =
        Cluster.mergeOwners stored.ownerReferences [ownerReferenceOf a] := by rw [← owner]; rfl
    dsimp only
    rw [owners]
    split
    next many =>
      refine iff_of_false Bool.false_ne_true (fun alone => ?_)
      exact absurd (alone stored rfl) (Nat.not_le.mpr many)
    next few =>
      refine iff_of_true rfl (fun live same => ?_)
      cases same
      exact Nat.not_lt.mp few

theorem landed_arrives (key : NamespacedName) (before : Cluster) (fault : Fault String) (sent : KService)
    (answer : Except ApiError Unit) : landed key ⟨before,fault,.applyKService sent,answer⟩ =
      (arrives ⟨before,fault,.applyKService sent,answer⟩ && (decide (sent.key = key) && (before.applyKService sent).2.isOk)) := by
  cases fault <;> rfl

theorem any_arrives (log : CallLog) (outside : ∀ e ∈ log, e.request.part ≠ some .ksvcs) : log.any arrives = false := by
  refine List.any_eq_false.mpr (fun e member => Bool.eq_false_iff.mp ?_)
  have other := outside e member
  obtain ⟨before,fault,q,answer⟩ := e
  cases q with
  | applyKService ksvc => exact absurd rfl other
  | _ => rfl

theorem landed_iff (r : KnativeAdoptionReconciler) (a : KnativeAdoption) (c d : Cluster) (log : CallLog) (done : Reconciled)
    (run : Run apiserver Eq (reconcileAdoption r a) c log (some done) d) :
    log.any (landed a.key) = true ↔ AppliesVote a c log := by
  have wrote := wrote_of_run r a c d log done run
  generalize off : turn a log = t at wrote
  cases wrote with
  | nothing _ _ stops calm =>
    refine iff_of_false ?_ (fun carried => ?_)
    · rw [any_landed a.key log (fun e member found => absurd (calm e member _ found) (by simp))]
      exact Bool.false_ne_true
    · rw [← off,carried.reached] at stops
      cases stops
  | deleted front before fault key answer calm =>
    refine iff_of_false ?_ (fun carried => ?_)
    · rw [any_landed a.key _ (fun e member found => ?_)]
      · exact Bool.false_ne_true
      rcases List.mem_append.mp member with first | last
      · exact absurd (calm e first _ found) (by simp)
      · rw [List.mem_singleton.mp last] at found
        cases found
    · rw [carried.reached] at off
      cases off
  | applied front tail before fault sent answer key owner others reached =>
    have first (e : Event Request Response String Cluster) (member : e ∈ front) := others e (List.mem_append_left _ member)
    have last (e : Event Request Response String Cluster) (member : e ∈ tail) := others e (List.mem_append_right _ member)
    have stored : before.ksvcs = c.ksvcs := reached (same_of_eq .ksvcs)
    have named : sent.key = a.key ↔ sourceName a = a.name := by
      rw [key]
      simp [sourceKey,ObjectMeta.key]
    have taken := applyKService_accepts before a sent owner
    rw [List.any_append,List.any_cons,any_landed a.key front first,any_landed a.key tail last,Bool.false_or,Bool.or_false,
      landed_arrives]
    simp only [Bool.and_eq_true,decide_eq_true_eq,taken]
    constructor
    · rintro ⟨came,same,alone⟩
      refine ⟨named.mp same,off,by simp [came],fun live held => alone live ?_⟩
      rw [stored,same]
      exact held
    · intro carried
      have same := named.mpr carried.named
      refine ⟨?_,same,fun live held => carried.alone live ?_⟩
      · have came := carried.arrived
        rw [List.any_append,List.any_cons,any_arrives front first,any_arrives tail last,Bool.false_or,Bool.or_false] at came
        exact came
      · rw [← stored,← same]
        exact held

/-- The calls about the adoption itself say nothing about the course of a pass. -/
theorem turn_around (a : KnativeAdoption) (front log back : CallLog) (first : ∀ e ∈ front, e.request.ofAdoption = true)
    (last : ∀ e ∈ back, e.request.ofAdoption = true) : turn a (front++(log++back)) = turn a log := by
  have silent (part : CallLog) (own : ∀ e ∈ part, e.request.ofAdoption = true) :
      sourceRead part = none ∧ serviceReads part = [] ∧ part.any failsReference = false := by
    refine ⟨List.findSome?_eq_none_iff.mpr (fun e member => ?_),serviceReads_quiet part (fun e member => ?_),
      any_failsReference part (fun e member => ?_)⟩
    all_goals
      have call := own e member
      obtain ⟨before,fault,q,answer⟩ := e
      cases q with
      | getAdoption key => rfl
      | patchFinalizers key finalizers => rfl
      | patchStatus original current => rfl
      | _ => cases call
  obtain ⟨source,services,traffic⟩ := silent front first
  obtain ⟨source',services',traffic'⟩ := silent back last
  have read : sourceRead (front++(log++back)) = sourceRead log := by
    unfold sourceRead at source source' ⊢
    rw [List.findSome?_append,source,Option.none_or,List.findSome?_append,source',Option.or_none]
  have reads : serviceReads (front++(log++back)) = serviceReads log := by
    rw [serviceReads_append,serviceReads_append,services,services',List.nil_append,List.append_nil]
  have fails : (front++(log++back)).any failsReference = log.any failsReference := by
    rw [List.any_append,List.any_append,traffic,traffic',Bool.false_or,Bool.or_false]
  have routes : unrouted a (front++(log++back)) = unrouted a log := by
    unfold unrouted portUnread
    rw [reads,fails]
  have found : serviceFound (front++(log++back)) = serviceFound log := by
    unfold serviceFound
    rw [reads]
  unfold turn turnAtService
  rw [read,found,routes]

theorem run_ensureFinalizers_stored (a b : KnativeAdoption) (c d : Cluster) (log : CallLog)
    (held : c.adoptions.get a.key = some a) (run : Run apiserver Eq (ensureFinalizers a) c log (some (.ok b)) d) :
    ∃ finalizers, b = { a with finalizers := finalizers } := by
  unfold ensureFinalizers at run
  dsimp only at run
  split at run
  · obtain ⟨-,-,⟨⟩⟩ := run_return run
    exact ⟨a.finalizers,rfl⟩
  · obtain ⟨answer,m,first,rest,-,asked,following⟩ := run_bind_some run
    obtain ⟨before,fault,rfl,-,served⟩ := run_request asked
    cases answer with
    | error err => cases (run_return following).2.2
    | ok stored =>
      cases (run_return following).2.2
      have heard := congrArg Prod.snd served
      cases fault with
      | refused error => cases heard
      | lost error => cases heard
      | none =>
        change (c.patchFinalizers a.key _).2 = _ at heard
        unfold Cluster.patchFinalizers at heard
        rw [held] at heard
        dsimp only at heard
        split at heard
        · cases heard
        · exact ⟨_,(Except.ok.inj heard).symm⟩

/-- The whole pass over a live adoption is its pipeline between calls about the adoption. -/
theorem run_reconcile_pipeline (r : KnativeAdoptionReconciler) (key : NamespacedName) (c d : Cluster) (log : CallLog)
    (value : Result × Option ApiError) (run : Run apiserver Eq (reconcile r key) c log (some value) d) :
    (∀ e ∈ log, e.request.asksPods = false) ∨
    ∃ a original done front calls back m n, c.adoptions.get key = some a ∧
      (∃ finalizers, original = { a with finalizers := finalizers }) ∧ log = front++(calls++back) ∧
      (∀ e ∈ front, e.request.ofAdoption = true) ∧ (∀ e ∈ back, e.request.ofAdoption = true) ∧
      m.ksvcs = c.ksvcs ∧ d.ksvcs = n.ksvcs ∧ Run apiserver Eq (reconcileAdoption r original) m calls (some done) n := by
  unfold reconcile at run
  obtain ⟨answer,m,first,rest,rfl,asked,following⟩ := run_bind_some run
  have reading := run_uses (Program.uses_request rfl : (Client.getAdoption key).Uses (fun q => q.ofAdoption = true)) asked
  obtain ⟨before,fault,rfl,-,served⟩ := run_request asked
  have quietly {α : Type} (p : Op α) (out : Option α) (quiet : p.Uses (fun q => q.asksPods = false))
      (run : Run apiserver Eq p m rest out d) : ∀ e ∈ first++rest, e.request.asksPods = false := by
    intro e member
    rcases List.mem_append.mp member with read | later
    · exact e.request.ofAdoption_quiet (reading e read)
    · exact run_uses quiet run e later
  cases answer with
  | error err =>
    refine Or.inl (quietly _ _ ?_ following)
    dsimp only
    split <;> trivial
  | ok stored =>
    have heard := congrArg Prod.snd served
    have held : c.adoptions.get key = some stored := getAdoption_ok heard
    have unmoved : m = c := (congrArg Prod.fst served).symm.trans (serve_read _ rfl)
    subst unmoved
    dsimp only at following
    split at following
    · exact Or.inl (quietly _ _ (quiet_reconcileDeleted stored) following)
    · obtain ⟨finalized,e,second,live,rfl,ensured,adopting⟩ := run_bind_some following
      have ensuring := run_uses (own_ensureFinalizers stored) ensured
      cases finalized with
      | error err =>
        obtain ⟨rfl,-,-⟩ := run_pure adopting
        refine Or.inl (fun e member => e.request.ofAdoption_quiet ?_)
        rw [List.append_nil] at member
        exact (List.mem_append.mp member).elim (reading e) (ensuring e)
      | ok original =>
        obtain ⟨done,f,third,last,rfl,adopted,patching⟩ := run_bind_some adopting
        have key_ : stored.key = key := m.adoptions.keyed _ _ held
        have finalizers := run_ensureFinalizers_stored stored original _ _ second (key_ ▸ held) ensured
        have patched : ∀ e ∈ last, e.request.ofAdoption = true := by
          refine run_uses (Program.uses_bind (own_patchStatus _ _) (fun answer => ?_)) patching
          cases answer <;> trivial
        refine Or.inr ⟨stored,original,done,first++second,third,last,e,f,held,finalizers,by simp,
          fun e member => (List.mem_append.mp member).elim (reading e) (ensuring e),patched,
          run_same .ksvcs (same_of_eq _) (within_ensureFinalizers stored) (by simp) ensured,
          run_same .ksvcs (same_of_eq _) (within_bind (within_patchStatus _ _) (fun answer => ?_)) (by simp) patching,
          adopted⟩
        cases answer <;> trivial

theorem ofAdoption_part (q : Request) (own : q.ofAdoption = true) : q.part ≠ some .ksvcs := by
  cases q with
  | getAdoption key => nofun
  | patchFinalizers key finalizers => nofun
  | patchStatus original current => nofun
  | _ => cases own

theorem run_reconcile_decides (r : KnativeAdoptionReconciler) (key : NamespacedName) (on : r.flusher = true) (c d : Cluster)
    (log : CallLog) (value : Result × Option ApiError) (run : Run apiserver Eq (reconcile r key) c log (some value) d) :
    Decisive key c log d ∧ ∀ results, round log = .probed results →
      ∃ a, c.adoptions.get key = some a ∧ (log.any (landed key) = true ↔ AppliesVote a c log) := by
  rcases run_reconcile_pipeline r key c d log value run with
    silent | ⟨a,original,done,front,calls,back,m,n,held,⟨finalizers,rfl⟩,rfl,first,last,start,stop,adopted⟩
  · refine ⟨decisive_quiet _ _ _ _ silent,fun results told => ?_⟩
    rw [← List.append_nil log,round_front log [] silent] at told
    cases told
  have filed : a.key = key := c.adoptions.keyed _ _ held
  have own (e : Event Request Response String Cluster) (member : e ∈ front++back) : e.request.ofAdoption = true :=
    (List.mem_append.mp member).elim (first e) (last e)
  subst filed
  refine ⟨(run_reconcileAdoption_decides r { a with finalizers := finalizers } on m n calls done adopted).around front back
    (fun e member => ⟨e.request.ofAdoption_quiet (own e member),ofAdoption_part _ (own e member)⟩) start stop,
    fun results told => ⟨a,held,?_⟩⟩
  have opening (e : Event Request Response String Cluster) (member : e ∈ front) := ofAdoption_part _ (first e member)
  have closing (e : Event Request Response String Cluster) (member : e ∈ back) := ofAdoption_part _ (last e member)
  have lands := landed_iff r { a with finalizers := finalizers } m n calls done adopted
  have course : turn a (front++(calls++back)) = turn { a with finalizers := finalizers } calls :=
    turn_around a front calls back first last
  rw [List.any_append,List.any_append,any_landed a.key front opening,any_landed a.key back closing,Bool.false_or,Bool.or_false]
  refine lands.trans ⟨fun carried => ⟨carried.named,course.trans carried.reached,?_,fun live found => ?_⟩,
    fun carried => ⟨carried.named,course.symm.trans carried.reached,?_,fun live found => ?_⟩⟩
  · rw [List.any_append,List.any_append,carried.arrived,Bool.true_or,Bool.or_true]
  · exact carried.alone live (start ▸ found)
  · have came := carried.arrived
    rw [List.any_append,List.any_append,any_arrives front opening,any_arrives back closing,Bool.false_or,Bool.or_false] at came
    exact came
  · exact carried.alone live (start ▸ found)

/-! The two paths. -/

/-- One pass under these faults of its API calls. -/
def passUnder (r : KnativeAdoptionReconciler) (flusher : Bool) (key : NamespacedName) (faults : List (Fault String))
    (c : Cluster) : CallLog × (Result × Option ApiError) × Cluster :=
  apiserver.attempt inProcess (reconcile (r.withFlusher flusher) key) faults c

/-- The flusher gets to the decisions, and every patch succeeds. -/
def flushed (decisions : List Decision) (c : Cluster) : Cluster :=
  decisions.foldl (fun c d => (apiserver.succeed (patchMinScale d) c).2) c

theorem succeed_patchMinScale (d : Decision) (c : Cluster) (live : KService) (held : c.ksvcs.get d.key = some live) :
    (apiserver.succeed (patchMinScale d) c).2 =
      if live.template.annotations.value autoscalingMinScaleAnnotation = toString d.desiredMinScale then c
      else (c.patchKService live.key (buildMinScaleMergePatch (toString d.desiredMinScale))).1 := by
  have answer : (apiserver.effect c (.getKService d.key)).2 = .ok live := by
    change found c.ksvcs d.key _ = _
    unfold found
    rw [held]
  unfold patchMinScale
  rw [succeed_ask,answer]
  dsimp only
  split
  · rfl
  · rw [succeed_ask]
    cases (apiserver.effect (apiserver.effect c (.getKService d.key)).1
      (.patchKService live.key (buildMinScaleMergePatch (toString d.desiredMinScale)))).2 <;> rfl

theorem minScaleOf_patched (d : Decision) (bit : d.desiredMinScale = 0 ∨ d.desiredMinScale = 1) (c : Cluster)
    (present : (c.ksvcs.get d.key).isSome = true) (key : NamespacedName) :
    minScaleOf (apiserver.succeed (patchMinScale d) c).2 key =
      if key = d.key then some (toString d.desiredMinScale) else minScaleOf c key := by
  obtain ⟨live,held⟩ := Option.isSome_iff_exists.mp present
  have filed : live.key = d.key := c.ksvcs.keyed _ _ held
  rw [succeed_patchMinScale d c live held]
  split
  next equal =>
    have stored : minScaleOf c d.key = some (toString d.desiredMinScale) := by
      unfold minScaleOf
      rw [held,Option.bind_some]
      unfold Labels.value at equal
      cases text : live.template.annotations.lookup autoscalingMinScaleAnnotation with
      | none =>
        rw [text] at equal
        rcases bit with zero | one
        · rw [zero] at equal
          exact absurd equal (by decide)
        · rw [one] at equal
          exact absurd equal (by decide)
      | some value =>
        rw [text] at equal
        rw [← equal]
        rfl
    split
    next here => rw [here,stored]
    next => rfl
  next =>
    unfold Cluster.patchKService
    rw [filed,held,minScaleOf_put c _ _ rfl key]
    change (if key = live.key then (Labels.overlay _ _).lookup _ else _) = _
    rw [filed,lookup_overlay _ _ _ (toString d.desiredMinScale) (by unfold buildMinScaleMergePatch; exact List.lookup_cons_self)]

/-- The paths leave the same annotations exactly when, once the pods were asked, the pass comes
to an apply of the adoption's own name that the API server takes, or the annotation had the value
of the vote before. -/
theorem flusher_path_iff (r : KnativeAdoptionReconciler) (key : NamespacedName) (faults : List (Fault String)) (c : Cluster) :
    let pass := fun flusher => passUnder r flusher key faults c
    (∀ ksvc, minScaleOf (flushed (enqueued (pass true).1) (pass true).2.2) ksvc = minScaleOf (pass false).2.2 ksvc) ↔
    ∀ a results, c.adoptions.get key = some a → round (pass true).1 = .probed results →
      AppliesVote a c (pass true).1 ∨ minScaleOf c key = some (toString (votedScale results)) := by
  intro pass
  have same : SameButQueue (pass false).2.2 (pass true).2.2 := by
    unfold pass passUnder
    rw [← mute_reconcile]
    exact (attempt_mute unnoticed_enqueue _ faults c c ⟨c.queue,rfl⟩).2
  have plain (ksvc : NamespacedName) : minScaleOf (pass false).2.2 ksvc = minScaleOf (pass true).2.2 ksvc := by
    obtain ⟨queue,equal⟩ := same
    rw [equal]
    rfl
  have run : Run apiserver Eq (reconcile (r.withFlusher true) key) c (pass true).1 (some (pass true).2.1) (pass true).2.2 :=
    run_attempt apiserver inProcess Eq (fun _ => rfl) (reconcile (r.withFlusher true) key) faults c
  obtain ⟨decisive,lands⟩ := run_reconcile_decides _ key rfl c _ _ _ run
  simp only [plain]
  rcases decisive with ⟨unasked,none⟩ | ⟨results,d,told,sent,filed,scale,annotated⟩
  · rw [none]
    exact iff_of_true (fun _ => rfl) (fun a results _ told => absurd told (unasked results))
  obtain ⟨a,held,landing⟩ := lands results told
  have bit : d.desiredMinScale = 0 ∨ d.desiredMinScale = 1 := by
    rw [scale]
    unfold votedScale
    split
    · exact Or.inr rfl
    · exact Or.inl rfl
  have patched := minScaleOf_patched d bit (pass true).2.2 (filed ▸ annotated.present)
  rw [filed,scale] at patched
  rw [sent]
  simp only [flushed,List.foldl_cons,List.foldl_nil,patched]
  constructor
  · intro equal b answers stored heard
    cases held.symm.trans stored
    cases told.symm.trans heard
    have here := equal key
    rw [if_pos rfl,annotated.value] at here
    split at here
    next lands => exact Or.inl (landing.mp lands)
    next => exact Or.inr here.symm
  · intro carried ksvc
    split
    next here =>
      rw [here,annotated.value]
      split
      next => rfl
      next unlanded => exact ((carried a results held told).resolve_left (fun lands => unlanded (landing.mpr lands))).symm
    next => rfl

namespace Sample

/-- Adopted in two passes; its one pod refuses to be removed. -/
def busy : Cluster :=
  { (apiserver.execPasses pass [List.replicate 7 .none,List.replicate 11 .none] cluster).2 with
    pods := [pod], probes := fun _ name _ _ _ => ⟨name,false,none⟩ }

/-- The read of the Service after the guard fails. -/
def unreadService : List (Fault String) := List.replicate 5 .none ++ [.refused "timeout"]

end Sample

/-- The guard blocks and the pass then fails: only the flusher raises the annotation. -/
theorem flusher_path_differs :
    let pass := fun flusher => passUnder Sample.reconciler flusher Sample.adoption.key Sample.unreadService Sample.busy
    minScaleOf Sample.busy Sample.adoption.key = some "0" ∧
      enqueued (pass true).1 = [⟨"prod","web","web",1,"ScaleDownBlocked"⟩] ∧
      minScaleOf (flushed (enqueued (pass true).1) (pass true).2.2) Sample.adoption.key = some "1" ∧
      minScaleOf (pass false).2.2 Sample.adoption.key = some "0" := by decide +kernel

end Ifaas
