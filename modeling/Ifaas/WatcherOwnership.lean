import Ifaas.DeploymentWatcher
import Ifaas.Library.Interleave
import Ifaas.Users
import Ifaas.WriteAhead

/-! The watcher among users. A pass of the watcher reads the Deployment and the adoption and
then applies or deletes without a precondition; users create, delete and edit adoptions in
between. What the watcher may write is decided by a label that it read earlier. -/
namespace Ifaas
open Library

/-- One pass of the watcher over a key. -/
def watchPass (key : NamespacedName) : Op Unit := do
  let _ ← DeploymentWatcher.reconcile key
  return ()

abbrev WatchTurn := Turn NamespacedName Request Response String Cluster

abbrev WatchScene := Scene NamespacedName Request Response String Cluster

/-- What a pass was told about the adoption. -/
def toldAdoption (log : CallLog) : Option (Except ApiError KnativeAdoption) :=
  log.findSome? (fun e =>
    match e with
    | ⟨_,_,.getAdoption _,answer⟩ => some answer
    | _ => none)

/-- The adoption a pass of the watcher read: it was stored, with the watcher's label. -/
structure ReadOwned (key : NamespacedName) (log : CallLog) (existing : KnativeAdoption) : Prop where
  told : toldAdoption log = some (.ok existing)
  stored : ∃ e ∈ log, e.before.adoptions.get key = some existing
  owned : DeploymentWatcher.watcherOwned existing = true

/-- The Deployment a pass of the watcher read: it was stored, with the trigger label. -/
structure ReadLabelled (key : NamespacedName) (log : CallLog) (dep : Deployment) : Prop where
  stored : ∃ e ∈ log, e.request = .getDeployment key ∧ e.before.deployments.get key = some dep
  labelled : DeploymentWatcher.isAdoptionLabelEnabled dep = true

/-- The calls of a pass of the watcher, given the ones before. -/
inductive WatcherCall (key : NamespacedName) (log : CallLog) : Request → Prop
  | deployment : WatcherCall key log (.getDeployment key)
  | adoption : WatcherCall key log (.getAdoption key)
  | create (dep : Deployment) (source : ReadLabelled key log dep) (err : ApiError) (absent : toldAdoption log = some (.error err)) :
      WatcherCall key log (.applyAdoption key DeploymentWatcher.watcherLabels (fromDeployment dep).1)
  | apply (dep : Deployment) (source : ReadLabelled key log dep) (existing : KnativeAdoption) (read : ReadOwned key log existing) :
      WatcherCall key log (.applyAdoption key DeploymentWatcher.watcherLabels (fromDeployment dep).1)
  | delete (existing : KnativeAdoption) (read : ReadOwned key log existing) : WatcherCall key log (.deleteAdoption key)

abbrev Watched (key : NamespacedName) (log : CallLog) : Prop :=
  Library.Recorded (fun past e => WatcherCall key past e.request) log

theorem toldAdoption_last {log : CallLog} {d : Cluster} {fault : Fault String} {key : NamespacedName}
    {response : Except ApiError KnativeAdoption} (unread : toldAdoption log = none)
    (answer : (apiserver.serve fault d (.getAdoption key)).2 = response) :
    toldAdoption (log++[apiserver.event fault d (.getAdoption key)]) = some response := by
  unfold toldAdoption at unread ⊢
  rw [List.findSome?_append,unread,apiserver.event_answered answer]
  rfl

theorem readOwned_last {log : CallLog} {d : Cluster} {fault : Fault String} {key : NamespacedName} {existing : KnativeAdoption}
    (unread : toldAdoption log = none) (answer : (apiserver.serve fault d (.getAdoption key)).2 = .ok existing)
    (owned : DeploymentWatcher.watcherOwned existing = true) :
    ReadOwned key (log++[apiserver.event fault d (.getAdoption key)]) existing :=
  ⟨toldAdoption_last unread answer,⟨_,List.mem_append_right _ (List.mem_singleton_self _),getAdoption_ok answer⟩,owned⟩

section Calls
variable {key : NamespacedName} {c : Cluster} {log : CallLog} (before : Watched key log)
include before

theorem ensures_watched_last (q : Request) (call : WatcherCall key log q) (f : Response q → Op (Option ApiError))
    (ends : ∀ answer, ∃ value, f answer = pure value) :
    Ensures apiserver (fun _ _ => True) (fun _ past => Watched key past) (Client.ask q >>= f) (fun _ _ past => Watched key past)
      c log := by
  refine ensures_ask before (fun d fault _ => ?_)
  have after : Watched key (log++[apiserver.event fault d q]) := recorded_snoc _ log _ before call
  obtain ⟨value,same⟩ := ends (apiserver.serve fault d q).2
  rw [same]
  exact ensures_pure after after

theorem ensures_deleteIfWatcherOwned (unread : toldAdoption log = none) :
    Ensures apiserver (fun _ _ => True) (fun _ past => Watched key past) (DeploymentWatcher.deleteIfWatcherOwned key)
      (fun _ _ past => Watched key past) c log := by
  refine ensures_ask before (fun d fault _ => ?_)
  have after : Watched key (log++[apiserver.event fault d (.getAdoption key)]) := recorded_snoc _ log _ before .adoption
  cases answer : (apiserver.serve fault d (.getAdoption key)).2 with
  | error err =>
    dsimp only
    split <;> exact ensures_pure after after
  | ok existing =>
    have filed : existing.key = key := d.adoptions.keyed _ _ (getAdoption_ok answer)
    dsimp only
    split
    next owned =>
      refine ensures_watched_last after _ ?_ _ (fun reply => ?_)
      · rw [filed]
        exact .delete existing (readOwned_last unread answer owned)
      · cases reply with
        | ok done => exact ⟨_,rfl⟩
        | error err =>
          dsimp only
          split <;> exact ⟨_,rfl⟩
    next => exact ensures_pure after after

theorem ensures_applyAdoption_watched (unread : toldAdoption log = none) (dep : Deployment) (filed : dep.key = key)
    (source : ReadLabelled key log dep) :
    Ensures apiserver (fun _ _ => True) (fun _ past => Watched key past) (DeploymentWatcher.applyAdoption dep)
      (fun _ _ past => Watched key past) c log := by
  have submits (past : CallLog) (d : Cluster) (watched : Watched key past)
      (call : WatcherCall key past (.applyAdoption key DeploymentWatcher.watcherLabels (fromDeployment dep).1)) :
      Ensures apiserver (fun _ _ => True) (fun _ past => Watched key past) (DeploymentWatcher.submitAdoption dep)
        (fun _ _ past => Watched key past) d past := by
    refine ensures_watched_last watched _ (by rw [filed]; exact call) _ (fun reply => ?_)
    cases reply <;> exact ⟨_,rfl⟩
  unfold DeploymentWatcher.applyAdoption
  rw [filed]
  refine ensures_ask before (fun d fault _ => ?_)
  have after : Watched key (log++[apiserver.event fault d (.getAdoption key)]) := recorded_snoc _ log _ before .adoption
  have labelled : ReadLabelled key (log++[apiserver.event fault d (.getAdoption key)]) dep :=
    ⟨source.stored.imp (fun _ held => ⟨List.mem_append_left _ held.1,held.2⟩),source.labelled⟩
  cases answer : (apiserver.serve fault d (.getAdoption key)).2 with
  | ok existing =>
    dsimp only
    split
    next owned => exact submits _ _ after (.apply dep labelled existing (readOwned_last unread answer owned))
    next => exact ensures_pure after after
  | error err =>
    dsimp only
    split
    · exact submits _ _ after (.create dep labelled err (toldAdoption_last unread answer))
    · exact ensures_pure after after

end Calls

/-- Whatever happens around a pass of the watcher, what it writes follows what it read. -/
theorem watchPass_calls (key : NamespacedName) (s : Cluster) (log : CallLog) (t : Cluster)
    (run : Run apiserver (fun _ _ => True) (watchPass key) s log none t) : Watched key log := by
  have watched : Ensures apiserver (fun _ _ => True) (fun _ past => Watched key past) (DeploymentWatcher.reconcile key)
      (fun _ _ past => Watched key past) s [] := by
    refine ensures_ask (recorded_nil _) (fun d fault _ => ?_)
    have after : Watched key ([]++[apiserver.event fault d (.getDeployment key)]) :=
      recorded_snoc _ [] _ (recorded_nil _) .deployment
    have unread : toldAdoption ([]++[apiserver.event fault d (.getDeployment key)]) = none := rfl
    cases answer : (apiserver.serve fault d (.getDeployment key)).2 with
    | error err =>
      dsimp only
      split
      · exact ensures_deleteIfWatcherOwned after unread
      · exact ensures_pure after after
    | ok dep =>
      have stored := getDeployment_ok answer
      dsimp only
      split
      next enabled =>
        exact ensures_applyAdoption_watched after unread dep (d.deployments.keyed _ _ stored)
          ⟨⟨_,List.mem_append_right _ (List.mem_singleton_self _),rfl,stored⟩,enabled⟩
      next => exact ensures_deleteIfWatcherOwned after unread
  have whole : Ensures apiserver (fun _ _ => True) (fun _ past => Watched key past) (watchPass key)
      (fun _ _ past => Watched key past) s [] :=
    ensures_bind (ensures_mono watched (fun _ _ _ _ held => ensures_pure held held))
  exact (whole log none t run).1

/-! Objects of users. -/

/-- On the objects of users the clusters agree. -/
def SpareUsers (mine : Nat → Prop) (c d : Cluster) : Prop :=
  ∀ key st, mine st.uid → (d.adoptions.get key = some st ↔ c.adoptions.get key = some st)

/-- No object of a user carries the label by which the watcher knows its own. -/
def Unclaimed (mine : Nat → Prop) (c : Cluster) : Prop :=
  ∀ key st, c.adoptions.get key = some st → mine st.uid → DeploymentWatcher.watcherOwned st = false

/-- The call changes or removes an object of a user. -/
def Harms (mine : Nat → Prop) (e : Event Request Response String Cluster) : Prop :=
  ∃ key st, e.before.adoptions.get key = some st ∧ mine st.uid ∧
    (apiserver.serve e.fault e.before e.request).1.adoptions.get key ≠ some st

/-- Users act as far as admission lets them, and everything but the adoptions may change. -/
def Around (mine : Nat → Prop) (c d : Cluster) : Prop :=
  UserMove mine c d ∨ d.adoptions = c.adoptions ∧ c.nextUid ≤ d.nextUid

section Users
variable {mine : Nat → Prop} {c d : Cluster}

theorem spareUsers_put {next : KnativeAdoption} (stored : d.adoptions = c.adoptions.put next) (at_ : NamespacedName)
    (filed : next.key = at_) (other : ¬ mine next.uid) (free : ∀ st, c.adoptions.get at_ = some st → ¬ mine st.uid) :
    SpareUsers mine c d := by
  intro key st theirs
  rw [stored,Store.get_put,filed]
  split
  next here =>
    subst here
    refine iff_of_false (fun same => ?_) (fun held => free st held theirs)
    cases same
    exact other theirs
  next => rfl

theorem spareUsers_applyAdoption (key : NamespacedName) (labels : Labels) (spec : KnativeAdoptionSpec)
    (fresh : ¬ mine c.nextUid) (free : ∀ st, c.adoptions.get key = some st → ¬ mine st.uid) :
    SpareUsers mine c (c.applyAdoption key labels spec).1 := by
  unfold Cluster.applyAdoption
  split
  · exact spareUsers_put rfl key rfl fresh free
  next stored held =>
    have filed : stored.key = key := c.adoptions.keyed _ _ held
    exact spareUsers_put rfl key filed (free stored held) free

theorem spareUsers_deleteAdoption (key : NamespacedName) (free : ∀ st, c.adoptions.get key = some st → ¬ mine st.uid) :
    SpareUsers mine c (c.deleteAdoption key).1 := by
  intro other st theirs
  rw [get_deleteAdoption]
  split
  next here =>
    subst here
    refine iff_of_false (fun left => ?_) (fun held => free st held theirs)
    obtain ⟨old,held,marked⟩ := Option.bind_eq_some_iff.mp left
    split at marked
    · cases marked
    · cases marked
      exact free old held theirs
  next => rfl

theorem SpareUsers.unclaimed (spared : SpareUsers mine c d) (unclaimed : Unclaimed mine c) : Unclaimed mine d :=
  fun key st held theirs => unclaimed key st ((spared key st theirs).mp held) theirs

theorem around_nextUid (moved : Around mine c d) : c.nextUid ≤ d.nextUid := by
  rcases moved with acted | ⟨-,later⟩
  · cases acted with
    | create | edit => exact le_refl _
    | delete key =>
      rw [deleteAdoption_frame]
  · exact later

end Users

/-! The watcher and the users side by side. -/

def Request.writesAdoption : Request → Option NamespacedName
  | .applyAdoption key _ _ => some key
  | .deleteAdoption key => some key
  | _ => none

/-- If an object of a user is there when the watcher writes, it is the object the pass read. -/
def ReadStands (mine : Nat → Prop) (past : List WatchTurn) (turn : WatchTurn) : Prop :=
  ∀ key now, turn.event.request.writesAdoption = some key → turn.event.before.adoptions.get key = some now → mine now.uid →
    ∃ existing, toldAdoption (own turn.strand past) = some (.ok existing) ∧ existing.uid = now.uid

section Watching
variable {mine : Nat → Prop}

/-- A call of the watcher that finds no object of a user spares them all. -/
theorem spareUsers_call (key : NamespacedName) (log : CallLog) (q : Request) (call : WatcherCall key log q) (c : Cluster)
    (fault : Fault String) (fresh : ¬ mine c.nextUid)
    (free : ∀ at_ st, q.writesAdoption = some at_ → c.adoptions.get at_ = some st → ¬ mine st.uid) :
    SpareUsers mine c (apiserver.serve fault c q).1 ∧ c.nextUid ≤ (apiserver.serve fault c q).1.nextUid := by
  have applies (labels : Labels) (spec : KnativeAdoptionSpec)
      (none_ : ∀ st, c.adoptions.get key = some st → ¬ mine st.uid) :
      SpareUsers mine c (c.applyAdoption key labels spec).1 ∧ c.nextUid ≤ (c.applyAdoption key labels spec).1.nextUid := by
    refine ⟨spareUsers_applyAdoption key labels spec fresh none_,?_⟩
    unfold Cluster.applyAdoption
    split
    · exact Nat.le_succ _
    · exact le_refl _
  have effect : SpareUsers mine c (c.effect q).1 ∧ c.nextUid ≤ (c.effect q).1.nextUid := by
    cases call with
    | deployment | adoption => exact ⟨fun _ _ _ => Iff.rfl,le_refl _⟩
    | create dep source err absent => exact applies _ _ (fun st held => free key st rfl held)
    | apply dep source existing read => exact applies _ _ (fun st held => free key st rfl held)
    | delete existing read =>
      exact ⟨spareUsers_deleteAdoption key (fun st held => free key st rfl held),
        around_nextUid (Or.inl (.delete key) : Around mine c _)⟩
  rcases apiserver.serve_state fault c q with same | ⟨same,-⟩
  · rw [same]
    exact ⟨fun _ _ _ => Iff.rfl,le_refl _⟩
  · rw [same]
    exact effect

/-- What holds as long as no object of a user has come under the watcher's label or hands. -/
structure Undisturbed (mine : Nat → Prop) (scene : WatchScene) : Prop where
  unclaimed : Unclaimed mine scene.state
  fresh : ∀ n, scene.state.nextUid ≤ n → ¬ mine n
  turns : ∀ turn ∈ scene.history, Unclaimed mine turn.event.before ∧ ¬ Harms mine turn.event

/-- A write of the watcher finds no object of a user if what it read still stands. -/
theorem readStands_free (key : NamespacedName) (past : List WatchTurn) (turn : WatchTurn)
    (call : WatcherCall key (own turn.strand past) turn.event.request) (stands : ReadStands mine past turn)
    (unclaimed : ∀ earlier ∈ past, Unclaimed mine earlier.event.before) (at_ : NamespacedName) (now : KnativeAdoption)
    (writes : turn.event.request.writesAdoption = some at_) (held : turn.event.before.adoptions.get at_ = some now) :
    ¬ mine now.uid := by
  intro theirs
  obtain ⟨read,told,same⟩ := stands at_ now writes held theirs
  have unowned (existing : KnativeAdoption) (owned : ReadOwned key (own turn.strand past) existing) : False := by
    obtain ⟨e,member,stored⟩ := owned.stored
    obtain ⟨earlier,there,-,rfl⟩ := own_member _ _ _ member
    have equal : existing = read := by
      have answers := owned.told.symm.trans told
      cases answers
      rfl
    subst equal
    have free := unclaimed earlier there key existing stored (same ▸ theirs)
    rw [owned.owned] at free
    cases free
  generalize turn.event.request = q at call writes
  cases call with
  | deployment | adoption => cases writes
  | create dep source err absent =>
    rw [absent] at told
    cases told
  | apply dep source existing owned => exact unowned existing owned
  | delete existing owned => exact unowned existing owned

theorem undisturbed (first : Cluster) (fresh : ∀ n, first.nextUid ≤ n → ¬ mine n) (start : Unclaimed mine first)
    (scene : WatchScene)
    (run : Interleaved apiserver watchPass (fun c d => Around mine c d ∧ Unclaimed mine d) (fun _ _ => True) first scene)
    (stands : Library.Recorded (ReadStands mine) scene.history) : Undisturbed mine scene := by
  induction run with
  | start => exact ⟨start,fresh,fun _ member => absurd member List.not_mem_nil⟩
  | drift scene t before moved ih =>
    have held := ih stands
    exact ⟨moved.2,fun n later => held.fresh n (le_trans (around_nextUid moved.1) later),held.turns⟩
  | spawn scene who before allowed ih => exact ⟨(ih stands).unclaimed,(ih stands).fresh,(ih stands).turns⟩
  | turn scene i fault before ih =>
    have calls := interleaved_recorded (fun key past e => WatcherCall key past e.request) watchPass_calls _
      (.turn scene i fault before)
    rcases scene.turn_cases apiserver i fault with same | ⟨key,q,next,log,there,same⟩
    · rw [same] at stands ⊢
      exact ih stands
    · rw [same] at stands calls ⊢
      have held := ih (recorded_left _ scene.history _ stands)
      have call := calls scene.history _ [] rfl
      have free := readStands_free key scene.history _ call (stands scene.history _ [] rfl)
        (fun earlier member => (held.turns earlier member).1)
      obtain ⟨spared,grown⟩ := spareUsers_call key _ q call scene.state fault (held.fresh _ (le_refl _)) free
      refine ⟨spared.unclaimed held.unclaimed,fun n later => held.fresh n (le_trans grown later),fun turn member => ?_⟩
      rcases List.mem_append.mp member with earlier | now
      · exact held.turns turn earlier
      · rw [List.mem_singleton.mp now]
        refine ⟨held.unclaimed,?_⟩
        rintro ⟨at_,st,stored,theirs,changed⟩
        exact changed ((spared at_ st theirs).mpr stored)

end Watching

/-- The watcher touches no object of a user in a run in which no such object carries the watcher's
label and none takes the place of the object a pass read before the pass writes. -/
theorem users_adoptions_spared (mine : Nat → Prop) (first : Cluster) (fresh : ∀ n, first.nextUid ≤ n → ¬ mine n)
    (start : Unclaimed mine first) (scene : WatchScene)
    (run : Interleaved apiserver watchPass (fun c d => Around mine c d ∧ Unclaimed mine d) (fun _ _ => True) first scene)
    (stands : Library.Recorded (ReadStands mine) scene.history) : ∀ turn ∈ scene.history, ¬ Harms mine turn.event :=
  fun turn member => ((undisturbed first fresh start scene run stands).turns turn member).2

namespace Sample

/-- The users' objects have the identity zero here. -/
abbrev theirs (uid : Nat) : Prop := uid = 0

def userAdoption : KnativeAdoption where
  ns := "prod"
  name := "web"
  uid := 0
  spec := { sourceRef := { name := "web" }, autoscaling := { minScale := some 2 } }

/-- Two labelled Deployments; a user wrote an adoption for one of them. -/
def mixed : Cluster where
  adoptions := .ofList [userAdoption]
  deployments := .ofList [deployment,{ deployment with name := "api" }]

def watchBoth : WatchScene :=
  (((⟨[],[],mixed⟩ : WatchScene).spawn watchPass ⟨"prod","web"⟩).spawn watchPass ⟨"prod","api"⟩).turns apiserver 0 [.none,.none]
    |>.turns apiserver 1 [.none,.none,.none]

def unadopted : Cluster := { cluster with adoptions := .empty }

/-- The pass has read that there is no adoption. -/
def absentRead : WatchScene := ((⟨[],[],unadopted⟩ : WatchScene).spawn watchPass adoption.key).turns apiserver 0 [.none,.none]

def userCreated (c : Cluster) (a : KnativeAdoption) : Cluster := { c with adoptions := c.adoptions.put (Webhook.default a) }

/-- A user creates an adoption before the pass applies its own. -/
def overwritten : WatchScene := ({ absentRead with state := userCreated unadopted userAdoption } : WatchScene).turns apiserver 0 [.none]

def unlabelled : Cluster := { unadopted with deployments := .ofList [{ deployment with labels := [] }] }

def labelledAdoption : KnativeAdoption := { userAdoption with labels := [(labelManagedByWatcher,"true")] }

/-- A user creates an adoption with the watcher's label for a Deployment without one. -/
def removed : WatchScene :=
  ((⟨[],[],userCreated unlabelled labelledAdoption⟩ : WatchScene).spawn watchPass adoption.key).turns apiserver 0
    [.none,.none,.none]

end Sample

theorem users_adoptions_spared_sample :
    Sample.watchBoth.history.any (fun turn => turn.event.request.writesAdoption = some ⟨"prod","api"⟩) = true ∧
      ∀ turn ∈ Sample.watchBoth.history, ¬ Harms Sample.theirs turn.event := by
  have elsewhere : Sample.watchBoth.history.all (fun turn => turn.event.request.writesAdoption.all (fun key =>
      (turn.event.before.adoptions.get key).all (fun now => now.uid ≠ 0))) = true := by decide +kernel
  refine ⟨by decide +kernel,users_adoptions_spared Sample.theirs Sample.mixed (fun n later same => ?_) (fun key st held _ => ?_)
    Sample.watchBoth (interleaved_turns _ _ _ (interleaved_turns _ _ _ (.spawn _ _ (.spawn _ _ .start trivial) trivial)))
    (fun past turn later split key now writes held zero => ?_)⟩
  · subst same
    exact absurd later (by decide)
  · change (if key = Sample.userAdoption.key then some Sample.userAdoption else none) = some st at held
    split at held
    · cases held
      rfl
    · cases held
  · have checked := List.all_eq_true.mp elsewhere turn (by rw [split]; simp)
    rw [writes,Option.all_some,held,Option.all_some] at checked
    exact absurd zero (of_decide_eq_true checked)

/-- A user's adoption loses its labels, or is gone, by this call. -/
def Sample.relabels (e : Event Request Response String Cluster) : Bool :=
  (e.before.adoptions.get adoption.key).any (fun st => decide (st.uid = 0) &&
    !((apiserver.serve e.fault e.before e.request).1.adoptions.get adoption.key).any (fun now => now.labels = st.labels))

theorem harms_relabels (e : Event Request Response String Cluster) (relabels : Sample.relabels e = true) :
    Harms Sample.theirs e := by
  obtain ⟨st,held,changed⟩ := (Option.any_eq_true _ _).mp relabels
  rw [Bool.and_eq_true,decide_eq_true_eq,Bool.not_eq_true'] at changed
  refine ⟨Sample.adoption.key,st,held,changed.1,fun same => ?_⟩
  rw [same] at changed
  simp at changed

/-- The watcher takes over an adoption that a user creates between its read and its apply, and
deletes one that a user created with the watcher's label. -/
theorem users_adoption_taken :
    (Interleaved apiserver watchPass (Around Sample.theirs) (fun _ _ => True) Sample.unadopted Sample.overwritten ∧
      ∃ turn ∈ Sample.overwritten.history, Harms Sample.theirs turn.event) ∧
    Interleaved apiserver watchPass (Around Sample.theirs) (fun _ _ => True) Sample.unlabelled Sample.removed ∧
      ∃ turn ∈ Sample.removed.history, Harms Sample.theirs turn.event := by
  have creates (c : Cluster) (a : KnativeAdoption) (absent : c.adoptions.get a.key = none) (live : a.deleting = false)
      (zero : a.uid = 0) (admitted : Admitted c (Webhook.default a)) : Around Sample.theirs c (Sample.userCreated c a) :=
    Or.inl (.create a absent live zero admitted)
  have harmed (history : List WatchTurn) (found : history.any (fun turn => Sample.relabels turn.event) = true) :
      ∃ turn ∈ history, Harms Sample.theirs turn.event := by
    obtain ⟨turn,member,relabels⟩ := List.any_eq_true.mp found
    exact ⟨turn,member,harms_relabels turn.event relabels⟩
  refine ⟨⟨interleaved_turns _ _ _ (.drift Sample.absentRead _ (interleaved_turns _ _ _ (.spawn _ _ .start trivial)) ?_),
    harmed _ (by decide +kernel)⟩,interleaved_turns _ _ _ (.spawn _ _ (.drift _ _ .start ?_) trivial),harmed _ (by decide +kernel)⟩
  · exact creates Sample.unadopted Sample.userAdoption rfl rfl rfl
      ⟨_,run_exec apiserver Eq (fun _ => rfl) (Webhook.validateCreate (Webhook.default Sample.userAdoption)) [.none,.none]
        Sample.unadopted⟩
  · exact creates Sample.unlabelled Sample.labelledAdoption rfl rfl rfl
      ⟨_,run_exec apiserver Eq (fun _ => rfl) (Webhook.validateCreate (Webhook.default Sample.labelledAdoption)) [.none,.none]
        Sample.unlabelled⟩

end Ifaas
