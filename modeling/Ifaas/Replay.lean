import Ifaas.Snapshot

/-! Replaying the traffic snapshots. Restoring one object settles its spec onto the
snapshotted one, or creates the object; an interrupted list of such writes may be
started again from the beginning. -/
namespace Ifaas
open Library

/-- The spec a snapshot entry is written back as. -/
def snapshotTarget (spec : RawExtension) : RawExtension :=
  (decodeTrafficSpecSnapshot spec).map (fun o => o.map GoNumber.encode)

theorem get_withSpec {ν : Type} (body : Obj ν) (spec : Option (Obj ν)) (key : String) :
    (withSpec body spec).get key = if key = "spec" then spec.map Obj.json else body.get key := by
  cases spec with
  | none => simp [withSpec]
  | some o => simp [withSpec]

theorem withSpec_map {ν μ : Type} (f : ν → μ) (body : Obj ν) (spec : Option (Obj ν)) :
    (withSpec body spec).map f = withSpec (body.map f) (spec.map (fun o => o.map f)) := by
  ext1 key
  rw [Obj.get_map,get_withSpec,get_withSpec,Obj.get_map]
  split
  · cases spec <;> rfl
  · rfl

/-- The body of an object after its spec was settled onto a target. -/
def respec (body : Obj Literal) (target : RawExtension) : Obj Literal := settle body (withSpec body target)

theorem get_respec (body : Obj Literal) (target : RawExtension) (key : String) :
    (respec body target).get key =
      if key = "spec" then settleAt (body.get "spec") (target.map Obj.json) else body.get key := by
  rw [respec,get_settle,get_withSpec]
  split
  next here => rw [here]
  next other => exact settleAt_self _

theorem shaped_withSpec (body : Obj Literal) (target : RawExtension) : specShaped (withSpec body target) = true := by
  unfold specShaped
  rw [get_withSpec]
  cases target <;> simp

theorem shaped_respec (body : Obj Literal) (target : RawExtension) : specShaped (respec body target) = true := by
  unfold specShaped
  rw [get_respec]
  cases target with
  | none => simp [settleAt_none]
  | some o => simp [settleAt_json]

/-- One entry of the traffic snapshots, with the object it belongs to. -/
structure TrafficEntry where
  key : TrafficKey
  target : RawExtension

def restoredObject (e : TrafficEntry) : Option TrafficObject → TrafficObject
  | none => ⟨e.key,withSpec Obj.empty e.target,shaped_withSpec _ _⟩
  | some o => ⟨e.key,respec o.body e.target,shaped_respec _ _⟩

abbrev TrafficStore := Store TrafficKey TrafficObject (fun o => o.key)

def replayTraffic (s : TrafficStore) (entries : List TrafficEntry) : TrafficStore :=
  s.replay (fun e => e.key) restoredObject entries

theorem restoredObject_key (e : TrafficEntry) (o : Option TrafficObject) : (restoredObject e o).key = e.key := by
  cases o <;> rfl

/-- Rewriting an existing object: its spec settles onto all targets in turn. -/
theorem replayAt_some (o : TrafficObject) (entries : List TrafficEntry) :
    ∃ after, Store.replayAt restoredObject (some o) entries = some after ∧
      (∀ key, after.body.get key = if key = "spec"
        then settleAllAt (o.body.get "spec") (entries.map (fun e => e.target.map Obj.json)) else o.body.get key) ∧
      after.key = (entries.getLast?.map (fun e => e.key)).getD o.key := by
  induction entries generalizing o with
  | nil => exact ⟨o,rfl,fun key => by split <;> simp_all [settleAllAt],rfl⟩
  | cons e rest ih =>
    obtain ⟨after,final,body,key⟩ := ih (restoredObject e (some o))
    refine ⟨after,final,fun key => ?_,?_⟩
    · have step (k : String) : (restoredObject e (some o)).body.get k = _ := get_respec o.body e.target k
      rw [body key,step,step]
      split <;> simp_all [settleAllAt]
    · rw [key,restoredObject_key]
      cases rest with
      | nil => rfl
      | cons next more => simp [List.getLast?_cons]

/-- A created object is what its own entry makes of it. -/
theorem restoredObject_created (e : TrafficEntry) :
    restoredObject e (some (restoredObject e none)) = restoredObject e none := by
  have same : respec (withSpec Obj.empty e.target) e.target = withSpec Obj.empty e.target := by
    ext1 key
    by_cases here : key = "spec" <;> simp [get_respec,get_withSpec,here,settleAt_self]
  simp only [restoredObject,same]

theorem replayAt_absorb_some (entries : List TrafficEntry) (o : TrafficObject) (done : Nat) :
    Store.replayAt restoredObject (Store.replayAt restoredObject (some o) (entries.take done)) entries =
      Store.replayAt restoredObject (some o) entries := by
  obtain ⟨mid,first,midBody,midKey⟩ := replayAt_some o (entries.take done)
  obtain ⟨after,second,afterBody,afterKey⟩ := replayAt_some mid entries
  obtain ⟨direct,whole,directBody,directKey⟩ := replayAt_some o entries
  rw [first,second,whole]
  have body : after.body = direct.body := by
    ext1 key
    rw [afterBody,directBody,midBody,midBody,List.map_take]
    by_cases here : key = "spec" <;> simp [here,settleAllAt_absorb]
  have key : after.key = direct.key := by
    rw [afterKey,directKey]
    cases entries with
    | nil => simpa using midKey
    | cons e rest => simp [List.getLast?_cons]
  obtain ⟨k,b,_⟩ := after
  obtain ⟨k',b',_⟩ := direct
  cases body
  cases key
  rfl

theorem replayAt_absorb (entries : List TrafficEntry) (o : Option TrafficObject) (done : Nat) :
    Store.replayAt restoredObject (Store.replayAt restoredObject o (entries.take done)) entries =
      Store.replayAt restoredObject o entries := by
  cases o with
  | some o => exact replayAt_absorb_some entries o done
  | none =>
    cases entries with
    | nil => simp [Store.replayAt]
    | cons e rest =>
      cases done with
      | zero => rfl
      | succ n =>
        have started (more : List TrafficEntry) : Store.replayAt restoredObject none (e::more) =
            Store.replayAt restoredObject (some (restoredObject e none)) (e::more) := by
          simp only [Store.replayAt,List.foldl_cons,restoredObject_created]
        rw [List.take_succ_cons,started,started rest]
        exact replayAt_absorb_some (e::rest) _ (n+1)

theorem replayTraffic_absorb (s : TrafficStore) (entries : List TrafficEntry) (done : Nat) :
    replayTraffic (replayTraffic s (entries.take done)) entries = replayTraffic s entries :=
  Store.replay_absorb restoredObject_key replayAt_absorb s entries done

theorem replayTraffic_begun (s : TrafficStore) (first rest : List TrafficEntry) :
    replayTraffic (replayTraffic s first) (first++rest) = replayTraffic s (first++rest) := by
  simpa using replayTraffic_absorb s (first++rest) first.length

theorem replayTraffic_again (s : TrafficStore) (entries : List TrafficEntry) :
    replayTraffic (replayTraffic s entries) entries = replayTraffic s entries := by
  simpa using replayTraffic_begun s entries []

theorem replayTraffic_step (s : TrafficStore) (done : List TrafficEntry) (e : TrafficEntry) :
    replayTraffic s (done++[e]) =
      (replayTraffic s done).put (restoredObject e ((replayTraffic s done).get e.key)) :=
  Store.replay_append _ _ s done [e]

/-! The calls that restore one object write what its entry says. -/

section Calls
variable (c : Cluster) (key : TrafficKey) (spec : RawExtension)

theorem createTraffic_restores (absent : c.traffic.get key = none) :
    c.createTraffic key ((withSpec Obj.empty (decodeTrafficSpecSnapshot spec)).map GoNumber.encode) =
      ({ c with traffic := c.traffic.put (restoredObject ⟨key,snapshotTarget spec⟩ none) },.ok ()) := by
  have empty : (Obj.empty : Obj GoNumber).map GoNumber.encode = Obj.empty := by
    ext1 k
    simp
  have body : (withSpec Obj.empty (decodeTrafficSpecSnapshot spec)).map GoNumber.encode =
      withSpec Obj.empty (snapshotTarget spec) := by
    rw [withSpec_map,empty]
    rfl
  rw [body]
  simp [Cluster.createTraffic,absent,shaped_withSpec,restoredObject]

theorem patchTraffic_restores (o : TrafficObject) (held : c.traffic.get key = some o) :
    c.patchTraffic key (mergePatchFrom (o.body.map Literal.read)
        (withSpec (o.body.map Literal.read) (decodeTrafficSpecSnapshot spec))) =
      ({ c with traffic := c.traffic.put (restoredObject ⟨key,snapshotTarget spec⟩ (some o)) },.ok ()) := by
  have body : o.body.mergePatch (mergePatchFrom (o.body.map Literal.read)
      (withSpec (o.body.map Literal.read) (decodeTrafficSpecSnapshot spec))) =
      respec o.body (snapshotTarget spec) := by
    rw [mergePatchFrom,withSpec_map,Obj.encode_read]
    rfl
  simp [Cluster.patchTraffic,held,body,shaped_respec,restoredObject]

theorem restoredObject_equal (o : TrafficObject) (filed : o.key = key)
    (same : (o.body.map Literal.read).get "spec" = (decodeTrafficSpecSnapshot spec).map Obj.json) :
    restoredObject ⟨key,snapshotTarget spec⟩ (some o) = o := by
  have stored : o.body.get "spec" = (snapshotTarget spec).map Obj.json := by
    have encoded := congrArg (Option.map (fun j => Json.map GoNumber.encode j)) same
    rw [← Obj.get_map,Obj.encode_read] at encoded
    rw [encoded,snapshotTarget]
    cases decodeTrafficSpecSnapshot spec <;> rfl
  have body : respec o.body (snapshotTarget spec) = o.body := by
    ext1 k
    rw [get_respec]
    split
    next here => rw [here,← stored,settleAt_self]
    next other => rfl
  obtain ⟨k,b,shaped⟩ := o
  cases filed
  simp only [restoredObject,body]

end Calls
end Ifaas
