import Ifaas.Replay

/-! The codec of the traffic snapshots. A specification goes out with the numbers of an
unstructured object and comes back with those of the standard library: every integer
has become a float, so the copy is never equal to an original with integers in it. -/
namespace Ifaas
open Library

/-- The snapshot that is taken of an object with this specification. -/
def Snapshots (spec : Obj GoNumber) (raw : RawExtension) : Prop :=
  ∃ body : Obj GoNumber, body.get "spec" = some spec.json ∧ rawSpecSnapshot body = .ok raw

/-- The specification survives its snapshot: it is decoded as it was, restoring it over
itself writes nothing, and restoring it over anything brings it back. -/
structure Faithful (spec : Obj GoNumber) : Prop where
  decoded : ∀ raw, Snapshots spec raw → decodeTrafficSpecSnapshot raw = some spec
  silent : ∀ raw, Snapshots spec raw → ∀ kind ns name c o, c.traffic.get ⟨kind,⟨ns,name⟩⟩ = some o →
    (o.body.map Literal.read).get "spec" = some spec.json → ∀ log out d,
    Run apiserver Eq (restoreTrafficObjectSnapshot ns kind ⟨name,raw⟩) c log out d → ∀ e ∈ log, e.request.isRead = true
  restored : ∀ raw, Snapshots spec raw → ∀ kind ns name, name ≠ "" → ∀ c,
    (apiserver.succeed (restoreTrafficObjectSnapshot ns kind ⟨name,raw⟩) c).1 = none ∧
    ((apiserver.succeed (restoreTrafficObjectSnapshot ns kind ⟨name,raw⟩) c).2.traffic.get ⟨kind,⟨ns,name⟩⟩).bind
      (fun o => (o.body.map Literal.read).get "spec") = some spec.json

section Codec
variable (spec : Obj GoNumber)

theorem snapshots_iff (raw : RawExtension) : Snapshots spec raw ↔ raw = some (spec.map GoNumber.encode) := by
  have taken (body : Obj GoNumber) (held : body.get "spec" = some spec.json) :
      rawSpecSnapshot body = .ok (some (spec.map GoNumber.encode)) := by
    simp only [rawSpecSnapshot,held,Obj.asObj_json]
  constructor
  · rintro ⟨body,held,read⟩
    rw [taken body held] at read
    injection read with same
    exact same.symm
  · rintro rfl
    have held : (Obj.empty.set "spec" spec.json).get "spec" = some spec.json := by simp
    exact ⟨_,held,taken _ held⟩

theorem decoded_iff (held : spec.json.EachNum GoNumber.Held) :
    decodeTrafficSpecSnapshot (some (spec.map GoNumber.encode)) = some spec ↔
      spec.json.EachNum (fun x => x.isInt64 = false) := by
  have both : decodeTrafficSpecSnapshot (some (spec.map GoNumber.encode)) = some spec ↔
      spec.json.map (fun x => x.encode.decode) = spec.json := by
    rw [decodeTrafficSpecSnapshot,Option.map_some,Option.some.injEq,← Obj.json_inj]
    simp only [Obj.json_map,Json.map_map]
  rw [both]
  constructor
  · intro fixed
    exact Json.eachNum_within _ _ _ (fun x held => (held.decode_iff x).mp) _ held (Json.eachNum_of_map_eq _ _ fixed)
  · intro floats
    exact Json.map_eq_self _ _ (Json.eachNum_within _ _ _ (fun x held => (held.decode_iff x).mpr) _ held floats)

/-- A specification of floats is written back as it was encoded. -/
theorem snapshotTarget_floats (held : spec.json.EachNum GoNumber.Held)
    (floats : spec.json.EachNum (fun x => x.isInt64 = false)) :
    snapshotTarget (some (spec.map GoNumber.encode)) = some (spec.map GoNumber.encode) := by
  rw [snapshotTarget,(decoded_iff spec held).mpr floats]
  rfl

theorem read_encoded (held : spec.json.EachNum GoNumber.Held) : (spec.map GoNumber.encode).json.map Literal.read = spec.json := by
  rw [← Obj.json_map,Obj.read_encode]
  exact Json.eachNum_mono _ _ (fun x => GoNumber.Held.read x) _ held

end Codec

section Restoring
variable (kind : TrafficKind) (ns name : String) (raw : RawExtension) (c : Cluster)

/-- Restoring with every call answered leaves the object its entry says. -/
theorem succeed_restore (named : name ≠ "") :
    (apiserver.succeed (restoreTrafficObjectSnapshot ns kind ⟨name,raw⟩) c).1 = none ∧
    (apiserver.succeed (restoreTrafficObjectSnapshot ns kind ⟨name,raw⟩) c).2.traffic.get ⟨kind,⟨ns,name⟩⟩ =
      some (restoredObject ⟨⟨kind,⟨ns,name⟩⟩,snapshotTarget raw⟩ (c.traffic.get ⟨kind,⟨ns,name⟩⟩)) := by
  unfold restoreTrafficObjectSnapshot
  rw [if_neg named]
  generalize keyed : (⟨kind,⟨ns,name⟩⟩ : TrafficKey) = key
  have put (o : Option TrafficObject) :
      (c.traffic.put (restoredObject ⟨key,snapshotTarget raw⟩ o)).get key = some (restoredObject ⟨key,snapshotTarget raw⟩ o) := by
    have filed := restoredObject_key ⟨key,snapshotTarget raw⟩ o
    rw [Store.get_put,if_pos filed.symm]
  cases held : c.traffic.get key with
  | none =>
    have missing : apiserver.effect c (.getTraffic key) = (c,.error (notFound (Cluster.trafficResource key.kind) key.key.name)) := by
      change (c,found c.traffic key _) = _
      rw [found,held]
    have gone : (notFound (Cluster.trafficResource key.kind) key.key.name).isNotFound = true := rfl
    rw [succeed_ask,missing]
    dsimp only
    rw [gone,if_pos rfl,succeed_ask,
      show apiserver.effect c (.createTraffic key _) = _ from createTraffic_restores c key raw held]
    exact ⟨rfl,put none⟩
  | some o =>
    have found_ : apiserver.effect c (.getTraffic key) = (c,.ok o) := by
      change (c,found c.traffic key _) = _
      rw [found,held]
    rw [succeed_ask,found_]
    dsimp only
    split
    next same =>
      refine ⟨rfl,?_⟩
      rw [restoredObject_equal key raw o (c.traffic.keyed _ _ held) same]
      exact held
    next =>
      rw [succeed_ask,show apiserver.effect c (.patchTraffic key _) = _ from patchTraffic_restores c key raw o held]
      exact ⟨rfl,put (some o)⟩

/-- Over an object that has the decoded specification nothing is written. -/
theorem ensures_silent (o : TrafficObject) (spec : Obj GoNumber) (stored : c.traffic.get ⟨kind,⟨ns,name⟩⟩ = some o)
    (same : (o.body.map Literal.read).get "spec" = some spec.json) (decoded : decodeTrafficSpecSnapshot raw = some spec) :
    Ensures apiserver Eq (fun _ log => ∀ e ∈ log, e.request.isRead = true)
      (restoreTrafficObjectSnapshot ns kind ⟨name,raw⟩) (fun _ _ _ => True) c [] := by
  have start : ∀ e ∈ ([] : CallLog), e.request.isRead = true := fun e member => absurd member List.not_mem_nil
  unfold restoreTrafficObjectSnapshot
  split
  next => exact ensures_pure start trivial
  next =>
    refine ensures_ask start (fun m fault unmoved => ?_)
    subst unmoved
    have asked : ∀ e ∈ []++[apiserver.event fault c (.getTraffic ⟨kind,⟨ns,name⟩⟩)], e.request.isRead = true := by
      intro e member
      rw [List.mem_singleton.mp member]
      rfl
    cases answer : (apiserver.serve fault c (.getTraffic ⟨kind,⟨ns,name⟩⟩)).2 with
    | error err =>
      dsimp only
      split
      next gone =>
        rw [getTraffic_missing answer gone] at stored
        cases stored
      next => exact ensures_pure asked trivial
    | ok obj =>
      cases (getTraffic_ok answer).symm.trans stored
      dsimp only
      rw [if_pos (by rw [same,decoded]; rfl)]
      exact ensures_pure asked trivial

/-- What is read back of a restored object that settles on its target. -/
theorem restoredObject_read (key : TrafficKey) (target : Obj Literal) (o : Option TrafficObject)
    (clean : target.json.NoNullMember) :
    ((restoredObject ⟨key,some target⟩ o).body.map Literal.read).get "spec" = some (target.json.map Literal.read) := by
  rw [Obj.get_map]
  cases o with
  | none =>
    rw [restoredObject,get_withSpec,if_pos rfl]
    rfl
  | some live =>
    rw [restoredObject,get_respec,if_pos rfl,Option.map_some,settleAt_member _ target.json (Json.ne_null _ rfl) clean]
    rfl

end Restoring

/-- An object that has lost its specification gets it back without the null members. -/
theorem noNullMember_of_restored (key : TrafficKey) (spec : Obj GoNumber) (bare : specShaped (Obj.empty : Obj Literal) = true)
    (back : ((restoredObject ⟨key,some (spec.map GoNumber.encode)⟩ (some ⟨key,Obj.empty,bare⟩)).body.map Literal.read).get
      "spec" = some spec.json) : spec.json.NoNullMember := by
  rw [Obj.get_map,restoredObject,get_respec,if_pos rfl,Option.map_some,Obj.get_empty,settleAt_json,Option.map_some] at back
  have read : ((settle (members none) (spec.map GoNumber.encode)).map Literal.read).json = spec.json := Option.some.inj back
  have whole : settle (members none) (spec.map GoNumber.encode) = spec.map GoNumber.encode := by
    rw [Obj.json_inj] at read
    rw [← Obj.encode_read (settle (members none) (spec.map GoNumber.encode)),read]
  have reached := settleAt_json none (spec.map GoNumber.encode)
  rw [whole] at reached
  exact Json.NoNullMember.of_map GoNumber.encode _ (noNullMember_of_settleAt _ reached)

theorem codec_faithful_iff (spec : Obj GoNumber) (held : spec.json.EachNum GoNumber.Held) :
    Faithful spec ↔ spec.json.EachNum (fun x => x.isInt64 = false) ∧ spec.json.NoNullMember := by
  have own : Snapshots spec (some (spec.map GoNumber.encode)) := (snapshots_iff spec _).mpr rfl
  constructor
  · intro faithful
    have floats := (decoded_iff spec held).mp (faithful.decoded _ own)
    have bare : specShaped (Obj.empty : Obj Literal) = true := rfl
    have back := (faithful.restored _ own .virtualService "prod" "web" (by decide)
      { traffic := .ofList [⟨⟨.virtualService,⟨"prod","web"⟩⟩,Obj.empty,bare⟩] }).2
    rw [(succeed_restore .virtualService "prod" "web" _ _ (by decide)).2,snapshotTarget_floats spec held floats] at back
    exact ⟨floats,noNullMember_of_restored _ spec bare back⟩
  · rintro ⟨floats,clean⟩
    have decoded := (decoded_iff spec held).mpr floats
    refine ⟨fun raw taken => ?_,fun raw taken kind ns name c o stored same => ?_,fun raw taken kind ns name named c => ?_⟩
    · rw [(snapshots_iff spec raw).mp taken]
      exact decoded
    · rw [(snapshots_iff spec raw).mp taken]
      intro log out d run
      exact (ensures_silent kind ns name _ c o spec stored same decoded log out d run).1
    · rw [(snapshots_iff spec raw).mp taken]
      obtain ⟨fine,left⟩ := succeed_restore kind ns name (some (spec.map GoNumber.encode)) c named
      refine ⟨fine,?_⟩
      rw [left,Option.bind_some,snapshotTarget_floats spec held floats,
        restoredObject_read _ (spec.map GoNumber.encode) _ (Json.NoNullMember.map GoNumber.encode spec.json clean),
        read_encoded spec held]

namespace Sample

def fraction : Obj GoNumber := Obj.ofList [("host",.str "web"),("percentage",.num (.float64 (.frac 125 1)))]

/-- A specification with an integer of 54 bits. -/
def wide : Obj GoNumber := Obj.ofList [("number",.num (.int64 9007199254740993))]

def wideObject : TrafficObject where
  key := ⟨.virtualService,⟨"prod","routes"⟩⟩
  body := Obj.ofList [("spec",(wide.map GoNumber.encode).json)]
  shaped := by decide +kernel

def wideRestore : Op (Option ApiError) :=
  restoreTrafficObjectSnapshot "prod" .virtualService ⟨"routes",some (wide.map GoNumber.encode)⟩

end Sample

theorem codec_faithful_sample : Sample.fraction.json.EachNum GoNumber.Held ∧ Faithful Sample.fraction := by
  have held : Sample.fraction.json.EachNum GoNumber.Held := by decide +kernel
  have floats : Sample.fraction.json.EachNum (fun x => x.isInt64 = false) := by decide +kernel
  have clean : Sample.fraction.json.NoNull := by decide +kernel
  exact ⟨held,(codec_faithful_iff Sample.fraction held).mpr ⟨floats,clean.member⟩⟩

/-- The decoded copy is another value, restoring it over the original writes, and what is
written back over an emptied object is not the number that was there. -/
theorem codec_rounds :
    Sample.wide.json.EachNum GoNumber.Held ∧
    decodeTrafficSpecSnapshot (some (Sample.wide.map GoNumber.encode)) ≠ some Sample.wide ∧
    (apiserver.exec Sample.wideRestore [.none,.none] { traffic := .ofList [Sample.wideObject] }).1.any
      (fun e => !e.request.isRead) = true ∧
    (((apiserver.succeed Sample.wideRestore {}).2.traffic.get Sample.wideObject.key).bind
      (fun o => (o.body.map Literal.read).get "spec")) =
        some (Obj.ofList [("number",.num (.int64 9007199254740992))]).json ∧
    ¬ Faithful Sample.wide := by
  have held : Sample.wide.json.EachNum GoNumber.Held := by decide +kernel
  have differs : decodeTrafficSpecSnapshot (some (Sample.wide.map GoNumber.encode)) ≠ some Sample.wide := by decide +kernel
  exact ⟨held,differs,by decide +kernel,by decide +kernel,
    fun faithful => differs (faithful.decoded _ ((snapshots_iff Sample.wide _).mpr rfl))⟩

end Ifaas
