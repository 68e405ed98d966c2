import Ifaas.Translator

/-! References inside a translated pod. The translator filters the volumes of the template
and renames its first port, and copies the mounts and the probes that refer to them. What
those references still name is decided by the container that is translated. -/
namespace Ifaas
open Library

/-- Every mount of every container names a volume of the pod. -/
def PodSpec.MountsResolve (s : PodSpec) : Prop :=
  ∀ c ∈ s.containers, ∀ m ∈ c.volumeMounts, ∃ v ∈ s.volumes, v.name = m.name

instance (s : PodSpec) : Decidable s.MountsResolve :=
  inferInstanceAs (Decidable (∀ c ∈ s.containers, ∀ m ∈ c.volumeMounts, ∃ v ∈ s.volumes, v.name = m.name))

def IntOrString.portName : IntOrString → Option String
  | .int _ => none
  | .str value => some value

def Probe.portNames (p : Probe) : List String :=
  (p.httpGet.toList ++ p.tcpSocket.toList).filterMap IntOrString.portName

def Container.probes (c : Container) : List Probe :=
  c.livenessProbe.toList ++ c.readinessProbe.toList ++ c.startupProbe.toList

def Container.probePortNames (c : Container) : List String := c.probes.flatMap Probe.portNames

/-- Every port that a probe refers to by name is declared by its container. -/
def PodSpec.ProbesResolve (s : PodSpec) : Prop :=
  ∀ c ∈ s.containers, ∀ n ∈ c.probePortNames, ∃ p ∈ c.ports, p.name = n

instance (s : PodSpec) : Decidable s.ProbesResolve :=
  inferInstanceAs (Decidable (∀ c ∈ s.containers, ∀ n ∈ c.probePortNames, ∃ p ∈ c.ports, p.name = n))

/-- The container the adoption names, or the first one when it names none. -/
def primaryOf (dep : Deployment) (a : KnativeAdoption) : Option Container :=
  dep.spec.template.containers.find? (fun c => a.spec.primaryContainer = "" ∨ c.name = a.spec.primaryContainer)

/-- The kinds of volume that stock Knative accepts. -/
def Volume.accepted (v : Volume) : Bool :=
  v.configMap.isSome || v.secret.isSome || v.emptyDir.isSome || v.projected.isSome || v.downwardAPI.isSome

theorem primaryOf_picked (dep : Deployment) (a : KnativeAdoption) (c : Container)
    (picked : pickPrimaryContainer dep a = .ok c) : primaryOf dep a = some c := by
  unfold pickPrimaryContainer at picked
  unfold primaryOf
  cases containers : dep.spec.template.containers with
  | nil => simp [containers] at picked
  | cons first rest =>
    rw [containers] at picked
    dsimp only at picked
    by_cases named : a.spec.primaryContainer = ""
    · rw [if_neg (not_not_intro named)] at picked
      split at picked
      next => cases picked
      next =>
        cases picked
        exact List.find?_cons_of_pos (by simp [named])
    · rw [if_pos named] at picked
      have same : (fun c : Container => decide (a.spec.primaryContainer = "" ∨ c.name = a.spec.primaryContainer)) =
          fun c => decide (c.name = a.spec.primaryContainer) := by
        funext c
        simp [named]
      rw [same]
      split at picked
      next other found =>
        cases picked
        exact found
      next => cases picked

theorem translate_inv (dep : Deployment) (a : KnativeAdoption) (ksvc : KService)
    (accepted : translate dep a = .ok ksvc) :
    ∃ primary, primaryOf dep a = some primary ∧ primary.ports ≠ [] ∧
      ksvc.template.spec.volumes = sanitizeVolumes dep.spec.template.volumes ∧
      ksvc.template.spec.containers = [sanitizeContainer primary] := by
  obtain ⟨primary,port,picked,offered,rfl⟩ := translate_primary dep a ksvc accepted
  refine ⟨primary,primaryOf_picked dep a primary picked,?_,rfl,rfl⟩
  intro none
  simp [pickUserPort,none] at offered

theorem mem_sanitizeVolumes (src : List Volume) (v : Volume) :
    v ∈ sanitizeVolumes src ↔ v ∈ src ∧ v.accepted = true := by
  unfold sanitizeVolumes
  exact List.mem_filter

theorem sanitizePorts_name (ports : List ContainerPort) (declared : ports ≠ []) (n : String) :
    (∃ p ∈ sanitizePorts ports, p.name = n) ↔ n = "" := by
  cases ports with
  | nil => exact absurd rfl declared
  | cons first rest => simp [sanitizePorts,eq_comm]

theorem mounts_resolve_iff (dep : Deployment) (a : KnativeAdoption) (ksvc : KService)
    (accepted : translate dep a = .ok ksvc) :
    ksvc.template.spec.MountsResolve ↔ ∀ c ∈ primaryOf dep a, ∀ m ∈ c.volumeMounts,
      ∃ v ∈ dep.spec.template.volumes, v.name = m.name ∧ v.accepted = true := by
  obtain ⟨primary,chosen,_,volumes,containers⟩ := translate_inv dep a ksvc accepted
  unfold PodSpec.MountsResolve
  rw [containers,volumes,chosen]
  constructor
  · intro resolve c member m mounted
    cases member
    obtain ⟨v,kept,named⟩ := resolve (sanitizeContainer primary) (List.mem_singleton_self _) m mounted
    obtain ⟨declared,kind⟩ := (mem_sanitizeVolumes dep.spec.template.volumes v).mp kept
    exact ⟨v,declared,named,kind⟩
  · intro kinds c member m mounted
    cases List.mem_singleton.mp member
    obtain ⟨v,declared,named,kind⟩ := kinds primary rfl m mounted
    exact ⟨v,(mem_sanitizeVolumes dep.spec.template.volumes v).mpr ⟨declared,kind⟩,named⟩

namespace Sample

def podContainer (mount : String) (probed : IntOrString) : Container where
  name := "app"
  ports := [{ name := "http", containerPort := 8080 }]
  volumeMounts := [{ name := mount }]
  readinessProbe := some { httpGet := some probed }

/-- A Deployment of one container over a config map and a volume claim. -/
def podSource (c : Container) : Deployment where
  ns := "prod"
  name := "web"
  spec :=
    { replicas := some 1
      template :=
        { volumes :=
            [{ name := "config", configMap := some (.str "app-cfg") },
             { name := "data", rest := (Obj.ofList [("persistentVolumeClaim",.str "data-pvc")]).json }]
          containers := [c] } }

def podOwner : KnativeAdoption where
  ns := "prod"
  name := "web"
  spec := { sourceRef := { name := "web" } }

end Sample

theorem mounts_resolve_sample : ∃ ksvc,
    translate (Sample.podSource (Sample.podContainer "config" (.int 8080))) Sample.podOwner = .ok ksvc ∧
    ksvc.template.spec.MountsResolve := by
  have translated : translate (Sample.podSource (Sample.podContainer "config" (.int 8080))) Sample.podOwner =
    .ok (composeKService _ _ (Sample.podContainer "config" (.int 8080))) := rfl
  exact ⟨_,translated,(mounts_resolve_iff _ _ _ translated).mpr (by decide)⟩

/-- The claim is dropped from the volumes, its mount is copied. -/
theorem mount_dangles : (Sample.podSource (Sample.podContainer "data" (.int 8080))).spec.template.MountsResolve ∧
    ∃ ksvc, translate (Sample.podSource (Sample.podContainer "data" (.int 8080))) Sample.podOwner = .ok ksvc ∧
      ¬ ksvc.template.spec.MountsResolve :=
  ⟨by decide,_,rfl,by decide⟩

theorem probes_resolve_iff (dep : Deployment) (a : KnativeAdoption) (ksvc : KService)
    (accepted : translate dep a = .ok ksvc) :
    ksvc.template.spec.ProbesResolve ↔ ∀ c ∈ primaryOf dep a, ∀ n ∈ c.probePortNames, n = "" := by
  obtain ⟨primary,chosen,declared,_,containers⟩ := translate_inv dep a ksvc accepted
  unfold PodSpec.ProbesResolve
  rw [containers,chosen]
  constructor
  · intro resolve c member n named
    cases member
    apply (sanitizePorts_name primary.ports declared n).mp
    exact resolve (sanitizeContainer primary) (List.mem_singleton_self _) n named
  · intro unnamed c member n named
    cases List.mem_singleton.mp member
    apply (sanitizePorts_name primary.ports declared n).mpr
    exact unnamed primary rfl n named

theorem probes_resolve_sample : ∃ ksvc,
    translate (Sample.podSource (Sample.podContainer "config" (.int 8080))) Sample.podOwner = .ok ksvc ∧
    ksvc.template.spec.ProbesResolve := by
  have translated : translate (Sample.podSource (Sample.podContainer "config" (.int 8080))) Sample.podOwner =
    .ok (composeKService _ _ (Sample.podContainer "config" (.int 8080))) := rfl
  exact ⟨_,translated,(probes_resolve_iff _ _ _ translated).mpr (by decide)⟩

/-- The port keeps its number and loses the name that the probe refers to. -/
theorem probe_dangles : (Sample.podSource (Sample.podContainer "config" (.str "http"))).spec.template.ProbesResolve ∧
    ∃ ksvc, translate (Sample.podSource (Sample.podContainer "config" (.str "http"))) Sample.podOwner = .ok ksvc ∧
      ¬ ksvc.template.spec.ProbesResolve :=
  ⟨by decide,_,rfl,by decide⟩

end Ifaas
