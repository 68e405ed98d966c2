import Ifaas.DeploymentWatcher
import Ifaas.Translator
import Mathlib.Data.List.Forall2
import Mathlib.Data.Nat.Digits.Defs

/-! From the annotations of a Deployment to those of its Knative Service. What an annotation
says is a numeral; the projector reads it into the spec of the adoption, the translator
writes it in canonical form, and the numerals it cannot read are warned about one by one. -/
namespace Ifaas

/-! Numerals. -/

/-- The number a row of decimal digits stands for. -/
def digitsValue (digits : List Char) : Nat := Nat.ofDigits 10 (digits.reverse.map (fun c => c.toNat - '0'.toNat))

/-- The text is a base-10 numeral, with or without a sign, of a number that fits in 32 bits. -/
def Numeral (raw : String) (n : Int) : Prop :=
  ∃ sign digits, raw.toList = sign++digits ∧ digits ≠ [] ∧ digits.all Char.isDigit = true ∧
    (sign = [] ∧ n = digitsValue digits ∨ sign = ['+'] ∧ n = digitsValue digits ∨
      sign = ['-'] ∧ n = -(digitsValue digits : Int)) ∧ -(2 ^ 31) ≤ n ∧ n < 2 ^ 31

theorem foldl_digits (digits : List Char) :
    digits.foldl (fun n c => 10 * n + (c.toNat - '0'.toNat)) 0 = digitsValue digits := by
  unfold digitsValue
  induction digits using List.reverseRecOn with
  | nil => rfl
  | append_singleton digits c ih =>
    rw [List.foldl_append,List.reverse_append]
    simp only [List.foldl_cons,List.foldl_nil,List.reverse_singleton,List.singleton_append,List.map_cons,Nat.ofDigits_cons]
    rw [ih,Nat.add_comm]

theorem foldl_digits_le (n : Nat) (digits : List Char) :
    n ≤ digits.foldl (fun n c => 10 * n + (c.toNat - '0'.toNat)) n := by
  induction digits generalizing n with
  | nil => exact Nat.le_refl n
  | cons c rest ih => exact Nat.le_trans (by omega) (ih (10 * n + (c.toNat - '0'.toNat)))

/-- The numbers on the way are smaller than the last one, so only that has to fit. -/
theorem scanDigits_eq_value (n : Nat) (digits : List Char) (small : n < 2 ^ 32) (m : Int) :
    scanDigits n digits = .value m ↔ digits.all Char.isDigit = true ∧
      m = digits.foldl (fun n c => 10 * n + (c.toNat - '0'.toNat)) n ∧
      digits.foldl (fun n c => 10 * n + (c.toNat - '0'.toNat)) n < 2 ^ 32 := by
  induction digits generalizing n with
  | nil =>
    rw [scanDigits,ParsedInt.value.injEq]
    exact ⟨fun same => ⟨rfl,same.symm,small⟩,fun held => held.2.1.symm⟩
  | cons c rest ih =>
    have grows := foldl_digits_le (10 * n + (c.toNat - '0'.toNat)) rest
    rw [scanDigits,List.all_cons,List.foldl_cons]
    cases digit : c.isDigit with
    | false => simp
    | true =>
      rw [if_pos rfl,Bool.true_and]
      split
      next fits => exact ih _ fits
      next large => exact iff_of_false nofun (fun held => large (Nat.lt_of_le_of_lt grows held.2.2))

theorem parseDigits_eq_value (digits : List Char) (n : Int) :
    parseDigits digits = .value n ↔
      digits ≠ [] ∧ digits.all Char.isDigit = true ∧ n = digitsValue digits ∧ digitsValue digits < 2 ^ 32 := by
  unfold parseDigits
  split
  next none => exact iff_of_false nofun (fun held => held.1 none)
  next some_ =>
    rw [scanDigits_eq_value 0 digits (by decide) n,foldl_digits]
    exact (and_iff_right some_).symm

theorem inInt32_eq_value (n m : Int) : inInt32 n = .value m ↔ m = n ∧ -(2 ^ 31) ≤ n ∧ n < 2 ^ 31 := by
  unfold inInt32
  split
  next fits =>
    rw [ParsedInt.value.injEq]
    exact ⟨fun same => ⟨same.symm,fits⟩,fun held => held.1.symm⟩
  next other => exact iff_of_false nofun (fun held => other held.2)

/-- The sign and the digits behind it. -/
def signed (raw : String) : Bool × List Char :=
  match raw.toList with
  | '-'::rest => (true,rest)
  | '+'::rest => (false,rest)
  | chars => (false,chars)

theorem parseIntText_eq (raw : String) : parseIntText raw =
    match parseDigits (signed raw).2 with
    | .value n => inInt32 (if (signed raw).1 then -n else n)
    | failure => failure := rfl

theorem signed_minus (raw : String) (digits : List Char) (held : raw.toList = '-'::digits) : signed raw = (true,digits) := by
  unfold signed
  rw [held]
  rfl

theorem signed_plus (raw : String) (digits : List Char) (held : raw.toList = '+'::digits) : signed raw = (false,digits) := by
  unfold signed
  rw [held]
  rfl

theorem signed_none (raw : String) (plain : raw.toList.all Char.isDigit = true) : signed raw = (false,raw.toList) := by
  unfold signed
  split
  next digits held =>
    rw [held] at plain
    simp at plain
  next digits held =>
    rw [held] at plain
    simp at plain
  next => rfl

/-- The text is the sign `signed` found and the digits behind it. -/
theorem signed_cases (raw : String) : ∃ sign, raw.toList = sign++(signed raw).2 ∧
    ((sign = [] ∨ sign = ['+']) ∧ (signed raw).1 = false ∨ sign = ['-'] ∧ (signed raw).1 = true) := by
  unfold signed
  split
  next digits held => exact ⟨['-'],held,Or.inr ⟨rfl,rfl⟩⟩
  next digits held => exact ⟨['+'],held,Or.inl ⟨Or.inr rfl,rfl⟩⟩
  next => exact ⟨[],rfl,Or.inl ⟨Or.inl rfl,rfl⟩⟩

theorem parseIntText_eq_value (raw : String) (n : Int) : parseIntText raw = .value n ↔ Numeral raw n := by
  constructor
  · intro parsed
    rw [parseIntText_eq] at parsed
    cases read : parseDigits (signed raw).2 with
    | value value =>
      rw [read] at parsed
      obtain ⟨some_,plain,rfl,-⟩ := (parseDigits_eq_value _ _).mp read
      obtain ⟨rfl,fits⟩ := (inInt32_eq_value _ _).mp parsed
      obtain ⟨sign,held,signs⟩ := signed_cases raw
      refine ⟨sign,(signed raw).2,held,some_,plain,?_,fits⟩
      rcases signs with ⟨rfl | rfl,positive⟩ | ⟨rfl,negative⟩
      · exact Or.inl ⟨rfl,by simp [positive]⟩
      · exact Or.inr (Or.inl ⟨rfl,by simp [positive]⟩)
      · exact Or.inr (Or.inr ⟨rfl,by simp [negative]⟩)
    | _ =>
      rw [read] at parsed
      cases parsed
  · rintro ⟨sign,digits,held,some_,plain,value,fits⟩
    have narrow : digitsValue digits < 2 ^ 32 := by
      rcases value with ⟨-,rfl⟩ | ⟨-,rfl⟩ | ⟨-,rfl⟩ <;> omega
    have read : parseDigits digits = .value (digitsValue digits) := (parseDigits_eq_value _ _).mpr ⟨some_,plain,rfl,narrow⟩
    rw [parseIntText_eq]
    rcases value with ⟨rfl,rfl⟩ | ⟨rfl,rfl⟩ | ⟨rfl,rfl⟩
    · have same : raw.toList = digits := held
      rw [signed_none raw (by rw [same]; exact plain),same,read]
      exact (inInt32_eq_value _ _).mpr ⟨rfl,fits⟩
    · rw [signed_plus raw digits held,read]
      exact (inInt32_eq_value _ _).mpr ⟨rfl,fits⟩
    · rw [signed_minus raw digits held,read]
      exact (inInt32_eq_value _ _).mpr ⟨rfl,fits⟩

/-! The numeric annotations. -/

inductive NumericAnnotation where
  | minScale
  | maxScale
  | targetConcurrency
  | scaleDownPort
  | scaleDownIntervalSeconds
  | scaleDownTimeoutSeconds
  | scaleDownFailureThreshold
deriving DecidableEq

namespace NumericAnnotation

/-- In the order in which the projector reads them. -/
def all : List NumericAnnotation :=
  [.minScale,.maxScale,.targetConcurrency,.scaleDownPort,.scaleDownIntervalSeconds,.scaleDownTimeoutSeconds,
    .scaleDownFailureThreshold]

def key : NumericAnnotation → String
  | .minScale => annoMinScale
  | .maxScale => annoMaxScale
  | .targetConcurrency => annoTargetConcurrency
  | .scaleDownPort => annoScaleDownPort
  | .scaleDownIntervalSeconds => annoScaleDownIntervalSeconds
  | .scaleDownTimeoutSeconds => annoScaleDownTimeoutSeconds
  | .scaleDownFailureThreshold => annoScaleDownFailureThreshold

/-- The field of the spec the annotation is for; one that is no pointer is zero when unset. -/
def field (spec : KnativeAdoptionSpec) : NumericAnnotation → Option Int
  | .minScale => spec.autoscaling.minScale
  | .maxScale => spec.autoscaling.maxScale
  | .targetConcurrency => spec.autoscaling.targetConcurrency
  | .scaleDownPort => spec.scaleDownProbe.port
  | .scaleDownIntervalSeconds => some spec.scaleDownProbe.intervalSeconds
  | .scaleDownTimeoutSeconds => some spec.scaleDownProbe.timeoutSeconds
  | .scaleDownFailureThreshold => some spec.scaleDownProbe.consecutiveFailureThreshold

end NumericAnnotation

/-- The annotation is there and is the numeral of `n`. -/
def Reads (ann : Labels) (key : String) (n : Int) : Prop := ∃ raw, ann.lookup key = some raw ∧ Numeral raw n

/-- The annotation is not empty and is no numeral. -/
def Unreadable (ann : Labels) (key : String) : Prop :=
  ∃ raw, ann.lookup key = some raw ∧ raw ≠ "" ∧ ∀ n, ¬ Numeral raw n

/-- What the projector and the translator owe to the annotations of a Deployment. -/
structure AnnotationsKept (dep : Deployment) (a : KnativeAdoption) (ksvc : KService) : Prop where
  maxScale : ∀ text, ksvc.template.annotations.lookup autoscalingMaxScaleAnnotation = some text ↔
    ∃ n, Reads dep.annotations annoMaxScale n ∧ text = toString n
  target : ∀ text, ksvc.template.annotations.lookup autoscalingTargetAnnotation = some text ↔
    ∃ n, Reads dep.annotations annoTargetConcurrency n ∧ text = toString n
  minScale : ∀ n, Reads dep.annotations annoMinScale n → n ≠ 0 →
    ksvc.template.annotations.lookup autoscalingMinScaleAnnotation = some (toString n)
  guarded : (∀ n, Reads dep.annotations annoMinScale n → n = 0) →
    ksvc.template.annotations.lookup autoscalingMinScaleAnnotation =
      some (if (a.status.lastScaleDownProbe.map ProbeStatus.result) = some .false then "1" else "0")
  warnings : ∃ unreadable : List NumericAnnotation, unreadable.Sublist NumericAnnotation.all ∧
    (∀ k, k ∈ unreadable ↔ Unreadable dep.annotations k.key) ∧
    List.Forall₂ (fun k text => ∃ raw cause, dep.annotations.lookup k.key = some raw ∧
      text = invalidInt32 k.key raw cause) unreadable (fromDeployment dep).2
  apart : ∀ (other : Deployment) (k : NumericAnnotation), other.annotations.lookup k.key = dep.annotations.lookup k.key →
    k.field (fromDeployment other).1 = k.field (fromDeployment dep).1

/-! What the projector reads. -/

def numberAt (ann : Labels) (key : String) : Option Int := (parseInt32 ann key []).1

def warningAt (ann : Labels) (key : String) : List String := (parseInt32 ann key []).2

theorem parseInt32_eq (ann : Labels) (key : String) (warnings : List String) :
    parseInt32 ann key warnings = (numberAt ann key,warnings++warningAt ann key) := by
  unfold numberAt warningAt parseInt32
  cases ann.lookup key with
  | none => simp
  | some raw =>
    dsimp only
    split
    · simp
    · cases parseIntText raw <;> simp

theorem not_numeral_empty (n : Int) : ¬ Numeral "" n := by
  rintro ⟨sign,digits,held,some_,_⟩
  exact some_ (List.append_eq_nil_iff.mp held.symm).2

theorem numberAt_eq_some (ann : Labels) (key : String) (n : Int) : numberAt ann key = some n ↔ Reads ann key n := by
  unfold numberAt parseInt32 Reads
  cases ann.lookup key with
  | none => simp
  | some raw =>
    simp only [Option.some.injEq,exists_eq_left']
    split
    next empty =>
      subst empty
      exact iff_of_false nofun (not_numeral_empty n)
    next =>
      rw [← parseIntText_eq_value]
      cases parseIntText raw <;> simp

/-- An annotation that cannot be read is warned about once, any other is not. -/
theorem warningAt_cases (ann : Labels) (key : String) :
    (Unreadable ann key ∧ ∃ raw cause, ann.lookup key = some raw ∧ warningAt ann key = [invalidInt32 key raw cause]) ∨
    (¬ Unreadable ann key ∧ warningAt ann key = []) := by
  unfold warningAt parseInt32 Unreadable
  cases ann.lookup key with
  | none => exact Or.inr ⟨by simp,rfl⟩
  | some raw =>
    simp only [Option.some.injEq,exists_eq_left']
    by_cases empty : raw = ""
    · subst empty
      exact Or.inr ⟨by simp,rfl⟩
    · rw [if_neg empty]
      cases parsed : parseIntText raw with
      | value n =>
        have numeral := (parseIntText_eq_value raw n).mp parsed
        exact Or.inr ⟨fun unreadable => unreadable.2 n numeral,rfl⟩
      | malformed | outOfRange =>
        refine Or.inl ⟨⟨empty,fun n numeral => ?_⟩,raw,_,rfl,rfl⟩
        rw [(parseIntText_eq_value raw n).mpr numeral] at parsed
        cases parsed

/-- A field for the number under its annotation. -/
def NumericAnnotation.read (number : Option Int) : NumericAnnotation → Option Int
  | .minScale | .maxScale | .targetConcurrency | .scaleDownPort => number
  | .scaleDownIntervalSeconds | .scaleDownTimeoutSeconds | .scaleDownFailureThreshold => some (number.getD 0)

theorem field_fromDeployment (dep : Deployment) (k : NumericAnnotation) :
    k.field (fromDeployment dep).1 = k.read (numberAt dep.annotations k.key) := by
  unfold fromDeployment projectAutoscaling projectScaleDownProbe
  simp only [parseInt32_eq]
  cases k <;> rfl

theorem warnings_fromDeployment (dep : Deployment) :
    (fromDeployment dep).2 = NumericAnnotation.all.flatMap (fun k => warningAt dep.annotations k.key) := by
  unfold fromDeployment projectAutoscaling projectScaleDownProbe
  simp only [parseInt32_eq]
  simp [ NumericAnnotation.all, NumericAnnotation.key]

/-- One warning for each annotation of the list that cannot be read. -/
theorem warnings_listed (ann : Labels) (ks : List NumericAnnotation) :
    ∃ unreadable : List NumericAnnotation, unreadable.Sublist ks ∧
      (∀ k, k ∈ unreadable ↔ k ∈ ks ∧ Unreadable ann k.key) ∧
      List.Forall₂ (fun k text => ∃ raw cause, ann.lookup k.key = some raw ∧ text = invalidInt32 k.key raw cause)
        unreadable (ks.flatMap (fun k => warningAt ann k.key)) := by
  induction ks with
  | nil => exact ⟨[],.slnil,by simp,.nil⟩
  | cons k ks ih =>
    obtain ⟨unreadable,among,members,texts⟩ := ih
    rw [List.flatMap_cons]
    rcases warningAt_cases ann k.key with ⟨bad,raw,cause,held,text⟩ | ⟨fine,text⟩
    · rw [text]
      refine ⟨k::unreadable,among.cons_cons k,fun other => ?_,.cons ⟨raw,cause,held,rfl⟩ texts⟩
      rw [List.mem_cons,List.mem_cons,members]
      constructor
      · rintro (rfl | ⟨inside,unread⟩)
        · exact ⟨Or.inl rfl,bad⟩
        · exact ⟨Or.inr inside,unread⟩
      · rintro ⟨rfl | inside,unread⟩
        · exact Or.inl rfl
        · exact Or.inr ⟨inside,unread⟩
    · rw [text]
      refine ⟨unreadable,among.cons k,fun other => ?_,texts⟩
      rw [List.mem_cons,members]
      constructor
      · rintro ⟨inside,unread⟩
        exact ⟨Or.inr inside,unread⟩
      · rintro ⟨rfl | inside,unread⟩
        · exact absurd unread fine
        · exact ⟨inside,unread⟩

/-! What the translator writes. -/

theorem lookup_maxScale (a : KnativeAdoption) : (buildKPAAnnotations a).lookup autoscalingMaxScaleAnnotation =
    a.spec.autoscaling.maxScale.map toString := by
  unfold buildKPAAnnotations
  cases a.spec.autoscaling.maxScale <;> cases a.spec.autoscaling.targetConcurrency <;> rfl

theorem lookup_target (a : KnativeAdoption) : (buildKPAAnnotations a).lookup autoscalingTargetAnnotation =
    a.spec.autoscaling.targetConcurrency.map toString := by
  unfold buildKPAAnnotations
  cases a.spec.autoscaling.maxScale <;> cases a.spec.autoscaling.targetConcurrency <;> rfl

/-- An annotation that is written from a field of the spec is the canonical form of the numeral. -/
theorem written_iff (dep : Deployment) (key : String) (number : Option Int) (read : number = numberAt dep.annotations key)
    (text : String) : number.map toString = some text ↔ ∃ n, Reads dep.annotations key n ∧ text = toString n := by
  rw [read,Option.map_eq_some_iff]
  constructor
  · rintro ⟨n,held,rfl⟩
    exact ⟨n,(numberAt_eq_some _ _ _).mp held,rfl⟩
  · rintro ⟨n,reads,rfl⟩
    exact ⟨n,(numberAt_eq_some _ _ _).mpr reads,rfl⟩

theorem guardBlocked_iff (a : KnativeAdoption) :
    guardBlocked a = true ↔ a.status.lastScaleDownProbe.map ProbeStatus.result = some .false := by
  unfold guardBlocked
  cases a.status.lastScaleDownProbe <;> simp

theorem annotations_kept (dep : Deployment) (a : KnativeAdoption) (ksvc : KService)
    (projected : a.spec = (fromDeployment dep).1) (accepted : translate dep a = .ok ksvc) : AnnotationsKept dep a ksvc := by
  obtain ⟨primary,rfl⟩ := translate_ok dep a ksvc accepted
  have field (k : NumericAnnotation) : k.field a.spec = k.read (numberAt dep.annotations k.key) := by
    rw [projected]
    exact field_fromDeployment dep k
  have minScale : a.spec.autoscaling.minScale = numberAt dep.annotations annoMinScale := field .minScale
  refine ⟨fun text => ?_,fun text => ?_,fun n reads nonzero => ?_,fun zero => ?_,?_,fun other k same => ?_⟩
  · change (buildKPAAnnotations a).lookup autoscalingMaxScaleAnnotation = some text ↔ _
    rw [lookup_maxScale]
    exact written_iff dep annoMaxScale _ (field .maxScale) text
  · change (buildKPAAnnotations a).lookup autoscalingTargetAnnotation = some text ↔ _
    rw [lookup_target]
    exact written_iff dep annoTargetConcurrency _ (field .targetConcurrency) text
  · change (buildKPAAnnotations a).lookup autoscalingMinScaleAnnotation = _
    rw [buildKPAAnnotations_minScale,effectiveMinScale,minScale,(numberAt_eq_some _ _ _).mpr reads]
    simp [nonzero]
  · change (buildKPAAnnotations a).lookup autoscalingMinScaleAnnotation = _
    have base : a.spec.autoscaling.minScale.getD 0 = 0 := by
      rw [minScale]
      cases held : numberAt dep.annotations annoMinScale with
      | none => rfl
      | some n => exact zero n ((numberAt_eq_some _ _ _).mp held)
    rw [buildKPAAnnotations_minScale,effectiveMinScale,base]
    simp only [true_and,guardBlocked_iff]
    split <;> rfl
  · obtain ⟨unreadable,among,members,texts⟩ := warnings_listed dep.annotations NumericAnnotation.all
    refine ⟨unreadable,among,fun k => ?_,?_⟩
    · rw [members]
      exact and_iff_right (by cases k <;> decide)
    · rw [warnings_fromDeployment]
      exact texts
  · rw [field_fromDeployment,field_fromDeployment,numberAt,numberAt,parseInt32,parseInt32,same]

namespace Sample

/-- A Deployment with a readable, a zero and two unreadable annotations. -/
def annotated : Deployment where
  ns := "prod"
  name := "web"
  annotations := [( annoMinScale,"-0"),( annoMaxScale,"+007"),( annoTargetConcurrency,"2147483648"),
    ( annoScaleDownPort,"80a")]
  spec :=
    { replicas := none
      template := { containers := [{ name := "app", ports := [{ containerPort := 8080 }] }] } }

def projectedAdoption : KnativeAdoption where
  ns := "prod"
  name := "web"
  spec := (fromDeployment annotated).1
  status := { lastScaleDownProbe := some ⟨.false,"ok=0 refused=1 errored=0 (n=1)",0⟩ }

end Sample

theorem annotations_kept_sample : ∃ ksvc, translate Sample.annotated Sample.projectedAdoption = .ok ksvc ∧
    AnnotationsKept Sample.annotated Sample.projectedAdoption ksvc ∧
    ksvc.template.annotations = [( autoscalingMinScaleAnnotation,"1"),( autoscalingMaxScaleAnnotation,"7")] ∧
    (fromDeployment Sample.annotated).2.length = 2 := by
  have translated : translate Sample.annotated Sample.projectedAdoption =
    .ok (composeKService Sample.annotated Sample.projectedAdoption
      { name := "app", ports := [{ containerPort := 8080 }] }) := by decide +kernel
  exact ⟨_,translated,annotations_kept _ _ _ rfl translated,by decide +kernel,by decide +kernel⟩

end Ifaas
