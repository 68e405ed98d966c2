import Ifaas.Library.Json
import Mathlib.Data.Nat.Log

/-! JSON numbers as two Go decoders hold them. The decoder of unstructured objects
keeps an integer of the int64 range as an int64 and any other number as a float64;
`encoding/json` makes every number a float64, and an integer of more than 53 bits
is rounded there. Encoding either gives a literal again, for a float the digits that it
holds, where Go picks the shortest that read back as the same float. -/
namespace Ifaas.Library

/-- A JSON number: an integer, or a decimal fraction `mantissa / 10 ^ scale`. -/
inductive Literal where
  | whole (value : Int)
  | frac (mantissa : Int) (scale : Nat)
deriving DecidableEq

inductive GoNumber where
  | int64 (value : Int)
  | float64 (value : Literal)
deriving DecidableEq

/-- The integer nearest to `n` that a float64 mantissa holds, ties to even. -/
def roundFloat (n : Int) : Int :=
  let size := n.natAbs
  let unit := 2 ^ (size.log2 + 1 - 53)
  let quotient := size / unit
  let up := 2 * (size % unit) > unit ∨ 2 * (size % unit) = unit ∧ quotient % 2 = 1
  n.sign * ((if up then quotient + 1 else quotient) * unit : Nat)

theorem roundFloat_small (n : Int) (small : n.natAbs ≤ 2 ^ 53) : roundFloat n = n := by
  have sign : n.sign * (n.natAbs : Int) = n := Int.sign_mul_natAbs n
  rcases Nat.lt_or_eq_of_le small with below | exactly
  · have width : n.natAbs.log2 < 53 := by
      rcases Nat.eq_zero_or_pos n.natAbs with zero | pos
      · simp [zero]
      · exact (Nat.log2_lt (Nat.pos_iff_ne_zero.mp pos)).mpr below
    have unit : n.natAbs.log2 + 1 - 53 = 0 := by omega
    simp only [roundFloat,unit,pow_zero,Nat.mod_one,Nat.div_one]
    simpa using sign
  · have width : n.natAbs.log2 = 53 := by
      rw [exactly]
      exact Nat.log2_two_pow
    simp only [roundFloat,width]
    rw [exactly]
    rw [exactly] at sign
    simpa using sign

namespace Literal

def InInt64 (n : Int) : Prop := -(2 ^ 63) ≤ n ∧ n < 2 ^ 63

instance (n : Int) : Decidable (InInt64 n) := inferInstanceAs (Decidable (_ ∧ _))

/-- The number as the decoder of unstructured objects reads it. -/
def read : Literal → GoNumber
  | .whole n => if InInt64 n then .int64 n else .float64 (.whole n)
  | .frac mantissa scale => .float64 (.frac mantissa scale)

/-- The number as `encoding/json` decodes it into an empty interface. -/
def decode : Literal → GoNumber
  | .whole n => .float64 (.whole (roundFloat n))
  | .frac mantissa scale => .float64 (.frac mantissa scale)

/-- The literal is no integer, or one of magnitude at most 2^53. -/
def Exact : Literal → Prop
  | .whole n => n.natAbs ≤ 2 ^ 53
  | .frac _ _ => True

instance (x : Literal) : Decidable x.Exact := by
  cases x <;> unfold Exact <;> infer_instance

end Literal

def GoNumber.encode : GoNumber → Literal
  | .int64 n => .whole n
  | .float64 x => x

@[simp] theorem encode_read (x : Literal) : x.read.encode = x := by
  cases x with
  | whole n =>
    simp only [Literal.read]
    split <;> rfl
  | frac mantissa scale => rfl

theorem encode_decode (x : Literal) (exactly : x.Exact) : x.decode.encode = x := by
  cases x with
  | whole n => exact congrArg Literal.whole (roundFloat_small n exactly)
  | frac mantissa scale => rfl

/-- A number as a decoded object holds it: an int64, or a float64 that was not read
from an integer of that range. -/
def GoNumber.Held : GoNumber → Prop
  | .int64 n => Literal.InInt64 n
  | .float64 (.whole n) => ¬ Literal.InInt64 n ∧ roundFloat n = n
  | .float64 (.frac _ _) => True

instance (x : GoNumber) : Decidable x.Held :=
  match x with
  | .int64 n => inferInstanceAs (Decidable (Literal.InInt64 n))
  | .float64 (.whole n) => inferInstanceAs (Decidable (¬ Literal.InInt64 n ∧ roundFloat n = n))
  | .float64 (.frac _ _) => isTrue trivial

def GoNumber.isInt64 : GoNumber → Bool
  | .int64 _ => true
  | .float64 _ => false

theorem GoNumber.Held.read (x : GoNumber) (held : x.Held) : x.encode.read = x := by
  cases x with
  | int64 n => exact if_pos held
  | float64 literal =>
    cases literal with
    | whole n => exact if_neg held.1
    | frac mantissa scale => rfl

/-- `encoding/json` gives back the floats and none of the integers. -/
theorem GoNumber.Held.decode_iff (x : GoNumber) (held : x.Held) : x.encode.decode = x ↔ x.isInt64 = false := by
  cases x with
  | int64 n => exact ⟨nofun,nofun⟩
  | float64 literal =>
    cases literal with
    | whole n => exact ⟨fun _ => rfl,fun _ => by rw [encode,Literal.decode,held.2]⟩
    | frac mantissa scale => exact ⟨fun _ => rfl,fun _ => rfl⟩

theorem Obj.encode_read (o : Obj Literal) : (o.map Literal.read).map GoNumber.encode = o := by
  rw [← Obj.json_inj]
  simp only [Obj.json_map,Json.map_map,Ifaas.Library.encode_read]
  exact Json.map_eq_self _ _ (Json.eachNum_trivial _ (fun _ => rfl) _)

theorem Obj.encode_decode (o : Obj Literal) (exactly : o.json.EachNum Literal.Exact) :
    (o.map Literal.decode).map GoNumber.encode = o := by
  rw [← Obj.json_inj]
  simp only [Obj.json_map,Json.map_map]
  apply Json.map_eq_self
  exact Json.eachNum_mono _ _ (fun x => Ifaas.Library.encode_decode x) _ exactly

/-- Every number is read back from its own encoding as it is. -/
def Obj.Canonical (o : Obj GoNumber) : Prop := o.json.EachNum (fun x => x.encode.read = x)

theorem Obj.canonical_read (o : Obj Literal) : (o.map Literal.read).Canonical := by
  unfold Canonical
  rw [Obj.json_map]
  apply Json.eachNum_map
  apply Json.eachNum_trivial
  intro x
  rw [Ifaas.Library.encode_read]

theorem Obj.read_encode (o : Obj GoNumber) (canonical : o.Canonical) : (o.map GoNumber.encode).map Literal.read = o := by
  rw [← Obj.json_inj]
  simp only [Obj.json_map,Json.map_map]
  exact Json.map_eq_self _ _ canonical

end Ifaas.Library
