import Mathlib.Order.Compare
import Mathlib.Data.Int.Order.Basic
import Mathlib.Data.List.Lex
import Mathlib.Data.String.Basic

/-!
# Native comparisons of scalar payloads

The kernel's scalars compare their payloads with Rust's `PartialOrd::partial_cmp`: integers,
dates, timestamps, decimal bits, strings, booleans and byte vectors through their total orders,
and `f32` and `f64` through IEEE 754 comparison, which leaves NaN unordered.

All of these have one shape. A pair is compared through a key into a linear order when a
compatibility relation admits it, and is unordered otherwise. We state the laws that
`PartialOrd` asks of `partial_cmp` once, as `PartialCmpLaws`, and prove them for that shape,
so that the comparator of `ScalarHelper` inherits them kind by kind.

Floating-point values are their IEEE 754 bit patterns. A pattern is NaN when its exponent field
is all ones and its significand field is not zero; every other pattern has a position on the
extended number line, read off as a sign and a magnitude, since the binary interchange formats
order the magnitudes of the non-NaN patterns like their absolute values. Both zeros have
position zero, so `-0.0` and `0.0` compare `Equal`, as in IEEE 754.
-/

namespace DeltaPartitions

universe u v

variable {α : Type u} {β : Type v}

/--
The laws of `PartialOrd::partial_cmp`: swapping the arguments swaps the result, two steps that
are not `Greater` compose, and every value that `Reflexive` selects is `Equal` to itself.
-/
structure PartialCmpLaws (cmp : α → α → Option Ordering) (Reflexive : α → Prop) : Prop where
  swap : ∀ a b, cmp b a = (cmp a b).map Ordering.swap
  trans : ∀ {a b c o₁ o₂}, cmp a b = some o₁ → cmp b c = some o₂ → o₁ ≠ .gt → o₂ ≠ .gt →
    cmp a c = some (o₁.then o₂)
  refl : ∀ a, Reflexive a → cmp a a = some .eq

theorem compare_swap [LinearOrder β] (a b : β) : compare b a = (compare a b).swap :=
  (compare_iff b a).2 (Ordering.compares_swap.2 ((compare_iff a b).1 rfl))

theorem compare_trans [LinearOrder β] {a b c : β} {o₁ o₂ : Ordering}
    (first : compare a b = o₁) (second : compare b c = o₂) (notGt₁ : o₁ ≠ .gt)
    (notGt₂ : o₂ ≠ .gt) : compare a c = o₁.then o₂ := by
  have hbc : b ≤ c := compare_le_iff_le.1 (second ▸ notGt₂)
  cases o₁ with
  | lt => exact compare_lt_iff_lt.2 (lt_of_lt_of_le (compare_lt_iff_lt.1 first) hbc)
  | eq => rw [compare_eq_iff_eq.1 first]; exact second
  | gt => exact absurd rfl notGt₁

/-- Comparison through `key` of the pairs that `Compatible` admits; other pairs are unordered. -/
def cmpBy [LinearOrder β] (Compatible : α → α → Prop) [DecidableRel Compatible] (key : α → β)
    (a b : α) : Option Ordering :=
  if Compatible a b then some (compare (key a) (key b)) else none

section CmpBy

variable [LinearOrder β] {Compatible : α → α → Prop} [DecidableRel Compatible]

theorem cmpBy_eq_some {key : α → β} {a b : α} {o : Ordering} :
    cmpBy Compatible key a b = some o ↔ Compatible a b ∧ compare (key a) (key b) = o := by
  unfold cmpBy
  split_ifs with h <;> simp [h]

/-- A comparison through a key is lawful when compatibility is symmetric and transitive. -/
theorem cmpBy_laws (key : α → β) (symm : ∀ {a b}, Compatible a b → Compatible b a)
    (trans : ∀ {a b c}, Compatible a b → Compatible b c → Compatible a c) :
    PartialCmpLaws (cmpBy Compatible key) (fun a => Compatible a a) where
  swap a b := by
    by_cases h : Compatible a b
    · simp [cmpBy, h, symm h, compare_swap (key a)]
    · have h' : ¬Compatible b a := fun h' => h (symm h')
      simp [cmpBy, h, h']
  trans first second notGt₁ notGt₂ := by
    obtain ⟨hab, first⟩ := cmpBy_eq_some.1 first
    obtain ⟨hbc, second⟩ := cmpBy_eq_some.1 second
    exact cmpBy_eq_some.2 ⟨trans hab hbc, compare_trans first second notGt₁ notGt₂⟩
  refl a h := cmpBy_eq_some.2 ⟨h, compare_eq_iff_eq.2 rfl⟩

/-- A total order read through a key, as `Ord::cmp` wrapped in `Some`, is lawful everywhere. -/
theorem compare_laws (key : α → β) :
    PartialCmpLaws (fun a b => some (compare (key a) (key b))) (fun _ => True) := by
  have laws : PartialCmpLaws (cmpBy (fun _ _ => True) key) _ :=
    cmpBy_laws key (fun _ => trivial) (fun _ _ => trivial)
  simpa only [cmpBy, if_true] using laws

end CmpBy

/-- An IEEE 754 binary interchange format, by the widths of its exponent field and of its
trailing significand field; the sign is the bit above both. -/
structure BinaryFormat where
  exponentBits : ℕ
  significandBits : ℕ

namespace BinaryFormat

/-- The format of `f32`. -/
def binary32 : BinaryFormat := ⟨8, 23⟩

/-- The format of `f64`. -/
def binary64 : BinaryFormat := ⟨11, 52⟩

variable (fmt : BinaryFormat)

/-- A NaN: the exponent field is all ones and the significand field is not zero. -/
def IsNaN (bits : ℕ) : Prop :=
  bits / 2 ^ fmt.significandBits % 2 ^ fmt.exponentBits = 2 ^ fmt.exponentBits - 1 ∧
    bits % 2 ^ fmt.significandBits ≠ 0

instance (bits : ℕ) : Decidable (fmt.IsNaN bits) := inferInstanceAs (Decidable (_ ∧ _))

/-- The position of a non-NaN pattern on the extended number line: its magnitude, negated
when the sign bit is set. -/
def position (bits : ℕ) : ℤ :=
  let magnitude : ℤ := ((bits % 2 ^ (fmt.exponentBits + fmt.significandBits) : ℕ) : ℤ)
  if bits / 2 ^ (fmt.exponentBits + fmt.significandBits) % 2 = 1 then -magnitude else magnitude

/-- IEEE 754 `x <= y`, which is false when either operand is NaN. -/
def le (x y : ℕ) : Bool :=
  !decide (fmt.IsNaN x) && !decide (fmt.IsNaN y) && decide (fmt.position x ≤ fmt.position y)

/-- `partial_cmp` of `f32` and `f64` in Rust's `core`, from `self <= other` and
`self >= other`. -/
def partialCmp (x y : ℕ) : Option Ordering :=
  match fmt.le x y, fmt.le y x with
  | false, false => none
  | false, true => some .gt
  | true, false => some .lt
  | true, true => some .eq

/-- Float comparison is comparison of positions between non-NaN patterns. -/
theorem partialCmp_eq_cmpBy :
    fmt.partialCmp = cmpBy (fun x y => ¬fmt.IsNaN x ∧ ¬fmt.IsNaN y) fmt.position := by
  funext x y
  by_cases hx : fmt.IsNaN x
  · simp [partialCmp, le, cmpBy, hx]
  by_cases hy : fmt.IsNaN y
  · simp [partialCmp, le, cmpBy, hy]
  rcases lt_trichotomy (fmt.position x) (fmt.position y) with h | h | h
  · simp [partialCmp, le, cmpBy, hx, hy, h.le, not_le_of_lt h, compare_lt_iff_lt.2 h]
  · simp [partialCmp, le, cmpBy, hx, hy, h, compare_eq_iff_eq.2 (rfl : fmt.position y = _)]
  · simp [partialCmp, le, cmpBy, hx, hy, h.le, not_le_of_lt h, compare_gt_iff_gt.2 h]

theorem partialCmp_laws : PartialCmpLaws fmt.partialCmp (fun x => ¬fmt.IsNaN x) := by
  have laws : PartialCmpLaws (cmpBy (fun x y => ¬fmt.IsNaN x ∧ ¬fmt.IsNaN y) fmt.position) _ :=
    cmpBy_laws fmt.position (fun h => h.symm) (fun hab hbc => ⟨hab.1, hbc.2⟩)
  rw [partialCmp_eq_cmpBy]
  simpa only [and_self] using laws

/-- Two patterns compare `Equal` exactly when neither is NaN and their positions agree. -/
theorem partialCmp_eq_eq_iff_position {x y : ℕ} :
    fmt.partialCmp x y = some .eq ↔
      ¬fmt.IsNaN x ∧ ¬fmt.IsNaN y ∧ fmt.position x = fmt.position y := by
  rw [partialCmp_eq_cmpBy, cmpBy_eq_some, compare_eq_iff_eq, and_assoc]

/-- Below the bit above the sign, two patterns have one position exactly when they are equal
or are the two zeros. -/
theorem position_eq_iff {x y : ℕ}
    (xLt : x < 2 * 2 ^ (fmt.exponentBits + fmt.significandBits))
    (yLt : y < 2 * 2 ^ (fmt.exponentBits + fmt.significandBits)) :
    fmt.position x = fmt.position y ↔
      x = y ∨ x % 2 ^ (fmt.exponentBits + fmt.significandBits) = 0 ∧
        y % 2 ^ (fmt.exponentBits + fmt.significandBits) = 0 := by
  unfold position
  dsimp only
  have wPos := Nat.two_pow_pos (fmt.exponentBits + fmt.significandBits)
  generalize 2 ^ (fmt.exponentBits + fmt.significandBits) = w at *
  have xSplit := Nat.div_add_mod x w
  have ySplit := Nat.div_add_mod y w
  have xMod := Nat.mod_lt x wPos
  have yMod := Nat.mod_lt y wPos
  have xSign : x / w < 2 := Nat.div_lt_of_lt_mul (by omega)
  have ySign : y / w < 2 := Nat.div_lt_of_lt_mul (by omega)
  generalize x / w = xs at *
  generalize y / w = ys at *
  generalize x % w = xm at *
  generalize y % w = ym at *
  obtain rfl | rfl : xs = 0 ∨ xs = 1 := by omega
  all_goals obtain rfl | rfl : ys = 0 ∨ ys = 1 := by omega
  all_goals simp only [Nat.mul_zero, Nat.mul_one, Nat.zero_add] at xSplit ySplit
  all_goals split_ifs <;> first | contradiction | omega

/-- A zero is not a NaN. -/
theorem not_isNaN_of_zero {bits : ℕ}
    (zero : bits % 2 ^ (fmt.exponentBits + fmt.significandBits) = 0) : ¬fmt.IsNaN bits := by
  have divides : 2 ^ fmt.significandBits ∣ bits :=
    Nat.dvd_trans (Nat.pow_dvd_pow 2 (Nat.le_add_left _ _)) (Nat.dvd_iff_mod_eq_zero.2 zero)
  exact fun nan => nan.2 (Nat.dvd_iff_mod_eq_zero.1 divides)

/-- Two patterns below the bit above the sign compare `Equal` exactly when they are one pattern
that is not a NaN, or the two zeros. -/
theorem partialCmp_eq_eq_iff_of_lt {x y : ℕ}
    (xLt : x < 2 * 2 ^ (fmt.exponentBits + fmt.significandBits))
    (yLt : y < 2 * 2 ^ (fmt.exponentBits + fmt.significandBits)) :
    fmt.partialCmp x y = some .eq ↔
      x = y ∧ ¬fmt.IsNaN x ∨ x % 2 ^ (fmt.exponentBits + fmt.significandBits) = 0 ∧
        y % 2 ^ (fmt.exponentBits + fmt.significandBits) = 0 := by
  rw [partialCmp_eq_eq_iff_position, position_eq_iff fmt xLt yLt]
  constructor
  · rintro ⟨xNaN, -, same | zeros⟩
    · exact .inl ⟨same, xNaN⟩
    · exact .inr zeros
  · rintro (⟨rfl, xNaN⟩ | ⟨xZero, yZero⟩)
    · exact ⟨xNaN, xNaN, .inl rfl⟩
    · exact ⟨fmt.not_isNaN_of_zero xZero, fmt.not_isNaN_of_zero yZero, .inr ⟨xZero, yZero⟩⟩

end BinaryFormat

end DeltaPartitions
