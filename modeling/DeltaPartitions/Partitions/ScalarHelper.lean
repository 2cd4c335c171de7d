import DeltaPartitions.Partitions.Basic

/-!
# The partial order of scalars

`ScalarHelper` orders scalars for the typed comparisons of the partition matcher. Two scalars of
one kind compare natively, two decimals only when their precision and scale agree, a null is
below every other scalar and equal to every null, and scalars of different kinds are unordered.

We show that this is a lawful partial order in the sense of `PartialCmpLaws`, reflexive on
every scalar but a NaN: the laws of each kind come from `Kernel.Native`, and the null arms
make null a bottom element, which the transitivity proof handles before the kinds are split.
-/

namespace DeltaPartitions

namespace ScalarHelper

open Scalar

/-- `ScalarHelper::partial_cmp`. -/
def partialCmp : Scalar → Scalar → Option Ordering
  | null _, null _ => some .eq
  | integer a, integer b => some (compare a.toInt b.toInt)
  | long a, long b => some (compare a.toInt b.toInt)
  | short a, short b => some (compare a.toInt b.toInt)
  | byte a, byte b => some (compare a.toInt b.toInt)
  | float a, float b => BinaryFormat.binary32.partialCmp a.toNat b.toNat
  | double a, double b => BinaryFormat.binary64.partialCmp a.toNat b.toNat
  | string a, string b => some (compare a b)
  | boolean a, boolean b => some (compare a b)
  | timestamp a, timestamp b => some (compare a.toInt b.toInt)
  | timestampNtz a, timestampNtz b => some (compare a.toInt b.toInt)
  | date a, date b => some (compare a.toInt b.toInt)
  | binary a, binary b => some (compare (a.map UInt8.toNat) (b.map UInt8.toNat))
  | decimal decimal1, decimal decimal2 =>
      if decimal1.precision ≠ decimal2.precision ∨ decimal1.scale ≠ decimal2.scale then none
      else some (compare decimal1.bits.toInt decimal2.bits.toInt)
  | null _, _ => some .lt
  | _, null _ => some .gt
  | _, _ => none

/-- The decimal arm compares the bits of decimals of one precision and scale. -/
theorem decimal_eq_cmpBy (decimal1 decimal2 : DecimalData) :
    partialCmp (decimal decimal1) (decimal decimal2) =
      cmpBy (fun d₁ d₂ : DecimalData => d₁.precision = d₂.precision ∧ d₁.scale = d₂.scale)
        (fun d => d.bits.toInt) decimal1 decimal2 := by
  show (if _ then none else some _) = _
  simp only [cmpBy, ne_eq, ← not_and_or, ite_not]

theorem decimal_laws :
    PartialCmpLaws (fun d₁ d₂ => partialCmp (decimal d₁) (decimal d₂)) (fun _ => True) := by
  have laws : PartialCmpLaws (cmpBy (fun d₁ d₂ : DecimalData =>
      d₁.precision = d₂.precision ∧ d₁.scale = d₂.scale) (fun d => d.bits.toInt)) _ :=
    cmpBy_laws _ (fun h => ⟨h.1.symm, h.2.symm⟩) (fun h₁ h₂ => ⟨h₁.1.trans h₂.1, h₁.2.trans h₂.2⟩)
  simpa only [decimal_eq_cmpBy, and_self] using laws

theorem null_left (dataType : DataType) (b : Scalar) :
    partialCmp (null dataType) b = if b.isNull then some .eq else some .lt := by
  cases b <;> rfl

theorem of_isNull {a : Scalar} (aNull : a.isNull) (b : Scalar) :
    partialCmp a b = if b.isNull then some .eq else some .lt := by
  cases a <;> cases aNull
  exact null_left _ b

theorem null_right {a : Scalar} (notNull : a.isNull = false) (dataType : DataType) :
    partialCmp a (null dataType) = some .gt := by
  cases a <;> first | rfl | cases notNull

/-- Only a null is at most a null. -/
theorem isNull_of_le_null {a b : Scalar} {o : Ordering} (h : partialCmp a b = some o)
    (notGt : o ≠ .gt) (bNull : b.isNull) : a.isNull := by
  cases b <;> cases bNull
  by_contra aNotNull
  rw [null_right (Bool.eq_false_iff.2 aNotNull)] at h
  cases h
  exact notGt rfl

/-- A string is ordered only with strings and nulls. -/
theorem string_or_null_of_partialCmp_string {text : String} {b : Scalar} {o : Ordering}
    (h : partialCmp (string text) b = some o) : b.isNull ∨ ∃ text', b = string text' := by
  cases b
  case string text' => exact .inr ⟨text', rfl⟩
  case null => exact .inl rfl
  all_goals exact Option.noConfusion h

theorem swap (a b : Scalar) : partialCmp b a = (partialCmp a b).map Ordering.swap := by
  cases a <;> cases b
  case integer.integer | long.long | short.short | byte.byte | timestamp.timestamp
    | timestampNtz.timestampNtz | date.date => exact (compare_laws BitVec.toInt).swap _ _
  case float.float => exact BinaryFormat.binary32.partialCmp_laws.swap _ _
  case double.double => exact BinaryFormat.binary64.partialCmp_laws.swap _ _
  case string.string | boolean.boolean => exact (compare_laws id).swap _ _
  case binary.binary => exact (compare_laws (List.map UInt8.toNat)).swap _ _
  case decimal.decimal => exact decimal_laws.swap _ _
  all_goals rfl

/-- Between non-null scalars only scalars of one kind are ordered, natively. -/
theorem trans_of_not_null {a b c : Scalar} {o₁ o₂ : Ordering} (aNotNull : a.isNull = false)
    (bNotNull : b.isNull = false) (cNotNull : c.isNull = false) (h₁ : partialCmp a b = some o₁)
    (h₂ : partialCmp b c = some o₂) (notGt₁ : o₁ ≠ .gt) (notGt₂ : o₂ ≠ .gt) :
    partialCmp a c = some (o₁.then o₂) := by
  cases a <;> (try exact Bool.noConfusion aNotNull) <;> cases b <;>
    (try exact Bool.noConfusion bNotNull) <;> (try exact Option.noConfusion h₁) <;> cases c <;>
    (try exact Bool.noConfusion cNotNull) <;> (try exact Option.noConfusion h₂)
  case integer.integer.integer | long.long.long | short.short.short | byte.byte.byte
    | timestamp.timestamp.timestamp | timestampNtz.timestampNtz.timestampNtz | date.date.date =>
    exact (compare_laws BitVec.toInt).trans h₁ h₂ notGt₁ notGt₂
  case float.float.float => exact BinaryFormat.binary32.partialCmp_laws.trans h₁ h₂ notGt₁ notGt₂
  case double.double.double =>
    exact BinaryFormat.binary64.partialCmp_laws.trans h₁ h₂ notGt₁ notGt₂
  case string.string.string | boolean.boolean.boolean =>
    exact (compare_laws id).trans h₁ h₂ notGt₁ notGt₂
  case binary.binary.binary =>
    exact (compare_laws (List.map UInt8.toNat)).trans h₁ h₂ notGt₁ notGt₂
  case decimal.decimal.decimal => exact decimal_laws.trans h₁ h₂ notGt₁ notGt₂

/-- Transitivity: a null is below every non-null scalar and equal to every null, and the
non-null scalars compose within their kind. -/
theorem trans {a b c : Scalar} {o₁ o₂ : Ordering} (h₁ : partialCmp a b = some o₁)
    (h₂ : partialCmp b c = some o₂) (notGt₁ : o₁ ≠ .gt) (notGt₂ : o₂ ≠ .gt) :
    partialCmp a c = some (o₁.then o₂) := by
  cases aNull : a.isNull
  · have bNotNull : b.isNull = false := Bool.eq_false_iff.2 fun bNull => by
      simpa [aNull] using isNull_of_le_null h₁ notGt₁ bNull
    have cNotNull : c.isNull = false := Bool.eq_false_iff.2 fun cNull => by
      simpa [bNotNull] using isNull_of_le_null h₂ notGt₂ cNull
    exact trans_of_not_null aNull bNotNull cNotNull h₁ h₂ notGt₁ notGt₂
  · rw [of_isNull aNull] at h₁ ⊢
    cases bNull : b.isNull <;> rw [bNull] at h₁ <;> cases h₁
    case false.refl =>
      have cNotNull : c.isNull = false := Bool.eq_false_iff.2 fun cNull => by
        simpa [bNull] using isNull_of_le_null h₂ notGt₂ cNull
      rw [cNotNull]
      rfl
    case true.refl => rwa [of_isNull bNull] at h₂

theorem refl (a : Scalar) (notNaN : ¬a.IsNaN) : partialCmp a a = some .eq := by
  cases a
  case float => exact BinaryFormat.binary32.partialCmp_laws.refl _ notNaN
  case double => exact BinaryFormat.binary64.partialCmp_laws.refl _ notNaN
  case string | boolean => exact (compare_laws id).refl _ trivial
  case binary => exact (compare_laws (List.map UInt8.toNat)).refl _ trivial
  case decimal => exact decimal_laws.refl _ trivial
  case null => rfl
  all_goals exact (compare_laws BitVec.toInt).refl _ trivial

/-- `ScalarHelper::partial_cmp` is a lawful partial order, reflexive on every non-NaN scalar. -/
theorem laws : PartialCmpLaws partialCmp (fun a => ¬a.IsNaN) := ⟨swap, trans, refl⟩

/-! ### When two scalars are `Equal` -/

theorem float_partialCmp_eq_eq_iff (x y : BitVec 32) :
    partialCmp (float x) (float y) = some .eq ↔
      x.toNat = y.toNat ∧ ¬(float x).IsNaN ∨ x.toNat % 2 ^ 31 = 0 ∧ y.toNat % 2 ^ 31 = 0 :=
  BinaryFormat.binary32.partialCmp_eq_eq_iff_of_lt (lt_of_lt_of_eq x.isLt (by rfl))
    (lt_of_lt_of_eq y.isLt (by rfl))

theorem double_partialCmp_eq_eq_iff (x y : BitVec 64) :
    partialCmp (double x) (double y) = some .eq ↔
      x.toNat = y.toNat ∧ ¬(double x).IsNaN ∨ x.toNat % 2 ^ 63 = 0 ∧ y.toNat % 2 ^ 63 = 0 :=
  BinaryFormat.binary64.partialCmp_eq_eq_iff_of_lt (lt_of_lt_of_eq x.isLt (by rfl))
    (lt_of_lt_of_eq y.isLt (by rfl))

/-- Both non-null scalars compare `Equal` only as one non-NaN scalar or as the two zeros of one
floating-point format. -/
theorem eq_of_partialCmp_eq_of_not_null {a b : Scalar} (aNotNull : a.isNull = false)
    (bNotNull : b.isNull = false) (h : partialCmp a b = some .eq) :
    a = b ∧ ¬a.IsNaN ∨
      (∃ x y, a = float x ∧ b = float y ∧ x.toNat % 2 ^ 31 = 0 ∧ y.toNat % 2 ^ 31 = 0) ∨
      ∃ x y, a = double x ∧ b = double y ∧ x.toNat % 2 ^ 63 = 0 ∧ y.toNat % 2 ^ 63 = 0 := by
  cases a <;> (try exact Bool.noConfusion aNotNull) <;> cases b <;>
    (try exact Bool.noConfusion bNotNull) <;> (try exact Option.noConfusion h)
  case integer.integer | long.long | short.short | byte.byte | timestamp.timestamp
    | timestampNtz.timestampNtz | date.date =>
    exact .inl ⟨congrArg _ (BitVec.toInt_inj.1 (compare_eq_iff_eq.1 (Option.some.inj h))), id⟩
  case string.string | boolean.boolean =>
    exact .inl ⟨congrArg _ (compare_eq_iff_eq.1 (Option.some.inj h)), id⟩
  case binary.binary =>
    exact .inl ⟨congrArg _ (List.map_injective_iff.2 (fun _ _ => UInt8.toNat.inj)
      (compare_eq_iff_eq.1 (Option.some.inj h))), id⟩
  case decimal.decimal decimal₁ decimal₂ =>
    obtain ⟨⟨samePrecision, sameScale⟩, sameBits⟩ :=
      cmpBy_eq_some.1 ((decimal_eq_cmpBy decimal₁ decimal₂).symm.trans h)
    obtain ⟨bits₁, precision₁, scale₁⟩ := decimal₁
    obtain ⟨bits₂, precision₂, scale₂⟩ := decimal₂
    have bitsEq := BitVec.toInt_inj.1 (compare_eq_iff_eq.1 sameBits)
    simp only [DecimalData.precision, DecimalData.scale] at samePrecision sameScale bitsEq
    subst samePrecision sameScale bitsEq
    exact .inl ⟨rfl, id⟩
  case float.float x y =>
    rcases (float_partialCmp_eq_eq_iff x y).1 h with ⟨same, xNaN⟩ | ⟨xZero, yZero⟩
    · exact .inl ⟨congrArg _ (BitVec.eq_of_toNat_eq same), xNaN⟩
    · exact .inr (.inl ⟨x, y, rfl, rfl, xZero, yZero⟩)
  case double.double x y =>
    rcases (double_partialCmp_eq_eq_iff x y).1 h with ⟨same, xNaN⟩ | ⟨xZero, yZero⟩
    · exact .inl ⟨congrArg _ (BitVec.eq_of_toNat_eq same), xNaN⟩
    · exact .inr (.inr ⟨x, y, rfl, rfl, xZero, yZero⟩)

/-- Two scalars compare `Equal` exactly when they are one scalar that is not a NaN, two nulls
of any types, or the two zeros of one floating-point format: typed equality is identity but for
the types of nulls and the sign of zero. -/
theorem partialCmp_eq_eq_iff {a b : Scalar} :
    partialCmp a b = some .eq ↔
      a = b ∧ ¬a.IsNaN ∨ a.isNull ∧ b.isNull ∨
        (∃ x y, a = float x ∧ b = float y ∧ x.toNat % 2 ^ 31 = 0 ∧ y.toNat % 2 ^ 31 = 0) ∨
        ∃ x y, a = double x ∧ b = double y ∧ x.toNat % 2 ^ 63 = 0 ∧ y.toNat % 2 ^ 63 = 0 := by
  constructor
  · intro h
    cases aNull : a.isNull
    · cases bNull : b.isNull
      · rcases eq_of_partialCmp_eq_of_not_null aNull bNull h with same | zeros | zeros
        · exact .inl same
        · exact .inr (.inr (.inl zeros))
        · exact .inr (.inr (.inr zeros))
      · cases b <;> cases bNull
        rw [null_right aNull] at h
        cases h
    · rw [of_isNull aNull] at h
      cases bNull : b.isNull <;> rw [bNull] at h
      · cases h
      · exact .inr (.inl ⟨rfl, rfl⟩)
  · rintro (⟨rfl, notNaN⟩ | ⟨aNull, bNull⟩ | ⟨x, y, rfl, rfl, xZero, yZero⟩ |
      ⟨x, y, rfl, rfl, xZero, yZero⟩)
    · exact refl a notNaN
    · rw [of_isNull aNull, if_pos bNull]
    · exact (float_partialCmp_eq_eq_iff x y).2 (.inr ⟨xZero, yZero⟩)
    · exact (double_partialCmp_eq_eq_iff x y).2 (.inr ⟨xZero, yZero⟩)

end ScalarHelper

end DeltaPartitions
