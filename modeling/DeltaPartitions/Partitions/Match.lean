import DeltaPartitions.Partitions.ScalarHelper

/-!
# Matching a filter against partitions

`match_partition` prunes partitions locally. A filter on another column never matches, and the
filter `Equal("")` is the test for the null partition. Otherwise the ordering operators, and
equality and inequality on timestamp columns, parse the operand at the column's type and compare
it with `ScalarHelper`, where an operand that does not parse and an unordered pair both fail to
match. Equality and inequality on the other columns, and `In` and `NotIn`, compare the
partition's serialized value with the operand texts instead.

The kernel's scalar parser and the crate's `ScalarExt::serialize` are collaborators that this
file does not define; every result here holds for every parser and every serializer.
-/

namespace DeltaPartitions

open ScalarHelper

section Typed

variable (parseScalar : PrimitiveType → String → Except KernelError Scalar)

/-- `compare_typed_value`: the partition's value against the operand parsed at the column's
type; `none` when the column is not primitive, the operand does not parse, or the two are
unordered. -/
def compareTypedValue (partitionValue : Scalar) (filterValue : String) (dataType : DataType) :
    Option Ordering :=
  match dataType with
  | .primitive primitiveType => do
      let other ← (parseScalar primitiveType filterValue).toOption
      partialCmp partitionValue other
  | _ => none

/-- `compare_typed_value(..).map(test).unwrap_or(false)`, the shape of every typed arm of
`match_partition`. -/
def typedMatch (test : Ordering → Bool) (partitionValue : Scalar) (filterValue : String)
    (dataType : DataType) : Bool :=
  ((compareTypedValue parseScalar partitionValue filterValue dataType).map test).getD false

variable {parseScalar}

theorem compareTypedValue_eq_some {partitionValue : Scalar} {filterValue : String}
    {dataType : DataType} {o : Ordering} :
    compareTypedValue parseScalar partitionValue filterValue dataType = some o ↔
      ∃ primitiveType other, dataType = .primitive primitiveType ∧
        parseScalar primitiveType filterValue = .ok other ∧ partialCmp partitionValue other = some o := by
  cases dataType with
  | primitive primitiveType =>
      cases h : parseScalar primitiveType filterValue <;>
        simp [compareTypedValue, h, Except.toOption]
  | struct | array | map => simp [compareTypedValue]

theorem typedMatch_eq_true {test : Ordering → Bool} {partitionValue : Scalar}
    {filterValue : String} {dataType : DataType} :
    typedMatch parseScalar test partitionValue filterValue dataType ↔
      ∃ o, compareTypedValue parseScalar partitionValue filterValue dataType = some o ∧ test o := by
  cases h : compareTypedValue parseScalar partitionValue filterValue dataType <;>
    simp [typedMatch, h]

/-- An operand that parses to no scalar ordered with the partition's value never matches. -/
theorem typedMatch_eq_false {test : Ordering → Bool} {partitionValue : Scalar}
    {filterValue : String} {dataType : DataType}
    (unordered : compareTypedValue parseScalar partitionValue filterValue dataType = none) :
    typedMatch parseScalar test partitionValue filterValue dataType = false := by
  simp [typedMatch, unordered]

end Typed

namespace PartitionValue

/-- Whether `match_partition` settles a filter value on a column of type `dataType` by comparing
the partition's value with the operand parsed at the column's type: the ordering operators
always, equality with a non-empty operand and inequality on timestamp columns. The other arms
test for null or compare serialized text. -/
def comparesTyped (dataType : DataType) : PartitionValue → Bool
  | equal value => dataType == .primitive .timestamp && value != ""
  | notEqual _ => dataType == .primitive .timestamp
  | greaterThan _ | greaterThanOrEqual _ | lessThan _ | lessThanOrEqual _ => true
  | «in» _ | notIn _ => false

end PartitionValue

namespace PartitionFilter

variable (parseScalar : PrimitiveType → String → Except KernelError Scalar)
  (serialize : Scalar → String)

/-- `PartitionFilter::match_partition`. -/
def matchPartition (filter : PartitionFilter) (partition : DeltaTablePartition)
    (dataType : DataType) : Bool :=
  if filter.key ≠ partition.key then false
  else if filter.value = .equal "" then partition.value.isNull
  else
    match filter.value with
    | .equal value =>
        if dataType = .primitive .timestamp then
          typedMatch parseScalar Ordering.isEq partition.value value dataType
        else serialize partition.value == value
    | .notEqual value =>
        if dataType = .primitive .timestamp then
          typedMatch parseScalar (fun x => !x.isEq) partition.value value dataType
        else !(serialize partition.value == value)
    | .greaterThan value => typedMatch parseScalar Ordering.isGT partition.value value dataType
    | .greaterThanOrEqual value =>
        typedMatch parseScalar Ordering.isGE partition.value value dataType
    | .lessThan value => typedMatch parseScalar Ordering.isLT partition.value value dataType
    | .lessThanOrEqual value => typedMatch parseScalar Ordering.isLE partition.value value dataType
    | .«in» value => value.contains (serialize partition.value)
    | .notIn value => !value.contains (serialize partition.value)

/-- `PartitionFilter::match_partitions`: whether some partition matches; `none` is the panic of
the `unwrap` when the map has no type for the filter's column. -/
def matchPartitions (filter : PartitionFilter) (partitions : List DeltaTablePartition)
    (partitionColDataTypes : String → Option DataType) : Option Bool :=
  (partitionColDataTypes filter.key).map fun dataType =>
    partitions.any fun partition => filter.matchPartition parseScalar serialize partition dataType

variable {parseScalar serialize}

section Spec

variable {key : String} {partition : DeltaTablePartition} {dataType : DataType}

theorem matchPartition_of_key_ne {value : PartitionValue} (ne : key ≠ partition.key) :
    matchPartition parseScalar serialize ⟨key, value⟩ partition dataType = false := by
  simp [matchPartition, ne]

variable (sameKey : partition.key = key)
include sameKey

@[simp]
theorem matchPartition_equal_empty :
    matchPartition parseScalar serialize ⟨key, .equal ""⟩ partition dataType =
      partition.value.isNull := by
  simp [matchPartition, sameKey]

theorem matchPartition_equal {value : String} (nonEmpty : value ≠ "") :
    matchPartition parseScalar serialize ⟨key, .equal value⟩ partition dataType =
      if dataType = .primitive .timestamp then
        typedMatch parseScalar Ordering.isEq partition.value value dataType
      else serialize partition.value == value := by
  simp [matchPartition, sameKey, nonEmpty]

@[simp]
theorem matchPartition_notEqual {value : String} :
    matchPartition parseScalar serialize ⟨key, .notEqual value⟩ partition dataType =
      if dataType = .primitive .timestamp then
        typedMatch parseScalar (fun x => !x.isEq) partition.value value dataType
      else !(serialize partition.value == value) := by
  simp [matchPartition, sameKey]

@[simp]
theorem matchPartition_greaterThan {value : String} :
    matchPartition parseScalar serialize ⟨key, .greaterThan value⟩ partition dataType =
      typedMatch parseScalar Ordering.isGT partition.value value dataType := by
  simp [matchPartition, sameKey]

@[simp]
theorem matchPartition_greaterThanOrEqual {value : String} :
    matchPartition parseScalar serialize ⟨key, .greaterThanOrEqual value⟩ partition dataType =
      typedMatch parseScalar Ordering.isGE partition.value value dataType := by
  simp [matchPartition, sameKey]

@[simp]
theorem matchPartition_lessThan {value : String} :
    matchPartition parseScalar serialize ⟨key, .lessThan value⟩ partition dataType =
      typedMatch parseScalar Ordering.isLT partition.value value dataType := by
  simp [matchPartition, sameKey]

@[simp]
theorem matchPartition_lessThanOrEqual {value : String} :
    matchPartition parseScalar serialize ⟨key, .lessThanOrEqual value⟩ partition dataType =
      typedMatch parseScalar Ordering.isLE partition.value value dataType := by
  simp [matchPartition, sameKey]

@[simp]
theorem matchPartition_in {values : List String} :
    matchPartition parseScalar serialize ⟨key, .«in» values⟩ partition dataType =
      values.contains (serialize partition.value) := by
  simp [matchPartition, sameKey]

@[simp]
theorem matchPartition_notIn {values : List String} :
    matchPartition parseScalar serialize ⟨key, .notIn values⟩ partition dataType =
      !values.contains (serialize partition.value) := by
  simp [matchPartition, sameKey]

end Spec

section Arms

variable {key : String} {dataType : DataType} {value : PartitionValue}

theorem key_eq_of_matchPartition {partition : DeltaTablePartition}
    (matched : matchPartition parseScalar serialize ⟨key, value⟩ partition dataType) :
    partition.key = key := by
  by_contra ne
  rw [matchPartition_of_key_ne (Ne.symm ne)] at matched
  cases matched

/-- An arm that compares typed values matches only when every operand parses at the column's
type to a scalar ordered with the partition's value. -/
theorem compareTypedValue_of_matchPartition {partition : DeltaTablePartition}
    (typed : value.comparesTyped dataType)
    (matched : matchPartition parseScalar serialize ⟨key, value⟩ partition dataType) :
    ∀ operand ∈ value.operands,
      ∃ o, compareTypedValue parseScalar partition.value operand dataType = some o := by
  have sameKey := key_eq_of_matchPartition matched
  have typedArm {test : Ordering → Bool} {operand : String}
      (h : typedMatch parseScalar test partition.value operand dataType) :
      ∀ operand' ∈ [operand],
        ∃ o, compareTypedValue parseScalar partition.value operand' dataType = some o := by
    simpa using (typedMatch_eq_true.1 h).imp fun _ => And.left
  cases value with
  | equal operand =>
      simp only [PartitionValue.comparesTyped, Bool.and_eq_true, beq_iff_eq, bne_iff_ne] at typed
      rw [matchPartition_equal sameKey typed.2, if_pos typed.1] at matched
      exact typedArm matched
  | notEqual operand =>
      simp only [PartitionValue.comparesTyped, beq_iff_eq] at typed
      rw [matchPartition_notEqual sameKey, if_pos typed] at matched
      exact typedArm matched
  | greaterThan operand | greaterThanOrEqual operand | lessThan operand
  | lessThanOrEqual operand =>
      simp only [matchPartition_greaterThan sameKey, matchPartition_greaterThanOrEqual sameKey,
        matchPartition_lessThan sameKey, matchPartition_lessThanOrEqual sameKey] at matched
      exact typedArm matched
  | «in» | notIn => cases typed

/-- The arms that do not compare typed values see a partition's value only through whether it
is null and its serialized text. -/
theorem matchPartition_congr_text {first second : DeltaTablePartition}
    (untyped : value.comparesTyped dataType = false) (sameKeys : first.key = second.key)
    (nulls : first.value.isNull = second.value.isNull)
    (rendered : serialize first.value = serialize second.value) :
    matchPartition parseScalar serialize ⟨key, value⟩ first dataType =
      matchPartition parseScalar serialize ⟨key, value⟩ second dataType := by
  by_cases firstKey : first.key = key
  swap
  · have secondKey : key ≠ second.key := sameKeys ▸ Ne.symm firstKey
    rw [matchPartition_of_key_ne (Ne.symm firstKey), matchPartition_of_key_ne secondKey]
  have secondKey : second.key = key := sameKeys ▸ firstKey
  cases value with
  | equal operand =>
      by_cases empty : operand = ""
      · subst empty
        rw [matchPartition_equal_empty firstKey, matchPartition_equal_empty secondKey, nulls]
      · have notTimestamp : dataType ≠ .primitive .timestamp := by
          simpa [PartitionValue.comparesTyped, empty] using untyped
        rw [matchPartition_equal firstKey empty, matchPartition_equal secondKey empty,
          if_neg notTimestamp, if_neg notTimestamp, rendered]
  | notEqual operand =>
      have notTimestamp : dataType ≠ .primitive .timestamp := by
        simpa [PartitionValue.comparesTyped] using untyped
      rw [matchPartition_notEqual firstKey, matchPartition_notEqual secondKey, if_neg notTimestamp,
        if_neg notTimestamp, rendered]
  | greaterThan | greaterThanOrEqual | lessThan | lessThanOrEqual => cases untyped
  | «in» operands => rw [matchPartition_in firstKey, matchPartition_in secondKey, rendered]
  | notIn operands => rw [matchPartition_notIn firstKey, matchPartition_notIn secondKey, rendered]

end Arms

/-- `match_partitions` panics exactly when the map has no type for the filter's column, and
otherwise tells whether some partition matches at that type. -/
theorem matchPartitions_eq_some {filter : PartitionFilter} {partitions : List DeltaTablePartition}
    {partitionColDataTypes : String → Option DataType} {result : Bool} :
    matchPartitions parseScalar serialize filter partitions partitionColDataTypes = some result ↔
      ∃ dataType, partitionColDataTypes filter.key = some dataType ∧
        (result ↔ ∃ partition ∈ partitions,
          matchPartition parseScalar serialize filter partition dataType) := by
  cases typed : partitionColDataTypes filter.key with
  | none => simp [matchPartitions, typed]
  | some dataType =>
      simp only [matchPartitions, typed, Option.map_some', Option.some.injEq, Option.some_inj,
        exists_eq_left']
      rw [Bool.eq_iff_iff, List.any_eq_true]
      exact Iff.comm

section Closure

variable {filterValue : String} {dataType : DataType} {low high : Scalar} {o o' : Ordering}

/-- An operand below a value stays below every value above it. -/
theorem compareTypedValue_upward (le : partialCmp low high = some o') (notGt : o' ≠ .gt)
    (below : compareTypedValue parseScalar low filterValue dataType = some o) (notLt : o ≠ .lt) :
    ∃ o'', compareTypedValue parseScalar high filterValue dataType = some o'' ∧ o'' ≠ .lt ∧
      (o = .gt → o'' = .gt) := by
  obtain ⟨primitiveType, other, rfl, parsed, lowCmp⟩ := compareTypedValue_eq_some.1 below
  have otherLow : partialCmp other low = some o.swap := by rw [swap, lowCmp]; rfl
  have otherHigh := trans otherLow le (by cases o <;> simp_all [Ordering.swap]) notGt
  refine ⟨_, compareTypedValue_eq_some.2 ⟨primitiveType, other, rfl, parsed,
    by rw [swap, otherHigh]; rfl⟩, ?_, ?_⟩ <;> cases o <;> cases o' <;> simp_all [Ordering.swap, Ordering.then]

/-- An operand above a value stays above every value below it. -/
theorem compareTypedValue_downward (le : partialCmp low high = some o') (notGt : o' ≠ .gt)
    (above : compareTypedValue parseScalar high filterValue dataType = some o) (notGt' : o ≠ .gt) :
    ∃ o'', compareTypedValue parseScalar low filterValue dataType = some o'' ∧ o'' ≠ .gt ∧
      (o = .lt → o'' = .lt) := by
  obtain ⟨primitiveType, other, rfl, parsed, highCmp⟩ := compareTypedValue_eq_some.1 above
  refine ⟨_, compareTypedValue_eq_some.2 ⟨primitiveType, other, rfl, parsed,
    trans le highCmp notGt notGt'⟩, ?_, ?_⟩ <;> cases o <;> cases o' <;> simp_all [Ordering.then]

variable (le : partialCmp low high = some o') (notGt : o' ≠ .gt)
include le notGt

theorem typedMatch_isGT_upward (h : typedMatch parseScalar Ordering.isGT low filterValue dataType) :
    typedMatch parseScalar Ordering.isGT high filterValue dataType := by
  obtain ⟨o, below, isGt⟩ := typedMatch_eq_true.1 h
  have : o = .gt := by cases o <;> simp_all [Ordering.isGT]
  obtain ⟨o'', above, -, up⟩ := compareTypedValue_upward le notGt below (by simp [this])
  exact typedMatch_eq_true.2 ⟨o'', above, by simp [up this, Ordering.isGT]⟩

theorem typedMatch_isGE_upward (h : typedMatch parseScalar Ordering.isGE low filterValue dataType) :
    typedMatch parseScalar Ordering.isGE high filterValue dataType := by
  obtain ⟨o, below, isGe⟩ := typedMatch_eq_true.1 h
  obtain ⟨o'', above, notLt, -⟩ :=
    compareTypedValue_upward le notGt below (by cases o <;> simp_all [Ordering.isGE])
  exact typedMatch_eq_true.2 ⟨o'', above, by cases o'' <;> simp_all [Ordering.isGE]⟩

theorem typedMatch_isLT_downward (h : typedMatch parseScalar Ordering.isLT high filterValue dataType) :
    typedMatch parseScalar Ordering.isLT low filterValue dataType := by
  obtain ⟨o, above, isLt⟩ := typedMatch_eq_true.1 h
  have : o = .lt := by cases o <;> simp_all [Ordering.isLT]
  obtain ⟨o'', below, -, down⟩ := compareTypedValue_downward le notGt above (by simp [this])
  exact typedMatch_eq_true.2 ⟨o'', below, by simp [down this, Ordering.isLT]⟩

theorem typedMatch_isLE_downward (h : typedMatch parseScalar Ordering.isLE high filterValue dataType) :
    typedMatch parseScalar Ordering.isLE low filterValue dataType := by
  obtain ⟨o, above, isLe⟩ := typedMatch_eq_true.1 h
  obtain ⟨o'', below, notGt'', -⟩ :=
    compareTypedValue_downward le notGt above (by cases o <;> simp_all [Ordering.isLE])
  exact typedMatch_eq_true.2 ⟨o'', below, by cases o'' <;> simp_all [Ordering.isLE]⟩

end Closure

/-- Nulls sort first: on a primitive column a null partition value lies below every operand
that parses to a non-null scalar, so it matches every `<` and `<=` filter on such an operand and
no `>` or `>=` filter. -/
theorem matchPartition_null_first (parseScalar : PrimitiveType → String → Except KernelError Scalar)
    (serialize : Scalar → String) (key raw : String) (dt : PrimitiveType) (nullType : DataType)
    {operand : Scalar} (parsed : parseScalar dt raw = .ok operand) (notNull : operand.isNull = false) :
    matchPartition parseScalar serialize ⟨key, .lessThan raw⟩ ⟨key, .null nullType⟩ (.primitive dt) ∧
      matchPartition parseScalar serialize ⟨key, .lessThanOrEqual raw⟩ ⟨key, .null nullType⟩
        (.primitive dt) ∧
      ¬matchPartition parseScalar serialize ⟨key, .greaterThan raw⟩ ⟨key, .null nullType⟩
        (.primitive dt) ∧
      ¬matchPartition parseScalar serialize ⟨key, .greaterThanOrEqual raw⟩ ⟨key, .null nullType⟩
        (.primitive dt) := by
  have below : compareTypedValue parseScalar (.null nullType) raw (.primitive dt) = some .lt :=
    compareTypedValue_eq_some.2 ⟨dt, operand, rfl, parsed, by rw [null_left, notNull]; rfl⟩
  simp [matchPartition, typedMatch, below, Ordering.isLT, Ordering.isLE, Ordering.isGT,
    Ordering.isGE]

section Operators

/-- Equality and inequality with a non-empty operand never both match, and on every column but
a timestamp column exactly one does. -/
theorem equal_notEqual_exclusive (parseScalar : PrimitiveType → String → Except KernelError Scalar)
    (serialize : Scalar → String) (key value : String) (partition : DeltaTablePartition)
    (dataType : DataType) (sameKey : partition.key = key) (nonEmpty : value ≠ "") :
    ¬(matchPartition parseScalar serialize ⟨key, .equal value⟩ partition dataType ∧
        matchPartition parseScalar serialize ⟨key, .notEqual value⟩ partition dataType) ∧
      (dataType ≠ .primitive .timestamp →
        (matchPartition parseScalar serialize ⟨key, .equal value⟩ partition dataType ∨
          matchPartition parseScalar serialize ⟨key, .notEqual value⟩ partition dataType)) := by
  rw [matchPartition_equal sameKey nonEmpty, matchPartition_notEqual sameKey]
  by_cases timestamp : dataType = .primitive .timestamp
  · simp only [timestamp, if_true, ne_eq, not_true_eq_false, false_implies, and_true]
    rintro ⟨isEq, notEq⟩
    obtain ⟨o, h, test⟩ := typedMatch_eq_true.1 isEq
    obtain ⟨o', h', test'⟩ := typedMatch_eq_true.1 notEq
    cases h.symm.trans h'
    simp_all
  · cases serialize partition.value == value <;> simp [timestamp]

theorem equal_notEqual_exclusive_on_year :
    (⟨"year", .string "2020"⟩ : DeltaTablePartition).key = "year" ∧ "2021" ≠ "" ∧
      ¬(matchPartition (fun _ raw => .ok (.string raw)) (fun | .string text => text | _ => "null")
          ⟨"year", .equal "2021"⟩ ⟨"year", .string "2020"⟩ (.primitive .string) ∧
        matchPartition (fun _ raw => .ok (.string raw)) (fun | .string text => text | _ => "null")
          ⟨"year", .notEqual "2021"⟩ ⟨"year", .string "2020"⟩ (.primitive .string)) ∧
      ((.primitive .string : DataType) ≠ .primitive .timestamp →
        (matchPartition (fun _ raw => .ok (.string raw)) (fun | .string text => text | _ => "null")
            ⟨"year", .equal "2021"⟩ ⟨"year", .string "2020"⟩ (.primitive .string) ∨
          matchPartition (fun _ raw => .ok (.string raw)) (fun | .string text => text | _ => "null")
            ⟨"year", .notEqual "2021"⟩ ⟨"year", .string "2020"⟩ (.primitive .string))) :=
  ⟨rfl, by decide, equal_notEqual_exclusive _ _ _ _ _ _ rfl (by decide)⟩

/-- With the empty operand `Equal` is the null test while `NotEqual` compares text, so on a
string column, for a serializer that renders a string scalar as its text and a null as `null`,
neither matches a partition whose string value is empty, and both match a null partition. -/
theorem equal_notEqual_not_complementary :
    (matchPartition (fun _ raw => .error ⟨raw⟩) (fun | .string text => text | _ => "null")
        ⟨"year", .equal ""⟩ ⟨"year", .string ""⟩ (.primitive .string) = false ∧
      matchPartition (fun _ raw => .error ⟨raw⟩) (fun | .string text => text | _ => "null")
        ⟨"year", .notEqual ""⟩ ⟨"year", .string ""⟩ (.primitive .string) = false) ∧
    (matchPartition (fun _ raw => .error ⟨raw⟩) (fun | .string text => text | _ => "null")
        ⟨"year", .equal ""⟩ ⟨"year", .null (.primitive .string)⟩ (.primitive .string) = true ∧
      matchPartition (fun _ raw => .error ⟨raw⟩) (fun | .string text => text | _ => "null")
        ⟨"year", .notEqual ""⟩ ⟨"year", .null (.primitive .string)⟩ (.primitive .string) = true) := by
  decide

/-- Away from timestamp columns, `NotIn` is the conjunction of `NotEqual` over its operands, and,
away from the empty operand, `In` is the disjunction of `Equal`. -/
theorem in_notIn_decompose (parseScalar : PrimitiveType → String → Except KernelError Scalar)
    (serialize : Scalar → String) (key : String) (values : List String)
    (partition : DeltaTablePartition) (dataType : DataType) (sameKey : partition.key = key)
    (notTimestamp : dataType ≠ .primitive .timestamp) :
    ("" ∉ values →
      (matchPartition parseScalar serialize ⟨key, .«in» values⟩ partition dataType ↔
        ∃ value ∈ values,
          matchPartition parseScalar serialize ⟨key, .equal value⟩ partition dataType)) ∧
      (matchPartition parseScalar serialize ⟨key, .notIn values⟩ partition dataType ↔
        ∀ value ∈ values,
          matchPartition parseScalar serialize ⟨key, .notEqual value⟩ partition dataType) := by
  have notEqual : ∀ value,
      matchPartition parseScalar serialize ⟨key, .notEqual value⟩ partition dataType =
        !(serialize partition.value == value) := fun value => by
    rw [matchPartition_notEqual sameKey, if_neg notTimestamp]
  refine ⟨fun nonEmpty => ?_, by simp [matchPartition_notIn sameKey, notEqual, List.forall_mem_ne]⟩
  have equal : ∀ value ∈ values,
      matchPartition parseScalar serialize ⟨key, .equal value⟩ partition dataType =
        (serialize partition.value == value) := fun value mem => by
    rw [matchPartition_equal sameKey (fun h => nonEmpty (h ▸ mem)), if_neg notTimestamp]
  rw [matchPartition_in sameKey, List.elem_iff]
  constructor
  · intro mem
    exact ⟨_, mem, by rw [equal _ mem, beq_self_eq_true]⟩
  · rintro ⟨value, mem, h⟩
    rw [equal value mem, beq_iff_eq] at h
    exact h ▸ mem

theorem in_notIn_decompose_on_category :
    (⟨"category", .string "books"⟩ : DeltaTablePartition).key = "category" ∧
      (.primitive .string : DataType) ≠ .primitive .timestamp ∧
      "" ∉ ["books", "electronics"] ∧
      (matchPartition (fun _ raw => .ok (.string raw)) (fun | .string text => text | _ => "null")
          ⟨"category", .«in» ["books", "electronics"]⟩ ⟨"category", .string "books"⟩
          (.primitive .string) ↔
        ∃ value ∈ ["books", "electronics"],
          matchPartition (fun _ raw => .ok (.string raw)) (fun | .string text => text | _ => "null")
            ⟨"category", .equal value⟩ ⟨"category", .string "books"⟩ (.primitive .string)) ∧
      (matchPartition (fun _ raw => .ok (.string raw)) (fun | .string text => text | _ => "null")
          ⟨"category", .notIn ["books", "electronics"]⟩ ⟨"category", .string "books"⟩
          (.primitive .string) ↔
        ∀ value ∈ ["books", "electronics"],
          matchPartition (fun _ raw => .ok (.string raw)) (fun | .string text => text | _ => "null")
            ⟨"category", .notEqual value⟩ ⟨"category", .string "books"⟩ (.primitive .string)) :=
  have decomposed := in_notIn_decompose (fun _ raw => .ok (.string raw))
    (fun | .string text => text | _ => "null") "category" ["books", "electronics"]
    ⟨"category", .string "books"⟩ (.primitive .string) rfl (by decide)
  ⟨rfl, by decide, by decide, decomposed.1 (by decide), decomposed.2⟩

/-- `In` and `Equal`, and `NotIn` and `NotEqual`, part ways on a timestamp column, where the
lists compare text and the single operators parse the operand (here, an operand the timestamp
parser rejects); `In` and `Equal` also part at the empty operand, where `Equal` is the null
test. -/
theorem in_equal_diverge :
    (matchPartition (fun _ raw => .error ⟨raw⟩) (fun | .string text => text | _ => "null")
        ⟨"ts", .«in» ["x"]⟩ ⟨"ts", .string "x"⟩ (.primitive .timestamp) = true ∧
      matchPartition (fun _ raw => .error ⟨raw⟩) (fun | .string text => text | _ => "null")
        ⟨"ts", .equal "x"⟩ ⟨"ts", .string "x"⟩ (.primitive .timestamp) = false) ∧
    (matchPartition (fun _ raw => .error ⟨raw⟩) (fun | .string text => text | _ => "null")
        ⟨"ts", .notIn ["x"]⟩ ⟨"ts", .string "y"⟩ (.primitive .timestamp) = true ∧
      matchPartition (fun _ raw => .error ⟨raw⟩) (fun | .string text => text | _ => "null")
        ⟨"ts", .notEqual "x"⟩ ⟨"ts", .string "y"⟩ (.primitive .timestamp) = false) ∧
    (matchPartition (fun _ raw => .error ⟨raw⟩) (fun | .string text => text | _ => "null")
        ⟨"tag", .«in» [""]⟩ ⟨"tag", .string ""⟩ (.primitive .string) = true ∧
      matchPartition (fun _ raw => .error ⟨raw⟩) (fun | .string text => text | _ => "null")
        ⟨"tag", .equal ""⟩ ⟨"tag", .string ""⟩ (.primitive .string) = false) := by
  decide

end Operators

end PartitionFilter

namespace ScalarHelper

open PartitionFilter

/-- Ordering filters accept a range: `>` and `>=` keep every partition above one they keep, and
`<` and `<=` every partition below one they keep. -/
theorem matchPartition_ordering_closed
    (parseScalar : PrimitiveType → String → Except KernelError Scalar)
    (serialize : Scalar → String) (key value : String) (dataType : DataType)
    {low high : DeltaTablePartition} {o : Ordering} (sameKey : low.key = high.key)
    (le : partialCmp low.value high.value = some o) (notGt : o ≠ .gt) :
    (matchPartition parseScalar serialize ⟨key, .greaterThan value⟩ low dataType →
        matchPartition parseScalar serialize ⟨key, .greaterThan value⟩ high dataType) ∧
      (matchPartition parseScalar serialize ⟨key, .greaterThanOrEqual value⟩ low dataType →
        matchPartition parseScalar serialize ⟨key, .greaterThanOrEqual value⟩ high dataType) ∧
      (matchPartition parseScalar serialize ⟨key, .lessThan value⟩ high dataType →
        matchPartition parseScalar serialize ⟨key, .lessThan value⟩ low dataType) ∧
      (matchPartition parseScalar serialize ⟨key, .lessThanOrEqual value⟩ high dataType →
        matchPartition parseScalar serialize ⟨key, .lessThanOrEqual value⟩ low dataType) := by
  by_cases lowKey : low.key = key
  · have highKey : high.key = key := sameKey ▸ lowKey
    simp only [matchPartition_greaterThan lowKey, matchPartition_greaterThan highKey,
      matchPartition_greaterThanOrEqual lowKey, matchPartition_greaterThanOrEqual highKey,
      matchPartition_lessThan lowKey, matchPartition_lessThan highKey,
      matchPartition_lessThanOrEqual lowKey, matchPartition_lessThanOrEqual highKey]
    exact ⟨typedMatch_isGT_upward le notGt, typedMatch_isGE_upward le notGt,
      typedMatch_isLT_downward le notGt, typedMatch_isLE_downward le notGt⟩
  · have lowNe : key ≠ low.key := fun h => lowKey h.symm
    have highNe : key ≠ high.key := sameKey ▸ lowNe
    simp [matchPartition_of_key_ne lowNe, matchPartition_of_key_ne highNe]

/-- `ScalarHelper::partial_cmp` is a lawful partial order on scalars, reflexive but at NaN, and
the partitions that an ordering filter accepts are closed upwards (`>`, `>=`) or downwards
(`<`, `<=`) in it. -/
theorem partialCmp_lawful_order :
    (∀ a b, partialCmp b a = (partialCmp a b).map Ordering.swap) ∧
    (∀ a b c, (partialCmp a b = some .lt ∨ partialCmp a b = some .eq) →
      (partialCmp b c = some .lt ∨ partialCmp b c = some .eq) →
      (partialCmp a c = some .lt ∨ partialCmp a c = some .eq) ∧
        (partialCmp a b = some .lt ∨ partialCmp b c = some .lt → partialCmp a c = some .lt)) ∧
    (∀ a, ¬a.IsNaN → partialCmp a a = some .eq) ∧
    (∀ (parseScalar : PrimitiveType → String → Except KernelError Scalar)
      (serialize : Scalar → String) (key value : String) (dataType : DataType)
      (low high : DeltaTablePartition), low.key = high.key →
      (partialCmp low.value high.value = some .lt ∨ partialCmp low.value high.value = some .eq) →
      (matchPartition parseScalar serialize ⟨key, .greaterThan value⟩ low dataType →
          matchPartition parseScalar serialize ⟨key, .greaterThan value⟩ high dataType) ∧
        (matchPartition parseScalar serialize ⟨key, .greaterThanOrEqual value⟩ low dataType →
          matchPartition parseScalar serialize ⟨key, .greaterThanOrEqual value⟩ high dataType) ∧
        (matchPartition parseScalar serialize ⟨key, .lessThan value⟩ high dataType →
          matchPartition parseScalar serialize ⟨key, .lessThan value⟩ low dataType) ∧
        (matchPartition parseScalar serialize ⟨key, .lessThanOrEqual value⟩ high dataType →
          matchPartition parseScalar serialize ⟨key, .lessThanOrEqual value⟩ low dataType)) := by
  refine ⟨swap, fun a b c hab hbc => ?_, refl, fun parseScalar serialize key value dataType
    low high sameKey le => ?_⟩
  · rcases hab with hab | hab <;> rcases hbc with hbc | hbc <;>
      simp [hab, hbc, trans hab hbc (by decide) (by decide), Ordering.then]
  · rcases le with le | le <;>
      exact matchPartition_ordering_closed parseScalar serialize key value dataType sameKey le
        (by decide)

end ScalarHelper

end DeltaPartitions
