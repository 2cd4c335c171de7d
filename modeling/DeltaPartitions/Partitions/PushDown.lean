import DeltaPartitions.Partitions.KernelPredicate
import DeltaPartitions.Kernel.Evaluation
import Mathlib.Data.List.Nodup

/-!
# The pushed-down predicate against the local matcher

A table can be pruned twice over: locally, by `match_partition` on the partition values of
each file, or by handing the kernel the predicate that `to_kernel_predicate` compiles. We read
the compiled predicate in three-valued logic with the matcher's own comparator,
`ScalarHelper::partial_cmp`, over the row of a file's partition values, and keep the file when
the predicate is known to hold. When the filters do not compile, `to_kernel_predicate` returns
an error and the caller gets no predicate: such a list keeps no file, as the matcher keeps no
partition under a typed arm whose operand does not parse.

On the arms that compare typed values the two decide alike, filter by filter and for a whole
list of filters against the partition values of a file: the matcher's failure to parse an
operand is the compiler's error, and its comparison is the leaf's, also where the builder
writes `!=`, `<=` and `>=` as negations. On the arms that compare serialized text they decide
alike exactly where typed equality and textual equality agree on the operands, and the null
test `Equal("")` agrees with the compiled equality when the parser reads the empty operand as a
null. Both hold on a string column whose parser reads texts as the kernel does, so there a file
whose partition values are non-empty strings is pruned alike by every list of filters, whatever
their operators. A Hive segment `key=` gives the empty string, and there the two part:
`NotEqual("")` compiles to the negation of a comparison with a null, which keeps the file, while
the matcher compares texts and rejects it.
-/

namespace DeltaPartitions

open PartitionFilter ScalarHelper

/-- Pruning by a compiled predicate: whether the predicate is known to hold on the row under
`ScalarHelper::partial_cmp`. A compile error leaves the caller with no predicate and keeps no
file. -/
def pushDownMatches (compiled : Except DeltaTableError Predicate)
    (row : List String → Option Scalar) : Bool :=
  match compiled with
  | .ok predicate => predicate.holds partialCmp row
  | .error _ => false

/-- The row of a file's partition values: the column `[key]` holds the value of the partition
with that key. -/
def partitionRow (partitions : List DeltaTablePartition) : List String → Option Scalar
  | [key] => (partitions.find? (·.key == key)).map (·.value)
  | _ => none

section Row

variable {partitions : List DeltaTablePartition}

theorem partitionRow_of_mem (nodup : (partitions.map (·.key)).Nodup)
    {partition : DeltaTablePartition} (mem : partition ∈ partitions) :
    partitionRow partitions [partition.key] = some partition.value := by
  induction partitions with
  | nil => cases mem
  | cons first rest ih =>
      rw [List.map_cons, List.nodup_cons] at nodup
      rcases List.mem_cons.1 mem with rfl | mem
      · simp [partitionRow]
      · have ne : first.key ≠ partition.key := fun same =>
          nodup.1 (same ▸ List.mem_map_of_mem _ mem)
        simpa [partitionRow, List.find?_cons, ne] using ih nodup.2 mem

theorem partitionRow_of_not_mem {key : String} (absent : ∀ partition ∈ partitions, partition.key ≠ key) :
    partitionRow partitions [key] = none := by
  simpa [partitionRow, List.find?_eq_none] using absent

end Row

variable {parseScalar : PrimitiveType → String → Except KernelError Scalar}
  {serialize : Scalar → String}

section Leaves

variable {dt : PrimitiveType} {raw : String} {scalar value : Scalar}
  {row : List String → Option Scalar} {name : List String}

theorem typedMatch_of_parsed {test : Ordering → Bool} (parsed : parseScalar dt raw = .ok scalar) :
    typedMatch parseScalar test value raw (.primitive dt) =
      ((partialCmp value scalar).map test).getD false := by
  simp [typedMatch, compareTypedValue, parsed, Except.toOption]

variable (lookup : row name = some value)
  (agree : ∃ o, partialCmp value scalar = some o ∧ (o = .eq ↔ serialize value = raw))
include lookup agree

/-- Where typed and textual equality agree on an operand, its equality leaf decides as the
textual comparison of the matcher... -/
theorem holds_eq_of_agree :
    ((Expression.column name).eq scalar).holds partialCmp row = (serialize value == raw) := by
  obtain ⟨o, ordered, sameEq⟩ := agree
  rw [(Expression.holds_builders partialCmp scalar lookup).1, ordered]
  by_cases same : serialize value = raw <;> cases o <;>
    simp_all [Ordering.isEq, beq_eq_false_iff_ne]

/-- ... and its negation as the negated one. -/
theorem holds_ne_of_agree :
    ((Expression.column name).ne scalar).holds partialCmp row = !(serialize value == raw) := by
  obtain ⟨o, ordered, sameEq⟩ := agree
  rw [(Expression.holds_builders partialCmp scalar lookup).2.1, ordered]
  by_cases same : serialize value = raw <;> cases o <;>
    simp_all [Ordering.isEq, beq_eq_false_iff_ne]

end Leaves

/-! ### The arms that compare typed values -/

section Typed

variable {filter : PartitionFilter} {tableSchema : StructType} {field : StructField}
  {dt : PrimitiveType} {row : List String → Option Scalar}

/-- A filter whose arm compares typed values compiles to one leaf on its column, which fails
on a row without that column. -/
theorem pushDownMatches_of_missing (typed : filter.value.comparesTyped (.primitive dt))
    (missing : row [filter.key] = none) :
    pushDownMatches (filterToKernelPredicate parseScalar filter tableSchema) row = false := by
  cases compiled : filterToKernelPredicate parseScalar filter tableSchema with
  | error => rfl
  | ok predicate =>
      obtain ⟨_, _, _, _, compiles⟩ := filterToKernelPredicate_eq_ok_iff.1 compiled
      obtain ⟨key, value⟩ := filter
      cases value <;> simp only [CompilesTo] at compiles
      case «in» | notIn => cases typed
      all_goals
        obtain ⟨scalar, -, rfl⟩ := compiles
        simp only [pushDownMatches, Expression.holds_builders_of_missing partialCmp scalar missing]

variable (found : tableSchema.field filter.key = some field)
  (primitive : field.dataType = .primitive dt) (typed : filter.value.comparesTyped (.primitive dt))
include found primitive typed

/-- On the arms that compare typed values, the matcher decides a partition as the pushed-down
predicate decides the row holding its value: an operand that does not parse is the compiler's
error and a non-match, and otherwise the matcher's comparison is the leaf's. -/
theorem pushDownMatches_filterToKernelPredicate {partition : DeltaTablePartition}
    (lookup : row [filter.key] = some partition.value) (sameKey : partition.key = filter.key) :
    pushDownMatches (filterToKernelPredicate parseScalar filter tableSchema) row =
      matchPartition parseScalar serialize filter partition (.primitive dt) := by
  cases compiled : filterToKernelPredicate parseScalar filter tableSchema with
  | error e =>
      obtain ⟨operand, mem, source, failed⟩ := exists_rejected_operand found primitive compiled
      refine (Bool.eq_false_iff.2 fun matched => ?_).symm
      obtain ⟨o, compared⟩ := compareTypedValue_of_matchPartition typed matched operand mem
      obtain ⟨_, other, ⟨⟩, parsed, -⟩ := compareTypedValue_eq_some.1 compared
      cases failed.symm.trans parsed
  | ok predicate =>
      obtain ⟨field', dt', found', primitive', compiles⟩ :=
        filterToKernelPredicate_eq_ok_iff.1 compiled
      cases found.symm.trans found'
      cases primitive.symm.trans primitive'
      obtain ⟨key, value⟩ := filter
      cases value with
      | equal raw =>
          simp only [PartitionValue.comparesTyped, Bool.and_eq_true, beq_iff_eq, bne_iff_ne] at typed
          obtain ⟨scalar, parsed, rfl⟩ := compiles
          rw [matchPartition_equal sameKey typed.2, if_pos typed.1, typedMatch_of_parsed parsed]
          exact (Expression.holds_builders partialCmp scalar lookup).1
      | notEqual raw =>
          simp only [PartitionValue.comparesTyped, beq_iff_eq] at typed
          obtain ⟨scalar, parsed, rfl⟩ := compiles
          rw [matchPartition_notEqual sameKey, if_pos typed, typedMatch_of_parsed parsed]
          exact (Expression.holds_builders partialCmp scalar lookup).2.1
      | greaterThan raw | greaterThanOrEqual raw | lessThan raw | lessThanOrEqual raw =>
          obtain ⟨scalar, parsed, rfl⟩ := compiles
          simp only [pushDownMatches, matchPartition_greaterThan sameKey,
            matchPartition_greaterThanOrEqual sameKey, matchPartition_lessThan sameKey,
            matchPartition_lessThanOrEqual sameKey, typedMatch_of_parsed parsed,
            Expression.holds_builders partialCmp scalar lookup]
      | «in» | notIn => cases typed

end Typed

/-! ### The arms that compare serialized text -/

section Text

variable {dt : PrimitiveType} {row : List String → Option Scalar} {name : List String}
  {value : Scalar}

/-- The disjunction of the equality leaves of an `In` list decides as membership of the
serialized value, where typed and textual equality agree on each operand. -/
theorem any_holds_eq_eq_contains {raws : List String} {scalars : List Scalar}
    (parsed : List.Forall₂ (fun raw scalar => parseScalar dt raw = .ok scalar) raws scalars)
    (agree : ∀ raw ∈ raws, ∀ scalar, parseScalar dt raw = .ok scalar →
      ∃ o, partialCmp value scalar = some o ∧ (o = .eq ↔ serialize value = raw))
    (lookup : row name = some value) :
    (scalars.map (Expression.column name).eq).any (Predicate.holds partialCmp row) =
      raws.contains (serialize value) := by
  induction parsed with
  | nil => rfl
  | @cons raw scalar raws scalars head _ ih =>
      obtain ⟨headAgrees, tailAgree⟩ := List.forall_mem_cons.1 agree
      simp only [List.map_cons, List.any_cons, List.contains_cons, ih tailAgree]
      rw [holds_eq_of_agree lookup (headAgrees scalar head)]

/-- The conjunction of the inequality leaves of a `NotIn` list decides as non-membership. -/
theorem all_holds_ne_eq_not_contains {raws : List String} {scalars : List Scalar}
    (parsed : List.Forall₂ (fun raw scalar => parseScalar dt raw = .ok scalar) raws scalars)
    (agree : ∀ raw ∈ raws, ∀ scalar, parseScalar dt raw = .ok scalar →
      ∃ o, partialCmp value scalar = some o ∧ (o = .eq ↔ serialize value = raw))
    (lookup : row name = some value) :
    (scalars.map (Expression.column name).ne).all (Predicate.holds partialCmp row) =
      !raws.contains (serialize value) := by
  induction parsed with
  | nil => rfl
  | @cons raw scalar raws scalars head _ ih =>
      obtain ⟨headAgrees, tailAgree⟩ := List.forall_mem_cons.1 agree
      simp only [List.map_cons, List.all_cons, List.contains_cons, ih tailAgree, Bool.not_or]
      rw [holds_ne_of_agree lookup (headAgrees scalar head)]

variable {key : String} {tableSchema : StructType} {field : StructField}
  {partition : DeltaTablePartition}

/-- On the arms that compare serialized text, a filter that compiles decides as the matcher
wherever typed equality with each parsed operand agrees with textual equality with the
operand: the compiler parses where the matcher reads text, and nothing else differs. -/
theorem pushDownMatches_filterToKernelPredicate_text {filterValue : PartitionValue}
    (found : tableSchema.field key = some field) (primitive : field.dataType = .primitive dt)
    (lookup : row [key] = some partition.value) (sameKey : partition.key = key)
    (untyped : filterValue.comparesTyped (.primitive dt) = false)
    (notNullTest : filterValue ≠ .equal "")
    (agree : ∀ raw ∈ filterValue.operands, ∀ scalar, parseScalar dt raw = .ok scalar →
      ∃ o, partialCmp partition.value scalar = some o ∧
        (o = .eq ↔ serialize partition.value = raw))
    (compiles : ∃ predicate,
      filterToKernelPredicate parseScalar ⟨key, filterValue⟩ tableSchema = .ok predicate) :
    pushDownMatches (filterToKernelPredicate parseScalar ⟨key, filterValue⟩ tableSchema) row =
      matchPartition parseScalar serialize ⟨key, filterValue⟩ partition (.primitive dt) := by
  obtain ⟨predicate, compiled⟩ := compiles
  obtain ⟨field', dt', found', primitive', compilesTo⟩ :=
    filterToKernelPredicate_eq_ok_iff.1 compiled
  cases found.symm.trans found'
  cases primitive.symm.trans primitive'
  rw [compiled, pushDownMatches]
  cases filterValue with
  | equal raw =>
      have nonEmpty : raw ≠ "" := fun empty => notNullTest (empty ▸ rfl)
      have notTimestamp : DataType.primitive dt ≠ .primitive .timestamp := by
        simpa [PartitionValue.comparesTyped, nonEmpty] using untyped
      obtain ⟨scalar, parsed, rfl⟩ := compilesTo
      rw [matchPartition_equal sameKey nonEmpty, if_neg notTimestamp]
      exact holds_eq_of_agree lookup (agree raw (List.mem_singleton_self _) scalar parsed)
  | notEqual raw =>
      have notTimestamp : DataType.primitive dt ≠ .primitive .timestamp := by
        simpa [PartitionValue.comparesTyped] using untyped
      obtain ⟨scalar, parsed, rfl⟩ := compilesTo
      rw [matchPartition_notEqual sameKey, if_neg notTimestamp]
      exact holds_ne_of_agree lookup (agree raw (List.mem_singleton_self _) scalar parsed)
  | greaterThan | greaterThanOrEqual | lessThan | lessThanOrEqual => cases untyped
  | «in» raws =>
      obtain ⟨scalars, parsed, rfl⟩ := compilesTo
      rw [matchPartition_in sameKey, Predicate.holds_or]
      exact any_holds_eq_eq_contains parsed agree lookup
  | notIn raws =>
      obtain ⟨scalars, parsed, rfl⟩ := compilesTo
      rw [matchPartition_notIn sameKey, Predicate.holds_and]
      exact all_holds_ne_eq_not_contains parsed agree lookup

/-- The null test `Equal("")` decides as its compiled equality when the parser reads the empty
operand as a null, on every column type: a null is equal to every null and below every other
scalar. -/
theorem pushDownMatches_equal_empty (found : tableSchema.field key = some field)
    (primitive : field.dataType = .primitive dt) (lookup : row [key] = some partition.value)
    (sameKey : partition.key = key)
    (emptyIsNull : ∃ nullType, parseScalar dt "" = .ok (.null nullType)) :
    pushDownMatches (filterToKernelPredicate parseScalar ⟨key, .equal ""⟩ tableSchema) row =
      matchPartition parseScalar serialize ⟨key, .equal ""⟩ partition (.primitive dt) := by
  obtain ⟨nullType, parsed⟩ := emptyIsNull
  have compiled : filterToKernelPredicate parseScalar ⟨key, .equal ""⟩ tableSchema =
      .ok ((Expression.column [key]).eq (.null nullType)) :=
    filterToKernelPredicate_eq_ok_iff.2 ⟨field, dt, found, primitive, _, parsed, rfl⟩
  rw [compiled, pushDownMatches, matchPartition_equal_empty sameKey,
    (Expression.holds_builders partialCmp _ lookup).1]
  cases isNull : partition.value.isNull
  · rw [null_right isNull]
    rfl
  · rw [of_isNull isNull]
    rfl

/-- A filter on a primitive root field compiles whenever each of its operands parses. -/
theorem exists_filterToKernelPredicate_eq_ok (found : tableSchema.field key = some field)
    (primitive : field.dataType = .primitive dt) {filterValue : PartitionValue}
    (parses : ∀ raw ∈ filterValue.operands, ∃ scalar, parseScalar dt raw = .ok scalar) :
    ∃ predicate, filterToKernelPredicate parseScalar ⟨key, filterValue⟩ tableSchema = .ok predicate := by
  cases compiled : filterToKernelPredicate parseScalar ⟨key, filterValue⟩ tableSchema with
  | ok predicate => exact ⟨predicate, rfl⟩
  | error e =>
      obtain ⟨operand, mem, source, failed⟩ := exists_rejected_operand found primitive compiled
      obtain ⟨scalar, parsed⟩ := parses operand mem
      cases failed.symm.trans parsed

/-- On a string column whose parser reads the empty text as a null and any other text as
itself, as the kernel's does, and whose serializer renders a string as its text, every filter
decides a partition holding a non-empty string as its compiled predicate does: typed and
textual equality agree on such a value, and the empty operand, a null, equals none. -/
theorem pushDownMatches_filterToKernelPredicate_string {text : String}
    (found : tableSchema.field key = some field) (primitive : field.dataType = .primitive .string)
    (lookup : row [key] = some (.string text)) (nonEmpty : text ≠ "")
    (readsText : ∀ raw, raw ≠ "" → parseScalar .string raw = .ok (.string raw))
    (emptyIsNull : ∃ nullType, parseScalar .string "" = .ok (.null nullType))
    (rendersText : serialize (.string text) = text) (filterValue : PartitionValue) :
    pushDownMatches (filterToKernelPredicate parseScalar ⟨key, filterValue⟩ tableSchema) row =
      matchPartition parseScalar serialize ⟨key, filterValue⟩ ⟨key, .string text⟩
        (.primitive .string) := by
  by_cases nullTest : filterValue = .equal ""
  · subst nullTest
    exact pushDownMatches_equal_empty found primitive lookup rfl emptyIsNull
  cases typed : filterValue.comparesTyped (.primitive .string) with
  | true => exact pushDownMatches_filterToKernelPredicate found primitive typed lookup rfl
  | false =>
      have agree : ∀ raw ∈ filterValue.operands, ∀ scalar, parseScalar .string raw = .ok scalar →
          ∃ o, partialCmp (.string text) scalar = some o ∧
            (o = .eq ↔ serialize (.string text) = raw) := by
        intro raw _ scalar parsed
        rw [rendersText]
        by_cases empty : raw = ""
        · obtain ⟨nullType, parsedNull⟩ := emptyIsNull
          subst empty
          cases parsed.symm.trans parsedNull
          have notNull : (Scalar.string text).isNull = false := rfl
          exact ⟨.gt, null_right notNull _, by simp [nonEmpty]⟩
        · cases parsed.symm.trans (readsText raw empty)
          exact ⟨_, rfl, compare_eq_iff_eq⟩
      have parses : ∀ raw ∈ filterValue.operands, ∃ scalar, parseScalar .string raw = .ok scalar :=
        fun raw _ => if empty : raw = "" then
          empty ▸ emptyIsNull.elim fun nullType parsed => ⟨.null nullType, parsed⟩
          else ⟨_, readsText raw empty⟩
      exact pushDownMatches_filterToKernelPredicate_text found primitive lookup rfl typed nullTest
        agree (exists_filterToKernelPredicate_eq_ok found primitive parses)

end Text

/-! ### Lists of filters and the partition values of a file -/

/-- Each element of a list has a partner exactly when the list has a list of partners. -/
theorem exists_forall₂_iff {α β : Type} {R : α → β → Prop} :
    ∀ {xs : List α}, (∃ ys, List.Forall₂ R xs ys) ↔ ∀ x ∈ xs, ∃ y, R x y
  | [] => by simp
  | x :: xs => by
      simp only [List.forall₂_cons_left_iff, List.forall_mem_cons, ← exists_forall₂_iff]
      exact ⟨fun ⟨_, y, ys, head, each, _⟩ => ⟨⟨y, head⟩, ys, each⟩,
        fun ⟨⟨y, head⟩, ys, each⟩ => ⟨_, y, ys, head, each, rfl⟩⟩

section Files

variable {filters : List PartitionFilter} {tableSchema : StructType}
  {row : List String → Option Scalar}

/-- The compiled conjunction keeps a row exactly when the compiled predicate of every filter
keeps it: a filter that does not compile fails the whole list, as it fails alone. -/
theorem pushDownMatches_toKernelPredicate_iff :
    pushDownMatches (toKernelPredicate parseScalar filters tableSchema) row ↔
      ∀ filter ∈ filters,
        pushDownMatches (filterToKernelPredicate parseScalar filter tableSchema) row := by
  cases compiled : toKernelPredicate parseScalar filters tableSchema with
  | error e =>
      obtain ⟨pre, filter, post, rfl, -, failed⟩ := toKernelPredicate_eq_error_iff.1 compiled
      refine iff_of_false (by simp [pushDownMatches]) fun kept => ?_
      simpa [pushDownMatches, failed] using kept filter (by simp)
  | ok predicate =>
      obtain ⟨predicates, each, rfl⟩ := toKernelPredicate_eq_ok_iff.1 compiled
      clear compiled
      simp only [pushDownMatches, Predicate.holds_and, List.all_eq_true]
      induction each with
      | nil => simp
      | cons head _ ih => simp [pushDownMatches, head, ih]

/-- A list of filters compiles exactly when each of its filters does. -/
theorem toKernelPredicate_compiles_iff :
    (∃ predicate, toKernelPredicate parseScalar filters tableSchema = .ok predicate) ↔
      ∀ filter ∈ filters,
        ∃ predicate, filterToKernelPredicate parseScalar filter tableSchema = .ok predicate := by
  rw [← exists_forall₂_iff]
  constructor
  · rintro ⟨_, compiled⟩
    obtain ⟨predicates, each, -⟩ := toKernelPredicate_eq_ok_iff.1 compiled
    exact ⟨predicates, each⟩
  · rintro ⟨predicates, each⟩
    exact ⟨_, toKernelPredicate_eq_ok_iff.2 ⟨predicates, each, rfl⟩⟩

/-- Two lists of filters at once compile exactly when each list compiles, and prune as the two
lists one after the other: a file is kept by the concatenation exactly when each list keeps
it. -/
theorem pushDownMatches_toKernelPredicate_append (filters₁ filters₂ : List PartitionFilter) :
    ((∃ predicate, toKernelPredicate parseScalar (filters₁ ++ filters₂) tableSchema = .ok predicate) ↔
        (∃ predicate, toKernelPredicate parseScalar filters₁ tableSchema = .ok predicate) ∧
          ∃ predicate, toKernelPredicate parseScalar filters₂ tableSchema = .ok predicate) ∧
      pushDownMatches (toKernelPredicate parseScalar (filters₁ ++ filters₂) tableSchema) row =
        (pushDownMatches (toKernelPredicate parseScalar filters₁ tableSchema) row &&
          pushDownMatches (toKernelPredicate parseScalar filters₂ tableSchema) row) := by
  constructor
  · simp only [toKernelPredicate_compiles_iff, List.forall_mem_append]
  · rw [Bool.eq_iff_iff, Bool.and_eq_true, pushDownMatches_toKernelPredicate_iff,
      pushDownMatches_toKernelPredicate_iff, pushDownMatches_toKernelPredicate_iff,
      List.forall_mem_append]

/-- The order of the filters decides which error `to_kernel_predicate` reports, but neither
whether the list compiles nor what its predicate prunes. -/
theorem pushDownMatches_toKernelPredicate_perm {filters₁ filters₂ : List PartitionFilter}
    (perm : filters₁.Perm filters₂) :
    ((∃ predicate, toKernelPredicate parseScalar filters₁ tableSchema = .ok predicate) ↔
        ∃ predicate, toKernelPredicate parseScalar filters₂ tableSchema = .ok predicate) ∧
      pushDownMatches (toKernelPredicate parseScalar filters₁ tableSchema) row =
        pushDownMatches (toKernelPredicate parseScalar filters₂ tableSchema) row := by
  constructor
  · rw [toKernelPredicate_compiles_iff, toKernelPredicate_compiles_iff]
    exact forall_congr' fun filter => imp_congr_left perm.mem_iff
  · rw [Bool.eq_iff_iff, pushDownMatches_toKernelPredicate_iff,
      pushDownMatches_toKernelPredicate_iff]
    exact forall_congr' fun filter => imp_congr_left perm.mem_iff

theorem pushDownMatches_toKernelPredicate_perm_on_xy :
    List.Perm [(⟨"x", .greaterThan "3"⟩ : PartitionFilter), ⟨"y", .lessThan "5"⟩]
        [⟨"y", .lessThan "5"⟩, ⟨"x", .greaterThan "3"⟩] ∧
      ((∃ predicate, toKernelPredicate (fun _ raw => .ok (.integer (if raw = "5" then 5 else 3)))
          [⟨"x", .greaterThan "3"⟩, ⟨"y", .lessThan "5"⟩]
          ⟨[⟨"x", .primitive .integer⟩, ⟨"y", .primitive .integer⟩], by decide⟩ = .ok predicate) ↔
        ∃ predicate, toKernelPredicate (fun _ raw => .ok (.integer (if raw = "5" then 5 else 3)))
          [⟨"y", .lessThan "5"⟩, ⟨"x", .greaterThan "3"⟩]
          ⟨[⟨"x", .primitive .integer⟩, ⟨"y", .primitive .integer⟩], by decide⟩ = .ok predicate) ∧
      pushDownMatches (toKernelPredicate (fun _ raw => .ok (.integer (if raw = "5" then 5 else 3)))
          [⟨"x", .greaterThan "3"⟩, ⟨"y", .lessThan "5"⟩]
          ⟨[⟨"x", .primitive .integer⟩, ⟨"y", .primitive .integer⟩], by decide⟩)
          (partitionRow [⟨"x", .integer 5⟩, ⟨"y", .integer 3⟩]) =
        pushDownMatches (toKernelPredicate (fun _ raw => .ok (.integer (if raw = "5" then 5 else 3)))
          [⟨"y", .lessThan "5"⟩, ⟨"x", .greaterThan "3"⟩]
          ⟨[⟨"x", .primitive .integer⟩, ⟨"y", .primitive .integer⟩], by decide⟩)
          (partitionRow [⟨"x", .integer 5⟩, ⟨"y", .integer 3⟩]) :=
  ⟨List.Perm.swap _ _ _, pushDownMatches_toKernelPredicate_perm (List.Perm.swap _ _ _)⟩

variable {partitions : List DeltaTablePartition} {partitionColDataTypes : String → Option DataType}

/-- With one partition per key, `match_partitions` answers as `match_partition` on the partition
with the filter's key. -/
theorem matchPartitions_eq_of_mem {filter : PartitionFilter} {partition : DeltaTablePartition}
    {dataType : DataType} (nodup : (partitions.map (·.key)).Nodup)
    (declared : partitionColDataTypes filter.key = some dataType) (mem : partition ∈ partitions)
    (sameKey : partition.key = filter.key) :
    matchPartitions parseScalar serialize filter partitions partitionColDataTypes =
      some (matchPartition parseScalar serialize filter partition dataType) := by
  rw [matchPartitions, declared, Option.map_some', Option.some_inj, Bool.eq_iff_iff,
    List.any_eq_true]
  refine ⟨fun ⟨other, otherMem, matched⟩ => ?_, fun matched => ⟨partition, mem, matched⟩⟩
  have otherKey := key_eq_of_matchPartition matched
  rwa [List.inj_on_of_nodup_map nodup otherMem mem (otherKey.trans sameKey.symm)] at matched

/-- With one partition per key, `match_partitions` on a filter whose arm compares typed values
answers as the compiled filter on the row of the file. -/
theorem matchPartitions_eq_pushDownMatches {filter : PartitionFilter} {field : StructField}
    {dt : PrimitiveType} (nodup : (partitions.map (·.key)).Nodup)
    (found : tableSchema.field filter.key = some field) (primitive : field.dataType = .primitive dt)
    (declared : partitionColDataTypes filter.key = some (.primitive dt))
    (typed : filter.value.comparesTyped (.primitive dt)) :
    matchPartitions parseScalar serialize filter partitions partitionColDataTypes =
      some (pushDownMatches (filterToKernelPredicate parseScalar filter tableSchema)
        (partitionRow partitions)) := by
  by_cases present : ∃ partition ∈ partitions, partition.key = filter.key
  · obtain ⟨partition, mem, sameKey⟩ := present
    rw [matchPartitions_eq_of_mem nodup declared mem sameKey,
      pushDownMatches_filterToKernelPredicate found primitive typed
        (sameKey ▸ partitionRow_of_mem nodup mem) sameKey]
  · push_neg at present
    rw [matchPartitions, declared, Option.map_some',
      pushDownMatches_of_missing typed (partitionRow_of_not_mem present)]
    exact congrArg some (List.any_eq_false.2 fun partition mem => by
      simp [matchPartition_of_key_ne (present partition mem).symm])

/-- With one partition per key, a file whose partitions match each filter of a list locally,
where every filter compares typed values at its column's declared type, is exactly a file whose
row the compiled conjunction keeps. -/
theorem pushDownMatches_toKernelPredicate (nodup : (partitions.map (·.key)).Nodup)
    (typedFilters : ∀ filter ∈ filters, ∃ field dt, tableSchema.field filter.key = some field ∧
      field.dataType = .primitive dt ∧ partitionColDataTypes filter.key = some (.primitive dt) ∧
      filter.value.comparesTyped (.primitive dt)) :
    pushDownMatches (toKernelPredicate parseScalar filters tableSchema) (partitionRow partitions) ↔
      ∀ filter ∈ filters,
        matchPartitions parseScalar serialize filter partitions partitionColDataTypes = some true := by
  rw [pushDownMatches_toKernelPredicate_iff]
  refine forall₂_congr fun filter mem => ?_
  obtain ⟨field, dt, found, primitive, declared, typed⟩ := typedFilters filter mem
  rw [matchPartitions_eq_pushDownMatches nodup found primitive declared typed, Option.some_inj]

theorem pushDownMatches_toKernelPredicate_on_xy :
    ([(⟨"x", .integer 5⟩ : DeltaTablePartition), ⟨"y", .integer 3⟩].map (·.key)).Nodup ∧
      (∀ filter ∈ [(⟨"x", .greaterThan "3"⟩ : PartitionFilter), ⟨"y", .lessThanOrEqual "5"⟩],
        ∃ field dt, (⟨[⟨"x", .primitive .integer⟩, ⟨"y", .primitive .integer⟩], by decide⟩ :
          StructType).field filter.key = some field ∧
        field.dataType = .primitive dt ∧
        (fun key => if key = "x" ∨ key = "y" then some (.primitive .integer) else none :
          String → Option DataType) filter.key = some (.primitive dt) ∧
        filter.value.comparesTyped (.primitive dt)) ∧
      (pushDownMatches (toKernelPredicate (fun _ raw => .ok (.integer (if raw = "5" then 5 else 3)))
          [⟨"x", .greaterThan "3"⟩, ⟨"y", .lessThanOrEqual "5"⟩]
          ⟨[⟨"x", .primitive .integer⟩, ⟨"y", .primitive .integer⟩], by decide⟩)
          (partitionRow [⟨"x", .integer 5⟩, ⟨"y", .integer 3⟩]) ↔
        ∀ filter ∈ [(⟨"x", .greaterThan "3"⟩ : PartitionFilter), ⟨"y", .lessThanOrEqual "5"⟩],
          matchPartitions (fun _ raw => .ok (.integer (if raw = "5" then 5 else 3)))
            (fun | .string text => text | _ => "null") filter [⟨"x", .integer 5⟩, ⟨"y", .integer 3⟩]
            (fun key => if key = "x" ∨ key = "y" then some (.primitive .integer) else none) =
            some true) := by
  refine ⟨by decide, ?typed, pushDownMatches_toKernelPredicate (by decide) ?typed⟩
  case typed =>
    intro filter mem
    simp only [List.mem_cons, List.mem_singleton, List.not_mem_nil, or_false] at mem
    rcases mem with rfl | rfl <;> exact ⟨_, _, rfl, rfl, rfl, rfl⟩

/-- On string columns, with the kernel's reading of texts and a serializer that renders a
string as its text, a file whose partitions hold non-empty strings, one per key and one for
every filter's key, matches every filter of a list locally exactly when the compiled
conjunction keeps its row, whatever the filters' operators. The empty string, which a Hive
segment `key=` gives, is excluded: there `NotEqual("")` keeps the row and rejects the
partition. -/
theorem pushDownMatches_toKernelPredicate_string (nodup : (partitions.map (·.key)).Nodup)
    (texts : ∀ partition ∈ partitions, ∃ text, text ≠ "" ∧ partition.value = .string text)
    (present : ∀ filter ∈ filters, ∃ partition ∈ partitions, partition.key = filter.key)
    (stringFilters : ∀ filter ∈ filters, ∃ field, tableSchema.field filter.key = some field ∧
      field.dataType = .primitive .string ∧ partitionColDataTypes filter.key = some (.primitive .string))
    (readsText : ∀ raw, raw ≠ "" → parseScalar .string raw = .ok (.string raw))
    (emptyIsNull : ∃ nullType, parseScalar .string "" = .ok (.null nullType))
    (rendersText : ∀ text, serialize (.string text) = text) :
    pushDownMatches (toKernelPredicate parseScalar filters tableSchema) (partitionRow partitions) ↔
      ∀ filter ∈ filters,
        matchPartitions parseScalar serialize filter partitions partitionColDataTypes = some true := by
  rw [pushDownMatches_toKernelPredicate_iff]
  refine forall₂_congr fun filter mem => ?_
  obtain ⟨field, found, primitive, declared⟩ := stringFilters filter mem
  obtain ⟨⟨key, value⟩, partitionMem, sameKey⟩ := present filter mem
  obtain ⟨text, nonEmpty, rfl⟩ := texts _ partitionMem
  have lookup := partitionRow_of_mem nodup partitionMem
  subst sameKey
  rw [matchPartitions_eq_of_mem nodup declared partitionMem rfl, Option.some_inj,
    pushDownMatches_filterToKernelPredicate_string found primitive lookup nonEmpty readsText
      emptyIsNull (rendersText text)]

theorem pushDownMatches_toKernelPredicate_string_on_category :
    ([(⟨"category", .string "books"⟩ : DeltaTablePartition), ⟨"region", .string "eu"⟩].map
        (·.key)).Nodup ∧
      (∀ partition ∈ [(⟨"category", .string "books"⟩ : DeltaTablePartition),
        ⟨"region", .string "eu"⟩], ∃ text, text ≠ "" ∧ partition.value = .string text) ∧
      (∀ filter ∈ [(⟨"category", .notIn ["toys", ""]⟩ : PartitionFilter), ⟨"region", .equal "eu"⟩],
        ∃ partition ∈ [(⟨"category", .string "books"⟩ : DeltaTablePartition),
          ⟨"region", .string "eu"⟩], partition.key = filter.key) ∧
      (∀ filter ∈ [(⟨"category", .notIn ["toys", ""]⟩ : PartitionFilter), ⟨"region", .equal "eu"⟩],
        ∃ field, (⟨[⟨"category", .primitive .string⟩, ⟨"region", .primitive .string⟩],
          by decide⟩ : StructType).field filter.key = some field ∧
        field.dataType = .primitive .string ∧
        (fun key => if key = "category" ∨ key = "region" then some (.primitive .string) else none :
          String → Option DataType) filter.key = some (.primitive .string)) ∧
      (∀ raw, raw ≠ "" →
        (fun _ raw => if raw = "" then .ok (.null (.primitive .string)) else .ok (.string raw) :
          PrimitiveType → String → Except KernelError Scalar) .string raw = .ok (.string raw)) ∧
      (∃ nullType,
        (fun _ raw => if raw = "" then .ok (.null (.primitive .string)) else .ok (.string raw) :
          PrimitiveType → String → Except KernelError Scalar) .string "" = .ok (.null nullType)) ∧
      (∀ text, (fun | .string text => text | _ => "null" : Scalar → String) (.string text) = text) ∧
      (pushDownMatches (toKernelPredicate
          (fun _ raw => if raw = "" then .ok (.null (.primitive .string)) else .ok (.string raw))
          [⟨"category", .notIn ["toys", ""]⟩, ⟨"region", .equal "eu"⟩]
          ⟨[⟨"category", .primitive .string⟩, ⟨"region", .primitive .string⟩], by decide⟩)
          (partitionRow [⟨"category", .string "books"⟩, ⟨"region", .string "eu"⟩]) ↔
        ∀ filter ∈ [(⟨"category", .notIn ["toys", ""]⟩ : PartitionFilter), ⟨"region", .equal "eu"⟩],
          matchPartitions
            (fun _ raw => if raw = "" then .ok (.null (.primitive .string)) else .ok (.string raw))
            (fun | .string text => text | _ => "null") filter
            [⟨"category", .string "books"⟩, ⟨"region", .string "eu"⟩]
            (fun key => if key = "category" ∨ key = "region" then some (.primitive .string)
              else none) = some true) := by
  refine ⟨by decide, ?texts, ?present, ?strings, ?readsText, ⟨_, rfl⟩, fun _ => rfl,
    pushDownMatches_toKernelPredicate_string (by decide) ?texts ?present ?strings ?readsText
      ⟨_, rfl⟩ fun _ => rfl⟩
  case texts =>
    intro partition mem
    simp only [List.mem_cons, List.mem_singleton, List.not_mem_nil, or_false] at mem
    rcases mem with rfl | rfl <;> exact ⟨_, by decide, rfl⟩
  case present =>
    intro filter mem
    simp only [List.mem_cons, List.mem_singleton, List.not_mem_nil, or_false] at mem
    rcases mem with rfl | rfl
    · exact ⟨_, List.mem_cons_self _ _, rfl⟩
    · exact ⟨_, List.mem_cons_of_mem _ (List.mem_singleton_self _), rfl⟩
  case strings =>
    intro filter mem
    simp only [List.mem_cons, List.mem_singleton, List.not_mem_nil, or_false] at mem
    rcases mem with rfl | rfl <;> exact ⟨_, rfl, rfl, rfl⟩
  case readsText => exact fun raw nonEmpty => if_neg nonEmpty

/- The empty string that a Hive segment `category=` gives is where the two part: `NotEqual("")`
compiles to the negation of an equality with a null, which a string is above, while the matcher
finds the partition's text equal to the operand. -/
example :
    pushDownMatches (toKernelPredicate
        (fun _ raw => if raw = "" then .ok (.null (.primitive .string)) else .ok (.string raw))
        [⟨"category", .notEqual ""⟩] ⟨[⟨"category", .primitive .string⟩], by decide⟩)
        (partitionRow [⟨"category", .string ""⟩]) = true ∧
      matchPartitions
        (fun _ raw => if raw = "" then .ok (.null (.primitive .string)) else .ok (.string raw))
        (fun | .string text => text | _ => "null") ⟨"category", .notEqual ""⟩
        [⟨"category", .string ""⟩]
        (fun key => if key = "category" then some (.primitive .string) else none) = some false := by
  decide

end Files

end DeltaPartitions
