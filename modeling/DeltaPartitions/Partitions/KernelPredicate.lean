import DeltaPartitions.Partitions.Match
import Mathlib.Data.List.Forall2

/-!
# Compiling partition filters to kernel predicates

`to_kernel_predicate` turns a list of filters into one predicate for the kernel's log replay:
the conjunction of the filters, each compiled by `filter_to_kernel_predicate` against the table
schema. A filter's key must name a root field of primitive type, and each operand is parsed at
that type. Both functions collect into a `Result`, so each stops at its first failure.

We characterise both sides of both results: success against `CompilesTo`, the predicate each
operator is meant to stand for, and failure as the first filter or operand that fails. Then the
compiler meets the local matcher: an arm of `match_partition` that compares typed values
rejects every partition under a filter that the compiler refuses, while the arms that compare
serialized text do not.
-/

namespace DeltaPartitions

/-! ### Collecting into a `Result`

The `?` operator is `bind` in `Except`, and `collect::<Result<Vec<_>, _>>()` is `List.mapM`. -/

section Collect

variable {ε ε' α β : Type} {f : α → Except ε β}

theorem bind_eq_ok {x : Except ε α} {g : α → Except ε β} {b : β} :
    x >>= g = .ok b ↔ ∃ a, x = .ok a ∧ g a = .ok b := by
  cases x <;> simp [bind, Except.bind]

theorem bind_eq_error {x : Except ε α} {g : α → Except ε β} {e : ε} :
    x >>= g = .error e ↔ x = .error e ∨ ∃ a, x = .ok a ∧ g a = .error e := by
  cases x <;> simp [bind, Except.bind]

theorem mapError_eq_ok {wrap : ε → ε'} {x : Except ε α} {a : α} :
    x.mapError wrap = .ok a ↔ x = .ok a := by
  cases x <;> simp [Except.mapError]

theorem mapError_eq_error {wrap : ε → ε'} {x : Except ε α} {e : ε'} :
    x.mapError wrap = .error e ↔ ∃ source, x = .error source ∧ e = wrap source := by
  cases x <;> simp [Except.mapError, eq_comm]

/-- `f` fails on an element of `xs`, with `e`, after succeeding on every element before it: the
error at which collecting into a `Result` stops. -/
def FirstError (f : α → Except ε β) (xs : List α) (e : ε) : Prop :=
  ∃ pre x post, xs = pre ++ x :: post ∧ (∀ y ∈ pre, ∃ z, f y = .ok z) ∧ f x = .error e

theorem not_firstError_nil {e : ε} : ¬FirstError f [] e := by
  rintro ⟨pre, x, post, split, -⟩
  simp at split

theorem firstError_cons {x : α} {xs : List α} {e : ε} :
    FirstError f (x :: xs) e ↔ f x = .error e ∨ (∃ z, f x = .ok z) ∧ FirstError f xs e := by
  constructor
  · rintro ⟨_ | ⟨first, pre⟩, y, post, split, before, failed⟩ <;>
      simp only [List.nil_append, List.cons_append, List.cons.injEq] at split <;>
      obtain ⟨rfl, rfl⟩ := split
    · exact .inl failed
    · exact .inr ⟨before _ (List.mem_cons_self _ _),
        pre, y, post, rfl, fun z mem => before z (List.mem_cons_of_mem _ mem), failed⟩
  · rintro (failed | ⟨succeeded, pre, y, post, rfl, before, failed⟩)
    · exact ⟨[], x, xs, rfl, by simp, failed⟩
    · exact ⟨x :: pre, y, post, rfl, List.forall_mem_cons.2 ⟨succeeded, before⟩, failed⟩

theorem firstError_singleton {x : α} {e : ε} : FirstError f [x] e ↔ f x = .error e := by
  simp [firstError_cons, not_firstError_nil]

theorem exists_mem_of_firstError {xs : List α} {e : ε} (first : FirstError f xs e) :
    ∃ x ∈ xs, f x = .error e := by
  obtain ⟨pre, x, post, rfl, -, failed⟩ := first
  exact ⟨x, by simp, failed⟩

/-- Collecting succeeds exactly when every element succeeds, with the results in order. -/
theorem mapM_eq_ok_iff {xs : List α} {ys : List β} :
    xs.mapM f = .ok ys ↔ List.Forall₂ (fun x y => f x = .ok y) xs ys := by
  induction xs generalizing ys with
  | nil => cases ys <;> simp [-List.mapM, pure, Except.pure]
  | cons x xs ih => cases ys <;> simp [-List.mapM, List.mapM_cons, bind_eq_ok, ih, pure, Except.pure]

/-- Collecting fails with the error of the first element that fails. -/
theorem mapM_eq_error_iff {xs : List α} {e : ε} :
    xs.mapM f = .error e ↔ FirstError f xs e := by
  induction xs with
  | nil => simp [-List.mapM, not_firstError_nil, pure, Except.pure]
  | cons x xs ih =>
      simp [-List.mapM, List.mapM_cons, bind_eq_error, bind_eq_ok, ih, firstError_cons, pure,
        Except.pure]

end Collect

/-! ### The compiler -/

variable (parseScalar : PrimitiveType → String → Except KernelError Scalar)

/-- `filter_to_kernel_predicate`: the filter as a predicate over the root field it names, with
its operands parsed at the field's primitive type. The source shares one arm between `In` and
`NotIn`, choosing the comparison and the junction inside it. -/
def filterToKernelPredicate (filter : PartitionFilter) (tableSchema : StructType) :
    Except DeltaTableError Predicate := do
  let some field := tableSchema.field filter.key
    | throw (.schemaMismatch ("Field '" ++ filter.key ++ "' is not a root table field."))
  let some dt := field.dataType.asPrimitiveOpt
    | throw (.schemaMismatch ("Field '" ++ field.name ++ "' is not a primitive type"))
  let column := Expression.column [field.name]
  match filter.value with
  | .equal raw => return column.eq (← (parseScalar dt raw).mapError .kernel)
  | .notEqual raw => return column.ne (← (parseScalar dt raw).mapError .kernel)
  | .lessThan raw => return column.lt (← (parseScalar dt raw).mapError .kernel)
  | .lessThanOrEqual raw => return column.le (← (parseScalar dt raw).mapError .kernel)
  | .greaterThan raw => return column.gt (← (parseScalar dt raw).mapError .kernel)
  | .greaterThanOrEqual raw => return column.ge (← (parseScalar dt raw).mapError .kernel)
  | .«in» rawValues => do
      let values ← (rawValues.mapM (parseScalar dt)).mapError .kernel
      return .junction .or (values.map column.eq)
  | .notIn rawValues => do
      let values ← (rawValues.mapM (parseScalar dt)).mapError .kernel
      return .junction .and (values.map column.ne)

/-- `to_kernel_predicate`: the conjunction of the compiled filters. -/
def toKernelPredicate (filters : List PartitionFilter) (tableSchema : StructType) :
    Except DeltaTableError Predicate := do
  let predicates ← filters.mapM (filterToKernelPredicate parseScalar · tableSchema)
  return .junction .and predicates

/-- What a filter value is meant to compile to over `column`, given the parser of the column's
type: the comparison leaf against the parsed operand for each single-operand operator, the
disjunction of one equality per `In` operand and the conjunction of one inequality per `NotIn`
operand, in operand order. -/
def CompilesTo (parse : String → Except KernelError Scalar) (column : Expression)
    (predicate : Predicate) : PartitionValue → Prop
  | .equal raw => ∃ scalar, parse raw = .ok scalar ∧ predicate = column.eq scalar
  | .notEqual raw => ∃ scalar, parse raw = .ok scalar ∧ predicate = column.ne scalar
  | .lessThan raw => ∃ scalar, parse raw = .ok scalar ∧ predicate = column.lt scalar
  | .lessThanOrEqual raw => ∃ scalar, parse raw = .ok scalar ∧ predicate = column.le scalar
  | .greaterThan raw => ∃ scalar, parse raw = .ok scalar ∧ predicate = column.gt scalar
  | .greaterThanOrEqual raw => ∃ scalar, parse raw = .ok scalar ∧ predicate = column.ge scalar
  | .«in» raws => ∃ scalars, List.Forall₂ (fun raw scalar => parse raw = .ok scalar) raws scalars ∧
      predicate = .junction .or (scalars.map column.eq)
  | .notIn raws => ∃ scalars,
      List.Forall₂ (fun raw scalar => parse raw = .ok scalar) raws scalars ∧
        predicate = .junction .and (scalars.map column.ne)

variable {parseScalar}

section Compile

variable {filter : PartitionFilter} {tableSchema : StructType}

theorem filterToKernelPredicate_eq_ok_iff {predicate : Predicate} :
    filterToKernelPredicate parseScalar filter tableSchema = .ok predicate ↔
      ∃ field dt, tableSchema.field filter.key = some field ∧ field.dataType = .primitive dt ∧
        CompilesTo (parseScalar dt) (.column [filter.key]) predicate filter.value := by
  unfold filterToKernelPredicate
  cases found : tableSchema.field filter.key with
  | none => simp [throw, throwThe, MonadExceptOf.throw]
  | some field =>
      have named := StructType.name_of_field found
      cases dataType : field.dataType with
      | primitive dt =>
          obtain ⟨key, value⟩ := filter
          cases value <;>
            simp [-List.mapM, DataType.asPrimitiveOpt, dataType, named, CompilesTo, bind_eq_ok,
              mapError_eq_ok, mapM_eq_ok_iff, pure, Except.pure, @eq_comm _ predicate]
      | struct | array | map =>
          simp [DataType.asPrimitiveOpt, dataType, throw, throwThe, MonadExceptOf.throw]

theorem filterToKernelPredicate_eq_error_iff {e : DeltaTableError} :
    filterToKernelPredicate parseScalar filter tableSchema = .error e ↔
      (tableSchema.field filter.key = none ∧
        e = .schemaMismatch ("Field '" ++ filter.key ++ "' is not a root table field.")) ∨
      (∃ field, tableSchema.field filter.key = some field ∧ field.dataType.asPrimitiveOpt = none ∧
        e = .schemaMismatch ("Field '" ++ filter.key ++ "' is not a primitive type")) ∨
      (∃ field dt, tableSchema.field filter.key = some field ∧ field.dataType = .primitive dt ∧
        ∃ source, FirstError (parseScalar dt) filter.value.operands source ∧ e = .kernel source) := by
  unfold filterToKernelPredicate
  cases found : tableSchema.field filter.key with
  | none => simp [throw, throwThe, MonadExceptOf.throw, eq_comm]
  | some field =>
      have named := StructType.name_of_field found
      cases dataType : field.dataType with
      | primitive dt =>
          obtain ⟨key, value⟩ := filter
          cases value <;>
            simp [-List.mapM, DataType.asPrimitiveOpt, dataType, PartitionValue.operands,
              firstError_singleton, bind_eq_error, mapError_eq_error, mapM_eq_error_iff, pure,
              Except.pure]
      | struct | array | map =>
          simp [DataType.asPrimitiveOpt, dataType, named, throw, throwThe, MonadExceptOf.throw,
            eq_comm]

/-- A filter on a primitive root field fails only on an operand that its type's parser
rejects. -/
theorem exists_rejected_operand {field : StructField} {dt : PrimitiveType} {e : DeltaTableError}
    (found : tableSchema.field filter.key = some field) (primitive : field.dataType = .primitive dt)
    (rejected : filterToKernelPredicate parseScalar filter tableSchema = .error e) :
    ∃ operand ∈ filter.value.operands, ∃ source, parseScalar dt operand = .error source := by
  rcases filterToKernelPredicate_eq_error_iff.1 rejected with
    ⟨missing, -⟩ | ⟨field', found', notPrimitive, -⟩ | ⟨field', dt', found', primitive', source, first, -⟩
  · cases found.symm.trans missing
  · cases found.symm.trans found'
    simp [primitive, DataType.asPrimitiveOpt] at notPrimitive
  · cases found.symm.trans found'
    cases primitive.symm.trans primitive'
    obtain ⟨operand, mem, failed⟩ := exists_mem_of_firstError first
    exact ⟨operand, mem, source, failed⟩

end Compile

theorem toKernelPredicate_eq_ok_iff {filters : List PartitionFilter} {tableSchema : StructType}
    {predicate : Predicate} :
    toKernelPredicate parseScalar filters tableSchema = .ok predicate ↔
      ∃ predicates, List.Forall₂
          (fun filter compiled => filterToKernelPredicate parseScalar filter tableSchema = .ok compiled)
          filters predicates ∧
        predicate = .junction .and predicates := by
  simp [-List.mapM, toKernelPredicate, bind_eq_ok, mapM_eq_ok_iff, pure, Except.pure,
    @eq_comm _ predicate]

theorem toKernelPredicate_eq_error_iff {filters : List PartitionFilter} {tableSchema : StructType}
    {e : DeltaTableError} :
    toKernelPredicate parseScalar filters tableSchema = .error e ↔
      FirstError (filterToKernelPredicate parseScalar · tableSchema) filters e := by
  simp [-List.mapM, toKernelPredicate, bind_eq_error, bind_eq_ok, mapM_eq_error_iff, pure,
    Except.pure]

/-- `to_kernel_predicate` succeeds exactly when every filter compiles, with the conjunction of
the compiled filters in their order, and otherwise fails with the error of the first filter that
fails. A filter compiles exactly when its key names a root field of primitive type and its
operands parse, to the predicate that `CompilesTo` describes; otherwise it fails with a schema
mismatch naming its key, or with the parse error of its first operand that does not parse. -/
theorem toKernelPredicate_correct :
    (∀ (parseScalar : PrimitiveType → String → Except KernelError Scalar)
        (filters : List PartitionFilter) (tableSchema : StructType) (predicate : Predicate),
      toKernelPredicate parseScalar filters tableSchema = .ok predicate ↔
        ∃ predicates, List.Forall₂ (fun filter compiled =>
            filterToKernelPredicate parseScalar filter tableSchema = .ok compiled) filters predicates ∧
          predicate = .junction .and predicates) ∧
    (∀ (parseScalar : PrimitiveType → String → Except KernelError Scalar)
        (filters : List PartitionFilter) (tableSchema : StructType) (e : DeltaTableError),
      toKernelPredicate parseScalar filters tableSchema = .error e ↔
        FirstError (filterToKernelPredicate parseScalar · tableSchema) filters e) ∧
    (∀ (parseScalar : PrimitiveType → String → Except KernelError Scalar)
        (filter : PartitionFilter) (tableSchema : StructType) (predicate : Predicate),
      filterToKernelPredicate parseScalar filter tableSchema = .ok predicate ↔
        ∃ field dt, tableSchema.field filter.key = some field ∧ field.dataType = .primitive dt ∧
          CompilesTo (parseScalar dt) (.column [filter.key]) predicate filter.value) ∧
    (∀ (parseScalar : PrimitiveType → String → Except KernelError Scalar)
        (filter : PartitionFilter) (tableSchema : StructType) (e : DeltaTableError),
      filterToKernelPredicate parseScalar filter tableSchema = .error e ↔
        (tableSchema.field filter.key = none ∧
          e = .schemaMismatch ("Field '" ++ filter.key ++ "' is not a root table field.")) ∨
        (∃ field, tableSchema.field filter.key = some field ∧ field.dataType.asPrimitiveOpt = none ∧
          e = .schemaMismatch ("Field '" ++ filter.key ++ "' is not a primitive type")) ∨
        (∃ field dt, tableSchema.field filter.key = some field ∧ field.dataType = .primitive dt ∧
          ∃ source, FirstError (parseScalar dt) filter.value.operands source ∧
            e = .kernel source)) :=
  ⟨fun _ _ _ _ => toKernelPredicate_eq_ok_iff, fun _ _ _ _ => toKernelPredicate_eq_error_iff,
    fun _ _ _ _ => filterToKernelPredicate_eq_ok_iff,
    fun _ _ _ _ => filterToKernelPredicate_eq_error_iff⟩

example :
    filterToKernelPredicate (fun _ raw => .ok (.string raw)) ⟨"category", .«in» ["books", "toys"]⟩
        ⟨[⟨"category", .primitive .string⟩], by decide⟩ =
      .ok (.junction .or [(Expression.column ["category"]).eq (.string "books"),
        (Expression.column ["category"]).eq (.string "toys")]) := rfl

/-! ### The compiler against the matcher -/

section Matcher

open PartitionFilter

/-- On an arm that compares typed values, the matcher rejects every partition under a filter
whose operand the compiler refuses to parse. -/
theorem matchPartition_rejects_uncompilable
    (parseScalar : PrimitiveType → String → Except KernelError Scalar)
    (serialize : Scalar → String) (filter : PartitionFilter) (tableSchema : StructType)
    (field : StructField) (dt : PrimitiveType) (partition : DeltaTablePartition)
    (e : DeltaTableError) (found : tableSchema.field filter.key = some field)
    (primitive : field.dataType = .primitive dt) (typed : filter.value.comparesTyped (.primitive dt))
    (rejected : filterToKernelPredicate parseScalar filter tableSchema = .error e) :
    matchPartition parseScalar serialize filter partition (.primitive dt) = false := by
  obtain ⟨operand, mem, source, failed⟩ := exists_rejected_operand found primitive rejected
  refine Bool.eq_false_iff.2 fun matched => ?_
  obtain ⟨o, compared⟩ := compareTypedValue_of_matchPartition typed matched operand mem
  obtain ⟨_, other, ⟨⟩, parsed, -⟩ := compareTypedValue_eq_some.1 compared
  cases failed.symm.trans parsed

theorem matchPartition_rejects_uncompilable_on_x :
    (⟨[⟨"x", .primitive .integer⟩], by decide⟩ : StructType).field "x" =
        some ⟨"x", .primitive .integer⟩ ∧
      (⟨"x", .primitive .integer⟩ : StructField).dataType = .primitive .integer ∧
      (PartitionValue.greaterThan "abc").comparesTyped (.primitive .integer) ∧
      filterToKernelPredicate (fun _ raw => .error ⟨raw⟩) ⟨"x", .greaterThan "abc"⟩
          ⟨[⟨"x", .primitive .integer⟩], by decide⟩ = .error (.kernel ⟨"abc"⟩) ∧
      matchPartition (fun _ raw => .error ⟨raw⟩) (fun _ => "5") ⟨"x", .greaterThan "abc"⟩
          ⟨"x", .integer 5⟩ (.primitive .integer) = false :=
  ⟨rfl, rfl, rfl, rfl, matchPartition_rejects_uncompilable (fun _ raw => .error ⟨raw⟩) (fun _ => "5")
    ⟨"x", .greaterThan "abc"⟩ ⟨[⟨"x", .primitive .integer⟩], by decide⟩ ⟨"x", .primitive .integer⟩
    .integer ⟨"x", .integer 5⟩ (.kernel ⟨"abc"⟩) rfl rfl rfl rfl⟩

/-- Inequality on an integer column compares serialized text, so it matches a partition under
an operand that the integer parser rejects and the compiler therefore refuses. -/
theorem notEqual_matches_uncompilable :
    filterToKernelPredicate (fun _ raw => .error ⟨raw⟩) ⟨"x", .notEqual "abc"⟩
        ⟨[⟨"x", .primitive .integer⟩], by decide⟩ = .error (.kernel ⟨"abc"⟩) ∧
      matchPartition (fun _ raw => .error ⟨raw⟩)
          (fun | .integer value => toString value.toInt | _ => "null")
          ⟨"x", .notEqual "abc"⟩ ⟨"x", .integer 5⟩ (.primitive .integer) = true :=
  ⟨rfl, by decide⟩

end Matcher

end DeltaPartitions
