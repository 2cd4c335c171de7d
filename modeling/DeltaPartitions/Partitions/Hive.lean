import DeltaPartitions.Partitions.Filter

/-!
# Hive partition segments

A Hive layout writes a partition column's value into the file path as a segment `key=value`.
`DeltaTablePartition::try_from` splits a segment on `=` and accepts it when there are exactly
two pieces; the value is kept as untyped text, a string scalar, whatever the column's type.

Splitting yields one piece more than there are separators, so a segment is accepted exactly
when it holds one `=`, and it is then the key, the separator and the value. The typed
comparisons of the matcher see the string scalar, not the column's typed value: on a non-string
column an ordering filter matches a Hive partition only through an operand that parses to a
null, which every string is above, and so rejects it whenever its operands parse to values of
the column's type.
-/

namespace DeltaPartitions

namespace DeltaTablePartition

/-- `<DeltaTablePartition as TryFrom<&str>>::try_from`: the segment split on `=` must have two
pieces, the key and the value. -/
def tryFrom (partition : String) : Except DeltaTableError DeltaTablePartition :=
  let partitionSplit := (partition.data.splitOn '=').map String.mk
  match partitionSplit with
  | [key, value] => .ok { key := key, value := .string value }
  | _ => .error (.partitionError partition)

end DeltaTablePartition

/-! ### Splitting on a separator -/

section SplitOn

variable {separator : Char}

theorem length_splitOn (chars : List Char) :
    (chars.splitOn separator).length = chars.count separator + 1 := by
  induction chars with
  | nil => rfl
  | cons c chars ih =>
      simp only [List.splitOn] at ih ⊢
      by_cases h : c = separator <;> simp [List.splitOnP_cons, List.count_cons, h, ih]

/-- No piece of a split holds the separator. -/
theorem not_mem_of_mem_splitOn {chars piece : List Char}
    (mem : piece ∈ chars.splitOn separator) : separator ∉ piece := by
  induction chars generalizing piece with
  | nil => simp_all
  | cons c chars ih =>
      obtain ⟨first, rest, split⟩ := List.exists_cons_of_ne_nil
        (List.splitOnP_ne_nil (· == separator) chars)
      by_cases h : c = separator
      · simp only [List.splitOn, List.splitOnP_cons, h, beq_self_eq_true, if_true,
          List.mem_cons] at mem
        rcases mem with rfl | mem
        · simp
        · exact ih mem
      · have firstFree : separator ∉ first := ih (by simp [List.splitOn, split])
        simp only [List.splitOn, List.splitOnP_cons, beq_iff_eq, h, if_false, split,
          List.modifyHead_cons, List.mem_cons] at mem
        rcases mem with rfl | mem
        · simp [firstFree, Ne.symm h]
        · exact ih (by simp [List.splitOn, split, mem])

/-- A split has two pieces exactly when they are the text on either side of its one
separator. -/
theorem splitOn_eq_pair_iff {chars before after : List Char} :
    chars.splitOn separator = [before, after] ↔
      separator ∉ before ∧ separator ∉ after ∧ chars = before ++ separator :: after := by
  constructor
  · intro split
    have pieces := List.intercalate_splitOn chars separator
    rw [split] at pieces
    refine ⟨not_mem_of_mem_splitOn (show before ∈ chars.splitOn separator by simp [split]),
      not_mem_of_mem_splitOn (show after ∈ chars.splitOn separator by simp [split]), ?_⟩
    simpa [List.intercalate] using pieces.symm
  · rintro ⟨beforeFree, afterFree, rfl⟩
    have joined := List.splitOn_intercalate [before, after] separator
      (by simp [beforeFree, afterFree]) (by simp)
    simpa [List.intercalate] using joined

theorem exists_splitOn_eq_pair_iff {chars : List Char} :
    (∃ before after, chars.splitOn separator = [before, after]) ↔ chars.count separator = 1 := by
  constructor
  · rintro ⟨before, after, split⟩
    have := @length_splitOn separator chars
    rw [split] at this
    simpa using this.symm
  · intro one
    have length := @length_splitOn separator chars
    rw [one] at length
    match h : chars.splitOn separator, length with
    | [before, after], _ => exact ⟨before, after, rfl⟩

end SplitOn

namespace DeltaTablePartition

theorem tryFrom_eq_error {partition : String} {e : DeltaTableError}
    (failed : tryFrom partition = .error e) : e = .partitionError partition := by
  unfold tryFrom at failed
  dsimp only at failed
  split at failed <;> cases failed
  rfl

/-- The split form of an accepted segment. -/
theorem tryFrom_eq_ok_iff_splitOn {partition : String} {result : DeltaTablePartition} :
    tryFrom partition = .ok result ↔
      ∃ value, result.value = .string value ∧
        partition.data.splitOn '=' = [result.key.data, value.data] := by
  unfold tryFrom
  rcases split : partition.data.splitOn '=' with _ | ⟨key, _ | ⟨value, _ | ⟨third, rest⟩⟩⟩
  case cons.cons.nil =>
    constructor
    · rintro ⟨⟩
      exact ⟨_, rfl, rfl⟩
    · obtain ⟨resultKey, resultValue⟩ := result
      rintro ⟨value', rfl, pieces⟩
      simp only [List.cons.injEq, and_true] at pieces
      obtain ⟨rfl, rfl⟩ := pieces
      rfl
  all_goals simp

/-- A segment is accepted exactly when it is a key and a value, neither holding `=`, joined by
`=`. -/
theorem tryFrom_eq_ok_iff {partition : String} {result : DeltaTablePartition} :
    tryFrom partition = .ok result ↔
      ∃ value, result.value = .string value ∧ partition = result.key ++ "=" ++ value ∧
        '=' ∉ result.key.data ∧ '=' ∉ value.data := by
  simp only [tryFrom_eq_ok_iff_splitOn, splitOn_eq_pair_iff, String.ext_iff, String.data_append]
  simp [and_assoc, and_comm, and_left_comm]

/-- `try_from` accepts exactly the segments with one `=`, refuses every other segment with a
`PartitionError` that carries it, and inverts the joining of a key and a value without `=`. -/
theorem tryFrom_accepts_one_separator :
    (∀ partition : String,
      (∃ result, tryFrom partition = .ok result) ↔ partition.data.count '=' = 1) ∧
    (∀ partition : String, partition.data.count '=' ≠ 1 →
      tryFrom partition = .error (.partitionError partition)) ∧
    (∀ partition result, tryFrom partition = .ok result →
      ∃ value, result.value = .string value ∧ partition = result.key ++ "=" ++ value ∧
        '=' ∉ result.key.data ∧ '=' ∉ value.data) ∧
    (∀ key value : String, '=' ∉ key.data → '=' ∉ value.data →
      tryFrom (key ++ "=" ++ value) = .ok ⟨key, .string value⟩) := by
  have accepted (partition : String) :
      (∃ result, tryFrom partition = .ok result) ↔ partition.data.count '=' = 1 := by
    rw [← exists_splitOn_eq_pair_iff]
    constructor
    · rintro ⟨result, ok⟩
      obtain ⟨value, -, split⟩ := tryFrom_eq_ok_iff_splitOn.1 ok
      exact ⟨_, _, split⟩
    · rintro ⟨before, after, split⟩
      exact ⟨⟨⟨before⟩, .string ⟨after⟩⟩, tryFrom_eq_ok_iff_splitOn.2 ⟨⟨after⟩, rfl, split⟩⟩
  refine ⟨accepted, fun partition notOne => ?_, fun _ _ => tryFrom_eq_ok_iff.1,
    fun key value keyFree valueFree => tryFrom_eq_ok_iff.2 ⟨value, rfl, rfl, keyFree, valueFree⟩⟩
  cases h : tryFrom partition with
  | error e => rw [tryFrom_eq_error h]
  | ok result => exact absurd ((accepted partition).1 ⟨result, h⟩) notOne

example : tryFrom "ds=2024-04-01" = .ok ⟨"ds", .string "2024-04-01"⟩ := rfl

end DeltaTablePartition

/-! ### Hive partitions against typed filters -/

section Typed

open PartitionFilter ScalarHelper

/-- A range filter on an integer column, with a parser that reads `5` and `3` as the integer
parser does: the Hive partition holds the string `5`, which is not ordered with the integer
operand, so the filter rejects it, while the partition holding the integer `5` matches. -/
theorem hive_range_filter_untyped :
    DeltaTablePartition.tryFrom "x=5" = .ok ⟨"x", .string "5"⟩ ∧
      (fun _ raw => .ok (.integer (if raw = "5" then 5 else 3)) :
        PrimitiveType → String → Except KernelError Scalar) .integer "5" = .ok (.integer 5) ∧
      matchPartition (fun _ raw => .ok (.integer (if raw = "5" then 5 else 3)))
          (fun | .string text => text | _ => "null")
          ⟨"x", .greaterThan "3"⟩ ⟨"x", .string "5"⟩ (.primitive .integer) = false ∧
      matchPartition (fun _ raw => .ok (.integer (if raw = "5" then 5 else 3)))
          (fun | .string text => text | _ => "null")
          ⟨"x", .greaterThan "3"⟩ ⟨"x", .integer 5⟩ (.primitive .integer) = true :=
  ⟨rfl, rfl, by decide, by decide⟩

/-- A Hive partition is matched as a non-null typed value rendering to the same text would be
on every arm that compares serialized text; an arm that compares typed values sees the string
scalar, so it matches only when every operand parses to a string or a null. -/
theorem tryFrom_matchPartition_typed
    (parseScalar : PrimitiveType → String → Except KernelError Scalar)
    (serialize : Scalar → String) (segment : String) (partition : DeltaTablePartition)
    (dataType : PrimitiveType) (accepted : DeltaTablePartition.tryFrom segment = .ok partition) :
    (∀ (filter : PartitionFilter) (typedValue : Scalar),
      filter.value.comparesTyped (.primitive dataType) = false → typedValue.isNull = false →
      serialize typedValue = serialize partition.value →
      matchPartition parseScalar serialize filter ⟨partition.key, typedValue⟩ (.primitive dataType) =
        matchPartition parseScalar serialize filter partition (.primitive dataType)) ∧
    (∀ filter : PartitionFilter, filter.value.comparesTyped (.primitive dataType) →
      matchPartition parseScalar serialize filter partition (.primitive dataType) →
      ∀ operand ∈ filter.value.operands, ∃ other, parseScalar dataType operand = .ok other ∧
        (other.isNull ∨ ∃ text, other = .string text)) := by
  obtain ⟨text, isString, -⟩ := DeltaTablePartition.tryFrom_eq_ok_iff.1 accepted
  constructor
  · rintro ⟨key, value⟩ typedValue untyped notNull rendered
    exact matchPartition_congr_text untyped rfl (by rw [notNull, isString]; rfl) rendered
  · rintro ⟨key, value⟩ typed matched operand mem
    obtain ⟨o, compared⟩ := compareTypedValue_of_matchPartition typed matched operand mem
    obtain ⟨_, other, ⟨⟩, parsed, ordered⟩ := compareTypedValue_eq_some.1 compared
    rw [isString] at ordered
    exact ⟨other, parsed, string_or_null_of_partialCmp_string ordered⟩

/-- The witness reads `2024-01-01` as the date it names and the empty operand as a null, and
renders a date as that text: the first part then relates the Hive partition to the date
partition, and the second part meets a match, the `>` filter on the empty operand. -/
theorem tryFrom_matchPartition_typed_on_ds :
    DeltaTablePartition.tryFrom "ds=2024-01-01" = .ok ⟨"ds", .string "2024-01-01"⟩ ∧
    (fun | .string text => text | .date _ => "2024-01-01" | _ => "null" :
        Scalar → String) (.date 19723) = "2024-01-01" ∧
    matchPartition (fun _ raw => if raw = "" then .ok (.null (.primitive .date)) else
        if raw = "2024-01-01" then .ok (.date 19723) else .error ⟨raw⟩)
      (fun | .string text => text | .date _ => "2024-01-01" | _ => "null")
      ⟨"ds", .greaterThan ""⟩ ⟨"ds", .string "2024-01-01"⟩ (.primitive .date) = true ∧
    (∀ (filter : PartitionFilter) (typedValue : Scalar),
      filter.value.comparesTyped (.primitive .date) = false → typedValue.isNull = false →
      (fun | .string text => text | .date _ => "2024-01-01" | _ => "null" :
        Scalar → String) typedValue =
        (fun | .string text => text | .date _ => "2024-01-01" | _ => "null" :
          Scalar → String) (.string "2024-01-01") →
      matchPartition (fun _ raw => if raw = "" then .ok (.null (.primitive .date)) else
          if raw = "2024-01-01" then .ok (.date 19723) else .error ⟨raw⟩)
        (fun | .string text => text | .date _ => "2024-01-01" | _ => "null") filter
        ⟨"ds", typedValue⟩ (.primitive .date) =
        matchPartition (fun _ raw => if raw = "" then .ok (.null (.primitive .date)) else
            if raw = "2024-01-01" then .ok (.date 19723) else .error ⟨raw⟩)
          (fun | .string text => text | .date _ => "2024-01-01" | _ => "null") filter
          ⟨"ds", .string "2024-01-01"⟩ (.primitive .date)) ∧
    (∀ filter : PartitionFilter, filter.value.comparesTyped (.primitive .date) →
      matchPartition (fun _ raw => if raw = "" then .ok (.null (.primitive .date)) else
          if raw = "2024-01-01" then .ok (.date 19723) else .error ⟨raw⟩)
        (fun | .string text => text | .date _ => "2024-01-01" | _ => "null") filter
        ⟨"ds", .string "2024-01-01"⟩ (.primitive .date) →
      ∀ operand ∈ filter.value.operands, ∃ other,
        (fun _ raw => if raw = "" then .ok (.null (.primitive .date)) else
            if raw = "2024-01-01" then .ok (.date 19723) else .error ⟨raw⟩ :
          PrimitiveType → String → Except KernelError Scalar) .date operand = .ok other ∧
        (other.isNull ∨ ∃ text, other = .string text)) :=
  ⟨rfl, rfl, by decide, tryFrom_matchPartition_typed _ _ "ds=2024-01-01"
    ⟨"ds", .string "2024-01-01"⟩ .date rfl⟩

end Typed

end DeltaPartitions
