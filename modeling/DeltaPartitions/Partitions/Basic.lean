import DeltaPartitions.Kernel.Predicate

/-!
# Partition filters and partitions

The value types of `kernel/schema/partitions.rs`: a filter is a partition column's key with an
operator and its raw operand texts, and a partition is a column's key with its scalar value.
Operands stay text until they are compared against a column's type, so the same filter serves
before a schema is known.
-/

namespace DeltaPartitions

/-- The variants of `DeltaTableError` that the partition code raises. -/
inductive DeltaTableError
  | invalidPartitionFilter (partitionFilter : String)
  | partitionError (partition : String)
  | schemaMismatch (msg : String)
  | kernel (source : KernelError)
  deriving DecidableEq, Repr

/-- `PartitionValue`: the operator of a partition filter with its raw operands. -/
inductive PartitionValue
  | equal (value : String)
  | notEqual (value : String)
  | greaterThan (value : String)
  | greaterThanOrEqual (value : String)
  | lessThan (value : String)
  | lessThanOrEqual (value : String)
  | «in» (values : List String)
  | notIn (values : List String)
  deriving DecidableEq, Repr

namespace PartitionValue

/-- The raw operand texts of a filter value, in order. -/
def operands : PartitionValue → List String
  | equal value | notEqual value | greaterThan value | greaterThanOrEqual value | lessThan value
  | lessThanOrEqual value => [value]
  | «in» values | notIn values => values

end PartitionValue

/-- `PartitionFilter`: a filter on the partition column `key`. -/
structure PartitionFilter where
  key : String
  value : PartitionValue
  deriving DecidableEq, Repr

/-- `DeltaTablePartition`: the value of the partition column `key` in one partition. -/
structure DeltaTablePartition where
  key : String
  value : Scalar
  deriving DecidableEq, Repr

/-- `DeltaTablePartition::from_partition_value`. -/
def DeltaTablePartition.fromPartitionValue (partitionValue : String × Scalar) :
    DeltaTablePartition :=
  let (k, v) := partitionValue
  { key := k, value := v }

end DeltaPartitions
