import DeltaPartitions.Kernel.Native

/-!
# The kernel's types and scalars

The partition code reads the table schema, its data types and its scalar values through the
kernel crate. This file gives the part of that interface the code uses: the primitive types,
whether a data type is primitive, the lookup of a root field by name, and the scalar values
that a partition column can hold.

Machine integers are bit vectors of their Rust width and compare as signed integers through
`BitVec.toInt`; floating-point scalars are their IEEE 754 bit patterns. Nested data types are
only ever asked whether they are primitive, so they carry none of their element types here,
and the nested scalar kinds (structs, arrays, maps), which never hold a partition value, are
left out.
-/

namespace DeltaPartitions

/-- The precision and scale of a decimal type. -/
structure DecimalType where
  precision : UInt8
  scale : UInt8
  deriving DecidableEq, Repr

/-- The primitive data types of the kernel. -/
inductive PrimitiveType
  | string
  | long
  | integer
  | short
  | byte
  | float
  | double
  | boolean
  | binary
  | date
  | timestamp
  | timestampNtz
  | decimal (decimalType : DecimalType)
  deriving DecidableEq, Repr

/-- A column's data type; only primitive types have partition values. -/
inductive DataType
  | primitive (primitiveType : PrimitiveType)
  | struct
  | array
  | map
  deriving DecidableEq, Repr

namespace DataType

/-- `DataType::as_primitive_opt`. -/
def asPrimitiveOpt : DataType → Option PrimitiveType
  | primitive primitiveType => some primitiveType
  | _ => none

@[simp]
theorem asPrimitiveOpt_primitive (primitiveType : PrimitiveType) :
    (primitive primitiveType).asPrimitiveOpt = some primitiveType := rfl

theorem asPrimitiveOpt_eq_some {dataType : DataType} {primitiveType : PrimitiveType} :
    dataType.asPrimitiveOpt = some primitiveType ↔ dataType = primitive primitiveType := by
  cases dataType <;> simp [asPrimitiveOpt]

end DataType

/-- A decimal value: its unscaled `i128` bits and its type. -/
structure DecimalData where
  bits : BitVec 128
  ty : DecimalType
  deriving DecidableEq, Repr

namespace DecimalData

/-- `DecimalData::precision`. -/
def precision (decimal : DecimalData) : UInt8 := decimal.ty.precision

/-- `DecimalData::scale`. -/
def scale (decimal : DecimalData) : UInt8 := decimal.ty.scale

end DecimalData

/-- The kernel's scalar values of primitive kinds, and the null of any data type. -/
inductive Scalar
  | integer (value : BitVec 32)
  | long (value : BitVec 64)
  | short (value : BitVec 16)
  | byte (value : BitVec 8)
  | float (bits : BitVec 32)
  | double (bits : BitVec 64)
  | string (value : String)
  | boolean (value : Bool)
  | timestamp (micros : BitVec 64)
  | timestampNtz (micros : BitVec 64)
  | date (days : BitVec 32)
  | binary (bytes : List UInt8)
  | decimal (decimal : DecimalData)
  | null (dataType : DataType)
  deriving DecidableEq, Repr

namespace Scalar

/-- `Scalar::is_null`. -/
def isNull : Scalar → Bool
  | null _ => true
  | _ => false

/-- A floating-point scalar whose bit pattern is a NaN. -/
def IsNaN : Scalar → Prop
  | float bits => BinaryFormat.binary32.IsNaN bits.toNat
  | double bits => BinaryFormat.binary64.IsNaN bits.toNat
  | _ => False

instance : DecidablePred IsNaN := fun scalar => by
  cases scalar <;> unfold IsNaN <;> infer_instance

end Scalar

/-- A field of a table schema. -/
structure StructField where
  name : String
  dataType : DataType
  deriving DecidableEq, Repr

/-- A struct type, such as a table schema: its fields, keyed by their distinct names. -/
structure StructType where
  fields : List StructField
  names_nodup : (fields.map StructField.name).Nodup

namespace StructType

/-- `StructType::field`: the field of the given name. -/
def field (schema : StructType) (name : String) : Option StructField :=
  schema.fields.find? (·.name == name)

theorem name_of_field {schema : StructType} {name : String} {field : StructField}
    (found : schema.field name = some field) : field.name = name := by
  simpa using List.find?_some found

end StructType

/-- An error raised by the kernel, such as a scalar that does not parse. -/
structure KernelError where
  msg : String
  deriving DecidableEq, Repr

end DeltaPartitions
