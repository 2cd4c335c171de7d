import DeltaPartitions.Kernel.Types

/-!
# The kernel's predicate builder

Push-down predicates are built with the kernel's expression builder: a column reference, a
literal scalar, the binary comparisons `Equal`, `LessThan` and `GreaterThan`, negation, and the
n-ary junctions. The builder has no comparison of its own for `!=`, `<=` and `>=`: it writes them
as the negation of `=`, `>` and `<`. The partition code only builds such trees and never
evaluates them, so they are plain syntax here.
-/

namespace DeltaPartitions

/-- An expression: a column reference by path, or a literal scalar. -/
inductive Expression
  | column (name : List String)
  | literal (value : Scalar)
  deriving Repr

/-- `BinaryPredicateOp`, restricted to the comparisons the builder emits. -/
inductive BinaryPredicateOp
  | lessThan
  | greaterThan
  | equal
  deriving DecidableEq, Repr

/-- `JunctionPredicateOp`. -/
inductive JunctionPredicateOp
  | and
  | or
  deriving DecidableEq, Repr

/-- A predicate: a binary comparison of two expressions, a negation, or a junction over an
ordered list of predicates. -/
inductive Predicate
  | binary (op : BinaryPredicateOp) (left right : Expression)
  | not (pred : Predicate)
  | junction (op : JunctionPredicateOp) (preds : List Predicate)
  deriving Repr

namespace Expression

/-- `Expression::eq`: `Predicate::eq`. -/
def eq (left : Expression) (right : Scalar) : Predicate := .binary .equal left (literal right)

/-- `Expression::ne`: `Predicate::ne`, the negation of `eq`. -/
def ne (left : Expression) (right : Scalar) : Predicate := .not (left.eq right)

/-- `Expression::lt`: `Predicate::lt`. -/
def lt (left : Expression) (right : Scalar) : Predicate := .binary .lessThan left (literal right)

/-- `Expression::gt`: `Predicate::gt`. -/
def gt (left : Expression) (right : Scalar) : Predicate :=
  .binary .greaterThan left (literal right)

/-- `Expression::le`: `Predicate::le`, the negation of `gt`. -/
def le (left : Expression) (right : Scalar) : Predicate := .not (left.gt right)

/-- `Expression::ge`: `Predicate::ge`, the negation of `lt`. -/
def ge (left : Expression) (right : Scalar) : Predicate := .not (left.lt right)

end Expression

end DeltaPartitions
