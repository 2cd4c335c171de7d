import DeltaPartitions.Kernel.Predicate

/-!
# A reading of kernel predicates

The partition code builds predicates for the kernel and never evaluates them: the kernel's
evaluator lies outside this repository. To say what the compiler's output means, and to set it
beside the local matcher, we read a predicate over one row of column values with SQL's
three-valued logic, under a comparator that is a parameter; the matcher's own is
`ScalarHelper::partial_cmp`. A comparison of a column with a literal is unknown when the column
has no value or the comparator leaves the pair unordered, and is otherwise its operator's test
of their order. A negation leaves an unknown unknown. `And` is false when a child is false,
unknown when none is false but one is unknown, and true otherwise; `Or` is its dual. As in an
SQL `WHERE` clause, a row is kept when the predicate is known to hold, so that `!=`, `<=` and
`>=`, which the builder writes as negations, keep no row that their comparison cannot order.

The recursion runs through the children with one helper per junction, so that the reading stays
structural and evaluates by `decide`.
-/

namespace DeltaPartitions

/-- The test a comparison applies to the order of its left side against its right side. -/
def BinaryPredicateOp.test : BinaryPredicateOp → Ordering → Bool
  | .lessThan, o => o.isLT
  | .greaterThan, o => o.isGT
  | .equal, o => o.isEq

/-- Conjunction in three-valued logic, `none` the unknown. -/
def and3 : Option Bool → Option Bool → Option Bool
  | some false, _ => some false
  | _, some false => some false
  | some true, b => b
  | none, _ => none

/-- Disjunction in three-valued logic, `none` the unknown. -/
def or3 : Option Bool → Option Bool → Option Bool
  | some true, _ => some true
  | _, some true => some true
  | some false, b => b
  | none, _ => none

theorem and3_eq_some_true {a b : Option Bool} :
    and3 a b = some true ↔ a = some true ∧ b = some true := by
  rcases a with _ | _ | _ <;> rcases b with _ | _ | _ <;> decide

theorem or3_eq_some_true {a b : Option Bool} :
    or3 a b = some true ↔ a = some true ∨ b = some true := by
  rcases a with _ | _ | _ <;> rcases b with _ | _ | _ <;> decide

namespace Predicate

variable (cmp : Scalar → Scalar → Option Ordering) (row : List String → Option Scalar)

mutual

/-- The truth value of a predicate on a row, under the comparator `cmp`. -/
def eval : Predicate → Option Bool
  | binary op (.column name) (.literal value) =>
      (row name).bind fun columnValue => (cmp columnValue value).map op.test
  | binary _ _ _ => none
  | not pred => (eval pred).map (!·)
  | junction .and preds => evalAll preds
  | junction .or preds => evalAny preds

/-- The conjunction of the children of an `And`. -/
def evalAll : List Predicate → Option Bool
  | [] => some true
  | pred :: preds => and3 (eval pred) (evalAll preds)

/-- The disjunction of the children of an `Or`. -/
def evalAny : List Predicate → Option Bool
  | [] => some false
  | pred :: preds => or3 (eval pred) (evalAny preds)

end

/-- Whether the row is kept: the predicate is known to hold on it. -/
def holds (pred : Predicate) : Bool := (pred.eval cmp row).getD false

variable {cmp row}

theorem holds_iff {pred : Predicate} : pred.holds cmp row ↔ pred.eval cmp row = some true := by
  unfold holds
  rcases pred.eval cmp row with _ | _ | _ <;> decide

theorem evalAll_eq_some_true (preds : List Predicate) :
    evalAll cmp row preds = some true ↔ ∀ pred ∈ preds, pred.eval cmp row = some true := by
  induction preds with
  | nil => simp [evalAll]
  | cons pred preds ih => simp [evalAll, and3_eq_some_true, ih]

theorem evalAny_eq_some_true (preds : List Predicate) :
    evalAny cmp row preds = some true ↔ ∃ pred ∈ preds, pred.eval cmp row = some true := by
  induction preds with
  | nil => simp [evalAny]
  | cons pred preds ih => simp [evalAny, or3_eq_some_true, ih]

@[simp]
theorem holds_and (preds : List Predicate) :
    (junction .and preds).holds cmp row = preds.all (holds cmp row) := by
  rw [Bool.eq_iff_iff, holds_iff, eval, evalAll_eq_some_true]
  simp [holds_iff]

@[simp]
theorem holds_or (preds : List Predicate) :
    (junction .or preds).holds cmp row = preds.any (holds cmp row) := by
  rw [Bool.eq_iff_iff, holds_iff, eval, evalAny_eq_some_true]
  simp [holds_iff]

section Leaves

variable {op : BinaryPredicateOp} {name : List String} {value literal : Scalar}

/-- A comparison on a column that holds a value tests their order, and fails unordered. -/
theorem holds_binary (lookup : row name = some value) :
    (binary op (.column name) (.literal literal)).holds cmp row =
      ((cmp value literal).map op.test).getD false := by
  simp [holds, eval, lookup]

/-- A negated comparison on a column that holds a value tests the opposite of its order, and
fails unordered. -/
theorem holds_not_binary (lookup : row name = some value) :
    (not (binary op (.column name) (.literal literal))).holds cmp row =
      ((cmp value literal).map fun o => !op.test o).getD false := by
  simp only [holds, eval, lookup, Option.some_bind]
  cases cmp value literal <;> rfl

/-- A comparison on a column that holds no value fails, negated or not. -/
theorem holds_binary_of_missing (missing : row name = none) :
    (binary op (.column name) (.literal literal)).holds cmp row = false ∧
      (not (binary op (.column name) (.literal literal))).holds cmp row = false := by
  simp [holds, eval, missing]

end Leaves

end Predicate

namespace Expression

open Predicate

variable (cmp : Scalar → Scalar → Option Ordering) (literal : Scalar)
  {row : List String → Option Scalar} {name : List String} {value : Scalar}

/-- Each comparison the builder writes on a column that holds a value applies the matching test
of `Ordering` to their order, whether it is a comparison or the negation of one. -/
theorem holds_builders (lookup : row name = some value) :
    ((column name).eq literal).holds cmp row = ((cmp value literal).map Ordering.isEq).getD false ∧
    ((column name).ne literal).holds cmp row =
      ((cmp value literal).map fun o => !o.isEq).getD false ∧
    ((column name).lt literal).holds cmp row = ((cmp value literal).map Ordering.isLT).getD false ∧
    ((column name).le literal).holds cmp row = ((cmp value literal).map Ordering.isLE).getD false ∧
    ((column name).gt literal).holds cmp row = ((cmp value literal).map Ordering.isGT).getD false ∧
    ((column name).ge literal).holds cmp row =
      ((cmp value literal).map Ordering.isGE).getD false := by
  refine ⟨holds_binary lookup, holds_not_binary lookup, holds_binary lookup, ?_,
    holds_binary lookup, ?_⟩
  · rw [le, gt, holds_not_binary lookup]
    rcases cmp value literal with _ | _ | _ | _ <;> rfl
  · rw [ge, lt, holds_not_binary lookup]
    rcases cmp value literal with _ | _ | _ | _ <;> rfl

/-- Each comparison the builder writes on a column that holds no value keeps nothing. -/
theorem holds_builders_of_missing (missing : row name = none) :
    ((column name).eq literal).holds cmp row = false ∧
    ((column name).ne literal).holds cmp row = false ∧
    ((column name).lt literal).holds cmp row = false ∧
    ((column name).le literal).holds cmp row = false ∧
    ((column name).gt literal).holds cmp row = false ∧
    ((column name).ge literal).holds cmp row = false :=
  ⟨(holds_binary_of_missing missing).1, (holds_binary_of_missing missing).2,
    (holds_binary_of_missing missing).1, (holds_binary_of_missing missing).2,
    (holds_binary_of_missing missing).1, (holds_binary_of_missing missing).2⟩

end Expression

end DeltaPartitions
