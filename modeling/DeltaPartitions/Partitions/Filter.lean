import DeltaPartitions.Partitions.Match

/-!
# Building and rendering partition filters

Filters are built from the tuples that command lines and bindings pass: a key, an operator and
one operand, or a key, `in` or `not in`, and a list of operands. A malformed tuple is refused
with an `InvalidPartitionFilter` error that carries the tuple's `Debug` rendering, which escapes
characters as `char::escape_debug_ext` does: through two Unicode tables of the core library,
which are a parameter here. A filter is recorded in operation metadata as an SQL-like string, which the `Serialize` impl builds with
the operands in single quotes and no escaping.

The rendering is not injective even on quote-free filters: `In` and `NotIn` are written
` IN (` and ` NOT IN (`, so an `In` filter whose key ends in ` NOT` is written like the `NotIn`
filter on the rest of its key. We show that this is the only collision. The proof splits a
rendering at its first quote, which must follow the key and the operator when neither holds
one; what precedes it fixes the operator up to that collision, and what follows it the
operands.
-/

namespace DeltaPartitions

/-- The two tables of the core library that `char::escape_debug_ext` consults,
`core::unicode::printable::is_printable` and `char::is_grapheme_extended`. They are generated
Unicode data outside this repository, so every result about the texts they shape holds for every
pair of tables. -/
structure CharTables where
  isPrintable : Char → Bool
  isGraphemeExtended : Char → Bool

/-- `EscapeDebug::unicode`: a backslash, `u`, and between braces the code point in lowercase
hexadecimal without leading zeros. -/
def unicodeEscape (c : Char) : String :=
  "\\u\x7b" ++ String.mk (Nat.toDigits 16 c.toNat) ++ "\x7d"

/-- `char::escape_debug_ext` with the arguments `<str as Debug>::fmt` passes: grapheme extenders
and the double quote escaped, the single quote not. -/
def escapeDebugChar (tables : CharTables) : Char → String
  | '\x00' => "\\0"
  | '\t' => "\\t"
  | '\r' => "\\r"
  | '\n' => "\\n"
  | '\\' => "\\\\"
  | '"' => "\\\""
  | c =>
      if tables.isGraphemeExtended c then unicodeEscape c
      else if tables.isPrintable c then c.toString
      else unicodeEscape c

/-- `<str as Debug>::fmt`: the text in double quotes, escaped. -/
def debugStr (tables : CharTables) (s : String) : String :=
  "\"" ++ String.join (s.data.map (escapeDebugChar tables)) ++ "\""

namespace PartitionFilter

/-- `<PartitionFilter as Serialize>::serialize`: the string handed to the serializer. -/
def serialize (filter : PartitionFilter) : String :=
  match filter.value with
  | .equal value => filter.key ++ " = '" ++ value ++ "'"
  | .notEqual value => filter.key ++ " != '" ++ value ++ "'"
  | .greaterThan value => filter.key ++ " > '" ++ value ++ "'"
  | .greaterThanOrEqual value => filter.key ++ " >= '" ++ value ++ "'"
  | .lessThan value => filter.key ++ " < '" ++ value ++ "'"
  | .lessThanOrEqual value => filter.key ++ " <= '" ++ value ++ "'"
  | .«in» values =>
      let quotedValues := values.map fun v => "'" ++ v ++ "'"
      filter.key ++ " IN (" ++ ", ".intercalate quotedValues ++ ")"
  | .notIn values =>
      let quotedValues := values.map fun v => "'" ++ v ++ "'"
      filter.key ++ " NOT IN (" ++ ", ".intercalate quotedValues ++ ")"

/-- `<PartitionFilter as TryFrom<(&str, &str, &str)>>::try_from`. -/
def tryFrom (tables : CharTables) (filter : String × String × String) :
    Except DeltaTableError PartitionFilter :=
  let invalid : Except DeltaTableError PartitionFilter :=
    .error (.invalidPartitionFilter ("(" ++ debugStr tables filter.1 ++ ", " ++
      debugStr tables filter.2.1 ++ ", " ++ debugStr tables filter.2.2 ++ ")"))
  match filter with
  | (key, "=", value) => if key ≠ "" then .ok ⟨key, .equal value⟩ else invalid
  | (key, "!=", value) => if key ≠ "" then .ok ⟨key, .notEqual value⟩ else invalid
  | (key, ">", value) => if key ≠ "" then .ok ⟨key, .greaterThan value⟩ else invalid
  | (key, ">=", value) => if key ≠ "" then .ok ⟨key, .greaterThanOrEqual value⟩ else invalid
  | (key, "<", value) => if key ≠ "" then .ok ⟨key, .lessThan value⟩ else invalid
  | (key, "<=", value) => if key ≠ "" then .ok ⟨key, .lessThanOrEqual value⟩ else invalid
  | (_, _, _) => invalid

/-- `<PartitionFilter as TryFrom<(&str, &str, &[&str])>>::try_from`. -/
def tryFromList (tables : CharTables) (filter : String × String × List String) :
    Except DeltaTableError PartitionFilter :=
  let invalid : Except DeltaTableError PartitionFilter :=
    .error (.invalidPartitionFilter
      ("(" ++ debugStr tables filter.1 ++ ", " ++ debugStr tables filter.2.1 ++ ", [" ++
        ", ".intercalate (filter.2.2.map (debugStr tables)) ++ "])"))
  match filter with
  | (key, "in", value) => if key ≠ "" then .ok ⟨key, .«in» value⟩ else invalid
  | (key, "not in", value) => if key ≠ "" then .ok ⟨key, .notIn value⟩ else invalid
  | (_, _, _) => invalid

end PartitionFilter

/-! ### The rendering, character by character -/

/-- The characters of an operand in single quotes. -/
def quoted (value : String) : List Char := '\'' :: value.data ++ ['\'']

/-- The rest of a quoted list after its first operand: each further operand after a comma, then
the closing parenthesis. -/
def quotedTail : List String → List Char
  | [] => [')']
  | value :: values => ',' :: ' ' :: quoted value ++ quotedTail values

/-- A quoted list and its closing parenthesis, as they follow the opening one. -/
def quotedList : List String → List Char
  | [] => [')']
  | value :: values => quoted value ++ quotedTail values

namespace PartitionValue

/-- The characters between the key and the operands in a filter's rendering. -/
def operatorChars : PartitionValue → List Char
  | equal _ => " = ".data
  | notEqual _ => " != ".data
  | greaterThan _ => " > ".data
  | greaterThanOrEqual _ => " >= ".data
  | lessThan _ => " < ".data
  | lessThanOrEqual _ => " <= ".data
  | «in» _ => " IN (".data
  | notIn _ => " NOT IN (".data

/-- The characters of the operands in a filter's rendering. -/
def operandChars : PartitionValue → List Char
  | equal value | notEqual value | greaterThan value | greaterThanOrEqual value | lessThan value
  | lessThanOrEqual value => quoted value
  | «in» values | notIn values => quotedList values

end PartitionValue

theorem intercalate_go_data (acc : String) (values : List String) :
    (String.intercalate.go acc ", " (values.map fun v => "'" ++ v ++ "'")).data ++ [')'] =
      acc.data ++ quotedTail values := by
  induction values generalizing acc with
  | nil => rfl
  | cons value values ih =>
      simp only [List.map_cons, String.intercalate.go, ih, quotedTail, quoted]
      simp

theorem intercalate_quoted_data (values : List String) :
    (", ".intercalate (values.map fun v => "'" ++ v ++ "'")).data ++ [')'] = quotedList values := by
  cases values with
  | nil => rfl
  | cons value values =>
      simp only [List.map_cons, String.intercalate, intercalate_go_data, quotedList, quoted]
      simp

/-- A rendering is the key, the operator and the operands. -/
theorem PartitionFilter.serialize_data (filter : PartitionFilter) :
    filter.serialize.data =
      filter.key.data ++ filter.value.operatorChars ++ filter.value.operandChars := by
  obtain ⟨key, value⟩ := filter
  cases value <;>
    simp [PartitionFilter.serialize, PartitionValue.operatorChars, PartitionValue.operandChars,
      quoted, ← intercalate_quoted_data]

/-! ### Recovering a filter from its rendering -/

/-- Up to the first occurrence of a delimiter, two texts agree when neither has the delimiter
before it. -/
theorem delimiter_split {delimiter : Char} {a b x y : List Char} (quoteFreeA : delimiter ∉ a)
    (quoteFreeB : delimiter ∉ b) (h : a ++ delimiter :: x = b ++ delimiter :: y) :
    a = b ∧ x = y := by
  induction a generalizing b with
  | nil =>
      cases b with
      | nil => simpa using h
      | cons c b =>
          simp only [List.nil_append, List.cons_append, List.cons.injEq] at h
          exact absurd (h.1 ▸ List.mem_cons_self _ _) quoteFreeB
  | cons c a ih =>
      cases b with
      | nil =>
          simp only [List.nil_append, List.cons_append, List.cons.injEq] at h
          exact absurd (h.1 ▸ List.mem_cons_self _ _) quoteFreeA
      | cons d b =>
          simp only [List.cons_append, List.cons.injEq] at h
          obtain ⟨rfl, h⟩ := h
          obtain ⟨rfl, rfl⟩ := ih (fun m => quoteFreeA (List.mem_cons_of_mem _ m))
            (fun m => quoteFreeB (List.mem_cons_of_mem _ m)) h
          exact ⟨rfl, rfl⟩

/-- A quote-free operand in quotes is recovered from the front of a text. -/
theorem quoted_append_inj {v w : String} {x y : List Char} (quoteFreeV : '\'' ∉ v.data)
    (quoteFreeW : '\'' ∉ w.data) (h : quoted v ++ x = quoted w ++ y) : v = w ∧ x = y := by
  simp only [quoted, List.cons_append, List.append_assoc, List.singleton_append, List.cons.injEq,
    true_and] at h
  obtain ⟨same, rest⟩ := delimiter_split quoteFreeV quoteFreeW h
  exact ⟨String.ext same, rest⟩

theorem quotedTail_inj {values₁ values₂ : List String}
    (quoteFree₁ : ∀ v ∈ values₁, '\'' ∉ v.data) (quoteFree₂ : ∀ v ∈ values₂, '\'' ∉ v.data)
    (h : quotedTail values₁ = quotedTail values₂) : values₁ = values₂ := by
  induction values₁ generalizing values₂ with
  | nil => cases values₂ <;> simp_all [quotedTail]
  | cons v vs ih =>
      cases values₂ with
      | nil => simp [quotedTail] at h
      | cons w ws =>
          obtain ⟨vFree, vsFree⟩ := List.forall_mem_cons.1 quoteFree₁
          obtain ⟨wFree, wsFree⟩ := List.forall_mem_cons.1 quoteFree₂
          simp only [quotedTail, List.cons_append, List.cons.injEq, true_and] at h
          obtain ⟨rfl, rest⟩ := quoted_append_inj vFree wFree h
          rw [ih vsFree wsFree rest]

theorem quotedList_inj {values₁ values₂ : List String}
    (quoteFree₁ : ∀ v ∈ values₁, '\'' ∉ v.data) (quoteFree₂ : ∀ v ∈ values₂, '\'' ∉ v.data)
    (h : quotedList values₁ = quotedList values₂) : values₁ = values₂ := by
  cases values₁ with
  | nil => cases values₂ <;> simp_all [quotedList, quoted]
  | cons v vs =>
      cases values₂ with
      | nil => simp [quotedList, quoted] at h
      | cons w ws =>
          obtain ⟨vFree, vsFree⟩ := List.forall_mem_cons.1 quoteFree₁
          obtain ⟨wFree, wsFree⟩ := List.forall_mem_cons.1 quoteFree₂
          obtain ⟨rfl, rest⟩ := quoted_append_inj vFree wFree h
          rw [quotedTail_inj vsFree wsFree rest]

namespace PartitionValue

theorem quote_not_mem_operatorChars (value : PartitionValue) : '\'' ∉ value.operatorChars := by
  cases value <;> simp only [operatorChars] <;> decide

/-- The operands are the closing parenthesis of an empty list, or start with a quote. -/
theorem operandChars_cases (value : PartitionValue) :
    value.operandChars = [')'] ∨ ∃ rest, value.operandChars = '\'' :: rest := by
  cases value
  case «in» values | notIn values =>
    cases values <;> simp [operandChars, quotedList, quoted]
  all_goals simp [operandChars, quoted]

/-- One operator ends another only when the two are equal, or are ` NOT IN (` and ` IN (`. -/
theorem operatorChars_eq_append {value₁ value₂ : PartitionValue} {t : List Char}
    (h : value₁.operatorChars = t ++ value₂.operatorChars) :
    (t = [] ∧ value₁.operatorChars = value₂.operatorChars) ∨
      (t = " NOT".data ∧ (∃ values, value₁ = notIn values) ∧ ∃ values, value₂ = «in» values) := by
  have suffix : value₂.operatorChars <:+ value₁.operatorChars := ⟨t, h.symm⟩
  cases value₁ <;> cases value₂ <;> simp only [operatorChars] at suffix h <;>
    first
    | exact absurd suffix (by decide)
    | exact .inl ⟨List.append_left_eq_self.1 h.symm, rfl⟩
    | exact .inr ⟨List.append_cancel_right (h.symm.trans (by rfl)), ⟨_, rfl⟩, ⟨_, rfl⟩⟩

/-- The operator and the operands fix a quote-free filter value. -/
theorem eq_of_chars_eq {value₁ value₂ : PartitionValue}
    (quoteFree₁ : ∀ v ∈ value₁.operands, '\'' ∉ v.data)
    (quoteFree₂ : ∀ v ∈ value₂.operands, '\'' ∉ v.data)
    (sameOperator : value₁.operatorChars = value₂.operatorChars)
    (sameOperands : value₁.operandChars = value₂.operandChars) : value₁ = value₂ := by
  cases value₁ <;> cases value₂ <;> simp only [operatorChars] at sameOperator <;>
    first
    | exact absurd sameOperator (by decide)
    | simp only [operandChars, quoted, List.cons.injEq, List.append_left_inj, true_and] at sameOperands
      exact congrArg _ (String.ext sameOperands)
    | exact congrArg _ (quotedList_inj quoteFree₁ quoteFree₂ sameOperands)

end PartitionValue

/-- Two renderings of quote-free keys agree on the key and operator, and on the operands:
the first quote, if any, follows the operator. -/
theorem rendering_split {key₁ key₂ : String} {value₁ value₂ : PartitionValue}
    (keyQuoteFree₁ : '\'' ∉ key₁.data) (keyQuoteFree₂ : '\'' ∉ key₂.data)
    (h : key₁.data ++ value₁.operatorChars ++ value₁.operandChars =
      key₂.data ++ value₂.operatorChars ++ value₂.operandChars) :
    key₁.data ++ value₁.operatorChars = key₂.data ++ value₂.operatorChars ∧
      value₁.operandChars = value₂.operandChars := by
  have head₁ := List.not_mem_append keyQuoteFree₁ value₁.quote_not_mem_operatorChars
  have head₂ := List.not_mem_append keyQuoteFree₂ value₂.quote_not_mem_operatorChars
  have noQuote : '\'' ∉ [')'] := by decide
  rcases value₁.operandChars_cases with e₁ | ⟨rest₁, e₁⟩ <;>
    rcases value₂.operandChars_cases with e₂ | ⟨rest₂, e₂⟩ <;> rw [e₁, e₂] at h ⊢
  · exact ⟨List.append_cancel_right h, rfl⟩
  · exact absurd (h ▸ List.mem_append_right _ (List.mem_cons_self _ _))
      (List.not_mem_append head₁ noQuote)
  · exact absurd (h ▸ List.mem_append_right _ (List.mem_cons_self _ _))
      (List.not_mem_append head₂ noQuote)
  · obtain ⟨same, rest⟩ := delimiter_split head₁ head₂ h
    exact ⟨same, congrArg _ rest⟩

namespace PartitionFilter

/-- An `In` filter whose key ends in ` NOT` renders as the `NotIn` filter on the rest. -/
theorem serialize_in_not (key : String) (values : List String) :
    serialize ⟨key ++ " NOT", .«in» values⟩ = serialize ⟨key, .notIn values⟩ :=
  String.ext (by simp [serialize_data, PartitionValue.operatorChars, PartitionValue.operandChars])

/-- Two quote-free filters render alike exactly when they are equal, or are an `In` filter
whose key ends in ` NOT` and the `NotIn` filter on the rest of that key, with one list. -/
theorem serialize_eq_iff {filter₁ filter₂ : PartitionFilter}
    (keyQuoteFree₁ : '\'' ∉ filter₁.key.data) (keyQuoteFree₂ : '\'' ∉ filter₂.key.data)
    (quoteFree₁ : ∀ v ∈ filter₁.value.operands, '\'' ∉ v.data)
    (quoteFree₂ : ∀ v ∈ filter₂.value.operands, '\'' ∉ v.data) :
    filter₁.serialize = filter₂.serialize ↔
      filter₁ = filter₂ ∨ ∃ key values,
        (filter₁ = ⟨key ++ " NOT", .«in» values⟩ ∧ filter₂ = ⟨key, .notIn values⟩) ∨
          (filter₁ = ⟨key, .notIn values⟩ ∧ filter₂ = ⟨key ++ " NOT", .«in» values⟩) := by
  obtain ⟨key₁, value₁⟩ := filter₁
  obtain ⟨key₂, value₂⟩ := filter₂
  dsimp only at keyQuoteFree₁ keyQuoteFree₂ quoteFree₁ quoteFree₂
  constructor
  · intro same
    have chars := congrArg String.data same
    rw [serialize_data, serialize_data] at chars
    obtain ⟨prefixes, operands⟩ := rendering_split keyQuoteFree₁ keyQuoteFree₂ chars
    rcases List.append_eq_append_iff.1 prefixes with ⟨t, keys, ops⟩ | ⟨t, keys, ops⟩ <;>
      rcases PartitionValue.operatorChars_eq_append ops with
        ⟨rfl, ops⟩ | ⟨rfl, ⟨vs, rfl⟩, ⟨ws, rfl⟩⟩
    · have sameKey : key₁ = key₂ := String.ext (by simpa using keys.symm)
      have sameValue := PartitionValue.eq_of_chars_eq quoteFree₁ quoteFree₂ ops operands
      exact .inl (by rw [sameKey, sameValue])
    · have sameValues : vs = ws := quotedList_inj quoteFree₁ quoteFree₂ operands
      have sameKey : key₂ = key₁ ++ " NOT" := String.ext keys
      exact .inr ⟨key₁, vs, .inr ⟨rfl, by rw [sameKey, sameValues]⟩⟩
    · have sameKey : key₁ = key₂ := String.ext (by simpa using keys)
      have sameValue := PartitionValue.eq_of_chars_eq quoteFree₁ quoteFree₂ ops.symm operands
      exact .inl (by rw [sameKey, sameValue])
    · have sameValues : ws = vs := quotedList_inj quoteFree₁ quoteFree₂ operands
      have sameKey : key₁ = key₂ ++ " NOT" := String.ext keys
      exact .inr ⟨key₂, vs, .inl ⟨by rw [sameKey, sameValues], rfl⟩⟩
  · rintro (same | ⟨key, values, ⟨first, second⟩ | ⟨first, second⟩⟩)
    · rw [same]
    · rw [first, second, serialize_in_not]
    · rw [first, second, serialize_in_not]

theorem serialize_eq_iff_on_date :
    '\'' ∉ "date".data ∧ '\'' ∉ "date".data ∧
      (∀ v ∈ (PartitionValue.equal "2022-05-22").operands, '\'' ∉ v.data) ∧
      (∀ v ∈ (PartitionValue.notIn ["2022-05-22"]).operands, '\'' ∉ v.data) ∧
      (serialize ⟨"date", .equal "2022-05-22"⟩ = serialize ⟨"date", .notIn ["2022-05-22"]⟩ ↔
        (⟨"date", .equal "2022-05-22"⟩ : PartitionFilter) = ⟨"date", .notIn ["2022-05-22"]⟩ ∨
          ∃ key values,
            ((⟨"date", .equal "2022-05-22"⟩ : PartitionFilter) = ⟨key ++ " NOT", .«in» values⟩ ∧
                (⟨"date", .notIn ["2022-05-22"]⟩ : PartitionFilter) = ⟨key, .notIn values⟩) ∨
              ((⟨"date", .equal "2022-05-22"⟩ : PartitionFilter) = ⟨key, .notIn values⟩ ∧
                (⟨"date", .notIn ["2022-05-22"]⟩ : PartitionFilter) =
                  ⟨key ++ " NOT", .«in» values⟩)) :=
  ⟨by decide, by decide, by decide, by decide, serialize_eq_iff (by decide) (by decide)
    (by decide) (by decide)⟩

/-- Two different quote-free filters with one rendering. -/
theorem serialize_collision :
    serialize ⟨"year NOT", .«in» ["2021"]⟩ = serialize ⟨"year", .notIn ["2021"]⟩ ∧
      (⟨"year NOT", .«in» ["2021"]⟩ : PartitionFilter) ≠ ⟨"year", .notIn ["2021"]⟩ := by
  decide

example : serialize ⟨"date", .«in» ["2023-11-04", "2023-06-07"]⟩ =
    "date IN ('2023-11-04', '2023-06-07')" := by decide

/-! ### Building filters from tuples -/

variable {tables : CharTables}

/-- Every refusal is an `InvalidPartitionFilter` error carrying the tuple as `Debug` writes it. -/
theorem tryFrom_error {key op value : String} {e : DeltaTableError}
    (refused : tryFrom tables (key, op, value) = .error e) :
    e = .invalidPartitionFilter ("(" ++ debugStr tables key ++ ", " ++ debugStr tables op ++
      ", " ++ debugStr tables value ++ ")") := by
  unfold tryFrom at refused
  split at refused <;> (try split at refused) <;> simp_all

example : tryFrom ⟨fun c => 0x20 ≤ c.toNat, fun _ => false⟩ ("date", "==", "x\x01") =
    .error (.invalidPartitionFilter "(\"date\", \"==\", \"x\\u\x7b1\x7d\")") := rfl

theorem tryFromList_error {key op : String} {values : List String} {e : DeltaTableError}
    (refused : tryFromList tables (key, op, values) = .error e) :
    e = .invalidPartitionFilter ("(" ++ debugStr tables key ++ ", " ++ debugStr tables op ++
      ", [" ++ ", ".intercalate (values.map (debugStr tables)) ++ "])") := by
  unfold tryFromList at refused
  split at refused <;> (try split at refused) <;> simp_all

end PartitionFilter

end DeltaPartitions
