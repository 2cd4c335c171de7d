import DeltaPartitions.Partitions.Filter
import Mathlib.Data.Nat.Digits

/-!
# Refused tuples are recoverable from their errors

A tuple that `PartitionFilter::try_from` refuses comes back as an `InvalidPartitionFilter` error
whose text is the tuple's `Debug` rendering: each text in double quotes, escaped so that the
closing quote of a text is its first unescaped quote. Reading the rendering from the left
therefore recovers every text and what follows it, and two refused tuples never share an error:
the diagnostic names exactly the input that was refused. Accepted tuples build distinct filters,
so both `try_from` impls are injective, for the triples and for the tuples with a list of
operands alike, whatever the Unicode tables that decide which characters are escaped.

The escapes form a prefix code. An escape is the character itself, which is then neither a
backslash nor a quote; or a backslash and a letter other than `u` that names the character; or
`\u`, an opening brace, the code point in hexadecimal and a closing brace, where the digits,
which hold no brace, read back as the code point. No escape begins with a quote.
-/

namespace DeltaPartitions

/-! ### Hexadecimal code points -/

/-- The value of a lowercase hexadecimal digit. -/
def hexValue (c : Char) : ℕ :=
  if c.toNat < 'a'.toNat then c.toNat - '0'.toNat else c.toNat - 'a'.toNat + 10

/-- The number that a list of hexadecimal digits writes, the most significant first. -/
def readHex (digits : List Char) : ℕ :=
  digits.foldl (fun n c => n * 16 + hexValue c) 0

theorem hexValue_digitChar : ∀ d < 16, hexValue (Nat.digitChar d) = d := by
  decide

theorem toDigitsCore_append (base fuel n : ℕ) (ds : List Char) :
    Nat.toDigitsCore base fuel n ds = Nat.toDigitsCore base fuel n [] ++ ds := by
  induction fuel generalizing n ds with
  | zero => rfl
  | succ fuel ih =>
      simp only [Nat.toDigitsCore]
      split
      · rfl
      · rw [ih _ (_ :: ds), ih _ [_], List.append_assoc, List.singleton_append]

/-- The digits of a number read back as the number, given fuel enough to write them all. -/
theorem readHex_toDigitsCore {fuel n : ℕ} (enough : n < fuel) :
    readHex (Nat.toDigitsCore 16 fuel n []) = n := by
  induction fuel generalizing n with
  | zero => omega
  | succ fuel ih =>
      have low := hexValue_digitChar (n % 16) (Nat.mod_lt n (by decide))
      simp only [Nat.toDigitsCore]
      split
      · simp only [readHex, List.foldl_cons, List.foldl_nil, low]
        omega
      · rw [toDigitsCore_append, readHex, List.foldl_append, ← readHex, ih (by omega)]
        simp only [List.foldl_cons, List.foldl_nil, low]
        omega

theorem toDigits_hex_inj {m n : ℕ} (h : Nat.toDigits 16 m = Nat.toDigits 16 n) : m = n := by
  have read := congrArg readHex h
  rwa [Nat.toDigits, Nat.toDigits, readHex_toDigitsCore (Nat.lt_succ_self m),
    readHex_toDigitsCore (Nat.lt_succ_self n)] at read

theorem exists_digitChar_of_mem {fuel n : ℕ} {c : Char}
    (mem : c ∈ Nat.toDigitsCore 16 fuel n []) : ∃ d < 16, c = Nat.digitChar d := by
  induction fuel generalizing n with
  | zero => simp [Nat.toDigitsCore] at mem
  | succ fuel ih =>
      simp only [Nat.toDigitsCore] at mem
      split at mem
      · exact ⟨_, Nat.mod_lt n (by decide), List.mem_singleton.1 mem⟩
      · rw [toDigitsCore_append, List.mem_append, List.mem_singleton] at mem
        rcases mem with mem | rfl
        · exact ih mem
        · exact ⟨_, Nat.mod_lt n (by decide), rfl⟩

/-- No hexadecimal digit is a closing brace. -/
theorem rbrace_not_mem_toDigits (n : ℕ) : '\x7d' ∉ Nat.toDigits 16 n := fun mem => by
  obtain ⟨d, small, same⟩ := exists_digitChar_of_mem mem
  exact (by decide : ∀ d < 16, Nat.digitChar d ≠ '\x7d') d small same.symm

/-! ### The escapes form a prefix code -/

variable (tables : CharTables)

/-- The characters of a text as `<str as Debug>` escapes them, without the enclosing quotes. -/
def escapedChars (chars : List Char) : List Char :=
  (chars.map fun c => (escapeDebugChar tables c).data).flatten

/-- The rest of a `Debug` list after its first text: each further text after a comma, then the
closing bracket and parenthesis of the tuple. -/
def debugTail : List String → List Char
  | [] => [']', ')']
  | value :: values =>
      ',' :: ' ' :: '"' :: escapedChars tables value.data ++ '"' :: debugTail values

/-- A `Debug` list of texts and the end of the tuple, as they follow the opening bracket. -/
def debugList : List String → List Char
  | [] => [']', ')']
  | value :: values => '"' :: escapedChars tables value.data ++ '"' :: debugTail tables values

/-- The character that a short escape, a backslash and a letter, stands for. -/
def unescapeLetter : Char → Char
  | '0' => '\x00'
  | 't' => '\t'
  | 'r' => '\r'
  | 'n' => '\n'
  | letter => letter

/-- The three shapes of an escape. -/
theorem escapeDebugChar_data (c : Char) :
    (escapeDebugChar tables c).data = [c] ∧ c ≠ '\\' ∧ c ≠ '"' ∨
      (∃ letter, letter ≠ 'u' ∧ unescapeLetter letter = c ∧
        (escapeDebugChar tables c).data = ['\\', letter]) ∨
      (escapeDebugChar tables c).data =
        '\\' :: 'u' :: '\x7b' :: (Nat.toDigits 16 c.toNat ++ ['\x7d']) := by
  unfold escapeDebugChar
  split
  case h_7 =>
    split_ifs
    · exact .inr (.inr (by simp [unicodeEscape]))
    · exact .inl ⟨rfl, by simp_all, by simp_all⟩
    · exact .inr (.inr (by simp [unicodeEscape]))
  all_goals exact .inr (.inl ⟨_, by decide, by rfl, rfl⟩)

variable {tables}

theorem debugStr_data (s : String) :
    (debugStr tables s).data = '"' :: escapedChars tables s.data ++ ['"'] := by
  simp [debugStr, escapedChars, Function.comp_def]

/-- One escaped character and what follows it determine the character and the rest. -/
theorem escape_append_inj {c d : Char} {x y : List Char}
    (h : (escapeDebugChar tables c).data ++ x = (escapeDebugChar tables d).data ++ y) :
    c = d ∧ x = y := by
  rcases escapeDebugChar_data tables c with ⟨hc, cb, -⟩ | ⟨l, lu, rfl, hc⟩ | hc <;>
  rcases escapeDebugChar_data tables d with ⟨hd, db, -⟩ | ⟨l', lu', rfl, hd⟩ | hd <;>
  simp only [hc, hd, List.cons_append, List.nil_append, List.append_assoc, List.singleton_append,
    List.cons.injEq, true_and] at h
  · exact h
  · exact absurd h.1 cb
  · exact absurd h.1 cb
  · exact absurd h.1.symm db
  · exact ⟨congrArg unescapeLetter h.1, h.2⟩
  · exact absurd h.1 lu
  · exact absurd h.1.symm db
  · exact absurd h.1.symm lu'
  · obtain ⟨same, rest⟩ := delimiter_split (rbrace_not_mem_toDigits _) (rbrace_not_mem_toDigits _) h
    exact ⟨by rw [← Char.ofNat_toNat c, ← Char.ofNat_toNat d, toDigits_hex_inj same], rest⟩

/-- No escape begins with a quote. -/
theorem escape_append_ne_quote {c : Char} {x y : List Char} :
    (escapeDebugChar tables c).data ++ x ≠ '"' :: y := by
  rcases escapeDebugChar_data tables c with ⟨hc, -, cq⟩ | ⟨l, -, -, hc⟩ | hc
  · simp [hc, cq]
  all_goals simp [hc]

/-- Escaped texts closed by a quote determine the text and what follows the quote. -/
theorem escapedChars_split {chars₁ chars₂ x y : List Char}
    (h : escapedChars tables chars₁ ++ '"' :: x = escapedChars tables chars₂ ++ '"' :: y) :
    chars₁ = chars₂ ∧ x = y := by
  induction chars₁ generalizing chars₂ with
  | nil =>
      cases chars₂ with
      | nil => simpa [escapedChars] using h
      | cons d ds =>
          simp only [escapedChars, List.map_cons, List.flatten_cons, List.append_assoc] at h
          exact absurd h.symm escape_append_ne_quote
  | cons c cs ih =>
      cases chars₂ with
      | nil =>
          simp only [escapedChars, List.map_cons, List.flatten_cons, List.append_assoc] at h
          exact absurd h escape_append_ne_quote
      | cons d ds =>
          simp only [escapedChars, List.map_cons, List.flatten_cons, List.append_assoc] at h
          obtain ⟨rfl, rest⟩ := escape_append_inj h
          obtain ⟨rfl, rfl⟩ := ih rest
          exact ⟨rfl, rfl⟩

theorem escapedString_split {s t : String} {x y : List Char}
    (h : escapedChars tables s.data ++ '"' :: x = escapedChars tables t.data ++ '"' :: y) :
    s = t ∧ x = y :=
  (escapedChars_split h).imp String.ext id

/-! ### Reading a refused tuple back -/

theorem debugTail_inj {values₁ values₂ : List String}
    (h : debugTail tables values₁ = debugTail tables values₂) : values₁ = values₂ := by
  induction values₁ generalizing values₂ with
  | nil => cases values₂ <;> simp_all [debugTail]
  | cons v vs ih =>
      cases values₂ with
      | nil => simp [debugTail] at h
      | cons w ws =>
          simp only [debugTail, List.cons_append, List.cons.injEq, true_and] at h
          obtain ⟨rfl, rest⟩ := escapedString_split h
          rw [ih rest]

theorem debugList_inj {values₁ values₂ : List String}
    (h : debugList tables values₁ = debugList tables values₂) : values₁ = values₂ := by
  cases values₁ with
  | nil => cases values₂ <;> simp_all [debugList]
  | cons v vs =>
      cases values₂ with
      | nil => simp [debugList] at h
      | cons w ws =>
          simp only [debugList, List.cons_append, List.cons.injEq, true_and] at h
          obtain ⟨rfl, rest⟩ := escapedString_split h
          rw [debugTail_inj rest]

theorem intercalate_go_debug_data (acc : String) (values : List String) :
    (String.intercalate.go acc ", " (values.map (debugStr tables))).data ++ [']', ')'] =
      acc.data ++ debugTail tables values := by
  induction values generalizing acc with
  | nil => rfl
  | cons value values ih =>
      simp only [List.map_cons, String.intercalate.go, ih, debugTail, String.data_append,
        debugStr_data]
      simp

theorem intercalate_debug_data (values : List String) :
    (", ".intercalate (values.map (debugStr tables))).data ++ [']', ')'] =
      debugList tables values := by
  cases values with
  | nil => rfl
  | cons value values =>
      simp only [List.map_cons, String.intercalate, intercalate_go_debug_data, debugList,
        debugStr_data]
      simp

/-- A rendered tuple's key and operator, each quoted and separated by a comma, determine
themselves and what follows them. -/
theorem keyOp_split {key₁ key₂ op₁ op₂ : String} {x y : List Char}
    (h : escapedChars tables key₁.data ++ '"' :: ',' :: ' ' :: '"' ::
        (escapedChars tables op₁.data ++ '"' :: x) =
      escapedChars tables key₂.data ++ '"' :: ',' :: ' ' :: '"' ::
        (escapedChars tables op₂.data ++ '"' :: y)) :
    key₁ = key₂ ∧ op₁ = op₂ ∧ x = y := by
  obtain ⟨rfl, afterKey⟩ := escapedString_split h
  simp only [List.cons.injEq, true_and] at afterKey
  obtain ⟨rfl, afterOp⟩ := escapedString_split afterKey
  exact ⟨rfl, rfl, afterOp⟩

namespace PartitionFilter

/-- Two triples refused with one error are the same triple. -/
theorem tryFrom_error_injective {tuple₁ tuple₂ : String × String × String} {e : DeltaTableError}
    (refused₁ : tryFrom tables tuple₁ = .error e) (refused₂ : tryFrom tables tuple₂ = .error e) :
    tuple₁ = tuple₂ := by
  obtain ⟨key₁, op₁, value₁⟩ := tuple₁
  obtain ⟨key₂, op₂, value₂⟩ := tuple₂
  have same := (tryFrom_error refused₁).symm.trans (tryFrom_error refused₂)
  simp only [DeltaTableError.invalidPartitionFilter.injEq, String.ext_iff, String.data_append,
    debugStr_data, List.append_assoc, List.cons_append, List.nil_append, List.singleton_append,
    List.cons.injEq, true_and] at same
  obtain ⟨rfl, rfl, afterOp⟩ := keyOp_split same
  simp only [List.cons.injEq, true_and] at afterOp
  rw [(escapedString_split afterOp).1]

/-- Two tuples with lists of operands refused with one error are the same tuple. -/
theorem tryFromList_error_injective {tuple₁ tuple₂ : String × String × List String}
    {e : DeltaTableError} (refused₁ : tryFromList tables tuple₁ = .error e)
    (refused₂ : tryFromList tables tuple₂ = .error e) : tuple₁ = tuple₂ := by
  obtain ⟨key₁, op₁, values₁⟩ := tuple₁
  obtain ⟨key₂, op₂, values₂⟩ := tuple₂
  have same := (tryFromList_error refused₁).symm.trans (tryFromList_error refused₂)
  simp only [DeltaTableError.invalidPartitionFilter.injEq, String.ext_iff, String.data_append,
    debugStr_data, List.append_assoc, List.cons_append, List.nil_append, List.singleton_append,
    intercalate_debug_data, List.cons.injEq, true_and] at same
  obtain ⟨rfl, rfl, afterOp⟩ := keyOp_split same
  simp only [List.cons.injEq, true_and] at afterOp
  rw [debugList_inj afterOp]

/-- Two accepted triples that build one filter are the same triple. -/
theorem tryFrom_ok_injective {tuple₁ tuple₂ : String × String × String} {filter : PartitionFilter}
    (built₁ : tryFrom tables tuple₁ = .ok filter) (built₂ : tryFrom tables tuple₂ = .ok filter) :
    tuple₁ = tuple₂ := by
  unfold tryFrom at built₁ built₂
  split at built₁ <;> (try split at built₁) <;> simp only [Except.ok.injEq, reduceCtorEq] at built₁ <;>
    subst built₁ <;> split at built₂ <;> (try split at built₂) <;> simp_all

/-- Two accepted tuples with lists of operands that build one filter are the same tuple. -/
theorem tryFromList_ok_injective {tuple₁ tuple₂ : String × String × List String}
    {filter : PartitionFilter} (built₁ : tryFromList tables tuple₁ = .ok filter)
    (built₂ : tryFromList tables tuple₂ = .ok filter) : tuple₁ = tuple₂ := by
  unfold tryFromList at built₁ built₂
  split at built₁ <;> (try split at built₁) <;> simp only [Except.ok.injEq, reduceCtorEq] at built₁ <;>
    subst built₁ <;> split at built₂ <;> (try split at built₂) <;> simp_all

/-- Distinct triples give distinct results: a filter is built by one triple only, and a refusal
names the one triple refused. -/
theorem tryFrom_injective (tables : CharTables) : Function.Injective (tryFrom tables) := by
  intro tuple₁ tuple₂ same
  cases built : tryFrom tables tuple₁ with
  | ok filter => exact tryFrom_ok_injective built (same.symm.trans built)
  | error e => exact tryFrom_error_injective built (same.symm.trans built)

/-- Distinct tuples with lists of operands give distinct results. -/
theorem tryFromList_injective (tables : CharTables) : Function.Injective (tryFromList tables) := by
  intro tuple₁ tuple₂ same
  cases built : tryFromList tables tuple₁ with
  | ok filter => exact tryFromList_ok_injective built (same.symm.trans built)
  | error e => exact tryFromList_error_injective built (same.symm.trans built)

end PartitionFilter

end DeltaPartitions
