import SheetFormula.Proofs.JsonText
import SheetFormula.Proofs.RecordSpelling
import SheetFormula.Proofs.ValueOrder
import SheetFormula.Proofs.ValueSafety

namespace SheetFormula

/-!
# Results as inputs

The JSON value of a result, put into a record with the subtype of the token that it came from, is
read as this token again.  The value always has the JSON type that the subtype asks for, so it is
never read as text: a text keeps its quotes, and a whole double does not become an integer.

* `Json.Value.ReadsAs` — the value that a JSON text stands for on a line of its own.
* `Scalar.readsAs_toJson` — the text of a result stands for its value, unless that is a double;
  `Json.Value.isFloat_of_readsAs` — the text of a double stands for a double and no integer.
* `Token.operandRecord` and `Token.ofJson_operandRecord` — the record of an operand, and reading it.
* `Token.ofJson_operandRecord_scalar` — results come back.
-/

namespace Json

variable {v : Value} {n : Int} {x : Float} {d : Decimal}

/-! ### The text of a value -/

/-- Is the value a double? -/
def Value.isFloat : Value → Bool
  | .float _ => true
  | _ => false

/-- The text of the first value, on a line of its own, stands for the second one. -/
def Value.ReadsAs (v w : Value) : Prop := Value.parse? (v.render ++ "\n") = some w

/-- The text stands for what its syntax tree means. -/
theorem Value.readsAs_iff {t : Tree} {w : Value} (h : Tree.parse? (v.render ++ "\n") = some t) :
    v.ReadsAs w ↔ t.value? maxLevels = some w := by
  unfold ReadsAs parse?
  rw [h]
  exact Iff.rfl

theorem readsAs_null : Value.null.ReadsAs .null :=
  (Value.readsAs_iff (v := .null) Tree.parse?_null).mpr rfl

theorem readsAs_logical (b : Bool) : (Value.logical b).ReadsAs (.logical b) :=
  (Value.readsAs_iff (Tree.parse?_logical b)).mpr rfl

/-- Strings are read back, whatever is in them. -/
theorem readsAs_string (s : String) : (Value.string s).ReadsAs (.string s) := by
  refine (Value.readsAs_iff (v := .string s) (Tree.parse?_string s)).mpr ?_
  show (textOfParts? (s.toList.map partOfChar)).map Value.string = some (.string s)
  rw [textOfParts?_partOfChar]
  rfl

/-- All 64-bit integers are read back, the smallest one too. -/
theorem readsAs_integer (hn : Number.Fits n) : (Value.integer n).ReadsAs (.integer n) := by
  have hrange : Int64.minValue.toInt ≤ n ∧ n < UInt64.size := by
    refine ⟨hn.1, ?_⟩
    have hmax : Int64.maxValue.toInt < (UInt64.size : Int) := by decide
    have hle := hn.2
    omega
  rw [Value.readsAs_iff (Tree.parse?_integer n)]
  show (literalOfInt n).value? = _
  unfold NumberLiteral.value?
  rw [integer?_literalOfInt, Option.filter_some_pos (by simpa using hrange)]

/-- A double in JSON has a point or an exponent. -/
theorem isInteger_numeral_json : (Decimal.json.numeral d).isInteger = false := by
  unfold Decimal.Style.numeral
  split
  · -- With its point in place, a whole number is written with `.0`.
    unfold Decimal.Style.positionalNumeral
    dsimp only
    split
    · rfl
    split
    · rfl
    · rfl
  · simp [Decimal.Style.scientificNumeral, Numeral.isInteger]

/-- **Doubles stay doubles.**  The text of a finite double never stands for an integer. -/
theorem Value.isFloat_of_readsAs (hx : Binary64.isFinite x = true) (h : (Value.float x).ReadsAs v) :
    v.isFloat = true := by
  -- A double is never spelled like an integer, so it is read as a double or not at all.
  have hinteger : (literalOfFloat x).integer? = none := by
    refine if_neg fun hspelled => ?_
    have hnumeral : (literalOfFloat x).numeral.isInteger = false := isInteger_numeral_json
    rw [hnumeral] at hspelled
    exact absurd hspelled.1 Bool.false_ne_true
  have hvalue : (literalOfFloat x).value? = some v :=
    (readsAs_iff (Tree.parse?_float hx)).mp h
  unfold NumberLiteral.value? at hvalue
  rw [hinteger] at hvalue
  obtain ⟨-, hv⟩ := Option.ite_none_right_eq_some.mp hvalue
  rw [← Option.some.inj hv]
  rfl

end Json

/-- No finite number is a NaN. -/
theorem Number.isNaN_of_isFinite {n : Number} (h : n.isFinite = true) : n.isNaN = false := by
  cases n with
  | int i => rfl
  | float x =>
    have hlt : Binary64.magnitude x < Binary64.infinityMagnitude := of_decide_eq_true h
    exact decide_eq_false (Nat.lt_asymm hlt)

namespace Scalar

variable {s : Scalar} {x : Float}

/-- A finite double is a number in JSON as well; the others become null. -/
theorem toJson_finite (hx : Binary64.isFinite x = true) :
    toJson (.number (.float x)) = .float x := if_pos hx

/-- A double that is not finite is written as null. -/
theorem toJson_nonFinite (hx : Binary64.isFinite x ≠ true) :
    toJson (.number (.float x)) = .null := if_neg hx

/-- Only a finite double has a double for its JSON value. -/
theorem eq_float_of_isFloat_toJson (h : s.toJson.isFloat = true) :
    ∃ x, Binary64.isFinite x = true ∧ s.toJson = .float x := by
  cases s with
  | number n =>
    cases n with
    | int i => cases h
    | float x =>
      by_cases hx : Binary64.isFinite x = true
      · exact ⟨x, hx, toJson_finite hx⟩
      · rw [toJson_nonFinite hx] at h
        cases h
  | _ => cases h

/-- The text of a result stands for its JSON value, if that is no double. -/
theorem readsAs_toJson (h : s.toJson.isFloat = false) : s.toJson.ReadsAs s.toJson := by
  cases s with
  | empty => exact Json.readsAs_null
  | logical b => exact Json.readsAs_logical b
  | text s => exact Json.readsAs_string s
  | error c => exact Json.readsAs_string c.text
  | number n =>
    cases n with
    | int i => exact Json.readsAs_integer (Number.fits_toInt i)
    | float x =>
      -- A double that is not finite is written as null.
      by_cases hx : Binary64.isFinite x = true
      · rw [toJson_finite hx] at h
        cases h
      · rw [toJson_nonFinite hx]
        exact Json.readsAs_null

end Scalar

namespace Token

variable {t : Token} {subtype : String} {v : Json.Value} {x : Except TokenError Token}

/-! ### The record of an operand -/

/-- The record of an operand with this subtype and value, its members in the order of their
    names. -/
def operandRecord (subtype : String) (v : Json.Value) : Json.Value :=
  .object [("subtype", .string subtype), ("type", .string "OPERAND"), ("value", v)]

/-- An object with the three fields is read as the record with them, and it has no message. -/
theorem ofJson_operandRecord :
    ofJson (operandRecord subtype v) = ofRecord ⟨"OPERAND", subtype, v, none⟩ := by
  simp [ofJson, operandRecord, TokenRecord.ofValue?, TokenRecord.ofMembers?, List.lookup_cons]

/-- A value of the JSON type that the subtype asks for is taken as it is. -/
theorem ofJson_operandRecord_of_taken
    (h : operandOfRecord? ⟨"OPERAND", subtype, v, none⟩ = some x) :
    ofJson (operandRecord subtype v) = x := by
  rw [ofJson_operandRecord, ofRecord, if_pos rfl, h]
  rfl

/-! ### Results -/

/-- A finite number is not NaN, so the value has its place in the order. -/
theorem isOrdered_of_isFiniteValue (h : t.isFiniteValue = true) (herror : t.isError = false) :
    t.isOrdered = true := by
  obtain ⟨hvalue, hfinite⟩ := Bool.and_eq_true_iff.mp h
  rw [isOrdered_iff, isComparable, hvalue, herror]
  refine ⟨rfl, ?_⟩
  cases t with
  | number n => exact Number.isNaN_of_isFinite hfinite
  | _ => rfl

/-- A value without its message is equal to itself. -/
theorem equals_withMessage (h : t.isFiniteValue = true) (message : String) :
    (t.withMessage message).equals t = true := by
  cases t with
  | error e => exact beq_self_eq_true e.code
  | logical _ | text _ | number _ | omitted =>
    have hself := sameValue_self (isOrdered_of_isFiniteValue h rfl)
    exact (Bool.and_eq_true_iff.mp hself).2
  | _ => cases h

/-- The record of a value is read as the value, and only an error loses its message. -/
theorem ofJson_operandRecord_toJson {s : Scalar} (h : t.isFiniteValue = true)
    (hs : t.scalar? = some s) :
    ofJson (operandRecord t.subtype s.toJson) = .ok (t.withMessage "") := by
  refine ofJson_operandRecord_of_taken ?_
  cases t with
  | logical b | text s | omitted =>
    cases hs
    rfl
  | error e =>
    cases hs
    -- The code is read back from its text, and there is no message beside it.
    have hcode := ErrorCode.ofText?_text e.code
    simp [operandOfRecord?, subtype, Scalar.toJson, hcode, withMessage]
  | number n =>
    cases hs
    cases n with
    | int i =>
      show some (Except.ok (number (Number.intOr i.toInt _))) = _
      rw [Number.intOr, Number.fit?_eq_some_iff.mpr rfl]
      rfl
    | float x =>
      have hx : Binary64.isFinite x = true := (Bool.and_eq_true_iff.mp h).2
      rw [Scalar.toJson_finite hx]
      rfl
  | _ => cases hs

/-- The JSON value of a result is a double if and only if the token is one. -/
theorem isFloat_toJson {s : Scalar} (h : t.isFiniteValue = true) (hs : t.scalar? = some s) :
    s.toJson.isFloat = t.isFloat := by
  cases t with
  | logical b | text s | omitted | error e =>
    cases hs
    rfl
  | number n =>
    cases hs
    cases n with
    | int i => rfl
    | float x =>
      have hx : Binary64.isFinite x = true := (Bool.and_eq_true_iff.mp h).2
      rw [Scalar.toJson_finite hx]
      rfl
  | _ => cases hs

/-- **Results come back.**  Every value is a result, and the record of its subtype and its JSON
    value is read as this value again: an integer as this integer, a finite double as this double,
    and a text as it is, even if it stands in quotes or spells a number or an error.  An error comes
    back with its code, which is all that makes errors equal, but without its message.  The text of
    the JSON value stands for the value, and for a double it stands at least for a double. -/
theorem ofJson_operandRecord_scalar (h : t.isFiniteValue = true) :
    ∃ s, t.scalar? = some s ∧
      ofJson (operandRecord t.subtype s.toJson) = .ok (t.withMessage "") ∧
      (t.withMessage "").equals t = true ∧
      (t.isError = false → t.withMessage "" = t) ∧
      (t.isFloat = false → s.toJson.ReadsAs s.toJson) ∧
      (t.isFloat = true → ∀ v, s.toJson.ReadsAs v → v.isFloat = true) := by
  -- Finite values are among the tokens that have a scalar.
  have hproper : t.Proper fun _ => True := proper_of_isFiniteValue h fun _ _ => trivial
  obtain ⟨s, hs⟩ := hproper.exists_scalar
  refine ⟨s, hs, ofJson_operandRecord_toJson h hs, equals_withMessage h "", ?_, ?_, ?_⟩
  · intro herror
    cases t with
    | error e => cases herror
    | _ => rfl
  · intro hfloat
    rw [← isFloat_toJson h hs] at hfloat
    exact Scalar.readsAs_toJson hfloat
  · intro hfloat v hread
    rw [← isFloat_toJson h hs] at hfloat
    obtain ⟨x, hx, hjson⟩ := Scalar.eq_float_of_isFloat_toJson hfloat
    rw [hjson] at hread
    exact Json.Value.isFloat_of_readsAs hx hread

/-- A text in quotes that would be the code of an error without them, the smallest integer, a whole
    double and an error with a message. -/
theorem ofJson_operandRecord_scalar_hard :
    ofJson (operandRecord "TEXT" (.string "\"#N/A\"")) = .ok (.text "\"#N/A\"") ∧
      ofJson (operandRecord "NUMBER" (.integer (-9223372036854775808))) =
        .ok (.ofInt (-9223372036854775808)) ∧
      ofJson (operandRecord "NUMBER" (.float 3)) = .ok (.number (.float 3)) ∧
      ofJson (operandRecord "ERROR" (.string "#N/A")) = .ok (.failure .notAvailable "") := by
  have hthree : Binary64.isFinite 3 = true := by decide
  refine ⟨?_, ?_, ?_, ?_⟩
  · obtain ⟨s, hs, hread, -⟩ := ofJson_operandRecord_scalar (t := .text "\"#N/A\"") (by decide)
    cases hs
    exact hread
  · obtain ⟨s, hs, hread, -⟩ :=
      ofJson_operandRecord_scalar (t := .ofInt (-9223372036854775808)) (by decide)
    cases hs
    exact hread
  · obtain ⟨s, hs, hread, -⟩ := ofJson_operandRecord_scalar (t := .number (.float 3)) (by decide)
    cases hs
    rwa [Scalar.toJson_finite hthree] at hread
  · obtain ⟨s, hs, hread, -⟩ :=
      ofJson_operandRecord_scalar (t := .failure .notAvailable "No match.") (by decide)
    cases hs
    exact hread

end Token

end SheetFormula
