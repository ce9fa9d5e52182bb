import SheetFormula.Proofs.TokenSpelling

namespace SheetFormula

/-!
# Records agree with texts

A record whose value is no double stands for the same token as the three texts that spell it, and
it is refused with the same error where they are.

* `TokenRecord.spelling?` — the text that spells the value of a record.
* `Token.ofRecord_null`, `ofRecord_logical`, `ofRecord_integer` and `ofRecord_string` — the record
  against the three texts, one lemma for each type of value.
* `Token.ofRecord_nested` — arrays and objects are no values of tokens.
* `Token.ofRecord_spelling` — all of these together.
-/

/-- Is the value an array or an object? -/
def Json.Value.isNested : Json.Value → Bool
  | .array _ | .object _ => true
  | _ => false

namespace TokenRecord

/-- The text that spells the value of a record: nothing for null, a capital word for a truth value,
    decimal digits for a 64-bit integer.  The string of a text operand is spelled in quotes. -/
def spelling? (r : TokenRecord) : Option String :=
  match r.value with
  | .null => some ""
  | .logical b => some (Token.logicalText b)
  | .integer n => if Number.Fits n then some (Decimal.intText n) else none
  | .string s => some (if r.kind = "OPERAND" ∧ r.subtype = "TEXT" then Token.quoted s else s)
  | .float _ | .array _ | .object _ => none

/-- Does the record give the code of an error as a string?  Only then its message counts. -/
def GivesCode (r : TokenRecord) : Prop :=
  r.kind = "OPERAND" ∧ r.subtype = "ERROR" ∧ ∃ s, r.value = .string s

end TokenRecord

namespace Token

variable {kind subtype s : String} {v : Json.Value} {message : Option String} {n : Int} {b : Bool}
  {x : Except TokenError Token}

/-- The token with this message, if it is an error. -/
def withMessage (message : String) : Token → Token
  | .error e => failure e.code message
  | t => t

/-! ### Values that are taken as they are -/

/-- The operand that a subtype and a value stand for without a text between them. -/
inductive TakenAsIs (message : Option String) :
    String → Json.Value → Except TokenError Token → Prop
  | omitted (v : Json.Value) : TakenAsIs message "EMPTY" v (.ok .omitted)
  | logical (b : Bool) : TakenAsIs message "LOGICAL" (.logical b) (.ok (.logical b))
  | integer (n : Int) :
    TakenAsIs message "NUMBER" (.integer n) (.ok (.number (Number.intOr n (Float.ofInt n))))
  | float (x : Float) : TakenAsIs message "NUMBER" (.float x) (.ok (.number (.float x)))
  | text (s : String) : TakenAsIs message "TEXT" (.string s) (.ok (.text s))
  | code (s : String) (x : Except TokenError Token) : TakenAsIs message "ERROR" (.string s) x

/-- Records that give an operand without its spelling are of these forms. -/
theorem takenAsIs_of_operandOfRecord?
    (h : operandOfRecord? ⟨kind, subtype, v, message⟩ = some x) :
    TakenAsIs message subtype v x := by
  unfold operandOfRecord? at h
  split at h
  -- The code of an error is looked up, so this branch has two outcomes.
  case h_6 s hsubtype hvalue =>
    obtain rfl : subtype = "ERROR" := hsubtype
    obtain rfl : v = .string s := hvalue
    exact .code s x
  all_goals
    simp only at *
    subst_vars
    first
    | (cases h; constructor)
    | cases h

/-! ### One lemma for each type of value -/

/-- A value that is not taken as it is stands for what its text stands for. -/
theorem ofRecord_eq_ofParts (hs : v.scalarText? = some s)
    (hv : kind = "OPERAND" → ∀ x, operandOfRecord? ⟨kind, subtype, v, message⟩ = some x →
      x = ofParts kind subtype s) :
    ofRecord ⟨kind, subtype, v, message⟩ = ofParts kind subtype s := by
  have htext : ofRecordText ⟨kind, subtype, v, message⟩ = ofParts kind subtype s := by
    simp only [ofRecordText, hs]
  unfold ofRecord
  -- Other records than operands are read by their texts alone.
  by_cases hkind : kind = "OPERAND"
  · rw [if_pos hkind]
    cases hx : operandOfRecord? ⟨kind, subtype, v, message⟩ with
    | none => exact htext
    | some x => exact hv hkind x hx
  · rw [if_neg hkind]
    exact htext

/-- Null is read as the empty text. -/
theorem ofRecord_null : ofRecord ⟨kind, subtype, .null, message⟩ = ofParts kind subtype "" := by
  refine ofRecord_eq_ofParts rfl ?_
  rintro rfl x hx
  cases takenAsIs_of_operandOfRecord? hx
  rw [ofParts_omitted]

/-- A truth value is read by its word, whatever the subtype says. -/
theorem ofRecord_logical :
    ofRecord ⟨kind, subtype, .logical b, message⟩ = ofParts kind subtype (logicalText b) := by
  refine ofRecord_eq_ofParts rfl ?_
  rintro rfl x hx
  cases takenAsIs_of_operandOfRecord? hx with
  | logical => exact (ofParts_logicalText b).symm
  | omitted => rw [ofParts_omitted]

/-- A 64-bit integer is read by its decimal digits, whatever the subtype says. -/
theorem ofRecord_integer (hn : Number.Fits n) :
    ofRecord ⟨kind, subtype, .integer n, message⟩ =
      ofParts kind subtype (Decimal.intText n) := by
  refine ofRecord_eq_ofParts rfl ?_
  rintro rfl x hx
  obtain ⟨i, hfit, rfl⟩ := Number.exists_fit? hn
  -- An integer is taken as it is by a number, and an empty operand takes anything.
  cases takenAsIs_of_operandOfRecord? hx with
  | integer =>
    rw [Number.intOr, hfit]
    exact (ofParts_intText i).symm
  | omitted => rw [ofParts_omitted]

/-- The code of an error is read like a text, and the message of the record is added. -/
theorem ofRecord_code :
    ofRecord ⟨"OPERAND", "ERROR", .string s, message⟩ =
      (ofParts "OPERAND" "ERROR" s).map (withMessage (message.getD "")) := by
  cases hcode : ErrorCode.ofText? s with
  | none => simp [ofRecord, operandOfRecord?, ofParts, operandOfParts?, hcode, Except.map]
  | some code =>
    simp [ofRecord, operandOfRecord?, ofParts, operandOfParts?, hcode, Except.map, withMessage,
      failure]

/-- Without a message the error has the empty one that is read from its three texts. -/
theorem ofRecord_code_none :
    ofRecord ⟨"OPERAND", "ERROR", .string s, none⟩ = ofParts "OPERAND" "ERROR" s := by
  rw [ofRecord_code]
  cases hr : ofParts "OPERAND" "ERROR" s with
  | error x => rfl
  | ok t =>
    cases t with
    | error e =>
      rw [ofParts_error hr]
      rfl
    | _ => rfl

/-- A string stands for what it spells, and for a text operand it is spelled in quotes. -/
theorem ofRecord_string (herror : ¬ (kind = "OPERAND" ∧ subtype = "ERROR")) :
    ofRecord ⟨kind, subtype, .string s, message⟩ =
      ofParts kind subtype (if kind = "OPERAND" ∧ subtype = "TEXT" then quoted s else s) := by
  by_cases htext : kind = "OPERAND" ∧ subtype = "TEXT"
  · obtain ⟨rfl, rfl⟩ := htext
    rw [if_pos ⟨rfl, rfl⟩, ofParts_quoted]
    rfl
  rw [if_neg htext]
  refine ofRecord_eq_ofParts rfl ?_
  rintro rfl x hx
  cases takenAsIs_of_operandOfRecord? hx with
  | omitted => rw [ofParts_omitted]
  | text => exact absurd ⟨rfl, rfl⟩ htext
  | code => exact absurd ⟨rfl, rfl⟩ herror

/-- Arrays and objects stand for nothing but an omitted argument. -/
theorem ofRecord_nested (hv : v.isNested = true) :
    ofRecord ⟨kind, subtype, v, message⟩ =
      if kind = "OPERAND" ∧ subtype = "EMPTY" then .ok .omitted
      else .error (.invalidValue kind subtype .scalar v.render) := by
  have htext : ofRecordText ⟨kind, subtype, v, message⟩ =
      .error (.invalidValue kind subtype .scalar v.render) := by
    cases v with
    | array items => rfl
    | object members => rfl
    | _ => cases hv
  -- An empty operand does not look at its value at all.
  by_cases hempty : kind = "OPERAND" ∧ subtype = "EMPTY"
  · obtain ⟨rfl, rfl⟩ := hempty
    rw [if_pos ⟨rfl, rfl⟩]
    rfl
  rw [if_neg hempty, ← htext]
  unfold ofRecord
  split
  · next hkind =>
    cases hx : operandOfRecord? ⟨kind, subtype, v, message⟩ with
    | none => rfl
    | some x =>
      cases takenAsIs_of_operandOfRecord? hx with
      | omitted => exact absurd ⟨hkind, rfl⟩ hempty
      | _ => cases hv
  · rfl

/-! ### All values -/

/-- **Records agree with texts.**  A record whose value has a spelling stands for the token, or is
    refused with the error, of its kind, its subtype and the spelling.  The only difference is that
    an error given by its code carries the message of the record, if there is one, and not an empty
    one.  A record with an array or an object stands for an omitted argument if it is marked as
    one, and it is refused otherwise, because its value is no scalar. -/
theorem ofRecord_spelling (r : TokenRecord) :
    (∀ s, r.spelling? = some s → r.message = none ∨ ¬ r.GivesCode →
      ofRecord r = ofParts r.kind r.subtype s) ∧
    (∀ s m, r.spelling? = some s → r.message = some m → r.GivesCode →
      ofRecord r = (ofParts r.kind r.subtype s).map (withMessage m)) ∧
    (r.value.isNested = true →
      ofRecord r = if r.kind = "OPERAND" ∧ r.subtype = "EMPTY" then .ok .omitted
        else .error (.invalidValue r.kind r.subtype .scalar r.value.render)) := by
  obtain ⟨kind, subtype, value, message⟩ := r
  refine ⟨?_, ?_, fun hv => ofRecord_nested hv⟩
  · intro s hs hcode
    -- By the kind of the value; the floats and the nested values have no spelling here.
    cases value with
    | null =>
      cases hs
      exact ofRecord_null
    | logical b =>
      cases hs
      exact ofRecord_logical
    | integer n =>
      obtain ⟨hn, heq⟩ := Option.ite_none_right_eq_some.mp hs
      cases heq
      exact ofRecord_integer hn
    | string text =>
      cases hs
      by_cases herror : kind = "OPERAND" ∧ subtype = "ERROR"
      · obtain ⟨rfl, rfl⟩ := herror
        have hnone : message = none := hcode.resolve_right (not_not_intro ⟨rfl, rfl, text, rfl⟩)
        rw [hnone]
        exact ofRecord_code_none
      · exact ofRecord_string herror
    | float x => cases hs
    | array items => cases hs
    | object members => cases hs
  · rintro s m hs rfl ⟨rfl, rfl, text, rfl⟩
    cases hs
    exact ofRecord_code

/-- The smallest integer as a number, an error with a message, and a list where a range should be
    named. -/
theorem ofRecord_spelling_lookup :
    ofRecord ⟨"OPERAND", "NUMBER", .integer (-9223372036854775808), some "m"⟩ =
        ofParts "OPERAND" "NUMBER" "-9223372036854775808" ∧
      ofRecord ⟨"OPERAND", "ERROR", .string "#n/a", some "lookup failed"⟩ =
        .ok (failure .notAvailable "lookup failed") ∧
      ofRecord ⟨"OPERAND", "RANGE", .array [.null], none⟩ =
        .error (.invalidValue "OPERAND" "RANGE" .scalar "[null]") := by
  have hread : ofParts "OPERAND" "ERROR" "#n/a" = .ok (failure .notAvailable "") := by
    have hcode : ErrorCode.ofText? "#n/a" = some .notAvailable := by decide +kernel
    simp [ofParts, operandOfParts?, hcode]
  refine ⟨?_, ?_, ?_⟩
  · have hspelling : TokenRecord.spelling? ⟨"OPERAND", "NUMBER", .integer (-9223372036854775808),
        some "m"⟩ = some "-9223372036854775808" := by decide +kernel
    exact (ofRecord_spelling _).1 _ hspelling (.inr fun h => absurd h.2.1 (by decide))
  · rw [(ofRecord_spelling ⟨"OPERAND", "ERROR", .string "#n/a", some "lookup failed"⟩).2.1 "#n/a"
      "lookup failed" rfl rfl ⟨rfl, rfl, "#n/a", rfl⟩, hread]
    rfl
  · exact (ofRecord_spelling ⟨"OPERAND", "RANGE", .array [.null], none⟩).2.2 rfl

end Token

end SheetFormula
