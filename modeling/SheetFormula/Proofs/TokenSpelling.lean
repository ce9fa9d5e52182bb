import SheetFormula.Proofs.DecimalText
import SheetFormula.Token.Record

namespace SheetFormula

/-!
# Tokens and their spellings

A token has a kind, a subtype and a text that spells its value, and from these three texts it is
read again.

* `Token.spelling` — the text that spells the value of a token.
* `Token.ofParts_kind_subtype_spelling` — every kind of token is read back from its three texts.
* `Token.ofParts_unrecognized` and `Token.ofParts_error` — what reading leaves open.
* `Token.ofParts_stable` — what has been read from three texts is read again from its own.
-/

namespace Token

variable {kind subtype value kind' subtype' value' : String} {t : Token} {e : ErrorValue}

/-- A text in quotes, the quotes inside it doubled. -/
def quoted (s : String) : String := String.ofList (Text.quote s.toList)

/-- The text that spells the value of a token: a text operand stands in quotes, and all else is
    spelled as it is shown. -/
def spelling : Token → String
  | text s => quoted s
  | t => t.payload

/-- Is the token a double?  Doubles do not keep their identity when they are shown. -/
def isFloat : Token → Bool
  | number (.float _) => true
  | _ => false

/-! ### Spellings are read back -/

theorem ofParts_text (value : String) : ofParts "OPERAND" "TEXT" value =
    .ok (text (String.ofList (Text.unquote value.toList))) := rfl

theorem ofParts_number (value : String) : ofParts "OPERAND" "NUMBER" value =
    ((Number.ofText? value).map number).elim
      (.error (.invalidValue "OPERAND" "NUMBER" .number value)) .ok := rfl

theorem ofParts_logical (value : String) : ofParts "OPERAND" "LOGICAL" value =
    ((logicalOfText? value).map logical).elim
      (.error (.invalidValue "OPERAND" "LOGICAL" .logical value)) .ok := rfl

theorem ofParts_omitted (value : String) : ofParts "OPERAND" "EMPTY" value = .ok omitted := rfl

/-- Quoting a text and reading it gives the text. -/
theorem ofParts_quoted (s : String) : ofParts "OPERAND" "TEXT" (quoted s) = .ok (.text s) := by
  have hunquote : String.ofList (Text.unquote (quoted s).toList) = s := by
    rw [quoted, String.toList_ofList, Text.unquote_quote, String.ofList_toList]
  exact (ofParts_text _).trans (congrArg (fun s => Except.ok (text s)) hunquote)

/-- The digits of a 64-bit integer are read back. -/
theorem ofParts_intText (i : Int64) :
    ofParts "OPERAND" "NUMBER" (Decimal.intText i.toInt) = .ok (.number (.int i)) := by
  rw [ofParts_number, Number.ofText?_intText]
  rfl

/-- The words of the truth values are read back. -/
theorem ofParts_logicalText (b : Bool) :
    ofParts "OPERAND" "LOGICAL" (logicalText b) = .ok (.logical b) := by
  have hread : logicalOfText? (logicalText b) = some b := by cases b <;> decide +kernel
  rw [ofParts_logical, hread]
  rfl

/-- The text of an error code gives the error without a message. -/
theorem ofParts_codeText (code : ErrorCode) :
    ofParts "OPERAND" "ERROR" code.text = .ok (failure code "") := by
  simp [ofParts, operandOfParts?, ErrorCode.ofText?_text]

/-- **Every kind of token is read back** from its three texts, doubles apart.  An error comes back
    without its message, and what is not recognized is read as its three texts are. -/
theorem ofParts_kind_subtype_spelling (hfloat : t.isFloat = false)
    (herror : ∀ e, t = .error e → e = ⟨e.code, "", none⟩)
    (hunrecognized : ∀ k s v, t = .unrecognized k s v → ofParts k s v = .ok t) :
    ofParts t.kind t.subtype t.spelling = .ok t := by
  -- By the class of the token; those without a case of their own have one spelling.
  cases t with
  | logical b => exact ofParts_logicalText b
  | text s => exact ofParts_quoted s
  | number n =>
    cases n with
    | int i => exact ofParts_intText i
    | float x => cases hfloat
  | error e =>
    rw [herror e rfl]
    exact ofParts_codeText e.code
  | unrecognized k s v => exact hunrecognized k s v rfl
  | _ => rfl

/-! ### What is read from three texts -/

/-- What is not recognized is kept as it is. -/
theorem structureOfParts_unrecognized (h : structureOfParts kind subtype value =
    .unrecognized kind' subtype' value') : kind' = kind ∧ subtype' = subtype ∧ value' = value := by
  unfold structureOfParts at h
  split at h <;> cases h
  exact ⟨rfl, rfl, rfl⟩

theorem structureOfParts_ne_error : structureOfParts kind subtype value ≠ .error e := by
  unfold structureOfParts
  split <;> simp

/-- An operand that is read is recognized, and an error among them has no message. -/
theorem operandOfParts?_eq_ok (h : operandOfParts? subtype value = some (.ok t)) :
    (∀ k s v, t ≠ .unrecognized k s v) ∧ ∀ e, t = .error e → e = ⟨e.code, "", none⟩ := by
  unfold operandOfParts? at h
  -- By the subtypes, of which only one gives errors.
  split at h
  · cases hb : logicalOfText? value <;> simp [hb] at h
    subst h
    exact ⟨by simp, by simp⟩
  · cases h
    exact ⟨by simp, by simp⟩
  · cases hn : Number.ofText? value <;> simp [hn] at h
    subst h
    exact ⟨by simp, by simp⟩
  · cases h
    exact ⟨by simp, by simp⟩
  · split at h <;> cases h
    exact ⟨by simp [failure], fun e he => by cases he; rfl⟩
  · cases h
    exact ⟨by simp, by simp⟩
  · cases h

/-- **What is not recognized is kept** as its three texts are. -/
theorem ofParts_unrecognized (h : ofParts kind subtype value =
    .ok (.unrecognized kind' subtype' value')) :
    kind' = kind ∧ subtype' = subtype ∧ value' = value := by
  unfold ofParts at h
  split at h
  · cases hop : operandOfParts? subtype value with
    | none =>
      rw [hop] at h
      cases h
      exact ⟨rfl, rfl, rfl⟩
    | some r =>
      rw [hop] at h
      have hr : r = .ok (.unrecognized kind' subtype' value') := h
      rw [hr] at hop
      exact absurd rfl ((operandOfParts?_eq_ok hop).1 kind' subtype' value')
  · exact structureOfParts_unrecognized (Except.ok.inj h)

/-- An error that is read from three texts has no message. -/
theorem ofParts_error (h : ofParts kind subtype value = .ok (.error e)) :
    e = ⟨e.code, "", none⟩ := by
  unfold ofParts at h
  split at h
  · cases hop : operandOfParts? subtype value with
    | none =>
      rw [hop] at h
      cases h
    | some r =>
      rw [hop] at h
      have hr : r = .ok (.error e) := h
      rw [hr] at hop
      exact (operandOfParts?_eq_ok hop).2 e rfl
  · exact absurd (Except.ok.inj h) structureOfParts_ne_error

/-- **Reading is stable.**  What has been read from three texts and is no double is read again from
    its own kind, subtype and spelling.  In particular a text in quotes stands for the text,
    whatever it contains, and the digits of a 64-bit integer for the integer; parentheses that are
    marked as infix operators become plain ones; and what is not recognized keeps its three texts,
    so that it never becomes a token of a known kind. -/
theorem ofParts_stable :
    (∀ kind subtype value t, ofParts kind subtype value = .ok t → t.isFloat = false →
      ofParts t.kind t.subtype t.spelling = .ok t) ∧
    (∀ s, ofParts "OPERAND" "TEXT" (quoted s) = .ok (.text s)) ∧
    (∀ i : Int64, ofParts "OPERAND" "NUMBER" (Decimal.intText i.toInt) = .ok (.number (.int i))) ∧
    (∀ value, ofParts "OPERATOR-INFIX" "OPEN" value = .ok .parenOpen ∧
      ofParts "OPERATOR-INFIX" "CLOSE" value = .ok .parenClose) ∧
    (parenOpen.kind, parenOpen.subtype) = ("PAREN", "OPEN") ∧
    (parenClose.kind, parenClose.subtype) = ("PAREN", "CLOSE") ∧
    (∀ kind subtype value kind' subtype' value',
      ofParts kind subtype value = .ok (.unrecognized kind' subtype' value') →
      (kind', subtype', value') = (kind, subtype, value)) := by
  refine ⟨?_, ofParts_quoted, ofParts_intText, ?_, rfl, rfl, ?_⟩
  · intro kind subtype value t h hfloat
    -- Errors and unrecognized tokens need what is known about where they come from.
    refine ofParts_kind_subtype_spelling hfloat ?_ ?_
    · rintro e rfl
      exact ofParts_error h
    · rintro k s v rfl
      obtain ⟨rfl, rfl, rfl⟩ := ofParts_unrecognized h
      exact h
  · intro value
    constructor
    · simp [ofParts, structureOfParts]
    · simp [ofParts, structureOfParts]
  · intro kind subtype value kind' subtype' value' h
    obtain ⟨rfl, rfl, rfl⟩ := ofParts_unrecognized h
    rfl

/-- The integer in ` +07 ` is spelled `7` when it is read again, and a parenthesis that is marked as
    an infix operator is spelled as a plain one. -/
theorem ofParts_stable_normalized :
    ofParts "OPERAND" "NUMBER" " +07 " = .ok (ofInt 7) ∧
      ofParts "OPERAND" "NUMBER" (ofInt 7).spelling = .ok (ofInt 7) ∧
      ofParts "OPERATOR-INFIX" "OPEN" "[" = .ok parenOpen ∧
      ofParts "PAREN" "OPEN" "(" = .ok parenOpen := by
  have hseven : ofParts "OPERAND" "NUMBER" " +07 " = .ok (ofInt 7) := by
    have hread : Number.ofText? " +07 " = some (.int 7) := by decide +kernel
    simp [ofParts, operandOfParts?, hread, ofInt]
  have hopen : ofParts "OPERATOR-INFIX" "OPEN" "[" = .ok parenOpen := by
    simp [ofParts, structureOfParts]
  exact ⟨hseven, ofParts_stable.1 _ _ _ _ hseven rfl, hopen, ofParts_stable.1 _ _ _ _ hopen rfl⟩

end Token

end SheetFormula
