import Mathlib.Data.List.Chain
import Mathlib.Data.List.Forall2
import SheetFormula.Proofs.TokenSpelling
import SheetFormula.Proofs.UpperCase

namespace SheetFormula

/-!
# Words in any letter case

A truth value or the code of an error is read from a word of ASCII capitals, digits and marks, and
the letter case does not matter: a text stands for the word if its upper case is the word.  Upper
case knows more letters than the ASCII ones.  The dotless i is a small `I`, and the long s is a
small `S`; a ligature becomes several capitals at once.  No word here holds the letters of a
ligature side by side, so a text that is read has one character for each character of the word.

* `Text.SameLetter` and `Text.Spells` — the same letter in another case, and a word so spelled.
* `Text.upperChar_letter` — what the upper case of one character means for a plain word.
* `Text.upper_eq_iff` — a text with the upper case of a plain word spells it, by induction.
* `Token.words_in_any_case` — which texts are truth values and codes.
* `Token.words_beyond_ascii` — two texts with a letter that is not ASCII.
-/

namespace Text

variable {c w : Char} {cs ws : List Char} {word s : String}

/-! ### Letters and words -/

/-- Are both characters the same, ASCII letter case aside? -/
def SameAscii (w c : Char) : Prop := c.toUpper = w.toUpper

instance (w c : Char) : Decidable (SameAscii w c) := inferInstanceAs (Decidable (_ = _))

/-- Is `c` the character `w` of a word, letter case aside? -/
inductive SameLetter : Char → Char → Prop
  | ascii {w c : Char} (h : SameAscii w c) : SameLetter w c
  | dotlessI : SameLetter 'I' 'ı'
  | longS : SameLetter 'S' 'ſ'

/-- Is the text the word, character by character and letter case aside? -/
def Spells (word s : String) : Prop := List.Forall₂ SameLetter word.toList s.toList

/-- Is the text the word, ASCII letter case aside? -/
def SpellsInAscii (word s : String) : Prop := List.Forall₂ SameAscii word.toList s.toList

instance (word s : String) : Decidable (SpellsInAscii word s) :=
  inferInstanceAs (Decidable (List.Forall₂ _ _ _))

/-- Is the character an ASCII one, and no small letter? -/
def isPlain (c : Char) : Bool := c.toNat < 128 && c.toUpper == c

/-- **Plain words**: ASCII characters without small letters, and no two that a ligature makes. -/
structure PlainWord (ws : List Char) : Prop where
  plain : ∀ w ∈ ws, isPlain w = true
  apart : ws.IsChain fun a b => (a, b) ∉ ligatures

theorem PlainWord.tail (h : PlainWord (w :: ws)) : PlainWord ws :=
  ⟨fun v hv => h.plain v (List.mem_cons_of_mem w hv), h.apart.tail⟩

/-! ### One character -/

/-- A plain character is its own capital. -/
theorem toUpper_of_isPlain (hw : isPlain w = true) : w.toUpper = w := by
  simp only [isPlain, Bool.and_eq_true, beq_iff_eq] at hw
  exact hw.2

theorem toNat_of_isPlain (hw : isPlain w = true) : w.toNat < 128 := by
  simp only [isPlain, Bool.and_eq_true, decide_eq_true_eq] at hw
  exact hw.1

/-- Only small ASCII letters have another ASCII capital. -/
theorem toUpper_of_foreign (hc : 128 ≤ c.toNat) : c.toUpper = c := by
  apply toUpper_of_not_small
  rw [Bool.eq_false_iff, Ne, CaseRun.contains_iff]
  rintro ⟨-, hlast, -⟩
  have hlast : c.toNat ≤ 0x7A := hlast
  omega

/-- The letter of a plain character: itself in either case, or one of the two from beyond ASCII. -/
theorem sameLetter_iff (hw : isPlain w = true) :
    SameLetter w c ↔ w = c.toUpper ∨ w = 'I' ∧ c = 'ı' ∨ w = 'S' ∧ c = 'ſ' := by
  -- The letter of the word is a capital, so only the other one is changed.
  have hupper : w.toUpper = w := toUpper_of_isPlain hw
  constructor
  · intro h
    cases h with
    | ascii h => exact .inl (hupper.symm.trans h.symm)
    | dotlessI => exact .inr (.inl ⟨rfl, rfl⟩)
    | longS => exact .inr (.inr ⟨rfl, rfl⟩)
  · rintro (h | ⟨rfl, rfl⟩ | ⟨rfl, rfl⟩)
    · exact .ascii (h.symm.trans hupper.symm)
    · exact .dotlessI
    · exact .longS

/-- A plain word does not start like the upper case of a character beyond ASCII, but for the dotless
    i and the long s. -/
theorem PlainWord.not_prefix (hws : PlainWord ws) (hc : 128 ≤ c.toNat) (hi : c ≠ 'ı')
    (hs : c ≠ 'ſ') : ¬ upperChar c <+: ws := by
  rintro ⟨rest, rfl⟩
  rcases upperChar_cases hc hi hs with h | ⟨u, hu, hforeign⟩
  · -- The letters of a ligature would stand side by side.
    match upperChar c, h, hws.apart with
    | a :: b :: _, h, hapart =>
      rw [startsLigature, List.contains_iff_mem] at h
      exact List.rel_of_isChain_cons_cons hapart h
  · have hplain := toNat_of_isPlain (hws.plain u (List.mem_append_left rest hu))
    omega

/-- **The upper case of a character** is the one plain character whose letter it is, or it is the
    letter of no plain character, and then no plain word starts with its upper case. -/
theorem upperChar_letter (c : Char) :
    (∃ u, upperChar c = [u] ∧ ∀ w, isPlain w = true → (SameLetter w c ↔ w = u)) ∨
      (∀ w, isPlain w = true → ¬ SameLetter w c) ∧
        ∀ ws, PlainWord ws → ¬ upperChar c <+: ws := by
  by_cases hi : c = 'ı'
  · subst hi
    refine .inl ⟨'I', upperChar_dotlessI, fun w hw => ?_⟩
    have hne : w ≠ 'ı' := by
      rintro rfl
      cases hw
    rw [sameLetter_iff hw]
    simp [toUpper_of_foreign (c := 'ı') (by decide), hne]
  by_cases hs : c = 'ſ'
  · subst hs
    refine .inl ⟨'S', upperChar_longS, fun w hw => ?_⟩
    have hne : w ≠ 'ſ' := by
      rintro rfl
      cases hw
    rw [sameLetter_iff hw]
    simp [toUpper_of_foreign (c := 'ſ') (by decide), hne]
  rcases Nat.lt_or_ge c.toNat 128 with hc | hc
  · refine .inl ⟨c.toUpper, upperChar_of_ascii hc, fun w hw => ?_⟩
    simp [sameLetter_iff hw, hi, hs]
  · refine .inr ⟨fun w hw h => ?_, fun ws hws => hws.not_prefix hc hi hs⟩
    -- Beyond ASCII a character is its own capital, and a plain character stands in ASCII.
    have hsame : w = c := by simpa [sameLetter_iff hw, hi, hs, toUpper_of_foreign hc] using h
    have hplain := toNat_of_isPlain hw
    rw [hsame] at hplain
    omega

/-! ### Words -/

/-- **A text has the upper case of a plain word** exactly if it spells the word. -/
theorem upper_eq_iff (hws : PlainWord ws) : upper cs = ws ↔ List.Forall₂ SameLetter ws cs := by
  -- By induction on the text; each of its characters accounts for one character of the word.
  induction cs generalizing ws with
  | nil => simp [upper, eq_comm]
  | cons c cs ih =>
    have hupper : upper (c :: cs) = upperChar c ++ upper cs := List.flatMap_cons
    rw [hupper]
    rcases upperChar_letter c with ⟨u, hu, hletter⟩ | ⟨hletter, hprefix⟩
    · rw [hu, List.singleton_append]
      cases ws with
      | nil => simp
      | cons w ws =>
        rw [List.cons.injEq, List.forall₂_cons, hletter w (hws.plain w List.mem_cons_self),
          ih hws.tail, eq_comm (a := u)]
    · refine iff_of_false (fun h => hprefix ws hws ⟨upper cs, h⟩) fun h => ?_
      obtain ⟨w, ws, hw, -, rfl⟩ := List.forall₂_cons_right_iff.mp h
      exact hletter w (hws.plain w List.mem_cons_self) hw

/-- Spelling a plain word is having it as upper case. -/
theorem spells_iff_upper (hword : PlainWord word.toList) :
    Spells word s ↔ upper s.toList = word.toList := (upper_eq_iff hword).symm

/-- So a text is taken for a plain word if it spells it. -/
theorem isWord_iff (hword : PlainWord word.toList) : isWord word s = true ↔ Spells word s := by
  rw [isWord, beq_iff_eq, spells_iff_upper hword]

/-- The words that a text has the upper case of are the same. -/
theorem eq_of_isWord {word' : String} (h : isWord word s = true) (h' : isWord word' s = true) :
    word = word' := by
  rw [isWord, beq_iff_eq] at h h'
  exact String.toList_inj.mp (h.symm.trans h')

/-- A text is as long as the word that it spells. -/
theorem Spells.length_eq (h : Spells word s) : s.length = word.length := by
  rw [← String.length_toList, ← String.length_toList]
  exact (List.Forall₂.length_eq h).symm

end Text

/-! ### Truth values and codes -/

open Text

/-- The words for truth values are plain. -/
theorem Token.plainWord_logicalText (b : Bool) : PlainWord (logicalText b).toList := by
  cases b <;> exact ⟨List.all_eq_true.mp (by decide), by decide⟩

/-- The words for codes are plain, and `/`, `!` and `#` stand for themselves. -/
theorem ErrorCode.plainWord_text (c : ErrorCode) : PlainWord c.text.toList := by
  cases c <;> exact ⟨List.all_eq_true.mp (by decide), by decide⟩

/-- Two codes do not share a word. -/
theorem ErrorCode.text_inj {c c' : ErrorCode} (h : c.text = c'.text) : c = c' := by
  have hread := ofText?_text c
  rw [h, ofText?_text c'] at hread
  exact (Option.some.inj hread).symm

variable {v : String} {b : Bool} {c : ErrorCode}

/-- A text is a truth value if it spells its word. -/
theorem Token.logicalOfText?_eq_some_iff :
    logicalOfText? v = some b ↔ Spells (logicalText b) v := by
  rw [← isWord_iff (plainWord_logicalText b)]
  unfold logicalOfText?
  cases b with
  | true => simp [logicalText]
  | false =>
    -- The word for false is not the word for true, which is tried first.
    have hother (h : isWord "FALSE" v = true) : isWord "TRUE" v = false := by
      apply Bool.eq_false_iff.mpr
      intro h'
      exact absurd (eq_of_isWord h h') (by decide)
    simp only [logicalText]
    by_cases h : isWord "FALSE" v = true
    · simp [h, hother h]
    · simp [h]

/-- A text is a code if it spells its word. -/
theorem ErrorCode.ofText?_eq_some_iff : ofText? v = some c ↔ Spells c.text v := by
  rw [← isWord_iff (plainWord_text c)]
  have hfound {c : ErrorCode} (h : ofText? v = some c) : isWord c.text v = true := by
    simpa using List.find?_some h
  constructor
  · exact hfound
  · intro h
    cases hread : ofText? v with
    | none =>
      -- Every code is looked at.
      have hnone := List.find?_eq_none.mp hread c (mem_all c)
      exact absurd h hnone
    | some c' => rw [text_inj (eq_of_isWord (hfound hread) h)]

/-- A logical operand is read from a text that spells its word. -/
theorem Token.ofParts_logical_eq_ok_iff :
    ofParts "OPERAND" "LOGICAL" v = .ok (.logical b) ↔ Spells (logicalText b) v := by
  rw [ofParts_logical, ← logicalOfText?_eq_some_iff]
  cases logicalOfText? v <;> simp

/-- It is refused, with the whole triple, if the text spells neither word. -/
theorem Token.ofParts_logical_eq_error_iff :
    ofParts "OPERAND" "LOGICAL" v = .error (.invalidValue "OPERAND" "LOGICAL" .logical v) ↔
      ∀ b, ¬ Spells (logicalText b) v := by
  simp only [ofParts_logical, ← logicalOfText?_eq_some_iff]
  cases logicalOfText? v <;> simp

/-- **Words in any letter case.**  A text is read as a truth value, or as the code of an error,
    exactly if its upper case is the word for it, which is to say that it spells the word, character
    by character: an ASCII letter stands in any case, the dotless i stands for `I`, the long s for
    `S`, and everything else for itself.  So it has as many characters as the word.  A text that
    spells neither truth value is refused.  No other character beyond ASCII has an ASCII character
    alone as its upper case. -/
theorem Token.words_in_any_case (v : String) :
    (∀ b, ofParts "OPERAND" "LOGICAL" v = .ok (.logical b) ↔ Spells (logicalText b) v) ∧
    (ofParts "OPERAND" "LOGICAL" v = .error (.invalidValue "OPERAND" "LOGICAL" .logical v) ↔
      ∀ b, ¬ Spells (logicalText b) v) ∧
    (∀ c, ErrorCode.ofText? v = some c ↔ Spells c.text v) ∧
    (∀ b, ofParts "OPERAND" "LOGICAL" v = .ok (.logical b) →
      v.length = (logicalText b).length) ∧
    (∀ c, ErrorCode.ofText? v = some c → v.length = c.text.length) ∧
    (∀ b, ofParts "OPERAND" "LOGICAL" v = .ok (.logical b) ↔
      upper v.toList = (logicalText b).toList) ∧
    (∀ c, ErrorCode.ofText? v = some c ↔ upper v.toList = c.text.toList) ∧
    ∀ c u : Char, 128 ≤ c.toNat → u.toNat < 128 →
      (upperChar c = [u] ↔ c = 'ı' ∧ u = 'I' ∨ c = 'ſ' ∧ u = 'S') := by
  refine ⟨fun b => ofParts_logical_eq_ok_iff, ofParts_logical_eq_error_iff,
    fun c => ErrorCode.ofText?_eq_some_iff, fun b h => ?_, fun c h => ?_, fun b => ?_, fun c => ?_,
    fun c u hc hu => upperChar_eq_singleton_iff hc hu⟩
  · exact (ofParts_logical_eq_ok_iff.mp h).length_eq
  · exact (ErrorCode.ofText?_eq_some_iff.mp h).length_eq
  -- In terms of the upper case of the text, which is that of a plain word.
  · rw [ofParts_logical_eq_ok_iff, spells_iff_upper (plainWord_logicalText b)]
  · rw [ErrorCode.ofText?_eq_some_iff, spells_iff_upper c.plainWord_text]

/-- A code with a dotless i in it. -/
theorem Token.words_in_any_case_dotlessI :
    ErrorCode.ofText? "#Gettıng_Data" = some .gettingData ∧
      Spells "#GETTING_DATA" "#Gettıng_Data" ∧
      "#Gettıng_Data".length = "#GETTING_DATA".length ∧
      upper "#Gettıng_Data".toList = "#GETTING_DATA".toList ∧
      upperChar 'ı' = ['I'] := by
  have hread : ErrorCode.ofText? "#Gettıng_Data" = some .gettingData := by decide +kernel
  obtain ⟨-, -, hcode, -, hlength, -, hupper, hletter⟩ := words_in_any_case "#Gettıng_Data"
  exact ⟨hread, (hcode .gettingData).mp hread, hlength .gettingData hread,
    (hupper .gettingData).mp hread, (hletter 'ı' 'I' (by decide) (by decide)).mpr (.inl ⟨rfl, rfl⟩)⟩

/-- **Letters beyond ASCII.**  Two texts that are no words in any case of ASCII letters, and that
    are read as a truth value and as a code. -/
theorem Token.words_beyond_ascii :
    (ofParts "OPERAND" "LOGICAL" "falſe" = .ok (.logical false) ∧
      ¬ ∃ b, SpellsInAscii (logicalText b) "falſe") ∧
    ErrorCode.ofText? "#dıv/0!" = some .divisionByZero ∧
      ¬ ∃ c : ErrorCode, SpellsInAscii c.text "#dıv/0!" := by
  have hfalse : logicalOfText? "falſe" = some false := by decide +kernel
  refine ⟨⟨?_, ?_⟩, by decide +kernel, ?_⟩
  · rw [ofParts_logical, hfalse]
    rfl
  · rintro ⟨b, h⟩
    cases b <;> exact absurd h (by decide +kernel)
  · rintro ⟨c, h⟩
    cases c <;> exact absurd h (by decide +kernel)

end SheetFormula
