import SheetFormula.Proofs.NumeralText
import SheetFormula.Token.Record

namespace SheetFormula

/-!
# Results as JSON texts

The line of JSON that is printed for a result is a JSON text, and it says what the result is: a text
or the code of an error as a string that stands for it, a truth value as itself, an integer in its
digits and a finite double as some number.  Only nothing and numbers that are not finite are null.

* `Json.scan_word` and `Json.scan_literal` — the scanner reads back a word and a string literal.
* `Json.Tree.Shows` — what a JSON text says of a result.
* `Scalar.shows_toJson` — the line that is printed says what the result is.
-/

namespace Json

/-! ### Words -/

/-- The spelling of a number literal. -/
def NumberLiteral.spell (plus : Bool) (l : NumberLiteral) : List Char :=
  (if l.negative then ['-'] else []) ++ l.numeral.spell plus

section

variable {l : NumberLiteral} {plus : Bool} {w : List Char} {c : Char}

/-- A number starts with a digit after its sign. -/
theorem exists_spell_eq_cons {n : Numeral} (plus : Bool) (hd : n.HasDigits)
    (hj : isJsonNumeral n = true) : ∃ c cs, n.spell plus = c :: cs ∧ c.isDigit = true := by
  -- JSON numbers have a digit before the point.
  have hne : n.whole ≠ [] := by
    simp only [isJsonNumeral, Bool.and_eq_true, decide_eq_true_eq] at hj
    exact hj.1.1.1
  obtain ⟨c, cs, hwhole⟩ := List.exists_cons_of_ne_nil hne
  have hdigit : c.isDigit = true := hd.whole c (by rw [hwhole]; exact List.mem_cons_self)
  refine ⟨c, cs ++ (Numeral.pointPart n.fraction ++ Numeral.exponentPart plus n.exponent), ?_,
    hdigit⟩
  unfold Numeral.spell
  rw [hwhole]
  rfl

/-- A number literal is read back from its spelling. -/
theorem numberOfWord?_spell (hd : l.numeral.HasDigits) (hj : isJsonNumeral l.numeral = true) :
    numberOfWord? (l.spell plus) = some l := by
  obtain ⟨c, cs, hspell, hdigit⟩ := exists_spell_eq_cons plus hd hj
  obtain ⟨negative, numeral⟩ := l
  have hread : (Numeral.ofChars? (numeral.spell plus)).filter isJsonNumeral = some numeral := by
    rw [Numeral.ofChars?_spell hd]
    exact Option.filter_some_pos hj
  cases negative with
  | true =>
    show ((Numeral.ofChars? (numeral.spell plus)).filter isJsonNumeral).map _ = _
    rw [hread]
    rfl
  | false =>
    show numberOfWord? (numeral.spell plus) = _
    unfold numberOfWord?
    split
    next hmatch =>
      split at hmatch
      · next r hminus =>
        -- The first digit is no sign.
        rw [show numeral.spell plus = c :: cs from hspell] at hminus
        cases hminus
        exact absurd hdigit (by decide)
      · cases hmatch
        rw [hread]
        rfl

/-- A number is spelled in characters of words only. -/
theorem isWordChar_of_mem_spell (hd : l.numeral.HasDigits) (hc : c ∈ l.spell plus) :
    isWordChar c = true := by
  have hmarks : ∀ c ∈ ['.', 'e', '+', '-'], isWordChar c = true :=
    List.all_eq_true.mp (by decide)
  rcases List.mem_append.mp hc with hc | hc
  · split at hc
    · exact hmarks c (by simp [List.mem_singleton.mp hc])
    · cases hc
  · rcases Numeral.mem_spell hd hc with hdigit | hmark
    · simp [isWordChar, Char.isAlphanum, hdigit]
    · exact hmarks c hmark

/-- No number is one of the three words. -/
theorem lexemeOfWord?_number (h : numberOfWord? w = some l) :
    lexemeOfWord? w = some (.number l) := by
  have hword : ∀ s : String, String.ofList w = s → numberOfWord? s.toList = some l := by
    rintro s rfl
    rwa [String.toList_ofList]
  unfold lexemeOfWord?
  split
  · next hw => cases hword _ hw
  · next hw => cases hword _ hw
  · next hw => cases hword _ hw
  · rw [h]
    rfl

/-! ### Scanning -/

/-- Between lexemes, a character of words starts a word. -/
theorem start_isWordChar {lexemes : List Lexeme} (hc : isWordChar c = true) :
    Scanner.start lexemes c = some ⟨.word [c], lexemes⟩ := by
  unfold Scanner.start
  split <;> first | exact absurd hc (by decide) | exact if_pos hc

/-- Within a word, further characters of words are added to it. -/
theorem foldlM_step_word {read : List Char} {lexemes : List Lexeme}
    (hw : ∀ c ∈ w, isWordChar c = true) :
    w.foldlM Scanner.step ⟨.word read, lexemes⟩ = some ⟨.word (w.reverse ++ read), lexemes⟩ := by
  -- The scanner collects the characters of the word in reverse.
  induction w generalizing read with
  | nil => rfl
  | cons c w ih =>
    obtain ⟨hc, hw⟩ := List.forall_mem_cons.mp hw
    have hstep : Scanner.step ⟨.word read, lexemes⟩ c = some ⟨.word (c :: read), lexemes⟩ :=
      if_pos hc
    rw [List.foldlM_cons, hstep]
    show List.foldlM _ _ w = _
    rw [ih hw, List.reverse_cons, List.append_assoc]
    rfl

/-- **Words read back.**  A word on a line of its own is one lexeme. -/
theorem scan_word {lexeme : Lexeme} (hw : ∀ c ∈ w, isWordChar c = true)
    (hl : lexemeOfWord? w = some lexeme) : scan (w ++ ['\n']) = some [lexeme] := by
  cases w with
  | nil => cases hl
  | cons c w =>
    obtain ⟨hc, hrest⟩ := List.forall_mem_cons.mp hw
    -- The first character opens the word, and the line feed after the last one closes it.
    have hread : (c :: w).foldlM Scanner.step ⟨.between, []⟩ =
        some ⟨.word (c :: w).reverse, []⟩ := by
      rw [List.foldlM_cons, show Scanner.step ⟨.between, []⟩ c = _ from start_isWordChar hc,
        List.reverse_cons]
      exact foldlM_step_word hrest
    have hend : Scanner.step ⟨.word (c :: w).reverse, []⟩ '\n' = some ⟨.between, [lexeme]⟩ := by
      show (lexemeOfWord? (c :: w).reverse.reverse).bind _ = _
      rw [List.reverse_reverse, hl]
      rfl
    unfold scan
    rw [List.foldlM_append, hread]
    show ((Scanner.step _ '\n').bind _).bind _ = _
    rw [hend]
    rfl

end

/-! ### String literals -/

/-- The part of a string literal that stands for a character. -/
def partOfChar (c : Char) : StringPart :=
  if c.toNat < 0x20 ∧ c ∉ ['\x08', '\x0c', '\n', '\r', '\t'] then .unit c.toNat else .char c

section

variable {lexemes : List Lexeme} {read : List StringPart}

/-- A hexadecimal digit has the value that it was printed for. -/
theorem hexValue?_digitChar {n : Nat} (h : n < 16) : hexValue? (Nat.digitChar n) = some n := by
  have hall : ∀ k : Fin 16, hexValue? (Nat.digitChar k) = some k.val := by decide
  exact hall ⟨n, h⟩

/-- Each character is read back from its escape. -/
theorem foldlM_step_escapeChar (c : Char) :
    (escapeChar c).foldlM Scanner.step ⟨.string read, lexemes⟩ =
      some ⟨.string (partOfChar c :: read), lexemes⟩ := by
  unfold escapeChar
  -- The seven characters with an escape of their own come first.
  split
  · rfl
  · rfl
  · rfl
  · rfl
  · rfl
  · rfl
  · rfl
  · next hquote hbackslash h08 h0c hn hr ht =>
    split
    · next hcontrol =>
      have hshort : c ∉ ['\x08', '\x0c', '\n', '\r', '\t'] := by
        intro hmem
        simp only [List.mem_cons, List.not_mem_nil, or_false] at hmem
        rcases hmem with h | h | h | h | h
        · exact h08 h
        · exact h0c h
        · exact hn h
        · exact hr h
        · exact ht h
      have hpart : partOfChar c = .unit (16 * (c.toNat / 16) + c.toNat % 16) := by
        rw [Nat.div_add_mod]
        exact if_pos ⟨hcontrol, hshort⟩
      -- The last two of the four hexadecimal digits hold the whole code.
      have hhigh := hexValue?_digitChar (n := c.toNat / 16) (by omega)
      have hlow := hexValue?_digitChar (n := c.toNat % 16) (by omega)
      have hzero : hexValue? '0' = some 0 := by decide
      simp [Scanner.step, hhigh, hlow, hzero, hpart]
    · next hcontrol =>
      have hpart : partOfChar c = .char c := if_neg fun h => hcontrol h.1
      rw [hpart]
      show ((if c = '"' then _ else _ : Option Scanner).bind _) = _
      rw [if_neg hquote, if_neg hbackslash, if_neg hcontrol]
      rfl

/-- Within a string, escaped characters are read one by one, by induction. -/
theorem foldlM_step_flatMap (cs : List Char) :
    (cs.flatMap escapeChar).foldlM Scanner.step ⟨.string read, lexemes⟩ =
      some ⟨.string ((cs.map partOfChar).reverse ++ read), lexemes⟩ := by
  induction cs generalizing read with
  | nil => rfl
  | cons c cs ih =>
    rw [List.flatMap_cons, List.foldlM_append, foldlM_step_escapeChar]
    show List.foldlM _ _ (cs.flatMap escapeChar) = _
    rw [ih, List.map_cons, List.reverse_cons, List.append_assoc]
    rfl

/-- **String literals read back** as one lexeme with a part for each character. -/
theorem scan_literal (s : String) :
    scan ((literal s).toList ++ ['\n']) = some [.string (s.toList.map partOfChar)] := by
  -- The quotation mark opens the string, each character adds one part, and the second mark closes
  -- it.
  have hopen : Scanner.step ⟨.between, []⟩ '"' = some ⟨.string [], []⟩ := rfl
  have hclose : ['"', '\n'].foldlM Scanner.step ⟨.string (s.toList.map partOfChar).reverse, []⟩ =
      some ⟨.between, [.string (s.toList.map partOfChar)]⟩ := by
    show some (Scanner.mk .between [.string (s.toList.map partOfChar).reverse.reverse]) = _
    rw [List.reverse_reverse]
  have hread : ('"' :: (s.toList.flatMap escapeChar ++ ['"', '\n'])).foldlM Scanner.step
      ⟨.between, []⟩ = some ⟨.between, [.string (s.toList.map partOfChar)]⟩ := by
    rw [List.foldlM_cons, hopen]
    show List.foldlM _ (Scanner.mk (.string []) []) _ = _
    rw [List.foldlM_append, foldlM_step_flatMap, List.append_nil]
    exact hclose
  have htext : (literal s).toList ++ ['\n'] =
      '"' :: (s.toList.flatMap escapeChar ++ ['"', '\n']) := by
    rw [literal, String.toList_ofList]
    simp
  unfold scan
  rw [htext, hread]
  rfl

/-- The units that are written are no halves of surrogate pairs. -/
theorem charsOfParts?_partOfChar (c : Char) (ps : List StringPart) :
    charsOfParts? (partOfChar c :: ps) = (charsOfParts? ps).map (c :: ·) := by
  unfold partOfChar
  split
  · next hcontrol =>
    -- Escapes are written for control characters only, and these are no surrogates.
    have hhigh : isHighSurrogate c.toNat = false := by
      simp only [isHighSurrogate, Bool.and_eq_false_iff, decide_eq_false_iff_not]
      omega
    have hlow : isLowSurrogate c.toNat = false := by
      simp only [isLowSurrogate, Bool.and_eq_false_iff, decide_eq_false_iff_not]
      omega
    cases ps with
    | nil => simp [charsOfParts?, hhigh, hlow]
    | cons p ps => cases p <;> simp [charsOfParts?, hhigh, hlow]
  · rfl

/-- The characters of a string make up the text again. -/
theorem textOfParts?_partOfChar (s : String) : textOfParts? (s.toList.map partOfChar) = some s := by
  have hchars : ∀ cs : List Char, charsOfParts? (cs.map partOfChar) = some cs := by
    intro cs
    induction cs with
    | nil => rfl
    | cons c cs ih => rw [List.map_cons, charsOfParts?_partOfChar, ih]; rfl
  rw [textOfParts?, hchars, Option.map_some, String.ofList_toList]

end

/-! ### Lines with one value -/

namespace Tree

/-- A line with the text of a value. -/
def line (cs : List Char) : String := String.ofList cs ++ "\n"

/-- A line is scanned, and its lexemes are put together. -/
theorem parse?_line (cs : List Char) :
    parse? (line cs) = (scan (cs ++ ['\n'])).bind ofLexemes? := by
  unfold parse? line
  rw [String.toList_append, String.toList_ofList]
  rfl

/-- A line with one word on it is the value that the word stands for. -/
theorem parse?_word {w : List Char} {lexeme : Lexeme} (hw : ∀ c ∈ w, isWordChar c = true)
    (hl : lexemeOfWord? w = some lexeme) : parse? (line w) = ofLexemes? [lexeme] := by
  rw [parse?_line, scan_word hw hl]
  rfl

/-- Null is read back. -/
theorem parse?_null : parse? "null\n" = some .null :=
  parse?_word (w := "null".toList) (List.all_eq_true.mp (by decide)) rfl

/-- Truth values are read back. -/
theorem parse?_logical (b : Bool) :
    parse? ((Value.logical b).render ++ "\n") = some (.logical b) := by
  cases b with
  | true => exact parse?_word (w := "true".toList) (List.all_eq_true.mp (by decide)) rfl
  | false => exact parse?_word (w := "false".toList) (List.all_eq_true.mp (by decide)) rfl

/-- Numbers are read back as their literals. -/
theorem parse?_number {l : NumberLiteral} {plus : Bool} (hd : l.numeral.HasDigits)
    (hj : isJsonNumeral l.numeral = true) : parse? (line (l.spell plus)) = some (.number l) :=
  parse?_word (fun _ hc => isWordChar_of_mem_spell hd hc)
    (lexemeOfWord?_number (numberOfWord?_spell hd hj))

/-- Texts are read back, whatever has to be escaped in them. -/
theorem parse?_string (s : String) :
    parse? (literal s ++ "\n") = some (.string (s.toList.map partOfChar)) := by
  unfold parse?
  rw [String.toList_append, show "\n".toList = ['\n'] from rfl, scan_literal]
  rfl

end Tree

/-- The literal of an integer. -/
def literalOfInt (n : Int) : NumberLiteral :=
  ⟨decide (n < 0), ⟨Decimal.digitsOf n.natAbs, none, none⟩⟩

/-- An integer is printed as a literal without a fraction or an exponent. -/
theorem ofInt_eq_spell (n : Int) : Decimal.ofInt n = (literalOfInt n).spell false := by
  unfold Decimal.ofInt NumberLiteral.spell literalOfInt
  by_cases hn : n < 0
  · simp [hn, Numeral.spell, Numeral.pointPart, Numeral.exponentPart]
  · simp [hn, Numeral.spell, Numeral.pointPart, Numeral.exponentPart]

/-- The literal of an integer has digits. -/
theorem hasDigits_literalOfInt (n : Int) : (literalOfInt n).numeral.HasDigits :=
  ⟨fun _ hc => Decimal.isDigit_of_mem_digitsOf hc, by simp [literalOfInt], by simp [literalOfInt]⟩

/-- It has no leading zero that JSON would refuse. -/
theorem isJsonNumeral_literalOfInt (n : Int) : isJsonNumeral (literalOfInt n).numeral = true := by
  refine isJsonNumeral_mk (Decimal.digitsOf_ne_nil _) ?_ (by simp) (by simp)
  by_cases hn : n.natAbs = 0
  · rw [hn]
    exact .inl (by decide)
  · exact .inr (Decimal.head_digitsOf_ne_zero hn)

/-- It is read as the integer. -/
theorem integer?_literalOfInt (n : Int) : (literalOfInt n).integer? = some n := by
  unfold NumberLiteral.integer? literalOfInt
  dsimp only
  rw [Decimal.ofDigits_digitsOf, if_pos]
  · by_cases hn : n < 0
    · have habs : -(n.natAbs : Int) = n := by omega
      rw [if_pos (decide_eq_true hn), habs]
    · have habs : (n.natAbs : Int) = n := by omega
      rw [if_neg (by simp [hn]), habs]
  -- A zero is not written with a minus sign.
  · refine ⟨rfl, ?_⟩
    rintro ⟨hnegative, hzero⟩
    have hn : n < 0 := of_decide_eq_true hnegative
    omega

/-- The literal of a finite double. -/
def literalOfFloat (x : Float) : NumberLiteral :=
  ⟨Binary64.isNegative x, Decimal.json.numeral (Decimal.shortest Decimal.json.tie x)⟩

/-- An integer is written as its literal. -/
theorem Tree.parse?_integer (n : Int) :
    parse? ((Value.integer n).render ++ "\n") = some (.number (literalOfInt n)) := by
  show parse? (Decimal.intText n ++ "\n") = _
  rw [Decimal.intText, ofInt_eq_spell]
  exact parse?_number (hasDigits_literalOfInt n) (isJsonNumeral_literalOfInt n)

/-- A finite double is written as its literal. -/
theorem Tree.parse?_float {x : Float} (hx : Binary64.isFinite x = true) :
    parse? ((Value.float x).render ++ "\n") = some (.number (literalOfFloat x)) := by
  have htext : (Value.float x).render =
      String.ofList ((literalOfFloat x).spell Decimal.json.exponentPlus) :=
    Decimal.Style.render_eq_spell hx
  rw [htext]
  exact parse?_number (l := literalOfFloat x) Decimal.Style.hasDigits_numeral
    (Decimal.Style.isJsonNumeral_numeral (Decimal.shortest_digits _ x))

/-! ### Results -/

/-- What a JSON text says of a result: its type, and all of it except for doubles. -/
inductive Tree.Shows : Tree → Scalar → Prop
  | empty : Shows .null .empty
  | logical (b : Bool) : Shows (.logical b) (.logical b)
  | int {l : NumberLiteral} {i : Int64} (h : l.integer? = some i.toInt) :
    Shows (.number l) (.number (.int i))
  | float (l : NumberLiteral) {x : Float} (h : Binary64.isFinite x = true) :
    Shows (.number l) (.number (.float x))
  | nonFinite {x : Float} (h : Binary64.isFinite x = false) : Shows .null (.number (.float x))
  | text {ps : List StringPart} {s : String} (h : textOfParts? ps = some s) :
    Shows (.string ps) (.text s)
  | error {ps : List StringPart} {c : ErrorCode} (h : textOfParts? ps = some c.text) :
    Shows (.string ps) (.error c)

end Json

open Json in
/-- **Results as JSON.**  The line that is printed is a JSON text that says what the result is. -/
theorem Scalar.shows_toJson (s : Scalar) :
    ∃ t, Tree.parse? (s.toJson.render ++ "\n") = some t ∧ t.Shows s := by
  cases s with
  | empty => exact ⟨.null, Tree.parse?_null, .empty⟩
  | logical b => exact ⟨.logical b, Tree.parse?_logical b, .logical b⟩
  | text s => exact ⟨_, Tree.parse?_string s, .text (textOfParts?_partOfChar s)⟩
  | error c => exact ⟨_, Tree.parse?_string c.text, .error (textOfParts?_partOfChar c.text)⟩
  | number n =>
    cases n with
    | int i => exact ⟨_, Tree.parse?_integer i.toInt, .int (integer?_literalOfInt i.toInt)⟩
    | float x =>
      show ∃ t, Tree.parse? ((if Binary64.isFinite x then Value.float x else .null).render ++
        "\n") = some t ∧ _
      -- JSON has no infinite numbers, so these are written as null.
      by_cases hx : Binary64.isFinite x = true
      · rw [if_pos hx]
        exact ⟨_, Tree.parse?_float hx, .float _ hx⟩
      · rw [if_neg hx]
        exact ⟨.null, Tree.parse?_null, .nonFinite (Bool.eq_false_iff.mpr hx)⟩

end SheetFormula
