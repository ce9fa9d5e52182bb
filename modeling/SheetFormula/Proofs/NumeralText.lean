import SheetFormula.Json.Lexeme
import SheetFormula.Proofs.ShortestDigits

namespace SheetFormula

/-!
# Numerals read back

A numeral is spelled by its digits, with a point and an `e` between them, and what is spelled so is
taken apart again into the same digits.

* `Numeral.spell` and `Numeral.ofChars?_spell` — the spelling of a numeral, and reading it.
* `Decimal.Style.numeral` and `layOut_eq_spell` — the layout of a decimal is the spelling of a
  numeral.
* `Decimal.Style.isJsonNumeral_numeral` and `render_eq_spell` — a finite double is written as a
  number of JSON, whatever the style.
-/

namespace Numeral

variable {n : Numeral} {plus : Bool} {c : Char}

/-! ### Spelling -/

/-- The point and the digits after it. -/
def pointPart : Option (List Char) → List Char
  | none => []
  | some ds => '.' :: ds

/-- The sign of an exponent (is it a minus?).  A plus sign is written if that is wanted. -/
def exponentSign (plus negative : Bool) : List Char :=
  if negative then ['-'] else if plus then ['+'] else []

/-- The exponent with its `e` and its sign. -/
def exponentPart (plus : Bool) : Option (Bool × List Char) → List Char
  | none => []
  | some (negative, ds) => 'e' :: (exponentSign plus negative ++ ds)

/-- The spelling of a numeral. -/
def spell (plus : Bool) (n : Numeral) : List Char :=
  n.whole ++ (pointPart n.fraction ++ exponentPart plus n.exponent)

/-- The three lists of a numeral are lists of digits. -/
structure HasDigits (n : Numeral) : Prop where
  whole : ∀ c ∈ n.whole, c.isDigit = true
  fraction : ∀ ds ∈ n.fraction, ∀ c ∈ ds, c.isDigit = true
  exponent : ∀ e ∈ n.exponent, ∀ c ∈ e.2, c.isDigit = true

/-- A character of a numeral is a digit or one of the four marks. -/
theorem mem_spell (h : n.HasDigits) (hc : c ∈ n.spell plus) :
    c.isDigit = true ∨ c ∈ ['.', 'e', '+', '-'] := by
  obtain ⟨whole, fraction, exponent⟩ := n
  obtain ⟨hwhole, hfraction, hexponent⟩ := h
  unfold spell at hc
  -- Part by part: digits, then a point with digits, then an `e` with its sign and digits.
  rcases List.mem_append.mp hc with hc | hc
  · exact .inl (hwhole c hc)
  rcases List.mem_append.mp hc with hc | hc
  · cases fraction with
    | none => cases hc
    | some ds =>
      rcases List.mem_cons.mp hc with rfl | hc
      · exact .inr (by decide)
      · exact .inl (hfraction ds rfl c hc)
  · cases exponent with
    | none => cases hc
    | some e =>
      rcases List.mem_cons.mp hc with rfl | hc
      · exact .inr (by decide)
      rcases List.mem_append.mp hc with hc | hc
      · unfold exponentSign at hc
        split at hc
        · exact .inr (by simp [List.mem_singleton.mp hc])
        split at hc
        · exact .inr (by simp [List.mem_singleton.mp hc])
        · cases hc
      · exact .inl (hexponent e rfl c hc)

/-! ### Reading -/

/-- Digits are taken up to the first other character. -/
theorem takeWhile_digits {ds rest : List Char} (hds : ∀ c ∈ ds, c.isDigit = true)
    (hrest : ∀ c ∈ rest.head?, c.isDigit = false) :
    (ds ++ rest).takeWhile Char.isDigit = ds ∧ (ds ++ rest).dropWhile Char.isDigit = rest := by
  rw [List.takeWhile_append_of_pos hds, List.dropWhile_append_of_pos hds]
  cases rest with
  | nil => simp
  | cons c rest => simp [hrest c rfl]

/-- The sign of an exponent is read back, a plus sign that is written too. -/
theorem exponent?_exponentSign {negative : Bool} {ds : List Char}
    (h : ∀ c ∈ ds, c.isDigit = true) :
    exponent? (exponentSign plus negative ++ ds) = some (negative, ds) := by
  have hall : ds.all Char.isDigit = true := List.all_eq_true.mpr h
  cases negative with
  | true => simp [exponent?, exponentSign, hall]
  | false =>
    cases plus with
    | true => simp [exponent?, exponentSign, hall]
    | false =>
      -- Without a sign the first digit must not be mistaken for one.
      show exponent? ds = _
      unfold exponent?
      split
      next hmatch =>
        split at hmatch <;> cases hmatch
        · exact absurd (h '-' List.mem_cons_self) (by decide)
        · exact absurd (h '+' List.mem_cons_self) (by decide)
        · exact if_pos hall

/-- An exponent starts with its `e`. -/
theorem head_exponentPart (plus : Bool) (e : Option (Bool × List Char)) :
    ∀ c ∈ (exponentPart plus e).head?, c = 'e' := by
  cases e with
  | none => intro c hc; cases hc
  | some e => intro c hc; cases hc; rfl

/-- **Numerals read back.** -/
theorem ofChars?_spell (h : n.HasDigits) : ofChars? (n.spell plus) = some n := by
  obtain ⟨whole, fraction, exponent⟩ := n
  obtain ⟨hwhole, hfraction, hexponent⟩ := h
  -- Neither an `e` nor a point is a digit, so each list of digits is read up to its own end.
  have hend : ∀ c ∈ (exponentPart plus exponent).head?, c.isDigit = false := by
    intro c hc
    rw [head_exponentPart plus exponent c hc]
    decide
  cases fraction with
  | none =>
    obtain ⟨htake, hdrop⟩ := takeWhile_digits hwhole hend
    have hspell : spell plus ⟨whole, none, exponent⟩ = whole ++ exponentPart plus exponent := rfl
    unfold ofChars?
    rw [hspell, htake, hdrop]
    cases exponent with
    | none => rfl
    | some e => simp [exponentPart, exponent?_exponentSign (hexponent e rfl)]
  | some ds =>
    have hpoint : ∀ c ∈ ('.' :: (ds ++ exponentPart plus exponent)).head?, c.isDigit = false := by
      intro c hc
      cases hc
      decide
    obtain ⟨htake, hdrop⟩ := takeWhile_digits hwhole hpoint
    obtain ⟨htake', hdrop'⟩ := takeWhile_digits (hfraction ds rfl) hend
    have hspell : spell plus ⟨whole, some ds, exponent⟩ =
        whole ++ '.' :: (ds ++ exponentPart plus exponent) := rfl
    unfold ofChars?
    rw [hspell, htake, hdrop]
    simp only [htake', hdrop']
    cases exponent with
    | none => rfl
    | some e => simp [exponentPart, exponent?_exponentSign (hexponent e rfl)]

end Numeral

/-- A number of JSON has digits without a superfluous zero in front, and digits after its point and
    its `e`. -/
theorem Json.isJsonNumeral_mk {whole : List Char} {fraction : Option (List Char)}
    {exponent : Option (Bool × List Char)} (hne : whole ≠ [])
    (hzero : whole.length = 1 ∨ whole.head? ≠ some '0') (hfraction : ∀ ds ∈ fraction, ds ≠ [])
    (hexponent : ∀ e ∈ exponent, e.2 ≠ []) :
    isJsonNumeral ⟨whole, fraction, exponent⟩ = true := by
  unfold isJsonNumeral
  simp only [Bool.and_eq_true, Bool.or_eq_true, decide_eq_true_eq, Option.all_eq_true]
  exact ⟨⟨⟨hne, hzero⟩, hfraction⟩, hexponent⟩

/-! ### Layouts -/

namespace Decimal.Style

open Json

variable {s : Style} {d : Decimal}

/-- The numeral of a decimal with its point in place. -/
def positionalNumeral (s : Style) (d : Decimal) : Numeral :=
  let ds := digitsOf d.digits
  if d.point ≤ 0 then ⟨['0'], some (List.replicate (-d.point).toNat '0' ++ ds), none⟩
  else if d.point < ds.length then ⟨ds.take d.point.toNat, some (ds.drop d.point.toNat), none⟩
  else
    ⟨ds ++ List.replicate (d.point.toNat - ds.length) '0',
      if s.wholePoint then some ['0'] else none, none⟩

/-- The numeral of a decimal with one digit before the point. -/
def scientificNumeral (d : Decimal) : Numeral :=
  let ds := digitsOf d.digits
  ⟨ds.take 1, if ds.length = 1 then none else some (ds.drop 1),
    some (decide (d.point - 1 < 0), digitsOf (d.point - 1).natAbs)⟩

/-- The numeral that is laid out. -/
def numeral (s : Style) (d : Decimal) : Numeral :=
  if s.writesInPlace (d.point - 1) then s.positionalNumeral d else scientificNumeral d

/-- A text in positional layout is the spelling of a numeral without an exponent. -/
theorem positional_eq_spell (plus : Bool) :
    s.positional d = (s.positionalNumeral d).spell plus := by
  unfold positional positionalNumeral
  dsimp only
  split
  · simp [Numeral.spell, Numeral.pointPart, Numeral.exponentPart]
  split
  · simp [Numeral.spell, Numeral.pointPart, Numeral.exponentPart]
  · split <;> simp [Numeral.spell, Numeral.pointPart, Numeral.exponentPart]

/-- An exponent is written as an integer, with its plus sign if that is wanted. -/
theorem exponentSign_digitsOf (plus : Bool) (e : Int) :
    (if 0 ≤ e && plus then ['+'] else []) ++ ofInt e =
      Numeral.exponentSign plus (decide (e < 0)) ++ digitsOf e.natAbs := by
  unfold ofInt Numeral.exponentSign
  by_cases hnegative : e < 0
  · have hsign : ¬ 0 ≤ e := Int.not_le.mpr hnegative
    simp [hnegative, hsign]
  · have hsign : 0 ≤ e := Int.not_lt.mp hnegative
    simp [hnegative, hsign]

/-- A text in scientific layout is the spelling of a numeral with an exponent. -/
theorem scientific_eq_spell : s.scientific d = (scientificNumeral d).spell s.exponentPlus := by
  have hpoint : (if (digitsOf d.digits).length = 1 then [] else '.' :: (digitsOf d.digits).drop 1) =
      Numeral.pointPart (if (digitsOf d.digits).length = 1 then none
        else some ((digitsOf d.digits).drop 1)) := by
    split <;> rfl
  unfold scientific
  dsimp only
  rw [List.append_assoc, List.cons_append, exponentSign_digitsOf, hpoint, List.append_assoc]
  rfl

/-- **A layout is the spelling of a numeral.** -/
theorem layOut_eq_spell : s.layOut d = (s.numeral d).spell s.exponentPlus := by
  unfold layOut numeral
  split
  · exact positional_eq_spell s.exponentPlus
  · exact scientific_eq_spell

/-- The zeros that fill up a number are digits as well. -/
theorem hasDigits_positionalNumeral : (s.positionalNumeral d).HasDigits := by
  have hds : ∀ c ∈ digitsOf d.digits, c.isDigit = true := fun c hc => isDigit_of_mem_digitsOf hc
  have hzeros : ∀ k, ∀ c ∈ List.replicate k '0', c.isDigit = true := by
    intro k c hc
    rw [List.eq_of_mem_replicate hc]
    decide
  -- The point is before all digits, between them, or after them.
  unfold positionalNumeral
  dsimp only
  split
  · refine ⟨by simp, ?_, by simp⟩
    rintro ds ⟨⟩ c hc
    exact (List.mem_append.mp hc).elim (hzeros _ c) (hds c)
  split
  · refine ⟨fun c hc => hds c (List.mem_of_mem_take hc), ?_, by simp⟩
    rintro ds ⟨⟩ c hc
    exact hds c (List.mem_of_mem_drop hc)
  · refine ⟨fun c hc => (List.mem_append.mp hc).elim (hds c) (hzeros _ c), ?_, by simp⟩
    intro ds hmem
    split at hmem <;> cases hmem
    exact hzeros 1

/-- Taking the first digit off leaves digits. -/
theorem hasDigits_scientificNumeral : (scientificNumeral d).HasDigits := by
  have hds : ∀ c ∈ digitsOf d.digits, c.isDigit = true := fun c hc => isDigit_of_mem_digitsOf hc
  refine ⟨fun c hc => hds c (List.mem_of_mem_take hc), ?_, ?_⟩
  · intro ds hmem c hc
    unfold scientificNumeral at hmem
    dsimp only at hmem
    split at hmem <;> cases hmem
    exact hds c (List.mem_of_mem_drop hc)
  · rintro e ⟨⟩ c hc
    exact isDigit_of_mem_digitsOf hc

/-- So the numeral has digits in either layout. -/
theorem hasDigits_numeral : (s.numeral d).HasDigits := by
  unfold numeral
  split
  · exact hasDigits_positionalNumeral
  · exact hasDigits_scientificNumeral

/-! ### Layouts as numbers of JSON -/

/-- In positional layout there is no zero in front, except for a number below one, and zero
    itself. -/
theorem isJsonNumeral_positionalNumeral (hd : d.digits ≠ 0 ∨ d = ⟨0, 0⟩) :
    isJsonNumeral (s.positionalNumeral d) = true := by
  have hne := digitsOf_ne_nil d.digits
  have hhead : ∀ {whole : List Char}, whole.head? = (digitsOf d.digits).head? → d.digits ≠ 0 →
      whole.head? ≠ some '0' := by
    intro whole hwhole hdigits
    rw [hwhole]
    exact head_digitsOf_ne_zero hdigits
  -- The point is before all digits, between them, or after them; only the first puts a zero in
  -- front.
  unfold positionalNumeral
  dsimp only
  split
  · refine isJsonNumeral_mk (by simp) (.inl rfl) ?_ (by simp)
    rintro ds ⟨⟩
    simp [hne]
  split
  · next hpoint hinside =>
    refine isJsonNumeral_mk ?_ (.inr ?_) ?_ (by simp)
    · simp only [ne_eq, List.take_eq_nil_iff, hne, or_false]
      omega
    · rcases hd with hdigits | rfl
      · refine hhead ?_ hdigits
        rw [List.head?_take, if_neg (by omega)]
      · exact absurd hinside (by decide)
    · rintro ds ⟨⟩ hnil
      rw [List.drop_eq_nil_iff] at hnil
      omega
  · refine isJsonNumeral_mk (by simp [hne]) ?_ ?_ (by simp)
    · rcases hd with hdigits | rfl
      · refine .inr (hhead ?_ hdigits)
        rw [List.head?_append]
        obtain ⟨c, cs, hcs⟩ := List.exists_cons_of_ne_nil hne
        rw [hcs]
        rfl
      · exact .inl (by decide)
    · intro ds hmem
      split at hmem <;> cases hmem
      simp

/-- In scientific layout one digit stands before the point. -/
theorem isJsonNumeral_scientificNumeral : isJsonNumeral (scientificNumeral d) = true := by
  have hne := digitsOf_ne_nil d.digits
  have hlength : 0 < (digitsOf d.digits).length := List.length_pos_iff.mpr hne
  refine isJsonNumeral_mk ?_ (.inl ?_) ?_ ?_
  · simp [hne]
  · rw [List.length_take]
    omega
  · intro ds hmem
    split at hmem <;> cases hmem
    intro hnil
    rw [List.drop_eq_nil_iff] at hnil
    omega
  · rintro e ⟨⟩
    exact digitsOf_ne_nil _

/-- **Shortest digits are laid out as numbers of JSON.** -/
theorem isJsonNumeral_numeral (hd : d.digits ≠ 0 ∨ d = ⟨0, 0⟩) :
    isJsonNumeral (s.numeral d) = true := by
  unfold numeral
  split
  · exact isJsonNumeral_positionalNumeral hd
  · exact isJsonNumeral_scientificNumeral

/-- **Finite doubles** are written as a sign and the spelling of a numeral. -/
theorem render_eq_spell {x : Float} (h : Binary64.isFinite x = true) :
    s.render x = String.ofList ((if Binary64.isNegative x then ['-'] else []) ++
      (s.numeral (shortest s.tie x)).spell s.exponentPlus) := by
  have hnumber : Binary64.isNaN x = false := by
    have hlt : Binary64.magnitude x < Binary64.infinityMagnitude := of_decide_eq_true h
    exact decide_eq_false (Nat.lt_asymm hlt)
  unfold render
  rw [hnumber, h, ← layOut_eq_spell]
  rfl

end Decimal.Style

end SheetFormula
