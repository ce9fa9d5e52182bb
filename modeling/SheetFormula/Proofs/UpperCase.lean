import SheetFormula.Text.Case

namespace SheetFormula.Text

/-!
# Characters and their upper case

Upper case takes an ASCII character to an ASCII character, and a small letter to its capital.  Most
other characters are taken to something that is not ASCII either, at least in part.  The exceptions
are read off the tables: the dotless i becomes the letter `I`, the long s becomes `S`, and a
ligature or the sharp s becomes two or three ASCII letters at once.

* `upperRuns_cases` and `upperSequences_cases` — what the tables hold, from a check of each as a
  whole.
* `upperChar_of_ascii` — the upper case of an ASCII character.
* `upperChar_cases` — what the upper case of any other character can be.
* `upperChar_eq_singleton_iff` — which of these are a single ASCII character.
-/

variable {c u : Char} {r : CaseRun} {n : Nat}

/-! ### The tables -/

/-- Are both code points characters beyond ASCII, on the same side of the surrogates? -/
def areForeign (first last : Nat) : Bool :=
  Nat.ble 128 first && Nat.ble last 0xD7FF || Nat.ble 0xE000 first && Nat.ble last 0x10FFFF

/-- The run of the small ASCII letters. -/
def smallLetters : CaseRun := ⟨0x61, 0x7A, 1, -32⟩

/-- The runs that lead to ASCII letters: the small ones, the dotless i and the long s. -/
def asciiRuns : List CaseRun :=
  [smallLetters, ⟨0x131, 0x131, 1, -232⟩, ⟨0x17F, 0x17F, 1, -300⟩]

/-- The first two letters of the capitals that a ligature becomes. -/
def ligatures : List (Char × Char) := [('S', 'S'), ('F', 'F'), ('F', 'I'), ('F', 'L'), ('S', 'T')]

/-- Do the characters start with the letters of a ligature? -/
def startsLigature : List Char → Bool
  | a :: b :: _ => ligatures.contains (a, b)
  | _ => false

/-- **The runs.**  No ASCII character is in another run than the small letters, and a run leads to
    characters beyond ASCII if it is none of the three. -/
theorem upperRuns_check :
    (upperRuns.all fun r => (Nat.ble 128 r.first || r == smallLetters) &&
      (areForeign (r.image r.first) (r.image r.last) || asciiRuns.contains r)) = true := by
  decide +kernel

/-- **The sequences.**  No ASCII character has one, and each starts like a ligature or has a
    character beyond ASCII in it. -/
theorem upperSequences_check :
    (upperSequences.all fun s => Nat.ble 128 s.1 &&
      (startsLigature (s.2.map Char.ofNat) || s.2.any fun n => areForeign n n)) = true := by
  decide +kernel

/-- The small letters, one by one. -/
theorem image_smallLetters :
    ((List.range' 0x61 26).all fun n =>
      Char.ofNat (smallLetters.image n) == (Char.ofNat n).toUpper) = true := rfl

/-- The two characters beyond ASCII with an ASCII capital. -/
theorem upperChar_dotlessI : upperChar 'ı' = ['I'] := rfl

theorem upperChar_longS : upperChar 'ſ' = ['S'] := rfl

/-- What the check says about one run. -/
theorem upperRuns_cases (hr : r ∈ upperRuns) :
    (128 ≤ r.first ∨ r = smallLetters) ∧
      (areForeign (r.image r.first) (r.image r.last) = true ∨ r ∈ asciiRuns) := by
  have h := List.all_eq_true.mp upperRuns_check r hr
  rwa [Bool.and_eq_true, Bool.or_eq_true, Bool.or_eq_true, Nat.ble_eq, beq_iff_eq,
    List.contains_iff_mem] at h

/-- What the check says about one sequence. -/
theorem upperSequences_cases {s : Nat × List Nat} (hs : s ∈ upperSequences) :
    128 ≤ s.1 ∧ (startsLigature (s.2.map Char.ofNat) = true ∨
      ∃ n ∈ s.2, areForeign n n = true) := by
  have h := List.all_eq_true.mp upperSequences_check s hs
  rwa [Bool.and_eq_true, Bool.or_eq_true, Nat.ble_eq, List.any_eq_true] at h

/-- A code point between two characters beyond ASCII is one itself. -/
theorem toNat_of_areForeign {first last : Nat} (h : areForeign first last = true)
    (hfirst : first ≤ n) (hlast : n ≤ last) : 128 ≤ (Char.ofNat n).toNat := by
  rw [areForeign, Bool.or_eq_true, Bool.and_eq_true, Bool.and_eq_true, Nat.ble_eq, Nat.ble_eq,
    Nat.ble_eq, Nat.ble_eq] at h
  have hvalid : n.isValidChar := by
    unfold Nat.isValidChar
    omega
  rw [toNat_ofNat hvalid]
  omega

/-! ### Characters -/

/-- An ASCII character other than a small letter is its own capital. -/
theorem toUpper_of_not_small (h : smallLetters.contains c.toNat = false) : c.toUpper = c := by
  have hsmall : ¬ ('a'.val ≤ c.val ∧ c.val ≤ 'z'.val) := by
    rintro ⟨hfirst, hlast⟩
    have hfirst : 0x61 ≤ c.toNat := hfirst
    have hlast : c.toNat ≤ 0x7A := hlast
    have hn : smallLetters.contains c.toNat = true :=
      CaseRun.contains_iff.mpr ⟨hfirst, hlast, Nat.mod_one _⟩
    rw [hn] at h
    cases h
  exact dif_neg hsmall

/-- **ASCII characters** become capital letters, or stay as they are. -/
theorem upperChar_of_ascii (hc : c.toNat < 128) : upperChar c = [c.toUpper] := by
  have hnone : upperSequences.find? (·.1 == c.toNat) = none := by
    rw [List.find?_eq_none]
    intro s hs hkey
    have hforeign := (upperSequences_cases hs).1
    rw [beq_iff_eq.mp hkey] at hforeign
    omega
  rw [upperChar, hnone, simpleUpper]
  rcases CaseRun.apply_cases upperRuns c with ⟨h, hout⟩ | ⟨r, hr, hn, himage⟩
  · rw [h, toUpper_of_not_small (hout smallLetters List.mem_cons_self)]
  · obtain ⟨hfirst, hlast, -⟩ := CaseRun.contains_iff.mp hn
    -- Any other run has only characters beyond ASCII.
    rcases (upperRuns_cases hr).1 with hforeign | rfl
    · omega
    · have hletter := List.all_eq_true.mp image_smallLetters c.toNat
        (List.mem_range'_1.mpr ⟨hfirst, Nat.lt_succ_of_le hlast⟩)
      rw [beq_iff_eq, Char.ofNat_toNat] at hletter
      rw [himage, hletter]

/-- The simple upper case of a character beyond ASCII. -/
theorem simpleUpper_foreign (hc : 128 ≤ c.toNat) (hi : c ≠ 'ı') (hs : c ≠ 'ſ') :
    128 ≤ (simpleUpper c).toNat := by
  rcases CaseRun.apply_cases upperRuns c with ⟨h, -⟩ | ⟨r, hr, hn, himage⟩
  · rw [simpleUpper, h]
    exact hc
  · obtain ⟨hfirst, hlast, -⟩ := CaseRun.contains_iff.mp hn
    rw [simpleUpper, himage]
    rcases (upperRuns_cases hr).2 with h | h
    · exact toNat_of_areForeign h (r.image_mono hfirst) (r.image_mono hlast)
    · -- The other runs have just the characters that are excluded here.
      rw [asciiRuns, List.mem_cons, List.mem_cons, List.mem_singleton] at h
      rcases h with rfl | rfl | rfl
      · have hlast : c.toNat ≤ 0x7A := hlast
        omega
      · have hpoint : c.toNat = 'ı'.toNat := Nat.le_antisymm hlast hfirst
        exact absurd (Char.toNat_inj.mp hpoint) hi
      · have hpoint : c.toNat = 'ſ'.toNat := Nat.le_antisymm hlast hfirst
        exact absurd (Char.toNat_inj.mp hpoint) hs

/-- **Other characters** but the dotless i and the long s become something that starts like a
    ligature, or something with a character that is not ASCII. -/
theorem upperChar_cases (hc : 128 ≤ c.toNat) (hi : c ≠ 'ı') (hs : c ≠ 'ſ') :
    startsLigature (upperChar c) = true ∨ ∃ u ∈ upperChar c, 128 ≤ u.toNat := by
  unfold upperChar
  -- A character has a sequence as its upper case, or else a single character.
  cases hfind : upperSequences.find? (·.1 == c.toNat) with
  | none => exact .inr ⟨simpleUpper c, List.mem_singleton_self _, simpleUpper_foreign hc hi hs⟩
  | some s =>
    have hmem := List.mem_of_find?_eq_some hfind
    rcases (upperSequences_cases hmem).2 with h | ⟨n, hn, hforeign⟩
    · exact .inl h
    · exact .inr ⟨Char.ofNat n, List.mem_map_of_mem hn,
        toNat_of_areForeign hforeign (Nat.le_refl n) (Nat.le_refl n)⟩

/-- **Single ASCII characters.**  Of all characters beyond ASCII, only the dotless i and the long s
    have one as their upper case. -/
theorem upperChar_eq_singleton_iff (hc : 128 ≤ c.toNat) (hu : u.toNat < 128) :
    upperChar c = [u] ↔ c = 'ı' ∧ u = 'I' ∨ c = 'ſ' ∧ u = 'S' := by
  constructor
  · intro h
    by_cases hi : c = 'ı'
    · rw [hi, upperChar_dotlessI, List.singleton_inj] at h
      exact .inl ⟨hi, h.symm⟩
    by_cases hs : c = 'ſ'
    · rw [hs, upperChar_longS, List.singleton_inj] at h
      exact .inr ⟨hs, h.symm⟩
    -- What other characters become is longer, or not ASCII.
    rcases upperChar_cases hc hi hs with hlong | ⟨v, hv, hforeign⟩
    · rw [h] at hlong
      cases hlong
    · rw [h, List.mem_singleton] at hv
      rw [hv] at hforeign
      omega
  · rintro (⟨rfl, rfl⟩ | ⟨rfl, rfl⟩)
    · exact upperChar_dotlessI
    · exact upperChar_longS

end SheetFormula.Text
