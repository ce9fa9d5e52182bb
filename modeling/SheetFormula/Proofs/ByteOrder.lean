namespace SheetFormula.Text

/-!
# The byte order of texts

Texts are ordered by their characters.  This is the order of their bytes: UTF-8 writes the larger
of two characters with the larger bytes, and with more of them only behind a larger first byte.

* `positional` — the bytes of one form of UTF-8: digits to the base 64, the first with an offset.
  Within a form the bytes are ordered as the code points (`positional_lt`).
* `Utf8Form` — which code points have which form.  The forms are told apart by the first byte.
* `utf8Bytes_lt` — hence the bytes of texts are in the order of the texts.
-/

open String (utf8EncodeChar)

/-- The bytes of a text. -/
def utf8Bytes (s : String) : List UInt8 := s.toUTF8.data.toList

/-- The bytes of a text are those of its characters, one after the other. -/
theorem utf8Bytes_eq (s : String) : utf8Bytes s = s.toList.flatMap utf8EncodeChar := by
  rw [utf8Bytes, String.toUTF8, ← String.utf8Encode_toList, List.utf8Encode,
    List.data_toByteArray]

variable {m n offset k : Nat}

/-- Small numbers keep their order as bytes. -/
theorem byte_lt (h : m < n) (hn : n < 256) : UInt8.ofNat m < UInt8.ofNat n := by
  rw [UInt8.lt_iff_toNat_lt, UInt8.toNat_ofNat', UInt8.toNat_ofNat', Nat.mod_eq_of_lt hn,
    Nat.mod_eq_of_lt (Nat.lt_trans h hn)]
  exact h

/-! ### One form -/

/-- What is left of a code point when its `k` last digits to the base 64 are taken off. -/
def leadingDigit : Nat → Nat → Nat
  | 0, n => n
  | k + 1, n => leadingDigit k (n / 64)

/-- A code point in `k + 1` bytes: the first one begins with the marks of the form, the others are
    digits to the base 64 with a mark of their own. -/
def positional (offset : Nat) : Nat → Nat → List UInt8
  | 0, n => [.ofNat (offset + n)]
  | k + 1, n => positional offset k (n / 64) ++ [.ofNat (128 + n % 64)]

/-- A number in several digits starts with its leading digit. -/
theorem exists_positional (offset k n : Nat) :
    ∃ rest, positional offset k n = .ofNat (offset + leadingDigit k n) :: rest := by
  induction k generalizing n with
  | zero => exact ⟨[], rfl⟩
  | succ k ih =>
    obtain ⟨rest, hrest⟩ := ih (n / 64)
    exact ⟨rest ++ [.ofNat (128 + n % 64)], by rw [positional, hrest, leadingDigit]; rfl⟩

/-- **Digits in order.**  By induction on the number of digits: the last one decides if the others
    agree. -/
theorem positional_lt (h : m < n) (hn : offset + leadingDigit k n < 256) (us vs : List UInt8) :
    positional offset k m ++ us < positional offset k n ++ vs := by
  induction k generalizing m n us vs with
  | zero => exact List.cons_lt_cons_iff.mpr (.inl (byte_lt (Nat.add_lt_add_left h offset) hn))
  | succ k ih =>
    simp only [positional, List.append_assoc]
    -- The digits in front differ, or they are the same and the last one decides.
    rcases Nat.lt_or_eq_of_le (Nat.div_le_div_right (c := 64) (Nat.le_of_lt h)) with hlt | heq
    · exact ih hlt hn _ _
    · rw [heq]
      apply List.append_left_lt
      exact List.cons_lt_cons_iff.mpr (.inl (byte_lt (by omega) (by omega)))

/-! ### All forms -/

/-- The forms of code points: the offset of the first byte and the number of further bytes. -/
inductive Utf8Form : Nat → Nat → Nat → Prop
  | one {n : Nat} (h : n < 0x80) : Utf8Form n 0 0
  | two {n : Nat} (h : 0x80 ≤ n) (h' : n < 0x800) : Utf8Form n 192 1
  | three {n : Nat} (h : 0x800 ≤ n) (h' : n < 0x10000) : Utf8Form n 224 2
  | four {n : Nat} (h : 0x10000 ≤ n) (h' : n < 0x110000) : Utf8Form n 240 3

/-- Each character is written in one of the forms. -/
theorem exists_utf8Form (c : Char) :
    ∃ offset k, Utf8Form c.toNat offset k ∧ utf8EncodeChar c = positional offset k c.toNat := by
  have hvalid : c.toNat < 0x110000 := by
    rcases c.valid with h | ⟨-, h⟩
    · exact Nat.lt_trans h (by decide)
    · exact h
  -- The four branches of the encoding are the four forms.
  unfold utf8EncodeChar
  rw [show c.val.toNat = c.toNat from rfl]
  generalize c.toNat = n at hvalid ⊢
  dsimp only
  split
  · exact ⟨0, 0, .one (by omega), by simp [positional]⟩
  split
  · refine ⟨192, 1, .two (by omega) (by omega), ?_⟩
    rw [show n / 64 % 32 + 192 = 192 + n / 64 by omega, Nat.add_comm (n % 64)]
    rfl
  split
  · refine ⟨224, 2, .three (by omega) (by omega), ?_⟩
    rw [show n / 4096 % 16 + 224 = 224 + n / 64 / 64 by omega, Nat.add_comm (n / 64 % 64),
      Nat.add_comm (n % 64)]
    rfl
  · refine ⟨240, 3, .four (by omega) (by omega), ?_⟩
    rw [show n / 262144 % 8 + 240 = 240 + n / 64 / 64 / 64 by omega,
      show n / 4096 % 64 + 128 = 128 + n / 64 / 64 % 64 by omega, Nat.add_comm (n / 64 % 64),
      Nat.add_comm (n % 64)]
    rfl

/-- A longer form begins with a larger byte. -/
theorem Utf8Form.eq_or_lt {offset' k' : Nat} (h : m < n) (hm : Utf8Form m offset k)
    (hn : Utf8Form n offset' k') : offset' + leadingDigit k' n < 256 ∧
      (offset = offset' ∧ k = k' ∨ offset + leadingDigit k m < offset' + leadingDigit k' n) := by
  cases hm <;> cases hn <;>
    simp only [leadingDigit, and_self, true_or, and_true] <;> omega

/-- **The bytes of a larger character are larger**, whatever follows. -/
theorem utf8EncodeChar_lt {c d : Char} (h : c < d) (us vs : List UInt8) :
    utf8EncodeChar c ++ us < utf8EncodeChar d ++ vs := by
  obtain ⟨offset, k, hc, hcs⟩ := exists_utf8Form c
  obtain ⟨offset', k', hd, hds⟩ := exists_utf8Form d
  -- Two characters of the same form differ in their digits, and two of different forms in the first
  -- byte already.
  obtain ⟨hbyte, ⟨rfl, rfl⟩ | hlead⟩ := hc.eq_or_lt h hd
  · rw [hcs, hds]
    exact positional_lt h hbyte us vs
  · obtain ⟨cs, hcs'⟩ := exists_positional offset k c.toNat
    obtain ⟨ds, hds'⟩ := exists_positional offset' k' d.toNat
    rw [hcs, hds, hcs', hds']
    exact List.cons_lt_cons_iff.mpr (.inl (byte_lt hlead hbyte))

/-- **Lists of characters** have the order of their bytes, by induction up to the first
    difference. -/
theorem flatMap_utf8EncodeChar_lt {cs ds : List Char} (h : cs < ds) :
    cs.flatMap utf8EncodeChar < ds.flatMap utf8EncodeChar := by
  -- By cases on the first difference of the texts: one of them ends there, or two characters
  -- differ.
  induction h with
  | nil =>
    next d ds =>
    obtain ⟨offset, k, -, hd⟩ := exists_utf8Form d
    obtain ⟨rest, hrest⟩ := exists_positional offset k d.toNat
    rw [List.flatMap_cons, hd, hrest]
    exact .nil
  | cons _ ih => exact List.append_left_lt ih
  | rel h => exact utf8EncodeChar_lt h _ _

/-- **Texts have the order of their bytes.** -/
theorem utf8Bytes_lt {a b : String} (h : a < b) : utf8Bytes a < utf8Bytes b := by
  rw [utf8Bytes_eq, utf8Bytes_eq]
  exact flatMap_utf8EncodeChar_lt (String.lt_iff.mp h)

end SheetFormula.Text
