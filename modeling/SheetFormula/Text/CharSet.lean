namespace SheetFormula.Text

/-!
# Sets and mappings of characters

A set of characters is given by ranges of code points, and a mapping of characters by runs of code
points with a common offset, as the tables of the Unicode standard list them.  All tables follow its
version 17.
-/

/-- A set of characters as ranges of code points, each with its first and last member. -/
structure CharSet where
  ranges : List (Nat × Nat)

namespace CharSet

/-- Is the character in one of the ranges? -/
def contains (s : CharSet) (c : Char) : Bool :=
  s.ranges.any fun r => r.1 ≤ c.toNat && c.toNat ≤ r.2

/-- A character is in a set if one of its ranges has it. -/
theorem contains_iff {s : CharSet} {c : Char} :
    s.contains c = true ↔ ∃ r ∈ s.ranges, r.1 ≤ c.toNat ∧ c.toNat ≤ r.2 := by
  simp [contains]

end CharSet

/-- The characters `first`, `first + stride`, … up to `last`, which are all mapped to the character
    `offset` further on. -/
structure CaseRun where
  first : Nat
  last : Nat
  stride : Nat
  offset : Int
  deriving DecidableEq

namespace CaseRun

/-- Is the code point in the run? -/
def contains (r : CaseRun) (n : Nat) : Bool :=
  r.first ≤ n && n ≤ r.last && (n - r.first) % r.stride == 0

/-- What a member of the run is mapped to. -/
def image (r : CaseRun) (n : Nat) : Nat := (n + r.offset).toNat

/-- What the runs map a character to: the first one that has it decides, and a character that is in
    none of them stays as it is. -/
def apply (runs : List CaseRun) (c : Char) : Char :=
  match runs.find? (·.contains c.toNat) with
  | some r => Char.ofNat (r.image c.toNat)
  | none => c

variable {r : CaseRun} {runs : List CaseRun} {m n : Nat} {c : Char}

/-- The members of a run lie between its ends, a whole number of strides from the first one. -/
theorem contains_iff :
    r.contains n = true ↔ r.first ≤ n ∧ n ≤ r.last ∧ (n - r.first) % r.stride = 0 := by
  simp [contains, and_assoc]

/-- A run keeps the order of code points. -/
theorem image_mono (r : CaseRun) (h : m ≤ n) : r.image m ≤ r.image n := by
  unfold image
  omega

/-- A character in none of the runs stays as it is, and one of the runs decides otherwise. -/
theorem apply_cases (runs : List CaseRun) (c : Char) :
    (apply runs c = c ∧ ∀ r ∈ runs, r.contains c.toNat = false) ∨
      ∃ r ∈ runs, r.contains c.toNat = true ∧ apply runs c = Char.ofNat (r.image c.toNat) := by
  unfold apply
  -- The first run that has the character decides.
  cases hfind : runs.find? (·.contains c.toNat) with
  | none =>
    refine .inl ⟨rfl, fun r hr => ?_⟩
    simpa using List.find?_eq_none.mp hfind r hr
  | some r =>
    have hn : r.contains c.toNat = true := by simpa using List.find?_some hfind
    exact .inr ⟨r, List.mem_of_find?_eq_some hfind, hn, rfl⟩

end CaseRun

/-- A code point is that of its character, unless it is a surrogate or outside the code space. -/
theorem toNat_ofNat {n : Nat} (h : n.isValidChar) : (Char.ofNat n).toNat = n := by
  rw [Char.ofNat, dif_pos h]
  rfl

end SheetFormula.Text
