import Mathlib.Data.List.Forall2
import SheetFormula.Text.Case

namespace SheetFormula.Text

/-!
# Characters and their lower case

A character and its lower case belong to the same classes: if one of them is cased then so is the
other, and the same holds of the case-ignorable ones.  So two characters that the search does not
tell apart have the same effect on a sigma in their neighbourhood.

* `simpleLower_cases` — a character is its own lower case, or it stands in a run of the table.
* `lowerRuns_cased` and `lowerRuns_inBlocks` — the table against the tables of the two classes, run
  by run.
* `cased_of_sameFolded` and `caseIgnorable_of_sameFolded` — the classes do not depend on case.
* `startsCased_of_sameFolded` — hence what decides about a sigma does not either.
-/

variable {s : CharSet} {r : CaseRun} {n : Nat} {c d : Char}

/-! ### Runs -/

/-- The code points of a run. -/
def CaseRun.members (r : CaseRun) : List Nat :=
  List.range' r.first ((r.last - r.first) / r.stride + 1) r.stride

/-- Does one of the ranges hold everything between the two code points? -/
def CharSet.covers (s : CharSet) (first last : Nat) : Bool :=
  s.ranges.any fun q => Nat.ble q.1 first && Nat.ble last q.2

/-- Does the set hold what `f` makes of the members of a run?  One range has it all, or each member
    is looked up. -/
def CaseRun.isWithin (r : CaseRun) (s : CharSet) (f : Nat → Nat) : Bool :=
  s.covers (f r.first) (f r.last) || r.members.all fun n => s.covers (f n) (f n)

/-- The members of a run are listed. -/
theorem CaseRun.mem_members (h : r.contains n = true) : n ∈ r.members := by
  obtain ⟨hfirst, hlast, hstride⟩ := contains_iff.mp h
  refine List.mem_range'.mpr ⟨(n - r.first) / r.stride, ?_, ?_⟩
  · exact Nat.lt_succ_of_le (Nat.div_le_div_right (by omega))
  · have := Nat.div_add_mod (n - r.first) r.stride
    omega

/-- A set that holds a run holds its members. -/
theorem CaseRun.exists_range {f : Nat → Nat} (hf : ∀ m n, m ≤ n → f m ≤ f n)
    (h : r.isWithin s f = true) (hn : r.contains n = true) :
    ∃ q ∈ s.ranges, q.1 ≤ f n ∧ f n ≤ q.2 := by
  obtain ⟨hfirst, hlast, -⟩ := contains_iff.mp hn
  have hcover : ∀ {first last : Nat}, s.covers first last = true → first ≤ f n → f n ≤ last →
      ∃ q ∈ s.ranges, q.1 ≤ f n ∧ f n ≤ q.2 := by
    intro first last h hle hge
    obtain ⟨q, hq, h⟩ := List.any_eq_true.mp h
    rw [Bool.and_eq_true, Nat.ble_eq, Nat.ble_eq] at h
    exact ⟨q, hq, Nat.le_trans h.1 hle, Nat.le_trans hge h.2⟩
  -- A range with both ends of the image has all of it, as `f` is monotone; a run with a stride may
  -- leave out what stands between its members, which is why these may be looked up one by one.
  rcases Bool.or_eq_true_iff.mp h with h | h
  · exact hcover h (hf _ _ hfirst) (hf _ _ hlast)
  · exact hcover (List.all_eq_true.mp h n (mem_members hn)) (Nat.le_refl _) (Nat.le_refl _)

/-! ### The tables -/

/-- Blocks of characters that hold all runs and their images, and no case-ignorable character. -/
def caseBlocks : CharSet :=
  ⟨[(0x41, 0x5A), (0x61, 0x7A), (0xC0, 0x29E), (0x370, 0x373), (0x376, 0x377), (0x37B, 0x37F),
   (0x386, 0x386), (0x388, 0x481), (0x48A, 0x556), (0x561, 0x586), (0x10A0, 0x10FA),
   (0x10FD, 0x10FF), (0x13A0, 0x13FD), (0x1C89, 0x1CBF), (0x1D79, 0x1D8E), (0x1E00, 0x1FBC),
   (0x1FC3, 0x1FCC), (0x1FD0, 0x1FDB), (0x1FE0, 0x1FEC), (0x1FF3, 0x1FFC), (0x2126, 0x2C76),
   (0x2C7E, 0x2CEE), (0x2CF2, 0x2D2D), (0xA640, 0xA66D), (0xA680, 0xA69B), (0xA722, 0xA76F),
   (0xA779, 0xA787), (0xA78B, 0xA7DC), (0xA7F5, 0xA7F6), (0xAB53, 0xAB53), (0xAB70, 0xABBF),
   (0xFF21, 0xFF3A), (0xFF41, 0xFF5A), (0x10400, 0x105BC), (0x10C80, 0x10CF2), (0x10D50, 0x10D65),
   (0x10D70, 0x10D85), (0x118A0, 0x118DF), (0x16E40, 0x16ED3), (0x1E900, 0x1E943)]⟩

/-- All characters with a lower case are cased, and so are their lower cases. -/
theorem lowerRuns_cased :
    (lowerRuns.all fun r => r.isWithin cased id && r.isWithin cased r.image) = true := by
  decide +kernel

/-- All characters with a lower case, and all lower cases, are in the blocks. -/
theorem lowerRuns_inBlocks :
    (lowerRuns.all fun r => r.isWithin caseBlocks id && r.isWithin caseBlocks r.image) = true := by
  decide +kernel

/-- No block overlaps the case-ignorable characters. -/
theorem caseBlocks_notIgnorable :
    (caseBlocks.ranges.all fun q => caseIgnorable.ranges.all fun i =>
      !(Nat.ble q.1 i.2 && Nat.ble i.1 q.2)) = true := by
  decide +kernel

/-- No block meets the surrogates or leaves the code space. -/
theorem caseBlocks_valid :
    (caseBlocks.ranges.all fun q =>
      Nat.ble q.2 0xD7FF || Nat.ble 0xE000 q.1 && Nat.ble q.2 0x10FFFF) = true := by
  decide +kernel

/-- Only the capital sigma has the small sigma as its lower case. -/
theorem lowerRuns_sigma :
    (lowerRuns.all fun r =>
      !r.contains (0x3C3 - r.offset).toNat || Nat.beq (0x3C3 - r.offset).toNat 0x3A3) = true := by
  decide +kernel

/-! ### Classes -/

/-- A member of a run and its image are in the blocks, and both are cased. -/
theorem exists_range_of_run (hr : r ∈ lowerRuns) (hn : r.contains n = true) {s : CharSet}
    (h : (lowerRuns.all fun r => r.isWithin s id && r.isWithin s r.image) = true) :
    (∃ q ∈ s.ranges, q.1 ≤ n ∧ n ≤ q.2) ∧ ∃ q ∈ s.ranges, q.1 ≤ r.image n ∧ r.image n ≤ q.2 := by
  have hwithin := List.all_eq_true.mp h r hr
  rw [Bool.and_eq_true] at hwithin
  exact ⟨r.exists_range (fun _ _ => id) hwithin.1 hn,
    r.exists_range (fun _ _ => r.image_mono) hwithin.2 hn⟩

/-- So a character in a block is not case-ignorable. -/
theorem caseIgnorable_of_block (h : ∃ q ∈ caseBlocks.ranges, q.1 ≤ c.toNat ∧ c.toNat ≤ q.2) :
    caseIgnorable.contains c = false := by
  obtain ⟨q, hq, hfirst, hlast⟩ := h
  -- A range of case-ignorable characters with this one in it would overlap the block.
  rw [Bool.eq_false_iff, Ne, CharSet.contains_iff]
  rintro ⟨i, hi, hbelow, habove⟩
  have hapart := List.all_eq_true.mp (List.all_eq_true.mp caseBlocks_notIgnorable q hq) i hi
  rw [Bool.not_eq_true', Bool.and_eq_false_iff, ← Bool.not_eq_true, ← Bool.not_eq_true, Nat.ble_eq,
    Nat.ble_eq] at hapart
  omega

/-- A code point in a block is that of a character. -/
theorem toNat_ofNat_of_block (h : ∃ q ∈ caseBlocks.ranges, q.1 ≤ n ∧ n ≤ q.2) :
    (Char.ofNat n).toNat = n := by
  obtain ⟨q, hq, hfirst, hlast⟩ := h
  have hvalid := List.all_eq_true.mp caseBlocks_valid q hq
  rw [Bool.or_eq_true, Bool.and_eq_true, Nat.ble_eq, Nat.ble_eq, Nat.ble_eq] at hvalid
  apply toNat_ofNat
  unfold Nat.isValidChar
  omega

/-- **Simple lower case.**  A character is its own lower case, or it stands in a run. -/
theorem simpleLower_cases (c : Char) :
    simpleLower c = c ∨ ∃ r ∈ lowerRuns, r.contains c.toNat = true ∧
      (simpleLower c).toNat = r.image c.toNat := by
  rcases CaseRun.apply_cases lowerRuns c with ⟨h, -⟩ | ⟨r, hr, hn, himage⟩
  · exact .inl h
  · refine .inr ⟨r, hr, hn, ?_⟩
    -- The image is the code point of a character: its block keeps clear of the surrogates.
    rw [simpleLower, himage]
    exact toNat_ofNat_of_block (exists_range_of_run hr hn lowerRuns_inBlocks).2

/-- **Cased characters** are those with a cased lower case. -/
theorem cased_simpleLower (c : Char) : cased.contains (simpleLower c) = cased.contains c := by
  rcases simpleLower_cases c with h | ⟨r, hr, hn, himage⟩
  · rw [h]
  · obtain ⟨hc, hlower⟩ := exists_range_of_run hr hn lowerRuns_cased
    rw [← himage] at hlower
    rw [CharSet.contains_iff.mpr hc, CharSet.contains_iff.mpr hlower]

/-- **Case-ignorable characters** are those with a case-ignorable lower case. -/
theorem caseIgnorable_simpleLower (c : Char) :
    caseIgnorable.contains (simpleLower c) = caseIgnorable.contains c := by
  rcases simpleLower_cases c with h | ⟨r, hr, hn, himage⟩
  · rw [h]
  · obtain ⟨hc, hlower⟩ := exists_range_of_run hr hn lowerRuns_inBlocks
    rw [← himage] at hlower
    rw [caseIgnorable_of_block hc, caseIgnorable_of_block hlower]

/-- Nothing else becomes a small sigma. -/
theorem simpleLower_eq_sigma (h : simpleLower c = 'σ') : c = 'Σ' ∨ c = 'σ' := by
  rcases simpleLower_cases c with hc | ⟨r, hr, hn, himage⟩
  · exact .inr (hc ▸ h)
  · have hcheck := List.all_eq_true.mp lowerRuns_sigma r hr
    have hpoint : ('σ' : Char).toNat = 0x3C3 := rfl
    rw [h, hpoint, CaseRun.image] at himage
    -- The run that leads to the small sigma holds the point one offset below, which is the capital.
    have hback : (0x3C3 - r.offset).toNat = c.toNat := by omega
    rw [hback, hn, Bool.not_true, Bool.false_or, Nat.beq_eq] at hcheck
    exact .inl (Char.toNat_inj.mp hcheck)

/-! ### Characters that the search does not tell apart -/

/-- The search compares full lower cases. -/
theorem sameFolded_iff : sameFolded c d = true ↔ lowerChar c = lowerChar d := beq_iff_eq

/-- The dotted capital I is the only one with its lower case. -/
theorem eq_or_simpleLower_eq (h : sameFolded c d = true) :
    c = d ∨ simpleLower c = simpleLower d := by
  rw [sameFolded_iff] at h
  unfold lowerChar at h
  split at h <;> split at h
  · next hc hd => exact .inl (hc.trans hd.symm)
  · exact absurd h (by simp)
  · exact absurd h (by simp)
  · exact .inr (List.singleton_inj.mp h)

/-- Characters with the same lower case are cased together. -/
theorem cased_of_sameFolded (h : sameFolded c d = true) : cased.contains c = cased.contains d := by
  rcases eq_or_simpleLower_eq h with rfl | h
  · rfl
  · rw [← cased_simpleLower c, h, cased_simpleLower]

/-- Characters with the same lower case are case-ignorable together. -/
theorem caseIgnorable_of_sameFolded (h : sameFolded c d = true) :
    caseIgnorable.contains c = caseIgnorable.contains d := by
  rcases eq_or_simpleLower_eq h with rfl | h
  · rfl
  · rw [← caseIgnorable_simpleLower c, h, caseIgnorable_simpleLower]

/-- The first character decides, unless it is case-ignorable. -/
theorem startsCased_cons (c : Char) (cs : List Char) :
    startsCased (c :: cs) =
      if caseIgnorable.contains c then startsCased cs else cased.contains c := by
  unfold startsCased
  rw [List.dropWhile_cons]
  cases caseIgnorable.contains c <;> rfl

/-- **What stands around a sigma** has the same effect in any letter case. -/
theorem startsCased_of_sameFolded {cs ds : List Char}
    (h : List.Forall₂ (fun c d => sameFolded c d = true) cs ds) :
    startsCased cs = startsCased ds := by
  induction h with
  | nil => rfl
  | cons h _ ih =>
    rw [startsCased_cons, startsCased_cons, caseIgnorable_of_sameFolded h, cased_of_sameFolded h,
      ih]

end SheetFormula.Text
