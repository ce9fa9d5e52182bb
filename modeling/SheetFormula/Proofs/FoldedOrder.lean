import SheetFormula.Proofs.Comparisons
import SheetFormula.Proofs.LowerCase

namespace SheetFormula

/-!
# Letter case in the order and in the search

The search compares texts character by character, each by its full lower case; the order operators
compare the lower cases of whole texts.  The two agree but for one character: a capital sigma that
ends a word becomes a final sigma in a whole text, and a small sigma stays what it is.  So texts
that the search does not tell apart are equal for the order operators unless a capital sigma ends a
word in one of them where the other has a small sigma; the first such place puts the text with the
capital before the other.

* `FinalSigma` — a capital sigma at the end of a word.
* `Clash` and `FirstClash` — the places where the two views of letter case differ.
* `lowerFrom_cases` — the lower cases of two texts that the search does not tell apart.
* `Operator.order_of_sameFolded` — what the order operators say about them.
* `Operator.order_of_finalSigma` — two texts that are different for them.
-/

namespace Text

variable {before before' cs ds : List Char} {c d : Char} {i : Nat}

/-- Do the texts match character by character, as the search compares characters? -/
def SameFolded (cs ds : List Char) : Prop := List.Forall₂ (fun c d => sameFolded c d = true) cs ds

/-! ### Places that differ -/

/-- Does a capital sigma end a word in this place of a text of which `before` has been read, last
    character first? -/
structure FinalSigma (before cs : List Char) (i : Nat) : Prop where
  sigma : cs[i]? = some 'Σ'
  preceded : startsCased ((cs.take i).reverse ++ before) = true
  ends : startsCased (cs.drop (i + 1)) = false

/-- Does a capital sigma end a word of the first text where the second has a small sigma? -/
structure Clash (before cs ds : List Char) (i : Nat) : Prop where
  final : FinalSigma before cs i
  small : ds[i]? = some 'σ'

/-- Is this the first place where a final capital meets a small sigma, the capital in the first
    text? -/
structure FirstClash (before before' cs ds : List Char) (i : Nat) : Prop where
  clash : Clash before cs ds i
  least : ∀ j < i, ¬ Clash before cs ds j ∧ ¬ Clash before' ds cs j

theorem not_clash_nil : ¬ Clash before cs [] i := by
  rintro ⟨-, hsmall⟩
  cases hsmall

/-- A clash further on is one in the rest of the texts, with one more character read. -/
theorem clash_succ : Clash before (c :: cs) (d :: ds) (i + 1) ↔ Clash (c :: before) cs ds i := by
  have htake : ((c :: cs).take (i + 1)).reverse ++ before =
      (cs.take i).reverse ++ c :: before := by simp
  constructor
  · rintro ⟨⟨hsigma, hpreceded, hends⟩, hsmall⟩
    exact ⟨⟨hsigma, htake ▸ hpreceded, hends⟩, hsmall⟩
  · rintro ⟨⟨hsigma, hpreceded, hends⟩, hsmall⟩
    exact ⟨⟨hsigma, htake ▸ hpreceded, hends⟩, hsmall⟩

/-- A clash at the start: a final capital sigma meets a small sigma. -/
theorem clash_zero : Clash before (c :: cs) (d :: ds) 0 ↔
    c = 'Σ' ∧ d = 'σ' ∧ startsCased before = true ∧ startsCased cs = false := by
  constructor
  · rintro ⟨⟨hsigma, hpreceded, hends⟩, hsmall⟩
    exact ⟨Option.some.inj hsigma, Option.some.inj hsmall, hpreceded, hends⟩
  · rintro ⟨rfl, rfl, hpreceded, hends⟩
    exact ⟨⟨rfl, hpreceded, hends⟩, rfl⟩

/-- The first place of the rest is that of the whole, if the first characters do not clash. -/
theorem FirstClash.succ (h : FirstClash (c :: before) (d :: before') cs ds i)
    (h0 : ¬ Clash before (c :: cs) (d :: ds) 0) (h0' : ¬ Clash before' (d :: ds) (c :: cs) 0) :
    FirstClash before before' (c :: cs) (d :: ds) (i + 1) := by
  refine ⟨clash_succ.mpr h.clash, fun j hj => ?_⟩
  cases j with
  | zero => exact ⟨h0, h0'⟩
  | succ j =>
    rw [clash_succ, clash_succ]
    exact h.least j (Nat.lt_of_succ_lt_succ hj)

/-! ### One character -/

/-- The lower case of a character between two parts of a text. -/
def lowerAt (before : List Char) (c : Char) (after : List Char) : List Char :=
  if c = 'Σ' then if startsCased before && !startsCased after then ['ς'] else ['σ']
  else lowerChar c

/-- A text is put into lower case one character at a time. -/
theorem lowerFrom_cons (before cs : List Char) (c : Char) :
    lowerFrom before (c :: cs) = lowerAt before c cs ++ lowerFrom (c :: before) cs := rfl

/-- Away from the end of a word both sigmas become the small one. -/
theorem lowerChar_sigma : lowerChar 'Σ' = ['σ'] ∧ lowerChar 'σ' = ['σ'] := by decide +kernel

/-- The capital sigma matches itself and the small one. -/
theorem eq_sigma_of_sameFolded (h : sameFolded 'Σ' c = true) : c = 'Σ' ∨ c = 'σ' := by
  rw [sameFolded_iff, lowerChar_sigma.1] at h
  unfold lowerChar at h
  split at h
  · exact absurd h (by simp)
  · exact simpleLower_eq_sigma (List.singleton_inj.mp h).symm

/-- A capital sigma against a small one: they differ where the capital ends a word. -/
theorem lowerAt_sigma (before before' cs ds : List Char) :
    ¬ Clash before ('Σ' :: cs) ('σ' :: ds) 0 ∧ lowerAt before 'Σ' cs = lowerAt before' 'σ' ds ∨
      Clash before ('Σ' :: cs) ('σ' :: ds) 0 ∧ lowerAt before 'Σ' cs = ['ς'] ∧
        lowerAt before' 'σ' ds = ['σ'] := by
  have hsmall : lowerAt before' 'σ' ds = ['σ'] := lowerChar_sigma.2
  rw [hsmall, clash_zero]
  unfold lowerAt
  cases startsCased before <;> cases startsCased cs <;> simp

/-- **One character.**  Two characters that the search does not tell apart have the same lower case,
    or they clash. -/
theorem lowerAt_cases (hc : sameFolded c d = true) (hb : SameFolded before before')
    (hs : SameFolded cs ds) :
    (¬ Clash before (c :: cs) (d :: ds) 0 ∧ ¬ Clash before' (d :: ds) (c :: cs) 0) ∧
        lowerAt before c cs = lowerAt before' d ds ∨
      Clash before (c :: cs) (d :: ds) 0 ∧ lowerAt before c cs = ['ς'] ∧
        lowerAt before' d ds = ['σ'] ∨
      Clash before' (d :: ds) (c :: cs) 0 ∧ lowerAt before' d ds = ['ς'] ∧
        lowerAt before c cs = ['σ'] := by
  have hne : 'σ' ≠ 'Σ' := by decide
  by_cases hcs : c = 'Σ'
  · subst hcs
    rcases eq_sigma_of_sameFolded hc with rfl | rfl
    · -- Two capitals end a word in the same places, since what stands around them matches.
      refine .inl ⟨?_, ?_⟩
      · rw [clash_zero, clash_zero]
        exact ⟨fun h => hne h.2.1.symm, fun h => hne h.2.1.symm⟩
      · unfold lowerAt
        rw [startsCased_of_sameFolded hb, startsCased_of_sameFolded hs]
    · have hother : ¬ Clash before' ('σ' :: ds) ('Σ' :: cs) 0 := by
        rw [clash_zero]
        exact fun h => hne h.1
      rcases lowerAt_sigma before before' cs ds with ⟨h, heq⟩ | h
      · exact .inl ⟨⟨h, hother⟩, heq⟩
      · exact .inr (.inl h)
  · by_cases hds : d = 'Σ'
    · subst hds
      have hc' : sameFolded 'Σ' c = true := sameFolded_iff.mpr (sameFolded_iff.mp hc).symm
      obtain rfl := (eq_sigma_of_sameFolded hc').resolve_left hcs
      have hother : ¬ Clash before ('σ' :: cs) ('Σ' :: ds) 0 := by
        rw [clash_zero]
        exact fun h => hne h.1
      rcases lowerAt_sigma before' before ds cs with ⟨h, heq⟩ | h
      · exact .inl ⟨⟨hother, h⟩, heq.symm⟩
      · exact .inr (.inr h)
    · refine .inl ⟨?_, ?_⟩
      · rw [clash_zero, clash_zero]
        exact ⟨fun h => hcs h.1, fun h => hds h.1⟩
      · unfold lowerAt
        rw [if_neg hcs, if_neg hds, sameFolded_iff.mp hc]

/-! ### Whole texts -/

/-- The final sigma comes before the other small sigma, whatever follows them. -/
theorem finalSigma_lt_sigma (xs ys : List Char) : ['ς'] ++ xs < ['σ'] ++ ys :=
  List.cons_lt_cons_iff.mpr (.inl (by decide))

/-- **Two texts that the search does not tell apart** have the same lower case, or the first clash
    orders their lower cases. -/
theorem lowerFrom_cases (hb : SameFolded before before') (hs : SameFolded cs ds) :
    (∀ i, ¬ Clash before cs ds i ∧ ¬ Clash before' ds cs i) ∧
        lowerFrom before cs = lowerFrom before' ds ∨
      (∃ i, FirstClash before before' cs ds i) ∧ lowerFrom before cs < lowerFrom before' ds ∨
      (∃ i, FirstClash before' before ds cs i) ∧ lowerFrom before' ds < lowerFrom before cs := by
  -- By induction on the texts; what has been read grows by one character of each at every step.
  induction hs generalizing before before' with
  | nil => exact .inl ⟨fun i => ⟨not_clash_nil, not_clash_nil⟩, rfl⟩
  | @cons c d cs ds hc hs ih =>
    rw [lowerFrom_cons, lowerFrom_cons]
    rcases lowerAt_cases hc hb hs with ⟨⟨h0, h0'⟩, heq⟩ | ⟨h0, hc', hd'⟩ | ⟨h0, hd', hc'⟩
    · rw [heq]
      rcases ih (.cons hc hb) with ⟨hnone, htail⟩ | ⟨⟨i, hi⟩, htail⟩ | ⟨⟨i, hi⟩, htail⟩
      · refine .inl ⟨fun i => ?_, by rw [htail]⟩
        cases i with
        | zero => exact ⟨h0, h0'⟩
        | succ i =>
          rw [clash_succ, clash_succ]
          exact hnone i
      · exact .inr (.inl ⟨⟨i + 1, hi.succ h0 h0'⟩, List.append_left_lt htail⟩)
      · exact .inr (.inr ⟨⟨i + 1, hi.succ h0' h0⟩, List.append_left_lt htail⟩)
    · rw [hc', hd']
      have hfirst : FirstClash before before' (c :: cs) (d :: ds) 0 :=
        ⟨h0, fun j hj => absurd hj (Nat.not_lt_zero j)⟩
      exact .inr (.inl ⟨⟨0, hfirst⟩, finalSigma_lt_sigma _ _⟩)
    · rw [hc', hd']
      have hfirst : FirstClash before' before (d :: ds) (c :: cs) 0 :=
        ⟨h0, fun j hj => absurd hj (Nat.not_lt_zero j)⟩
      exact .inr (.inr ⟨⟨0, hfirst⟩, finalSigma_lt_sigma _ _⟩)

end Text

namespace Operator

open Text

theorem compare_ofList {cs ds : List Char} (h : cs < ds) :
    compare (String.ofList cs) (String.ofList ds) = .lt := by
  have hlt : String.ofList cs < String.ofList ds := by
    rwa [String.lt_iff, String.toList_ofList, String.toList_ofList]
  exact if_pos hlt

/-- **The order of texts that the search does not tell apart.**  The order operators take them for
    equal if no capital sigma ends a word of one of them where the other has a small sigma.
    Otherwise the first such place decides, and the text with the capital comes first. -/
theorem order_of_sameFolded {a b : String} (h : SameFolded a.toList b.toList) :
    (∀ i, ¬ Clash [] a.toList b.toList i ∧ ¬ Clash [] b.toList a.toList i) ∧
        Answers (.text a) (.text b) false false true true ∨
      (∃ i, FirstClash [] [] a.toList b.toList i) ∧
        Answers (.text a) (.text b) true false true false ∨
      (∃ i, FirstClash [] [] b.toList a.toList i) ∧
        Answers (.text a) (.text b) false true false true := by
  -- The four answers are those of the order of the lower-case texts.
  have hanswers {o : Ordering}
      (ho : compare (String.ofList (lower a.toList)) (String.ofList (lower b.toList)) = o) :
      Answers (.text a) (.text b) o.isLT o.isGT o.isLE o.isGE :=
    answers_of_compare? rfl rfl (congrArg some ho)
  rcases lowerFrom_cases .nil h with ⟨hnone, heq⟩ | ⟨hfirst, hlt⟩ | ⟨hfirst, hlt⟩
  · refine .inl ⟨hnone, hanswers (o := .eq) ?_⟩
    rw [lower, lower, heq]
    exact Std.ReflOrd.compare_self
  · exact .inr (.inl ⟨hfirst, hanswers (o := .lt) (compare_ofList hlt)⟩)
  · refine .inr (.inr ⟨hfirst, hanswers (o := .gt) ?_⟩)
    rw [Std.OrientedOrd.eq_swap, lower, lower, compare_ofList hlt]
    rfl

/-- A sigma that begins a word has one lower case only. -/
theorem order_of_sameFolded_initialSigma :
    SameFolded "ΣΑ".toList "σα".toList ∧
      Answers (.text "ΣΑ") (.text "σα") false false true true := by
  have hmatch : SameFolded "ΣΑ".toList "σα".toList :=
    .cons (by decide +kernel) (.cons (by decide +kernel) .nil)
  -- The only place with a capital sigma is the first one, and no word ends there.
  have hplace {cs ds : List Char} {i : Nat} (hcs : cs[1]? ≠ some 'Σ') (hlength : cs.length = 2) :
      ¬ Clash [] cs ds i := by
    rintro ⟨⟨hsigma, hpreceded, -⟩, -⟩
    obtain ⟨hi, -⟩ := List.getElem?_eq_some_iff.mp hsigma
    have hcases : i = 0 ∨ i = 1 := by omega
    rcases hcases with rfl | rfl
    · cases hpreceded
    · exact hcs hsigma
  rcases order_of_sameFolded hmatch with ⟨-, hequal⟩ | ⟨⟨i, hi⟩, -⟩ | ⟨⟨i, hi⟩, -⟩
  · exact ⟨hmatch, hequal⟩
  · exact absurd hi.clash (hplace (by decide) (by decide))
  · exact absurd hi.clash (hplace (by decide) (by decide))

/-- **A final sigma.**  The search does not tell these texts apart, but for the order operators one
    comes before the other. -/
theorem order_of_finalSigma :
    SameFolded "ΟΣ".toList "οσ".toList ∧
      Answers (.text "ΟΣ") (.text "οσ") true false true false := by
  refine ⟨.cons (by decide +kernel) (.cons (by decide +kernel) .nil), ?_⟩
  exact ⟨by decide +kernel, by decide +kernel, by decide +kernel, by decide +kernel⟩

end Operator

end SheetFormula
