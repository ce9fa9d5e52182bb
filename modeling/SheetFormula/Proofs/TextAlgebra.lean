import SheetFormula.Proofs.ExactArithmetic
import SheetFormula.Proofs.OperatorContract
import SheetFormula.Proofs.TextSearch

namespace SheetFormula

/-!
# The algebra of texts

Concatenation, length and the two ends of a text fit together: lengths add up, a concatenation comes
apart at the lengths of its parts, and a text is put together again from its two ends.  All of this
is about characters, and counts of characters are integer operands.

* `Operator.sum_of_counts` and `Operator.difference_of_counts` — arithmetic of counts.
* `Operator.concat_eq`, `Function.len_eq` and `Function.slice_eq` — concatenation, length and ends
  in terms of the characters.
* `Operator.concat_assoc` — `&` is associative on values, and the leftmost error is handed on.
* `Function.text_algebra` — the laws together.
-/

variable {a b c : Token} {s t : String} {x : Number} {j k : Nat} {n : Int64}

open Number (Fits IsExactly)

/-! ### Counts -/

namespace Function

/-- An exact number of characters is a count. -/
theorem number_eq_countToken (h : IsExactly k x) : .number x = countToken k := by
  obtain ⟨i, rfl, hi⟩ := h
  have hfits : Fits k := hi ▸ Number.fits_toInt i
  refine congrArg Token.ofInt (Int64.toInt_inj.mp ?_)
  rw [hi, Number.toInt_ofNat_of_fits hfits]

/-- An integer that is not negative counts characters. -/
theorem exists_countToken (h : 0 ≤ n) :
    ∃ k : Nat, n.toInt = k ∧ Token.ofInt n = countToken k := by
  have hnonneg : (0 : Int64).toInt ≤ n.toInt := Int64.le_iff_toInt_le.mp h
  obtain ⟨k, hk⟩ := Int.eq_ofNat_of_zero_le hnonneg
  exact ⟨k, hk, number_eq_countToken ⟨n, rfl, hk⟩⟩

end Function

namespace Operator

/-- Arithmetic of counts with an exact result. -/
theorem numeric_countToken {i : Nat} {g : Number → Number → Number}
    (h : IsExactly k (g (.int (Int64.ofNat i)) (.int (Int64.ofNat j)))) :
    numeric g (Function.countToken i) (Function.countToken j) = Function.countToken k := by
  show finite _ = _
  rw [finite, if_pos h.isFinite, Function.number_eq_countToken h]

/-- Lengths add up as integers while they fit into 64 bits. -/
theorem sum_of_counts (h : Fits (j + k : Nat)) :
    numeric (· + ·) (Function.countToken j) (Function.countToken k) =
      Function.countToken (j + k) := by
  have hj : Fits j := Number.fits_of_le h (Nat.le_add_right j k)
  have hk : Fits k := Number.fits_of_le h (Nat.le_add_left k j)
  refine numeric_countToken ?_
  rw [Int.natCast_add] at h ⊢
  exact (Number.isExactly_ofNat hj).add (Number.isExactly_ofNat hk) h

/-- A smaller length is subtracted from a larger one as an integer. -/
theorem difference_of_counts (h : Fits k) (hj : j ≤ k) :
    numeric (· - ·) (Function.countToken k) (Function.countToken j) =
      Function.countToken (k - j) := by
  have hfits : Fits j := Number.fits_of_le h hj
  have hdifference : Fits (k - j : Nat) := Number.fits_of_le h (Nat.sub_le k j)
  refine numeric_countToken ?_
  rw [Int.natCast_sub hj] at hdifference ⊢
  exact (Number.isExactly_ofNat h).sub (Number.isExactly_ofNat hfits) hdifference

/-! ### Concatenation -/

/-- Joining puts one text after the other. -/
theorem concat_texts (ha : concatText? a = some s) (hb : concatText? b = some t) :
    concat a b = .text (s ++ t) := by
  have hnoError {a : Token} {s : String} (h : concatText? a = some s) : a.isError = false := by
    cases a <;> first | rfl | cases h
  rw [concat, guardErrors, firstError?, hnoError ha, hnoError hb, ha, hb]
  rfl

/-- The same for the text that a function takes from a value. -/
theorem concat_eq (ha : a.asText? = some s) (hb : b.asText? = some t) :
    concat a b = .text (s ++ t) := by
  have htext {a : Token} {s : String} (h : a.asText? = some s) : concatText? a = some s := by
    cases a <;> first | exact h | cases h
  exact concat_texts (htext ha) (htext hb)

/-- A value is an error, or it has a text. -/
theorem isError_or_exists_text (h : a.isValue = true) :
    a.isError = true ∨ a.isError = false ∧ ∃ s, concatText? a = some s := by
  cases ha : a.isError with
  | true => exact .inl rfl
  | false => exact .inr ⟨rfl, exists_concatText? ha h⟩

/-- **`&` is associative on values.**  However three values are grouped, the leftmost error among
    them is handed on, and if there is none their texts are put together. -/
theorem concat_assoc (ha : a.isValue = true) (hb : b.isValue = true) (hc : c.isValue = true) :
    concat (concat a b) c = concat a (concat b c) ∧
      ∀ e, [a, b, c].find? Token.isError = some e → concat (concat a b) c = e := by
  have hleft {a : Token} (h : a.isError = true) (b : Token) : concat a b = a :=
    (contract_concat a b).leftError h
  have hright {a b : Token} (h : a.isError = false) (h' : b.isError = true) : concat a b = b :=
    (contract_concat a b).rightError h h'
  -- The leftmost error decides, so the operands are looked at from left to right.
  rcases isError_or_exists_text ha with ha | ⟨ha, x, hx⟩
  · rw [hleft ha, hleft ha, hleft ha, List.find?_cons_of_pos ha]
    exact ⟨rfl, fun e => Option.some.inj⟩
  rcases isError_or_exists_text hb with hb | ⟨hb, y, hy⟩
  · rw [hright ha hb, hleft hb, hright ha hb, List.find?_cons_of_neg (by rw [ha]; decide),
      List.find?_cons_of_pos hb]
    exact ⟨rfl, fun e => Option.some.inj⟩
  rw [concat_texts hx hy, List.find?_cons_of_neg (by rw [ha]; decide),
    List.find?_cons_of_neg (by rw [hb]; decide)]
  rcases isError_or_exists_text hc with hc | ⟨hc, z, hz⟩
  · rw [hright rfl hc, hright hb hc, hright ha hc, List.find?_cons_of_pos hc]
    exact ⟨rfl, fun e => Option.some.inj⟩
  · rw [concat_texts rfl hz, concat_texts hy hz, concat_texts hx rfl, String.append_assoc,
      List.find?_cons_of_neg (by rw [hc]; decide)]
    exact ⟨rfl, by rintro e ⟨⟩⟩

end Operator

namespace Function

/-! ### Length and ends -/

/-- `LEN` counts characters, not bytes. -/
theorem len_eq (h : a.asText? = some s) : len [a] = countToken s.toList.length := by
  have hs : textOf (argument [a] 0) = .ok s := textOf_eq_ok h
  rw [len, hs]
  rfl

/-- A count that fits into 64 bits is taken as it is. -/
theorem slice_eq (cut : Nat → List Char → List Char) (h : a.asText? = some s) (hk : Fits k) :
    slice cut [a, countToken k] = .text (String.ofList (cut k s.toList)) := by
  have hs : textOf (argument [a, countToken k] 0) = .ok s := textOf_eq_ok h
  have hcount : lengthOf [a, countToken k] 1 = .ok k := by
    show (if (Int64.ofNat k).toInt < 0 then _ else Except.ok (Int64.ofNat k).toInt.toNat) = _
    rw [Number.toInt_ofNat_of_fits hk, if_neg (by omega), Int.toNat_natCast]
  rw [slice, hs, hcount]
  rfl

/-- The count of a text that fits. -/
theorem len_of_fits (h : a.asText? = some s) (hs : Fits s.toList.length) :
    ∃ l : Int64, len [a] = .ofInt l ∧ l.toInt = s.toList.length :=
  ⟨_, len_eq h, Number.toInt_ofNat_of_fits hs⟩

/-- `LEFT` takes characters from the front, all of them if there are too few. -/
theorem left_eq (h : a.asText? = some s) (hk : Fits k) :
    left [a, countToken k] = .text (String.ofList (s.toList.take k)) :=
  slice_eq List.take h hk

/-- `RIGHT` takes what is left after dropping the others. -/
theorem right_eq (h : a.asText? = some s) (hk : Fits k) :
    right [a, countToken k] =
      .text (String.ofList (s.toList.drop (s.toList.length - k))) :=
  slice_eq (fun n cs => cs.drop (cs.length - n)) h hk

theorem len_text (cs : List Char) : len [.text (String.ofList cs)] = countToken cs.length := by
  rw [len_eq rfl, String.toList_ofList]

/-! ### The laws -/

section

variable (ha : a.asText? = some s) (hb : b.asText? = some t)
include ha

/-- The ends of a text that are asked for have the length asked for, or that of the whole text. -/
theorem len_ends (hk : Fits k) :
    len [left [a, countToken k]] = countToken (min k s.toList.length) ∧
      len [right [a, countToken k]] = countToken (min k s.toList.length) := by
  rw [left_eq ha hk, right_eq ha hk, len_text, len_text, List.length_take, List.length_drop]
  exact ⟨rfl, congrArg countToken (by omega)⟩

/-- A text comes apart into two ends whose lengths add up to its own. -/
theorem concat_ends (hs : Fits s.toList.length) (hk : k ≤ s.toList.length) :
    Operator.concat (left [a, countToken k])
      (right [a, Operator.numeric (· - ·) (len [a]) (countToken k)]) = .text s := by
  have hrest : Fits (s.toList.length - k : Nat) := Number.fits_of_le hs (Nat.sub_le _ _)
  rw [len_eq ha, Operator.difference_of_counts hs hk, left_eq ha (Number.fits_of_le hs hk),
    right_eq ha hrest, Operator.concat_eq rfl rfl, Nat.sub_sub_self hk,
    ← String.ofList_append, List.take_append_drop, String.ofList_toList]

include hb

/-- The parts of a concatenation are its ends. -/
theorem ends_concat (h : Fits (s ++ t).toList.length) :
    left [Operator.concat a b, len [a]] = .text s ∧
      right [Operator.concat a b, len [b]] = .text t := by
  rw [String.toList_append, List.length_append] at h
  -- Each part is shorter than the whole, so both lengths fit.
  have hs : Fits s.toList.length := Number.fits_of_le h (Nat.le_add_right _ _)
  have ht : Fits t.toList.length := Number.fits_of_le h (Nat.le_add_left _ _)
  have htext : (Token.text (s ++ t)).asText? = some (s ++ t) := rfl
  rw [Operator.concat_eq ha hb, len_eq ha, len_eq hb, left_eq htext hs, right_eq htext ht,
    String.toList_append, List.take_left, List.length_append, Nat.add_sub_cancel, List.drop_left,
    String.ofList_toList, String.ofList_toList]
  exact ⟨rfl, rfl⟩

/-- The length of two texts joined is the sum of their lengths. -/
theorem len_concat (h : Fits (s ++ t).toList.length) :
    len [Operator.concat a b] = Operator.numeric (· + ·) (len [a]) (len [b]) := by
  rw [String.toList_append, List.length_append] at h
  rw [Operator.concat_eq ha hb, len_eq ha, len_eq hb, len_eq rfl, String.toList_append,
    List.length_append, Operator.sum_of_counts h]

end

/-- **The algebra of texts.**  Take two operands with a text whose characters can be counted in 64
    bits together; those of a text in memory always can, for there are fewer than `2 ^ 63` bytes.
    The length of a concatenation is the sum of the lengths, and its two ends of these lengths are
    the two texts.  Either end of a text has the length asked for, or that of the whole text if this
    is smaller, and a text is the concatenation of its first characters and of all others.  On
    values, errors among them, `&` is associative, and the leftmost error is handed on. -/
theorem text_algebra (ha : a.asText? = some s) (hb : b.asText? = some t)
    (hst : Fits (s ++ t).toList.length) :
    len [Operator.concat a b] = Operator.numeric (· + ·) (len [a]) (len [b]) ∧
    left [Operator.concat a b, len [a]] = .text s ∧
    right [Operator.concat a b, len [b]] = .text t ∧
    (∃ l : Int64, len [a] = .ofInt l ∧ l.toInt = s.toList.length ∧ ∀ n : Int64, 0 ≤ n →
      len [left [a, .ofInt n]] = .ofInt (min n l) ∧
      len [right [a, .ofInt n]] = .ofInt (min n l) ∧
      (n ≤ l → Operator.concat (left [a, .ofInt n])
        (right [a, Operator.numeric (· - ·) (len [a]) (.ofInt n)]) = .text s)) ∧
    ∀ x y z : Token, x.isValue = true → y.isValue = true → z.isValue = true →
      Operator.concat (Operator.concat x y) z = Operator.concat x (Operator.concat y z) ∧
      ∀ e, [x, y, z].find? Token.isError = some e →
        Operator.concat (Operator.concat x y) z = e := by
  have hs : Fits s.toList.length := by
    refine Number.fits_of_le hst ?_
    rw [String.toList_append, List.length_append]
    exact Nat.le_add_right _ _
  obtain ⟨hleft, hright⟩ := ends_concat ha hb hst
  obtain ⟨l, hl, hlength⟩ := len_of_fits ha hs
  refine ⟨len_concat ha hb hst, hleft, hright, ⟨l, hl, hlength, fun n hn => ?_⟩,
    fun x y z hx hy hz => Operator.concat_assoc hx hy hz⟩
  -- From here on the integer is a number of characters, and the rest is about lists of them.
  obtain ⟨k, hk, hcount⟩ := exists_countToken hn
  have hfits : Fits k := hk ▸ Number.fits_toInt n
  have hmin : Token.ofInt (min n l) = countToken (min k s.toList.length) := by
    refine number_eq_countToken ⟨_, rfl, ?_⟩
    rw [Number.toInt_min, hk, hlength]
    omega
  obtain ⟨hfirst, hlast⟩ := len_ends ha hfits
  rw [hcount, hmin]
  refine ⟨hfirst, hlast, fun hle => concat_ends ha hs ?_⟩
  rw [Int64.le_iff_toInt_le, hk, hlength] at hle
  omega

/-- Two characters and a number make a text of four characters. -/
theorem text_algebra_number :
    (Token.text "日本").asText? = some "日本" ∧ (Token.ofInt 12).asText? = some "12" ∧
      len [Operator.concat (.text "日本") (.ofInt 12)] = .ofInt 4 ∧
      right [Operator.concat (.text "日本") (.ofInt 12), len [.ofInt 12]] = .text "12" ∧
      len [left [.text "日本", .ofInt 1]] = .ofInt 1 ∧
      Operator.concat (left [.text "日本", .ofInt 1]) (right [.text "日本",
        Operator.numeric (· - ·) (len [.text "日本"]) (.ofInt 1)]) = .text "日本" ∧
      Operator.concat (Operator.concat .omitted (.failure .value "first"))
        (.failure .reference "") = .failure .value "first" := by
  have hnumber : (Token.ofInt 12).asText? = some "12" := by decide +kernel
  obtain ⟨hlen, -, hright, ⟨l, hl, -, hends⟩, hassoc⟩ :=
    text_algebra (a := .text "日本") (b := .ofInt 12) rfl hnumber (by decide)
  have htwo : len [.text "日本"] = .ofInt 2 := by decide +kernel
  have hsum : Operator.numeric (· + ·) (len [.text "日本"]) (len [.ofInt 12]) = .ofInt 4 := by
    decide +kernel
  rw [htwo] at hl
  cases hl
  obtain ⟨hone, -, htogether⟩ := hends 1 (by decide)
  exact ⟨rfl, hnumber, hlen.trans hsum, hright, hone, htogether (by decide),
    (hassoc .omitted (.failure .value "first") (.failure .reference "") rfl rfl rfl).2 _ rfl⟩

end Function

end SheetFormula
