import SheetFormula.Proofs.IntegerDoubles

namespace SheetFormula.Number

/-!
# The order of numbers

Two integers are compared exactly, any other two numbers as doubles.  Each number that is no NaN has
a place among the doubles, and a comparison as doubles is one of places.  The place of an integer
never falls when the integer grows, so the two ways to compare nearly make one order.  They clash
where a double stands between two integers that both become this double: it is equal to both of
them, and they differ.

* `place?` — the place of a number among the doubles.
* `atMost_iff` — the comparison of numbers in terms of places.
* `RoundedTogether` — two integers with a double between them that both of them become.
* `atMost_trans_iff` and `sameValue_trans_iff` — the order of numbers is transitive, and so is their
  equality, in all other cases.
-/

variable {x y z : Number} {a b : Int}

/-! ### Places -/

/-- The place of the number, as a double, in the order of all doubles. -/
def place? (x : Number) : Option Int := Binary64.orderKey? x.toFloat

/-- An integer has the place of the double nearest to it. -/
theorem place?_int (i : Int64) : (Number.int i).place? = some (Binary64.nearestKey i.toInt) := by
  have hlow := i.minValue_le_toInt
  have hhigh := i.toInt_le
  have hmin : Int64.minValue.toInt = -9223372036854775808 := by decide
  have hmax : Int64.maxValue.toInt = 9223372036854775807 := by decide
  have hsize : UInt64.size = 18446744073709551616 := rfl
  exact Binary64.orderKey?_ofInt (by omega)

/-- Only NaN has no place. -/
theorem place?_eq_none_iff : x.place? = none ↔ x.isNaN = true := by
  cases x with
  | int i => simp [place?_int, isNaN]
  | float x =>
    show Binary64.orderKey? x = none ↔ Binary64.isNaN x = true
    unfold Binary64.orderKey?
    cases Binary64.isNaN x <;> simp

/-- Every other number has one. -/
theorem exists_place (h : x.isNaN = false) : ∃ a, x.place? = some a := by
  refine Option.ne_none_iff_exists'.mp fun hnone => ?_
  rw [place?_eq_none_iff, h] at hnone
  cases hnone

/-- Unless both numbers are integers, their order is that of their places. -/
theorem compare?_eq (hx : x.place? = some a) (hy : y.place? = some b)
    (h : ∀ i k, x = .int i → y ≠ .int k) : x.compare? y = some (compare a b) := by
  have hfloat : x.compare? y = Binary64.compare? x.toFloat y.toFloat := by
    match x, y with
    | .int i, .int k => exact absurd rfl (h i k rfl)
    | .int _, .float _ | .float _, .int _ | .float _, .float _ => rfl
  have hx' : Binary64.orderKey? x.toFloat = some a := hx
  have hy' : Binary64.orderKey? y.toFloat = some b := hy
  rw [hfloat, Binary64.compare?, hx', hy']

/-- **Two numbers have no order** exactly if one of them is a NaN. -/
theorem compare?_eq_none_iff : x.compare? y = none ↔ x.isNaN = true ∨ y.isNaN = true := by
  have hfloat : Binary64.compare? x.toFloat y.toFloat = none ↔ x.isNaN = true ∨ y.isNaN = true := by
    rw [Binary64.compare?, ← place?_eq_none_iff, ← place?_eq_none_iff, place?, place?]
    cases Binary64.orderKey? x.toFloat <;> cases Binary64.orderKey? y.toFloat <;> simp
  match x, y with
  | .int _, .int _ => simp [compare?, isNaN]
  | .int _, .float _ | .float _, .int _ | .float _, .float _ => exact hfloat

/-! ### The order -/

/-- Does the number come before the other one, or is it equal to it? -/
def atMost (x y : Number) : Bool := (x.compare? y).any Ordering.isLE

/-- Numbers are the same if each is at most the other. -/
theorem sameValue_iff : x.sameValue y = true ↔ x.atMost y = true ∧ y.atMost x = true := by
  unfold sameValue atMost
  rw [compare?_swap x y]
  cases x.compare? y with
  | none => decide
  | some o => cases o <;> decide

/-- Integers are compared exactly, not by their places. -/
theorem atMost_int {i k : Int64} : (Number.int i).atMost (.int k) = true ↔ i.toInt ≤ k.toInt :=
  Int.isLE_compare

/-- With a double on one side the places decide. -/
theorem atMost_iff (hx : x.place? = some a) (hy : y.place? = some b)
    (h : ∀ i k, x = .int i → y ≠ .int k) : x.atMost y = true ↔ a ≤ b := by
  unfold atMost
  rw [compare?_eq hx hy h]
  exact Int.isLE_compare

/-- With a double on one side the numbers are the same if their places are. -/
theorem sameValue_iff_place (hx : x.place? = some a) (hy : y.place? = some b)
    (h : ∀ i k, x = .int i → y ≠ .int k) : x.sameValue y = true ↔ a = b := by
  unfold sameValue
  rw [compare?_eq hx hy h, beq_iff_eq, Option.some.injEq]
  exact Int.compare_eq_eq

/-- The order of two numbers never contradicts that of their places. -/
theorem place_le_of_atMost (hx : x.place? = some a) (hy : y.place? = some b)
    (h : x.atMost y = true) : a ≤ b := by
  match x, y with
  | .int i, .int k =>
    rw [place?_int, Option.some.injEq] at hx hy
    rw [← hx, ← hy]
    exact Binary64.nearestKey_mono (atMost_int.mp h)
  | .int _, .float _ | .float _, .int _ | .float _, .float _ =>
    exact (atMost_iff hx hy (by rintro _ _ ⟨⟩ ⟨⟩)).mp h

/-- Any two numbers are comparable, apart from NaN. -/
theorem atMost_total (hx : x.isNaN = false) (hy : y.isNaN = false) :
    x.atMost y = true ∨ y.atMost x = true := by
  have hsome : x.compare? y ≠ none := by
    rw [ne_eq, compare?_eq_none_iff, hx, hy]
    decide
  obtain ⟨o, ho⟩ := Option.ne_none_iff_exists'.mp hsome
  unfold atMost
  rw [compare?_swap x y, ho]
  cases o <;> decide

/-! ### Rounding -/

/-- Do the outer numbers, two integers of which the first is larger, both become the double between
    them? -/
inductive RoundedTogether : Number → Number → Number → Prop
  | intro {i k : Int64} {x : Float} (h : k.toInt < i.toInt)
    (hi : (Number.int i).sameValue (.float x) = true)
    (hk : (Number.int k).sameValue (.float x) = true) :
    RoundedTogether (.int i) (.float x) (.int k)

/-- Between integers there is no double. -/
theorem not_roundedTogether_int {i j k : Int64} :
    ¬ RoundedTogether (.int i) (.int j) (.int k) := by
  rintro ⟨⟩

/-- Two integers that become the same double are at least `2 ^ 53` in size. -/
theorem RoundedTogether.size {i k : Int64} (h : RoundedTogether (.int i) y (.int k)) :
    Nat.pow 2 53 ≤ i.toInt.natAbs ∧ Nat.pow 2 53 ≤ k.toInt.natAbs := by
  cases h with
  | @intro _ _ x hlt hi hk =>
    obtain ⟨b, hb⟩ : ∃ b, (Number.float x).place? = some b := by
      refine Option.ne_none_iff_exists'.mp fun hnone => ?_
      have hnan := compare?_eq_none_iff.mpr (.inr (place?_eq_none_iff.mp hnone) :
        (Number.int i).isNaN = true ∨ _)
      rw [sameValue, hnan] at hi
      cases hi
    have hi' := (sameValue_iff_place (place?_int i) hb (by rintro _ _ ⟨⟩ ⟨⟩)).mp hi
    have hk' := (sameValue_iff_place (place?_int k) hb (by rintro _ _ ⟨⟩ ⟨⟩)).mp hk
    -- Both integers are rounded to the same double, and below `2 ^ 53` rounding keeps them apart.
    have hsame : Binary64.nearestKey k.toInt = Binary64.nearestKey i.toInt := hk'.trans hi'.symm
    constructor
    · refine Nat.not_lt.mp fun hsmall => ?_
      exact absurd hsame (Int.ne_of_lt (Binary64.nearestKey_lt hlt (.inr hsmall)))
    · refine Nat.not_lt.mp fun hsmall => ?_
      exact absurd hsame (Int.ne_of_lt (Binary64.nearestKey_lt hlt (.inl hsmall)))

/-- **The order is transitive**, except around a double that two integers become. -/
theorem atMost_trans_iff (hx : x.isNaN = false) (hy : y.isNaN = false) (hz : z.isNaN = false)
    (hxy : x.atMost y = true) (hyz : y.atMost z = true) :
    x.atMost z = true ↔ ¬ RoundedTogether x y z := by
  obtain ⟨a, ha⟩ := exists_place hx
  obtain ⟨b, hb⟩ := exists_place hy
  obtain ⟨c, hc⟩ := exists_place hz
  have hab := place_le_of_atMost ha hb hxy
  have hbc := place_le_of_atMost hb hc hyz
  match x, y, z with
  | .int i, .int j, .int k =>
    refine iff_of_true (atMost_int.mpr ?_) not_roundedTogether_int
    exact Int.le_trans (atMost_int.mp hxy) (atMost_int.mp hyz)
  | .int i, .float y, .int k =>
    rw [atMost_int]
    constructor
    · rintro hle ⟨hlt, -, -⟩
      omega
    · intro hnot
      refine Int.not_lt.mp fun hlt => hnot ?_
      -- The places go up from `i` over the double to `k`, but that of `k` is not above that of `i`.
      have hca : c ≤ a := place_le_of_atMost hc ha (atMost_int.mpr (Int.le_of_lt hlt))
      refine ⟨hlt, ?_, ?_⟩
      · exact (sameValue_iff_place ha hb (by rintro _ _ ⟨⟩ ⟨⟩)).mpr (by omega)
      · exact (sameValue_iff_place hc hb (by rintro _ _ ⟨⟩ ⟨⟩)).mpr (by omega)
  | .int _, .int _, .float _ | .int _, .float _, .float _ | .float _, .int _, .int _
  | .float _, .int _, .float _ | .float _, .float _, .int _ | .float _, .float _, .float _ =>
    refine iff_of_true ?_ (by rintro ⟨⟩)
    exact (atMost_iff ha hc (by rintro _ _ ⟨⟩ ⟨⟩)).mpr (Int.le_trans hab hbc)

/-- **Equality is transitive**, except around a double that two integers become. -/
theorem sameValue_trans_iff (hx : x.isNaN = false) (hy : y.isNaN = false) (hz : z.isNaN = false)
    (hxy : x.sameValue y = true) (hyz : y.sameValue z = true) :
    x.sameValue z = true ↔ ¬ RoundedTogether x y z ∧ ¬ RoundedTogether z y x := by
  rw [sameValue_iff] at hxy hyz ⊢
  rw [atMost_trans_iff hx hy hz hxy.1 hyz.1, atMost_trans_iff hz hy hx hyz.2 hxy.2]

end SheetFormula.Number
