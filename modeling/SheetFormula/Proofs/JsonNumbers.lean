import SheetFormula.Proofs.ExactArithmetic
import SheetFormula.Proofs.IntegerDoubles
import SheetFormula.Proofs.Reading
import SheetFormula.Token.Record

namespace SheetFormula

/-!
# Numbers in JSON texts

A number literal that is too large for a double is refused, so every number in a value that is read
from a JSON text is finite.  A token gets an infinite number or a NaN only from a string.

* `Json.Value.FiniteNumbers` — the values with finite numbers at every depth.
* `Json.Value.finiteNumbers_of_parse?` and `TokenRecord.finiteNumbers_of_recordsOfJson?` — those
  read from a text are such values, and so are the values of records.
* `TokenRecord.SpellsNonFinite` — a record that spells an infinite number or a NaN as a string.
* `Token.spellsNonFinite_of_ofRecord` — no other record makes such a number.
-/

/-! ### Integer literals -/

/-- An integer literal may be too large for a 64-bit integer, but never for a double. -/
theorem Number.isFinite_intOr_ofInt {n : Int} (hlow : Int64.minValue.toInt ≤ n)
    (hhigh : n < UInt64.size) : (Number.intOr n (Float.ofInt n)).isFinite = true := by
  by_cases hfits : Fits n
  · obtain ⟨i, hi, -⟩ := isExactly_intOr hfits (Float.ofInt n)
    rw [hi]
    rfl
  · have hlarge : 9223372036854775807 < n := by
      rw [fits_iff] at hfits
      have hmin : Int64.minValue.toInt = -9223372036854775808 := by decide
      omega
    obtain ⟨k, rfl⟩ := Int.eq_ofNat_of_zero_le (a := n) (by omega)
    obtain ⟨m, e, hnormal, -⟩ := Binary64.exists_isNormal_ofNat (n := k) (by omega) (by omega)
    rw [Number.intOr, fit?_eq_none hfits]
    exact hnormal.isFinite

/-! ### Lists that are read item by item -/

section

variable {α β : Type} {xs : List α} {ys : List β} {y : β}

/-- In a monad in which results come from results, each item that is read comes from one. -/
theorem exists_of_mapM_eq_pure {m : Type → Type} [Monad m] [LawfulMonad m]
    (hpure : ∀ {α : Type} {a b : α}, (pure a : m α) = pure b → a = b)
    (hbind : ∀ {α β : Type} {x : m α} {f : α → m β} {b : β}, x >>= f = pure b →
      ∃ a, x = pure a ∧ f a = pure b)
    {f : α → m β} (h : xs.mapM f = pure ys) (hy : y ∈ ys) : ∃ x ∈ xs, f x = pure y := by
  -- By induction on the list; both monads bind in the same way, so this is proved for them
  -- together.
  induction xs generalizing ys with
  | nil =>
    rw [← hpure h] at hy
    cases hy
  | cons x xs ih =>
    rw [List.mapM_cons] at h
    obtain ⟨z, hz, hrest⟩ := hbind h
    obtain ⟨zs, hzs, hout⟩ := hbind hrest
    rw [← hpure hout] at hy
    rcases List.mem_cons.mp hy with rfl | hmem
    · exact ⟨x, List.mem_cons_self, hz⟩
    · obtain ⟨w, hw, hwy⟩ := ih hzs hmem
      exact ⟨w, List.mem_cons_of_mem x hw, hwy⟩

/-- Each member of the result comes from a member of the list, for options. -/
theorem exists_of_mapM_eq_some {f : α → Option β} (h : xs.mapM f = some ys) (hy : y ∈ ys) :
    ∃ x ∈ xs, f x = some y :=
  exists_of_mapM_eq_pure Option.some.inj Option.bind_eq_some_iff.mp h hy

/-- The same for computations that can fail with an error. -/
theorem exists_of_mapM_eq_ok {ε : Type} {f : α → Except ε β} (h : xs.mapM f = .ok ys)
    (hy : y ∈ ys) : ∃ x ∈ xs, f x = .ok y :=
  exists_of_mapM_eq_pure Except.ok.inj bind_eq_ok_iff.mp h hy

end

namespace Json

/-! ### Values -/

/-- A value in which all integers have at most 64 bits and all doubles are finite. -/
inductive Value.FiniteNumbers : Value → Prop
  | null : FiniteNumbers .null
  | logical (b : Bool) : FiniteNumbers (.logical b)
  | integer {n : Int} (hlow : Int64.minValue.toInt ≤ n) (hhigh : n < UInt64.size) :
    FiniteNumbers (.integer n)
  | float {x : Float} (h : Binary64.isFinite x = true) : FiniteNumbers (.float x)
  | string (s : String) : FiniteNumbers (.string s)
  | array {items : List Value} (h : ∀ v ∈ items, FiniteNumbers v) : FiniteNumbers (.array items)
  | object {members : List (String × Value)} (h : ∀ m ∈ members, FiniteNumbers m.2) :
    FiniteNumbers (.object members)

/-- A number that is read from a literal is finite: one that is too large is refused. -/
theorem finiteNumbers_literal {l : NumberLiteral} {v : Value} (h : l.value? = some v) :
    v.FiniteNumbers := by
  unfold NumberLiteral.value? at h
  -- A literal that is an integer in range stays one, and any other is rounded, if it does not
  -- overflow.
  split at h
  · next n hn =>
    obtain ⟨-, hrange⟩ := Option.filter_eq_some_iff.mp hn
    obtain ⟨hlow, hhigh⟩ := of_decide_eq_true hrange
    cases h
    exact .integer hlow hhigh
  · obtain ⟨hfinite, hv⟩ := Option.ite_none_right_eq_some.mp h
    cases hv
    exact .float hfinite

/-- Putting a member with finite numbers into an object keeps its numbers finite. -/
theorem finiteNumbers_putMember {name : String} {v : Value} (hv : v.FiniteNumbers)
    {members : List (String × Value)} (h : ∀ m ∈ members, m.2.FiniteNumbers) :
    ∀ m ∈ putMember name v members, m.2.FiniteNumbers := by
  induction members with
  | nil => exact List.forall_mem_singleton.mpr hv
  | cons m ms ih =>
    obtain ⟨hm, hms⟩ := List.forall_mem_cons.mp h
    -- A member is put in front, in place of an old one, or further down.
    unfold putMember
    split
    · exact List.forall_mem_cons.mpr ⟨hv, h⟩
    split
    · exact List.forall_mem_cons.mpr ⟨hv, hms⟩
    · exact List.forall_mem_cons.mpr ⟨hm, ih hms⟩

/-- The order of the members does not matter here. -/
theorem finiteNumbers_foldl_putMember {ms acc : List (String × Value)}
    (hacc : ∀ m ∈ acc, m.2.FiniteNumbers) (h : ∀ m ∈ ms, m.2.FiniteNumbers) :
    ∀ m ∈ ms.foldl (fun acc m => putMember m.1 m.2 acc) acc, m.2.FiniteNumbers := by
  induction ms generalizing acc with
  | nil => exact hacc
  | cons m ms ih =>
    obtain ⟨hm, hms⟩ := List.forall_mem_cons.mp h
    exact ih (finiteNumbers_putMember hm hacc) hms

/-! ### Trees -/

mutual

/-- **Values that are read** have finite numbers, by induction on the syntax tree. -/
theorem Tree.finiteNumbers_value? : ∀ {levels : Nat} (t : Tree) {v : Value},
    t.value? levels = some v → v.FiniteNumbers
  | _, .null, _, h => by
    cases h
    exact .null
  | _, .logical b, _, h => by
    cases h
    exact .logical b
  | _, .number _, _, h => finiteNumbers_literal h
  | _, .string _, _, h => by
    obtain ⟨s, -, rfl⟩ := Option.map_eq_some_iff.mp h
    exact .string s
  -- Nested values are read while levels are left, and there is no value without.
  | 0, .array _, _, h => by cases h
  | _ + 1, .array items, _, h => by
    obtain ⟨vs, hvs, rfl⟩ := Option.map_eq_some_iff.mp h
    exact .array (finiteNumbers_itemValues? items hvs)
  | 0, .object _, _, h => by cases h
  | _ + 1, .object members, _, h => by
    obtain ⟨ms, hms, rfl⟩ := Option.map_eq_some_iff.mp h
    exact .object (finiteNumbers_foldl_putMember (List.forall_mem_nil _)
      (finiteNumbers_memberValues? members hms))

/-- The same for the items of an array. -/
theorem finiteNumbers_itemValues? : ∀ {levels : Nat} (ts : List Tree) {vs : List Value},
    itemValues? levels ts = some vs → ∀ v ∈ vs, v.FiniteNumbers
  | _, [], _, h => by
    cases h
    exact List.forall_mem_nil _
  | levels, t :: ts, _, h => by
    unfold itemValues? at h
    split at h
    · next v vs hv hvs =>
      cases h
      exact List.forall_mem_cons.mpr
        ⟨t.finiteNumbers_value? hv, finiteNumbers_itemValues? ts hvs⟩
    · cases h

/-- The same for the members of an object. -/
theorem finiteNumbers_memberValues? : ∀ {levels : Nat} (ts : List (List StringPart × Tree))
    {ms : List (String × Value)},
    memberValues? levels ts = some ms → ∀ m ∈ ms, m.2.FiniteNumbers
  | _, [], _, h => by
    cases h
    exact List.forall_mem_nil _
  | levels, (name, t) :: ts, _, h => by
    unfold memberValues? at h
    split at h
    · next n v ms hn hv hms =>
      cases h
      exact List.forall_mem_cons.mpr
        ⟨t.finiteNumbers_value? hv, finiteNumbers_memberValues? ts hms⟩
    · cases h

end

/-- **Numbers in a JSON text are finite.** -/
theorem Value.finiteNumbers_of_parse? {text : String} {v : Value} (h : Value.parse? text = some v) :
    v.FiniteNumbers := by
  obtain ⟨t, -, hv⟩ := Option.bind_eq_some_iff.mp h
  exact t.finiteNumbers_value? hv

end Json

/-! ### Records -/

namespace TokenRecord

open Json

variable {r : TokenRecord} {members : List (String × Value)} {levels : Nat}

/-- The value of a record that is read from an object is one of its members, or null. -/
theorem finiteNumbers_ofMembers? (hm : ∀ m ∈ members, m.2.FiniteNumbers)
    (h : ofMembers? members = some r) : r.value.FiniteNumbers := by
  -- Whatever else is read, the value is the member of this name, or null.
  have hvalue : r.value = (members.lookup "value").getD .null := by
    unfold ofMembers? at h
    split at h
    · dsimp only at h
      split at h <;> cases h
      rfl
    · cases h
  rw [hvalue]
  cases hlookup : members.lookup "value" with
  | none => exact .null
  | some v =>
    obtain ⟨before, after, hsplit, -⟩ := List.lookup_eq_some_iff.mp hlookup
    exact hm ("value", v) (by simp [hsplit])

/-- The value of a record that is read from an array is one of its items, or null. -/
theorem finiteNumbers_ofItems? {items : List Value} (hi : ∀ v ∈ items, v.FiniteNumbers)
    (h : ofItems? items = some r) : r.value.FiniteNumbers := by
  obtain ⟨-, hr⟩ := Option.ite_none_right_eq_some.mp h
  exact finiteNumbers_ofMembers? (fun m hm => hi m.2 (List.of_mem_zip hm).2) hr

/-- The same for a record that is read from any value. -/
theorem finiteNumbers_ofValue? {v : Value} (hv : v.FiniteNumbers) (h : ofValue? v = some r) :
    r.value.FiniteNumbers := by
  cases hv with
  | array hi => exact finiteNumbers_ofItems? hi h
  | object hm => exact finiteNumbers_ofMembers? hm h
  | _ => cases h

/-- The members of a record have finite numbers. -/
theorem finiteNumbers_ownMembers? {ts : List (List StringPart × Tree)}
    (h : ownMembers? levels ts = some members) : ∀ m ∈ members, m.2.FiniteNumbers := by
  induction ts generalizing members with
  | nil =>
    cases h
    exact List.forall_mem_nil _
  | cons t ts ih =>
    unfold ownMembers? at h
    split at h
    · next n rest hn hrest =>
      split at h
      -- A member that the record knows is read as a value, and the others are skipped.
      · obtain ⟨v, hv, rfl⟩ := Option.map_eq_some_iff.mp h
        exact List.forall_mem_cons.mpr ⟨t.2.finiteNumbers_value? hv, ih hrest⟩
      · cases h
        exact ih hrest
    · cases h

/-- The same for a record that is read from a syntax tree. -/
theorem finiteNumbers_ofTree? {t : Tree} (h : ofTree? levels t = some r) :
    r.value.FiniteNumbers := by
  unfold ofTree? at h
  split at h
  · split at h
    · cases h
    · obtain ⟨ms, hms, hr⟩ := Option.bind_eq_some_iff.mp h
      exact finiteNumbers_ofMembers?
        (finiteNumbers_ownMembers? (Option.filter_eq_some_iff.mp hms).1) hr
  · split at h
    · cases h
    · obtain ⟨vs, hvs, hr⟩ := Option.bind_eq_some_iff.mp h
      exact finiteNumbers_ofItems? (finiteNumbers_itemValues? _ hvs) hr
  · cases h

/-- The values of the records in a text. -/
theorem finiteNumbers_of_recordsOfJson? {text : String} {records : List TokenRecord}
    (h : Token.recordsOfJson? text = some records) : ∀ r ∈ records, r.value.FiniteNumbers := by
  unfold Token.recordsOfJson? at h
  split at h
  · next items hitems =>
    intro r hr
    obtain ⟨t, -, ht⟩ := exists_of_mapM_eq_some h hr
    exact finiteNumbers_ofTree? ht
  · cases h

/-- The record spells the infinite number or NaN that is this token, as a string. -/
structure SpellsNonFinite (r : TokenRecord) (t : Token) : Prop where
  kind : r.kind = "OPERAND"
  subtype : r.subtype = "NUMBER"
  spelled : ∃ s n, r.value = .string s ∧ Number.ofText? s = some n ∧ n.isFinite = false ∧
    t = .number n

end TokenRecord

/-! ### Tokens -/

namespace Token

open Json

variable {r : TokenRecord} {n : Number}

/-- Tokens that are no operands are no numbers. -/
theorem structureOfParts_ne_number {kind subtype value : String} :
    structureOfParts kind subtype value ≠ .number n := by
  unfold structureOfParts
  split <;> simp

/-- A number is read from the value of a number operand. -/
theorem ofParts_eq_number {kind subtype value : String}
    (h : ofParts kind subtype value = .ok (.number n)) :
    kind = "OPERAND" ∧ subtype = "NUMBER" ∧ Number.ofText? value = some n := by
  unfold ofParts at h
  split at h
  · next hkind =>
    refine ⟨hkind, ?_⟩
    -- Of the subtypes only one gives a number.
    unfold operandOfParts? at h
    split at h
    · cases hb : logicalOfText? value <;> simp [hb] at h
    · simp at h
    · cases hn : Number.ofText? value with
      | none => simp [hn] at h
      | some k =>
        simp [hn] at h
        subst h
        exact ⟨rfl, rfl⟩
    · simp at h
    · split at h <;> simp [failure] at h
    · simp at h
    · simp at h
  · exact absurd (Except.ok.inj h) structureOfParts_ne_number

/-- The empty text is no number. -/
theorem ofText?_empty : Number.ofText? "" = none := by decide +kernel

/-- The words for truth values are no numbers. -/
theorem ofText?_logicalText (b : Bool) :
    Number.ofText? (if b then "TRUE" else "FALSE") = none := by
  cases b <;> decide +kernel

/-- A number that is taken as it is has been read from a JSON number. -/
theorem isFinite_of_operandOfRecord? (hv : r.value.FiniteNumbers)
    (h : operandOfRecord? r = some (.ok (.number n))) : n.isFinite = true := by
  obtain ⟨kind, subtype, value, message⟩ := r
  unfold operandOfRecord? at h
  -- Only the first two cases make a number.
  split at h
  · next k _ hvalue =>
    rw [show value = .integer k from hvalue] at hv
    cases hv with
    | integer hlow hhigh =>
      cases h
      exact Number.isFinite_intOr_ofInt hlow hhigh
  · next x _ hvalue =>
    rw [show value = .float x from hvalue] at hv
    cases hv with
    | float hfinite =>
      cases h
      exact hfinite
  · cases h
  · cases h
  · cases h
  · split at h <;> cases h
  · cases h

/-- **Where infinite numbers are written.**  A record whose value holds finite numbers makes an
    infinite number or a NaN only if it spells it as a string. -/
theorem spellsNonFinite_of_ofRecord (hv : r.value.FiniteNumbers)
    (h : ofRecord r = .ok (.number n)) (hn : n.isFinite = false) :
    r.SpellsNonFinite (.number n) := by
  -- The number is not taken as it is, since it is not finite.
  have htext : ofRecordText r = .ok (.number n) ∧
      (r.kind = "OPERAND" → operandOfRecord? r = none) := by
    unfold ofRecord at h
    split at h
    · cases hx : operandOfRecord? r with
      | none =>
        rw [hx] at h
        exact ⟨h, fun _ => rfl⟩
      | some x =>
        rw [hx] at h
        have hok : x = .ok (.number n) := h
        rw [hok] at hx
        rw [isFinite_of_operandOfRecord? hv hx] at hn
        cases hn
    · next hkind => exact ⟨h, fun hk => absurd hk hkind⟩
  obtain ⟨hread, htaken⟩ := htext
  unfold ofRecordText at hread
  split at hread
  · next s hs =>
    obtain ⟨hkind, hsubtype, hnumber⟩ := ofParts_eq_number hread
    refine ⟨hkind, hsubtype, s, n, ?_, hnumber, hn, rfl⟩
    obtain ⟨kind, subtype, value, message⟩ := r
    obtain rfl : subtype = "NUMBER" := hsubtype
    have hnone := htaken hkind
    cases value with
    | string s' =>
      cases hs
      rfl
    | null =>
      cases hs
      rw [ofText?_empty] at hnumber
      cases hnumber
    | logical b =>
      cases hs
      rw [ofText?_logicalText] at hnumber
      cases hnumber
    | integer k => cases hnone
    | float x => cases hnone
    | array items => cases hs
    | object members => cases hs
  · cases hread

end Token

end SheetFormula
