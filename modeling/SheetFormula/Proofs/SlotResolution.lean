import SheetFormula.Proofs.Calls

namespace SheetFormula

/-!
# Resolving slots

A function with slots is given one token for each of them.  Slots and arguments belong together by
their index: an argument that is there takes the slot with its index, the slot of one that is left
out takes its default, and no argument ever moves to another slot.  If a required slot has no
argument, the call fails and names the first such slot.

* `HasArgument` and `Missing` — is there an argument for a slot, and does a required slot lack one?
* `Resolved` and `FirstMissing` — what becomes of the slots, and the slot that a failure names.
* `resolveSlotsFrom_eq_error_iff` — which slot is found to be missing, by induction on the slots.
* `resolveSlots_positional` — the two outcomes together, and what a call makes of them.
-/

variable {slot : ArgSlot} {slots : List ArgSlot} {supplied given : List Token} {i k start : Nat}

/-! ### Slots and their arguments -/

/-- Is there an argument with this index?  One that is left out does not count. -/
def HasArgument (supplied : List Token) (i : Nat) : Prop :=
  ∃ t, supplied[i]? = some t ∧ t ≠ .omitted

/-- Is this a required slot without an argument? -/
def Missing (slots : List ArgSlot) (supplied : List Token) (i : Nat) : Prop :=
  slots[i]? = some .required ∧ ¬ HasArgument supplied i

/-- The first required slot without an argument. -/
structure FirstMissing (slots : List ArgSlot) (supplied : List Token) (i : Nat) : Prop where
  missing : Missing slots supplied i
  least : ∀ j < i, ¬ Missing slots supplied j

/-- **Slots and what they become.**  There is one token for each slot. -/
structure Resolved (slots : List ArgSlot) (supplied given : List Token) : Prop where
  length : given.length = slots.length
  required : ∀ i : Nat, slots[i]? = some .required → HasArgument supplied i
  /-- Where there is no argument, the default of the slot stands. -/
  default : ∀ (i : Nat) (d : Token), slots[i]? = some (.optional d) → ¬ HasArgument supplied i →
    given[i]? = some d
  /-- An argument that is there stays in its place. -/
  kept : ∀ (i : Nat) (t : Token), i < slots.length → supplied[i]? = some t → t ≠ .omitted →
    given[i]? = some t

/-- Without the first argument the others move up by one. -/
theorem hasArgument_tail : HasArgument supplied.tail i ↔ HasArgument supplied (i + 1) := by
  simp [HasArgument]

/-- Without the first slot and the first argument, what is missing moves up by one. -/
theorem missing_succ :
    Missing (slot :: slots) supplied (i + 1) ↔ Missing slots supplied.tail i := by
  simp [Missing, hasArgument_tail]

/-- The first missing slot of the rest is that of the whole, if the first slot is not missing. -/
theorem firstMissing_succ (h0 : ¬ Missing (slot :: slots) supplied 0) :
    FirstMissing (slot :: slots) supplied (i + 1) ↔ FirstMissing slots supplied.tail i := by
  constructor
  -- Nothing is missing at index zero, so the first one moves by one.
  · rintro ⟨hmissing, hleast⟩
    refine ⟨missing_succ.mp hmissing, fun j hj hmissing => ?_⟩
    exact hleast (j + 1) (by omega) (missing_succ.mpr hmissing)
  · rintro ⟨hmissing, hleast⟩
    refine ⟨missing_succ.mpr hmissing, fun j hj hmissing => ?_⟩
    cases j with
    | zero => exact h0 hmissing
    | succ j => exact hleast j (by omega) (missing_succ.mp hmissing)

/-! ### One slot -/

/-- Without an argument a slot takes its default. -/
theorem ArgSlot.fill?_of_not_hasArgument (h : ¬ HasArgument supplied i) :
    slot.fill? supplied[i]? = slot.default? := by
  cases ht : supplied[i]? with
  | none => rfl
  | some t =>
    have homitted : t = .omitted := Decidable.byContradiction fun hne => h ⟨t, ht, hne⟩
    rw [homitted]
    rfl

/-- A slot stays without a token exactly if it is a required one without an argument. -/
theorem ArgSlot.fill?_eq_none_iff :
    slot.fill? supplied[i]? = none ↔ slot = .required ∧ ¬ HasArgument supplied i := by
  by_cases h : HasArgument supplied i
  · obtain ⟨t, ht, hne⟩ := h
    rw [ht, ArgSlot.fill?_of_ne hne]
    simp [HasArgument, ht, hne]
  · rw [ArgSlot.fill?_of_not_hasArgument h]
    cases slot <;> simp [ArgSlot.default?, h]

/-! ### All slots -/

/-- **Failure.**  The slot that is found to be missing is the first one. -/
theorem resolveSlotsFrom_eq_error_iff :
    resolveSlotsFrom start slots supplied = .error k ↔
      ∃ i, FirstMissing slots supplied i ∧ k = start + i := by
  -- By induction on the slots; the arguments lose their first one along with the slots.
  induction slots generalizing start supplied with
  | nil =>
    constructor
    · intro h
      cases h
    · rintro ⟨i, ⟨⟨hslot, -⟩, -⟩, -⟩
      simp at hslot
  | cons slot slots ih =>
    have hmissing : slot.fill? supplied.head? = none ↔ Missing (slot :: slots) supplied 0 := by
      rw [List.head?_eq_getElem?, ArgSlot.fill?_eq_none_iff]
      simp [Missing]
    rw [resolveSlotsFrom]
    cases hfill : slot.fill? supplied.head? with
    | none =>
      have h0 := hmissing.mp hfill
      simp only [Except.error.injEq]
      constructor
      · rintro rfl
        exact ⟨0, ⟨h0, fun j hj => absurd hj (Nat.not_lt_zero j)⟩, rfl⟩
      · rintro ⟨i, hi, rfl⟩
        -- No slot comes before the first one.
        cases i with
        | zero => rfl
        | succ i => exact absurd h0 (hi.least 0 (Nat.succ_pos i))
    | some t =>
      have h0 : ¬ Missing (slot :: slots) supplied 0 := by
        rw [← hmissing, hfill]
        simp
      have hrest : (resolveSlotsFrom (start + 1) slots supplied.tail).map (t :: ·) = .error k ↔
          resolveSlotsFrom (start + 1) slots supplied.tail = .error k := by
        cases resolveSlotsFrom (start + 1) slots supplied.tail <;> simp [Except.map]
      rw [hrest, ih]
      constructor
      · rintro ⟨i, hi, rfl⟩
        exact ⟨i + 1, (firstMissing_succ h0).mpr hi, by omega⟩
      · rintro ⟨i, hi, rfl⟩
        cases i with
        | zero => exact absurd hi.missing h0
        | succ i => exact ⟨i, (firstMissing_succ h0).mp hi, by omega⟩

/-- Resolution fails at the first slot that has neither an argument nor a default. -/
theorem resolveSlots_eq_error_iff :
    resolveSlots slots supplied = .error i ↔ FirstMissing slots supplied i := by
  rw [resolveSlots, resolveSlotsFrom_eq_error_iff]
  simp

/-- **Success.**  Every slot is filled by index. -/
theorem resolved_of_resolveSlots (h : resolveSlots slots supplied = .ok given) :
    Resolved slots supplied given := by
  obtain ⟨hlength, hfill⟩ := resolveSlotsFrom_eq_ok h
  refine ⟨hlength, fun i hslot => ?_, fun i d hslot hnone => ?_, fun i t hi ht hne => ?_⟩
  · obtain ⟨hi, -⟩ := List.getElem?_eq_some_iff.mp hslot
    -- There is a token for the slot, and it has no default that this could be.
    refine Classical.byContradiction fun hnone => ?_
    have hempty : given[i]? = none := by
      rw [hfill i _ hslot, ArgSlot.fill?_of_not_hasArgument hnone]
      rfl
    rw [List.getElem?_eq_none_iff] at hempty
    omega
  · rw [hfill i _ hslot, ArgSlot.fill?_of_not_hasArgument hnone]
    rfl
  · rw [hfill i _ (List.getElem?_eq_getElem hi), ht, ArgSlot.fill?_of_ne hne]

/-- The tokens for the slots are determined by the slots and the arguments. -/
theorem Resolved.unique {given' : List Token} (h : Resolved slots supplied given)
    (h' : Resolved slots supplied given') : given = given' := by
  apply List.ext_getElem?
  intro i
  -- At each index the slot and the arguments leave one choice, and beyond the slots there is
  -- nothing.
  by_cases hi : i < slots.length
  · by_cases hargument : HasArgument supplied i
    · obtain ⟨t, ht, hne⟩ := hargument
      rw [h.kept i t hi ht hne, h'.kept i t hi ht hne]
    · have hslot : slots[i]? = some slots[i] := List.getElem?_eq_getElem hi
      cases hkind : slots[i] with
      | required =>
        rw [hkind] at hslot
        exact absurd (h.required i hslot) hargument
      | optional d =>
        rw [hkind] at hslot
        rw [h.default i d hslot hargument, h'.default i d hslot hargument]
  · have hlength := h.length
    have hlength' := h'.length
    rw [List.getElem?_eq_none (by omega), List.getElem?_eq_none (by omega)]

/-- Slots of which no required one lacks an argument are resolved. -/
theorem exists_resolveSlots (h : ∀ i : Nat, slots[i]? = some .required → HasArgument supplied i) :
    ∃ given, resolveSlots slots supplied = .ok given := by
  cases hr : resolveSlots slots supplied with
  | ok given => exact ⟨given, rfl⟩
  | error k =>
    have hmissing := (resolveSlots_eq_error_iff.mp hr).missing
    exact absurd (h k hmissing.1) hmissing.2

/-- Resolution succeeds with the arguments in the places of the slots. -/
theorem resolveSlots_eq_ok_iff :
    resolveSlots slots supplied = .ok given ↔ Resolved slots supplied given := by
  constructor
  · exact resolved_of_resolveSlots
  · intro h
    obtain ⟨given', hr⟩ := exists_resolveSlots h.required
    rw [hr, h.unique (resolved_of_resolveSlots hr)]

/-- **Slots are resolved by position, and completely.**  For slots and arguments of any number,
    slots are resolved exactly if each required one has an argument with its index.  There is then
    one token for each slot: the argument with its index if it is not left out, and else the
    default.  So no argument moves to another slot, and arguments beyond the slots do not count.

    Otherwise the failure names the first required slot without an argument, whatever comes after
    it, and so does the failure of a call of the function. -/
theorem resolveSlots_positional (slots : List ArgSlot) (supplied : List Token) :
    ((∃ given, resolveSlots slots supplied = .ok given) ↔
      ∀ i : Nat, slots[i]? = some .required → HasArgument supplied i) ∧
    (∀ given, resolveSlots slots supplied = .ok given ↔ Resolved slots supplied given) ∧
    (∀ i, resolveSlots slots supplied = .error i ↔ FirstMissing slots supplied i) ∧
    ∀ name callee body,
      (∀ t, Environment.invoke name ⟨callee, some slots, body⟩ supplied = .ok t ↔
        ∃ given, Resolved slots supplied given ∧ t = body given) ∧
      ∀ x, Environment.invoke name ⟨callee, some slots, body⟩ supplied = .error x ↔
        ∃ i, FirstMissing slots supplied i ∧ x = .missingArgument name i := by
  -- The clauses about calls follow from those about slots, since a call does nothing else first.
  refine ⟨⟨fun ⟨given, h⟩ => ?_, exists_resolveSlots⟩, fun _ => resolveSlots_eq_ok_iff,
    fun _ => resolveSlots_eq_error_iff, fun name callee body => ⟨fun t => ?_, fun x => ?_⟩⟩
  · exact (resolved_of_resolveSlots h).required
  · rw [Environment.invoke_eq_ok_iff]
    simp [FunctionDef.Receives, resolveSlots_eq_ok_iff]
  · rw [Environment.invoke_eq_error_iff]
    simp [resolveSlots_eq_error_iff]

/-- A gap in the middle, and one at the end. -/
example : resolveSlots [.required, .optional (.ofInt 1), .required, .optional (.text "x")]
    [.ofInt 5, .omitted, .logical true] =
      .ok [.ofInt 5, .ofInt 1, .logical true, .text "x"] := rfl

end SheetFormula
