import SheetFormula.Operator.Table

namespace SheetFormula

/-!
# Maps and their histories

What a map holds after any sequence of changes, in terms of the changes alone.  Histories list the
last change first.

* `Edit` — a change of a map: one value is put under several keys, or a key is erased.
* `LastPut` — one change has put a value under some keys, and none of them has been named since.
* `Follows` — a map that holds what its history says.  `Follows.put` and `Follows.erase` show that
  each change keeps this.
* `Stamped` — the same for a map of registrations, which also tells the changes apart.
-/

variable {α β : Type}

/-- A change of a map. -/
inductive Edit (α : Type)
  | put (keys : List String) (x : α)
  | erase (key : String)

/-- Does a change settle what stands under a key? -/
def Edit.Names (key : String) : Edit α → Prop
  | put keys _ => key ∈ keys
  | erase k => key = k

/-- One change has put the value under all these keys, and no later change names any of them. -/
def LastPut (history : List (Edit α)) (keys : List String) (x : α) : Prop :=
  ∃ later aliases earlier, history = later ++ .put aliases x :: earlier ∧ keys ⊆ aliases ∧
    ∀ e ∈ later, ∀ key ∈ keys, ¬ e.Names key

variable {history : List (Edit α)} {keys aliases : List String} {key k : String} {x y : α}

/-! ### One more change -/

/-- Nothing has been put at the start. -/
theorem not_lastPut_nil : ¬ LastPut [] keys x := by
  rintro ⟨later, aliases, earlier, h, -⟩
  simp at h

/-- What the last change does not name stays as it was. -/
theorem lastPut_cons {e : Edit α} : LastPut (e :: history) keys x ↔
    (∃ aliases, e = .put aliases x ∧ keys ⊆ aliases) ∨
      (∀ key ∈ keys, ¬ e.Names key) ∧ LastPut history keys x := by
  constructor
  · rintro ⟨later, aliases, earlier, h, hkeys, hlater⟩
    -- The change that put the value is the last one, or one of those before it.
    rcases List.cons_eq_append_iff.mp h with ⟨rfl, hput⟩ | ⟨later', rfl, rfl⟩
    · cases hput
      exact .inl ⟨aliases, rfl, hkeys⟩
    · rw [List.forall_mem_cons] at hlater
      exact .inr ⟨hlater.1, later', aliases, earlier, rfl, hkeys, hlater.2⟩
  · rintro (⟨aliases, rfl, hkeys⟩ | ⟨hnames, later, aliases, earlier, rfl, hkeys, hlater⟩)
    · exact ⟨[], aliases, history, rfl, hkeys, by simp⟩
    · exact ⟨e :: later, aliases, earlier, rfl, hkeys, List.forall_mem_cons.mpr ⟨hnames, hlater⟩⟩

/-- What was put last is what is put now, or what was put last before, if no key is put now. -/
theorem lastPut_put : LastPut (.put aliases y :: history) keys x ↔
    (y = x ∧ keys ⊆ aliases) ∨ (∀ key ∈ keys, key ∉ aliases) ∧ LastPut history keys x := by
  rw [lastPut_cons]
  refine or_congr_left ?_
  constructor
  · rintro ⟨_, ⟨⟩, hkeys⟩
    exact ⟨rfl, hkeys⟩
  · rintro ⟨rfl, hkeys⟩
    exact ⟨aliases, rfl, hkeys⟩

/-- Erasing a key leaves the other keys as they were. -/
theorem lastPut_erase :
    LastPut (.erase k :: history) keys x ↔ (∀ key ∈ keys, key ≠ k) ∧ LastPut history keys x := by
  simp [lastPut_cons, Edit.Names]

/-- A change that puts a value under some keys puts it under each of them. -/
theorem LastPut.single (h : LastPut history keys x) (hkey : key ∈ keys) :
    LastPut history [key] x := by
  obtain ⟨later, aliases, earlier, rfl, hkeys, hlater⟩ := h
  refine ⟨later, aliases, earlier, rfl, by simpa using hkeys hkey, fun e he => ?_⟩
  simpa using hlater e he key hkey

/-! ### Maps -/

/-- A map that holds what its history has put there.  `view` takes from an entry what was put. -/
def Follows (m : Std.TreeMap String β) (view : β → α) (history : List (Edit α)) : Prop :=
  ∀ key x, m[key]?.map view = some x ↔ LastPut history [key] x

section
variable {m : Std.TreeMap String β} {view : β → α}

/-- The empty map has no history. -/
theorem follows_nil : Follows (∅ : Std.TreeMap String β) view [] := by
  intro key x
  simp [not_lastPut_nil]

/-- **Putting** a value under several keys at once. -/
theorem Follows.put (h : Follows m view history) (aliases : List String) (z : β) :
    Follows (aliases.foldl (fun m s => m.insert s z) m) view
      (.put aliases (view z) :: history) := by
  intro key x
  rw [OperatorTable.getElem?_foldl_insert, lastPut_put, ← h key x]
  by_cases hkey : key ∈ aliases <;> simp [hkey]

/-- **Erasing** a key. -/
theorem Follows.erase (h : Follows m view history) (k : String) :
    Follows (m.erase k) view (.erase k :: history) := by
  intro key x
  rw [Std.TreeMap.getElem?_erase, lastPut_erase, ← h key x]
  by_cases hk : k = key
  · simp [hk]
  · simp [hk, Ne.symm hk]

/-- The keys of a map are those under which something was put and not erased since. -/
theorem Follows.mem_keys_iff (h : Follows m view history) :
    key ∈ m.keys ↔ ∃ x, LastPut history [key] x := by
  simp only [← h key, Std.TreeMap.mem_keys, Std.TreeMap.mem_iff_isSome_getElem?,
    Option.map_eq_some_iff, Option.isSome_iff_exists]
  exact ⟨fun ⟨z, hz⟩ => ⟨view z, z, hz, rfl⟩, fun ⟨_, z, hz, _⟩ => ⟨z, hz⟩⟩

end

/-! ### Registrations -/

/-- Two registrations have the same stamp exactly if one change has made both.  The next stamp is
    a new one. -/
structure Stamped (m : Std.TreeMap String (Registration α)) (next : Nat)
    (history : List (Edit α)) : Prop where
  lt_next : ∀ (s : String) (r : Registration α), m[s]? = some r → r.stamp < next
  together : ∀ (a b : String) (r r' : Registration α), m[a]? = some r → m[b]? = some r' →
    (r.stamp = r'.stamp ↔ ∃ x, LastPut history [a, b] x)

section
variable {m : Std.TreeMap String (Registration α)} {next : Nat}

/-- The empty map has no stamps. -/
theorem stamped_nil : Stamped (∅ : Std.TreeMap String (Registration α)) next [] := by
  constructor <;> simp

/-- The limit of the stamps can be raised. -/
theorem Stamped.mono (h : Stamped m next history) {next' : Nat} (hle : next ≤ next') :
    Stamped m next' history :=
  ⟨fun s r hr => Nat.lt_of_lt_of_le (h.lt_next s r hr) hle, h.together⟩

/-- **Putting** a value under several keys gives all of them the next stamp. -/
theorem Stamped.put (h : Stamped m next history) (aliases : List String) (x : α) :
    Stamped (aliases.foldl (fun m s => m.insert s ⟨next, x⟩) m) (next + 1)
      (.put aliases x :: history) := by
  refine ⟨fun s r hr => ?_, fun a b r r' hr hr' => ?_⟩
  · rw [OperatorTable.getElem?_foldl_insert] at hr
    split at hr
    · cases hr
      exact Nat.lt_succ_self next
    · exact Nat.lt_succ_of_lt (h.lt_next s r hr)
  · rw [OperatorTable.getElem?_foldl_insert] at hr hr'
    simp only [lastPut_put]
    -- Only what the change names has the new stamp.
    by_cases ha : a ∈ aliases <;> by_cases hb : b ∈ aliases <;>
      simp only [ha, hb, if_true, if_false, Option.some.injEq] at hr hr'
    · subst hr hr'
      simp [ha, hb]
    · subst hr
      have hlt := h.lt_next b r' hr'
      simpa [ha, hb] using Nat.ne_of_gt hlt
    · subst hr'
      have hlt := h.lt_next a r hr
      simpa [ha, hb] using Nat.ne_of_lt hlt
    · rw [h.together a b r r' hr hr']
      simp [ha, hb]

/-- **Erasing** a key gives no stamp away. -/
theorem Stamped.erase (h : Stamped m next history) (k : String) :
    Stamped (m.erase k) next (.erase k :: history) := by
  -- What is left was there before, and is not named by the change.
  have hleft : ∀ (s : String) (r : Registration α), (m.erase k)[s]? = some r →
      m[s]? = some r ∧ s ≠ k := by
    intro s r hr
    rw [Std.TreeMap.getElem?_erase] at hr
    by_cases hk : k = s
    · simp [hk] at hr
    · simp only [Std.LawfulEqCmp.compare_eq_iff_eq, hk, if_false] at hr
      exact ⟨hr, Ne.symm hk⟩
  refine ⟨fun s r hr => h.lt_next s r (hleft s r hr).1, fun a b r r' hr hr' => ?_⟩
  obtain ⟨hr, ha⟩ := hleft a r hr
  obtain ⟨hr', hb⟩ := hleft b r' hr'
  rw [h.together a b r r' hr hr']
  simp [lastPut_erase, ha, hb]

end

end SheetFormula
