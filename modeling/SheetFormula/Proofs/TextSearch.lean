import SheetFormula.Function.Text

namespace SheetFormula.Function

/-!
# Search in a text

`SEARCH` yields the first position from the start on where the text sought matches, and `#VALUE!` if
there is none, also if the start lies outside the text.  Positions count from one, and the position
behind the last character is one as well: only an empty text matches there.

* `MatchesAt` and `FirstMatch` — what a match is, and the first one.
* `searchFrom_eq` — the search goes through the places from the start to the end of the text, in
  their order.
* `checkedSearch?` — the search with a check at each subtraction and at each index;
  `checkedSearch?_eq` says that no check ever fails.
* `search_firstMatch` — what `SEARCH` yields.
-/

variable {needle haystack : List Char} {start : Int}

/-! ### Matches -/

/-- Does the needle match at this position, letter case aside? -/
structure MatchesAt (needle haystack : List Char) (p : Nat) : Prop where
  one_le : 1 ≤ p
  fits : p - 1 + needle.length ≤ haystack.length
  same : ∀ i c d, needle[i]? = some c → haystack[p - 1 + i]? = some d →
    Text.lowerChar c = Text.lowerChar d

/-- Is this the first position from the start on where the needle matches?  The start is a position
    of the haystack, or the end of it. -/
structure FirstMatch (needle haystack : List Char) (start : Int) (p : Nat) : Prop where
  one_le : 1 ≤ start
  le_end : start ≤ haystack.length + 1
  start_le : start ≤ p
  matchesAt : MatchesAt needle haystack p
  least : ∀ q : Nat, start ≤ q → MatchesAt needle haystack q → p ≤ q

/-- There is one first match at most. -/
theorem FirstMatch.unique {p q : Nat} (hp : FirstMatch needle haystack start p)
    (hq : FirstMatch needle haystack start q) : p = q :=
  Nat.le_antisymm (hp.least q hq.start_le hq.matchesAt) (hq.least p hp.start_le hp.matchesAt)

/-- **An empty needle** is found at the start itself. -/
theorem firstMatch_nil (h : 1 ≤ start) (h' : start ≤ haystack.length + 1) :
    FirstMatch [] haystack start start.toNat := by
  refine ⟨h, h', by omega, ⟨by omega, ?_, ?_⟩, fun q hq _ => by omega⟩
  · show start.toNat - 1 + 0 ≤ haystack.length
    omega
  · rintro i c d ⟨⟩

/-- The start of a text is compared with the needle character by character, in lower case. -/
theorem startsWithFolded_iff :
    startsWithFolded needle haystack = true ↔ needle.length ≤ haystack.length ∧
      ∀ (i : Nat) c d, needle[i]? = some c → haystack[i]? = some d →
        Text.lowerChar c = Text.lowerChar d := by
  -- By induction on the needle, with the haystack along.
  induction needle generalizing haystack with
  | nil => simp [startsWithFolded]
  | cons n needle ih =>
    cases haystack with
    | nil => simp [startsWithFolded]
    | cons h haystack =>
      rw [startsWithFolded, Bool.and_eq_true, ih, Text.sameFolded, beq_iff_eq]
      constructor
      · rintro ⟨hhead, hlength, htail⟩
        refine ⟨Nat.succ_le_succ hlength, fun i c d hc hd => ?_⟩
        cases i with
        | zero =>
          cases hc
          cases hd
          exact hhead
        | succ i => exact htail i c d hc hd
      · rintro ⟨hlength, hsame⟩
        refine ⟨hsame 0 n h rfl rfl, Nat.le_of_succ_le_succ hlength, fun i c d hc hd => ?_⟩
        exact hsame (i + 1) c d hc hd

/-- A match at a position is one of the text from there on. -/
theorem matchesAt_succ_iff {k : Nat} :
    MatchesAt needle haystack (k + 1) ↔
      k ≤ haystack.length ∧ startsWithFolded needle (haystack.drop k) = true := by
  rw [startsWithFolded_iff, List.length_drop]
  simp only [List.getElem?_drop]
  -- Positions count from one and places from zero.
  constructor
  · rintro ⟨-, hfits, hsame⟩
    rw [Nat.add_sub_cancel] at hfits hsame
    exact ⟨by omega, by omega, hsame⟩
  · rintro ⟨hk, hlength, hsame⟩
    refine ⟨Nat.succ_pos k, ?_, ?_⟩
    · rw [Nat.add_sub_cancel]
      omega
    · rwa [Nat.add_sub_cancel]

/-! ### Places -/

/-- The numbers of characters that may stand before a match, from the start to the end of the
    text. -/
def places (haystack : List Char) (start : Int) : List Nat :=
  List.range' (start.toNat - 1) (haystack.length + 1 - (start.toNat - 1))

/-- The first place where the needle matches. -/
def firstPlace? (needle haystack : List Char) (start : Int) : Option Nat :=
  (places haystack start).find? fun k => startsWithFolded needle (haystack.drop k)

/-- A search in the rest of a text finds the first place of the whole text that is not before it. -/
theorem firstMatch?_drop {k : Nat} (hk : k ≤ haystack.length) :
    (firstMatch? needle (haystack.drop k)).map (k + ·) =
      (List.range' k (haystack.length + 1 - k)).find? fun k =>
        startsWithFolded needle (haystack.drop k) := by
  -- Only `k` varies: the places are those of the whole haystack, so the induction is on what is
  -- left of it and not on the list itself.
  induction hrest : haystack.length - k generalizing k with
  | zero =>
    have hcount : haystack.length + 1 - k = 1 := by omega
    have hend : haystack.drop k = [] := List.drop_eq_nil_of_le (by omega)
    rw [hcount, List.range'_one, List.find?_singleton, hend, firstMatch?]
    split <;> rfl
  | succ rest ih =>
    have hlt : k < haystack.length := by omega
    have hcount : haystack.length + 1 - k = haystack.length + 1 - (k + 1) + 1 := by omega
    have hdrop : haystack.drop k = haystack[k] :: haystack.drop (k + 1) :=
      List.drop_eq_getElem_cons hlt
    rw [hcount, List.range'_succ, List.find?_cons, ← ih hlt (by omega), hdrop, firstMatch?]
    cases startsWithFolded needle (haystack[k] :: haystack.drop (k + 1)) with
    | true => rfl
    | false =>
      cases firstMatch? needle (haystack.drop (k + 1)) with
      | none => rfl
      | some i =>
        refine congrArg some ?_
        show k + (i + 1) = k + 1 + i
        omega

/-- The first place is the one before the first match. -/
theorem firstPlace?_eq_some {k : Nat} (h : 1 ≤ start) (h' : start ≤ haystack.length + 1) :
    firstPlace? needle haystack start = some k ↔ FirstMatch needle haystack start (k + 1) := by
  rw [firstPlace?, places, List.find?_range'_eq_some, List.mem_range'_1]
  constructor
  · rintro ⟨hstarts, ⟨hstart, hend⟩, hleast⟩
    refine ⟨h, h', by omega, matchesAt_succ_iff.mpr ⟨by omega, hstarts⟩, fun q hq hmatch => ?_⟩
    -- A match before the place found would have been found earlier.
    refine Nat.not_lt.mp fun hlt => ?_
    have hpos := hmatch.one_le
    obtain ⟨j, rfl⟩ : ∃ j, q = j + 1 := ⟨q - 1, by omega⟩
    have hnot := hleast j (by omega) (by omega)
    rw [(matchesAt_succ_iff.mp hmatch).2] at hnot
    cases hnot
  · rintro ⟨-, -, hstart, hmatch, hleast⟩
    obtain ⟨hk, hstarts⟩ := matchesAt_succ_iff.mp hmatch
    refine ⟨hstarts, ⟨by omega, by omega⟩, fun j hj hlt => ?_⟩
    rw [Bool.not_eq_true', Bool.eq_false_iff]
    intro hj'
    have := hleast (j + 1) (by omega) (matchesAt_succ_iff.mpr ⟨by omega, hj'⟩)
    omega

/-- Within the text the search takes the first place. -/
theorem searchFrom_eq (h : 1 ≤ start) (h' : start ≤ haystack.length + 1) :
    searchFrom needle haystack start =
      match firstPlace? needle haystack start with
      | some k => .ok (countToken (k + 1))
      | none => .error (.failure .value "Text not found") := by
  have hplace : (firstMatch? needle (haystack.drop (start.toNat - 1))).map
      (start.toNat - 1 + ·) = firstPlace? needle haystack start := firstMatch?_drop (by omega)
  rw [searchFrom, if_neg (by omega), ← hplace]
  dsimp only
  cases firstMatch? needle (haystack.drop (start.toNat - 1)) <;> rfl

/-- **The search** yields the first match, or `#VALUE!` if there is none. -/
theorem searchFrom_cases (needle haystack : List Char) (start : Int) :
    (∃ p, FirstMatch needle haystack start p ∧
      searchFrom needle haystack start = .ok (countToken p)) ∨
    (¬ ∃ p, FirstMatch needle haystack start p) ∧
      ∃ message, searchFrom needle haystack start = .error (.failure .value message) := by
  -- A start outside the text is refused, and inside it the search finds a place or none.
  by_cases hstart : start < 1 ∨ haystack.length + 1 < start
  · refine .inr ⟨?_, _, if_pos hstart⟩
    rintro ⟨p, hp⟩
    have hone := hp.one_le
    have hend := hp.le_end
    omega
  · have h : 1 ≤ start := by omega
    have h' : start ≤ haystack.length + 1 := by omega
    rw [searchFrom_eq h h']
    cases hplace : firstPlace? needle haystack start with
    | some k => exact .inl ⟨k + 1, (firstPlace?_eq_some h h').mp hplace, rfl⟩
    | none =>
      refine .inr ⟨?_, _, rfl⟩
      rintro ⟨p, hp⟩
      have hpos := hp.matchesAt.one_le
      obtain ⟨k, rfl⟩ : ∃ k, p = k + 1 := ⟨p - 1, by omega⟩
      rw [(firstPlace?_eq_some h h').mpr hp] at hplace
      cases hplace

/-! ### Bounds -/

/-- Subtraction with a check: the result may not be negative. -/
def checkedSub? (a b : Nat) : Option Nat := if b ≤ a then some (a - b) else none

/-- The rest of a text from an index on, with a check: the index may be the length at most. -/
def checkedFrom? (cs : List Char) (i : Nat) : Option (List Char) :=
  if i ≤ cs.length then some (cs.drop i) else none

/-- Does the needle match at index `i`?  Its characters are compared one by one, if enough
    characters are left. -/
def checkedMatch? (needle haystack : List Char) (i : Nat) : Option Bool := do
  let left ← checkedSub? haystack.length i
  if needle.length ≤ left then
    let rest ← checkedFrom? haystack i
    return (needle.zip rest).all fun (n, h) => Text.sameFolded n h
  else
    return false

/-- The first of the indices at which the needle matches. -/
def checkedScan? (needle haystack : List Char) : List Nat → Option (Option Nat)
  | [] => some none
  | i :: indices => do
    if ← checkedMatch? needle haystack i then return some i
    else checkedScan? needle haystack indices

/-- The search with checks. -/
def checkedSearch? (needle haystack : List Char) (start : Int) : Option (Except Token Token) :=
  if start < 1 ∨ haystack.length + 1 < start then
    some (.error (.failure .value ("start_num " ++ Decimal.intText start ++ " is outside 1..=" ++
      Decimal.intText (haystack.length + 1))))
  else do
    let first ← checkedSub? start.toNat 1
    let count ← checkedSub? (haystack.length + 1) first
    match ← checkedScan? needle haystack (List.range' first count) with
    | some i => return .ok (countToken (i + 1))
    | none => return .error (.failure .value "Text not found")

theorem checkedSub?_eq {a b : Nat} (h : b ≤ a) : checkedSub? a b = some (a - b) := if_pos h

/-- Comparing pairs is enough where no character of the needle is left over. -/
theorem all_zip_eq (h : needle.length ≤ haystack.length) :
    ((needle.zip haystack).all fun (n, h) => Text.sameFolded n h) =
      startsWithFolded needle haystack := by
  induction needle generalizing haystack with
  | nil => simp [startsWithFolded]
  | cons n needle ih =>
    cases haystack with
    | nil => cases h
    | cons c haystack =>
      rw [List.zip_cons_cons, List.all_cons, ih (Nat.le_of_succ_le_succ h), startsWithFolded]

/-- Inside the text the comparison passes its checks. -/
theorem checkedMatch?_eq {i : Nat} (h : i ≤ haystack.length) :
    checkedMatch? needle haystack i = some (startsWithFolded needle (haystack.drop i)) := by
  have hlength : (haystack.drop i).length = haystack.length - i := List.length_drop
  have hrest : checkedFrom? haystack i = some (haystack.drop i) := if_pos h
  rw [checkedMatch?, checkedSub?_eq h, ← hlength, Option.bind_eq_bind, Option.bind_some]
  -- Characters are compared only if there are enough of them, as many as a match needs.
  by_cases hfits : needle.length ≤ (haystack.drop i).length
  · rw [if_pos hfits, hrest, Option.bind_eq_bind, Option.bind_some, all_zip_eq hfits]
    rfl
  · rw [if_neg hfits]
    refine congrArg some (Bool.eq_false_iff.mpr fun hstarts => ?_).symm
    exact hfits (startsWithFolded_iff.mp hstarts).1

/-- So does a scan over places inside the text. -/
theorem checkedScan?_eq {indices : List Nat} (h : ∀ i ∈ indices, i ≤ haystack.length) :
    checkedScan? needle haystack indices =
      some (indices.find? fun i => startsWithFolded needle (haystack.drop i)) := by
  induction indices with
  | nil => rfl
  | cons i indices ih =>
    obtain ⟨hi, hindices⟩ := List.forall_mem_cons.mp h
    rw [checkedScan?, checkedMatch?_eq hi, ih hindices, List.find?_cons]
    cases startsWithFolded needle (haystack.drop i) <;> rfl

/-- **No subtraction goes below zero and no index leaves the text**: the search with checks yields
    what the search yields. -/
theorem checkedSearch?_eq (needle haystack : List Char) (start : Int) :
    checkedSearch? needle haystack start = some (searchFrom needle haystack start) := by
  unfold checkedSearch?
  by_cases hstart : start < 1 ∨ haystack.length + 1 < start
  · rw [if_pos hstart, searchFrom, if_pos hstart]
  -- No place lies behind the end of the text, so no check fails.
  · have hindices : ∀ i ∈ places haystack start, i ≤ haystack.length := by
      intro i hi
      have hi' := (List.mem_range'_1.mp hi).2
      omega
    rw [if_neg hstart, checkedSub?_eq (by omega), Option.bind_eq_bind, Option.bind_some,
      checkedSub?_eq (by omega), Option.bind_eq_bind, Option.bind_some,
      show List.range' _ _ = places haystack start from rfl, checkedScan?_eq hindices,
      searchFrom_eq (by omega) (by omega)]
    show (match firstPlace? needle haystack start with
      | some i => some (Except.ok (countToken (i + 1)))
      | none => some (Except.error (Token.failure .value "Text not found"))) = _
    cases firstPlace? needle haystack start <;> rfl

/-! ### The function -/

/-- Where the search starts: at the third argument, if there is one, and else at the first
    position. -/
inductive StartsAt : List Token → Int → Prop
  | absent : StartsAt [] 1
  | given {n : Number} {start : Int} {rest : List Token} (h : n.integral? = some start) :
    StartsAt (.number n :: rest) start

section
variable {a b : Token} {rest : List Token} {find within : String}

/-- The text of an argument is what it reads as. -/
theorem textOf_eq_ok (h : a.asText? = some find) : textOf a = .ok find := by
  cases a <;> cases h <;> rfl

/-- The start is read from the third argument, and it is one without it. -/
theorem optionalCount_eq_ok (h : StartsAt rest start) (a b : Token) :
    optionalCount (a :: b :: rest) 2 = .ok start := by
  cases h with
  | absent => rfl
  | @given n _ _ h =>
    show countOf (.number n) = _
    rw [countOf, h]

/-- `SEARCH` with two texts and a start that can be read is the search itself. -/
theorem search_eq (ha : a.asText? = some find) (hb : b.asText? = some within)
    (hs : StartsAt rest start) :
    search (a :: b :: rest) = settle (searchFrom find.toList within.toList start) := by
  have ha' : textOf (argument (a :: b :: rest) 0) = .ok find := textOf_eq_ok ha
  have hb' : textOf (argument (a :: b :: rest) 1) = .ok within := textOf_eq_ok hb
  rw [search, ha', hb', optionalCount_eq_ok hs a b]
  rfl

/-- A double that is too large to be a count is refused. -/
theorem search_of_large {x : Float} {k : Int} (ha : a.asText? = some find)
    (hb : b.asText? = some within) (hx : Binary64.integer? x = some k)
    (hk : 9000000000000000 ≤ k.natAbs) (rest : List Token) :
    ∃ message, search (a :: b :: .number (.float x) :: rest) = .failure .value message := by
  have ha' : textOf (argument (a :: b :: .number (.float x) :: rest) 0) = .ok find :=
    textOf_eq_ok ha
  have hb' : textOf (argument (a :: b :: .number (.float x) :: rest) 1) = .ok within :=
    textOf_eq_ok hb
  -- The double has no fraction, and it is refused all the same.
  have hcount : (Number.float x).integral? = none := by
    rw [Number.integral?, hx]
    exact if_neg (by rw [decide_eq_true_iff]; omega)
  have hstart : optionalCount (a :: b :: .number (.float x) :: rest) 2 =
      countOf (.number (.float x)) := rfl
  rw [search, ha', hb', hstart, countOf, hcount]
  exact ⟨_, rfl⟩

/-- The position of a match is a 64-bit integer. -/
theorem toInt_ofNat_of_firstMatch {p : Nat}
    (hlength : (haystack.length : Int) < Int64.maxValue.toInt)
    (h : FirstMatch needle haystack start p) : (Int64.ofNat p).toInt = p := by
  have hfits := h.matchesAt.fits
  have hmax : Int64.maxValue.toInt = 9223372036854775807 := by decide
  exact Int64.toInt_ofNat_of_lt (by omega)

/-- **`SEARCH` finds the first match.**  For two arguments with a text, and a start if one is given,
    it yields the position of the first match, and `#VALUE!` if there is none, which includes a
    start outside the text.  In any text shorter than the largest 64-bit integer the number it
    yields is this position itself.  The search neither subtracts below zero nor leaves the text,
    and an empty text is found at the start.

    A double counts as a start only below `9 · 10 ^ 15`.  A larger one gives `#VALUE!`, and as a
    start it would lie outside every shorter text. -/
theorem search_firstMatch (ha : a.asText? = some find) (hb : b.asText? = some within)
    (hs : StartsAt rest start) :
    ((∃ p, FirstMatch find.toList within.toList start p ∧
        search (a :: b :: rest) = countToken p) ∨
      (¬ ∃ p, FirstMatch find.toList within.toList start p) ∧
        ∃ message, search (a :: b :: rest) = .failure .value message) ∧
    ((within.toList.length : Int) < Int64.maxValue.toInt →
      ∀ i : Int64, search (a :: b :: rest) = .ofInt i ↔
        ∃ p, FirstMatch find.toList within.toList start p ∧ i.toInt = p) ∧
    checkedSearch? find.toList within.toList start =
      some (searchFrom find.toList within.toList start) ∧
    (find.toList = [] → 1 ≤ start → start ≤ within.toList.length + 1 →
      FirstMatch find.toList within.toList start start.toNat) ∧
    ∀ x k rest', Binary64.integer? x = some k → 9000000000000000 ≤ k.natAbs →
      (∃ message, search (a :: b :: .number (.float x) :: rest') = .failure .value message) ∧
        (within.toList.length + 1 < 9000000000000000 →
          ¬ ∃ p, FirstMatch find.toList within.toList k p) := by
  have hcases : (∃ p, FirstMatch find.toList within.toList start p ∧
        search (a :: b :: rest) = countToken p) ∨
      (¬ ∃ p, FirstMatch find.toList within.toList start p) ∧
        ∃ message, search (a :: b :: rest) = .failure .value message := by
    rw [search_eq ha hb hs]
    rcases searchFrom_cases find.toList within.toList start with ⟨p, hp, heq⟩ | ⟨hnone, _, heq⟩
    · exact .inl ⟨p, hp, congrArg settle heq⟩
    · exact .inr ⟨hnone, _, congrArg settle heq⟩
  refine ⟨hcases, fun hlength i => ⟨fun hi => ?_, fun ⟨p, hp, hi⟩ => ?_⟩,
    checkedSearch?_eq _ _ _, fun hempty => ?_, fun x k rest' hx hk => ?_⟩
  · rcases hcases with ⟨p, hp, heq⟩ | ⟨-, _, heq⟩
    · rw [hi] at heq
      cases heq
      -- A position is stored in 64 bits; below the largest integer nothing of it is lost.
      exact ⟨p, hp, toInt_ofNat_of_firstMatch hlength hp⟩
    · rw [hi] at heq
      cases heq
  · rcases hcases with ⟨q, hq, heq⟩ | ⟨hnone, -⟩
    · rw [heq, hq.unique hp, countToken]
      refine congrArg Token.ofInt (Int64.toInt_inj.mp ?_)
      rw [toInt_ofNat_of_firstMatch hlength hp, hi]
    · exact absurd ⟨p, hp⟩ hnone
  · rw [hempty]
    exact firstMatch_nil
  · refine ⟨search_of_large ha hb hx hk rest', fun hlength ⟨p, hp⟩ => ?_⟩
    have hone := hp.one_le
    have hend := hp.le_end
    omega

end

/-- In `abcb` the first `B` from the third character on is the fourth one. -/
theorem search_firstMatch_abcb :
    (Token.text "B").asText? = some "B" ∧ (Token.text "abcb").asText? = some "abcb" ∧
      StartsAt [.ofInt 3] 3 ∧ FirstMatch ['B'] ['a', 'b', 'c', 'b'] 3 4 := by
  have hs : StartsAt [.ofInt 3] 3 := .given rfl
  have hfound : search [.text "B", .text "abcb", .ofInt 3] = .ofInt 4 := by decide +kernel
  obtain ⟨-, hposition, -⟩ := search_firstMatch (a := .text "B") (b := .text "abcb") rfl rfl hs
  obtain ⟨p, hp, hfour⟩ := (hposition (by decide) 4).mp hfound
  have hp4 : p = 4 := by
    have hvalue : (4 : Int64).toInt = 4 := by decide
    omega
  exact ⟨rfl, rfl, hs, hp4 ▸ hp⟩

end SheetFormula.Function
