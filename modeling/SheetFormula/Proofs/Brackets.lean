import SheetFormula.Proofs.Reading

namespace SheetFormula.Brackets

/-!
# Brackets

A parenthesis and a call are brackets around what they enclose.  Either closing token closes either
opening one, so how brackets nest depends on the classes `Token.isOpen` and `Token.isClose` only.

* `depthFrom` — the number of brackets that stand open after some tokens.
* `Innermost` — the innermost of them, with what follows it.  There is one as soon as any bracket
  is open (`exists_innermost`), and only one (`Innermost.unique`).
* `separators` — the separators that stand directly inside a bracket.
-/

variable {d e k : Nat} {t o o' c : Token} {ts us inner inner' outer : List Token}

/-! ### Depth -/

/-- The number of open brackets after a token, `d` standing open before it.  There is none if the
    token closes a bracket and no bracket is open. -/
def depthAfter (d : Nat) (t : Token) : Option Nat :=
  if t.isOpen then some (d + 1)
  else if t.isClose then
    if d = 0 then none else some (d - 1)
  else some d

/-- The number of open brackets after tokens. -/
def depthFrom (d : Nat) (ts : List Token) : Option Nat := ts.foldlM depthAfter d

/-- Do the tokens close what they open, and nothing else? -/
def Balanced (ts : List Token) : Prop := depthFrom 0 ts = some 0

instance (ts : List Token) : Decidable (Balanced ts) :=
  inferInstanceAs (Decidable (depthFrom 0 ts = some 0))

/-- Does the token neither open nor close a bracket? -/
def IsPlain (t : Token) : Prop := t.isOpen = false ∧ t.isClose = false

theorem depthAfter_open (ho : o.isOpen = true) : depthAfter d o = some (d + 1) := if_pos ho

theorem depthAfter_close (hc : c.isClose = true) : depthAfter (d + 1) c = some d := by
  have ho : ¬ c.isOpen = true := Bool.eq_false_iff.mp (Token.isOpen_of_isClose hc)
  rw [depthAfter, if_neg ho, if_pos hc, if_neg (Nat.succ_ne_zero d), Nat.add_sub_cancel]

theorem depthAfter_zero_close (hc : c.isClose = true) : depthAfter 0 c = none := by
  have ho : ¬ c.isOpen = true := Bool.eq_false_iff.mp (Token.isOpen_of_isClose hc)
  rw [depthAfter, if_neg ho, if_pos hc, if_pos rfl]

theorem depthAfter_plain (ht : IsPlain t) : depthAfter d t = some d := by
  rw [depthAfter, if_neg (Bool.eq_false_iff.mp ht.1), if_neg (Bool.eq_false_iff.mp ht.2)]

@[simp] theorem depthFrom_nil : depthFrom d [] = some d := rfl

/-- The depth after a sequence is found one token at a time. -/
theorem depthFrom_cons :
    depthFrom d (t :: ts) = (depthAfter d t).bind fun e => depthFrom e ts := rfl

/-- The second part of a sequence starts at the depth where the first part ends. -/
theorem depthFrom_append :
    depthFrom d (ts ++ us) = (depthFrom d ts).bind fun e => depthFrom e us :=
  List.foldlM_append

/-- The depth after a first part, if there is one after the whole. -/
theorem exists_depthFrom_left (h : depthFrom d (ts ++ us) = some e) :
    ∃ k, depthFrom d ts = some k ∧ depthFrom k us = some e := by
  rw [depthFrom_append] at h
  exact Option.bind_eq_some_iff.mp h

/-- Brackets that stand open before the tokens stay open. -/
theorem depthAfter_add (h : depthAfter d t = some e) (k : Nat) :
    depthAfter (d + k) t = some (e + k) := by
  unfold depthAfter at h ⊢
  by_cases ho : t.isOpen = true
  · rw [if_pos ho, Option.some_inj] at h ⊢
    omega
  · rw [if_neg ho] at h ⊢
    by_cases hc : t.isClose = true
    · rw [if_pos hc] at h ⊢
      -- Something was open to be closed, so the depth is not zero, and neither is the sum.
      have hd : d ≠ 0 := by
        intro hd
        rw [if_pos hd] at h
        cases h
      rw [if_neg hd, Option.some_inj] at h
      rw [if_neg (by omega), Option.some_inj]
      omega
    · rw [if_neg hc, Option.some_inj] at h ⊢
      omega

/-- Brackets that stand open around a sequence make no difference to it. -/
theorem depthFrom_add (h : depthFrom d ts = some e) (k : Nat) :
    depthFrom (d + k) ts = some (e + k) := by
  induction ts generalizing d with
  | nil =>
    rw [depthFrom_nil, Option.some_inj] at h ⊢
    omega
  | cons t ts ih =>
    rw [depthFrom_cons] at h ⊢
    obtain ⟨m, hm, hts⟩ := Option.bind_eq_some_iff.mp h
    rw [depthAfter_add hm, Option.bind_some]
    exact ih hts

/-! ### Balanced tokens -/

/-- A balanced sequence ends at the depth where it starts, whatever that is. -/
theorem Balanced.depthFrom_eq (h : Balanced ts) (d : Nat) : depthFrom d ts = some d := by
  have := depthFrom_add h d
  rwa [Nat.zero_add] at this

/-- Balanced sequences follow one another. -/
theorem Balanced.append (h : Balanced ts) (h' : Balanced us) : Balanced (ts ++ us) := by
  unfold Balanced
  rw [depthFrom_append, h, Option.bind_some]
  exact h'

theorem balanced_nil : Balanced [] := rfl

theorem balanced_singleton (ht : IsPlain t) : Balanced [t] := by
  unfold Balanced
  rw [depthFrom_cons, depthAfter_plain ht, Option.bind_some, depthFrom_nil]

/-- Balanced tokens stay so with brackets around them. -/
theorem Balanced.bracket (ho : o.isOpen = true) (h : Balanced inner) (hc : c.isClose = true) :
    Balanced (o :: inner ++ [c]) := by
  unfold Balanced
  rw [List.cons_append, depthFrom_cons, depthAfter_open ho, Option.bind_some, depthFrom_append,
    h.depthFrom_eq, Option.bind_some, depthFrom_cons, depthAfter_close hc, Option.bind_some,
    depthFrom_nil]

/-! ### The innermost open bracket -/

/-- Is `o` the innermost bracket that stands open after the tokens, and `inner` what follows
    it? -/
def Innermost (ts : List Token) (o : Token) (inner : List Token) : Prop :=
  o.isOpen = true ∧ Balanced inner ∧ ∃ outer, ts = outer ++ o :: inner

/-- What follows the innermost open bracket is one level below what precedes it. -/
theorem depthFrom_innermost (ho : o.isOpen = true) (hi : Balanced inner)
    (houter : depthFrom 0 outer = some d) :
    depthFrom 0 (outer ++ o :: inner) = some (d + 1) := by
  rw [depthFrom_append, houter, Option.bind_some, depthFrom_cons, depthAfter_open ho,
    Option.bind_some, hi.depthFrom_eq]

/-- No bracket stands open after balanced tokens. -/
theorem Balanced.not_innermost (h : Balanced ts) : ¬ Innermost ts o inner := by
  rintro ⟨ho, hi, outer, rfl⟩
  obtain ⟨d, houter, -⟩ := exists_depthFrom_left h
  have hdepth := depthFrom_innermost ho hi houter
  rw [h, Option.some_inj] at hdepth
  omega

/-- **Only one bracket is innermost.** -/
theorem Innermost.unique (h : Innermost ts o inner) (h' : Innermost ts o' inner') :
    o = o' ∧ inner = inner' := by
  obtain ⟨ho, hi, outer, rfl⟩ := h
  obtain ⟨ho', hi', outer', heq⟩ := h'
  -- If one of the brackets stands behind the other, it stands open in balanced tokens.
  rcases List.append_eq_append_iff.mp heq with ⟨a, -, ha⟩ | ⟨a, -, ha⟩
  · cases a with
    | nil => exact List.cons.inj ha
    | cons u a => exact absurd ⟨ho', hi', a, (List.cons.inj ha).2⟩ hi.not_innermost
  · cases a with
    | nil =>
      have hcons := List.cons.inj ha
      exact ⟨hcons.1.symm, hcons.2.symm⟩
    | cons u a => exact absurd ⟨ho, hi, a, (List.cons.inj ha).2⟩ hi'.not_innermost

/-- The innermost bracket with what stands before it, by induction on the number of tokens: if the
    last token closes a bracket, that bracket and the one around it come from shorter ones. -/
theorem exists_outer (n : Nat) (hn : ts.length = n) (h : depthFrom 0 ts = some (d + 1)) :
    ∃ outer o inner, ts = outer ++ o :: inner ∧ o.isOpen = true ∧ Balanced inner ∧
      depthFrom 0 outer = some d := by
  induction n using Nat.strongRecOn generalizing ts d with
  | ind n ih =>
    rcases List.eq_nil_or_concat ts with rfl | ⟨xs, t, rfl⟩
    · cases h
    · rw [List.length_concat] at hn
      rw [List.concat_eq_append] at h ⊢
      obtain ⟨m, hxs, ht⟩ := exists_depthFrom_left h
      rw [depthFrom_cons] at ht
      obtain ⟨_, ht, hm⟩ := Option.bind_eq_some_iff.mp ht
      cases hm
      by_cases ho : t.isOpen = true
      · rw [depthAfter_open ho] at ht
        cases ht
        exact ⟨xs, t, [], rfl, ho, balanced_nil, hxs⟩
      · by_cases hc : t.isClose = true
        · cases m with
          | zero =>
            rw [depthAfter_zero_close hc] at ht
            cases ht
          | succ m =>
            rw [depthAfter_close hc] at ht
            cases ht
            -- The bracket that the token closes becomes part of what stands in the one around it.
            obtain ⟨ys, o, inner, rfl, ho, hi, hys⟩ := ih xs.length (by omega) rfl hxs
            have hlt : ys.length < n := by
              rw [← hn, List.length_append]
              omega
            obtain ⟨zs, o', inner', rfl, ho', hi', hzs⟩ := ih ys.length hlt rfl hys
            refine ⟨zs, o', inner' ++ (o :: inner ++ [t]), by simp, ho', ?_, hzs⟩
            exact hi'.append (hi.bracket ho hc)
        · have hplain : IsPlain t := ⟨Bool.eq_false_iff.mpr ho, Bool.eq_false_iff.mpr hc⟩
          rw [depthAfter_plain hplain] at ht
          cases ht
          obtain ⟨ys, o, inner, rfl, ho, hi, hys⟩ := ih xs.length (by omega) rfl hxs
          refine ⟨ys, o, inner ++ [t], by simp, ho, ?_, hys⟩
          exact hi.append (balanced_singleton hplain)

/-- **Some bracket is innermost**, if one is open. -/
theorem exists_innermost (h : depthFrom 0 ts = some (d + 1)) : ∃ o inner, Innermost ts o inner := by
  obtain ⟨outer, o, inner, heq, ho, hi, -⟩ := exists_outer ts.length rfl h
  exact ⟨o, inner, ho, hi, outer, heq⟩

/-! ### Separators -/

/-- The number of separators at depth zero, from depth `d` on. -/
def separatorsFrom (d : Nat) : List Token → Nat
  | [] => 0
  | t :: ts =>
    (if d = 0 ∧ t.isSeparator then 1 else 0) + separatorsFrom ((depthAfter d t).getD 0) ts

/-- The number of separators that stand inside no bracket of these tokens. -/
def separators (ts : List Token) : Nat := separatorsFrom 0 ts

/-- Separators are counted part by part, each part from the depth where it starts. -/
theorem separatorsFrom_append (h : depthFrom d ts = some e) :
    separatorsFrom d (ts ++ us) = separatorsFrom d ts + separatorsFrom e us := by
  induction ts generalizing d with
  | nil =>
    cases h
    exact (Nat.zero_add _).symm
  | cons t ts ih =>
    rw [depthFrom_cons] at h
    obtain ⟨m, hm, hts⟩ := Option.bind_eq_some_iff.mp h
    rw [List.cons_append, separatorsFrom, separatorsFrom, hm, Option.getD_some, ih hts,
      Nat.add_assoc]

/-- Below depth zero nothing is counted. -/
theorem separatorsFrom_succ (h : depthFrom d ts = some e) : separatorsFrom (d + 1) ts = 0 := by
  induction ts generalizing d with
  | nil => rfl
  | cons t ts ih =>
    rw [depthFrom_cons] at h
    obtain ⟨m, hm, hts⟩ := Option.bind_eq_some_iff.mp h
    have hnot : ¬ (d + 1 = 0 ∧ t.isSeparator = true) := by simp
    rw [separatorsFrom, if_neg hnot, depthAfter_add hm 1, Option.getD_some, ih hts]

/-- After a balanced part the count starts anew. -/
theorem separators_append (h : Balanced ts) :
    separators (ts ++ us) = separators ts + separators us :=
  separatorsFrom_append h

@[simp] theorem separators_nil : separators [] = 0 := rfl

theorem separators_singleton : separators [t] = if t.isSeparator then 1 else 0 := by
  simp [separators, separatorsFrom]

/-- What stands in brackets of its own does not count. -/
theorem separators_bracket (ho : o.isOpen = true) (h : Balanced inner) (hc : c.isClose = true) :
    separators (o :: inner ++ [c]) = 0 := by
  -- Neither bracket is a separator, and between them the depth is at least one.
  have hs : o.isSeparator = false ∧ c.isSeparator = false :=
    ⟨Token.isSeparator_of_isOpen ho, Token.isSeparator_of_isClose hc⟩
  have hone : depthFrom 1 inner = some 1 := h.depthFrom_eq 1
  rw [List.cons_append, separators, separatorsFrom, depthAfter_open ho, Option.getD_some,
    separatorsFrom_append hone, separatorsFrom_succ h, separatorsFrom, separatorsFrom]
  simp [hs]

end SheetFormula.Brackets
