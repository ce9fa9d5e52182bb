import SheetFormula.Proofs.Acceptance

namespace SheetFormula

/-!
# Layout

White-space and the kind of a closing token never matter.  Two sequences of tokens that differ in
nothing else have the same program or are refused with the same error.  A position in the error is
the one of the same token in either sequence, so that the two numbers may differ.

* `LayoutVariant` — two sequences of tokens with the same content.
* `SamePlace` — where the same token stands in both.
* `Moved` — two errors that are the same but for their positions.
* `EndAlike` — two computations with the same result, or with related errors.
* `Builder.step_endAlike` and `Builder.read_endAlike` — from the same state, the builder ends alike
  after one token and after a sequence of them.
* `Program.ofTokens_layout` — so it does for a formula as a whole.
-/

variable {functions : FunctionTable} {t u : Token} {ts us : List Token} {i j n m : Nat}
  {b : Builder}

/-! ### Sequences with the same content -/

/-- Are the tokens the same, the kind of a closing token aside?  White-space is not compared. -/
inductive SameToken : Token → Token → Prop
  | refl {t : Token} (ht : t.isWhitespace = false) : SameToken t t
  | close {t u : Token} (ht : t.isClose = true) (hu : u.isClose = true) : SameToken t u

/-- **Sequences with the same content.**  Each is the other with white-space put in or taken out in
    any place, and with any closing tokens turned into those of the other kind. -/
inductive LayoutVariant : List Token → List Token → Prop
  | nil : LayoutVariant [] []
  | token {t u : Token} {ts us : List Token} (h : SameToken t u) (hs : LayoutVariant ts us) :
    LayoutVariant (t :: ts) (u :: us)
  | left {s : String} {ts us : List Token} (hs : LayoutVariant ts us) :
    LayoutVariant (.whitespace s :: ts) us
  | right {s : String} {ts us : List Token} (hs : LayoutVariant ts us) :
    LayoutVariant ts (.whitespace s :: us)

/-- White-space does not take part in a pair of tokens. -/
theorem SameToken.isWhitespace_eq (h : SameToken t u) :
    t.isWhitespace = false ∧ u.isWhitespace = false := by
  cases h with
  | refl ht => exact ⟨ht, ht⟩
  | close ht hu => exact ⟨Token.isWhitespace_of_isClose ht, Token.isWhitespace_of_isClose hu⟩

/-! ### Places -/

/-- **Places of the same token.**  As many tokens stand before the one as before the other, if
    white-space is not counted. -/
structure SamePlace (ts us : List Token) (i j : Nat) : Prop where
  token : ∃ t u, ts[i]? = some t ∧ us[j]? = some u ∧ SameToken t u
  rank : (significant (ts.take i)).length = (significant (us.take j)).length

namespace SamePlace

/-- The first tokens are in the same place. -/
theorem head (h : SameToken t u) (ts us : List Token) : SamePlace (t :: ts) (u :: us) 0 0 :=
  ⟨⟨t, u, rfl, rfl, h⟩, rfl⟩

/-- A pair of tokens in front moves both positions. -/
theorem cons (h : SameToken t u) (hs : SamePlace ts us i j) :
    SamePlace (t :: ts) (u :: us) (i + 1) (j + 1) := by
  refine ⟨hs.token, ?_⟩
  rw [List.take_succ_cons, List.take_succ_cons, significant_cons h.isWhitespace_eq.1,
    significant_cons h.isWhitespace_eq.2, List.length_cons, List.length_cons, hs.rank]

/-- White-space in front of the first sequence moves the first position. -/
theorem left (s : String) (hs : SamePlace ts us i j) :
    SamePlace (.whitespace s :: ts) us (i + 1) j := by
  refine ⟨hs.token, ?_⟩
  rw [List.take_succ_cons, significant_whitespace rfl, hs.rank]

/-- White-space in front of the second sequence moves the second position. -/
theorem right (s : String) (hs : SamePlace ts us i j) :
    SamePlace ts (.whitespace s :: us) i (j + 1) := by
  refine ⟨hs.token, ?_⟩
  rw [List.take_succ_cons, significant_whitespace rfl, hs.rank]

end SamePlace

/-! ### Errors -/

namespace SyntaxError

/-- The position of the token that an error is about. -/
def position? : SyntaxError → Option Nat
  | unexpectedOperator _ position | unknownFunction _ position | missingOperator position
  | unexpectedClose position | unrecognizedToken _ position | unexpectedSeparator _ position =>
    some position
  | unmatchedOpen | argumentCount .. | missingArgument .. => none

/-- The error about a token at another position. -/
def moveTo (position : Nat) : SyntaxError → SyntaxError
  | unexpectedOperator token _ => unexpectedOperator token position
  | unknownFunction name _ => unknownFunction name position
  | missingOperator _ => missingOperator position
  | unexpectedClose _ => unexpectedClose position
  | unrecognizedToken token _ => unrecognizedToken token position
  | unexpectedSeparator token _ => unexpectedSeparator token position
  | e => e

end SyntaxError

/-- Are the errors the same, but for a position that corresponds to the other one? -/
inductive Moved (corresponds : Nat → Nat → Prop) : SyntaxError → SyntaxError → Prop
  | unplaced {e : SyntaxError} (he : e.position? = none) : Moved corresponds e e
  | placed {e : SyntaxError} {p q : Nat} (he : e.position? = some p) (h : corresponds p q) :
    Moved corresponds e (e.moveTo q)

/-- Do the computations have the same result, or errors that are related? -/
inductive EndAlike {α : Type} (related : SyntaxError → SyntaxError → Prop) :
    Except SyntaxError α → Except SyntaxError α → Prop
  | ok (a : α) : EndAlike related (.ok a) (.ok a)
  | error {e e' : SyntaxError} (h : related e e') : EndAlike related (.error e) (.error e')

/-- What relates the positions can be weakened. -/
theorem Moved.mono {p q : Nat → Nat → Prop} {e e' : SyntaxError} (h : Moved p e e')
    (hpq : ∀ i j, p i j → q i j) : Moved q e e' := by
  cases h with
  | unplaced he => exact .unplaced he
  | placed he h => exact .placed he (hpq _ _ h)

namespace EndAlike

variable {α β : Type} {r r' : SyntaxError → SyntaxError → Prop} {x y : Except SyntaxError α}

/-- What relates the errors can be weakened. -/
theorem mono (h : EndAlike r x y) (hr : ∀ e e', r e e' → r' e e') : EndAlike r' x y := by
  cases h with
  | ok a => exact .ok a
  | error h => exact .error (hr _ _ h)

/-- Computations that end alike, each followed by one of a pair that end alike. -/
theorem bind {f g : α → Except SyntaxError β} (h : EndAlike r x y)
    (hf : ∀ a, EndAlike r (f a) (g a)) : EndAlike r (x >>= f) (y >>= g) := by
  cases h with
  | ok a => exact hf a
  | error h => exact .error h

/-- A computation whose errors name no position ends like itself. -/
theorem of_unplaced {corresponds : Nat → Nat → Prop}
    (h : ∀ e, x = .error e → e.position? = none) : EndAlike (Moved corresponds) x x := by
  cases x with
  | ok a => exact .ok a
  | error e => exact .error (.unplaced (h e rfl))

end EndAlike

namespace Builder

/-! ### One token -/

/-- What is wrong with the arguments of a call is said without a position. -/
theorem position?_of_closeCall {c : OpenCall} {e : SyntaxError} (h : b.closeCall c = .error e) :
    e.position? = none := by
  rcases closeCall_eq_error_iff.mp h with h | ⟨k, -, h⟩
  -- Errors about the arguments of a call name the call and no position.
  · unfold argumentCount at h
    split at h
    · split at h
      · cases h
      · cases h
      · split at h
        · cases h
          rfl
        · cases h
    · cases h
  · obtain ⟨_, _, _, rfl⟩ := checkArity_eq_error_iff.mp h
    rfl

/-- Closing tokens are read alike, or refused where they stand. -/
theorem close_endAlike (b : Builder) (n m : Nat) :
    EndAlike (Moved fun p q => p = n ∧ q = m) (b.close n) (b.close m) := by
  unfold close
  dsimp only
  split
  · exact .ok _
  · exact .of_unplaced fun e => position?_of_closeCall
  · exact .error (.placed (q := m) rfl ⟨rfl, rfl⟩)

/-- Separators are read alike, or refused where they stand. -/
theorem separate_endAlike (b : Builder) (n m : Nat) (t : Token) :
    EndAlike (Moved fun p q => p = n ∧ q = m) (b.separate n t) (b.separate m t) := by
  unfold separate
  dsimp only
  split
  · exact .ok _
  · exact .error (.placed (q := m) rfl ⟨rfl, rfl⟩)

/-- **One token.**  From the same state the builder ends alike with the same token, at whatever
    positions it stands. -/
theorem step_endAlike (h : SameToken t u) (b : Builder) (n m : Nat) :
    EndAlike (Moved fun p q => p = n ∧ q = m) (b.step functions n t) (b.step functions m u) := by
  -- Either both tokens close a bracket, or they are the same token.
  cases h with
  | close ht hu =>
    rw [step_close ht, step_close hu]
    exact close_endAlike b n m
  | refl ht =>
    cases t with
    | whitespace => cases ht
    | parenClose | callClose => exact close_endAlike b n m
    | separator => exact separate_endAlike b n m _
    | infixOp =>
      simp only [step]
      split
      · exact .ok _
      · exact .error (.placed (q := m) rfl ⟨rfl, rfl⟩)
    | parenOpen =>
      simp only [step]
      split
      · exact .error (.placed (q := m) rfl ⟨rfl, rfl⟩)
      · exact .ok _
    | callOpen =>
      simp only [step, openCall]
      split
      · exact .error (.placed (q := m) rfl ⟨rfl, rfl⟩)
      · exact .ok _
    | unrecognized => exact .error (.placed (q := m) rfl ⟨rfl, rfl⟩)
    | _ => exact .ok _

/-! ### A sequence of tokens -/

/-- **A sequence of tokens.**  From the same state the builder ends alike with sequences of the same
    content.  An error is about the same token of both, counted from where each sequence starts. -/
theorem read_endAlike (h : LayoutVariant ts us) (b : Builder) (n m : Nat) :
    EndAlike (Moved fun p q => ∃ i j, p = n + i ∧ q = m + j ∧ SamePlace ts us i j)
      (b.read functions n ts) (b.read functions m us) := by
  induction h generalizing b n m with
  | nil => exact .ok b
  | @token t u ts us h _ ih =>
    refine EndAlike.bind ?_ fun b' => ?_
    · refine (step_endAlike h b n m).mono fun e e' he => he.mono ?_
      rintro p q ⟨rfl, rfl⟩
      exact ⟨0, 0, rfl, rfl, .head h ts us⟩
    · refine (ih b' (n + 1) (m + 1)).mono fun e e' he => he.mono ?_
      rintro p q ⟨i, j, rfl, rfl, hs⟩
      exact ⟨i + 1, j + 1, by omega, by omega, hs.cons h⟩
  | @left s ts us _ ih =>
    -- White-space is read without effect, but it moves all positions behind it.
    refine (ih b (n + 1) m).mono fun e e' he => he.mono ?_
    rintro p q ⟨i, j, rfl, rfl, hs⟩
    exact ⟨i + 1, j, by omega, rfl, hs.left s⟩
  | @right s ts us _ ih =>
    refine (ih b n (m + 1)).mono fun e e' he => he.mono ?_
    rintro p q ⟨i, j, rfl, rfl, hs⟩
    exact ⟨i, j + 1, rfl, by omega, hs.right s⟩

end Builder

/-! ### Formulas -/

/-- **Layout does not matter.**  Sequences of tokens with the same content have the same program,
    and so the same required inputs, or they are refused with the same error.  If the error names a
    position, it is that of the same token in each sequence. -/
theorem Program.ofTokens_layout {functions : FunctionTable} {ts us : List Token}
    (h : LayoutVariant ts us) :
    EndAlike (Moved (SamePlace ts us)) (Program.ofTokens functions ts)
      (Program.ofTokens functions us) := by
  -- Positions are those of the tokens read, and the end of a formula has none.
  refine EndAlike.bind ?_ fun b => .of_unplaced fun e he => ?_
  · refine (Builder.read_endAlike h .initial 0 0).mono fun e e' he => he.mono ?_
    rintro p q ⟨i, j, rfl, rfl, hs⟩
    rwa [Nat.zero_add, Nat.zero_add]
  · rw [Builder.finish_eq] at he
    split at he
    · cases he
    · cases he
      rfl

/-! ### A surplus closing token -/

namespace LayoutExample

/-- The formula `LEN("a"))`, which has one closing token too many. -/
def plain : List Token := [.callOpen "LEN(", .text "a", .callClose, .callClose]

/-- The same with white-space and with closing tokens of the other kind. -/
def spaced : List Token :=
  [.whitespace " ", .callOpen "LEN(", .whitespace " ", .text "a", .parenClose, .whitespace " ",
    .parenClose]

/-- The two sequences differ in white-space and in closing tokens. -/
theorem layoutVariant_spaced : LayoutVariant plain spaced :=
  .right (.token (.refl rfl) (.right (.token (.refl rfl) (.token (.close rfl rfl)
    (.right (.token (.close rfl rfl) .nil))))))

end LayoutExample

open LayoutExample in
/-- The surplus closing token is found in both sequences, the fourth token of the one and the
    seventh of the other. -/
theorem Program.ofTokens_layout_surplus :
    LayoutVariant plain spaced ∧
      Program.ofTokens .builtin plain = .error (.unexpectedClose 3) ∧
      Program.ofTokens .builtin spaced = .error (.unexpectedClose 6) ∧
      SamePlace plain spaced 3 6 := by
  have hplain : Program.ofTokens .builtin plain = .error (.unexpectedClose 3) := rfl
  have hspaced : Program.ofTokens .builtin spaced = .error (.unexpectedClose 6) := rfl
  have halike : EndAlike (Moved (SamePlace plain spaced)) (Program.ofTokens .builtin plain)
      (Program.ofTokens .builtin spaced) := Program.ofTokens_layout layoutVariant_spaced
  rw [hplain, hspaced] at halike
  refine ⟨layoutVariant_spaced, hplain, hspaced, ?_⟩
  generalize he : SyntaxError.unexpectedClose 6 = e at halike
  cases halike with
  | error h =>
    cases h with
    | unplaced h => cases h
    | placed h hplace =>
      cases h
      cases he
      exact hplace

end SheetFormula
