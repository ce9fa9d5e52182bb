import SheetFormula.Proofs.TextSearch

namespace SheetFormula.Function

/-!
# Arguments of the text functions

A text function reads its arguments from left to right: first those of which it wants the text, and
then a count, if there is one.  The first argument that will not do decides the result, and nothing
after it is looked at: an error is handed on as it is, and anything else gives a new `#VALUE!`.

* `Reading` — an argument and what it is read for; `Reading.offends` — will it not do?
* `Decided` — a result that the first such argument decides, if there is one.
* `Reads` — a computation that reads arguments in their order; `Reads.decided` puts one of them in
  front of the rest of a function.
* `textOf_reads` and `optionalCount_reads` — the two ways of reading an argument.
* `firstOffending_decides` — hence what each of the functions yields for any list of arguments.
-/

variable {α : Type} {args : List Token}

/-! ### Readings -/

/-- What an argument is read for. -/
inductive Purpose
  | text
  | count
  deriving DecidableEq

/-- An argument that is read. -/
structure Reading where
  purpose : Purpose
  token : Token

/-- Will the argument not do?  No error will.  Of a text argument the text is wanted, and a count is
    a number with an integer value. -/
def Reading.offends (r : Reading) : Bool :=
  r.token.isError ||
    match r.purpose with
    | .text => r.token.asText?.isNone
    | .count => (r.token.number?.bind Number.integral?).isNone

/-- The arguments that a function reads: texts first, and then counts. -/
def readings (texts counts : List Token) : List Reading :=
  texts.map (⟨.text, ·⟩) ++ counts.map (⟨.count, ·⟩)

/-- The count at an index of the arguments.  It is one if there is no argument. -/
def countAt? (args : List Token) (i : Nat) : Option Int :=
  match args[i]? with
  | some t => t.number?.bind Number.integral?
  | none => some 1

/-- What an argument that will not do leads to. -/
inductive Refusal : Token → Token → Prop
  /-- An error is handed on, the very one that was given. -/
  | handedOn (e : ErrorValue) : Refusal (.error e) (.error e)
  /-- Of everything else a new error is made. -/
  | made {t : Token} (h : t.isError = false) (message : String) :
    Refusal t (.failure .value message)

/-- **The first argument that will not do decides the result.**  If all of them will, the result is
    one of the expected ones. -/
def Decided (rs : List Reading) (expected : Token → Prop) (result : Token) : Prop :=
  match rs.find? Reading.offends with
  | some r => Refusal r.token result
  | none => expected result

/-! ### Computations that read arguments -/

/-- A computation that reads arguments.  The first one that will not do ends it; if all of them
    will, then the computation goes on with a result that has the property. -/
inductive Reads (rs : List Reading) (P : α → Prop) : Except Token α → Prop
  | ends {r : Reading} {t : Token} (hr : rs.find? Reading.offends = some r)
    (ht : Refusal r.token t) : Reads rs P (.error t)
  | goesOn {a : α} (hr : rs.find? Reading.offends = none) (ha : P a) : Reads rs P (.ok a)

section
variable {rs rs' : List Reading} {P : α → Prop} {x : Except Token α} {f : α → Except Token Token}
  {expected : Token → Prop}

/-- What is read in front comes first. -/
theorem Reads.decided (hx : Reads rs P x)
    (hf : ∀ a, P a → Decided rs' expected (settle (f a))) :
    Decided (rs ++ rs') expected (settle (x >>= f)) := by
  unfold Decided
  rw [List.find?_append]
  -- Either one of the first readings ends the computation, or it goes on with the others.
  cases hx with
  | ends hr ht =>
    simp only [hr, Option.some_or]
    exact ht
  | goesOn hr ha =>
    simp only [hr, Option.none_or]
    exact hf _ ha

end

/-- A text argument yields its text. -/
theorem textOf_reads (t : Token) :
    Reads [⟨.text, t⟩] (fun s => t.asText? = some s) (textOf t) := by
  cases hs : t.asText? with
  | some s =>
    rw [textOf_eq_ok hs]
    refine .goesOn ?_ rfl
    -- A token that has a text is no error.
    have hplain : t.isError = false := by
      cases t <;> first | rfl | cases hs
    simp [Reading.offends, hplain, hs]
  | none =>
    cases t with
    | error e => exact .ends rfl (.handedOn e)
    | logical b | number n | text s => simp [Token.asText?] at hs
    | _ => exact .ends rfl (.made rfl _)

/-- A count yields its integer. -/
theorem countOf_reads (t : Token) :
    Reads [⟨.count, t⟩] (fun n => t.number?.bind Number.integral? = some n) (countOf t) := by
  -- Only a number can be a count, and only if it has no fraction.
  cases t with
  | error e => exact .ends rfl (.handedOn e)
  | number x =>
    cases hx : x.integral? with
    | some n =>
      simp only [countOf, hx]
      refine .goesOn ?_ hx
      simp [Reading.offends, Token.isError, Token.number?, hx]
    | none =>
      simp only [countOf, hx]
      refine .ends (r := ⟨.count, .number x⟩) ?_ (.made rfl _)
      simp [Reading.offends, Token.number?, hx]
  | _ => exact .ends rfl (.made rfl _)

/-- A count that is not given is one. -/
theorem optionalCount_reads (args : List Token) (i : Nat) :
    Reads (args[i]?.toList.map (⟨.count, ·⟩)) (fun n => countAt? args i = some n)
      (optionalCount args i) := by
  unfold optionalCount countAt?
  cases args[i]? with
  | none => exact .goesOn rfl rfl
  | some t => exact countOf_reads t

/-! ### The functions -/

/-- `LEN` reads its argument and nothing else. -/
theorem len_decided (args : List Token) :
    Decided (readings [argument args 0] [])
      (fun t => ∃ s, (argument args 0).asText? = some s ∧ t = countToken s.toList.length)
      (len args) := by
  show Decided ([⟨.text, argument args 0⟩] ++ []) _ _
  refine (textOf_reads _).decided fun s hs => ?_
  exact ⟨s, hs, rfl⟩

/-- The results of taking a part of a text: with a count that is not negative a text, and with a
    negative one `#VALUE!`. -/
def Sliced (cut : Nat → List Char → List Char) (args : List Token) (t : Token) : Prop :=
  ∃ s n, (argument args 0).asText? = some s ∧ countAt? args 1 = some n ∧
    if 0 ≤ n then t = .text (String.ofList (cut n.toNat s.toList))
    else ∃ message, t = .failure .value message

/-- `LEFT` and `RIGHT` read the text first, and then the count if there is one. -/
theorem slice_decided (cut : Nat → List Char → List Char) (args : List Token) :
    Decided (readings [argument args 0] args[1]?.toList) (Sliced cut args) (slice cut args) := by
  refine (textOf_reads _).decided fun s hs => ?_
  -- The sign of the count is looked at after both arguments have been read.
  rw [lengthOf, bind_assoc, ← List.append_nil (args[1]?.toList.map _)]
  refine (optionalCount_reads args 1).decided fun n hn => ?_
  show Sliced cut args (settle _)
  refine ⟨s, n, hs, hn, ?_⟩
  by_cases hnegative : n < 0
  · rw [if_neg (by omega), if_pos hnegative]
    exact ⟨_, rfl⟩
  · rw [if_pos (by omega), if_neg hnegative]
    rfl

/-- The results of a search: the position of the first match, or `#VALUE!` if there is none. -/
def Searched (args : List Token) (t : Token) : Prop :=
  ∃ needle haystack start, (argument args 0).asText? = some needle ∧
    (argument args 1).asText? = some haystack ∧ countAt? args 2 = some start ∧
    ((∃ p, FirstMatch needle.toList haystack.toList start p ∧ t = countToken p) ∨
      (¬ ∃ p, FirstMatch needle.toList haystack.toList start p) ∧
        ∃ message, t = .failure .value message)

/-- `SEARCH` reads both texts before the start. -/
theorem search_decided (args : List Token) :
    Decided (readings [argument args 0, argument args 1] args[2]?.toList) (Searched args)
      (search args) := by
  refine (textOf_reads _).decided fun needle hneedle => ?_
  refine (textOf_reads _).decided fun haystack hhaystack => ?_
  rw [← List.append_nil (args[2]?.toList.map _)]
  refine (optionalCount_reads args 2).decided fun start hstart => ?_
  show Searched args (settle _)
  refine ⟨needle, haystack, start, hneedle, hhaystack, hstart, ?_⟩
  -- All arguments are read; what is left is whether the needle is found.
  rcases searchFrom_cases needle.toList haystack.toList start with
    ⟨p, hp, heq⟩ | ⟨hnone, message, heq⟩
  · exact .inl ⟨p, hp, congrArg settle heq⟩
  · exact .inr ⟨hnone, message, congrArg settle heq⟩

/-- **The first argument that will not do decides**, in lists of any length and of any tokens.
    `LEN` reads one text; `LEFT` and `RIGHT` read one text and then a count; `SEARCH` reads two
    texts and then a count.  An error among them is handed on, and a text argument without a text
    or a count without an integer value gives a new `#VALUE!`, whichever of these comes first.

    There is no other way to fail but two.  If all arguments will do, then `LEN` yields the number
    of characters; `LEFT` and `RIGHT` yield a text if the count is not negative, and `#VALUE!` if it
    is; and `SEARCH` yields a position, or `#VALUE!` if there is no match. -/
theorem firstOffending_decides (args : List Token) :
    Decided (readings [argument args 0] [])
      (fun t => ∃ s, (argument args 0).asText? = some s ∧ t = countToken s.toList.length)
      (len args) ∧
    Decided (readings [argument args 0] args[1]?.toList) (Sliced List.take args) (left args) ∧
    Decided (readings [argument args 0] args[1]?.toList)
      (Sliced (fun n cs => cs.drop (cs.length - n)) args) (right args) ∧
    Decided (readings [argument args 0, argument args 1] args[2]?.toList) (Searched args)
      (search args) :=
  ⟨len_decided args, slice_decided List.take args, slice_decided _ args, search_decided args⟩

/-- The range comes before the error. -/
example : right [.range "A1", .error ⟨.notAvailable, "m", some 0⟩] =
    .failure .value "Expected text but got OPERAND/RANGE" := by decide +kernel

end SheetFormula.Function
