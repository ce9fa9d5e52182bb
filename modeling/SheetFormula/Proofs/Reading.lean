import SheetFormula.Program.Builder

namespace SheetFormula

/-!
# Reading tokens

What the builder of programs does with one token and with a sequence of them.

* `Builder.Step` has one constructor for each way in which a token can be read, and
  `step_eq_ok_iff` shows that it is the graph of `Builder.step`.  Positions count in errors only,
  so they do not occur in it.
* `Builder.Reads` is the same for a sequence of tokens.
* `Program.ofTokens_eq_ok_iff` says which program a formula has in these terms.

Later proofs do not unfold the builder: they go through the cases of `Step`.
-/

/-! ### Computations that can fail -/

/-- A sequence of two steps succeeds if both do. -/
theorem bind_eq_ok_iff {ε α β : Type} {x : Except ε α} {f : α → Except ε β} {r : β} :
    x >>= f = .ok r ↔ ∃ a, x = .ok a ∧ f a = .ok r := by
  cases x <;> simp [bind, Except.bind]

theorem bind_eq_error_iff {ε α β : Type} {x : Except ε α} {f : α → Except ε β} {e : ε} :
    x >>= f = .error e ↔ x = .error e ∨ ∃ a, x = .ok a ∧ f a = .error e := by
  cases x <;> simp [bind, Except.bind]

/-! ### Classes of tokens -/

namespace Token

/-- Does the token stand for nothing? -/
def isWhitespace : Token → Bool
  | whitespace _ => true
  | _ => false

/-- Does the token open a parenthesis or a call? -/
def isOpen : Token → Bool
  | parenOpen | callOpen _ => true
  | _ => false

/-- Does the token close a parenthesis or a call? -/
def isClose : Token → Bool
  | parenClose | callClose => true
  | _ => false

/-- Is the token a separator? -/
def isSeparator : Token → Bool
  | separator _ => true
  | _ => false

/-- Is the token an infix or a prefix operator? -/
def isOperator : Token → Bool
  | infixOp _ | prefixOp _ => true
  | _ => false

/-- What a token means to the builder: white-space nothing, and neither the kind of a closing
    token nor the text of a separator anything. -/
def structural? : Token → Option Token
  | whitespace _ => none
  | parenClose | callClose => some callClose
  | separator _ => some (separator ",")
  | t => some t

/-- Can a value end with this token? -/
def endsValue (t : Token) : Bool := t.isOperand || t.isClose

/-- Can a value start with this token? -/
def startsValue : Token → Bool
  | prefixOp _ => true
  | t => t.isOperand || t.isOpen

variable {t : Token}

theorem isWhitespace_of_isOperand (h : t.isOperand = true) : t.isWhitespace = false := by
  cases t <;> first | rfl | cases h

theorem isWhitespace_of_isClose (h : t.isClose = true) : t.isWhitespace = false := by
  cases t <;> first | rfl | cases h

theorem isOpen_of_isClose (h : t.isClose = true) : t.isOpen = false := by
  cases t <;> first | rfl | cases h

theorem isSeparator_of_isOpen (h : t.isOpen = true) : t.isSeparator = false := by
  cases t <;> first | rfl | cases h

theorem isSeparator_of_isClose (h : t.isClose = true) : t.isSeparator = false := by
  cases t <;> first | rfl | cases h

theorem startsValue_of_isOperand (h : t.isOperand = true) : t.startsValue = true := by
  cases t <;> first | rfl | cases h

theorem startsValue_of_isClose (h : t.isClose = true) : t.startsValue = false := by
  cases t <;> first | rfl | cases h

end Token

/-- The item of an operand. -/
def Item.ofOperand : Token → Item
  | .range name => .load name
  | t => .push t

/-! ### Fields of the operations -/

/-- The item that marks an argument as left out, if nothing stands where it should be. -/
def Previous.marker (p : Previous) : List Item :=
  if p = .callOpen ∨ p = .separator then [.push .omitted] else []

/-- The call that a definition opens. -/
def OpenCall.start (name : String) (d : FunctionDef) : OpenCall :=
  ⟨name, d.arity, d.firstRequired, 1⟩

@[simp] theorem OpenCall.start_name (name : String) (d : FunctionDef) :
    (OpenCall.start name d).name = name := rfl

/-- The items of the operators among what is held back, as they are passed on. -/
def Pending.items (ps : List Pending) : List Item := (ps.filterMap Pending.item?).reverse

@[simp] theorem Pending.items_nil : Pending.items [] = [] := rfl

/-- What was held back last is passed on first. -/
@[simp] theorem Pending.items_append (ps qs : List Pending) :
    Pending.items (ps ++ qs) = Pending.items qs ++ Pending.items ps := by
  simp [Pending.items]

/-- Only operators are passed on from what is held back. -/
theorem Pending.eq_of_mem_items {ps : List Pending} {i : Item} (hi : i ∈ Pending.items ps) :
    (∃ s, i = .infixOp s) ∨ ∃ s, i = .prefixOp s := by
  rw [Pending.items, List.mem_reverse, List.mem_filterMap] at hi
  obtain ⟨p, -, hp⟩ := hi
  cases p with
  | infixOp s =>
    cases hp
    exact .inl ⟨s, rfl⟩
  | prefixOp s =>
    cases hp
    exact .inr ⟨s, rfl⟩
  | paren | call c => cases hp

/-- Brackets yield to no symbol. -/
theorem Pending.isOperator_of_yieldsTo {p : Pending} {symbol : String}
    (h : p.yieldsTo symbol = true) : p.isOperator = true := by
  cases p <;> first | rfl | cases h

/-! ### The previous token -/

/-- The tokens that are not white-space. -/
def significant (ts : List Token) : List Token := ts.filter fun t => !t.isWhitespace

@[simp] theorem significant_append (ts us : List Token) :
    significant (ts ++ us) = significant ts ++ significant us := List.filter_append ts us

theorem significant_cons {t : Token} (ht : t.isWhitespace = false) (ts : List Token) :
    significant (t :: ts) = t :: significant ts := by
  simp [significant, ht]

theorem significant_whitespace {t : Token} (ht : t.isWhitespace = true) (ts : List Token) :
    significant (t :: ts) = significant ts := by
  simp [significant, ht]

/-- What the builder remembers of a token.  White-space and unrecognized tokens have no class of
    their own: the first are skipped, and the others are never read. -/
def Previous.ofToken : Token → Previous
  | .infixOp _ => .infixOp
  | .prefixOp _ => .prefixOp
  | .parenOpen => .parenOpen
  | .callOpen _ => .callOpen
  | .separator _ => .separator
  | t => if t.endsValue then .value else .start

/-- What the builder remembers of a sequence of tokens. -/
def Previous.after (ts : List Token) : Previous :=
  ((significant ts).getLast?.map Previous.ofToken).getD .start

@[simp] theorem Previous.after_nil : Previous.after [] = .start := rfl

/-- What is remembered changes with each token that is not white-space. -/
theorem Previous.after_concat (ts : List Token) (t : Token) :
    Previous.after (ts ++ [t]) = if t.isWhitespace then .after ts else .ofToken t := by
  unfold Previous.after
  rw [significant_append]
  by_cases ht : t.isWhitespace = true
  · rw [if_pos ht, significant_whitespace ht, show significant [] = [] from rfl, List.append_nil]
  · rw [if_neg ht, significant_cons (Bool.eq_false_iff.mpr ht), show significant [] = [] from rfl,
      List.getLast?_concat, Option.map_some, Option.getD_some]

namespace Builder

variable {functions : FunctionTable} {b b' b'' : Builder} {t : Token} {ts us : List Token}

@[simp] theorem flush_previous : b.flush.previous = b.previous := rfl

/-- The marker is passed on exactly where an argument has been left out. -/
@[simp] theorem markOmitted_emitted :
    b.markOmitted.emitted = b.previous.marker ++ b.emitted := by
  simp only [markOmitted, Previous.marker]
  split <;> rfl

@[simp] theorem markOmitted_pending : b.markOmitted.pending = b.pending := by
  simp only [markOmitted]
  split <;> rfl

/-- **Releasing a segment.** What is held back on top and satisfies the predicate is passed on,
    down to the first thing that does not. -/
theorem release_append (q : Pending → Bool) {ops rest : List Pending}
    (hb : b.pending = ops ++ rest) (hops : ∀ p ∈ ops, q p = true)
    (hrest : ∀ p ∈ rest.head?, q p = false) :
    (b.release q).emitted = Pending.items ops ++ b.emitted ∧ (b.release q).pending = rest := by
  -- The release stops where the rest starts.
  have htake : rest.takeWhile q = [] := by
    cases rest with
    | nil => rfl
    | cons p ps => simp [hrest p (by simp)]
  have hdrop : rest.dropWhile q = rest := by
    cases rest with
    | nil => rfl
    | cons p ps => simp [hrest p (by simp)]
  constructor
  · simp only [release, hb, List.takeWhile_append_of_pos hops, htake, List.append_nil,
      Pending.items]
  · simp only [release, hb, List.dropWhile_append_of_pos hops, hdrop]

/-- What a release does to a state, without saying where it stops. -/
theorem exists_release (q : Pending → Bool) :
    ∃ ops rest, b.pending = ops ++ rest ∧ (∀ p ∈ ops, q p = true) ∧
      (∀ p ∈ rest.head?, q p = false) ∧
      (b.release q).emitted = Pending.items ops ++ b.emitted ∧ (b.release q).pending = rest := by
  have hpending := (List.takeWhile_append_dropWhile (p := q) (l := b.pending)).symm
  have hops : ∀ p ∈ b.pending.takeWhile q, q p = true := List.all_eq_true.mp List.all_takeWhile
  -- What stops the release is the first thing that does not satisfy the predicate.
  have hrest : ∀ p ∈ (b.pending.dropWhile q).head?, q p = false := by
    intro p hp
    have := List.head?_dropWhile_not q b.pending
    rw [Option.mem_def] at hp
    simpa [hp] using this
  exact ⟨_, _, hpending, hops, hrest, release_append q hpending hops hrest⟩

/-- A segment of operators above an open bracket is passed on as a whole. -/
theorem flush_append {ops rest : List Pending} {scope : Pending}
    (hb : b.pending = ops ++ scope :: rest) (hops : ∀ p ∈ ops, p.isOperator = true)
    (hscope : scope.isOperator = false) :
    b.flush.emitted = Pending.items ops ++ b.emitted ∧ b.flush.pending = scope :: rest :=
  release_append Pending.isOperator hb hops (by simpa using hscope)

/-! ### States as three fields -/

/-- What is passed on determines the names of the inputs. -/
@[ext]
theorem ext {a b : Builder} (hemitted : a.emitted = b.emitted) (hpending : a.pending = b.pending)
    (hprevious : a.previous = b.previous) : a = b := by
  -- The set of names is canonical, so its members determine it.
  have hinputs : a.inputs = b.inputs := by
    apply Std.ExtTreeSet.ext_mem
    intro name
    rw [a.mem_inputs, b.mem_inputs, hemitted]
  cases a
  cases b
  cases hemitted
  cases hpending
  cases hprevious
  cases hinputs
  rfl

/-- The state with these items passed on, last one first, and the names that they read. -/
def of (emitted : List Item) (pending : List Pending) (previous : Previous) : Builder where
  emitted := emitted
  pending := pending
  previous := previous
  inputs := Item.namesIn emitted
  mem_inputs := fun _ => Item.mem_namesIn

@[simp] theorem of_emitted (emitted : List Item) (pending : List Pending) (previous : Previous) :
    (of emitted pending previous).emitted = emitted := rfl

@[simp] theorem of_pending (emitted : List Item) (pending : List Pending) (previous : Previous) :
    (of emitted pending previous).pending = pending := rfl

@[simp] theorem of_previous (emitted : List Item) (pending : List Pending) (previous : Previous) :
    (of emitted pending previous).previous = previous := rfl

/-- Holding something back passes nothing on. -/
theorem hold_eq (p : Pending) (previous : Previous) :
    b.hold p previous = .of b.emitted (p :: b.pending) previous := Builder.ext rfl rfl rfl

/-- An operand is passed on at once. -/
theorem operand_eq (i : Item) : b.operand i = .of (i :: b.emitted) b.pending .value :=
  Builder.ext rfl rfl rfl

/-! ### One token -/

/-- **What one token can do.**  Whatever an operator, a separator or a closing token completes is
    split off as `ops`, the top of what is held back. -/
inductive Step (functions : FunctionTable) : Builder → Token → Builder → Prop
  | whitespace {b : Builder} {s : String} : Step functions b (.whitespace s) b
  | operand {b : Builder} {t : Token} (ht : t.isOperand = true) :
    Step functions b t (.of (.ofOperand t :: b.emitted) b.pending .value)
  | infixOp {b : Builder} {s : String} {ops rest : List Pending} (hv : b.previous = .value)
    (hb : b.pending = ops ++ rest) (hops : ∀ p ∈ ops, p.yieldsTo s = true)
    (hrest : ∀ p ∈ rest.head?, p.yieldsTo s = false) :
    Step functions b (.infixOp s)
      (.of (Pending.items ops ++ b.emitted) (.infixOp s :: rest) .infixOp)
  | prefixOp {b : Builder} {s : String} :
    Step functions b (.prefixOp s) (.of b.emitted (.prefixOp s :: b.pending) .prefixOp)
  | parenOpen {b : Builder} (hv : b.previous ≠ .value) :
    Step functions b .parenOpen (.of b.emitted (.paren :: b.pending) .parenOpen)
  | callOpen {b : Builder} {name : String} {d : FunctionDef}
    (hd : functions.get? name = some d) :
    Step functions b (.callOpen name)
      (.of b.emitted (.call (.start name d) :: b.pending) .callOpen)
  | separator {b : Builder} {s : String} {ops rest : List Pending} {c : OpenCall}
    (hb : b.pending = ops ++ .call c :: rest) (hops : ∀ p ∈ ops, p.isOperator = true) :
    Step functions b (.separator s)
      (.of (b.previous.marker ++ (Pending.items ops ++ b.emitted))
        (.call { c with count := c.count + 1 } :: rest) .separator)
  | closeParen {b : Builder} {t : Token} {ops rest : List Pending} (ht : t.isClose = true)
    (hb : b.pending = ops ++ .paren :: rest) (hops : ∀ p ∈ ops, p.isOperator = true) :
    Step functions b t (.of (Pending.items ops ++ b.emitted) rest .value)
  | closeCall {b : Builder} {t : Token} {ops rest : List Pending} {c : OpenCall} {n : Nat}
    (ht : t.isClose = true) (hb : b.pending = ops ++ .call c :: rest)
    (hops : ∀ p ∈ ops, p.isOperator = true) (hn : argumentCount b.previous c = .ok n)
    (hfits : checkArity c n = .ok ()) :
    Step functions b t
      (.of (.call c.name n :: ((if n = 0 then [] else b.previous.marker) ++
        (Pending.items ops ++ b.emitted))) rest .value)

/-- The completed call, when its arguments are counted and as many as its function takes. -/
theorem closeCall_eq_ok_iff {c : OpenCall} :
    b.closeCall c = .ok b' ↔ ∃ n, argumentCount b.previous c = .ok n ∧
      checkArity c n = .ok () ∧
      b' = .of (.call c.name n :: ((if n = 0 then [] else b.previous.marker) ++ b.emitted))
        b.pending .value := by
  -- The marker is emitted before the call, unless the call has no argument at all.
  have hclosed : ∀ n, (if n = 0 then b else b.markOmitted).operand (.call c.name n) =
      .of (.call c.name n :: ((if n = 0 then [] else b.previous.marker) ++ b.emitted))
        b.pending .value := by
    intro n
    rw [operand_eq]
    split
    · rfl
    · rw [markOmitted_emitted, markOmitted_pending]
  simp only [Builder.closeCall, bind_eq_ok_iff, hclosed, pure, Except.pure, Except.ok.injEq]
  constructor
  · rintro ⟨n, hn, ⟨⟩, hfits, rfl⟩
    exact ⟨n, hn, hfits, rfl⟩
  · rintro ⟨n, hn, hfits, rfl⟩
    exact ⟨n, hn, (), hfits, rfl⟩

/-- The operators of the innermost segment, and what stands below them. -/
theorem exists_segment (b : Builder) :
    ∃ ops rest, b.pending = ops ++ rest ∧ (∀ p ∈ ops, p.isOperator = true) ∧
      (∀ p ∈ rest.head?, p.isOperator = false) ∧
      b.flush = .of (Pending.items ops ++ b.emitted) rest b.previous := by
  obtain ⟨ops, rest, hb, hops, hrest, hem, hpe⟩ := b.exists_release Pending.isOperator
  exact ⟨ops, rest, hb, hops, hrest, Builder.ext hem hpe rfl⟩

/-- The three fields of a state decide whether a token leads to it. -/
theorem Step.congr (h : Step functions b t b') (hemitted : b''.emitted = b'.emitted)
    (hpending : b''.pending = b'.pending) (hprevious : b''.previous = b'.previous) :
    Step functions b t b'' :=
  Builder.ext hemitted hpending hprevious ▸ h

/-- A separator ends an argument of the innermost open bracket, which must be a call. -/
theorem Step.of_separate {n : Nat} {s : String} (h : b.separate n (.separator s) = .ok b') :
    Step functions b (.separator s) b' := by
  obtain ⟨ops, rest, hb, hops, -, hflush⟩ := b.exists_segment
  unfold separate at h
  simp only [hflush, of_pending] at h
  split at h
  · cases h
    exact (Step.separator hb hops).congr markOmitted_emitted rfl rfl
  · cases h

/-- A closing token completes the innermost open bracket, whichever of the two kinds it has. -/
theorem Step.of_close {n : Nat} (ht : t.isClose = true) (h : b.close n = .ok b') :
    Step functions b t b' := by
  obtain ⟨ops, rest, hb, hops, -, hflush⟩ := b.exists_segment
  unfold close at h
  simp only [hflush, of_pending] at h
  -- The bracket on top is a parenthesis, a call, or there is none.
  split at h
  · cases h
    exact (Step.closeParen ht hb hops).congr rfl rfl rfl
  · obtain ⟨k, hk, hfits, rfl⟩ := closeCall_eq_ok_iff.mp h
    exact .closeCall ht hb hops hk hfits
  · cases h

/-- Whatever the builder does with a token is one of the cases of `Step`. -/
theorem Step.of_step {n : Nat} (h : b.step functions n t = .ok b') : Step functions b t b' := by
  cases t with
  | whitespace s =>
    cases h
    exact .whitespace
  | infixOp s =>
    simp only [step] at h
    split at h
    · next hv =>
      cases h
      obtain ⟨ops, rest, hb, hops, hrest, hem, hpe⟩ := b.exists_release (Pending.yieldsTo s)
      -- The operators that the symbol completes are the top of what is held back.
      rw [infixSymbol, hold_eq, hem, hpe]
      exact .infixOp hv hb hops hrest
    · cases h
  | prefixOp s =>
    cases h
    exact hold_eq _ _ ▸ .prefixOp
  | parenOpen =>
    simp only [step] at h
    split at h
    · cases h
    · next hv =>
      cases h
      exact hold_eq _ _ ▸ .parenOpen hv
  | callOpen name =>
    simp only [step, openCall] at h
    split at h
    · cases h
    · next d hd =>
      cases h
      exact hold_eq _ _ ▸ .callOpen hd
  | separator s => exact .of_separate h
  | parenClose | callClose => exact .of_close rfl h
  | unrecognized kind subtype value => cases h
  | logical _ | text _ | number _ | range _ | error _ | omitted =>
    cases h
    exact operand_eq _ ▸ .operand rfl

/-- Operands are passed on wherever they stand. -/
theorem step_operand {n : Nat} (ht : t.isOperand = true) :
    b.step functions n t = .ok (b.operand (.ofOperand t)) := by
  cases t <;> first | rfl | cases ht

theorem step_close {n : Nat} (ht : t.isClose = true) : b.step functions n t = b.close n := by
  cases t <;> first | rfl | cases ht

/-- In each case of `Step` the builder reads the token, wherever it stands. -/
theorem Step.step_eq (h : Step functions b t b') (n : Nat) :
    b.step functions n t = .ok b' := by
  cases h with
  | whitespace => rfl
  | operand ht => rw [step_operand ht, operand_eq]
  -- What is released is what the step splits off, so both forms of the state agree.
  | infixOp hv hb hops hrest =>
    obtain ⟨hem, hpe⟩ := release_append _ hb hops hrest
    simp only [step, if_pos hv, infixSymbol, hold_eq, hem, hpe]
  | prefixOp => simp only [step, hold_eq]
  | parenOpen hv => simp only [step, if_neg hv, hold_eq]
  | callOpen hd => simp only [step, openCall, hd, hold_eq, OpenCall.start]
  | separator hb hops =>
    obtain ⟨hem, hpe⟩ := flush_append hb hops rfl
    simp only [step, separate, hpe, Except.ok.injEq]
    exact Builder.ext (by rw [markOmitted_emitted, hem]; rfl) rfl rfl
  | closeParen ht hb hops =>
    obtain ⟨hem, hpe⟩ := flush_append hb hops rfl
    rw [step_close ht]
    simp only [close, hpe, Except.ok.injEq]
    exact Builder.ext hem rfl rfl
  | closeCall ht hb hops hn hfits =>
    obtain ⟨hem, hpe⟩ := flush_append hb hops rfl
    rw [step_close ht]
    simp only [close, hpe]
    exact closeCall_eq_ok_iff.mpr ⟨_, hn, hfits, by simp only [hem, flush_previous]⟩

/-- The cases of `Step` are those in which a token can be read. -/
theorem step_eq_ok_iff {n : Nat} : b.step functions n t = .ok b' ↔ Step functions b t b' :=
  ⟨.of_step, fun h => h.step_eq n⟩

/-- The builder remembers the last token that is not white-space. -/
theorem Step.previous_eq (h : Step functions b t b') (hb : b.previous = .after ts) :
    b'.previous = .after (ts ++ [t]) := by
  rw [Previous.after_concat]
  cases h with
  | whitespace => exact hb
  | operand ht => cases t <;> first | rfl | cases ht
  | closeParen ht => cases t <;> first | rfl | cases ht
  | closeCall ht => cases t <;> first | rfl | cases ht
  | _ => rfl

/-! ### A sequence of tokens -/

/-- Reading the tokens takes the first state to the second. -/
inductive Reads (functions : FunctionTable) : Builder → List Token → Builder → Prop
  | nil {b : Builder} : Reads functions b [] b
  | cons {b b' b'' : Builder} {t : Token} {ts : List Token} (h : Step functions b t b')
    (hs : Reads functions b' ts b'') : Reads functions b (t :: ts) b''

/-- **The tokens that can be read**, one step after another. -/
theorem read_eq_ok_iff {n : Nat} : b.read functions n ts = .ok b' ↔ Reads functions b ts b' := by
  -- By induction on the tokens, one step each.
  induction ts generalizing b n with
  | nil =>
    simp only [read, Except.ok.injEq]
    constructor
    · rintro rfl
      exact .nil
    · rintro ⟨⟩
      rfl
  | cons t ts ih =>
    simp only [read, bind_eq_ok_iff, step_eq_ok_iff, ih]
    constructor
    · rintro ⟨c, h, hs⟩
      exact .cons h hs
    · rintro ⟨⟩
      next c h hs => exact ⟨c, h, hs⟩

theorem Reads.single (h : Step functions b t b') : Reads functions b [t] b' := .cons h .nil

/-- Tokens that are read one part after the other are read as a whole. -/
theorem Reads.append (h : Reads functions b ts b') (h' : Reads functions b' us b'') :
    Reads functions b (ts ++ us) b'' := by
  induction h with
  | nil => exact h'
  | cons hs _ ih => exact .cons hs (ih h')

/-! ### What does not count in a token -/

/-- The structural form of a token is read like the token. -/
theorem step_structural_iff {u : Token} (h : t.structural? = some u) :
    Step functions b u b' ↔ Step functions b t b' := by
  -- Closing tokens of both kinds go through `close`, which does not look at the token.
  have hclose : ∀ {t u : Token}, t.isClose = true → u.isClose = true →
      Step functions b t b' → Step functions b u b' := by
    intro t u ht hu hs
    have h := hs.step_eq 0
    rw [step_close ht] at h
    rw [← step_eq_ok_iff (n := 0), step_close hu]
    exact h
  have hseparator : ∀ {s s' : String},
      Step functions b (.separator s) b' → Step functions b (.separator s') b' := by
    intro s s' hs
    cases hs with
    | separator hb hops => exact .separator hb hops
    | operand ht => cases ht
    | closeParen ht => cases ht
    | closeCall ht => cases ht
  cases t with
  | whitespace s => cases h
  | separator s =>
    cases h
    exact ⟨hseparator, hseparator⟩
  | parenClose | callClose =>
    cases h
    exact ⟨hclose rfl rfl, hclose rfl rfl⟩
  | _ =>
    cases h
    exact Iff.rfl

/-- White-space is not read at all. -/
theorem step_whitespace_iff (h : t.structural? = none) : Step functions b t b' ↔ b' = b := by
  cases t <;> cases h
  constructor
  · intro hs
    cases hs with
    | whitespace => rfl
    | operand ht => cases ht
    | closeParen ht => cases ht
    | closeCall ht => cases ht
  · rintro rfl
    exact .whitespace

/-- Tokens of the same structure are read alike. -/
theorem reads_structural_iff :
    Reads functions b (ts.filterMap Token.structural?) b' ↔ Reads functions b ts b' := by
  -- By induction on the tokens: white-space leaves the state as it is.
  induction ts generalizing b with
  | nil => exact Iff.rfl
  | cons t ts ih =>
    cases h : t.structural? with
    | none =>
      rw [List.filterMap_cons_none h, ih]
      constructor
      · exact .cons ((step_whitespace_iff h).mpr rfl)
      · rintro ⟨⟩
        next c hs hr => exact (step_whitespace_iff h).mp hs ▸ hr
    | some u =>
      rw [List.filterMap_cons_some h]
      constructor
      · rintro ⟨⟩
        next c hs hr => exact .cons ((step_structural_iff h).mp hs) (ih.mp hr)
      · rintro ⟨⟩
        next c hs hr => exact .cons ((step_structural_iff h).mpr hs) (ih.mpr hr)

/-! ### The end of a formula -/

/-- A formula can end where no bracket is open. -/
theorem finish_eq (b : Builder) :
    b.finish = if ∀ q ∈ b.pending, q.isOperator = true then
      .ok (.ofItems (Pending.items b.pending ++ b.emitted).reverse) else .error .unmatchedOpen := by
  obtain ⟨ops, rest, hb, hops, hrest, hflush⟩ := b.exists_segment
  simp only [finish, hflush, of_pending]
  cases rest with
  | nil =>
    rw [List.append_nil] at hb
    rw [if_pos rfl, if_pos (hb ▸ hops), hb]
    exact congrArg Except.ok (Program.ext rfl)
  | cons q rest =>
    -- What the flush leaves on top is a bracket.
    have hq : ¬ ∀ p ∈ b.pending, p.isOperator = true := by
      intro hall
      have := hall q (by simp [hb])
      simp [hrest q (by simp)] at this
    rw [if_neg (List.cons_ne_nil q rest), if_neg hq]

end Builder

/-- The program of a formula: its tokens can be read, no bracket stays open, and what is held back
    at the end comes last. -/
theorem Program.ofTokens_eq_ok_iff {functions : FunctionTable} {tokens : List Token}
    {p : Program} :
    Program.ofTokens functions tokens = .ok p ↔
      ∃ b, Builder.Reads functions .initial tokens b ∧
        (∀ q ∈ b.pending, q.isOperator = true) ∧
        p = .ofItems (Pending.items b.pending ++ b.emitted).reverse := by
  simp only [Program.ofTokens, bind_eq_ok_iff, Builder.read_eq_ok_iff, Builder.finish_eq]
  -- After the last token only operators may be held back, and they are passed on.
  refine exists_congr fun b => and_congr_right fun _ => ?_
  split
  · next hq =>
    rw [Except.ok.injEq, eq_comm]
    exact (and_iff_right hq).symm
  · next hq => exact iff_of_false nofun fun h => hq h.1

end SheetFormula
