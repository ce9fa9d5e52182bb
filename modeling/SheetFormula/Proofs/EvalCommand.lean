import SheetFormula.CommandLine.Run
import SheetFormula.Proofs.FiniteNumbers
import SheetFormula.Proofs.JsonNumbers
import SheetFormula.Proofs.JsonText

namespace SheetFormula.CommandLine

/-!
# What `eval` prints

A call of `eval` that prints a line has read its files, has evaluated the formula in them, and
prints the result as JSON.

* `Evaluation` — everything that such a call reads and computes (`exists_evaluation`).
* `Evaluation.spellsNonFinite` — an infinite number or a NaN as the result is spelled as a string in
  one of the files.
* `eval_output` — the line that is printed, and when it is null.
-/

variable {read : String → Except String String} {args : List String} {file text : String}
  {inputsFile : Option String}

/-! ### Runs -/

/-- The members of the inputs file, if there is one. -/
def ReadsMembers (read : String → Except String String) (members : List (String × Json.Value)) :
    Option String → Prop
  | none => members = []
  | some name => ∃ text, read name = .ok text ∧ Json.Value.parse? text = some (.object members)

/-- A run of `eval` on these files up to its result. -/
structure Evaluation (read : String → Except String String) (file : String)
    (inputsFile : Option String) where
  /-- The records of the token file. -/
  records : List TokenRecord
  tokens : List Token
  evaluator : Evaluator
  /-- The members of the inputs file. -/
  members : List (String × Json.Value)
  bindings : List (String × Token)
  /-- The final token. -/
  result : Token
  readsRecords : ∃ text, read file = .ok text ∧ Token.recordsOfJson? text = some records
  readsTokens : records.mapM Token.ofRecord = .ok tokens
  builds : Evaluator.ofTokensBuiltin tokens = .ok evaluator
  readsMembers : ReadsMembers read members inputsFile
  readsBindings : members.mapM (fun m => bindingOfJson m.1 m.2) = .ok bindings
  evaluates : evaluator.evaluateToken (inputsOfList bindings) = .ok result

section

variable {ε α β : Type}

/-- A computation in two parts succeeds if both parts do. -/
theorem run_bind_eq_ok {x : ExceptT ε Id α} {f : α → ExceptT ε Id β} {b : β}
    (h : (x >>= f).run = Except.ok b) : ∃ a, x.run = Except.ok a ∧ (f a).run = Except.ok b := by
  cases x with
  | error e => cases h
  | ok a => exact ⟨a, rfl, h⟩

end

/-- A file that could be read has the text that is read. -/
theorem textOf_eq_ok (h : (textOf (m := Id) read file).run = Except.ok text) :
    read file = .ok text := by
  unfold textOf at h
  obtain ⟨r, hr, hrest⟩ := run_bind_eq_ok h
  cases hr
  cases hread : read file with
  | error reason =>
    rw [hread] at hrest
    cases hrest
  | ok t =>
    rw [hread] at hrest
    cases hrest
    rfl

/-- The evaluator that is loaded is that of the tokens in the file. -/
theorem load_eq_ok {ev : Evaluator} (h : (load (m := Id) read file).run = Except.ok ev) :
    ∃ text records tokens, read file = .ok text ∧ Token.recordsOfJson? text = some records ∧
      records.mapM Token.ofRecord = .ok tokens ∧ Evaluator.ofTokensBuiltin tokens = .ok ev := by
  -- Loading is reading the file, decoding the records, taking them as tokens and building.
  obtain ⟨text, htext, hev⟩ := run_bind_eq_ok h
  have hevaluator : evaluatorOfText file text = .ok ev := hev
  unfold evaluatorOfText at hevaluator
  split at hevaluator
  · cases hevaluator
  next tokens htokens =>
  split at hevaluator
  · cases hevaluator
  next ev' hbuilt =>
  cases hevaluator
  unfold Token.listOfJson at htokens
  split at htokens
  · next records hrecords =>
    exact ⟨text, records, tokens, textOf_eq_ok htext, hrecords, htokens, hbuilt⟩
  · cases htokens

/-- Inputs are the members of an object, each with a token of its own. -/
theorem bindingsOfText_eq_ok {bindings : List (String × Token)}
    (h : bindingsOfText file text = .ok bindings) :
    ∃ members, Json.Value.parse? text = some (.object members) ∧
      members.mapM (fun m => bindingOfJson m.1 m.2) = .ok bindings := by
  unfold bindingsOfText at h
  split at h
  · cases h
  · next members hmembers => exact ⟨members, hmembers, h⟩
  · cases h

/-- What is printed is the JSON text of the scalar that the formula yields. -/
theorem printValue_eq_ok {ev : Evaluator} {inputs : Inputs} (h : printValue ev inputs = .ok text) :
    ∃ t s, ev.evaluateToken inputs = .ok t ∧ t.scalar? = some s ∧
      text = s.toJson.render ++ "\n" := by
  unfold printValue at h
  split at h
  · cases h
  next t ht =>
  split at h
  · cases h
  next s hs =>
  cases h
  exact ⟨t, s, ht, hs, rfl⟩

/-- What a call prints comes from its command. -/
theorem run_eq_ok {c : Command} (hargs : Command.ofArguments args = .ok c)
    (hout : (outcome (m := Id) read args).run = .printed text) :
    (c.run (m := Id) read).run = Except.ok text := by
  -- Without a monad the call is a case distinction on what the command leads to.
  have hmatch : (match (c.run (m := Id) read).run with
      | Except.ok text => Outcome.printed text
      | Except.error f => Outcome.failed f) = .printed text := by
    rw [← hout]
    unfold outcome
    rw [hargs]
    rfl
  split at hmatch
  · next t ht =>
    cases hmatch
    exact ht
  · cases hmatch

/-- **A call that prints a line** has read and evaluated its files, and prints the result. -/
theorem exists_evaluation (hargs : Command.ofArguments args = .ok (.eval file inputsFile))
    (hout : (outcome (m := Id) read args).run = .printed text) :
    ∃ (e : Evaluation read file inputsFile) (s : Scalar), e.result.scalar? = some s ∧
      text = s.toJson.render ++ "\n" := by
  have hrun := run_eq_ok hargs hout
  -- Without a file of inputs no name is bound.
  cases inputsFile with
  | none =>
    obtain ⟨ev, hload, hprint⟩ := run_bind_eq_ok hrun
    obtain ⟨tokensText, records, tokens, hread, hrecords, htokens, hbuilt⟩ := load_eq_ok hload
    obtain ⟨t, s, ht, hs, htext⟩ := printValue_eq_ok hprint
    exact ⟨⟨records, tokens, ev, [], [], t, ⟨tokensText, hread, hrecords⟩, htokens, hbuilt, rfl,
      rfl, ht⟩, s, hs, htext⟩
  | some name =>
    obtain ⟨ev, hload, hrest⟩ := run_bind_eq_ok hrun
    obtain ⟨inputsText, hinputs, hrest⟩ := run_bind_eq_ok hrest
    obtain ⟨bindings, hbindings, hprint⟩ := run_bind_eq_ok hrest
    obtain ⟨tokensText, records, tokens, hread, hrecords, htokens, hbuilt⟩ := load_eq_ok hload
    obtain ⟨members, hmembers, hbound⟩ := bindingsOfText_eq_ok hbindings
    obtain ⟨t, s, ht, hs, htext⟩ := printValue_eq_ok hprint
    exact ⟨⟨records, tokens, ev, members, bindings, t, ⟨tokensText, hread, hrecords⟩, htokens,
      hbuilt, ⟨inputsText, textOf_eq_ok hinputs, hmembers⟩, hbound, ht⟩, s, hs, htext⟩

/-! ### Results that are not finite -/

namespace Evaluation

/-- A record of the token file, or of a member of the inputs file. -/
def HasRecord (e : Evaluation read file inputsFile) (r : TokenRecord) : Prop :=
  r ∈ e.records ∨ ∃ m ∈ e.members, TokenRecord.ofValue? m.2 = some r

variable (e : Evaluation read file inputsFile)

/-- The numbers of a document that was read are finite, so those in its members are. -/
theorem finiteNumbers_members : ∀ m ∈ e.members, m.2.FiniteNumbers := by
  have hread := e.readsMembers
  cases inputsFile with
  | none =>
    rw [show e.members = [] from hread]
    exact List.forall_mem_nil _
  | some name =>
    obtain ⟨text, -, hmembers⟩ := hread
    cases Json.Value.finiteNumbers_of_parse? hmembers with
    | object h => exact h

/-- Every token of the formula, and every token bound to an input, is made of a record. -/
theorem exists_record {t : Token}
    (h : t ∈ e.tokens ∨ ∃ name, inputsOfList e.bindings name = some t) :
    ∃ r, e.HasRecord r ∧ r.value.FiniteNumbers ∧ Token.ofRecord r = .ok t := by
  -- A token comes from the file of tokens, and a binding from a member of the other file.
  rcases h with hmem | ⟨name, hname⟩
  · obtain ⟨r, hr, ht⟩ := exists_of_mapM_eq_ok e.readsTokens hmem
    obtain ⟨text, -, hrecords⟩ := e.readsRecords
    exact ⟨r, .inl hr, TokenRecord.finiteNumbers_of_recordsOfJson? hrecords r hr, ht⟩
  · obtain ⟨before, after, hsplit, -⟩ := List.lookup_eq_some_iff.mp hname
    have hbinding : (name, t) ∈ e.bindings := by simp [hsplit]
    obtain ⟨m, hm, hbound⟩ := exists_of_mapM_eq_ok e.readsBindings hbinding
    have htoken : Token.ofJson m.2 = .ok t := by
      unfold bindingOfJson at hbound
      split at hbound
      · cases hbound
      · next u hu =>
        cases hbound
        exact hu
    unfold Token.ofJson at htoken
    split at htoken
    · next r hr =>
      exact ⟨r, .inr ⟨m, hm, hr⟩,
        TokenRecord.finiteNumbers_ofValue? (e.finiteNumbers_members m hm) hr, htoken⟩
    · cases htoken

/-- **An infinite number or a NaN as the result** is spelled as a string in one of the files. -/
theorem spellsNonFinite (h : e.result.isNonFinite = true) :
    ∃ r, e.HasRecord r ∧ r.SpellsNonFinite e.result := by
  -- No operator and no function has made the number, so it was read from a record.
  obtain ⟨r, hr, hv, ht⟩ :=
    e.exists_record (Evaluator.isNonFinite_source e.builds e.evaluates h)
  cases hresult : e.result with
  | number n =>
    rw [hresult] at ht h
    have hn : n.isFinite = false := by simpa [Token.isNonFinite] using h
    exact ⟨r, hr, Token.spellsNonFinite_of_ofRecord hv ht hn⟩
  | _ =>
    rw [hresult] at h
    cases h

end Evaluation

/-! ### The line that is printed -/

/-- Nothing but an omitted argument and a number that is not finite is shown as null. -/
theorem eq_null_iff {tree : Json.Tree} {s : Scalar} {t : Token} (hshows : tree.Shows s)
    (hscalar : t.scalar? = some s) : tree = .null ↔ t = .omitted ∨ t.isNonFinite = true := by
  -- Each scalar shows as one kind of tree, and among these only two are null.
  cases t with
  | number n =>
    cases hscalar
    cases hshows with
    | int h => simp [Token.isNonFinite, Number.isFinite]
    | float l h => simp [Token.isNonFinite, Number.isFinite, h]
    | nonFinite h => simp [Token.isNonFinite, Number.isFinite, h]
  | logical b =>
    cases hscalar
    cases hshows
    simp [Token.isNonFinite]
  | text u =>
    cases hscalar
    cases hshows
    simp [Token.isNonFinite]
  | error x =>
    cases hscalar
    cases hshows
    simp [Token.isNonFinite]
  | omitted =>
    cases hscalar
    cases hshows
    simp
  | _ => cases hscalar

/-- **The output of `eval`.**  The line that is printed is a JSON text.  A finite number is printed
    as a number, a truth value as itself, and a text and the code of an error as strings that stand
    for them.  The line is null exactly if the final token is an omitted argument, or a number that
    is infinite or a NaN; and such a number is spelled as a string by a record of the token file or
    of the inputs file.  So null is printed for no number if the files spell none of this kind. -/
theorem eval_output (hargs : Command.ofArguments args = .ok (.eval file inputsFile))
    (hout : (outcome (m := Id) read args).run = .printed text) :
    ∃ (e : Evaluation read file inputsFile) (tree : Json.Tree),
      Json.Tree.parse? text = some tree ∧
      (tree = .null ↔ e.result = .omitted ∨ e.result.isNonFinite = true) ∧
      (∀ n, e.result = .number n → n.isFinite = true → ∃ l, tree = .number l) ∧
      (∀ b, e.result = .logical b → tree = .logical b) ∧
      (∀ s, e.result = .text s → ∃ ps, tree = .string ps ∧ Json.textOfParts? ps = some s) ∧
      (∀ x, e.result = .error x →
        ∃ ps, tree = .string ps ∧ Json.textOfParts? ps = some x.code.text) ∧
      (e.result.isNonFinite = true → ∃ r, e.HasRecord r ∧ r.SpellsNonFinite e.result) := by
  obtain ⟨e, s, hscalar, rfl⟩ := exists_evaluation hargs hout
  obtain ⟨tree, htree, hshows⟩ := s.shows_toJson
  -- What is printed is the scalar of the result, so the tree is read off from its class.
  refine ⟨e, tree, htree, eq_null_iff hshows hscalar, ?_, ?_, ?_, ?_, e.spellsNonFinite⟩
  · intro n hn hfinite
    rw [hn] at hscalar
    cases hscalar
    cases hshows with
    | int h => exact ⟨_, rfl⟩
    | float l h => exact ⟨l, rfl⟩
    | nonFinite h =>
      rw [show Number.isFinite (.float _) = _ from h] at hfinite
      cases hfinite
  · intro b hb
    rw [hb] at hscalar
    cases hscalar
    cases hshows
    rfl
  · intro u hu
    rw [hu] at hscalar
    cases hscalar
    cases hshows with
    | text h => exact ⟨_, rfl, h⟩
  · intro x hx
    rw [hx] at hscalar
    cases hscalar
    cases hshows with
    | error h => exact ⟨_, rfl, h⟩

/-- A token file with an operand that spells a number beyond all doubles as a string. -/
def overflowingText : String := "[[\"OPERAND\",\"NUMBER\",\"1e999\"]]"

/-- Null is printed for that operand, though it is a number. -/
theorem eval_null_of_overflow :
    (outcome (m := Id) (fun _ => .ok overflowingText) ["eval", "t.json"]).run = .printed "null\n" ∧
      (evaluatorOfText "t.json" overflowingText).toOption.bind
        (fun ev => (ev.evaluateToken fun _ => none).toOption) =
          some (.number (.float Binary64.infinity)) := by
  decide +kernel

/-- The files of a formula that reads the input `x`, which is spelled as minus infinity. -/
def infiniteInput (name : String) : Except String String :=
  if name = "i.json" then .ok "\x7b\"x\":[\"OPERAND\",\"NUMBER\",\" -inf\"]\x7d"
  else .ok "[[\"OPERAND\",\"RANGE\",\"x\"]]"

/-- Null is printed for that input, and a record that spells an infinite number is the reason. -/
theorem eval_output_infiniteInput :
    (outcome (m := Id) infiniteInput ["eval", "t.json", "--inputs=i.json"]).run =
        .printed "null\n" ∧
      ∃ e : Evaluation infiniteInput "t.json" (some "i.json"), e.result = .omitted ∨
        ∃ r, e.HasRecord r ∧ r.SpellsNonFinite e.result := by
  have hout : (outcome (m := Id) infiniteInput ["eval", "t.json", "--inputs=i.json"]).run =
      .printed "null\n" := by decide +kernel
  have hargs : Command.ofArguments ["eval", "t.json", "--inputs=i.json"] =
      .ok (.eval "t.json" (some "i.json")) := rfl
  refine ⟨hout, ?_⟩
  obtain ⟨e, tree, htree, hnull, -, -, -, -, hsource⟩ := eval_output hargs hout
  rw [Json.Tree.parse?_null] at htree
  cases htree
  exact ⟨e, (hnull.mp rfl).imp_right hsource⟩

end SheetFormula.CommandLine
