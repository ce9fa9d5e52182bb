import SheetFormula.Function.Table
import SheetFormula.Proofs.ByteOrder
import SheetFormula.Proofs.MapHistory

namespace SheetFormula

/-!
# Histories of tables

Operator tables and function tables are maps, whatever has been done to them: what stands under a
symbol or a name is what the last call that names it has put there.

* `Action` — what can be done in a session with several tables: one of them is changed, or a copy of
  one takes a name.  `lineage` is what a table has gone through, and by `tablesAfter_eq` the table
  depends on nothing else.
* `OperatorTable.Tracks` and `FunctionTable.Tracks` — the invariants, kept by each change.
* `OperatorTable.Records` and `FunctionTable.Records` — all that a table shows of its history.
* `tables_record_lineage` — each table of each session shows its lineage.
-/

open Text (utf8Bytes utf8Bytes_lt)

/-! ### Sessions -/

/-- What happens in a session.  Its tables have names. -/
inductive Action (γ : Type)
  | change (name : String) (c : γ)
  /-- A copy of one table takes the name of another. -/
  | clone (source target : String)

section
variable {τ γ : Type}

/-- The tables after an action, given how a change is applied. -/
def Action.perform (apply : τ → γ → τ) (tables : String → τ) : Action γ → String → τ
  | change name c => fun n => if n = name then apply (tables n) c else tables n
  | clone source target => fun n => if n = target then tables source else tables n

/-- The tables of a session, the last action first.  All of them begin alike. -/
def tablesAfter (apply : τ → γ → τ) (start : τ) (actions : List (Action γ)) : String → τ :=
  actions.foldr (fun a tables => a.perform apply tables) fun _ => start

/-- The changes that a table has gone through, the last one first.  A copy has those of its source
    up to the moment it was made, and what is done to one of the two afterwards is not done to the
    other. -/
def lineage : List (Action γ) → String → List γ
  | [], _ => []
  | .change name c :: earlier, n =>
    if n = name then c :: lineage earlier n else lineage earlier n
  | .clone source target :: earlier, n => lineage earlier (if n = target then source else n)

/-- **Tables are independent.**  A table is what its own changes have made of it. -/
theorem tablesAfter_eq (apply : τ → γ → τ) (start : τ) (actions : List (Action γ))
    (name : String) : tablesAfter apply start actions name =
      (lineage actions name).foldr (fun c t => apply t c) start := by
  -- By induction on the session, for all names at once: a clone continues the lineage of another
  -- one.
  induction actions generalizing name with
  | nil => rfl
  | cons a earlier ih =>
    rw [tablesAfter, List.foldr_cons]
    cases a with
    | change n c =>
      simp only [Action.perform, lineage]
      split
      · rw [List.foldr_cons, ← ih]
        rfl
      · exact ih name
    | clone source target =>
      simp only [Action.perform, lineage]
      split
      · exact ih source
      · exact ih name

end

/-- The two tables with which a session can start. -/
inductive Start
  | empty
  | builtin

/-- The keys of a map are listed in ascending order of their bytes. -/
theorem keys_ascending {β : Type} (m : Std.TreeMap String β) :
    m.keys.Pairwise fun a b => utf8Bytes a < utf8Bytes b :=
  m.ordered_keys.imp fun h => utf8Bytes_lt (compareOfLessAndEq_eq_lt.mp h)

/-! ### Operator tables -/

namespace OperatorTable

/-- A change of an operator table. -/
inductive Change
  | register (symbols : List String) (op : InfixOperator)
  | registerPrefix (symbols : List String) (op : PrefixOperator)
  | unregister (symbol : String)

def apply (t : OperatorTable) : Change → OperatorTable
  | .register symbols op => t.register symbols op
  | .registerPrefix symbols op => t.registerPrefix symbols op
  | .unregister symbol => (t.remove symbol).2

/-- What a change does to the infix operators. -/
def Change.infixEdit? : Change → Option (Edit InfixOperator)
  | register symbols op => some (.put symbols op)
  | registerPrefix .. => none
  | unregister symbol => some (.erase symbol)

/-- What a change does to the prefix operators. -/
def Change.prefixEdit? : Change → Option (Edit PrefixOperator)
  | registerPrefix symbols op => some (.put symbols op)
  | register .. | unregister _ => none

def infixEdits (history : List Change) : List (Edit InfixOperator) :=
  history.filterMap Change.infixEdit?

def prefixEdits (history : List Change) : List (Edit PrefixOperator) :=
  history.filterMap Change.prefixEdit?

def ofStart : Start → OperatorTable
  | .empty => .empty
  | .builtin => .builtin

/-- The changes that make the table with which a session starts. -/
def startHistory : Start → List Change
  | .empty => []
  | .builtin =>
    [.registerPrefix ["+"] (Operator.numericPrefix id),
      .registerPrefix ["-"] (Operator.numericPrefix (- ·)),
      .register ["^"] (Operator.numeric (· ^ ·)),
      .register ["/"] Operator.divide,
      .register ["*"] (Operator.numeric (· * ·)),
      .register ["-"] (Operator.numeric (· - ·)),
      .register ["+"] (Operator.numeric (· + ·)),
      .register ["&"] Operator.concat,
      .register [">="] Operator.greaterOrEqual,
      .register ["<="] Operator.lessOrEqual,
      .register [">"] Operator.greater,
      .register ["<"] Operator.less,
      .register ["<>", "!="] Operator.notEqual,
      .register ["=", "=="] Operator.equal]

/-- The table of a start has a history as well, so a session is one history. -/
theorem ofStart_eq (start : Start) :
    ofStart start = (startHistory start).foldr (fun c t => t.apply c) empty := by
  cases start <;> rfl

/-- **What a table shows of its history.**  Infix operators depend on nothing that is done to prefix
    operators, and the other way round. -/
structure Records (t : OperatorTable) (history : List Change) : Prop where
  get? : ∀ s op, t.get? s = some op ↔ LastPut (infixEdits history) [s] op
  getPrefix? : ∀ s op, t.getPrefix? s = some op ↔ LastPut (prefixEdits history) [s] op
  /-- Two symbols share their operator if one call has registered it for both, and neither has been
      registered anew or removed since. -/
  shares : ∀ a b, t.sharesOperator? a b = some true ↔ ∃ op, LastPut (infixEdits history) [a, b] op
  sharesPrefix : ∀ (a b : String) (r r' : Registration PrefixOperator), t.prefixOps[a]? = some r →
    t.prefixOps[b]? = some r' → (r.stamp = r'.stamp ↔ ∃ op, LastPut (prefixEdits history) [a, b] op)
  /-- The answer of a removal. -/
  remove : ∀ s, (t.remove s).1 = true ↔ ∃ op, LastPut (infixEdits history) [s] op
  ascending : t.symbols.Pairwise fun a b => utf8Bytes a < utf8Bytes b
  mem_symbols : ∀ s, s ∈ t.symbols ↔ ∃ op, LastPut (infixEdits history) [s] op

/-- Both kinds of operators follow the history, and no stamp is given twice. -/
structure Tracks (t : OperatorTable) (history : List Change) : Prop where
  infixOps : Follows t.infixOps (·.operator) (infixEdits history)
  prefixOps : Follows t.prefixOps (·.operator) (prefixEdits history)
  infixStamps : Stamped t.infixOps t.nextStamp (infixEdits history)
  prefixStamps : Stamped t.prefixOps t.nextStamp (prefixEdits history)

variable {t : OperatorTable} {history : List Change}

/-- **One change.** -/
theorem Tracks.apply (h : t.Tracks history) (c : Change) : (t.apply c).Tracks (c :: history) := by
  cases c with
  | register symbols op =>
    exact ⟨h.infixOps.put symbols ⟨t.nextStamp, op⟩, h.prefixOps, h.infixStamps.put symbols op,
      h.prefixStamps.mono (Nat.le_succ _)⟩
  | registerPrefix symbols op =>
    exact ⟨h.infixOps, h.prefixOps.put symbols ⟨t.nextStamp, op⟩,
      h.infixStamps.mono (Nat.le_succ _), h.prefixStamps.put symbols op⟩
  | unregister symbol =>
    exact ⟨h.infixOps.erase symbol, h.prefixOps, h.infixStamps.erase symbol, h.prefixStamps⟩

/-- **All changes.**  By induction on the history. -/
theorem tracks_history (history : List Change) :
    (history.foldr (fun c t => t.apply c) empty).Tracks history := by
  induction history with
  | nil => exact ⟨follows_nil, follows_nil, stamped_nil, stamped_nil⟩
  | cons c earlier ih => exact ih.apply c

/-- Two symbols share their operator if one registration put in both, and neither has changed
    since. -/
theorem Tracks.sharesOperator?_eq_true_iff (h : t.Tracks history) (a b : String) :
    t.sharesOperator? a b = some true ↔ ∃ op, LastPut (infixEdits history) [a, b] op := by
  -- What one call has registered under both symbols stands under each of them.
  have hboth : (∃ op, LastPut (infixEdits history) [a, b] op) →
      ∃ r r', t.infixOps[a]? = some r ∧ t.infixOps[b]? = some r' := by
    rintro ⟨op, hop⟩
    obtain ⟨r, hr, -⟩ := Option.map_eq_some_iff.mp ((h.infixOps a op).mpr (hop.single (by simp)))
    obtain ⟨r', hr', -⟩ := Option.map_eq_some_iff.mp ((h.infixOps b op).mpr (hop.single (by simp)))
    exact ⟨r, r', hr, hr'⟩
  unfold sharesOperator?
  split
  · next r r' hr hr' =>
    rw [Option.some.injEq, beq_iff_eq]
    exact h.infixStamps.together a b r r' hr hr'
  · next hnone =>
    refine iff_of_false (by simp) fun hshared => ?_
    obtain ⟨r, r', hr, hr'⟩ := hboth hshared
    exact hnone r r' hr hr'

/-- The history tells what every query answers. -/
theorem Tracks.records (h : t.Tracks history) : t.Records history where
  get? := h.infixOps
  getPrefix? := h.prefixOps
  shares := h.sharesOperator?_eq_true_iff
  sharesPrefix := h.prefixStamps.together
  remove _ := by
    rw [← h.infixOps.mem_keys_iff, Std.TreeMap.mem_keys]
    exact Std.TreeMap.contains_iff_mem
  ascending := keys_ascending t.infixOps
  mem_symbols _ := h.infixOps.mem_keys_iff

end OperatorTable

/-! ### Function tables -/

namespace FunctionTable

/-- A change of a function table. -/
inductive Change
  | register (d : FunctionDef)
  | unregister (name : String)

def apply (t : FunctionTable) : Change → FunctionTable
  | .register d => t.register d
  | .unregister name => (t.remove name).2

/-- What a change does to the definitions: each is put under its own name. -/
def Change.edit : Change → Edit FunctionDef
  | register d => .put [d.name] d
  | unregister name => .erase name

def edits (history : List Change) : List (Edit FunctionDef) := history.map Change.edit

def ofStart : Start → FunctionTable
  | .empty => .empty
  | .builtin => .builtin

/-- The changes that make the table with which a session starts. -/
def startHistory : Start → List Change
  | .empty => []
  | .builtin =>
    [.register ⟨"SEARCH(", some [.required, .required], Function.search⟩,
      .register ⟨"RIGHT(", some [.required, .optional (.ofInt 1)], Function.right⟩,
      .register ⟨"LEFT(", some [.required, .optional (.ofInt 1)], Function.left⟩,
      .register ⟨"LEN(", some [.required], Function.len⟩,
      .register ⟨"ISERROR(", some [.required], Function.isError⟩,
      .register ⟨"NOT(", some [.required], Function.not⟩]

/-- The table of a start has a history as well. -/
theorem ofStart_eq (start : Start) :
    ofStart start = (startHistory start).foldr (fun c t => t.apply c) empty := by
  cases start <;> rfl

/-- **What a table shows of its history.** -/
structure Records (t : FunctionTable) (history : List Change) : Prop where
  get? : ∀ name d, t.get? name = some d ↔ LastPut (edits history) [name] d
  /-- Each definition stands under its own name. -/
  name_eq : ∀ name d, t.get? name = some d → d.name = name
  contains : ∀ name, t.contains name = true ↔ ∃ d, LastPut (edits history) [name] d
  /-- The answer of a removal. -/
  remove : ∀ name d, (t.remove name).1 = some d ↔ LastPut (edits history) [name] d
  ascending : t.names.Pairwise fun a b => utf8Bytes a < utf8Bytes b
  mem_names : ∀ name, name ∈ t.names ↔ ∃ d, LastPut (edits history) [name] d

variable {t : FunctionTable} {history : List Change}

/-- The definitions follow the history. -/
def Tracks (t : FunctionTable) (history : List Change) : Prop :=
  Follows t.definitions id (edits history)

/-- **One change.** -/
theorem Tracks.apply (h : t.Tracks history) (c : Change) : (t.apply c).Tracks (c :: history) := by
  cases c with
  | register d => exact Follows.put h [d.name] d
  | unregister name => exact Follows.erase h name

/-- **All changes.**  By induction on the history. -/
theorem tracks_history (history : List Change) :
    (history.foldr (fun c t => t.apply c) empty).Tracks history := by
  induction history with
  | nil => exact follows_nil
  | cons c earlier ih => exact ih.apply c

/-- Only its own name names a definition. -/
theorem name_eq_of_lastPut {name : String} {d : FunctionDef}
    (h : LastPut (edits history) [name] d) : d.name = name := by
  obtain ⟨later, aliases, earlier, hedits, hname, -⟩ := h
  -- A registration puts a function in under the name that it has itself.
  have hmem : Edit.put aliases d ∈ history.map Change.edit := by
    rw [← edits, hedits]
    simp
  obtain ⟨c, -, hc⟩ := List.mem_map.mp hmem
  cases c with
  | register d' =>
    cases hc
    simpa [eq_comm] using hname
  | unregister name' => cases hc

/-- A function is found if it was put in last under this name. -/
theorem Tracks.get?_eq_some_iff (h : t.Tracks history) (name : String) (d : FunctionDef) :
    t.get? name = some d ↔ LastPut (edits history) [name] d := by
  rw [← h name d, Option.map_id, id, get?]

/-- The history tells what every query answers. -/
theorem Tracks.records (h : t.Tracks history) : t.Records history where
  get? := h.get?_eq_some_iff
  name_eq name d hd := name_eq_of_lastPut ((h.get?_eq_some_iff name d).mp hd)
  contains _ := by
    rw [← Follows.mem_keys_iff h, Std.TreeMap.mem_keys]
    exact Std.TreeMap.contains_iff_mem
  remove := h.get?_eq_some_iff
  ascending := keys_ascending t.definitions
  mem_names _ := Follows.mem_keys_iff h

end FunctionTable

/-- **Tables are maps, after any history.**  In each session with operator tables that start as the
    empty or the built-in one, and in each with function tables, every table shows what is left of
    the changes it has gone through itself: for each symbol or name, what the last call that names
    it has put there, unless it was removed since. -/
theorem tables_record_lineage :
    (∀ (start : Start) (actions : List (Action OperatorTable.Change)) (name : String),
      (tablesAfter OperatorTable.apply (.ofStart start) actions name).Records
        (lineage actions name ++ OperatorTable.startHistory start)) ∧
    ∀ (start : Start) (actions : List (Action FunctionTable.Change)) (name : String),
      (tablesAfter FunctionTable.apply (.ofStart start) actions name).Records
        (lineage actions name ++ FunctionTable.startHistory start) := by
  constructor
  · intro start actions name
    rw [tablesAfter_eq, OperatorTable.ofStart_eq, ← List.foldr_append]
    exact (OperatorTable.tracks_history _).records
  · intro start actions name
    rw [tablesAfter_eq, FunctionTable.ofStart_eq, ← List.foldr_append]
    exact (FunctionTable.tracks_history _).records

/-- A symbol that is registered anew in a copy: there `=` and `==` no longer share their operator,
    and in the original they do. -/
example :
    let tables := tablesAfter OperatorTable.apply .builtin
      [.change "copy" (.register ["=="] Operator.notEqual), .clone "table" "copy"]
    (tables "copy").sharesOperator? "=" "==" = some false ∧
      (tables "table").sharesOperator? "=" "==" = some true := by
  decide +kernel

end SheetFormula
