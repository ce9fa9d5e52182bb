import SheetFormula.Operator.Basic
import Std.Data.TreeMap

namespace SheetFormula

/-!
# Operator tables

An operator table maps symbols to operators, infix and prefix operators apart.  One operator can
be registered under several symbols at once; `sharesOperator?` says whether two symbols were
given their operator by one registration.
-/

/-- An operator in a table. -/
structure Registration (α : Type) where
  /-- Tells the registrations of a table apart. -/
  stamp : Nat
  operator : α

structure OperatorTable where
  infixOps : Std.TreeMap String (Registration InfixOperator)
  prefixOps : Std.TreeMap String (Registration PrefixOperator)
  /-- The stamp of the next registration. -/
  nextStamp : Nat

namespace OperatorTable

/-- The table without operators. -/
def empty : OperatorTable := ⟨∅, ∅, 0⟩

/-! ### Looking up -/

/-- The infix operator with this symbol. -/
def get? (t : OperatorTable) (symbol : String) : Option InfixOperator :=
  t.infixOps[symbol]?.map (·.operator)

/-- The prefix operator with this symbol. -/
def getPrefix? (t : OperatorTable) (symbol : String) : Option PrefixOperator :=
  t.prefixOps[symbol]?.map (·.operator)

/-- The result of an infix operator; none if the symbol is not registered. -/
def applyInfix? (t : OperatorTable) (symbol : String) (a b : Token) : Option Token :=
  (t.get? symbol).map fun op => op a b

/-- The result of a prefix operator; none if the symbol is not registered. -/
def applyPrefix? (t : OperatorTable) (symbol : String) (a : Token) : Option Token :=
  (t.getPrefix? symbol).map fun op => op a

/-- The infix symbols in ascending order. -/
def symbols (t : OperatorTable) : List String := t.infixOps.keys

/-- The prefix symbols in ascending order. -/
def prefixSymbols (t : OperatorTable) : List String := t.prefixOps.keys

/-- Do two infix symbols have their operator from the same registration?  None if one of them
    has no operator. -/
def sharesOperator? (t : OperatorTable) (a b : String) : Option Bool :=
  match t.infixOps[a]?, t.infixOps[b]? with
  | some x, some y => some (x.stamp == y.stamp)
  | _, _ => none

/-! ### Changing -/

/-- Registers an infix operator under each of the symbols. -/
def register (t : OperatorTable) (symbols : List String) (op : InfixOperator) : OperatorTable :=
  { t with
    infixOps := symbols.foldl (fun m s => m.insert s ⟨t.nextStamp, op⟩) t.infixOps
    nextStamp := t.nextStamp + 1 }

/-- Registers a prefix operator under each of the symbols. -/
def registerPrefix (t : OperatorTable) (symbols : List String) (op : PrefixOperator) :
    OperatorTable :=
  { t with
    prefixOps := symbols.foldl (fun m s => m.insert s ⟨t.nextStamp, op⟩) t.prefixOps
    nextStamp := t.nextStamp + 1 }

/-- Removes an infix symbol. -/
def unregister (t : OperatorTable) (symbol : String) : OperatorTable :=
  { t with infixOps := t.infixOps.erase symbol }

/-- Is an infix operator registered under the symbol? -/
def contains (t : OperatorTable) (symbol : String) : Bool := t.infixOps.contains symbol

/-- Removes an infix symbol, and says whether it was registered. -/
def remove (t : OperatorTable) (symbol : String) : Bool × OperatorTable :=
  (t.contains symbol, t.unregister symbol)

/-- The operators of this library. -/
def builtin : OperatorTable :=
  empty
    |>.register ["=", "=="] Operator.equal
    |>.register ["<>", "!="] Operator.notEqual
    |>.register ["<"] Operator.less
    |>.register [">"] Operator.greater
    |>.register ["<="] Operator.lessOrEqual
    |>.register [">="] Operator.greaterOrEqual
    |>.register ["&"] Operator.concat
    |>.register ["+"] (Operator.numeric (· + ·))
    |>.register ["-"] (Operator.numeric (· - ·))
    |>.register ["*"] (Operator.numeric (· * ·))
    |>.register ["/"] Operator.divide
    |>.register ["^"] (Operator.numeric (· ^ ·))
    |>.registerPrefix ["-"] (Operator.numericPrefix (- ·))
    |>.registerPrefix ["+"] (Operator.numericPrefix id)

/-! ### What changes do -/

/-- A value inserted under several keys is found under each of them. -/
theorem getElem?_foldl_insert {α : Type} (symbols : List String) (x : α)
    (m : Std.TreeMap String α) (s : String) :
    (symbols.foldl (fun m s => m.insert s x) m)[s]? = if s ∈ symbols then some x else m[s]? := by
  induction symbols generalizing m with
  | nil => simp
  | cons a as ih =>
    simp only [List.foldl_cons, ih, Std.TreeMap.getElem?_insert, List.mem_cons,
      Std.LawfulEqCmp.compare_eq_iff_eq]
    by_cases h : s ∈ as
    · simp [h]
    · by_cases ha : a = s
      · simp [ha]
      · simp [h, ha, Ne.symm ha]

/-- Registering an operator changes what is found under its symbols, and nothing else. -/
theorem get?_register (t : OperatorTable) (symbols : List String) (op : InfixOperator)
    (s : String) :
    (t.register symbols op).get? s = if s ∈ symbols then some op else t.get? s := by
  simp only [get?, register, getElem?_foldl_insert]
  split <;> rfl

/-- Nothing is found under a symbol that was removed; all others are left alone. -/
theorem get?_unregister (t : OperatorTable) (symbol s : String) :
    (t.unregister symbol).get? s = if symbol = s then none else t.get? s := by
  simp only [get?, unregister, Std.TreeMap.getElem?_erase, Std.LawfulEqCmp.compare_eq_iff_eq]
  split <;> rfl

end OperatorTable

end SheetFormula
