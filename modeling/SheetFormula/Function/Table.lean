import SheetFormula.Function.Logical
import SheetFormula.Function.Text
import Std.Data.TreeMap

namespace SheetFormula

/-!
# Function tables

A function table maps names to function definitions; each definition stands under its own name.
-/

structure FunctionTable where
  definitions : Std.TreeMap String FunctionDef

namespace FunctionTable

/-- The table without functions. -/
def empty : FunctionTable := ⟨∅⟩

/-- The definition with this name. -/
def get? (t : FunctionTable) (name : String) : Option FunctionDef := t.definitions[name]?

/-- Is there a function with this name? -/
def contains (t : FunctionTable) (name : String) : Bool := t.definitions.contains name

/-- The names in ascending order. -/
def names (t : FunctionTable) : List String := t.definitions.keys

/-- Adds a definition, in place of one with the same name. -/
def register (t : FunctionTable) (d : FunctionDef) : FunctionTable :=
  ⟨t.definitions.insert d.name d⟩

/-- Removes the definition with this name. -/
def unregister (t : FunctionTable) (name : String) : FunctionTable :=
  ⟨t.definitions.erase name⟩

/-- Removes the definition with this name, and returns it. -/
def remove (t : FunctionTable) (name : String) : Option FunctionDef × FunctionTable :=
  (t.get? name, t.unregister name)

/-- The functions of this library. -/
def builtin : FunctionTable :=
  empty
    |>.register ⟨"NOT(", some [.required], Function.not⟩
    |>.register ⟨"ISERROR(", some [.required], Function.isError⟩
    |>.register ⟨"LEN(", some [.required], Function.len⟩
    |>.register ⟨"LEFT(", some [.required, .optional (.ofInt 1)], Function.left⟩
    |>.register ⟨"RIGHT(", some [.required, .optional (.ofInt 1)], Function.right⟩
    |>.register ⟨"SEARCH(", some [.required, .required], Function.search⟩

/-! ### What changes do -/

/-- Registering a function changes what is found under its own name, and nothing else. -/
theorem get?_register (t : FunctionTable) (d : FunctionDef) (name : String) :
    (t.register d).get? name = if d.name = name then some d else t.get? name := by
  simp only [get?, register, Std.TreeMap.getElem?_insert, Std.LawfulEqCmp.compare_eq_iff_eq]

/-- Nothing is found under a name that was removed; all others are left alone. -/
theorem get?_unregister (t : FunctionTable) (removed name : String) :
    (t.unregister removed).get? name = if removed = name then none else t.get? name := by
  simp only [get?, unregister, Std.TreeMap.getElem?_erase, Std.LawfulEqCmp.compare_eq_iff_eq]

end FunctionTable

end SheetFormula
