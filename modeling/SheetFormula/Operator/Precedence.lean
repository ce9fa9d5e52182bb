namespace SheetFormula

/-!
# Precedence

How tightly operators bind, from loose to tight:

| Rank | Operators                                      | Groups to the |
|------|------------------------------------------------|---------------|
| 0    | comparisons, and all symbols not listed below  | left          |
| 1    | `&`                                            | left          |
| 2    | `+` `-`                                        | left          |
| 3    | `*` `/`                                        | left          |
| 4    | prefix operators                               |               |
| 5    | `^`                                            | right         |

What is no operator at all has rank 6.
-/

namespace Precedence

/-- The rank of an infix symbol. -/
def rank (symbol : String) : Nat :=
  match symbol with
  | "&" => 1
  | "+" | "-" => 2
  | "*" | "/" => 3
  | "^" => 5
  | _ => 0

/-- The rank of every prefix operator. -/
def prefixRank : Nat := 4

/-- The rank of what is complete by itself: an operand, a call or what stands in parentheses. -/
def atomRank : Nat := 6

/-- Does a chain of the symbol group to the right? -/
def groupsRight (symbol : String) : Bool := symbol == "^"

/-- Does an operator of rank `r` that stands before the symbol take the operand between them? -/
def bindsBefore (r : Nat) (symbol : String) : Bool :=
  if groupsRight symbol then rank symbol < r else rank symbol ≤ r

end Precedence

end SheetFormula
