import SheetFormula.Json.Value
import SheetFormula.Scalar
import SheetFormula.Token.Parts

namespace SheetFormula

/-!
# Tokens as JSON records

Other programs hand over tokens as JSON records with the members `type`, `subtype`, `value` and
`message`, of which only `type` is required.  A record may also be an array of these, in this
order, the last ones being left out.

* `Token.ofRecord` classifies a record.  An operand whose value already has the JSON type that
  its subtype asks for is taken as it is; in every other case the value is read as text, as by
  `Token.ofParts`.
* `Token.ofJson` reads one token, `Token.listOfJson` a text with an array of them.  All records
  are taken apart before the first of them is classified.
* `Scalar.toJson` is the JSON value of a result.
-/

/-- A token before it is classified. -/
structure TokenRecord where
  kind : String
  subtype : String
  value : Json.Value
  message : Option String

namespace TokenRecord

/-- The names of the members, in the order of an array. -/
def memberNames : List String := ["type", "subtype", "value", "message"]

/-- The record with these members.  Members with other names do not count. -/
def ofMembers? (members : List (String × Json.Value)) : Option TokenRecord :=
  match members.lookup "type" with
  | some (.string kind) =>
    let subtype : Option String :=
      match members.lookup "subtype" with
      | none => some ""
      | some (.string s) => some s
      | some _ => none
    let message : Option (Option String) :=
      match members.lookup "message" with
      | none | some .null => some none
      | some (.string s) => some (some s)
      | some _ => none
    match subtype, message with
    | some subtype, some message =>
      some ⟨kind, subtype, (members.lookup "value").getD .null, message⟩
    | _, _ => none
  | _ => none

/-- The record that an array of members makes. -/
def ofItems? (items : List Json.Value) : Option TokenRecord :=
  if items.length ≤ memberNames.length then ofMembers? (memberNames.zip items) else none

/-- The record that a value makes. -/
def ofValue? : Json.Value → Option TokenRecord
  | .object members => ofMembers? members
  | .array items => ofItems? items
  | _ => none

/-- The named members of an object in a text, as far as they belong to a record; the values are
    nested at most `levels` deep.  Of other members only the names are looked at. -/
def ownMembers? (levels : Nat) :
    List (List Json.StringPart × Json.Tree) → Option (List (String × Json.Value))
  | [] => some []
  | (name, t) :: ms =>
    match Json.textOfParts? name, ownMembers? levels ms with
    | some n, some rest =>
      if n ∈ memberNames then (t.value? levels).map fun v => (n, v) :: rest else some rest
    | _, _ => none

/-- The record that a part of a text makes, nested at most `levels` deep.  In a text no member
    of the record may be given twice. -/
def ofTree? (levels : Nat) : Json.Tree → Option TokenRecord
  | .object members =>
    match levels with
    | 0 => none
    | levels + 1 =>
      ((ownMembers? levels members).filter fun ms => (ms.map (·.1)).Nodup).bind ofMembers?
  | .array items =>
    match levels with
    | 0 => none
    | levels + 1 => (Json.itemValues? levels items).bind ofItems?
  | _ => none

end TokenRecord

namespace Token

/-- The operand of a record whose value has the JSON type that the subtype asks for. -/
def operandOfRecord? (r : TokenRecord) : Option (Except TokenError Token) :=
  match r.subtype, r.value with
  | "NUMBER", .integer n => some (.ok (.number (Number.intOr n (Float.ofInt n))))
  | "NUMBER", .float x => some (.ok (.number (.float x)))
  | "LOGICAL", .logical b => some (.ok (.logical b))
  | "EMPTY", _ => some (.ok .omitted)
  | "TEXT", .string s => some (.ok (.text s))
  | "ERROR", .string s =>
    match ErrorCode.ofText? s with
    | some code => some (.ok (failure code (r.message.getD "")))
    | none => some (.error (.invalidErrorCode s))
  | _, _ => none

/-- The token that the value of a record spells. -/
def ofRecordText (r : TokenRecord) : Except TokenError Token :=
  match r.value.scalarText? with
  | some s => ofParts r.kind r.subtype s
  | none => .error (.invalidValue r.kind r.subtype .scalar r.value.render)

/-- The token that a record stands for. -/
def ofRecord (r : TokenRecord) : Except TokenError Token :=
  if r.kind = "OPERAND" then (operandOfRecord? r).getD (ofRecordText r) else ofRecordText r

/-- The token that a JSON value stands for. -/
def ofJson (v : Json.Value) : Except TokenError Token :=
  match TokenRecord.ofValue? v with
  | some r => ofRecord r
  | none => .error .undecodable

/-- The records of a text with an array of them. -/
def recordsOfJson? (text : String) : Option (List TokenRecord) :=
  match Json.Tree.parse? text with
  | some (.array items) => items.mapM (TokenRecord.ofTree? (Json.maxLevels - 1))
  | _ => none

/-- The tokens of a text with an array of records.  The first record that is no token decides
    the error. -/
def listOfJson (text : String) : Except TokenError (List Token) :=
  match recordsOfJson? text with
  | some records => records.mapM ofRecord
  | none => .error .undecodable

end Token

/-- The JSON value of a result.  Doubles that are not finite have no JSON number: they become
    null. -/
def Scalar.toJson : Scalar → Json.Value
  | .empty => .null
  | .logical b => .logical b
  | .number (.int n) => .integer n.toInt
  | .number (.float x) => if Binary64.isFinite x then .float x else .null
  | .text s => .string s
  | .error c => .string c.text

end SheetFormula
