import Contracts.Heap.Store
import Contracts.Number.Style
import Contracts.Text.Labelled
import Contracts.Text.Quoted

/-!
# Inspected values

A value shown for diagnosis: what it is and, of a container, only how much it holds,
so that it can be shown even if it holds itself.

## Main definitions

* `Store.inspect` — the text.
-/

namespace Contracts

/-- Inspected numbers keep a fraction, and an exponent is used below `10 ^ -4` and from
`10 ^ 16`. -/
def inspectStyle : NumberStyle where
  plainFrom := some (-4)
  exponentFrom := some 16
  keepsFraction := true
  signsExponent := false
  tie := .up
  nan := "NaN"
  infinity := "inf"

/-- Texts between square brackets. -/
def bracketedList (texts : List String) : String := "[" ++ ", ".intercalate texts ++ "]"

/-- A value as it is inspected. -/
def Store.inspect (store : Store) : Value → String
  | .undefined => "Undefined"
  | .null => "Null"
  | .boolean b => "Bool(" ++ toString b ++ ")"
  | .number x => "Number(" ++ inspectStyle.write x ++ ")"
  | .string s => "String(" ++ Text.quoted s ++ ")"
  | .array id =>
      "Array(" ++ Text.labelled "ArrayRef" [("len", toString (store.array id).size)] ++ ")"
  | .record id =>
      "Object(" ++ Text.labelled "ObjectRef"
        [("keys", bracketedList ((store.record id).keys.map Text.quoted))] ++ ")"
  | .function f =>
      "Function(" ++ Text.labelled "Function"
        [("name", Text.quoted f.name), ("arity", toString f.arity)] ++ ")"

end Contracts
