import Contracts.Heap.Opened
import Contracts.Number.Style

/-!
# Displayed values

A value as a text: an array by its items, a record only as such.  So what records hold
does not matter, however much that is, and only arrays are opened, each at most once on
each path.

## Main definitions

* `displayStyle` — how numbers are displayed.
* `Store.display` — the text of a value.
-/

namespace Contracts

/-- Displayed numbers never have an exponent, and whole ones no fraction. -/
def displayStyle : NumberStyle where
  plainFrom := none
  exponentFrom := none
  keepsFraction := false
  signsExponent := false
  tie := .up
  nan := "NaN"
  infinity := "Infinity"

namespace Store

/-- A value as text, on a path on which some arrays are open.  Items that are null or
were never written are blank. -/
def displayWithin (store : Store) (opened : Opened) : Value → String
  | .undefined => "undefined"
  | .null => "null"
  | .boolean b => toString b
  | .number x => displayStyle.write x
  | .string s => s
  | .function f => "function " ++ f.name
  | .record _ => "[object Object]"
  | .array id =>
      if _h : store.HasArray id ∧ opened.contains (.array id) = false then
        ",".intercalate ((store.array id).toList.map fun item =>
          if item.isUndefined || item.isNull then ""
          else store.displayWithin (opened.insert (.array id)) item)
      else ""
termination_by store.closed opened
decreasing_by exact Opened.countP_insert_lt (array_mem_containers _h.1) _h.2

/-- A value as text. -/
def display (store : Store) (value : Value) : String := store.displayWithin .none value

end Store

end Contracts
