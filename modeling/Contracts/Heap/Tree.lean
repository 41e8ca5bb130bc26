import Contracts.Heap.Opened

/-!
# Trees

A value together with everything it reaches, written out as a **tree**: records and
arrays by their contents, and a container inside itself by a mark.

A container is opened at most once on each path from the root, so that unfolding ends
when no container of the store is left to open.

## Main definitions

* `Tree` — values written out.
* `Store.unfold` — the tree of a value.
-/

namespace Contracts

/-- A value with its contents. -/
inductive Tree where
  /-- What was never written. -/
  | undefined : Tree
  /-- The value `null`. -/
  | null : Tree
  /-- A truth value. -/
  | boolean (b : Bool) : Tree
  /-- A number. -/
  | number (x : Number) : Tree
  /-- A text. -/
  | string (s : String) : Tree
  /-- An array and its items. -/
  | array (items : List Tree) : Tree
  /-- A record and its entries, by ascending key. -/
  | record (entries : List (String × Tree)) : Tree
  /-- A function: its name, and how many arguments it waits for. -/
  | function (name : String) (arity : Nat) : Tree
  /-- A container that is open on the path to it. -/
  | enclosing : Tree

/-! ### Unfolding -/

namespace Store

/-- The tree of a value on a path on which some containers are open. -/
def unfoldWithin (store : Store) (opened : Opened) : Value → Tree
  | .undefined => .undefined
  | .null => .null
  | .boolean b => .boolean b
  | .number x => .number x
  | .string s => .string s
  | .function f => .function f.name f.arity
  | .array id =>
      if _h : store.HasArray id ∧ opened.contains (.array id) = false then
        .array ((store.array id).toList.map (store.unfoldWithin (opened.insert (.array id))))
      else .enclosing
  | .record id =>
      if _h : store.HasRecord id ∧ opened.contains (.record id) = false then
        .record ((store.record id).entries.map fun entry =>
          (entry.1, store.unfoldWithin (opened.insert (.record id)) entry.2))
      else .enclosing
termination_by store.closed opened
decreasing_by
  · exact Opened.countP_insert_lt (array_mem_containers _h.1) _h.2
  · exact Opened.countP_insert_lt (record_mem_containers _h.1) _h.2

/-- The tree of a value. -/
def unfold (store : Store) (value : Value) : Tree := store.unfoldWithin .none value

end Store

end Contracts
