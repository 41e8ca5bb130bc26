/-!
# Dictionaries with text keys

A **dictionary** binds each of finitely many text keys to one value.  It is kept
as the list of its entries in strictly ascending order of the keys, compared code
point by code point, so that two dictionaries with the same bindings are the same
dictionary and every listing of keys comes out in one order.

## Main definitions

* `Dict` — the entries, with the proof that their keys ascend.
* `Dict.get?`, `Dict.contains` — what a key is bound to, and whether it is bound.
* `Dict.insert`, `Dict.erase` — bind one key, or release it.
* `Dict.ofList` — bind each pair of a list in turn, so that the last one wins.
* `Dict.merge` — lay one dictionary over another.
-/

namespace Contracts

universe u

/-- Finitely many text keys, each bound to one value. -/
structure Dict (β : Type u) where
  /-- The bindings, by ascending key. -/
  entries : List (String × β)
  /-- No key is listed twice, and each comes before the greater ones. -/
  ascending : entries.Pairwise fun a b => a.1 < b.1
  deriving DecidableEq, Repr

namespace Dict

variable {β : Type u}

/-! ### Entry lists -/

/-- Put an entry at its place in an ascending list, over one of the same key. -/
def insertEntry (key : String) (value : β) : List (String × β) → List (String × β)
  | [] => [(key, value)]
  | entry :: rest =>
      if key < entry.1 then (key, value) :: entry :: rest
      else if key = entry.1 then (key, value) :: rest
      else entry :: insertEntry key value rest

/-- An entry of the longer list is the new one or was there before. -/
theorem mem_insertEntry {key : String} {value : β} {entry : String × β}
    {entries : List (String × β)} (h : entry ∈ insertEntry key value entries) :
    entry = (key, value) ∨ entry ∈ entries := by
  induction entries with
  | nil => exact .inl (List.mem_singleton.1 h)
  | cons first rest ih =>
    unfold insertEntry at h
    split at h
    · exact (List.mem_cons.1 h)
    · split at h
      · exact (List.mem_cons.1 h).imp_right (List.mem_cons_of_mem _)
      · rcases List.mem_cons.1 h with rfl | h
        · exact .inr List.mem_cons_self
        · exact (ih h).imp_right (List.mem_cons_of_mem _)

/-- Insertion keeps the keys ascending. -/
theorem ascending_insertEntry (key : String) (value : β) {entries : List (String × β)}
    (h : entries.Pairwise fun a b => a.1 < b.1) :
    (insertEntry key value entries).Pairwise fun a b => a.1 < b.1 := by
  induction entries with
  | nil => exact List.pairwise_singleton _ _
  | cons first rest ih =>
    have ⟨below, sorted⟩ := List.pairwise_cons.1 h
    unfold insertEntry
    split
    · rename_i before
      refine List.pairwise_cons.2 ⟨fun entry member => ?_, h⟩
      rcases List.mem_cons.1 member with rfl | member
      · exact before
      · exact String.lt_trans before (below entry member)
    · split
      · rename_i same
        exact List.pairwise_cons.2 ⟨fun entry member => same ▸ below entry member, sorted⟩
      · rename_i notBefore different
        have after : first.1 < key := by grind
        refine List.pairwise_cons.2 ⟨fun entry member => ?_, ih sorted⟩
        rcases mem_insertEntry member with rfl | member
        · exact after
        · exact below entry member

/-! ### Dictionaries -/

/-- The dictionary that binds nothing. -/
def empty : Dict β := ⟨[], .nil⟩

instance : Inhabited (Dict β) := ⟨empty⟩

/-- The value a key is bound to. -/
def get? (dict : Dict β) (key : String) : Option β := dict.entries.lookup key

/-- Whether a key is bound. -/
def contains (dict : Dict β) (key : String) : Bool := (dict.get? key).isSome

/-- The bound keys, ascending. -/
def keys (dict : Dict β) : List String := dict.entries.map Prod.fst

/-- How many keys are bound. -/
def size (dict : Dict β) : Nat := dict.entries.length

/-- Whether no key is bound. -/
def isEmpty (dict : Dict β) : Bool := dict.entries.isEmpty

/-- Bind a key, releasing what it was bound to before. -/
def insert (dict : Dict β) (key : String) (value : β) : Dict β :=
  ⟨insertEntry key value dict.entries, ascending_insertEntry key value dict.ascending⟩

/-- Release a key. -/
def erase (dict : Dict β) (key : String) : Dict β :=
  ⟨dict.entries.filter fun entry => entry.1 != key, dict.ascending.filter _⟩

/-- Bind the pairs of a list from left to right: of two with one key the later wins. -/
def ofList (pairs : List (String × β)) : Dict β :=
  pairs.foldl (fun dict pair => dict.insert pair.1 pair.2) empty

/-- Lay `upper` over `lower`: a key that both bind has its value from `upper`. -/
def merge (lower upper : Dict β) : Dict β :=
  upper.entries.foldl (fun dict entry => dict.insert entry.1 entry.2) lower

end Dict

end Contracts
