import Contracts.Dict

/-!
# Laws of dictionaries

Each operation in terms of what the keys are bound to, and the fact that this is all
there is to a dictionary.

## Main results

* `Dict.get?_insert`, `Dict.get?_erase`, `Dict.get?_merge`, `Dict.get?_ofList` — the
  operations through `Dict.get?`.
* `Dict.ext_get?` — dictionaries with the same bindings are equal.
-/

namespace Contracts.Dict

universe u

variable {β : Type u}

/-! ### Entry lists -/

theorem lookup_cons_eq_ite (key : String) (entry : String × β) (rest : List (String × β)) :
    (entry :: rest).lookup key = if key = entry.1 then some entry.2 else rest.lookup key := by
  rw [List.lookup_cons]
  by_cases same : key = entry.1
  · rw [if_pos same, beq_iff_eq.2 same]
  · rw [if_neg same, beq_eq_false_iff_ne.2 same]

theorem lookup_insertEntry (key other : String) (value : β) (entries : List (String × β)) :
    (insertEntry key value entries).lookup other =
      if other = key then some value else entries.lookup other := by
  induction entries with
  | nil => rw [insertEntry, lookup_cons_eq_ite]
  | cons first rest ih =>
    unfold insertEntry
    split
    · rw [lookup_cons_eq_ite]
    · split
      · rename_i same
        subst same
        rw [lookup_cons_eq_ite, lookup_cons_eq_ite]
        grind
      · rename_i different
        rw [lookup_cons_eq_ite, lookup_cons_eq_ite, ih]
        grind

theorem lookup_eq_none_of_lt {key : String} {entries : List (String × β)}
    (h : ∀ entry ∈ entries, key < entry.1) : entries.lookup key = none := by
  induction entries with
  | nil => rfl
  | cons first rest ih =>
    have below := h first List.mem_cons_self
    have different : key ≠ first.1 := fun same => String.lt_irrefl first.1 (same ▸ below)
    rw [lookup_cons_eq_ite, if_neg different]
    exact ih fun entry member => h entry (List.mem_cons_of_mem _ member)

theorem mem_iff_lookup {key : String} {value : β} {entries : List (String × β)}
    (h : entries.Pairwise fun a b => a.1 < b.1) :
    (key, value) ∈ entries ↔ entries.lookup key = some value := by
  induction entries with
  | nil => exact ⟨fun member => absurd member List.not_mem_nil, fun found => nomatch found⟩
  | cons first rest ih =>
    obtain ⟨name, held⟩ := first
    have ⟨below, sorted⟩ := List.pairwise_cons.1 h
    rw [lookup_cons_eq_ite, List.mem_cons, Prod.mk.injEq]
    by_cases same : key = name
    · subst same
      have absent : (key, value) ∉ rest := fun member =>
        String.lt_irrefl key (below (key, value) member)
      grind
    · rw [if_neg same, ← ih sorted]
      exact ⟨fun member => member.resolve_left fun equal => same equal.1, .inr⟩

/-- An ascending list is determined by what its keys are bound to. -/
theorem eq_of_lookup_eq {left right : List (String × β)}
    (hleft : left.Pairwise fun a b => a.1 < b.1) (hright : right.Pairwise fun a b => a.1 < b.1)
    (h : ∀ key, left.lookup key = right.lookup key) : left = right := by
  induction left generalizing right with
  | nil =>
    cases right with
    | nil => rfl
    | cons first rest =>
      have := h first.1
      rw [lookup_cons_eq_ite, if_pos rfl] at this
      exact nomatch this
  | cons first rest ih =>
    cases right with
    | nil =>
      have := h first.1
      rw [lookup_cons_eq_ite, if_pos rfl] at this
      exact nomatch this
    | cons first' rest' =>
      have ⟨below, sorted⟩ := List.pairwise_cons.1 hleft
      have ⟨below', sorted'⟩ := List.pairwise_cons.1 hright
      have same : first = first' := by
        have mem : first ∈ first' :: rest' := by
          refine (mem_iff_lookup hright).2 ?_
          rw [← h first.1, lookup_cons_eq_ite, if_pos rfl]
        have mem' : first' ∈ first :: rest := by
          refine (mem_iff_lookup hleft).2 ?_
          rw [h first'.1, lookup_cons_eq_ite, if_pos rfl]
        rcases List.mem_cons.1 mem with equal | mem
        · exact equal
        · rcases List.mem_cons.1 mem' with equal | mem'
          · exact equal.symm
          · exact absurd (below' _ mem) (String.lt_asymm (below _ mem'))
      subst same
      congr 1
      refine ih sorted sorted' fun key => ?_
      by_cases same : key = first.1
      · subst same
        rw [lookup_eq_none_of_lt below, lookup_eq_none_of_lt below']
      · have := h key
        rwa [lookup_cons_eq_ite, lookup_cons_eq_ite, if_neg same, if_neg same] at this

/-! ### Operations through their bindings -/

@[simp] theorem get?_empty (key : String) : (empty : Dict β).get? key = none := rfl

/-- **Extensionality**: a dictionary is what its keys are bound to. -/
theorem ext_get? {left right : Dict β} (h : ∀ key, left.get? key = right.get? key) :
    left = right := by
  obtain ⟨entries, ascending⟩ := left
  obtain ⟨entries', ascending'⟩ := right
  have := eq_of_lookup_eq ascending ascending' h
  subst this
  rfl

theorem get?_insert (dict : Dict β) (key other : String) (value : β) :
    (dict.insert key value).get? other = if other = key then some value else dict.get? other :=
  lookup_insertEntry key other value dict.entries

@[simp] theorem get?_insert_self (dict : Dict β) (key : String) (value : β) :
    (dict.insert key value).get? key = some value := by
  simp [get?_insert]

theorem get?_erase (dict : Dict β) (key other : String) :
    (dict.erase key).get? other = if other = key then none else dict.get? other := by
  obtain ⟨entries, ascending⟩ := dict
  unfold get? erase
  dsimp only
  clear ascending
  induction entries with
  | nil => exact (ite_self none).symm
  | cons first rest ih =>
    rw [List.filter_cons, lookup_cons_eq_ite]
    split
    · rw [lookup_cons_eq_ite, ih]
      grind
    · rw [ih]
      grind

/-- The keys after an insertion. -/
theorem contains_insert (dict : Dict β) (key other : String) (value : β) :
    (dict.insert key value).contains other = (other == key || dict.contains other) := by
  unfold contains
  rw [get?_insert]
  by_cases same : other = key <;> simp [same]

/-- The keys after a release. -/
theorem contains_erase (dict : Dict β) (key other : String) :
    (dict.erase key).contains other = (other != key && dict.contains other) := by
  unfold contains
  rw [get?_erase]
  by_cases same : other = key <;> simp [same]

/-- Binding the pairs of a list in turn: the last pair with a key wins. -/
theorem get?_foldl_insert (pairs : List (String × β)) (dict : Dict β) (key : String) :
    (pairs.foldl (fun dict pair => dict.insert pair.1 pair.2) dict).get? key =
      (pairs.reverse.lookup key).or (dict.get? key) := by
  induction pairs generalizing dict with
  | nil => simp
  | cons pair rest ih =>
    rw [List.foldl_cons, ih, get?_insert, List.reverse_cons, List.lookup_append,
      lookup_cons_eq_ite, Option.or_assoc]
    congr 1
    split <;> rfl

theorem get?_ofList (pairs : List (String × β)) (key : String) :
    (ofList pairs).get? key = pairs.reverse.lookup key := by
  simp [ofList, get?_foldl_insert]

/-- Listing the entries from the greatest key down changes no binding. -/
theorem lookup_reverse_entries (dict : Dict β) (key : String) :
    dict.entries.reverse.lookup key = dict.get? key := by
  obtain ⟨entries, ascending⟩ := dict
  unfold get?
  dsimp only
  induction entries with
  | nil => rfl
  | cons first rest ih =>
    have ⟨below, sorted⟩ := List.pairwise_cons.1 ascending
    rw [List.reverse_cons, List.lookup_append, ih sorted, lookup_cons_eq_ite,
      lookup_cons_eq_ite]
    split
    · rename_i same
      rw [same, lookup_eq_none_of_lt below]
      rfl
    · exact Option.or_none

theorem get?_merge (lower upper : Dict β) (key : String) :
    (lower.merge upper).get? key = (upper.get? key).or (lower.get? key) := by
  rw [merge, get?_foldl_insert, lookup_reverse_entries]

end Contracts.Dict
