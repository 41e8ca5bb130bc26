import Contracts.Dict.Lemmas
import Mathlib.Data.List.Nodup

/-!
# More laws of dictionaries

## Main definitions

* `Dict.filterMap` — the bindings whose values are mapped to something.
* `Dict.take` — the first bindings.

## Main results

* `Dict.get?_filterMap` — what a key is bound to then.
* `Dict.mem_keys`, `Dict.pairwise_keys` — the keys are those that are bound, ascending.
* `Dict.keys_eq_of_contains` — so they are the same if the same keys are bound.
* `Dict.ofList_entries` — a dictionary is what binding its own entries leads to.
* `Dict.ofList_eq_of_perm` — the order of a list of different keys makes no difference.
* `Dict.findSome?_entries_eq_some` — what is found first is found at the least key.
-/

namespace Contracts

namespace Dict

variable {β γ : Type}

/-! ### Keys -/

theorem mem_keys {dict : Dict β} {key : String} :
    key ∈ dict.keys ↔ dict.contains key = true := by
  obtain ⟨entries, ascending⟩ := dict
  unfold keys contains get?
  dsimp only
  clear ascending
  induction entries with
  | nil => simp
  | cons first rest ih =>
    rw [List.map_cons, List.mem_cons, ih, lookup_cons_eq_ite]
    split
    · next same => simp [same]
    · next different => simp [different]

/-- A key is bound to the values it is listed with, which is at most one. -/
theorem mem_entries {dict : Dict β} {key : String} {value : β} :
    (key, value) ∈ dict.entries ↔ dict.get? key = some value :=
  mem_iff_lookup dict.ascending

theorem pairwise_keys (dict : Dict β) : dict.keys.Pairwise (· < ·) :=
  List.pairwise_map.2 dict.ascending

/-! ### Mapping and filtering -/

/-- The bindings whose value `f` maps to something, with what it maps them to. -/
def filterMap (f : β → Option γ) (dict : Dict β) : Dict γ where
  entries := dict.entries.filterMap fun entry => (f entry.2).map (entry.1, ·)
  ascending := by
    refine List.Pairwise.filterMap _ (fun a b below a' ha b' hb => ?_) dict.ascending
    obtain ⟨_, _, rfl⟩ := Option.map_eq_some_iff.1 ha
    obtain ⟨_, _, rfl⟩ := Option.map_eq_some_iff.1 hb
    exact below

theorem get?_filterMap (f : β → Option γ) (dict : Dict β) (key : String) :
    (dict.filterMap f).get? key = (dict.get? key).bind f := by
  obtain ⟨entries, ascending⟩ := dict
  unfold get? filterMap
  dsimp only
  induction entries with
  | nil => rfl
  | cons first rest ih =>
    have ⟨below, sorted⟩ := List.pairwise_cons.1 ascending
    have ih := ih sorted
    rw [lookup_cons_eq_ite, List.filterMap_cons]
    cases mapped : f first.2 with
    | none =>
      simp only [Option.map_none, ih]
      split
      · next same => rw [same, lookup_eq_none_of_lt below, Option.bind_some, mapped]; rfl
      · rfl
    | some value =>
      simp only [Option.map_some]
      rw [lookup_cons_eq_ite, ih]
      split
      · rw [Option.bind_some, mapped]
      · rfl

/-- Dictionaries that bind the same keys list them alike. -/
theorem keys_eq_of_contains {left : Dict β} {right : Dict γ}
    (h : ∀ key, left.contains key = right.contains key) : left.keys = right.keys := by
  have forget {δ : Type} (dict : Dict δ) : (dict.filterMap fun _ => some ()).keys = dict.keys := by
    simp [keys, filterMap, List.filterMap_eq_map', Function.comp_def]
  have same : left.filterMap (fun _ => some ()) = right.filterMap fun _ => some () := by
    refine ext_get? fun key => ?_
    have bound : (left.get? key).isSome = (right.get? key).isSome := h key
    rw [get?_filterMap, get?_filterMap]
    revert bound
    cases left.get? key <;> cases right.get? key <;> simp
  rw [← forget left, same, forget right]

/-! ### Bindings of lists -/

/-- Binding the entries of a dictionary in turn gives the dictionary. -/
theorem ofList_entries (dict : Dict β) : ofList dict.entries = dict :=
  ext_get? fun key => by rw [get?_ofList, lookup_reverse_entries]

/-- What a key is bound to is listed with it. -/
theorem mem_of_get?_ofList {pairs : List (String × β)} {key : String} {value : β}
    (h : (ofList pairs).get? key = some value) : (key, value) ∈ pairs := by
  rw [get?_ofList, List.lookup_eq_some_iff] at h
  obtain ⟨before, after, split, _⟩ := h
  rw [← List.mem_reverse, split]
  exact List.mem_append_right before List.mem_cons_self

theorem entries_ofList_of_ascending {pairs : List (String × β)}
    (h : pairs.Pairwise fun a b => a.1 < b.1) : (ofList pairs).entries = pairs :=
  congrArg entries (ofList_entries ⟨pairs, h⟩)

/-- Mapping the values before they are bound or afterwards makes no difference. -/
theorem entries_ofList_map (f : β → γ) (pairs : List (String × β)) :
    (ofList (pairs.map fun pair => (pair.1, f pair.2))).entries =
      (ofList pairs).entries.map fun entry => (entry.1, f entry.2) := by
  have inserted : ∀ (key : String) (value : β) (entries : List (String × β)),
      insertEntry key (f value) (entries.map fun entry => (entry.1, f entry.2)) =
        (insertEntry key value entries).map fun entry => (entry.1, f entry.2) := by
    intro key value entries
    induction entries with
    | nil => rfl
    | cons first rest ih =>
      simp only [List.map_cons, insertEntry, ih]
      split
      · rfl
      · split <;> rfl
  have bound : ∀ (dict : Dict β) (dict' : Dict γ),
      dict'.entries = dict.entries.map (fun entry => (entry.1, f entry.2)) →
        ((pairs.map fun pair => (pair.1, f pair.2)).foldl
            (fun dict pair => dict.insert pair.1 pair.2) dict').entries =
          (pairs.foldl (fun dict pair => dict.insert pair.1 pair.2) dict).entries.map
            fun entry => (entry.1, f entry.2) := by
    induction pairs with
    | nil => exact fun _ _ same => same
    | cons pair rest ih =>
      intro dict dict' same
      refine ih _ _ ?_
      show insertEntry pair.1 (f pair.2) dict'.entries = _
      rw [same]
      exact inserted pair.1 pair.2 dict.entries
  exact bound empty empty rfl

/-- Two keys can be bound in either order. -/
theorem insert_comm (dict : Dict β) {key other : String} (different : key ≠ other)
    (value value' : β) :
    (dict.insert key value).insert other value' = (dict.insert other value').insert key value := by
  refine ext_get? fun asked => ?_
  simp only [get?_insert]
  split
  · next same => rw [if_neg (same ▸ different.symm)]
  · rfl

/-- The order in which different keys are bound makes no difference. -/
theorem ofList_eq_of_perm {pairs reordered : List (String × β)} (perm : pairs.Perm reordered)
    (nodup : (pairs.map Prod.fst).Nodup) : ofList pairs = ofList reordered := by
  refine perm.foldl_eq' (fun first listed second listed' dict => ?_) empty
  by_cases same : first.1 = second.1
  · rw [List.inj_on_of_nodup_map nodup listed listed' same]
  · exact dict.insert_comm same first.2 second.2

/-! ### Searching -/

theorem findSome?_entries_eq_none {f : String × β → Option γ} {dict : Dict β} :
    dict.entries.findSome? f = none ↔
      ∀ key value, dict.get? key = some value → f (key, value) = none := by
  simp only [List.findSome?_eq_none_iff, Prod.forall, mem_entries]

/-- What is found first is found at the least key at which there is something to find. -/
theorem findSome?_entries_eq_some {f : String × β → Option γ} {dict : Dict β} {found : γ} :
    dict.entries.findSome? f = some found ↔
      ∃ key value, dict.get? key = some value ∧ f (key, value) = some found ∧
        ∀ other value', other < key → dict.get? other = some value' → f (other, value') = none := by
  rw [List.findSome?_eq_some_iff]
  constructor
  · rintro ⟨before, ⟨key, value⟩, after, split, here, nothing⟩
    have listed : (key, value) ∈ dict.entries := by
      rw [split]
      exact List.mem_append_right _ List.mem_cons_self
    refine ⟨key, value, mem_entries.1 listed, here, fun other value' less bound => ?_⟩
    have ascending := dict.ascending
    have member := mem_entries.2 bound
    rw [split] at ascending member
    have ⟨_, later, _⟩ := List.pairwise_append.1 ascending
    rcases List.mem_append.1 member with member | member
    · exact nothing _ member
    · -- the others come after the key
      rcases List.mem_cons.1 member with same | member
      · cases same
        exact absurd less (String.lt_irrefl _)
      · exact absurd (String.lt_trans less ((List.pairwise_cons.1 later).1 _ member))
          (String.lt_irrefl _)
  · rintro ⟨key, value, bound, here, nothing⟩
    obtain ⟨before, after, split⟩ := List.append_of_mem (mem_entries.2 bound)
    refine ⟨before, (key, value), after, split, here, fun ⟨other, value'⟩ member => ?_⟩
    have ascending := dict.ascending
    rw [split] at ascending
    have less : other < key :=
      (List.pairwise_append.1 ascending).2.2 _ member _ List.mem_cons_self
    refine nothing other value' less (mem_entries.1 ?_)
    rw [split]
    exact List.mem_append_left _ member

/-- What is found first depends only on what is to be found at each key. -/
theorem findSome?_entries_congr {δ : Type} {f : String × β → Option γ} {g : String × δ → Option γ}
    {dict : Dict β} {other : Dict δ}
    (h : ∀ key, ((dict.get? key).bind fun value => f (key, value)) =
      (other.get? key).bind fun value => g (key, value)) :
    dict.entries.findSome? f = other.entries.findSome? g := by
  have least {ε : Type} (f : String × ε → Option γ) (dict : Dict ε) (found : γ) :
      dict.entries.findSome? f = some found ↔
        ∃ key, ((dict.get? key).bind fun value => f (key, value)) = some found ∧
          ∀ earlier, earlier < key →
            ((dict.get? earlier).bind fun value => f (earlier, value)) = none := by
    simp only [findSome?_entries_eq_some, Option.bind_eq_some_iff, Option.bind_eq_none_iff]
    grind
  refine Option.ext fun found => ?_
  rw [least, least]
  simp only [h]

/-! ### Cutting -/

/-- The bindings of the first `n` keys. -/
def take (n : Nat) (dict : Dict β) : Dict β :=
  ⟨dict.entries.take n, dict.ascending.sublist (List.take_sublist n dict.entries)⟩

end Dict

end Contracts
