import Contracts.Heap.Display
import Contracts.Proofs.Heap.Paths
import Mathlib.Data.Fintype.Pigeonhole
import Mathlib.Order.WellFounded

/-!
# Nested arrays as text

The text of an array tells nothing of how its items are nested.  It is what the **leaves** of
the array come to with commas between them, where an array in an array gives its own leaves, an
empty one a blank leaf as null does, and anything else one leaf.

This is so for arrays from which no array is reached that is in itself.  For just these it is
enough to follow the items without a look at which arrays are open.

## Main definitions

* `Store.Contains`, `Store.NoCycle` — arrays in arrays, and that none of them is in itself.
* `Store.renderWithin?` — the text of a value, without a look at what is open.
* `Store.Leaves` — the leaves of items.
* `Store.Flattens` — some of the arrays among items were taken apart.

## Main results

* `Store.noCycle_iff_acc` — in a store there are finitely many arrays, so without cycles the way
  down has an end.
* `Store.exists_renderWithin?_iff` — **rendering ends exactly without cycles.**
* `Store.display_array` — the text of an array from the texts of its items.
* `Store.Leaves.intercalate_eq` — **the text of an array is that of its leaves.**
* `Store.Flattens.leaves_of_leaves` — taking arrays apart changes no leaf.
* `Store.display_eq_intercalate_leaves` — what that means for the text.
-/

namespace Contracts

/-! ### Joined texts -/

/-- Joined texts, none of which are missing, are joined to the same if each part is. -/
theorem intercalate_append_congr {separator : String} {front front' back back' : List String}
    (some : front ≠ []) (some' : front' ≠ [])
    (same : separator.intercalate front = separator.intercalate front')
    (ends : back = [] ↔ back' = [])
    (same' : separator.intercalate back = separator.intercalate back') :
    separator.intercalate (front ++ back) = separator.intercalate (front' ++ back') := by
  by_cases last : back = []
  · rw [last, ends.1 last, List.append_nil, List.append_nil, same]
  · have last' : back' ≠ [] := fun none => last (ends.2 none)
    rw [String.intercalate_append_of_ne_nil some last,
      String.intercalate_append_of_ne_nil some' last', same, same']

/-! ### Items -/

namespace Value

/-- Whether a value is shown as itself among items: it is neither a blank nor an array. -/
def StandsAlone : Value → Prop
  | .undefined | .null | .array _ => False
  | _ => True

theorem standsAlone_cases (value : Value) :
    (value = .undefined ∨ value = .null) ∨ (∃ id, value = .array id) ∨ value.StandsAlone := by
  cases value with
  | undefined => exact .inl (.inl rfl)
  | null => exact .inl (.inr rfl)
  | array id => exact .inr (.inl ⟨id, rfl⟩)
  | _ => exact .inr (.inr trivial)

end Value

namespace Store

variable {store before after : Store} {id : ArrayId} {item value : Value}
  {listed rest : List Value} {leaves : List String} {opened : Opened}

/-- The items of an array. -/
def items (store : Store) (id : ArrayId) : List Value := (store.array id).toList

/-- An array that was not made has no items. -/
theorem hasArray_of_items (some : store.items id ≠ []) : store.HasArray id := by
  by_contra unmade
  have none : store.arrays[id.index]? = none := Array.getElem?_eq_none (Nat.not_lt.1 unmade)
  apply some
  rw [items, array, none]
  rfl

/-- The text of a value as an item, which is blank for what is null or was never written. -/
def displayItem (store : Store) (item : Value) : String :=
  if item.isUndefined || item.isNull then "" else store.display item

theorem displayItem_array (store : Store) (id : ArrayId) :
    store.displayItem (.array id) = store.display (.array id) := rfl

theorem displayItem_of_standsAlone (alone : item.StandsAlone) :
    store.displayItem item = store.display item := by
  cases item <;> first | rfl | exact alone.elim

theorem displayItem_of_blank (blank : item = .undefined ∨ item = .null) :
    store.displayItem item = "" := by
  rcases blank with rfl | rfl <;> rfl

/-- What is no array is displayed alike in all stores, whatever is open. -/
theorem displayWithin_congr (other : Store) (opened opened' : Opened)
    (single : ∀ id, value ≠ .array id) :
    store.displayWithin opened value = other.displayWithin opened' value := by
  cases value with
  | array id => exact absurd rfl (single id)
  | _ => rw [displayWithin, displayWithin]

/-! ### Arrays in arrays -/

/-- One array is an item of another. -/
def Contains (store : Store) (outer inner : ArrayId) : Prop := .array inner ∈ store.items outer

/-- From an array no array is reached through items that is reached from itself. -/
def NoCycle (store : Store) (id : ArrayId) : Prop :=
  ∀ other, Relation.ReflTransGen store.Contains id other →
    ¬ Relation.TransGen store.Contains other other

theorem NoCycle.inside {inner : ArrayId} (noCycle : store.NoCycle id)
    (inside : store.Contains id inner) : store.NoCycle inner :=
  fun other reached => noCycle other (reached.head inside)

/-- An array for which the way down has an end is not in itself. -/
theorem not_transGen_of_acc (ends : Acc (flip store.Contains) id) :
    ¬ Relation.TransGen store.Contains id id := by
  intro cycle
  induction ends with
  | intro id _ ih =>
    -- going around once more from the next array on the way
    obtain ⟨inner, inside, rest⟩ := Relation.TransGen.head'_iff.1 cycle
    exact ih inner inside (.tail' rest inside)

/-- **In a store there are finitely many arrays**: where none is in itself, the way down has an
end. -/
theorem noCycle_iff_acc : store.NoCycle id ↔ Acc (flip store.Contains) id := by
  constructor
  · intro noCycle
    by_contra endless
    obtain ⟨way, start, down⟩ := not_acc_iff_exists_descending_chain.1 endless
    have made (n : ℕ) : (way n).index < store.arrays.size :=
      hasArray_of_items (List.ne_nil_of_mem (down n))
    obtain ⟨i, j, different, same⟩ := Finite.exists_ne_map_eq_of_infinite fun n =>
      (⟨(way n).index, made n⟩ : Fin store.arrays.size)
    have same : way i = way j := congrArg ArrayId.mk (Fin.mk.inj same)
    have reached (n : ℕ) : Relation.ReflTransGen store.Contains id (way n) := by
      induction n with
      | zero => rw [start]
      | succ n ih => exact ih.tail (down n)
    have onward (n more : ℕ) : Relation.TransGen store.Contains (way n) (way (n + more + 1)) := by
      induction more with
      | zero => exact .single (down n)
      | succ more ih => exact ih.tail (down (n + more + 1))
    rcases Nat.lt_or_gt_of_ne different with less | less
    · obtain ⟨more, rfl⟩ := Nat.exists_eq_add_of_lt less
      exact noCycle (way i) (reached i) (same ▸ onward i more)
    · obtain ⟨more, rfl⟩ := Nat.exists_eq_add_of_lt less
      exact noCycle (way j) (reached j) (same ▸ onward j more)
  · intro ends other reached
    have ends' : Acc (flip store.Contains) other := by
      induction reached with
      | refl => exact ends
      | tail _ inside ih => exact ih.inv inside
    exact not_transGen_of_acc ends'

/-! ### Rendering without a look at what is open -/

/-- The text of a value without a look at which arrays are open.  There is none if more arrays
are in each other than a number says, or if there is no end of them. -/
def renderWithin? (store : Store) : ℕ → Value → Option String
  | 0, .array _ => none
  | depth + 1, .array id =>
      ((store.items id).mapM fun item =>
        if item.isUndefined || item.isNull then some "" else store.renderWithin? depth item).map
          (",".intercalate ·)
  | _, value => some (store.display value)

theorem renderWithin?_of_ne_array (depth : ℕ) (single : ∀ id, value ≠ .array id) :
    store.renderWithin? depth value = some (store.display value) := by
  cases value with
  | array id => exact absurd rfl (single id)
  | _ => cases depth <;> rfl

/-- What rendering needs of the items of an array. -/
theorem renderWithin?_succ (store : Store) (depth : ℕ) (id : ArrayId) :
    store.renderWithin? (depth + 1) (.array id) =
      ((store.items id).mapM fun item =>
        if item.isUndefined || item.isNull then some "" else store.renderWithin? depth item).map
          (",".intercalate ·) := by
  rw [renderWithin?]

theorem acc_of_renderWithin? {depth : ℕ} {text : String}
    (done : store.renderWithin? depth (.array id) = some text) : Acc (flip store.Contains) id := by
  induction depth generalizing id text with
  | zero => cases done
  | succ depth ih =>
    rw [renderWithin?_succ] at done
    obtain ⟨texts, done, -⟩ := Option.map_eq_some_iff.1 done
    refine Acc.intro id fun inner inside => ?_
    obtain ⟨text, done⟩ := exists_of_mapM_eq_some done _ inside
    exact ih done

/-- None of the arrays that are reached from an array is open. -/
def Shut (store : Store) (opened : Opened) (id : ArrayId) : Prop :=
  ∀ other, Relation.ReflTransGen store.Contains id other → opened.contains (.array other) = false

theorem shut_none (store : Store) (id : ArrayId) : store.Shut .none id :=
  fun _ _ => Opened.contains_none _

/-- An array that is not in itself can be opened before the arrays in it. -/
theorem Shut.insert {inner : ArrayId} (shut : store.Shut opened id) (noCycle : store.NoCycle id)
    (inside : store.Contains id inner) : store.Shut (opened.insert (.array id)) inner := by
  intro other reached
  have apart : other ≠ id := by
    rintro rfl
    exact noCycle other .refl (.head' inside reached)
  rw [Opened.contains_insert, shut other (reached.head inside), Bool.false_or]
  simpa using apart

/-- How such an array is displayed does not depend on what else is open. -/
theorem displayWithin_of_shut (ends : Acc (flip store.Contains) id) {opened' : Opened}
    (shut : store.Shut opened id) (shut' : store.Shut opened' id) :
    store.displayWithin opened (.array id) = store.displayWithin opened' (.array id) := by
  induction ends generalizing opened opened' with
  | intro id below ih =>
    have noCycle : store.NoCycle id := noCycle_iff_acc.2 (.intro id below)
    by_cases made : store.HasArray id
    · conv => lhs; rw [displayWithin, dif_pos ⟨made, shut id .refl⟩]
      conv => rhs; rw [displayWithin, dif_pos ⟨made, shut' id .refl⟩]
      refine congrArg (String.intercalate ",") (List.map_congr_left fun item member => ?_)
      split
      · rfl
      · by_cases nested : ∃ inner, item = .array inner
        · obtain ⟨inner, rfl⟩ := nested
          exact ih inner member (shut.insert noCycle member) (shut'.insert noCycle member)
        · exact displayWithin_congr store _ _ (not_exists.1 nested)
    · rw [displayWithin, dif_neg fun opens => made opens.1, displayWithin,
        dif_neg fun opens => made opens.1]

/-- **The text of an array** that is not in itself is that of its items, with commas between
them. -/
theorem display_array (noCycle : store.NoCycle id) :
    store.display (.array id) = ",".intercalate ((store.items id).map store.displayItem) := by
  by_cases made : store.HasArray id
  · rw [display, displayWithin, dif_pos ⟨made, Opened.contains_none _⟩]
    refine congrArg (String.intercalate ",") (List.map_congr_left fun item member => ?_)
    unfold displayItem
    split
    · rfl
    · by_cases nested : ∃ inner, item = .array inner
      · obtain ⟨inner, rfl⟩ := nested
        exact displayWithin_of_shut (noCycle_iff_acc.1 (noCycle.inside member))
          ((store.shut_none id).insert noCycle member) (store.shut_none inner)
      · exact displayWithin_congr store _ _ (not_exists.1 nested)
  · have none : store.items id = [] := by
      by_contra some
      exact made (hasArray_of_items some)
    rw [display, displayWithin, dif_neg fun opens => made opens.1, none]
    rfl

/-- What holds of each item from some number on holds of all of them from some number on. -/
theorem exists_forall_of_items {p : ℕ → Value → Prop} (listed : List Value)
    (each : ∀ item ∈ listed, ∃ least, ∀ depth ≥ least, p depth item) :
    ∃ least, ∀ depth ≥ least, ∀ item ∈ listed, p depth item := by
  induction listed with
  | nil => exact ⟨0, fun _ _ _ member => nomatch member⟩
  | cons item rest ih =>
    rw [List.forall_mem_cons] at each
    obtain ⟨least, first⟩ := each.1
    obtain ⟨least', others⟩ := ih each.2
    refine ⟨max least least', fun depth deep => List.forall_mem_cons.2 ⟨?_, ?_⟩⟩
    · exact first depth (by omega)
    · exact others depth (by omega)

/-- **Rendering ends** with the text of the value, once there is no limit that is too low. -/
theorem exists_renderWithin?_eq (ends : Acc (flip store.Contains) id) :
    ∃ least, ∀ depth ≥ least,
      store.renderWithin? depth (.array id) = some (store.display (.array id)) := by
  induction ends with
  | intro id below ih =>
    have each : ∀ item ∈ store.items id, ∃ least, ∀ depth ≥ least,
        (if item.isUndefined || item.isNull then some "" else store.renderWithin? depth item) =
          some (store.displayItem item) := by
      intro item member
      unfold displayItem
      split
      · exact ⟨0, fun _ _ => rfl⟩
      · by_cases nested : ∃ inner, item = .array inner
        · obtain ⟨inner, rfl⟩ := nested
          exact ih inner member
        · exact ⟨0, fun depth _ => renderWithin?_of_ne_array depth (not_exists.1 nested)⟩
    obtain ⟨least, all⟩ := exists_forall_of_items (store.items id) each
    refine ⟨least + 1, fun depth deep => ?_⟩
    obtain ⟨depth, rfl⟩ : ∃ rest, depth = rest + 1 :=
      Nat.exists_eq_add_one.2 (Nat.lt_of_lt_of_le (Nat.succ_pos least) deep)
    have items := mapM_eq_some_map (all depth (Nat.le_of_succ_le_succ deep))
    rw [renderWithin?_succ, items, display_array (noCycle_iff_acc.2 (.intro id below))]
    rfl

/-- **Rendering ends exactly without cycles.** -/
theorem exists_renderWithin?_iff :
    (∃ depth text, store.renderWithin? depth (.array id) = some text) ↔ store.NoCycle id := by
  constructor
  · rintro ⟨depth, text, done⟩
    exact noCycle_iff_acc.2 (acc_of_renderWithin? done)
  · intro noCycle
    obtain ⟨least, done⟩ := exists_renderWithin?_eq (noCycle_iff_acc.1 noCycle)
    exact ⟨least, _, done least (Nat.le_refl least)⟩

/-! ### Leaves -/

/-- The leaves of items, in their order. -/
inductive Leaves (store : Store) : List Value → List String → Prop where
  /-- There are no items. -/
  | nil : Leaves store [] []
  /-- What is null or was never written is a blank leaf. -/
  | blank {item : Value} {rest : List Value} {leaves : List String}
      (blank : item = .undefined ∨ item = .null) (others : Leaves store rest leaves) :
      Leaves store (item :: rest) ("" :: leaves)
  /-- So is an array without items. -/
  | empty {id : ArrayId} {rest : List Value} {leaves : List String}
      (none : store.items id = []) (others : Leaves store rest leaves) :
      Leaves store (.array id :: rest) ("" :: leaves)
  /-- An array with items has their leaves. -/
  | nested {id : ArrayId} {rest : List Value} {inner leaves : List String}
      (some : store.items id ≠ []) (inside : Leaves store (store.items id) inner)
      (others : Leaves store rest leaves) :
      Leaves store (.array id :: rest) (inner ++ leaves)
  /-- Anything else is a leaf as it is displayed. -/
  | single {item : Value} {rest : List Value} {leaves : List String}
      (alone : item.StandsAlone) (others : Leaves store rest leaves) :
      Leaves store (item :: rest) (store.display item :: leaves)

namespace Leaves

/-- There is a leaf as soon as there is an item. -/
theorem eq_nil_iff (h : store.Leaves listed leaves) : listed = [] ↔ leaves = [] := by
  induction h with
  | nil => simp
  | nested some inside others ih ih' => simp [ih.not.1 some]
  | _ => simp

/-- Items have one list of leaves. -/
theorem unique {leaves' : List String} (h : store.Leaves listed leaves)
    (h' : store.Leaves listed leaves') : leaves' = leaves := by
  induction h generalizing leaves' with
  | nil =>
    cases h'
    rfl
  | blank blank others ih =>
    cases h' with
    | blank _ others' => rw [ih others']
    | empty => simp at blank
    | nested => simp at blank
    | single alone _ => rcases blank with rfl | rfl <;> exact alone.elim
  | empty none others ih =>
    cases h' with
    | blank blank _ => simp at blank
    | empty _ others' => rw [ih others']
    | nested some _ _ => exact absurd none some
    | single alone _ => exact alone.elim
  | nested some inside others ih ih' =>
    cases h' with
    | blank blank _ => simp at blank
    | empty none _ => exact absurd none some
    | nested _ inside' others' => rw [ih inside', ih' others']
    | single alone _ => exact alone.elim
  | single alone others ih =>
    cases h' with
    | blank blank _ => rcases blank with rfl | rfl <;> exact alone.elim
    | empty => exact alone.elim
    | nested => exact alone.elim
    | single _ others' => rw [ih others']

/-- Where there are leaves, the way down has an end. -/
theorem acc (h : store.Leaves listed leaves) :
    ∀ id, .array id ∈ listed → Acc (flip store.Contains) id := by
  induction h with
  | nil => exact fun _ member => nomatch member
  | blank blank others ih =>
    intro id member
    rcases List.mem_cons.1 member with rfl | member
    · simp at blank
    · exact ih id member
  | @empty id _ _ none others ih =>
    intro other member
    rcases List.mem_cons.1 member with same | member
    · cases same
      refine Acc.intro id fun inner inside => ?_
      have inside : .array inner ∈ store.items id := inside
      rw [none] at inside
      cases inside
    · exact ih other member
  | @nested id _ _ _ some inside others ih ih' =>
    intro other member
    rcases List.mem_cons.1 member with same | member
    · cases same
      exact Acc.intro id ih
    · exact ih' other member
  | single alone others ih =>
    intro id member
    rcases List.mem_cons.1 member with rfl | member
    · exact alone.elim
    · exact ih id member

/-- **Items come to the same text as their leaves.** -/
theorem intercalate_eq (h : store.Leaves listed leaves) :
    ",".intercalate (listed.map store.displayItem) = ",".intercalate leaves := by
  induction h with
  | nil => rfl
  | @blank item _ _ blank others ih =>
    rw [List.map_cons, displayItem_of_blank blank]
    exact intercalate_append_congr (List.cons_ne_nil "" []) (List.cons_ne_nil "" []) rfl
      (List.map_eq_nil_iff.trans others.eq_nil_iff) ih
  | @empty id _ _ none others ih =>
    have noCycle : store.NoCycle id :=
      noCycle_iff_acc.2 ((Leaves.empty none .nil).acc id List.mem_cons_self)
    rw [List.map_cons, displayItem_array, display_array noCycle, none]
    exact intercalate_append_congr (List.cons_ne_nil "" []) (List.cons_ne_nil "" []) rfl
      (List.map_eq_nil_iff.trans others.eq_nil_iff) ih
  | @nested id _ inner _ some inside others ih ih' =>
    have noCycle : store.NoCycle id :=
      noCycle_iff_acc.2 ((Leaves.nested some inside .nil).acc id List.mem_cons_self)
    rw [List.map_cons, displayItem_array, display_array noCycle, ih]
    refine intercalate_append_congr (List.cons_ne_nil _ []) (inside.eq_nil_iff.not.1 some) ?_
      (List.map_eq_nil_iff.trans others.eq_nil_iff) ih'
    exact String.intercalate_singleton
  | @single item _ _ alone others ih =>
    rw [List.map_cons, displayItem_of_standsAlone alone]
    exact intercalate_append_congr (List.cons_ne_nil _ []) (List.cons_ne_nil _ []) rfl
      (List.map_eq_nil_iff.trans others.eq_nil_iff) ih

end Leaves

/-- Items have leaves if the arrays among them do. -/
theorem exists_leaves_of_arrays (listed : List Value)
    (each : ∀ id, .array id ∈ listed → ∃ leaves, store.Leaves (store.items id) leaves) :
    ∃ leaves, store.Leaves listed leaves := by
  induction listed with
  | nil => exact ⟨[], .nil⟩
  | cons item rest ih =>
    obtain ⟨leaves, others⟩ := ih fun id member => each id (List.mem_cons_of_mem _ member)
    rcases item.standsAlone_cases with blank | ⟨id, rfl⟩ | alone
    · exact ⟨_, .blank blank others⟩
    · by_cases none : store.items id = []
      · exact ⟨_, .empty none others⟩
      · obtain ⟨inner, inside⟩ := each id List.mem_cons_self
        exact ⟨_, .nested none inside others⟩
    · exact ⟨_, .single alone others⟩

/-- **Without cycles there are leaves.** -/
theorem exists_leaves (noCycle : store.NoCycle id) :
    ∃ leaves, store.Leaves [.array id] leaves := by
  have below : ∃ leaves, store.Leaves (store.items id) leaves := by
    induction noCycle_iff_acc.1 noCycle with
    | intro id _ ih =>
      apply exists_leaves_of_arrays
      intro inner inside
      exact ih inner inside (noCycle.inside inside)
  apply exists_leaves_of_arrays
  intro other member
  cases List.mem_singleton.1 member
  exact below

/-! ### Arrays taken apart -/

/-- The leaves of items and then others are theirs and then those of the others. -/
theorem Leaves.append {listed' : List Value} {leaves' : List String}
    (h : store.Leaves listed leaves) (h' : store.Leaves listed' leaves') :
    store.Leaves (listed ++ listed') (leaves ++ leaves') := by
  induction h with
  | nil => exact h'
  | blank blank _ ih => exact .blank blank ih
  | empty none _ ih => exact .empty none ih
  | nested some inside _ _ ih =>
    rw [List.cons_append, List.append_assoc]
    exact .nested some inside ih
  | single alone _ ih => exact .single alone ih

/-- Items as they are in one store, and in another one where some of the arrays among them, and
in these at any depth, were taken apart. -/
inductive Flattens (before after : Store) : List Value → List Value → Prop where
  /-- There are no items. -/
  | nil : Flattens before after [] []
  /-- What is no array stays. -/
  | keep {item : Value} {rest rest' : List Value} (single : ∀ id, item ≠ .array id)
      (others : Flattens before after rest rest') :
      Flattens before after (item :: rest) (item :: rest')
  /-- An array stays, or there is another one, and arrays in it were taken apart. -/
  | within {id id' : ArrayId} {rest rest' : List Value}
      (inside : Flattens before after (before.items id) (after.items id'))
      (others : Flattens before after rest rest') :
      Flattens before after (.array id :: rest) (.array id' :: rest')
  /-- In the place of an array with items are these. -/
  | splice {id : ArrayId} {rest inner rest' : List Value} (some : before.items id ≠ [])
      (inside : Flattens before after (before.items id) inner)
      (others : Flattens before after rest rest') :
      Flattens before after (.array id :: rest) (inner ++ rest')
  /-- In the place of an array without items is null. -/
  | blank {id : ArrayId} {rest rest' : List Value} (none : before.items id = [])
      (others : Flattens before after rest rest') :
      Flattens before after (.array id :: rest) (.null :: rest')

namespace Flattens

variable {listed' rest' : List Value}

theorem append (h : Flattens before after listed listed') (h' : Flattens before after rest rest') :
    Flattens before after (listed ++ rest) (listed' ++ rest') := by
  induction h with
  | nil => exact h'
  | keep single _ ih => exact .keep single ih
  | within inside _ _ ih => exact .within inside ih
  | splice some inside _ _ ih =>
    rw [List.cons_append, List.append_assoc]
    exact .splice some inside ih
  | blank none _ ih => exact .blank none ih

/-- There are items as long as there were. -/
theorem eq_nil_iff (h : Flattens before after listed listed') : listed = [] ↔ listed' = [] := by
  induction h with
  | nil => simp
  | splice some inside others ih ih' => simp [ih.not.1 some]
  | _ => simp

/-- **Taking arrays apart changes no leaf.** -/
theorem leaves_of_leaves (h : Flattens before after listed listed')
    (h' : before.Leaves listed leaves) : after.Leaves listed' leaves := by
  induction h generalizing leaves with
  | nil =>
    cases h'
    exact .nil
  | @keep item _ _ single others ih =>
    cases h' with
    | blank blank others' => exact .blank blank (ih others')
    | empty => exact absurd rfl (single _)
    | nested => exact absurd rfl (single _)
    | single alone others' =>
      have alike : before.display item = after.display item :=
        displayWithin_congr after .none .none single
      rw [alike]
      exact .single alone (ih others')
  | within inside others ih ih' =>
    cases h' with
    | blank blank _ => simp at blank
    | empty none others' => exact .empty (inside.eq_nil_iff.1 none) (ih' others')
    | nested some inside' others' =>
      exact .nested (inside.eq_nil_iff.not.1 some) (ih inside') (ih' others')
    | single alone _ => exact alone.elim
  | splice some inside others ih ih' =>
    cases h' with
    | blank blank _ => simp at blank
    | empty none _ => exact absurd none some
    | nested _ inside' others' => exact (ih inside').append (ih' others')
    | single alone _ => exact alone.elim
  | blank none others ih =>
    cases h' with
    | blank blank _ => simp at blank
    | empty _ others' => exact .blank (.inr rfl) (ih others')
    | nested some _ _ => exact absurd none some
    | single alone _ => exact alone.elim

/-- Items can stay if it is so for what is in the arrays among them. -/
theorem of_arrays (listed : List Value)
    (each : ∀ id, .array id ∈ listed →
      Flattens before after (before.items id) (after.items id)) :
    Flattens before after listed listed := by
  induction listed with
  | nil => exact .nil
  | cons item rest ih =>
    have others := ih fun id member => each id (List.mem_cons_of_mem _ member)
    by_cases nested : ∃ id, item = .array id
    · obtain ⟨id, rfl⟩ := nested
      exact .within (each id List.mem_cons_self) others
    · exact .keep (not_exists.1 nested) others

/-- An array was taken apart where it is an item, and nothing else was changed. -/
theorem of_replaced {outer nested : ArrayId} {left right : List Value}
    (was : before.items outer = left ++ .array nested :: right)
    (is : after.items outer =
      left ++ (if before.items nested = [] then [.null] else before.items nested) ++ right)
    (alike : ∀ other, other ≠ outer → after.items other = before.items other)
    (noCycle : before.NoCycle id) :
    Flattens before after (before.items id) (after.items id) := by
  induction noCycle_iff_acc.1 noCycle with
  | intro id _ ih =>
    have inside (inner : ArrayId) (member : .array inner ∈ before.items id) :
        Flattens before after (before.items inner) (after.items inner) :=
      ih inner member (noCycle.inside member)
    by_cases here : id = outer
    · subst here
      rw [was] at inside
      have front : Flattens before after left left :=
        of_arrays left fun inner member => inside inner (List.mem_append_left _ member)
      have back : Flattens before after right right :=
        of_arrays right fun inner member =>
          inside inner (List.mem_append_right _ (List.mem_cons_of_mem _ member))
      rw [was, is, List.append_assoc]
      refine front.append ?_
      split
      · next none => exact .blank none back
      · next some =>
        -- the items of the nested array stand in the outer one as they were
        have contained : before.Contains id nested := by
          rw [Contains, was]
          exact List.mem_append_right _ List.mem_cons_self
        have apart : nested ≠ id := by
          rintro rfl
          exact noCycle nested .refl (.single contained)
        have below := inside nested (List.mem_append_right _ List.mem_cons_self)
        rw [alike nested apart] at below
        exact .splice some below back
    · rw [alike id here]
      exact of_arrays _ inside

/-- **So the text stays as well.** -/
theorem display_eq {id' : ArrayId} (h : Flattens before after [.array id] [.array id'])
    (h' : before.Leaves [.array id] leaves) :
    after.display (.array id') = ",".intercalate leaves := by
  have text := (h.leaves_of_leaves h').intercalate_eq
  rw [List.map_singleton, displayItem_array, String.intercalate_singleton] at text
  exact text

end Flattens

/-- **The text of an array is that of its leaves.**  Where no array that is reached is in itself,
rendering ends, and comes to the one list of leaves with commas between them.  So the text does
not change if arrays with items are taken apart, at any depth and in whatever store, and null is
put for arrays without; be it for some arrays here and there or for one wherever it is reached. -/
theorem display_eq_intercalate_leaves (noCycle : store.NoCycle id) :
    ∃ leaves, store.Leaves [.array id] leaves ∧
      (∀ leaves', store.Leaves [.array id] leaves' → leaves' = leaves) ∧
      store.display (.array id) = ",".intercalate leaves ∧
      (∃ least, ∀ depth ≥ least,
        store.renderWithin? depth (.array id) = some (",".intercalate leaves)) ∧
      (∀ after id', Flattens store after [.array id] [.array id'] →
        after.display (.array id') = ",".intercalate leaves) ∧
      ∀ (after : Store) outer nested left right,
        store.items outer = left ++ .array nested :: right →
        after.items outer =
          left ++ (if store.items nested = [] then [.null] else store.items nested) ++ right →
        (∀ other, other ≠ outer → after.items other = store.items other) →
        after.display (.array id) = ",".intercalate leaves := by
  obtain ⟨leaves, h⟩ := exists_leaves noCycle
  have text : store.display (.array id) = ",".intercalate leaves := by
    have text := h.intercalate_eq
    rwa [List.map_singleton, displayItem_array, String.intercalate_singleton] at text
  refine ⟨leaves, h, fun _ h' => h.unique h', text, ?_, ?_, ?_⟩
  · rw [← text]
    exact exists_renderWithin?_eq (noCycle_iff_acc.1 noCycle)
  · exact fun after id' flattens => flattens.display_eq h
  · intro after outer nested left right was is alike
    have flattens : Flattens store after [.array id] [.array id] :=
      .within (.of_replaced was is alike noCycle) .nil
    exact flattens.display_eq h

/-- An array that holds one with two texts twice, null and one without items. -/
def shared : Store where
  records := #[]
  arrays := #[#[.string "a", .string "b"], #[],
    #[.array ⟨0⟩, .null, .array ⟨1⟩, .array ⟨0⟩]]
  functions := 0
  history := #[]

/-- The same with all of them taken apart. -/
def sharedFlat : Store where
  records := #[]
  arrays := #[#[.string "a", .string "b", .null, .null, .string "a", .string "b"]]
  functions := 0
  history := #[]

theorem display_eq_intercalate_leaves_shared :
    shared.NoCycle ⟨2⟩ ∧ shared.display (.array ⟨2⟩) = "a,b,,,a,b" ∧
      sharedFlat.display (.array ⟨0⟩) = "a,b,,,a,b" := by
  have pair : shared.Leaves (shared.items ⟨0⟩) ["a", "b"] := by
    have texts (s : String) : shared.display (.string s) = s := by rw [display, displayWithin]
    have pair : shared.Leaves [.string "a", .string "b"] _ :=
      .single trivial (.single trivial .nil)
    rwa [texts, texts] at pair
  have inner : shared.Leaves (shared.items ⟨2⟩) ["a", "b", "", "", "a", "b"] :=
    .nested (by decide) pair (.blank (.inr rfl) (.empty rfl (.nested (by decide) pair .nil)))
  have outer : shared.Leaves [.array ⟨2⟩] ["a", "b", "", "", "a", "b"] :=
    .nested (by decide) inner .nil
  have noCycle : shared.NoCycle ⟨2⟩ := noCycle_iff_acc.2 (outer.acc _ List.mem_cons_self)
  have apart : Flattens shared sharedFlat (shared.items ⟨2⟩) (sharedFlat.items ⟨0⟩) := by
    have pair : Flattens shared sharedFlat (shared.items ⟨0⟩) (shared.items ⟨0⟩) :=
      .keep (by simp) (.keep (by simp) .nil)
    exact .splice (by decide) pair (.keep (by simp) (.blank rfl (.splice (by decide) pair .nil)))
  obtain ⟨leaves, -, unique, text, -, flat, -⟩ := display_eq_intercalate_leaves noCycle
  cases unique _ outer
  exact ⟨noCycle, text, flat sharedFlat ⟨0⟩ (.within apart .nil)⟩

end Store

end Contracts
