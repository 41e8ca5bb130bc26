import Contracts.Proofs.Heap.Custody

/-!
# Paths into values

A value leads to the values in it, and these to those in them.  A **path** says how: by items
of arrays and entries of records.  A value is **acyclic** if on no path from it a container
leads back to itself; containers may well be reached on several paths.  Whoever writes out an
acyclic value needs not remember which containers are open, and comes to an end all the same.

## Main definitions

* `Place`, `Store.at?`, `Store.follow` — places in containers, and where paths lead.
* `Store.Grounded`, `Store.Acyclic` — all that is reached was made, and nothing is in itself.
* `Store.Extends` — a later store in which nothing that was made has changed.
* `Store.exportWithin?` — write a value out as JSON, without a look at what is open.

## Main results

* `Store.unfold_array`, `Store.unfold_record` — **an acyclic container is written out as what
  is in it.**
* `Store.Extends.unfold` — in a later store it is written out the same.
* `Store.exists_exportWithin?_iff` — **writing out ends exactly if the value is acyclic.**
-/

namespace Contracts

/-- Where something is in a container. -/
inductive Place where
  /-- Among the items of an array. -/
  | item (index : Nat) : Place
  /-- Under a key of a record. -/
  | entry (key : String) : Place
  deriving DecidableEq, Repr

/-- The value that names a container. -/
def Container.value : Container → Value
  | .record id => .record id
  | .array id => .array id

theorem Container.value_inj {container other : Container}
    (same : container.value = other.value) : container = other := by
  cases container <;> cases other <;> cases same <;> rfl

theorem mapM_eq_some_map {α β : Type} {f : α → Option β} {g : α → β} {list : List α}
    (h : ∀ a ∈ list, f a = some (g a)) : list.mapM f = some (list.map g) := by
  induction list with
  | nil => rfl
  | cons a rest ih =>
    rw [List.forall_mem_cons] at h
    rw [List.mapM_cons, h.1, ih h.2]
    rfl

theorem exists_of_mapM_eq_some {α β : Type} {f : α → Option β} {list : List α}
    {mapped : List β} (h : list.mapM f = some mapped) : ∀ a ∈ list, ∃ b, f a = some b := by
  induction list generalizing mapped with
  | nil => exact fun _ member => nomatch member
  | cons a rest ih =>
    rw [List.mapM_cons] at h
    obtain ⟨b, first, h⟩ := Option.bind_eq_some_iff.1 h
    obtain ⟨others, later, _⟩ := Option.bind_eq_some_iff.1 h
    exact List.forall_mem_cons.2 ⟨⟨b, first⟩, ih later⟩

namespace Tree

theorem toJsonItems_eq_map (items : List Tree) : toJsonItems items = items.map toJson := by
  induction items with
  | nil => rfl
  | cons item rest ih => rw [toJsonItems, ih, List.map_cons]

theorem toJsonMembers_eq_map (entries : List (String × Tree)) :
    toJsonMembers entries = entries.map fun entry => (entry.1, entry.2.toJson) := by
  induction entries with
  | nil => rfl
  | cons entry rest ih => rw [toJsonMembers, ih, List.map_cons]

end Tree

namespace Store

variable {store before middle after : Store} {value inner : Value} {place : Place}
  {opened : Opened} {container : Container}

/-! ### Where paths lead -/

/-- What is at a place of a value.  Only containers have places. -/
def at? (store : Store) : Value → Place → Option Value
  | .array id, .item index => (store.array id)[index]?
  | .record id, .entry key => (store.record id).get? key
  | _, _ => none

/-- What a path from a value leads to. -/
def follow (store : Store) : Value → List Place → Option Value
  | value, [] => some value
  | value, place :: rest =>
      match store.at? value place with
      | none => none
      | some inner => store.follow inner rest

@[simp] theorem follow_nil (store : Store) (value : Value) :
    store.follow value [] = some value := by
  rw [follow]

theorem follow_cons (store : Store) (value : Value) (place : Place) (rest : List Place) :
    store.follow value (place :: rest) =
      (store.at? value place).bind fun inner => store.follow inner rest := by
  rw [follow]
  cases store.at? value place <;> rfl

theorem follow_append (store : Store) (value : Value) (path rest : List Place) :
    store.follow value (path ++ rest) =
      (store.follow value path).bind fun inner => store.follow inner rest := by
  induction path generalizing value with
  | nil => rw [follow_nil]; rfl
  | cons place path ih =>
    rw [List.cons_append, follow_cons, follow_cons]
    cases store.at? value place with
    | none => rfl
    | some inner => exact ih inner

/-- What has a place is a container. -/
theorem exists_container_of_at? (found : store.at? value place = some inner) :
    ∃ container : Container, value = container.value := by
  unfold at? at found
  split at found
  · exact ⟨.array _, rfl⟩
  · exact ⟨.record _, rfl⟩
  · cases found

theorem exists_at?_array {id : ArrayId} (member : value ∈ (store.array id).toList) :
    ∃ index, store.at? (.array id) (.item index) = some value := by
  obtain ⟨index, found⟩ := List.mem_iff_getElem?.1 member
  exact ⟨index, by rw [at?, ← Array.getElem?_toList, found]⟩

theorem at?_record {id : RecordId} {entry : String × Value}
    (member : entry ∈ (store.record id).entries) :
    store.at? (.record id) (.entry entry.1) = some entry.2 :=
  Dict.mem_entries.1 member

/-! ### Values that were made and are not in themselves -/

/-- Each container that a value reaches was made. -/
def Grounded (store : Store) (value : Value) : Prop :=
  ∀ path container, store.follow value path = some (Container.value container) →
    store.Has container

/-- No container that a value reaches is reached from itself. -/
def Acyclic (store : Store) (value : Value) : Prop :=
  ∀ path container, store.follow value path = some (Container.value container) →
    ∀ place rest, store.follow container.value (place :: rest) ≠ some container.value

theorem Grounded.inside (grounded : store.Grounded value)
    (found : store.at? value place = some inner) : store.Grounded inner := by
  intro path container reached
  refine grounded (place :: path) container ?_
  rw [follow_cons, found]
  exact reached

theorem Acyclic.inside (acyclic : store.Acyclic value)
    (found : store.at? value place = some inner) : store.Acyclic inner := by
  intro path container reached
  refine acyclic (place :: path) container ?_
  rw [follow_cons, found]
  exact reached

theorem Grounded.reached (grounded : store.Grounded value) {path : List Place}
    (reached : store.follow value path = some inner) : store.Grounded inner := by
  intro rest container reached'
  refine grounded (path ++ rest) container ?_
  rw [follow_append, reached]
  exact reached'

theorem Acyclic.reached (acyclic : store.Acyclic value) {path : List Place}
    (reached : store.follow value path = some inner) : store.Acyclic inner := by
  intro rest container reached'
  refine acyclic (path ++ rest) container ?_
  rw [follow_append, reached]
  exact reached'

theorem Grounded.has (container : Container) (grounded : store.Grounded container.value) :
    store.Has container :=
  grounded [] container (store.follow_nil _)

/-- What is visible leads to what is visible. -/
theorem Secludes.visible_of_follow {hidden : Container → Prop} (h : store.Secludes hidden)
    (within : value.Within (store.Visible hidden)) {path : List Place}
    (reached : store.follow value path = some container.value) :
    store.Visible hidden container := by
  induction path generalizing value with
  | nil =>
    rw [follow_nil] at reached
    cases reached
    cases container with
    | record id => exact (Value.within_record id).1 within
    | array id => exact (Value.within_array id).1 within
  | cons place rest ih =>
    rw [follow_cons, Option.bind_eq_some_iff] at reached
    obtain ⟨inner, found, reached⟩ := reached
    refine ih ?_ reached
    unfold Store.at? at found
    split at found
    · next id index => exact h.arrays id inner (Array.mem_of_getElem? found)
    · next id key => exact h.records id key inner found
    · cases found

/-- So all that it reaches was made. -/
theorem Secludes.grounded {hidden : Container → Prop} (h : store.Secludes hidden)
    (within : value.Within (store.Visible hidden)) : store.Grounded value :=
  fun _ _ reached => (h.visible_of_follow within reached).1

/-! ### Later stores -/

/-- In a later store nothing that was made has changed. -/
structure Extends (before after : Store) : Prop where
  /-- Containers that were made stay. -/
  grows : ∀ container, before.Has container → after.Has container
  /-- Records keep their entries. -/
  record : ∀ id, before.HasRecord id → after.record id = before.record id
  /-- Arrays keep their items. -/
  array : ∀ id, before.HasArray id → after.array id = before.array id

theorem Extends.refl (store : Store) : Extends store store :=
  ⟨fun _ made => made, fun _ _ => rfl, fun _ _ => rfl⟩

theorem Extends.trans (h : Extends before middle) (h' : Extends middle after) :
    Extends before after where
  grows container made := h'.grows container (h.grows container made)
  record id made := (h'.record id (h.grows (.record id) made)).trans (h.record id made)
  array id made := (h'.array id (h.grows (.array id) made)).trans (h.array id made)

theorem extends_newRecord (store : Store) (entries : Dict Value) :
    Extends store (store.newRecord entries).1 where
  grows _ made := store.has_newRecord entries made
  record _ made := store.record_newRecord_of_hasRecord entries made
  array _ _ := rfl

theorem extends_newArray (store : Store) (items : Array Value) :
    Extends store (store.newArray items).1 where
  grows _ made := store.has_newArray items made
  record _ _ := rfl
  array id made := by
    rw [array_newArray, if_neg]
    rintro rfl
    exact store.not_hasArray_newArray items made

theorem Extends.at? (h : Extends before after) (grounded : before.Grounded value)
    (place : Place) : after.at? value place = before.at? value place := by
  unfold Store.at?
  split
  · next id index =>
    have made := Grounded.has (.array id) grounded
    rw [h.array id made]
  · next id key =>
    have made := Grounded.has (.record id) grounded
    rw [h.record id made]
  · rfl

/-- Paths lead where they led. -/
theorem Extends.follow (h : Extends before after) (grounded : before.Grounded value)
    (path : List Place) : after.follow value path = before.follow value path := by
  induction path generalizing value with
  | nil => rw [follow_nil, follow_nil]
  | cons place rest ih =>
    rw [follow_cons, follow_cons, h.at? grounded place]
    cases found : before.at? value place with
    | none => rfl
    | some inner => exact ih (grounded.inside found)

theorem Extends.grounded (h : Extends before after) (grounded : before.Grounded value) :
    after.Grounded value := by
  intro path container reached
  rw [h.follow grounded] at reached
  exact h.grows container (grounded path container reached)

/-- What was made is written out as before. -/
theorem Extends.unfoldWithin (h : Extends before after) (grounded : before.Grounded value)
    (opened : Opened) : after.unfoldWithin opened value = before.unfoldWithin opened value := by
  fun_induction before.unfoldWithin opened value with
  | case7 opened id opens ih =>
    rw [Store.unfoldWithin, dif_pos ⟨h.grows (.array id) opens.1, opens.2⟩, h.array id opens.1]
    refine congrArg Tree.array (List.map_congr_left fun value member => ?_)
    obtain ⟨index, found⟩ := exists_at?_array member
    exact ih value (grounded.inside found)
  | case8 opened id closed =>
    have made : before.HasArray id := Grounded.has (.array id) grounded
    rw [Store.unfoldWithin, dif_neg fun opens => closed ⟨made, opens.2⟩]
  | case9 opened id opens ih =>
    rw [Store.unfoldWithin, dif_pos ⟨h.grows (.record id) opens.1, opens.2⟩,
      h.record id opens.1]
    refine congrArg Tree.record (List.map_congr_left fun entry member => ?_)
    rw [ih entry (grounded.inside (at?_record member))]
  | case10 opened id closed =>
    have made : before.HasRecord id := Grounded.has (.record id) grounded
    rw [Store.unfoldWithin, dif_neg fun opens => closed ⟨made, opens.2⟩]
  | _ => rw [Store.unfoldWithin]

theorem Extends.unfold (h : Extends before after) (grounded : before.Grounded value) :
    after.unfold value = before.unfold value :=
  h.unfoldWithin grounded .none

/-! ### Writing out what is acyclic -/

/-- None of the open containers is reached. -/
def Clear (store : Store) (opened : Opened) (value : Value) : Prop :=
  ∀ path container, store.follow value path = some (Container.value container) →
    opened.contains container = false

theorem clear_none (store : Store) (value : Value) : store.Clear .none value :=
  fun _ container _ => Opened.contains_none container

/-- In an acyclic container what is in it does not lead to an open one, the container itself
being open as well. -/
theorem Clear.insert (container : Container) (acyclic : store.Acyclic container.value)
    (clear : store.Clear opened container.value)
    (found : store.at? container.value place = some inner) :
    store.Clear (opened.insert container) inner := by
  intro path other reached
  have whole : store.follow container.value (place :: path) = some other.value := by
    rw [follow_cons, found]
    exact reached
  rw [Opened.contains_insert, clear _ other whole, Bool.false_or, decide_eq_false_iff_not]
  rintro rfl
  exact acyclic [] other (store.follow_nil _) place path whole

/-- How an acyclic value is written out does not depend on what is open. -/
theorem unfoldWithin_congr (acyclic : store.Acyclic value) {opened' : Opened}
    (clear : store.Clear opened value) (clear' : store.Clear opened' value) :
    store.unfoldWithin opened value = store.unfoldWithin opened' value := by
  fun_induction store.unfoldWithin opened value generalizing opened' with
  | case7 opened id opens ih =>
    have shut : opened'.contains (.array id) = false := clear' [] (.array id) (store.follow_nil _)
    conv => rhs; rw [unfoldWithin, dif_pos ⟨opens.1, shut⟩]
    refine congrArg Tree.array (List.map_congr_left fun value member => ?_)
    obtain ⟨index, found⟩ := exists_at?_array member
    exact ih value (acyclic.inside found) (Clear.insert (.array id) acyclic clear found)
      (Clear.insert (.array id) acyclic clear' found)
  | case8 opened id closed =>
    have shut : opened.contains (.array id) = false := clear [] (.array id) (store.follow_nil _)
    rw [unfoldWithin, dif_neg fun opens => closed ⟨opens.1, shut⟩]
  | case9 opened id opens ih =>
    have shut : opened'.contains (.record id) = false := clear' [] (.record id) (store.follow_nil _)
    conv => rhs; rw [unfoldWithin, dif_pos ⟨opens.1, shut⟩]
    refine congrArg Tree.record (List.map_congr_left fun entry member => ?_)
    have found := at?_record member
    rw [ih entry (acyclic.inside found)
      (Clear.insert (.record id) acyclic clear found)
      (Clear.insert (.record id) acyclic clear' found)]
  | case10 opened id closed =>
    have shut : opened.contains (.record id) = false := clear [] (.record id) (store.follow_nil _)
    rw [unfoldWithin, dif_neg fun opens => closed ⟨opens.1, shut⟩]
  | _ => rw [unfoldWithin]

/-- **An acyclic array is written out as its items are.** -/
theorem unfold_array {id : ArrayId} (grounded : store.Grounded (.array id))
    (acyclic : store.Acyclic (.array id)) :
    store.unfold (.array id) = .array ((store.array id).toList.map store.unfold) := by
  have made : store.HasArray id := Grounded.has (.array id) grounded
  rw [unfold, unfoldWithin, dif_pos ⟨made, Opened.contains_none _⟩]
  refine congrArg Tree.array (List.map_congr_left fun value member => ?_)
  obtain ⟨index, found⟩ := exists_at?_array member
  exact unfoldWithin_congr (acyclic.inside found)
    (Clear.insert (.array id) acyclic (store.clear_none _) found)
    (store.clear_none value)

/-- **An acyclic record is written out as its entries are.** -/
theorem unfold_record {id : RecordId} (grounded : store.Grounded (.record id))
    (acyclic : store.Acyclic (.record id)) :
    store.unfold (.record id) =
      .record ((store.record id).entries.map fun entry => (entry.1, store.unfold entry.2)) := by
  have made : store.HasRecord id := Grounded.has (.record id) grounded
  rw [unfold, unfoldWithin, dif_pos ⟨made, Opened.contains_none _⟩]
  refine congrArg Tree.record (List.map_congr_left fun entry member => ?_)
  have found := at?_record member
  exact congrArg (Prod.mk entry.1) (unfoldWithin_congr (acyclic.inside found)
    (Clear.insert (.record id) acyclic (store.clear_none _) found)
    (store.clear_none entry.2))

/-! ### Writing out without a look at what is open -/

/-- Write a value out as JSON without a look at what is open.  There is no result if it is
deeper than a number of containers in each other, or has no end at all. -/
def exportWithin? (store : Store) : Nat → Value → Option Json
  | _, .undefined | _, .null | _, .function _ => some .null
  | _, .boolean b => some (.boolean b)
  | _, .number x => some x.toJson
  | _, .string s => some (.string s)
  | 0, .array _ | 0, .record _ => none
  | depth + 1, .array id =>
      ((store.array id).toList.mapM (store.exportWithin? depth)).map .array
  | depth + 1, .record id =>
      ((store.record id).entries.mapM fun entry =>
        (store.exportWithin? depth entry.2).map (entry.1, ·)).map .object

/-- As deep as there are containers to open, an acyclic value has an end. -/
theorem exportWithin?_eq (grounded : store.Grounded value) (acyclic : store.Acyclic value)
    (clear : store.Clear opened value) {depth : Nat} (deep : store.closed opened ≤ depth) :
    store.exportWithin? depth value = some (store.unfoldWithin opened value).toJson := by
  fun_induction store.unfoldWithin opened value generalizing depth with
  | case7 opened id opens ih =>
    have fewer : store.closed (opened.insert (.array id)) < store.closed opened :=
      Opened.countP_insert_lt (array_mem_containers opens.1) opens.2
    obtain ⟨depth, rfl⟩ : ∃ rest, depth = rest + 1 :=
      Nat.exists_eq_add_one.2 (Nat.lt_of_lt_of_le (Nat.zero_lt_of_lt fewer) deep)
    have items : ∀ value ∈ (store.array id).toList, store.exportWithin? depth value =
        some (store.unfoldWithin (opened.insert (.array id)) value).toJson := by
      intro value member
      obtain ⟨index, found⟩ := exists_at?_array member
      exact ih value (grounded.inside found) (acyclic.inside found)
        (Clear.insert (.array id) acyclic clear found) (by omega)
    rw [exportWithin?, mapM_eq_some_map items, Tree.toJson, Tree.toJsonItems_eq_map,
      List.map_map]
    rfl
  | case8 opened id closed =>
    have made := Grounded.has (.array id) grounded
    exact absurd ⟨made, clear [] (.array id) (store.follow_nil _)⟩ closed
  | case9 opened id opens ih =>
    have fewer : store.closed (opened.insert (.record id)) < store.closed opened :=
      Opened.countP_insert_lt (record_mem_containers opens.1) opens.2
    obtain ⟨depth, rfl⟩ : ∃ rest, depth = rest + 1 :=
      Nat.exists_eq_add_one.2 (Nat.lt_of_lt_of_le (Nat.zero_lt_of_lt fewer) deep)
    have members : ∀ entry ∈ (store.record id).entries,
        (store.exportWithin? depth entry.2).map (entry.1, ·) =
          some (entry.1, (store.unfoldWithin (opened.insert (.record id)) entry.2).toJson) := by
      intro entry member
      have found := at?_record member
      rw [ih entry (grounded.inside found) (acyclic.inside found)
        (Clear.insert (.record id) acyclic clear found) (by omega)]
      rfl
    rw [exportWithin?, mapM_eq_some_map members, Tree.toJson, Tree.toJsonMembers_eq_map,
      List.map_map]
    rfl
  | case10 opened id closed =>
    have made := Grounded.has (.record id) grounded
    exact absurd ⟨made, clear [] (.record id) (store.follow_nil _)⟩ closed
  | _ => cases depth <;> rfl

/-- Writing out to some depth has a result only if no path is longer. -/
theorem length_le_of_exportWithin? {depth : Nat} {json : Json}
    (done : store.exportWithin? depth value = some json) {path : List Place}
    (reached : store.follow value path = some inner) : path.length ≤ depth := by
  induction path generalizing depth value json with
  | nil => exact Nat.zero_le depth
  | cons place rest ih =>
    rw [follow_cons, Option.bind_eq_some_iff] at reached
    obtain ⟨next, found, reached⟩ := reached
    unfold at? at found
    split at found
    · next id index =>
      cases depth with
      | zero => cases done
      | succ depth =>
        rw [exportWithin?] at done
        obtain ⟨items, done, _⟩ := Option.map_eq_some_iff.1 done
        have member : next ∈ (store.array id).toList :=
          Array.mem_toList_iff.2 (Array.mem_of_getElem? found)
        obtain ⟨json, done⟩ := exists_of_mapM_eq_some done next member
        exact Nat.succ_le_succ (ih done reached)
    · next id key =>
      cases depth with
      | zero => cases done
      | succ depth =>
        rw [exportWithin?] at done
        obtain ⟨members, done, _⟩ := Option.map_eq_some_iff.1 done
        obtain ⟨member, done⟩ := exists_of_mapM_eq_some done _ (Dict.mem_entries.2 found)
        obtain ⟨json, done, _⟩ := Option.map_eq_some_iff.1 done
        exact Nat.succ_le_succ (ih done reached)
    · cases found

/-- A path that leads back can be taken any number of times. -/
theorem follow_replicate {path : List Place} (back : store.follow value path = some value)
    (times : Nat) : store.follow value (List.replicate times path).flatten = some value := by
  induction times with
  | zero => exact store.follow_nil value
  | succ times ih =>
    rw [List.replicate_succ, List.flatten_cons, follow_append, back]
    exact ih

/-- **Writing out ends exactly if the value is acyclic.** -/
theorem exists_exportWithin?_iff (grounded : store.Grounded value) :
    (∃ depth json, store.exportWithin? depth value = some json) ↔ store.Acyclic value := by
  constructor
  · rintro ⟨depth, json, done⟩ path container reached place rest back
    -- going around once more than the depth is too long
    have around : store.follow value (path ++
        (List.replicate (depth + 1) (place :: rest)).flatten) = some container.value := by
      rw [follow_append, reached]
      exact follow_replicate back (depth + 1)
    have short := length_le_of_exportWithin? done around
    rw [List.length_append, List.length_flatten, List.map_replicate, List.sum_replicate_nat,
      List.length_cons, Nat.mul_add] at short
    omega
  · intro acyclic
    exact ⟨store.containers.length, _, exportWithin?_eq grounded acyclic (store.clear_none value)
      List.countP_le_length⟩

end Store

end Contracts
