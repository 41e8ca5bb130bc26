import Contracts.Proofs.Heap.Paths
import Contracts.Proofs.Number

/-!
# Values that went through JSON

A value that is written out as JSON and made again from that is a tree of containers of its
own, whatever containers it shared before.  It is written out as the first one was, except
for what JSON cannot say: what was never written, functions and numbers that are not finite
have become null, and zero has lost its sign.

## Main definitions

* `Number.exported?`, `Tree.exported` — what comes back.
* `Tree.ofJson` — how a value made from a JSON value is written out.
* `Store.Plants` — a value was made that is a tree of new containers.

## Main results

* `Number.exists_toJson` — **finite numbers come back as what they were.**
* `Store.plants_addJson` — **making a value from a JSON value plants a tree.**
* `Store.unfold_addJson` — it is written out as the JSON value says.
* `Store.exchange_eq_exported` — what becomes of a value on its way through JSON.
-/

namespace Contracts

/-! ### Numbers -/

namespace Number

/-- A number as it comes back, if it does: zero has no sign then. -/
def exported? : Number → Option Number
  | .finite negative units representable =>
      some (.finite (negative && units != 0) units representable)
  | _ => none

/-- **Finite numbers come back** from the JSON value that they are written as. -/
theorem exists_toJson {x y : Number} (h : x.exported? = some y) :
    ∃ n, x.toJson = .number n ∧ n.toNumber = y := by
  cases x with
  | nan => cases h
  | infinite negative => cases h
  | finite negative units representable =>
    cases h
    unfold toJson
    cases safe : (finite negative units representable).safeInteger? with
    | some i => exact ⟨.integer i, rfl, ofInt_of_safeInteger? safe⟩
    | none =>
      refine ⟨.float _, rfl, ?_⟩
      -- zero would have been written as an integer
      have nonzero : units ≠ 0 := by
        rintro rfl
        simp [safeInteger?] at safe
      simp [JsonNumber.toNumber, nonzero]

theorem toJson_eq_null {x : Number} (h : x.exported? = none) : x.toJson = .null := by
  cases x with
  | nan => rfl
  | infinite negative => rfl
  | finite negative units representable => cases h

/-- What comes back is equal to what it was, and the same but for the sign of zero. -/
theorem equal_of_exported? {x y : Number} (h : x.exported? = some y) :
    y.equal x = true ∧ (x ≠ zero true → y = x) := by
  cases x with
  | nan => cases h
  | infinite negative => cases h
  | finite negative units representable =>
    cases h
    by_cases nonzero : units = 0
    · subst nonzero
      refine ⟨by simp [equal], fun different => ?_⟩
      cases negative with
      | false => rfl
      | true => exact absurd rfl different
    · simp [equal, nonzero]

theorem exists_exported? {x : Number} (finite : x.isFinite = true) : ∃ y, x.exported? = some y := by
  cases x with
  | nan => cases finite
  | infinite negative => cases finite
  | finite negative units representable => exact ⟨_, rfl⟩

end Number

/-! ### Trees -/

namespace Tree

mutual

/-- A tree as it comes back: what JSON cannot say has become null. -/
def exported : Tree → Tree
  | .undefined | .null | .function .. | .enclosing => .null
  | .boolean b => .boolean b
  | .number x =>
      match x.exported? with
      | some y => .number y
      | none => .null
  | .string s => .string s
  | .array items => .array (exportedItems items)
  | .record entries => .record (exportedEntries entries)

/-- The items of an array as they come back. -/
def exportedItems : List Tree → List Tree
  | [] => []
  | item :: rest => item.exported :: exportedItems rest

/-- The entries of a record as they come back. -/
def exportedEntries : List (String × Tree) → List (String × Tree)
  | [] => []
  | (key, value) :: rest => (key, value.exported) :: exportedEntries rest

end

mutual

/-- The tree of a value made from a JSON value. -/
def ofJson : Json → Tree
  | .null => .null
  | .boolean b => .boolean b
  | .number n => .number n.toNumber
  | .string s => .string s
  | .array items => .array (ofJsonItems items)
  | .object members => .record (Dict.ofList (ofJsonMembers members)).entries

/-- The trees of the items of an array. -/
def ofJsonItems : List Json → List Tree
  | [] => []
  | item :: rest => ofJson item :: ofJsonItems rest

/-- The trees of the members of an object. -/
def ofJsonMembers : List (String × Json) → List (String × Tree)
  | [] => []
  | (key, member) :: rest => (key, ofJson member) :: ofJsonMembers rest

end

theorem exportedItems_eq_map (items : List Tree) : exportedItems items = items.map exported := by
  induction items with
  | nil => rfl
  | cons item rest ih => rw [exportedItems, ih, List.map_cons]

theorem exportedEntries_eq_map (entries : List (String × Tree)) :
    exportedEntries entries = entries.map fun entry => (entry.1, entry.2.exported) := by
  induction entries with
  | nil => rfl
  | cons entry rest ih => rw [exportedEntries, ih, List.map_cons]

theorem ofJsonItems_eq_map (items : List Json) : ofJsonItems items = items.map ofJson := by
  induction items with
  | nil => rfl
  | cons item rest ih => rw [ofJsonItems, ih, List.map_cons]

theorem ofJsonMembers_eq_map (members : List (String × Json)) :
    ofJsonMembers members = members.map fun member => (member.1, ofJson member.2) := by
  induction members with
  | nil => rfl
  | cons member rest ih => rw [ofJsonMembers, ih, List.map_cons]

theorem ofJson_toJson_number (x : Number) : ofJson x.toJson = (number x).exported := by
  rw [exported]
  cases back : x.exported? with
  | none =>
    rw [Number.toJson_eq_null back]
    rfl
  | some y =>
    obtain ⟨n, written, rfl⟩ := Number.exists_toJson back
    rw [written]
    rfl

end Tree

namespace Store

variable {store before middle after : Store} {value : Value} {values : List Value}

/-- What is written out and made again is what comes back. -/
theorem ofJson_toJson_unfoldWithin (store : Store) (opened : Opened) (value : Value) :
    Tree.ofJson (store.unfoldWithin opened value).toJson =
      (store.unfoldWithin opened value).exported := by
  fun_induction store.unfoldWithin opened value with
  | case4 opened x => exact Tree.ofJson_toJson_number x
  | case7 opened id opens ih =>
    rw [Tree.toJson, Tree.toJsonItems_eq_map, Tree.ofJson, Tree.ofJsonItems_eq_map, Tree.exported,
      Tree.exportedItems_eq_map, List.map_map, List.map_map, List.map_map]
    exact congrArg Tree.array (List.map_congr_left fun value _ => ih value)
  | case9 opened id opens ih =>
    have entries : ((store.record id).entries.map fun entry => (entry.1, Tree.ofJson
        (store.unfoldWithin (opened.insert (.record id)) entry.2).toJson)).Pairwise
          fun a b => a.1 < b.1 :=
      List.pairwise_map.2 (store.record id).ascending
    rw [Tree.toJson, Tree.toJsonMembers_eq_map, Tree.ofJson, Tree.ofJsonMembers_eq_map,
      Tree.exported, Tree.exportedEntries_eq_map, List.map_map, List.map_map, List.map_map]
    refine congrArg Tree.record ((Dict.entries_ofList_of_ascending entries).trans ?_)
    exact List.map_congr_left fun entry _ => congrArg (Prod.mk entry.1) (ih entry)
  | _ => rfl

/-! ### Trees of new containers -/

/-- A value was made that is a tree: the containers that it reaches were made with it, each is
reached on one path, and nothing that was made before has changed. -/
structure Plants (before after : Store) (value : Value) : Prop where
  /-- What was made before has not changed. -/
  kept : Extends before after
  /-- What is reached was not made before. -/
  fresh : ∀ path container, after.follow value path = some (Container.value container) →
    after.Has container ∧ ¬ before.Has container
  /-- Different paths lead to different containers. -/
  single : ∀ path path' container, after.follow value path = some (Container.value container) →
    after.follow value path' = some container.value → path = path'

/-- Several values were made that are trees, without a container in common. -/
structure PlantsAll (before after : Store) (values : List Value) : Prop where
  /-- What was made before has not changed. -/
  kept : Extends before after
  /-- What is reached was not made before. -/
  fresh : ∀ value ∈ values, ∀ path container,
    after.follow value path = some (Container.value container) →
      after.Has container ∧ ¬ before.Has container
  /-- Different paths lead to different containers, also from different values. -/
  single : ∀ (i j : Nat) first second path path' container, values[i]? = some first →
    values[j]? = some second → after.follow first path = some (Container.value container) →
      after.follow second path' = some container.value → i = j ∧ path = path'

theorem Plants.grounded (h : Plants before after value) : after.Grounded value :=
  fun path container reached => (h.fresh path container reached).1

/-- A tree is acyclic. -/
theorem Plants.acyclic (h : Plants before after value) : after.Acyclic value := by
  intro path container reached place rest back
  have longer : after.follow value (path ++ place :: rest) = some container.value := by
    rw [follow_append, reached]
    exact back
  have same := h.single path _ container reached longer
  exact absurd (List.self_eq_append_right.1 same) (List.cons_ne_nil place rest)

theorem PlantsAll.grounded (h : PlantsAll before after values) :
    ∀ value ∈ values, after.Grounded value :=
  fun value member path container reached => (h.fresh value member path container reached).1

/-- Nothing is reached from a value that is no container. -/
theorem plants_of_no_container (store : Store)
    (h : ∀ container : Container, value ≠ container.value) : Plants store store value := by
  have nothing : ∀ path container,
      store.follow value path ≠ some (Container.value container) := by
    intro path container reached
    cases path with
    | nil =>
      rw [follow_nil] at reached
      exact h container (Option.some.inj reached)
    | cons place rest =>
      rw [follow_cons, Option.bind_eq_some_iff] at reached
      obtain ⟨inner, found, _⟩ := reached
      obtain ⟨outer, same⟩ := exists_container_of_at? found
      exact h outer same
  exact ⟨.refl store, fun path container reached => absurd reached (nothing path container),
    fun path _ container reached _ => absurd reached (nothing path container)⟩

theorem plantsAll_nil (store : Store) : PlantsAll store store [] :=
  ⟨.refl store, fun _ member => (nomatch member), fun _ _ _ _ _ _ _ found => nomatch found⟩

theorem plantsAll_cons (first : Plants before middle value) (rest : PlantsAll middle after values) :
    PlantsAll before after (value :: values) := by
  -- the first tree is as it was when it was made
  have follows : ∀ path, after.follow value path = middle.follow value path :=
    rest.kept.follow first.grounded
  have old : ∀ path container, after.follow value path = some (Container.value container) →
      middle.Has container := fun path container reached =>
    (first.fresh path container (follows path ▸ reached)).1
  have new : ∀ (j : Nat) second path container, values[j]? = some second →
      after.follow second path = some (Container.value container) → ¬ middle.Has container :=
    fun j second path container listed reached =>
      (rest.fresh second (List.mem_of_getElem? listed) path container reached).2
  refine ⟨first.kept.trans rest.kept, fun other member path container reached => ?_, ?_⟩
  · rcases List.mem_cons.1 member with rfl | member
    · rw [follows] at reached
      have fresh := first.fresh path container reached
      exact ⟨rest.kept.grows container fresh.1, fresh.2⟩
    · have fresh := rest.fresh other member path container reached
      exact ⟨fresh.1, fun made => fresh.2 (first.kept.grows container made)⟩
  · intro i j one other path path' container listed listed' reached reached'
    cases i with
    | zero =>
      cases listed
      cases j with
      | zero =>
        cases listed'
        rw [follows] at reached reached'
        exact ⟨rfl, first.single path path' container reached reached'⟩
      | succ j =>
        exact absurd (old path container reached) (new j other path' container listed' reached')
    | succ i =>
      cases j with
      | zero =>
        cases listed'
        exact absurd (old path' container reached') (new i one path container listed reached)
      | succ j =>
        obtain ⟨same, paths⟩ := rest.single i j one other path path' container listed listed'
          reached reached'
        exact ⟨congrArg (· + 1) same, paths⟩

/-- A new container of trees is a tree, if it has each of them at one place. -/
theorem plants_container (container : Container) (sits : Place → Nat → Prop)
    (planted : PlantsAll before middle values) (kept : Extends middle after)
    (made : after.Has container) (new : ¬ middle.Has container)
    (places : ∀ place inner, after.at? container.value place = some inner →
      ∃ i, sits place i ∧ values[i]? = some inner)
    (once : ∀ place place' i, sits place i → sits place' i → place = place') :
    Plants before after container.value := by
  -- below the container everything was there before it
  have below : ∀ place rest other,
      after.follow container.value (place :: rest) = some (Container.value other) →
        ∃ (i : Nat) (inner : Value), sits place i ∧ values[i]? = some inner ∧
          middle.follow inner rest = some other.value := by
    intro place rest other reached
    rw [follow_cons, Option.bind_eq_some_iff] at reached
    obtain ⟨inner, found, reached⟩ := reached
    obtain ⟨i, here, listed⟩ := places place inner found
    rw [kept.follow (planted.grounded inner (List.mem_of_getElem? listed))] at reached
    exact ⟨i, inner, here, listed, reached⟩
  have made_below : ∀ place rest other,
      after.follow container.value (place :: rest) = some (Container.value other) →
        middle.Has other ∧ ¬ before.Has other := by
    intro place rest other reached
    obtain ⟨i, inner, _, listed, reached⟩ := below place rest other reached
    exact planted.fresh inner (List.mem_of_getElem? listed) rest other reached
  refine ⟨planted.kept.trans kept, fun path other reached => ?_, ?_⟩
  · cases path with
    | nil =>
      rw [follow_nil] at reached
      cases Container.value_inj (Option.some.inj reached)
      exact ⟨made, fun earlier => new (planted.kept.grows container earlier)⟩
    | cons place rest =>
      have fresh := made_below place rest other reached
      exact ⟨kept.grows other fresh.1, fresh.2⟩
  · intro path path' other reached reached'
    cases path with
    | nil =>
      rw [follow_nil] at reached
      cases Container.value_inj (Option.some.inj reached)
      cases path' with
      | nil => rfl
      | cons place' rest' => exact absurd (made_below place' rest' container reached').1 new
    | cons place rest =>
      cases path' with
      | nil =>
        rw [follow_nil] at reached'
        cases Container.value_inj (Option.some.inj reached')
        exact absurd (made_below place rest container reached).1 new
      | cons place' rest' =>
        obtain ⟨i, inner, here, listed, reached⟩ := below place rest other reached
        obtain ⟨j, inner', here', listed', reached'⟩ := below place' rest' other reached'
        obtain ⟨rfl, rfl⟩ := planted.single i j inner inner' rest rest' other listed listed'
          reached reached'
        rw [once place place' i here here']

theorem plants_newArray (planted : PlantsAll before middle values) :
    Plants before (middle.newArray values.toArray).1
      (.array (middle.newArray values.toArray).2) := by
  refine plants_container (.array (middle.newArray values.toArray).2)
    (fun place i => place = .item i) planted (middle.extends_newArray values.toArray)
    (middle.hasArray_newArray values.toArray) (middle.not_hasArray_newArray values.toArray) ?_ ?_
  · intro place inner found
    cases place with
    | item i =>
      refine ⟨i, rfl, ?_⟩
      rw [Container.value, at?, array_newArray, if_pos rfl, List.getElem?_toArray] at found
      exact found
    | entry key => cases found
  · rintro place place' i rfl rfl
    rfl

theorem plants_newRecord {entries : List (String × Value)}
    (planted : PlantsAll before middle (entries.map Prod.snd)) :
    Plants before (middle.newRecord (.ofList entries)).1
      (.record (middle.newRecord (.ofList entries)).2) := by
  refine plants_container (.record (middle.newRecord (.ofList entries)).2)
    (fun place i => ∃ key value, place = .entry key ∧ entries[i]? = some (key, value)) planted
    (middle.extends_newRecord _) (middle.hasRecord_newRecord _)
    (middle.not_hasRecord_newRecord _) ?_ ?_
  · intro place inner found
    cases place with
    | item i => cases found
    | entry key =>
      rw [Container.value, at?, record_newRecord_self] at found
      obtain ⟨i, listed⟩ := List.mem_iff_getElem?.1 (Dict.mem_of_get?_ofList found)
      exact ⟨i, ⟨key, inner, rfl, listed⟩, by rw [List.getElem?_map, listed]; rfl⟩
  · rintro place place' i ⟨key, value, rfl, listed⟩ ⟨key', value', rfl, listed'⟩
    rw [listed] at listed'
    cases listed'
    rfl

mutual

/-- **Making a value from a JSON value plants a tree.** -/
theorem plants_addJson (store : Store) (json : Json) :
    Plants store (store.addJson json).1 (store.addJson json).2 := by
  cases json with
  | array items => exact plants_newArray (plantsAll_addItems store items)
  | object members => exact plants_newRecord (plantsAll_addMembers store members)
  | _ =>
    exact plants_of_no_container store fun container wrong => by
      cases container <;> cases wrong

theorem plantsAll_addItems (store : Store) (items : List Json) :
    PlantsAll store (store.addItems items).1 (store.addItems items).2 := by
  cases items with
  | nil => exact plantsAll_nil store
  | cons item rest =>
    exact plantsAll_cons (plants_addJson store item) (plantsAll_addItems _ rest)

theorem plantsAll_addMembers (store : Store) (members : List (String × Json)) :
    PlantsAll store (store.addMembers members).1 ((store.addMembers members).2.map Prod.snd) := by
  cases members with
  | nil => exact plantsAll_nil store
  | cons member rest =>
    exact plantsAll_cons (plants_addJson store member.2) (plantsAll_addMembers _ rest)

end

/-! ### How what was made is written out -/

mutual

/-- **What was made from a JSON value is written out as the JSON value says.** -/
theorem unfold_addJson (store : Store) (json : Json) :
    (store.addJson json).1.unfold (store.addJson json).2 = Tree.ofJson json := by
  have planted := plants_addJson store json
  cases json with
  | null | boolean _ | number _ | string _ =>
    simp only [addJson, unfold, unfoldWithin, Tree.ofJson]
  | array items =>
    simp only [addJson] at planted ⊢
    have grounded := (plantsAll_addItems store items).grounded
    have inside := unfold_addItems store items
    generalize store.addItems items = made at planted grounded inside ⊢
    obtain ⟨middle, values⟩ := made
    rw [unfold_array planted.grounded planted.acyclic, array_newArray, if_pos rfl, Tree.ofJson,
      ← inside]
    exact congrArg Tree.array (List.map_congr_left fun value member =>
      (middle.extends_newArray _).unfold (grounded value member))
  | object members =>
    simp only [addJson] at planted ⊢
    have grounded := (plantsAll_addMembers store members).grounded
    have inside := unfold_addMembers store members
    generalize store.addMembers members = made at planted grounded inside ⊢
    obtain ⟨middle, entries⟩ := made
    rw [unfold_record planted.grounded planted.acyclic, record_newRecord_self, Tree.ofJson,
      ← inside, Dict.entries_ofList_map]
    refine congrArg Tree.record (List.map_congr_left fun entry member => ?_)
    have listed := Dict.mem_of_get?_ofList (Dict.mem_entries.1 member)
    exact congrArg (Prod.mk entry.1) ((middle.extends_newRecord _).unfold
      (grounded entry.2 (List.mem_map_of_mem listed)))

theorem unfold_addItems (store : Store) (items : List Json) :
    (store.addItems items).2.map (store.addItems items).1.unfold = Tree.ofJsonItems items := by
  cases items with
  | nil => rfl
  | cons item rest =>
    have kept := (plantsAll_addItems (store.addJson item).1 rest).kept
    have grounded := (plants_addJson store item).grounded
    have first := unfold_addJson store item
    have others := unfold_addItems (store.addJson item).1 rest
    rw [addItems, List.map_cons, Tree.ofJsonItems, others, kept.unfold grounded, first]

theorem unfold_addMembers (store : Store) (members : List (String × Json)) :
    ((store.addMembers members).2.map fun entry =>
        (entry.1, (store.addMembers members).1.unfold entry.2)) =
      Tree.ofJsonMembers members := by
  cases members with
  | nil => rfl
  | cons member rest =>
    obtain ⟨key, json⟩ := member
    have kept := (plantsAll_addMembers (store.addJson json).1 rest).kept
    have grounded := (plants_addJson store json).grounded
    have first := unfold_addJson store json
    have others := unfold_addMembers (store.addJson json).1 rest
    rw [addMembers, List.map_cons, Tree.ofJsonMembers, others, kept.unfold grounded, first]

end

/-! ### There and back -/

/-- **The main theorem**: an acyclic value can be written out as JSON without a look at what is
open, and each container that it reaches is written out as what is in it.  The value that is
made from this in any store is written out as the first one was, but for what JSON cannot say;
it is a tree of containers that were not there before, and nothing that was there has changed.
As to numbers, each that is finite comes back equal to what it was, and the same unless it was
the negative zero. -/
theorem exchange_eq_exported (grounded : store.Grounded value) (acyclic : store.Acyclic value) :
    let json := store.toJson value
    (∀ depth, store.containers.length ≤ depth →
      store.exportWithin? depth value = some json) ∧
    (∀ path inner, store.follow value path = some inner →
      (∀ id, inner = .array id →
        store.unfold inner = .array ((store.array id).toList.map store.unfold)) ∧
      ∀ id, inner = .record id →
        store.unfold inner =
          .record ((store.record id).entries.map fun entry => (entry.1, store.unfold entry.2))) ∧
    (∀ other : Store,
      let made := other.addJson json
      made.1.unfold made.2 = (store.unfold value).exported ∧ other.Plants made.1 made.2) ∧
    ∀ x : Number, x.isFinite = true → ∃ n, x.toJson = .number n ∧
      n.toNumber.equal x = true ∧ (x ≠ .zero true → n.toNumber = x) := by
  intro json
  refine ⟨fun depth deep => ?_, fun path inner reached => ⟨?_, ?_⟩, fun other => ⟨?_, ?_⟩, ?_⟩
  · have few : store.closed .none ≤ store.containers.length := List.countP_le_length
    exact exportWithin?_eq grounded acyclic (store.clear_none value) (Nat.le_trans few deep)
  · rintro id rfl
    exact unfold_array (grounded.reached reached) (acyclic.reached reached)
  · rintro id rfl
    exact unfold_record (grounded.reached reached) (acyclic.reached reached)
  · exact (unfold_addJson other json).trans (store.ofJson_toJson_unfoldWithin .none value)
  · exact plants_addJson other json
  · intro x finite
    obtain ⟨y, back⟩ := Number.exists_exported? finite
    obtain ⟨n, written, rfl⟩ := Number.exists_toJson back
    exact ⟨n, written, Number.equal_of_exported? back⟩

/-- A record with an array under two keys, in which there are the negative zero, not-a-number
and a value that was never written. -/
theorem exchange_eq_exported_shared :
    let items : Array Value := #[.number (.zero true), .number .nan, .undefined]
    let array := Store.empty.newArray items
    let entries : List (String × Value) :=
      [("a", .array array.2), ("b", .array array.2), ("c", .function (.native ⟨0⟩ "f" 1 ⟨"first"⟩))]
    let record := array.1.newRecord (.ofList entries)
    let store := record.1
    let value : Value := .record record.2
    let made := store.addJson (store.toJson value)
    store.Grounded value ∧ store.Acyclic value ∧
      store.follow value [.entry "a"] = store.follow value [.entry "b"] ∧
      store.exportWithin? 2 value = some (store.toJson value) ∧
      made.1.unfold made.2 = .record
        [("a", .array [.number (.zero false), .null, .null]),
          ("b", .array [.number (.zero false), .null, .null]), ("c", .null)] ∧
      ∀ container : Container, made.1.follow made.2 [.entry "a"] = some container.value →
        ¬ store.Has container ∧ made.1.follow made.2 [.entry "b"] ≠ some container.value := by
  intro items array entries record store value made
  have none : Store.empty.Secludes fun _ => False :=
    ⟨fun _ wrong => wrong.elim, fun _ _ _ found => (nomatch found),
      fun _ _ member => (nomatch member)⟩
  have scalars : ∀ item ∈ items, item.Within (Store.empty.Visible fun _ => False) := by
    simp [items]
  obtain ⟨made₁, visible₁⟩ := respects_newArray none scalars
  have members : ∀ entry ∈ entries, entry.2.Within (array.1.Visible fun _ => False) := by
    simpa [entries] using visible₁
  obtain ⟨made₂, visible₂⟩ := respects_newRecord made₁.secludes (within_ofList members)
  have grounded : store.Grounded value :=
    made₂.secludes.grounded ((Value.within_record _).2 visible₂)
  have ends : (store.exportWithin? 2 value).isSome = true := by decide +kernel
  obtain ⟨json, ends⟩ := Option.isSome_iff_exists.1 ends
  have acyclic : store.Acyclic value := (exists_exportWithin?_iff grounded).1 ⟨2, json, ends⟩
  obtain ⟨ended, inside, back, -⟩ := exchange_eq_exported grounded acyclic
  obtain ⟨same, planted⟩ := back store
  have listed : (store.record record.2).entries = entries := by
    rw [record_newRecord_self, Dict.entries_ofList_of_ascending (by decide +kernel)]
  have places : ∀ entry ∈ (store.record record.2).entries,
      store.follow value [.entry entry.1] = some entry.2 := by
    intro entry member
    rw [follow_cons, at?_record member]
    rfl
  have left := places ("a", .array array.2) (by simp [listed, entries])
  have right := places ("b", .array array.2) (by simp [listed, entries])
  refine ⟨grounded, acyclic, left.trans right.symm, ended 2 (by decide), ?_,
    fun container reached => ?_⟩
  · have shared := (inside [.entry "a"] (.array array.2) left).1 _ rfl
    have whole := (inside [] value rfl).2 _ rfl
    have held : (store.array array.2).toList = items.toList := rfl
    rw [same, whole, listed]
    simp only [entries, List.map_cons, List.map_nil, shared, held, items]
    simp only [unfold, unfoldWithin, Tree.exported, Tree.exportedEntries, Tree.exportedItems]
    rfl
  · refine ⟨(planted.fresh _ container reached).2, fun reached' => ?_⟩
    exact absurd (planted.single _ _ container reached reached') (by decide)

end Store

end Contracts
