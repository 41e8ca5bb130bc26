import Contracts.Heap.Store

/-!
# Open containers

Whoever follows values into containers keeps the set of those that are open on the way,
so that none is opened inside itself.  The set has a bit for each container, which makes
it cheap to ask and to extend on deep paths and among many containers alike.

## Main definitions

* `Container` — what has contents in the store.
* `Opened` — a set of containers.
* `Store.containers` — all containers of a store.

## Main results

* `Opened.contains_insert` — the members of a set after an insertion.
* `Opened.countP_insert_lt` — opening a container leaves fewer to open, so following
  values ends.
-/

namespace Contracts

/-- What has contents in the store. -/
inductive Container where
  /-- A record. -/
  | record (id : RecordId) : Container
  /-- An array. -/
  | array (id : ArrayId) : Container
  deriving DecidableEq, Repr

/-- A set of containers. -/
structure Opened where
  /-- The records, a bit for each. -/
  records : Nat
  /-- The arrays, a bit for each. -/
  arrays : Nat
  deriving DecidableEq, Repr

namespace Opened

/-- No container. -/
def none : Opened := ⟨0, 0⟩

/-- Whether a container is in the set. -/
def contains (opened : Opened) : Container → Bool
  | .record id => opened.records.testBit id.index
  | .array id => opened.arrays.testBit id.index

/-- Put a container into the set. -/
def insert (opened : Opened) : Container → Opened
  | .record id => { opened with records := opened.records ||| 1 <<< id.index }
  | .array id => { opened with arrays := opened.arrays ||| 1 <<< id.index }

@[simp] theorem contains_none (container : Container) : none.contains container = false := by
  cases container <;> exact Nat.zero_testBit _

theorem contains_insert (opened : Opened) (container other : Container) :
    (opened.insert container).contains other =
      (opened.contains other || decide (other = container)) := by
  rcases container with ⟨⟨index⟩⟩ | ⟨⟨index⟩⟩ <;> rcases other with ⟨⟨index'⟩⟩ | ⟨⟨index'⟩⟩
  case record.record | array.array =>
    simp only [insert, contains, Nat.testBit_or, Nat.one_shiftLeft, Nat.testBit_two_pow,
      Container.record.injEq, Container.array.injEq, RecordId.mk.injEq, ArrayId.mk.injEq,
      eq_comm (a := index)]
  all_goals exact (Bool.or_false _).symm

/-- Opening one of some containers leaves fewer to open. -/
theorem countP_insert_lt {opened : Opened} {container : Container}
    {containers : List Container} (h : container ∈ containers)
    (h' : opened.contains container = false) :
    containers.countP (fun other => !(opened.insert container).contains other) <
      containers.countP fun other => !opened.contains other := by
  induction containers with
  | nil => exact absurd h List.not_mem_nil
  | cons first rest ih =>
    have le : rest.countP (fun other => !(opened.insert container).contains other) ≤
        rest.countP fun other => !opened.contains other :=
      List.countP_mono_left fun other _ closed => by
        rw [contains_insert] at closed
        grind
    rw [List.countP_cons, List.countP_cons, contains_insert]
    rcases List.mem_cons.1 h with rfl | h
    · grind
    · have := ih h
      grind
end Opened

namespace Store

/-- All records and all arrays. -/
def containers (store : Store) : List Container :=
  (List.range store.records.size).map (fun index => .record ⟨index⟩) ++
    (List.range store.arrays.size).map (fun index => .array ⟨index⟩)

theorem record_mem_containers {store : Store} {id : RecordId} (h : store.HasRecord id) :
    .record id ∈ store.containers :=
  List.mem_append_left _ (List.mem_map.2 ⟨id.index, List.mem_range.2 h, rfl⟩)

theorem array_mem_containers {store : Store} {id : ArrayId} (h : store.HasArray id) :
    .array id ∈ store.containers :=
  List.mem_append_right _ (List.mem_map.2 ⟨id.index, List.mem_range.2 h, rfl⟩)

/-- How many containers are not open. -/
def closed (store : Store) (opened : Opened) : Nat :=
  store.containers.countP fun container => !opened.contains container

end Store

end Contracts
