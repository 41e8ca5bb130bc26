import Contracts.Proofs.Heap.Application

/-!
# Call trees

An application to which arguments are given is left as it is, so it can be given others
later.  The applications that one function leads to are thus the nodes of a tree: its root
is the function with nothing given, and the children of a node are what is left of it
after some arguments that did not suffice.  Arguments can be given at any node, in any
order, as often as one likes, and anything else may happen to the store meanwhile.

Of such a tree a plain account can be given, in which there are no applications at all.
It keeps for each node its **path**, the lists of arguments that were given on the way
from the root.  As long as their lengths do not add up to the arity, a longer path is all
that comes of giving arguments; when they do, the function is called, once, with the
first of the arguments along the path.

## Main definitions

* `CallTree` — applications at hand, in a store.
* `CallTree.Move` — give arguments at a node, or do something else.
* `PathTree` — the paths of the nodes, and the same moves.

## Main results

* `CallTree.Follows.step` — one move, in both.
* `CallTree.outcomes_eq_paths` — **a call tree is what the account says.**
-/

namespace Contracts

/-! ### The tree -/

/-- Applications at hand, in a store. -/
structure CallTree where
  /-- The store. -/
  store : Store
  /-- The applications, by age. -/
  nodes : List Application

namespace CallTree

/-- What can be done in turn. -/
inductive Move where
  /-- Give arguments at a node. -/
  | give (node : Nat) (arguments : List Value) : Move
  /-- Do anything else to the store. -/
  | meanwhile (change : Store → Store) : Move

/-- A function to which nothing was given yet. -/
def root (store : Store) (f : Callable) : CallTree := ⟨store, [.of f]⟩

/-- Make a move.  What waits for more arguments is a new node. -/
def step (tree : CallTree) (bodies : Bodies) : Move → CallTree × Option Applied
  | .meanwhile change => ({ tree with store := change tree.store }, none)
  | .give node arguments =>
      match tree.nodes[node]? with
      | none => (tree, none)
      | some application =>
          match tree.store.apply bodies application arguments with
          | (store, .complete value) => (⟨store, tree.nodes⟩, some (.complete value))
          | (store, .incomplete next) => (⟨store, tree.nodes ++ [next]⟩, some (.incomplete next))

/-- The tree after moves in turn. -/
def after (tree : CallTree) (bodies : Bodies) (moves : List Move) : CallTree :=
  moves.foldl (fun tree move => (tree.step bodies move).1) tree

/-- What comes of moves in turn. -/
def outcomes (tree : CallTree) (bodies : Bodies) : List Move → List (Option Applied)
  | [] => []
  | move :: rest => (tree.step bodies move).2 :: (tree.step bodies move).1.outcomes bodies rest

end CallTree

/-! ### The account -/

/-- The paths of the nodes of a call tree. -/
structure PathTree where
  /-- The store. -/
  store : Store
  /-- For each node, by age, the lists of arguments on the way to it. -/
  paths : List (List (List Value))

namespace PathTree

/-- The empty path leads to the function itself. -/
def root (store : Store) : PathTree := ⟨store, [[]]⟩

/-- Make a move: go on along a path as long as its arguments do not suffice, and call the
function with the first of them when they do. -/
def step (tree : PathTree) (bodies : Bodies) (f : Callable) :
    CallTree.Move → PathTree × Option Applied
  | .meanwhile change => ({ tree with store := change tree.store }, none)
  | .give node arguments =>
      match tree.paths[node]? with
      | none => (tree, none)
      | some path =>
          let all := (path ++ [arguments]).flatten
          if all.length < f.arity then
            (⟨tree.store, tree.paths ++ [path ++ [arguments]]⟩, some (.incomplete ⟨f, all⟩))
          else
            let (store, value) := tree.store.call bodies f (all.take f.arity)
            (⟨store, tree.paths⟩, some (.complete value))

/-- The account after moves in turn. -/
def after (tree : PathTree) (bodies : Bodies) (f : Callable) (moves : List CallTree.Move) :
    PathTree :=
  moves.foldl (fun tree move => (tree.step bodies f move).1) tree

/-- What comes of moves in turn. -/
def outcomes (tree : PathTree) (bodies : Bodies) (f : Callable) :
    List CallTree.Move → List (Option Applied)
  | [] => []
  | move :: rest =>
      (tree.step bodies f move).2 :: (tree.step bodies f move).1.outcomes bodies f rest

end PathTree

namespace CallTree

variable {bodies : Bodies} {f : Callable} {tree : CallTree} {account : PathTree}

/-! ### The tree follows the account -/

/-- Each application holds what was given along its path, which does not suffice unless
nothing was given at all. -/
structure Follows (f : Callable) (tree : CallTree) (account : PathTree) : Prop where
  /-- The store is one. -/
  store : tree.store = account.store
  /-- An application holds the arguments along its path. -/
  nodes : tree.nodes = account.paths.map fun path => ⟨f, path.flatten⟩
  /-- They do not suffice. -/
  few : ∀ path ∈ account.paths, path ≠ [] → path.flatten.length < f.arity

namespace Follows

theorem root (store : Store) (f : Callable) : (root store f).Follows f (.root store) :=
  ⟨rfl, rfl, fun _ member nonempty => absurd (List.mem_singleton.1 member) nonempty⟩

theorem node (h : tree.Follows f account) (i : Nat) :
    tree.nodes[i]? = account.paths[i]?.map fun path => ⟨f, path.flatten⟩ := by
  rw [h.nodes, List.getElem?_map]

/-- **One move** does the same in both, and has the same outcome. -/
theorem step (h : tree.Follows f account) (move : Move) :
    (tree.step bodies move).1.Follows f (account.step bodies f move).1 ∧
      (tree.step bodies move).2 = (account.step bodies f move).2 := by
  cases move with
  | meanwhile change =>
    exact ⟨⟨congrArg change h.store, h.nodes, h.few⟩, rfl⟩
  | give node arguments =>
    simp only [CallTree.step, PathTree.step, h.node]
    cases found : account.paths[node]? with
    | none => exact ⟨h, rfl⟩
    | some path =>
      have all : (path ++ [arguments]).flatten = path.flatten ++ arguments := by simp
      simp only [Option.map_some, all]
      by_cases few : (path.flatten ++ arguments).length < f.arity
      · -- the new node goes to the end of both lists
        rw [if_pos few, Store.apply_of_lt ⟨f, path.flatten⟩ few]
        refine ⟨⟨h.store, ?_, fun other member nonempty => ?_⟩, rfl⟩
        · rw [List.map_append, ← h.nodes, List.map_singleton, all]
        · rcases List.mem_append.1 member with member | member
          · exact h.few other member nonempty
          · rw [List.mem_singleton.1 member, all]
            exact few
      · have enough := Nat.le_of_not_lt few
        rw [if_neg few, Store.apply_of_le ⟨f, path.flatten⟩ enough, h.store]
        exact ⟨⟨rfl, h.nodes, h.few⟩, rfl⟩

/-- So does any number of moves. -/
theorem after (h : tree.Follows f account) (moves : List Move) :
    (tree.after bodies moves).Follows f (account.after bodies f moves) ∧
      tree.outcomes bodies moves = account.outcomes bodies f moves := by
  induction moves generalizing tree account with
  | nil => exact ⟨h, rfl⟩
  | cons move rest ih =>
    obtain ⟨follows, outcome⟩ := h.step move
    obtain ⟨last, outcomes⟩ := ih follows
    refine ⟨last, ?_⟩
    rw [CallTree.outcomes, PathTree.outcomes, outcome, outcomes]

end Follows

/-! ### What moves leave alone -/

/-- A node stays what it is, whatever is given at it or elsewhere. -/
theorem getElem?_step {i : Nat} {application : Application}
    (found : tree.nodes[i]? = some application) (move : Move) :
    (tree.step bodies move).1.nodes[i]? = some application := by
  cases move with
  | meanwhile change => exact found
  | give node arguments =>
    simp only [step]
    split
    · exact found
    · split
      · exact found
      · exact (List.getElem?_append_left (List.getElem?_eq_some_iff.1 found).1).trans found

theorem getElem?_after {i : Nat} {application : Application}
    (found : tree.nodes[i]? = some application) (moves : List Move) :
    (tree.after bodies moves).nodes[i]? = some application := by
  induction moves generalizing tree with
  | nil => exact found
  | cons move rest ih => exact ih (getElem?_step found move)

/-! ### The main theorem -/

/-- **The main theorem**: whatever is done with a function that is given its arguments a
few at a time, and whatever the bodies of functions do, the outcomes and the store are those of
the plain account.  So a node holds just the arguments along its path and waits for the rest of
them, fewer than were wanted at first unless nothing was given; where they do not suffice
nothing happens, and where they do, the function is called once, with the first of them.  No
move elsewhere changes a node, and what is given in parts has the effect of what is given at
once.  The call of a native function is recorded with as many arguments as it has, and then its
body runs, once, with these.  If bodies remove nothing from the history, this call comes next in
it, and what else is new there was called by the body. -/
theorem outcomes_eq_paths (bodies : Bodies) (store : Store) (f : Callable) (moves : List Move) :
    let tree := (root store f).after bodies moves
    let account := (PathTree.root store).after bodies f moves
    (root store f).outcomes bodies moves = (PathTree.root store).outcomes bodies f moves ∧
    tree.store = account.store ∧
    tree.nodes = account.paths.map (fun path => ⟨f, path.flatten⟩) ∧
    (∀ (i : Nat) (path : List (List Value)), account.paths[i]? = some path →
      (⟨f, path.flatten⟩ : Application).remaining = f.arity - path.flatten.length ∧
        (path ≠ [] → path.flatten.length < f.arity) ∧
        ∀ arguments,
          ((path.flatten ++ arguments).length < f.arity →
            tree.step bodies (.give i arguments) =
              (⟨tree.store, tree.nodes ++ [⟨f, path.flatten ++ arguments⟩]⟩,
                some (.incomplete ⟨f, path.flatten ++ arguments⟩))) ∧
          (f.arity ≤ (path.flatten ++ arguments).length →
            let first := (path.flatten ++ arguments).take f.arity
            let called := tree.store.call bodies f first
            tree.step bodies (.give i arguments) =
                (⟨called.1, tree.nodes⟩, some (.complete called.2)) ∧
              ∀ id name arity body, f = .native id name arity body →
                called = bodies body id (tree.store.recordCall ⟨id, name, f.arity⟩) first ∧
                  (bodies.Records → ∃ nested, called.1.history.toList =
                    tree.store.history.toList ++ ⟨id, name, f.arity⟩ :: nested))) ∧
    (∀ (i : Nat) (application : Application) (later : List Move),
      tree.nodes[i]? = some application →
        (tree.after bodies later).nodes[i]? = some application) ∧
    (∀ (application : Application) (lists : List (List Value)), lists ≠ [] →
      tree.store.applyInTurn bodies application lists =
        tree.store.apply bodies application lists.flatten) := by
  intro tree account
  obtain ⟨follows, outcomes⟩ := @Follows.after bodies _ _ _ (Follows.root store f) moves
  refine ⟨outcomes, follows.store, follows.nodes, fun i path found => ?_,
    fun i application later found => getElem?_after found later,
    fun application lists given => Store.applyInTurn_eq_apply _ bodies application lists given⟩
  have node : tree.nodes[i]? = some ⟨f, path.flatten⟩ := by
    rw [follows.node, found]
    rfl
  refine ⟨rfl, follows.few path (List.mem_of_getElem? found), fun arguments => ⟨?_, ?_⟩⟩
  · intro few
    simp only [step, node, Store.apply_of_lt ⟨f, path.flatten⟩ few]
  · intro enough first called
    have whole : first.length = f.arity := List.length_take_of_le enough
    refine ⟨?_, fun id name arity body native => ⟨?_, fun records => ?_⟩⟩
    · simp only [step, node, Store.apply_of_le ⟨f, path.flatten⟩ enough]
      rfl
    · rw [← whole]
      simp only [called, native, Store.call]
    · rw [← whole]
      simp only [called, native]
      exact Store.history_call_native records tree.store id name arity body first

/-- The last of two arguments.  The first one is given twice, to the function itself; what
is left after the null one is then called with one more and an extra, which is dropped. -/
theorem outcomes_eq_paths_last :
    let f : Callable := .native ⟨0⟩ "f" 2 Routine.last.body
    let moves : List Move := [.give 0 [.null], .give 0 [.undefined]]
    let tree := (root .empty f).after Routine.bodies moves
    ((PathTree.root .empty).after Routine.bodies f moves).paths[1]? = some [[.null]] ∧
    [[Value.null]] ≠ [] ∧ f.arity ≤ [Value.null, .boolean true, .undefined].length ∧
    tree.step Routine.bodies (.give 1 [.boolean true, .undefined]) =
      (⟨tree.store.recordCall ⟨⟨0⟩, "f", 2⟩, tree.nodes⟩, some (.complete (.boolean true))) := by
  intro f moves tree
  obtain ⟨-, -, -, nodes, -, -⟩ := outcomes_eq_paths Routine.bodies .empty f moves
  have path : ((PathTree.root .empty).after Routine.bodies f moves).paths[1]? =
    some [[Value.null]] := rfl
  obtain ⟨-, -, given⟩ := nodes 1 [[.null]] path
  obtain ⟨-, completes⟩ := given [.boolean true, .undefined]
  have enough : f.arity ≤ [Value.null, .boolean true, .undefined].length := by decide
  obtain ⟨moved, runs⟩ := completes enough
  refine ⟨path, List.cons_ne_nil _ _, enough, moved.trans ?_⟩
  rw [(runs ⟨0⟩ "f" 2 Routine.last.body rfl).1, Routine.bodies_body]
  rfl

end CallTree

end Contracts
