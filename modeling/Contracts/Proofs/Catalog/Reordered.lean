import Contracts.Proofs.Catalog.Declarations

/-!
# Documents that list the same interfaces in another order

The shape of an interface is made when it is declared, from what its base is bound to at
that moment.  If no name is bound to an interface twice, that is also what the base is
bound to in the end.  So the declarations can be read as equations that all hold of the
last catalog at once, whatever their order; and where they can be made one after the
other, there is only one catalog of which they hold.

The two cases in which no name is bound to an interface twice are names that may not be
replaced, and a catalog without definitions together with a list in which no name comes
twice.

## Main definitions

* `Catalog.Fresh` — some declarations bind names that are not yet those of interfaces,
  and each only once.
* `Catalog.Solves` — in a later catalog some declarations hold all at once.

## Main results

* `Catalog.Makes.solves` — declarations that were made one after the other hold at once.
* `Catalog.Makes.eq_of_solves` — **they hold of no other catalog.**
* `Catalog.load_eq_of_perm` — **the order in which a document lists its interfaces does
  not matter** to what it is loaded as.
-/

namespace Contracts

/-- A declaration depends on what its base is bound to only as far as that is an
interface. -/
theorem Declaration.definition_of_interfaces {bound bound' : String → Option Definition}
    {declaration : Declaration} {definition : Definition}
    (same : ∀ base shape, declaration.base? = some base →
      bound base = some (.interface shape) → bound' base = some (.interface shape))
    (h : declaration.definition bound = .ok definition) :
    declaration.definition bound' = .ok definition := by
  cases declaration with
  | type name kind => exact h
  | interface declaration =>
    simp only [Declaration.definition] at h ⊢
    cases extended : declaration.base with
    | none =>
      rw [extended] at h
      exact h
    | some base =>
      simp only [extended] at h ⊢
      rcases found : bound base with _ | (shape | kind)
      · rw [found] at h
        cases h
      · rw [found] at h
        rw [same base shape extended found]
        exact h
      · rw [found] at h
        cases h

namespace Catalog

variable {catalog middle next next' : Catalog} {declarations rest : List Declaration}
  {declaration : Declaration} {definition : Definition}

/-! ### Names that are not declared -/

/-- What is not declared is bound as before. -/
theorem Makes.definition?_of_undeclared (made : catalog.Makes declarations next) {name : String}
    (undeclared : ∀ declaration ∈ declarations, declaration.name ≠ name) :
    next.definition? name = catalog.definition? name := by
  induction made with
  | nil => rfl
  | cons _ taken _ ih =>
    rw [List.forall_mem_cons] at undeclared
    rw [ih undeclared.2, taken.of_ne undeclared.1.symm]

/-- From one catalog, declarations lead to one catalog. -/
theorem Makes.unique (made : catalog.Makes declarations next)
    (made' : catalog.Makes declarations next') : next = next' :=
  (declareAll_of_makes made).1.symm.trans (declareAll_of_makes made').1

/-! ### Names that are declared once -/

/-- No name is bound to an interface twice. -/
structure Fresh (catalog : Catalog) (declarations : List Declaration) : Prop where
  /-- Not in the declarations. -/
  nodup : (declarations.map Declaration.name).Nodup
  /-- Nor was it before them. -/
  unbound : ∀ declaration ∈ declarations,
    catalog.interfaces.contains declaration.name = false

namespace Fresh

theorem ne_of_mem (h : catalog.Fresh (declaration :: rest)) {other : Declaration}
    (member : other ∈ rest) : other.name ≠ declaration.name := by
  have once := (List.nodup_cons.1 h.nodup).1
  intro same
  exact once (List.mem_map.2 ⟨other, member, same⟩)

theorem tail (h : catalog.Fresh (declaration :: rest))
    (taken : catalog.TakesIn declaration.name definition middle) : middle.Fresh rest where
  nodup := (List.nodup_cons.1 h.nodup).2
  unbound other member := by
    rw [interfaces_contains, taken.of_ne (h.ne_of_mem member), ← interfaces_contains]
    exact h.unbound other (List.mem_cons_of_mem _ member)

/-- So the interfaces that there were are not declared. -/
theorem undeclared (h : catalog.Fresh declarations) {name : String} {shape : Shape}
    (bound : catalog.definition? name = some (.interface shape)) :
    ∀ declaration ∈ declarations, declaration.name ≠ name := by
  rintro declaration member rfl
  have unbound := h.unbound declaration member
  rw [interfaces_contains, bound] at unbound
  cases unbound

/-- Names that may not be replaced are declared once by whatever can be made. -/
theorem of_reject (made : catalog.Makes declarations next)
    (rejects : catalog.policy.registration = .reject) : catalog.Fresh declarations := by
  have free := made.definition?_eq_none rejects
  refine ⟨?_, fun declaration member => ?_⟩
  · clear free
    induction made with
    | nil => exact List.nodup_nil
    | @cons catalog middle next first rest definition _ taken made ih =>
      have rejects' : middle.policy.registration = .reject := taken.policy ▸ rejects
      refine List.nodup_cons.2 ⟨fun again => ?_, ih rejects'⟩
      -- whatever is declared later was free once the first name was bound
      obtain ⟨later, member, same⟩ := List.mem_map.1 again
      have free := made.definition?_eq_none rejects' later member
      rw [same, taken.self] at free
      cases free
  · rw [interfaces_contains, free declaration member]
    rfl

end Fresh

/-! ### Declarations as equations -/

/-- In a later catalog some declarations hold all at once: each name that is declared is
bound to what it is declared as, where bases are what they are in the later catalog
itself, and the other names are bound as before. -/
structure Solves (catalog : Catalog) (declarations : List Declaration) (next : Catalog) :
    Prop where
  /-- The policy stays. -/
  policy : next.policy = catalog.policy
  /-- What is not declared is bound as before. -/
  kept : ∀ name, (∀ declaration ∈ declarations, declaration.name ≠ name) →
    next.definition? name = catalog.definition? name
  /-- What is declared is bound to that. -/
  bound : ∀ declaration ∈ declarations, ∃ definition,
    declaration.definition next.definition? = .ok definition ∧
      next.definition? declaration.name = some definition

/-- Equations have no order. -/
theorem Solves.perm {first second : List Declaration} (h : catalog.Solves first next)
    (reordered : first.Perm second) : catalog.Solves second next where
  policy := h.policy
  kept name undeclared :=
    h.kept name fun declaration member => undeclared declaration (reordered.mem_iff.1 member)
  bound declaration member := h.bound declaration (reordered.mem_iff.2 member)

/-- **Declarations that were made one after the other hold at once.** -/
theorem Makes.solves (made : catalog.Makes declarations next)
    (fresh : catalog.Fresh declarations) : catalog.Solves declarations next where
  policy := made.policy
  kept _ undeclared := made.definition?_of_undeclared undeclared
  bound := by
    induction made with
    | nil => exact fun _ member => nomatch member
    | @cons catalog middle next first rest definition verdict taken made ih =>
      intro declaration member
      rcases List.mem_cons.1 member with rfl | member
      · have whole : catalog.Makes (declaration :: rest) next := .cons verdict taken made
        refine ⟨definition, ?_, ?_⟩
        · -- the base was an interface before, and no such name is declared
          refine Declaration.definition_of_interfaces (fun base shape _ found => ?_)
            (Declaration.verdict_eq_ok.1 verdict).2.2
          rw [whole.definition?_of_undeclared (fresh.undeclared found)]
          exact found
        · rw [made.definition?_of_undeclared fun other later => fresh.ne_of_mem later]
          exact taken.self
      · exact ih (fresh.tail taken) declaration member

/-- Each interface that there is on the way is there in any solution. -/
theorem Makes.interfaces_of_solves (made : catalog.Makes declarations next)
    (bound : ∀ declaration ∈ declarations, ∃ definition,
      declaration.definition next'.definition? = .ok definition ∧
        next'.definition? declaration.name = some definition)
    (before : ∀ name shape, catalog.definition? name = some (.interface shape) →
      next'.definition? name = some (.interface shape)) :
    ∀ name shape, next.definition? name = some (.interface shape) →
      next'.definition? name = some (.interface shape) := by
  induction made with
  | nil => exact before
  | @cons catalog middle next first rest definition verdict taken _ ih =>
    rw [List.forall_mem_cons] at bound
    refine ih bound.2 fun name shape found => ?_
    by_cases same : name = first.name
    · -- the solution has the base as it is on the way, and so what extends it
      obtain ⟨definition', made', solved⟩ := bound.1
      have made := Declaration.definition_of_interfaces (fun base shape _ => before base shape)
        (Declaration.verdict_eq_ok.1 verdict).2.2
      rw [made] at made'
      cases made'
      rw [same, taken.self] at found
      rw [same, solved, found]
    · rw [taken.of_ne same] at found
      exact before name shape found

/-- **Declarations that can be made one after the other hold of no other catalog.** -/
theorem Makes.eq_of_solves (made : catalog.Makes declarations next)
    (fresh : catalog.Fresh declarations) (solves : catalog.Solves declarations next') :
    next = next' := by
  have agree := made.interfaces_of_solves solves.bound fun name shape found => by
    rw [solves.kept name (fresh.undeclared found)]
    exact found
  refine ext_definition? (made.policy.trans solves.policy.symm) fun name => ?_
  by_cases declared : ∃ declaration ∈ declarations, declaration.name = name
  · obtain ⟨declaration, member, rfl⟩ := declared
    obtain ⟨definition, asked, bound⟩ := (made.solves fresh).bound declaration member
    obtain ⟨definition', asked', bound'⟩ := solves.bound declaration member
    have asked := Declaration.definition_of_interfaces (fun base shape _ => agree base shape) asked
    rw [asked] at asked'
    cases asked'
    rw [bound, bound']
  · have undeclared : ∀ declaration ∈ declarations, declaration.name ≠ name :=
      fun declaration member same => declared ⟨declaration, member, same⟩
    rw [made.definition?_of_undeclared undeclared, solves.kept name undeclared]

/-- Two orders of declarations, each of which can be made, lead to one catalog. -/
theorem Makes.eq_of_perm {first second : List Declaration} (made : catalog.Makes first next)
    (made' : catalog.Makes second next') (reordered : first.Perm second)
    (fresh : catalog.Fresh first) : next = next' := by
  have fresh' : catalog.Fresh second :=
    ⟨(reordered.map Declaration.name).nodup_iff.1 fresh.nodup,
      fun declaration member => fresh.unbound declaration (reordered.mem_iff.2 member)⟩
  exact made.eq_of_solves fresh ((made'.solves fresh').perm reordered.symm)

/-! ### Documents -/

/-- The types of a document are all made before its first interface. -/
theorem Makes.kinds_then_interfaces {kinds : Dict Kind} {interfaces : List InterfaceDeclaration}
    (made : catalog.Makes (Document.declarations ⟨kinds, interfaces⟩) next) :
    ∃ middle, catalog.Makes (Document.declarations ⟨kinds, []⟩) middle ∧
      middle.Makes (interfaces.map .interface) next := by
  unfold Document.declarations at made ⊢
  rw [List.map_nil, List.append_nil]
  exact makes_append.1 made

/-- Once only types were declared, and there was nothing before, nothing is an
interface. -/
theorem Makes.interfaces_contains_of_kinds {policy : Policy} {kinds : Dict Kind}
    (made : (empty policy).Makes (Document.declarations ⟨kinds, []⟩) next) (name : String) :
    next.interfaces.contains name = false := by
  rw [made.interfaces_contains (Document.pairwise_declarations _), Bool.or_eq_false_iff]
  refine ⟨List.any_eq_false.2 fun declaration member => ?_, rfl⟩
  unfold Document.declarations at member
  rw [List.map_nil, List.append_nil, List.mem_map] at member
  obtain ⟨entry, _, rfl⟩ := member
  exact Bool.false_ne_true

theorem exists_makes_of_isOk (h : (catalog.declareAll declarations).outcome.isOk = true) :
    ∃ next, catalog.Makes declarations next := by
  cases outcome : (catalog.declareAll declarations).outcome with
  | error violation => rw [outcome] at h; cases h
  | ok tally => exact ⟨_, (makes_iff.1 ⟨outcome, rfl⟩).1⟩

/-- **The main theorem**: two documents with the same kinds that list the same interfaces
in different orders, and that both can be loaded, are loaded as the same, provided that
names may not be replaced, or else that there are no definitions before and that no name
is listed for two interfaces. -/
theorem load_eq_of_perm {kinds : Dict Kind} {first second : List InterfaceDeclaration}
    (reordered : first.Perm second)
    (loaded : (catalog.load ⟨kinds, first⟩).outcome.isOk = true)
    (loaded' : (catalog.load ⟨kinds, second⟩).outcome.isOk = true)
    (once : catalog.policy.registration = .reject ∨
      (catalog = empty catalog.policy ∧ (first.map InterfaceDeclaration.name).Nodup)) :
    (catalog.load ⟨kinds, first⟩).catalog = (catalog.load ⟨kinds, second⟩).catalog ∧
      (catalog.load ⟨kinds, first⟩).outcome = (catalog.load ⟨kinds, second⟩).outcome := by
  rw [(load_eq ..).2] at loaded loaded'
  obtain ⟨next, made⟩ := exists_makes_of_isOk loaded
  obtain ⟨next', made'⟩ := exists_makes_of_isOk loaded'
  -- both runs make the types first, and so part from one catalog
  obtain ⟨middle, types, interfaces⟩ := made.kinds_then_interfaces
  obtain ⟨middle', types', interfaces'⟩ := made'.kinds_then_interfaces
  cases types.unique types'
  have fresh : middle.Fresh (first.map .interface) := by
    rcases once with rejects | ⟨blank, nodup⟩
    · exact .of_reject interfaces (types.policy ▸ rejects)
    · rw [blank] at types
      refine ⟨?_, fun declaration _ => types.interfaces_contains_of_kinds declaration.name⟩
      rw [List.map_map]
      exact nodup
  have same := interfaces.eq_of_perm interfaces' (reordered.map Declaration.interface) fresh
  have counts : Tally.of (Document.declarations ⟨kinds, first⟩) =
      Tally.of (Document.declarations ⟨kinds, second⟩) := by
    rw [Tally.of_declarations, Tally.of_declarations]
    exact congrArg (Tally.mk kinds.size) reordered.length_eq
  obtain ⟨left, outcome⟩ := declareAll_of_makes made
  obtain ⟨right, outcome'⟩ := declareAll_of_makes made'
  rw [(load_eq ..).1, (load_eq ..).1, (load_eq ..).2, (load_eq ..).2, left, right, outcome,
    outcome', counts]
  exact ⟨same, rfl⟩

/-- A chain of two interfaces and a third on one that was there before; and, in a catalog
without definitions, a chain that starts where a type of the document was. -/
theorem load_eq_of_perm_chain :
    let base : Declaration := .interface ⟨"Base", none, .untyped .empty "id"⟩
    let a : InterfaceDeclaration := ⟨"A", none, .field .empty "x" (.single .number)⟩
    let b : InterfaceDeclaration := ⟨"B", some "A", .untyped .empty "y"⟩
    let c : InterfaceDeclaration := ⟨"C", some "Base", .empty⟩
    let d : InterfaceDeclaration := ⟨"D", none, .empty⟩
    let held := ((empty ⟨.validate, .reject⟩).declareAll [base]).catalog
    let bare := empty ⟨.validate, .replace⟩
    let kinds : Dict Kind := .ofList [("T", .single .string)]
    let kinds' : Dict Kind := .ofList [("A", .single .string)]
    (held.load ⟨kinds, [a, b, c]⟩).catalog = (held.load ⟨kinds, [c, a, b]⟩).catalog ∧
      (held.load ⟨kinds, [a, b, c]⟩).catalog.interfaces.get? "B" =
        some (.ofList [("x", some (.single .number)), ("y", none)]) ∧
      (bare.load ⟨kinds', [a, d, b]⟩).catalog = (bare.load ⟨kinds', [a, b, d]⟩).catalog := by
  intro base a b c d held bare kinds kinds'
  have turned : ([a, b] ++ [c]).Perm ([c] ++ [a, b]) := List.perm_append_comm
  have swapped : [a, d, b].Perm [a, b, d] := (List.Perm.swap b d []).cons a
  have loaded : (held.load ⟨kinds, [a, b, c]⟩).outcome.isOk = true := by decide +kernel
  have loaded' : (held.load ⟨kinds, [c, a, b]⟩).outcome.isOk = true := by decide +kernel
  have alone : (bare.load ⟨kinds', [a, d, b]⟩).outcome.isOk = true := by decide +kernel
  have alone' : (bare.load ⟨kinds', [a, b, d]⟩).outcome.isOk = true := by decide +kernel
  have rejects : held.policy.registration = .reject := by decide +kernel
  have once : ([a, d, b].map InterfaceDeclaration.name).Nodup := by decide
  refine ⟨?_, by decide +kernel, ?_⟩
  · exact (load_eq_of_perm turned loaded loaded' (.inl rejects)).1
  · exact (load_eq_of_perm swapped alone alone' (.inr ⟨rfl, once⟩)).1

end Catalog

end Contracts
