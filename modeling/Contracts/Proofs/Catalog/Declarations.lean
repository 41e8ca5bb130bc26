import Contracts.Proofs.Catalog.Definitions

/-!
# Making declarations one after the other

Loading makes the declarations of a document in turn and stops at the first that fails.
So it either makes them all, which is the relation `Catalog.Makes` between the catalogs
before and after, or it makes those of a front part and fails at the next.

## Main definitions

* `Tally.of` — how many declarations of each sort are in a list.
* `Catalog.Makes` — all declarations of a list are made.

## Main results

* `Catalog.declareAll_of_makes`, `Catalog.declareAll_of_stuck` — the two ways in which
  making declarations ends.
* `Catalog.makes_iff` — making them all is what `Catalog.declareAll` reports as success.
* `Catalog.makes_append` — a list is made by making a front part, then the rest.
* `Catalog.Makes.isSome_definition?`, `Catalog.Makes.interfaces_contains` — which names
  are held after some declarations.
-/

namespace Contracts

/-! ### Counting -/

namespace Tally

/-- How many declarations of each sort are listed. -/
def of (declarations : List Declaration) : Tally :=
  declarations.foldr (fun declaration tally => tally.count declaration) .zero

@[simp] theorem of_nil : of [] = zero := rfl

@[simp] theorem of_cons (declaration : Declaration) (rest : List Declaration) :
    of (declaration :: rest) = (of rest).count declaration := rfl

/-- A document lists its kinds and its interfaces. -/
theorem of_declarations (document : Document) :
    of document.declarations = ⟨document.kinds.size, document.interfaces.length⟩ := by
  have interfaces : ∀ listed : List InterfaceDeclaration,
      of (listed.map .interface) = ⟨0, listed.length⟩ := by
    intro listed
    induction listed with
    | nil => rfl
    | cons first rest ih => rw [List.map_cons, of_cons, ih]; rfl
  have types : ∀ kinds : List (String × Kind),
      of (kinds.map (fun entry => .type entry.1 entry.2) ++
        document.interfaces.map .interface) = ⟨kinds.length, document.interfaces.length⟩ := by
    intro kinds
    induction kinds with
    | nil => exact interfaces _
    | cons first rest ih => rw [List.map_cons, List.cons_append, of_cons, ih]; rfl
  exact types document.kinds.entries

end Tally

/-! ### Sorts of declarations -/

namespace Declaration

/-- Whether an interface is declared under a name. -/
def declaresInterface (name : String) : Declaration → Bool
  | .type .. => false
  | .interface declaration => declaration.name == name

/-- Whether an interface is declared. -/
def isInterface : Declaration → Bool
  | .type .. => false
  | .interface _ => true

theorem declaresInterface_eq (name : String) (declaration : Declaration) :
    declaration.declaresInterface name = (declaration.isInterface && declaration.name == name) := by
  cases declaration <;> rfl

end Declaration

namespace Document

/-- No type is declared after an interface. -/
theorem pairwise_declarations (document : Document) :
    document.declarations.Pairwise fun first later =>
      first.isInterface = true → later.isInterface = true := by
  unfold declarations
  rw [List.pairwise_append]
  refine ⟨?_, ?_, ?_⟩
  · rw [List.pairwise_map]
    exact List.pairwise_of_forall fun _ _ h => nomatch h
  · rw [List.pairwise_map]
    exact List.pairwise_of_forall fun _ _ _ => rfl
  · intro first listed later _ h
    obtain ⟨entry, _, rfl⟩ := List.mem_map.1 listed
    cases h

end Document

namespace Catalog

variable {catalog middle next : Catalog} {declarations front rest : List Declaration}
  {declaration : Declaration} {definition : Definition} {violation : Violation}

/-! ### All of them -/

/-- All declarations are made, one after the other. -/
inductive Makes : Catalog → List Declaration → Catalog → Prop
  /-- Nothing is declared. -/
  | nil (catalog : Catalog) : Makes catalog [] catalog
  /-- The first declaration is made, and then the rest. -/
  | cons {catalog middle next : Catalog} {declaration : Declaration}
      {rest : List Declaration} {definition : Definition} :
      declaration.verdict catalog.policy.registration catalog.definition? = .ok definition →
      catalog.TakesIn declaration.name definition middle → Makes middle rest next →
      Makes catalog (declaration :: rest) next

theorem Makes.policy (h : catalog.Makes declarations next) : next.policy = catalog.policy := by
  induction h with
  | nil => rfl
  | cons _ taken _ ih => exact ih.trans taken.policy

/-- Declarations that are all made are counted. -/
theorem declareAll_of_makes (h : catalog.Makes declarations next) :
    (catalog.declareAll declarations).catalog = next ∧
      (catalog.declareAll declarations).outcome = .ok (Tally.of declarations) := by
  induction h with
  | nil => exact ⟨rfl, rfl⟩
  | cons verdict taken _ ih =>
    obtain ⟨middle', events, declared, taken'⟩ := declare_of_verdict_ok verdict
    cases taken.unique taken'
    simp only [declareAll, declared, ih, Tally.of_cons]
    exact ⟨trivial, rfl⟩

/-- Declarations of which one cannot be made are made up to that one. -/
theorem declareAll_of_stuck (h : catalog.Makes front middle)
    (stuck : declaration.verdict middle.policy.registration middle.definition? =
      .error violation) (rest : List Declaration) :
    (catalog.declareAll (front ++ declaration :: rest)).catalog = middle ∧
      (catalog.declareAll (front ++ declaration :: rest)).outcome = .error violation := by
  induction h with
  | nil =>
    simp only [List.nil_append, declareAll, declare_of_verdict_error stuck]
    exact ⟨trivial, trivial⟩
  | cons verdict taken _ ih =>
    obtain ⟨middle', events, declared, taken'⟩ := declare_of_verdict_ok verdict
    cases taken.unique taken'
    simp only [List.cons_append, declareAll, declared, ih stuck]
    exact ⟨trivial, rfl⟩

/-- Declarations are all made, or they get stuck at one of them. -/
theorem makes_or_stuck (catalog : Catalog) (declarations : List Declaration) :
    (∃ next, catalog.Makes declarations next) ∨
      ∃ front declaration rest middle violation,
        declarations = front ++ declaration :: rest ∧ catalog.Makes front middle ∧
          declaration.verdict middle.policy.registration middle.definition? =
            .error violation := by
  induction declarations generalizing catalog with
  | nil => exact .inl ⟨catalog, .nil catalog⟩
  | cons first rest ih =>
    cases verdict : first.verdict catalog.policy.registration catalog.definition? with
    | error violation => exact .inr ⟨[], first, rest, catalog, violation, rfl, .nil _, verdict⟩
    | ok definition =>
      obtain ⟨middle, _, _, taken⟩ := declare_of_verdict_ok verdict
      rcases ih middle with ⟨next, made⟩ | ⟨front, stuck, rest, last, violation, rfl, made, h⟩
      · exact .inl ⟨next, .cons verdict taken made⟩
      · exact .inr ⟨first :: front, stuck, rest, last, violation, rfl, .cons verdict taken made, h⟩

/-- Making declarations succeeds exactly if all are made. -/
theorem makes_iff {tally : Tally} :
    (catalog.declareAll declarations).outcome = .ok tally ∧
        (catalog.declareAll declarations).catalog = next ↔
      catalog.Makes declarations next ∧ tally = Tally.of declarations := by
  constructor
  · rintro ⟨succeeded, rfl⟩
    rcases catalog.makes_or_stuck declarations with
      ⟨next, made⟩ | ⟨front, declaration, rest, middle, violation, rfl, made, stuck⟩
    · obtain ⟨rfl, outcome⟩ := declareAll_of_makes made
      rw [outcome] at succeeded
      exact ⟨made, (Except.ok.inj succeeded).symm⟩
    · rw [(declareAll_of_stuck made stuck rest).2] at succeeded
      cases succeeded
  · rintro ⟨made, rfl⟩
    exact (declareAll_of_makes made).symm

/-- A list is made by making a front part, then the rest. -/
theorem makes_append {front rest : List Declaration} :
    catalog.Makes (front ++ rest) next ↔
      ∃ middle, catalog.Makes front middle ∧ middle.Makes rest next := by
  induction front generalizing catalog with
  | nil =>
    constructor
    · intro made
      exact ⟨catalog, .nil _, made⟩
    · rintro ⟨middle, ⟨⟩, made⟩
      exact made
  | cons first front ih =>
    constructor
    · intro made
      cases made with
      | cons verdict taken made =>
        obtain ⟨middle, made, made'⟩ := ih.1 made
        exact ⟨middle, .cons verdict taken made, made'⟩
    · rintro ⟨middle, made, made'⟩
      cases made with
      | cons verdict taken made => exact .cons verdict taken (ih.2 ⟨middle, made, made'⟩)

/-! ### Names after some declarations -/

/-- A name is held after some declarations if it was before or is declared. -/
theorem Makes.isSome_definition? (h : catalog.Makes declarations next) (name : String) :
    (next.definition? name).isSome =
      ((catalog.definition? name).isSome || declarations.any (·.name == name)) := by
  induction h with
  | nil => simp
  | @cons catalog middle next first rest definition verdict taken _ ih =>
    rw [ih, taken.definition?, List.any_cons]
    by_cases same : first.name = name
    · simp [same]
    · rw [if_neg (Ne.symm same), beq_eq_false_iff_ne.2 same, Bool.false_or]

/-- What is declared under names that may not be replaced was free before. -/
theorem Makes.definition?_eq_none (h : catalog.Makes declarations next)
    (rejects : catalog.policy.registration = .reject) :
    ∀ declaration ∈ declarations, catalog.definition? declaration.name = none := by
  induction h with
  | nil => intro _ member; cases member
  | @cons catalog middle next first rest definition verdict taken _ ih =>
    have free : catalog.definition? first.name = none := by
      have := (Declaration.verdict_eq_ok.1 verdict).2.1
      simpa [rejects] using this
    intro declaration member
    rcases List.mem_cons.1 member with rfl | member
    · exact free
    · have later := ih (taken.policy ▸ rejects) declaration member
      by_cases same : declaration.name = first.name
      · rw [same]
        exact free
      · rwa [taken.of_ne same] at later

/-- What a declaration binds its name to is an interface if it declares one. -/
theorem isSome_shape?_of_verdict {policy : RegistrationPolicy}
    {bound : String → Option Definition} {declaration : Declaration} {definition : Definition}
    (h : declaration.verdict policy bound = .ok definition) :
    definition.shape?.isSome = declaration.isInterface := by
  have h := (Declaration.verdict_eq_ok.1 h).2.2
  cases declaration with
  | type name kind =>
    cases h
    rfl
  | interface declaration =>
    simp only [Declaration.definition] at h
    split at h
    · cases h
      rfl
    · split at h
      · cases h
        rfl
      · cases h

/-- A name is that of an interface after some declarations, none of a type after one of
an interface, if an interface is declared under it, or if it was that of an interface
and nothing is declared under it. -/
theorem Makes.interfaces_contains (h : catalog.Makes declarations next)
    (ordered : declarations.Pairwise fun first later =>
      first.isInterface = true → later.isInterface = true) (name : String) :
    next.interfaces.contains name =
      (declarations.any (·.declaresInterface name) ||
        (catalog.interfaces.contains name && !declarations.any (·.name == name))) := by
  -- on the declarations from the front; only the first with the name can be a type
  induction h with
  | nil => simp
  | @cons catalog middle next first rest definition verdict taken _ ih =>
    have ⟨after, ordered⟩ := List.pairwise_cons.1 ordered
    rw [ih ordered, Catalog.interfaces_contains middle, taken.definition?, List.any_cons,
      List.any_cons, Declaration.declaresInterface_eq]
    by_cases same : first.name = name
    · subst same
      rw [if_pos rfl, Option.bind_some, isSome_shape?_of_verdict verdict]
      cases sort : first.isInterface with
      | false => simp
      | true =>
        -- whatever is declared under the name later is an interface as well
        have agree : rest.any (·.declaresInterface first.name) =
            rest.any (·.name == first.name) := by
          rw [Bool.eq_iff_iff, List.any_eq_true, List.any_eq_true]
          refine exists_congr fun later => and_congr_right fun member => ?_
          rw [Declaration.declaresInterface_eq, after later member sort, Bool.true_and]
        simp [agree]
    · rw [if_neg (Ne.symm same), ← Catalog.interfaces_contains, beq_eq_false_iff_ne.2 same,
        Bool.and_false, Bool.false_or, Bool.false_or]

/-! ### Documents -/

/-- Loading makes the declarations; only the log shows that they were of a document. -/
theorem load_eq (catalog : Catalog) (document : Document) :
    (catalog.load document).catalog = (catalog.declareAll document.declarations).catalog ∧
      (catalog.load document).outcome =
        (catalog.declareAll document.declarations).outcome := by
  unfold load
  cases made : (catalog.declareAll document.declarations).outcome with
  | error violation => simp only [made]; exact ⟨trivial, trivial⟩
  | ok tally => simp only [made]; exact ⟨trivial, trivial⟩

end Catalog

end Contracts
