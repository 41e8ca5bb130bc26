import Contracts.Proofs.Catalog.Declarations
import Contracts.Proofs.Dict

/-!
# Documents that stand alone

A document is **self-contained** if it can be loaded where nothing has a name yet: each
interface of it extends what the document itself declared before.  Under names that may
be replaced such a document means the same everywhere.  Loaded into any other catalog it
binds the same names to the same definitions, and leaves the other names alone.

The two runs are kept together by what the second catalog is throughout: the first one
laid over what was there at the beginning.

## Main definitions

* `Document.declares` — the names that a document binds.
* `Catalog.Over` — one catalog laid over another.

## Main results

* `Catalog.Makes.over` — making declarations keeps one catalog laid over the other.
* `Catalog.load_eq_of_selfContained` — **a self-contained document means the same in
  every catalog.**
-/

namespace Contracts

/-! ### Names of a document -/

namespace Document

/-- Whether a type or an interface is declared under a name. -/
def declares (document : Document) (name : String) : Prop :=
  document.kinds.contains name = true ∨
    ∃ declaration ∈ document.interfaces, declaration.name = name

theorem declares_iff {document : Document} {name : String} :
    document.declares name ↔ document.declarations.any (·.name == name) = true := by
  rw [List.any_eq_true]
  unfold declares declarations
  constructor
  · rintro (held | ⟨declaration, listed, same⟩)
    · obtain ⟨kind, found⟩ := Option.isSome_iff_exists.1 held
      refine ⟨.type name kind, List.mem_append_left _ ?_, beq_self_eq_true name⟩
      exact List.mem_map.2 ⟨(name, kind), Dict.mem_entries.2 found, rfl⟩
    · refine ⟨.interface declaration, List.mem_append_right _ ?_, beq_iff_eq.2 same⟩
      exact List.mem_map.2 ⟨declaration, listed, rfl⟩
  · rintro ⟨declaration, listed, same⟩
    have same := beq_iff_eq.1 same
    rcases List.mem_append.1 listed with listed | listed
    · obtain ⟨entry, member, rfl⟩ := List.mem_map.1 listed
      refine .inl (Option.isSome_iff_exists.2 ⟨entry.2, ?_⟩)
      rw [← same]
      exact Dict.mem_entries.1 member
    · obtain ⟨declaration, member, rfl⟩ := List.mem_map.1 listed
      exact .inr ⟨declaration, member, same⟩

end Document

/-! ### Names that are bound to more -/

namespace Declaration

/-- A declaration that is complete stays so when more names are bound. -/
theorem definition_mono {bound bound' : String → Option Definition} {declaration : Declaration}
    {definition : Definition}
    (more : ∀ name definition, bound name = some definition → bound' name = some definition)
    (h : declaration.definition bound = .ok definition) :
    declaration.definition bound' = .ok definition := by
  cases declaration with
  | type name kind => exact h
  | interface declaration =>
    simp only [Declaration.definition] at h ⊢
    cases extended : declaration.base with
    | none =>
      rw [extended] at h
      exact h
    | some base =>
      simp only [extended] at h ⊢
      rcases found : bound base with _ | (shape | kind)
      · rw [found] at h
        cases h
      · rw [found] at h
        rw [more base _ found]
        exact h
      · rw [found] at h
        cases h

/-- Under names that may be replaced, nothing else speaks against it either. -/
theorem verdict_mono {bound bound' : String → Option Definition} {declaration : Declaration}
    {definition : Definition}
    (more : ∀ name definition, bound name = some definition → bound' name = some definition)
    (h : declaration.verdict .replace bound = .ok definition) :
    declaration.verdict .replace bound' = .ok definition := by
  obtain ⟨ident, _, made⟩ := verdict_eq_ok.1 h
  refine verdict_eq_ok.2 ⟨ident, ?_, definition_mono more made⟩
  rintro ⟨rejects, _⟩
  cases rejects

end Declaration

namespace Catalog

/-! ### One catalog over another -/

/-- What names are bound to in one catalog counts, and in another where they are not
bound in the first. -/
structure Over (above below both : Catalog) : Prop where
  /-- A name is bound as above, or else as below. -/
  definition? : ∀ name, both.definition? name = (above.definition? name).or (below.definition? name)

variable {above above' below both : Catalog} {declarations : List Declaration}

theorem Over.of_some (h : Over above below both) {name : String} {definition : Definition}
    (found : above.definition? name = some definition) :
    both.definition? name = some definition := by
  rw [h.definition?, found, Option.some_or]

theorem Over.of_none (h : Over above below both) {name : String}
    (free : above.definition? name = none) :
    both.definition? name = below.definition? name := by
  rw [h.definition?, free, Option.none_or]

/-- Binding a name on both sides. -/
theorem Over.takesIn (h : Over above below both) {name : String} {definition : Definition}
    {both' : Catalog} (taken : above.TakesIn name definition above')
    (taken' : both.TakesIn name definition both') : Over above' below both' where
  definition? other := by
    rw [taken.definition?, taken'.definition?]
    split
    · rw [Option.some_or]
    · exact h.definition? other

/-- **The two runs**: what is made above can be made in both, and the one stays laid over
the other. -/
theorem Makes.over (made : above.Makes declarations above') (h : Over above below both)
    (replaces : above.policy.registration = .replace)
    (replaces' : both.policy.registration = .replace) :
    ∃ both', both.Makes declarations both' ∧ Over above' below both' := by
  -- the second run makes the same declarations, each with the definition of the first
  induction made generalizing both with
  | nil => exact ⟨both, .nil both, h⟩
  | cons verdict taken _ ih =>
    have verdict' := Declaration.verdict_mono (fun _ _ => h.of_some) (replaces ▸ verdict)
    rw [← replaces'] at verdict'
    obtain ⟨next, _, _, taken'⟩ := declare_of_verdict_ok verdict'
    obtain ⟨both', made', h'⟩ := ih (h.takesIn taken taken') (taken.policy ▸ replaces)
      (taken'.policy ▸ replaces')
    exact ⟨both', .cons verdict' taken' made', h'⟩

/-- With nothing above, there is only what is below. -/
theorem Over.empty (policy : Policy) (below : Catalog) : Over (.empty policy) below below :=
  ⟨fun _ => rfl⟩

/-- Laying the same over once more changes nothing. -/
theorem Over.definition?_again {again : Catalog} (h : Over above below both)
    (h' : Over above both again) (name : String) :
    again.definition? name = both.definition? name := by
  rw [h'.definition?]
  cases found : above.definition? name with
  | some definition => rw [Option.some_or, h.of_some found]
  | none => rw [Option.none_or]

/-! ### Loading -/

/-- **The main theorem**: a document that can be loaded where nothing has a name can be
loaded wherever names may be replaced.  It binds the names it declares as it does alone,
and leaves the others alone; loading it again changes nothing, and under each name of an
interface that it lists there is an interface and no type. -/
theorem load_eq_of_selfContained {seeds : SeedPolicy} {document : Document} {tally : Tally}
    (alone : ((empty ⟨seeds, .replace⟩).load document).outcome = .ok tally)
    (catalog : Catalog) (replaces : catalog.policy.registration = .replace) :
    let apart := ((empty ⟨seeds, .replace⟩).load document).catalog
    let next := (catalog.load document).catalog
    (catalog.load document).outcome = .ok tally ∧
    (∀ name, document.declares name →
      next.interfaces.get? name = apart.interfaces.get? name ∧
        next.types.get? name = apart.types.get? name) ∧
    (∀ name, ¬ document.declares name →
      next.interfaces.get? name = catalog.interfaces.get? name ∧
        next.types.get? name = catalog.types.get? name) ∧
    (next.load document).outcome = .ok tally ∧ (next.load document).catalog = next ∧
    (∀ declaration ∈ document.interfaces,
      (next.interfaces.get? declaration.name).isSome ∧
        next.types.get? declaration.name = none) := by
  intro apart next
  rw [(load_eq ..).2] at alone
  obtain ⟨made, rfl⟩ := makes_iff.1 ⟨alone, (load_eq _ document).1.symm⟩
  -- the names that are bound after loading alone are those of the document
  have bound : ∀ name, (apart.definition? name).isSome = true ↔ document.declares name := by
    intro name
    rw [made.isSome_definition?, definition?_empty, Option.isSome_none, Bool.false_or,
      Document.declares_iff]
  have run : ∀ below : Catalog, below.policy.registration = .replace →
      (below.load document).outcome = .ok (Tally.of document.declarations) ∧
        below.Makes document.declarations (below.load document).catalog ∧
          Over apart below (below.load document).catalog := by
    intro below replaces
    obtain ⟨both, made', laid⟩ := made.over (.empty _ below) rfl replaces
    have result := declareAll_of_makes made'
    rw [← (load_eq ..).1, ← (load_eq ..).2] at result
    rw [result.1]
    exact ⟨result.2, made', laid⟩
  obtain ⟨outcome, made', laid⟩ := run catalog replaces
  -- the second load lays the same definitions over what the first one left
  obtain ⟨outcome', made'', again⟩ := run next (made'.policy ▸ replaces)
  refine ⟨outcome, ?_, ?_, outcome', ?_, ?_⟩
  · intro name declared
    obtain ⟨definition, found⟩ := Option.isSome_iff_exists.1 ((bound name).2 declared)
    rw [interfaces_get?, types_get?, interfaces_get? apart, types_get? apart, found,
      laid.of_some found]
    exact ⟨rfl, rfl⟩
  · intro name undeclared
    have free : apart.definition? name = none :=
      Option.not_isSome_iff_eq_none.1 (mt (bound name).1 undeclared)
    rw [interfaces_get?, types_get?, interfaces_get? catalog, types_get? catalog,
      laid.of_none free]
    exact ⟨rfl, rfl⟩
  · exact ext_definition? made''.policy fun name => laid.definition?_again again name
  · intro declaration listed
    have held : next.interfaces.contains declaration.name = true := by
      rw [made'.interfaces_contains document.pairwise_declarations, Bool.or_eq_true,
        List.any_eq_true]
      refine .inl ⟨.interface declaration, ?_, beq_self_eq_true declaration.name⟩
      exact List.mem_append_right _ (List.mem_map.2 ⟨declaration, listed, rfl⟩)
    exact ⟨held, Option.isNone_iff_eq_none.1 (Option.isSome_eq_false_iff.1 (next.exclusive _ held))⟩

/-- A document that declares a type and an interface under one name and extends the
latter under its own name, loaded over a catalog that has its names the other way
round. -/
theorem load_eq_of_selfContained_overlaid :
    let document : Document :=
      ⟨.ofList [("A", .single .string), ("B", .single .number)],
        [⟨"B", none, .untyped .empty "x"⟩, ⟨"B", some "B", .untyped .empty "y"⟩]⟩
    let apart := ((empty ⟨.validate, .replace⟩).load document).catalog
    let catalog := ((empty ⟨.trust, .replace⟩).declareAll
      [.interface ⟨"A", none, .empty⟩, .type "B" (.single .boolean),
        .type "C" (.single .object)]).catalog
    let next := (catalog.load document).catalog
    ((empty ⟨.validate, .replace⟩).load document).outcome = .ok ⟨2, 2⟩ ∧
      (catalog.load document).outcome = .ok ⟨2, 2⟩ ∧
      next.types.get? "A" = apart.types.get? "A" ∧
      next.types.get? "C" = some (.single .object) ∧
      next.interfaces.get? "B" = some (.ofList [("x", none), ("y", none)]) ∧
      next.types.get? "B" = none ∧ (next.load document).catalog = next := by
  intro document apart catalog next
  have alone : ((empty ⟨.validate, .replace⟩).load document).outcome = .ok ⟨2, 2⟩ := rfl
  obtain ⟨outcome, declared, kept, _, again, interfaces⟩ :=
    load_eq_of_selfContained alone catalog rfl
  refine ⟨alone, outcome, (declared "A" (.inl rfl)).2, ?_, ?_, ?_, again⟩
  · refine (kept "C" ?_).2
    rintro (held | ⟨declaration, listed, same⟩)
    · cases held
    · revert declaration
      decide
  · exact (declared "B" (.inl rfl)).1
  · exact (interfaces ⟨"B", none, .untyped .empty "x"⟩ (by decide)).2

end Catalog

end Contracts
