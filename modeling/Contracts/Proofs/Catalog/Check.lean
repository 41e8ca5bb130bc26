import Contracts.Proofs.Catalog.Declarations
import Contracts.Proofs.Dict

/-!
# Checking a document before it is loaded

Whether a document can be loaded, and what it fails for, can be told without loading it:
from the names that the catalog holds beforehand and from what the document lists before
each entry.  A **flaw** of an entry is read off these alone, and loading stops at the
first entry with a flaw.

The two policies differ in what they ask of a name and of a base.  Names that may be
replaced are never in the way, but all types of the document are made before its first
interface, so an interface that the catalog holds under one of their names is gone by
then.  Names that may not be replaced keep what they are bound to, and so every
interface that the catalog holds can be extended.

## Main definitions

* `Catalog.flaw` — what is wrong with an entry.
* `Catalog.firstFlaw` — the first entry with a flaw.
* `Document.truncate` — the document up to an entry.

## Main results

* `Catalog.verdict_of_flaw` — an entry without a flaw can be declared, and no other.
* `Catalog.load_eq_firstFlaw` — **loading does what the check foretells.**
-/

namespace Contracts

/-! ### Declarations of a document -/

namespace Document

/-- The document with its first `n` declarations. -/
def truncate (document : Document) (n : Nat) : Document where
  kinds := document.kinds.take n
  interfaces := document.interfaces.take (n - document.kinds.size)

theorem declarations_truncate (document : Document) (n : Nat) :
    (document.truncate n).declarations = document.declarations.take n := by
  unfold declarations truncate Dict.take Dict.size
  rw [List.take_append, List.map_take, List.map_take, List.length_map]

/-- The types of a document are its kinds. -/
theorem type_mem_declarations {document : Document} {name : String} {kind : Kind} :
    Declaration.type name kind ∈ document.declarations ↔
      document.kinds.get? name = some kind := by
  rw [← Dict.mem_entries]
  unfold declarations
  simp only [List.mem_append, List.mem_map, Declaration.type.injEq, reduceCtorEq, and_false,
    exists_false, or_false]
  constructor
  · rintro ⟨_, listed, rfl, rfl⟩
    exact listed
  · intro listed
    exact ⟨_, listed, rfl, rfl⟩

/-- Before an interface is declared, all types have been. -/
theorem exists_type_before {document : Document} {earlier rest : List Declaration}
    {declaration : InterfaceDeclaration}
    (h : document.declarations = earlier ++ .interface declaration :: rest) (name : String) :
    (∃ kind, .type name kind ∈ earlier) ↔ document.kinds.contains name = true := by
  have later := document.pairwise_declarations
  rw [h, List.pairwise_append, List.pairwise_cons] at later
  have listed : ∀ kind, .type name kind ∈ earlier ↔ document.kinds.get? name = some kind := by
    intro kind
    rw [← type_mem_declarations, h, List.mem_append, List.mem_cons]
    refine ⟨.inl, fun member => member.resolve_right ?_⟩
    rintro (same | member)
    · cases same
    · exact nomatch later.2.1.1 _ member rfl
  simp only [listed]
  exact Option.isSome_iff_exists.symm

end Document

namespace Catalog

variable {catalog next : Catalog} {declarations : List Declaration}

/-! ### Flaws -/

/-- What is wrong with an entry of a document that comes after `earlier` ones, as far as
names tell. -/
def flaw (catalog : Catalog) (document : Document) (earlier : List Declaration)
    (declaration : Declaration) : Option Violation :=
  if ¬ Text.IsIdentifier declaration.name then some (.invalidName declaration.name)
  else match catalog.policy.registration with
    | .replace =>
        declaration.base?.bind fun base =>
          if earlier.any (·.declaresInterface base) ∨
              (catalog.interfaces.contains base ∧ ¬ document.kinds.contains base) then none
          else some (.unknownInterface base)
    | .reject =>
        if catalog.interfaces.contains declaration.name ∨
            catalog.types.contains declaration.name ∨
            earlier.any (·.name == declaration.name) then
          some (.alreadyRegistered declaration.name)
        else declaration.base?.bind fun base =>
          if earlier.any (·.declaresInterface base) ∨ catalog.interfaces.contains base then
            none
          else some (.unknownInterface base)

/-- The first of some entries with a flaw, by its place, and what is wrong with it. -/
def firstFlawAfter (catalog : Catalog) (document : Document) (earlier : List Declaration) :
    List Declaration → Option (Nat × Violation)
  | [] => none
  | declaration :: rest =>
      match catalog.flaw document earlier declaration with
      | some violation => some (earlier.length, violation)
      | none => catalog.firstFlawAfter document (earlier ++ [declaration]) rest

/-- The first entry of a document with a flaw. -/
def firstFlaw (catalog : Catalog) (document : Document) : Option (Nat × Violation) :=
  catalog.firstFlawAfter document [] document.declarations

section Entry

variable {document : Document} {earlier rest : List Declaration} {declaration : Declaration}

/-- Which bases there are for an entry, once all before it was declared. -/
theorem interfaces_contains_base (h : document.declarations = earlier ++ declaration :: rest)
    (made : catalog.Makes earlier next) {base : String}
    (extended : declaration.base? = some base) :
    next.interfaces.contains base =
      (earlier.any (·.declaresInterface base) ||
        (catalog.interfaces.contains base && !document.kinds.contains base)) := by
  cases declaration with
  | type name kind => cases extended
  | interface declaration =>
    have ordered := document.pairwise_declarations
    rw [h] at ordered
    rw [made.interfaces_contains (List.pairwise_append.1 ordered).1]
    cases listed : earlier.any (·.declaresInterface base) with
    | true => simp
    | false =>
      -- without interfaces, what is declared under the name is a type of the document
      have declared : earlier.any (·.name == base) = document.kinds.contains base := by
        rw [Bool.eq_iff_iff, ← Document.exists_type_before h base, List.any_eq_true]
        constructor
        · rintro ⟨first, member, same⟩
          cases first with
          | type name kind => exact ⟨kind, (beq_iff_eq.1 same) ▸ member⟩
          | interface first =>
            have := List.any_eq_false.1 listed _ member
            exact absurd same this
        · rintro ⟨kind, member⟩
          exact ⟨_, member, beq_self_eq_true base⟩
      rw [declared]

/-- Under names that may not be replaced, what could be extended before still can. -/
theorem interfaces_contains_base_of_reject
    (h : document.declarations = earlier ++ declaration :: rest)
    (made : catalog.Makes earlier next) (rejects : catalog.policy.registration = .reject)
    {base : String} (extended : declaration.base? = some base) :
    next.interfaces.contains base =
      (earlier.any (·.declaresInterface base) || catalog.interfaces.contains base) := by
  cases declaration with
  | type name kind => cases extended
  | interface declaration =>
    have ordered := document.pairwise_declarations
    rw [h] at ordered
    rw [made.interfaces_contains (List.pairwise_append.1 ordered).1]
    cases held : catalog.interfaces.contains base with
    | false => simp
    | true =>
      have undeclared : earlier.any (·.name == base) = false := by
        refine List.any_eq_false.2 fun first member same => ?_
        have free := made.definition?_eq_none rejects first member
        rw [beq_iff_eq.1 same] at free
        rw [interfaces_contains, free] at held
        cases held
      rw [undeclared]
      rfl

/-- A base is missing exactly if an entry with that base cannot be declared. -/
theorem definition_of_base {base : String} (extended : declaration.base? = some base)
    {offered : Prop} [Decidable offered]
    (h : next.interfaces.contains base = true ↔ offered) :
    (∀ violation, (if offered then none else some (.unknownInterface base)) = some violation →
        declaration.definition next.definition? = .error violation) ∧
      ((if offered then none else some (Violation.unknownInterface base)) = none →
        ∃ definition, declaration.definition next.definition? = .ok definition) := by
  rw [interfaces_contains] at h
  by_cases there : offered
  · rw [if_pos there]
    refine ⟨fun _ wrong => (nomatch wrong), fun _ => ?_⟩
    refine Declaration.exists_definition fun base' extended' => ?_
    rw [extended] at extended'
    cases extended'
    exact h.2 there
  · rw [if_neg there]
    refine ⟨fun violation wrong => ?_, fun wrong => nomatch wrong⟩
    cases wrong
    exact Declaration.definition_of_missing extended (Bool.eq_false_iff.2 (mt h.1 there))

/-- **One entry**: an entry, once all before it was declared, fails for its flaw, and
without a flaw it can be declared. -/
theorem verdict_of_flaw (h : document.declarations = earlier ++ declaration :: rest)
    (made : catalog.Makes earlier next) :
    (∀ violation, catalog.flaw document earlier declaration = some violation →
        declaration.verdict next.policy.registration next.definition? = .error violation) ∧
      (catalog.flaw document earlier declaration = none →
        ∃ definition, declaration.verdict next.policy.registration next.definition? =
          .ok definition) := by
  have baseless : declaration.base? = none →
      ∃ definition, declaration.definition next.definition? = .ok definition := by
    intro missing
    refine Declaration.exists_definition fun base extended => ?_
    rw [missing] at extended
    cases extended
  rw [made.policy]
  unfold flaw
  by_cases ident : Text.IsIdentifier declaration.name
  · rw [if_neg (not_not_intro ident)]
    cases policy : catalog.policy.registration with
    | replace =>
      rw [Declaration.verdict_of_free ident (by simp)]
      cases extended : declaration.base? with
      | none => exact ⟨fun _ wrong => (nomatch wrong), fun _ => baseless extended⟩
      | some base =>
        refine definition_of_base extended ?_
        rw [interfaces_contains_base h made extended]
        simp
    | reject =>
      have bound := made.isSome_definition? declaration.name
      rw [isSome_definition? catalog] at bound
      dsimp only
      split
      · next taken =>
        have taken : (next.definition? declaration.name).isSome = true := by
          rw [bound]
          rcases taken with held | held | held <;> simp [held]
        rw [Declaration.verdict_of_taken ident ⟨rfl, taken⟩]
        refine ⟨fun violation wrong => ?_, fun wrong => nomatch wrong⟩
        cases wrong
        rfl
      · next free =>
        have free : (next.definition? declaration.name).isSome = false := by
          rw [bound]
          simpa [not_or, and_assoc] using free
        rw [Declaration.verdict_of_free ident (by simp [free])]
        cases extended : declaration.base? with
        | none => exact ⟨fun _ wrong => (nomatch wrong), fun _ => baseless extended⟩
        | some base =>
          refine definition_of_base extended ?_
          rw [interfaces_contains_base_of_reject h made policy extended]
          simp
  · rw [if_pos ident, Declaration.verdict_of_not_isIdentifier ident]
    refine ⟨fun violation wrong => ?_, fun wrong => nomatch wrong⟩
    cases wrong
    rfl

/-- The scan finds the entry at which declaring gets stuck, and none if there is none. -/
theorem makes_of_firstFlawAfter (h : document.declarations = earlier ++ rest)
    (made : catalog.Makes earlier next) :
    (catalog.firstFlawAfter document earlier rest = none → ∃ last, next.Makes rest last) ∧
      ∀ n violation, catalog.firstFlawAfter document earlier rest = some (n, violation) →
        ∃ front declaration after middle, rest = front ++ declaration :: after ∧
          n = earlier.length + front.length ∧ next.Makes front middle ∧
            declaration.verdict middle.policy.registration middle.definition? =
              .error violation := by
  -- the part that was scanned moves over to `earlier`, entry by entry
  induction rest generalizing earlier next with
  | nil => exact ⟨fun _ => ⟨next, .nil next⟩, fun _ _ wrong => nomatch wrong⟩
  | cons declaration rest ih =>
    have entry := verdict_of_flaw h made
    simp only [firstFlawAfter]
    cases flawed : catalog.flaw document earlier declaration with
    | some violation =>
      refine ⟨fun wrong => (nomatch wrong), fun n violation' found => ?_⟩
      cases found
      exact ⟨[], declaration, rest, next, rfl, rfl, .nil next, entry.1 violation flawed⟩
    | none =>
      obtain ⟨definition, verdict⟩ := entry.2 flawed
      obtain ⟨middle, _, _, taken⟩ := declare_of_verdict_ok verdict
      have made' : catalog.Makes (earlier ++ [declaration]) middle :=
        makes_append.2 ⟨next, made, .cons verdict taken (.nil middle)⟩
      obtain ⟨clean, found⟩ := ih (by rw [h, List.append_assoc]; rfl) made'
      constructor
      · intro none
        obtain ⟨last, made⟩ := clean none
        exact ⟨last, .cons verdict taken made⟩
      · intro n violation found'
        obtain ⟨front, stuck, after, last, rfl, rfl, made, wrong⟩ := found n violation found'
        refine ⟨declaration :: front, stuck, after, last, rfl, ?_, .cons verdict taken made, wrong⟩
        rw [List.length_append, List.length_cons, List.length_cons, List.length_nil]
        omega

end Entry

/-- **The main theorem**: a document without a flaw is loaded as a whole.  Any other
fails for its first flaw, and leaves the catalog as loading the document up to that
entry, which succeeds, does. -/
theorem load_eq_firstFlaw (catalog : Catalog) (document : Document) :
    match catalog.firstFlaw document with
    | none => (catalog.load document).outcome =
        .ok ⟨document.kinds.size, document.interfaces.length⟩
    | some (n, violation) =>
        n < document.declarations.length ∧
          (catalog.load document).outcome = .error violation ∧
          (catalog.load (document.truncate n)).outcome =
            .ok ⟨(document.truncate n).kinds.size, (document.truncate n).interfaces.length⟩ ∧
          (catalog.load document).catalog = (catalog.load (document.truncate n)).catalog := by
  have unscanned : document.declarations = [] ++ document.declarations := rfl
  obtain ⟨clean, found⟩ := makes_of_firstFlawAfter unscanned (.nil catalog)
  split
  · next none =>
    obtain ⟨last, made⟩ := clean none
    rw [(load_eq ..).2, (declareAll_of_makes made).2, Tally.of_declarations]
  · next n violation some =>
    obtain ⟨front, stuck, after, middle, split, place, made, wrong⟩ := found n violation some
    rw [List.length_nil, Nat.zero_add] at place
    subst place
    -- the document up to the entry lists what was declared before it
    have cut : (document.truncate front.length).declarations = front := by
      rw [Document.declarations_truncate, split, List.take_left]
    have whole := declareAll_of_stuck made wrong after
    have part := declareAll_of_makes made
    refine ⟨?_, ?_, ?_, ?_⟩
    · rw [split, List.length_append, List.length_cons]
      omega
    · rw [(load_eq ..).2, split, whole.2]
    · rw [(load_eq ..).2, cut, part.2, ← Tally.of_declarations, cut]
    · rw [(load_eq ..).1, (load_eq ..).1, cut, split, whole.1, part.1]

/-- The type takes the name of the interface before that could be extended. -/
example :
    ((empty {}).declareAll [.interface ⟨"T", none, .empty⟩]).catalog.firstFlaw
        ⟨.ofList [("T", .single .string)], [⟨"A", none, .empty⟩, ⟨"B", some "T", .empty⟩]⟩ =
      some (2, .unknownInterface "T") := by
  decide

end Catalog

end Contracts
