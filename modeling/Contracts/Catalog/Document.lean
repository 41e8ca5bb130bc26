import Contracts.Catalog

/-!
# Documents

A **document** lists declarations that are made together: types by name, then
interfaces in the order in which they are listed, so that a base comes before what
extends it.  Loading a document makes one declaration after the other and stops at the
first that fails; those made before stay.

## Main definitions

* `InterfaceDeclaration`, `Document` — what a document lists.
* `Declaration`, `Document.declarations` — the declarations in the order in which they
  are made.
* `Catalog.declare`, `Catalog.declareAll` — make one declaration, or many.
* `Catalog.load` — load a document.
-/

namespace Contracts

/-- An interface as a document declares it. -/
structure InterfaceDeclaration where
  /-- The name. -/
  name : String
  /-- The interface it extends. -/
  base : Option String
  /-- The fields of its own. -/
  fields : Shape
  deriving DecidableEq, Repr

/-- A list of declarations. -/
structure Document where
  /-- The kind of each type. -/
  kinds : Dict Kind
  /-- The interfaces, in order. -/
  interfaces : List InterfaceDeclaration
  deriving DecidableEq, Repr

/-- One declaration. -/
inductive Declaration where
  /-- A type and its kind. -/
  | type (name : String) (kind : Kind) : Declaration
  /-- An interface. -/
  | interface (declaration : InterfaceDeclaration) : Declaration
  deriving DecidableEq, Repr

namespace Document

/-- The document without declarations. -/
def empty : Document := ⟨.empty, []⟩

instance : Inhabited Document := ⟨empty⟩

/-- The declarations of a document: types by ascending name, then interfaces as they
are listed. -/
def declarations (document : Document) : List Declaration :=
  document.kinds.entries.map (fun entry => .type entry.1 entry.2) ++
    document.interfaces.map .interface

end Document

/-- How many declarations of each sort were made. -/
structure Tally where
  /-- How many types. -/
  types : Nat
  /-- How many interfaces. -/
  interfaces : Nat
  deriving DecidableEq, Repr

namespace Tally

/-- No declarations. -/
def zero : Tally := ⟨0, 0⟩

/-- One declaration more. -/
def count (tally : Tally) : Declaration → Tally
  | .type .. => { tally with types := tally.types + 1 }
  | .interface _ => { tally with interfaces := tally.interfaces + 1 }

end Tally

namespace Catalog

/-- Make one declaration. -/
def declare (catalog : Catalog) : Declaration → Except Violation (Catalog × List Event)
  | .type name kind =>
      (catalog.defineType name kind).map fun defined => (defined.catalog, defined.events)
  | .interface declaration =>
      (catalog.defineInterface declaration.name declaration.fields declaration.base).map
        fun defined => (defined.catalog, defined.events)

/-- What became of a catalog when declarations were made in it. -/
structure Progress where
  /-- The catalog with the declarations that did not fail. -/
  catalog : Catalog
  /-- What is logged, in order. -/
  events : List Event
  /-- How many declarations were made, or why they stopped before their end. -/
  outcome : Except Violation Tally

/-- Make declarations one after the other up to the first that fails. -/
def declareAll (catalog : Catalog) : List Declaration → Progress
  | [] => ⟨catalog, [], .ok .zero⟩
  | declaration :: rest =>
      match catalog.declare declaration with
      | .error violation => ⟨catalog, [], .error violation⟩
      | .ok (next, events) =>
          let progress := next.declareAll rest
          { progress with
            events := events ++ progress.events
            outcome := progress.outcome.map fun tally => tally.count declaration }

/-- Load a document: make its declarations and, if none fails, log how many were
made. -/
def load (catalog : Catalog) (document : Document) : Progress :=
  let progress := catalog.declareAll document.declarations
  match progress.outcome with
  | .error _ => progress
  | .ok tally =>
      { progress with
        events := progress.events ++ [.documentLoaded tally.types tally.interfaces] }

end Catalog

end Contracts
