import Contracts.Proofs.Catalog.Namespace
import Contracts.Proofs.Catalog.Reordered
import Contracts.Proofs.Definition.Shape
import Contracts.Proofs.Session.Lasting
import Contracts.Proofs.Session.Seeding

/-!
# Lineages

An interface that extends another takes over the fields that the other has at that moment,
and from then on has nothing more to do with it.  So an interface goes back to a **lineage**:
the fields that were declared for itself, under them those that were declared for its base
when that got the shape it had then, and so on down to an interface that extended nothing.
A field is as the latest link of the lineage declares it, whatever happens to the names of
the other links later.

## Main definitions

* `Catalog.history` — the declarations that were made in answer to requests.
* `lineage` — the shapes that an interface goes back to, read off from what was declared.
* `Shape.layered` — shapes laid over each other.
* `Shape.Takes` — a value may be written to a field, as far as a lineage tells.

## Main results

* `Catalog.makes_history` — the history of a catalog leads to it.
* `Catalog.interfaces_get?_after` — **each interface is its lineage, laid over each other.**
* `Catalog.defineInterface_eq_lineage` — what that means for an interface that is defined, for
  what is handed out, and for its instances, whatever is done afterwards.
-/

namespace Contracts

/-! ### What was declared -/

namespace Catalog

/-- The declarations that a request asks for, in order. -/
def Request.declarations : Request → List Declaration
  | .defineInterface name fields base => [.interface ⟨name, base, fields⟩]
  | .defineType name wanted => [.type name wanted]
  | .load document => document.declarations
  | _ => []

/-- Those of some declarations that are made before the first that fails. -/
def madeOf (catalog : Catalog) : List Declaration → List Declaration
  | [] => []
  | declaration :: rest =>
      match catalog.declare declaration with
      | .error _ => []
      | .ok (next, _) => declaration :: next.madeOf rest

/-- The declarations that are made in answer to requests in turn. -/
def history (catalog : Catalog) : List Request → List Declaration
  | [] => []
  | request :: rest =>
      catalog.madeOf request.declarations ++ (catalog.respond request).1.history rest

theorem makes_madeOf (catalog : Catalog) (declarations : List Declaration) :
    catalog.Makes (catalog.madeOf declarations) (catalog.declareAll declarations).catalog := by
  induction declarations generalizing catalog with
  | nil => exact .nil catalog
  | cons first rest ih =>
    cases verdict : first.verdict catalog.policy.registration catalog.definition? with
    | error violation =>
      simp only [madeOf, declareAll, declare_of_verdict_error verdict]
      exact .nil catalog
    | ok definition =>
      obtain ⟨middle, events, declared, taken⟩ := declare_of_verdict_ok verdict
      simp only [madeOf, declareAll, declared]
      exact .cons verdict taken (ih middle)

/-- A request leads where its declarations lead. -/
theorem respond_eq_declareAll (catalog : Catalog) (request : Request) :
    (catalog.respond request).1 = (catalog.declareAll request.declarations).catalog := by
  cases request with
  | defineInterface name fields base =>
    simp only [respond, Request.declarations, declareAll, declare]
    cases catalog.defineInterface name fields base <;> rfl
  | defineType name kind =>
    simp only [respond, Request.declarations, declareAll, declare]
    cases catalog.defineType name kind <;> rfl
  | load document => exact (catalog.load_eq document).1
  | _ => rfl

/-- **The history of a catalog leads to it.** -/
theorem makes_history (catalog : Catalog) (requests : List Request) :
    catalog.Makes (catalog.history requests) (catalog.after requests) := by
  induction requests generalizing catalog with
  | nil => exact .nil catalog
  | cons request rest ih =>
    have first := catalog.makes_madeOf request.declarations
    rw [← respond_eq_declareAll] at first
    exact makes_append.2 ⟨_, first, ih _⟩

end Catalog

/-! ### Lineages -/

/-- The shapes that an interface goes back to, the latest first: the fields declared for
itself, and then the lineage of its base as it stood when it was extended.  What was declared
is listed from the latest declaration to the first. -/
def lineage (name : String) : List Declaration → Option (List Shape)
  | [] => none
  | .type other _ :: earlier => if other = name then none else lineage name earlier
  | .interface declaration :: earlier =>
      if declaration.name = name then
        match declaration.base with
        | none => some [declaration.fields]
        | some base => (lineage base earlier).map (declaration.fields :: ·)
      else lineage name earlier

theorem lineage_cons_of_ne {name : String} {declaration : Declaration}
    (other : declaration.name ≠ name) (earlier : List Declaration) :
    lineage name (declaration :: earlier) = lineage name earlier := by
  cases declaration <;> exact if_neg other

namespace Shape

/-- Shapes laid over each other, the first on top. -/
def layered (links : List Shape) : Shape :=
  links.foldr (fun link below => below.extending link) .empty

/-- A field is as the first shape declares it that does. -/
theorem get?_layered (links : List Shape) (field : String) :
    (layered links).fields.get? field = links.findSome? fun link => link.fields.get? field := by
  induction links with
  | nil => rfl
  | cons link rest ih =>
    show ((layered rest).extending link).fields.get? field = _
    rw [get?_extending, ih, List.findSome?_cons]
    cases link.fields.get? field <;> rfl

/-- So it is declared if it is by any of them. -/
theorem declares_layered {links : List Shape} {field : String} :
    (layered links).declares field = true ↔ ∃ link ∈ links, link.declares field = true := by
  unfold declares Dict.contains
  rw [get?_layered, List.findSome?_isSome_iff]

theorem layered_singleton (shape : Shape) : layered [shape] = shape := by
  have same : (layered [shape]).fields = shape.fields :=
    Dict.ext_get? fun field => by
      rw [get?_layered, List.findSome?_cons, List.findSome?_nil]
      cases shape.fields.get? field <;> rfl
  cases shape
  exact congrArg Shape.mk same

/-- A value may be written to a field, as far as shapes laid over each other tell: the first
that declares the field has no kind for it, or one that the value is of. -/
def Takes (links : List Shape) (field : String) (value : Value) : Prop :=
  ∃ declared, (links.findSome? fun link => link.fields.get? field) = some declared ∧
    ∀ kind, declared = some kind → kind.accepts value = true

end Shape

/-- What may be written to an instance. -/
theorem Interface.check_eq_ok_iff_takes {interface : Interface} {links : List Shape}
    (same : interface.shape = .layered links) {field : String} {value : Value} :
    interface.check field value = .ok () ↔ Shape.Takes links field value := by
  rw [Interface.check_eq_ok, same]
  unfold Shape.Takes Shape.declares Shape.kindOf Dict.contains
  rw [Shape.get?_layered]
  cases links.findSome? fun link => link.fields.get? field with
  | none => simp
  | some declared => simp

/-- Trusted seeds are all accepted; validated ones if their entries are admitted. -/
theorem Interface.exists_constructWith_iff {interface : Interface} {world : World}
    {seed : RecordId} :
    (∃ made, world.constructWith interface seed = .ok made) ↔
      (interface.seeds = .validate → interface.Admits (world.store.record seed)) := by
  cases seeds : interface.seeds with
  | validate =>
    rw [exists_constructWith_iff_admits seeds]
    exact ⟨fun admits _ => admits, fun admits => admits rfl⟩
  | trust =>
    refine ⟨fun _ wrong => (nomatch wrong), fun _ => ⟨world.bind interface seed, ?_⟩⟩
    rw [World.constructWith, seeds]

namespace Catalog

variable {catalog next : Catalog} {declarations earlier : List Declaration} {name : String}

/-! ### Interfaces and their lineages -/

/-- What is declared has the lineage that its base gives it. -/
theorem shape?_of_definition
    (before : ∀ name, catalog.interfaces.get? name = (lineage name earlier).map Shape.layered)
    {declaration : Declaration} {definition : Definition}
    (made : declaration.definition catalog.definition? = .ok definition) :
    definition.shape? =
      (lineage declaration.name (declaration :: earlier)).map Shape.layered := by
  cases declaration with
  | type name kind =>
    cases made
    rw [Declaration.name_type, lineage, if_pos rfl]
    rfl
  | interface declaration =>
    rw [Declaration.name_interface, lineage, if_pos rfl]
    simp only [Declaration.definition] at made
    cases extended : declaration.base with
    | none =>
      rw [extended] at made
      cases made
      show some declaration.fields = some (Shape.layered [declaration.fields])
      rw [Shape.layered_singleton]
    | some base =>
      simp only [extended] at made ⊢
      have inherited := before base
      rw [interfaces_get?] at inherited
      split at made
      · next shape found =>
        cases made
        -- the base has a lineage, and its shape is what that makes of it
        rw [found, Option.bind_some, Definition.shape?_interface] at inherited
        obtain ⟨links, known, rfl⟩ := Option.map_eq_some_iff.1 inherited.symm
        rw [known, ← Shape.extending_eq_ofList]
        rfl
      · cases made

/-- **One declaration after the other**: interfaces are their lineages throughout. -/
theorem Makes.interfaces_get? (made : catalog.Makes declarations next)
    (before : ∀ name, catalog.interfaces.get? name = (lineage name earlier).map Shape.layered) :
    ∀ name, next.interfaces.get? name =
      (lineage name (declarations.reverse ++ earlier)).map Shape.layered := by
  -- what was made moves over to what is earlier, declaration by declaration
  induction made generalizing earlier with
  | nil => exact before
  | @cons catalog middle next first rest definition verdict taken _ ih =>
    rw [List.reverse_cons, List.append_assoc]
    refine ih fun name => ?_
    rw [Catalog.interfaces_get?, taken.definition?]
    split
    · next same =>
      rw [same]
      exact shape?_of_definition before (Declaration.verdict_eq_ok.1 verdict).2.2
    · next other =>
      rw [← Catalog.interfaces_get?, before]
      exact congrArg _ (lineage_cons_of_ne (Ne.symm other) earlier).symm

/-- **Each interface is its lineage, laid over each other.** -/
theorem interfaces_get?_after (policy : Policy) (requests : List Request) (name : String) :
    ((empty policy).after requests).interfaces.get? name =
      (lineage name ((empty policy).history requests).reverse).map Shape.layered := by
  have made := (empty policy).makes_history requests
  have none : ∀ name, (empty policy).interfaces.get? name =
      (lineage name []).map Shape.layered := fun _ => rfl
  rw [made.interfaces_get? none name, List.append_nil]

/-- Names that are not declared keep their interfaces. -/
theorem interface_after_of_undeclared {requests : List Request}
    (undeclared : ∀ declaration ∈ catalog.history requests, declaration.name ≠ name) :
    (catalog.after requests).interface name = catalog.interface name := by
  have made := catalog.makes_history requests
  unfold interface
  rw [interfaces_get?, interfaces_get?, made.definition?_of_undeclared undeclared, made.policy]

/-- What is defined on a base could as well have been defined with all its fields and without
a base. -/
theorem exists_defineInterface_plain {fields : Shape} {base : Option String}
    {defined : Defined Interface}
    (made : catalog.defineInterface name fields base = .ok defined) :
    ∃ plain, catalog.defineInterface name defined.handle.shape none = .ok plain ∧
      plain.catalog = defined.catalog ∧ plain.handle = defined.handle := by
  have verdict := catalog.map_defineInterface name fields base
  rw [made] at verdict
  obtain ⟨ident, free, _⟩ := Declaration.verdict_eq_ok.1 verdict.symm
  -- the name is as good as before, and without a base there is nothing to be missing
  have allowed : (Declaration.interface ⟨name, none, defined.handle.shape⟩).verdict
      catalog.policy.registration catalog.definition? = .ok (.interface defined.handle.shape) :=
    Declaration.verdict_eq_ok.2 ⟨ident, free, rfl⟩
  have verdict' := catalog.map_defineInterface name defined.handle.shape none
  rw [allowed] at verdict'
  cases made' : catalog.defineInterface name defined.handle.shape none with
  | error violation =>
    rw [made'] at verdict'
    cases verdict'
  | ok plain =>
    rw [made'] at verdict'
    injection verdict' with shapes
    injection shapes with shape
    obtain ⟨handle, taken⟩ := takesIn_of_defineInterface made
    obtain ⟨handle', taken'⟩ := takesIn_of_defineInterface made'
    rw [shape] at handle' taken'
    exact ⟨plain, rfl, taken'.unique taken, handle'.trans handle.symm⟩

/-- What an interface that is defined is made of: its own fields, over the lineage that its
base has at that moment. -/
theorem exists_links_of_defineInterface {policy : Policy} {requests : List Request}
    {fields : Shape} {base : Option String} {defined : Defined Interface}
    (made : ((empty policy).after requests).defineInterface name fields base = .ok defined) :
    let earlier := ((empty policy).history requests).reverse
    ∃ links, lineage name (.interface ⟨name, base, fields⟩ :: earlier) = some links ∧
      defined.handle.shape = .layered links := by
  intro earlier
  have verdict := ((empty policy).after requests).map_defineInterface name fields base
  rw [made] at verdict
  have shape := shape?_of_definition (interfaces_get?_after policy requests)
    (Declaration.verdict_eq_ok.1 verdict.symm).2.2
  obtain ⟨links, known, same⟩ := Option.map_eq_some_iff.1 shape.symm
  exact ⟨links, known, same.symm⟩

/-- **The main theorem**: an interface that is defined has the fields of its lineage, each as
the latest link declares it that does, where its base counts as it stands at that moment.  It
is as good as an interface that was defined with these fields and without a base.  What is
done afterwards changes nothing: as long as its own name is not declared again the interface
is found under it, whatever becomes of the names of its bases; what may be written to
instances, and which seeds are accepted, is what the lineage tells; and the interface and its
instances are held as they are until something else is held under their names. -/
theorem defineInterface_eq_lineage {policy : Policy} {requests : List Request}
    {fields : Shape} {base : Option String} {defined : Defined Interface}
    (made : ((empty policy).after requests).defineInterface name fields base = .ok defined) :
    let catalog := (empty policy).after requests
    let earlier := ((empty policy).history requests).reverse
    let interface := defined.handle
    ∃ links, lineage name (.interface ⟨name, base, fields⟩ :: earlier) = some links ∧
      (base = none → links = [fields]) ∧
      (∀ extended, base = some extended → ∃ inherited,
        lineage extended earlier = some inherited ∧ links = fields :: inherited ∧
          catalog.interfaces.get? extended = some (.layered inherited)) ∧
      (∀ field,
        (interface.shape.declares field = true ↔ ∃ link ∈ links, link.declares field = true) ∧
          interface.shape.fields.get? field =
            links.findSome? fun link => link.fields.get? field) ∧
      (∃ plain, catalog.defineInterface name interface.shape none = .ok plain ∧
        plain.catalog = defined.catalog ∧ plain.handle = interface) ∧
      (∀ later, (∀ declaration ∈ defined.catalog.history later, declaration.name ≠ name) →
        (defined.catalog.after later).interface name = .ok interface) ∧
      (∀ (world : World) (inst : Instance), inst.interface = interface → ∀ field value,
        (world.setField inst field value).2 = .ok () ↔ Shape.Takes links field value) ∧
      (∀ (world : World) (seed : RecordId),
        (∃ result, world.constructWith interface seed = .ok result) ↔
          (interface.seeds = .validate → ∀ key value,
            (world.store.record seed).get? key = some value → Shape.Takes links key value)) ∧
      (∀ (session : Session) (holding : Holding) (into : String) (steps : List Step),
        (holding = .interface interface ∨
          ∃ inst, holding = .inst inst ∧ inst.interface = interface) →
        session.holdings.get? into = some holding → (∀ step ∈ steps, step.into ≠ some into) →
          (session.runSteps steps).holdings.get? into = some holding) := by
  intro catalog earlier interface
  obtain ⟨links, known, shape⟩ := exists_links_of_defineInterface made
  refine ⟨links, known, ?_, ?_, fun field => ?_, exists_defineInterface_plain made, ?_, ?_, ?_, ?_⟩
  · rintro rfl
    rw [lineage, if_pos rfl] at known
    exact (Option.some.inj known).symm
  · rintro extended rfl
    rw [lineage, if_pos rfl] at known
    dsimp only at known
    obtain ⟨inherited, standing, rfl⟩ := Option.map_eq_some_iff.1 known
    refine ⟨inherited, standing, rfl, ?_⟩
    rw [interfaces_get?_after, standing]
    rfl
  · show (interface.shape.declares field = true ↔ _) ∧ _
    rw [shape]
    exact ⟨Shape.declares_layered, Shape.get?_layered links field⟩
  · intro later undeclared
    rw [interface_after_of_undeclared undeclared]
    exact interface_of_takesIn (takesIn_of_defineInterface made)
  · intro world inst same field value
    rw [World.setField_outcome, same]
    exact Interface.check_eq_ok_iff_takes shape
  · intro world seed
    rw [Interface.exists_constructWith_iff]
    exact imp_congr_right fun _ => forall₃_congr fun _ _ _ =>
      Interface.check_eq_ok_iff_takes shape
  · intro session holding into steps lasting held unnamed
    refine Session.get?_runSteps held ?_ unnamed
    rcases lasting with rfl | ⟨inst, rfl, _⟩
    · trivial
    · trivial

/-- An interface that extends its own earlier definition, in which a field lost the kind it
had from a base whose name is that of a type by now; afterwards the type gives way to another
interface. -/
theorem defineInterface_eq_lineage_snapshot :
    let requests : List Request :=
      [.defineInterface "A" (.ofList [("x", some (.single .number)), ("y", some (.single .string))])
          none,
        .defineInterface "B" (.ofList [("x", none)]) (some "A"),
        .defineType "A" (.single .boolean), .defineInterface "C" .empty (some "A")]
    let fields : Shape := .ofList [("z", some (.single .boolean))]
    let catalog := (empty {}).after requests
    ∃ defined, catalog.defineInterface "B" fields (some "B") = .ok defined ∧
      defined.handle.shape.fields.get? "x" = some none ∧
      defined.handle.shape.fields.get? "y" = some (some (.single .string)) ∧
      defined.handle.shape.declares "z" = true ∧ defined.handle.shape.declares "w" = false ∧
      (defined.catalog.after [.defineInterface "A" (.ofList [("w", none)]) none]).interface "B" =
        .ok defined.handle ∧
      ∀ (world : World) (inst : Instance), inst.interface = defined.handle →
        (world.setField inst "x" .null).2 = .ok () ∧
          (world.setField inst "y" .null).2 ≠ .ok () := by
  intro requests fields catalog
  refine ⟨_, rfl, ?_⟩
  obtain ⟨links, known, -, -, declared, -, later, takes, -⟩ := defineInterface_eq_lineage
    (show ((empty {}).after requests).defineInterface "B" fields (some "B") = .ok _ from rfl)
  have links_eq : links = [fields, .ofList [("x", none)],
      .ofList [("x", some (.single .number)), ("y", some (.single .string))]] := by
    refine Option.some.inj (known.symm.trans ?_)
    decide +kernel
  subst links_eq
  refine ⟨(declared "x").2, (declared "y").2, (declared "z").1.2 (by decide), ?_, ?_, ?_⟩
  · exact Bool.eq_false_iff.2 fun wrong => absurd ((declared "w").1.1 wrong) (by decide)
  · exact later _ (by decide +kernel)
  · intro world inst same
    refine ⟨(takes world inst same "x" .null).2 ⟨none, rfl, fun _ wrong => nomatch wrong⟩, ?_⟩
    intro wrong
    obtain ⟨_, found, accepted⟩ := (takes world inst same "y" .null).1 wrong
    cases found
    cases accepted _ rfl

end Catalog

end Contracts
