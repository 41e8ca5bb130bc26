import Contracts.Definition.Shape
import Contracts.Dict.Lemmas

/-!
# Shapes in the making

A shape can be built one declaration after the other, with one builder for all fields or with
one for fields of a kind and another for those that take any value.  It can also be collected
from all declarations at once and laid over what there was before.  All of these ways lead to
the same shape, in which each field is as it was declared last.

To lay shapes over one another is associative, and a shape adds nothing to itself or to the
empty one.  So a series of extensions comes to the same however it is grouped.

## Main definitions

* `Shape.declared` — the declarations of a shape.
* `Shape.enter` — declare a field with the builder for it.
* `Shape.Grouping` — a series of shapes, put together two at a time.
* `Shape.ExtensionLaws` — how extensions combine.

## Main results

* `Shape.get?_extending`, `Shape.extending_eq_ofList` — the fields of an extension.
* `Shape.foldl_declare`, `Shape.foldl_enter` — declaring one by one is extending by the list.
* `Shape.Grouping.merged_eq` — **the grouping of extensions does not matter.**
* `Shape.builders_agree` — all ways of building a shape agree.
-/

namespace Contracts.Shape

variable {name : String}

/-- The declarations of a shape. -/
def declared (shape : Shape) : List (String × Option Kind) := shape.fields.entries

/-! ### Declaring one by one -/

/-- Declare a field with the builder for it, which is one of two: for fields of a kind, and for
those that take any value. -/
def enter (shape : Shape) (declaration : String × Option Kind) : Shape :=
  match declaration.2 with
  | some kind => shape.field declaration.1 kind
  | none => shape.untyped declaration.1

theorem enter_eq_declare (shape : Shape) (declaration : String × Option Kind) :
    shape.enter declaration = shape.declare declaration.1 declaration.2 := by
  obtain ⟨name, kind⟩ := declaration
  cases kind <;> rfl

/-- A shape is what its fields are declared to be. -/
theorem ext_get? {left right : Shape} (h : ∀ name, left.fields.get? name = right.fields.get? name) :
    left = right := by
  obtain ⟨fields⟩ := left
  obtain ⟨fields'⟩ := right
  exact congrArg Shape.mk (Dict.ext_get? h)

@[simp] theorem get?_empty (name : String) : empty.fields.get? name = none := rfl

theorem get?_extending (base derived : Shape) (field : String) :
    (base.extending derived).fields.get? field =
      (derived.fields.get? field).or (base.fields.get? field) :=
  Dict.get?_merge ..

theorem get?_ofList (declarations : List (String × Option Kind)) (name : String) :
    (ofList declarations).fields.get? name = declarations.reverse.lookup name :=
  Dict.get?_ofList declarations name

/-- An extension declares the fields of the base and then its own. -/
theorem extending_eq_ofList (base derived : Shape) :
    base.extending derived = ofList (base.declared ++ derived.declared) := by
  apply ext_get?
  intro name
  rw [get?_extending, get?_ofList, List.reverse_append, List.lookup_append, declared, declared,
    Dict.lookup_reverse_entries, Dict.lookup_reverse_entries]

/-- Declaring one by one binds the pairs of a list in turn. -/
theorem fields_foldl_declare (base : Shape) (declarations : List (String × Option Kind)) :
    (declarations.foldl (fun shape declaration => shape.declare declaration.1 declaration.2)
        base).fields =
      declarations.foldl (fun fields declaration => fields.insert declaration.1 declaration.2)
        base.fields := by
  induction declarations generalizing base with
  | nil => rfl
  | cons declaration rest ih => exact ih (base.declare declaration.1 declaration.2)

/-- **Declaring one by one is extending by the list.** -/
theorem foldl_declare (base : Shape) (declarations : List (String × Option Kind)) :
    declarations.foldl (fun shape declaration => shape.declare declaration.1 declaration.2) base =
      base.extending (ofList declarations) := by
  apply ext_get?
  intro name
  rw [fields_foldl_declare, Dict.get?_foldl_insert, get?_extending, get?_ofList]

theorem foldl_enter (base : Shape) (declarations : List (String × Option Kind)) :
    declarations.foldl enter base = base.extending (ofList declarations) := by
  have same : enter = fun shape declaration => shape.declare declaration.1 declaration.2 := by
    funext shape declaration
    exact shape.enter_eq_declare declaration
  rw [same, foldl_declare]

/-! ### Which declaration counts -/

/-- A name that is not listed is not found. -/
theorem lookup_eq_none {declarations : List (String × Option Kind)}
    (absent : ∀ declaration ∈ declarations, declaration.1 ≠ name) :
    declarations.lookup name = none := by
  rw [List.lookup_eq_none_iff]
  intro declaration listed
  simpa using (absent declaration listed).symm

/-- The last declaration of a field counts. -/
theorem get?_extending_ofList_of_last (base : Shape)
    {declarations front back : List (String × Option Kind)} {kind : Option Kind}
    (listed : declarations = front ++ (name, kind) :: back)
    (last : ∀ later ∈ back, later.1 ≠ name) :
    (base.extending (ofList declarations)).fields.get? name = some kind := by
  have later : back.reverse.lookup name = none :=
    lookup_eq_none fun declaration member => last declaration (List.mem_reverse.1 member)
  rw [get?_extending, get?_ofList, listed, List.reverse_append, List.reverse_cons,
    List.append_assoc, List.lookup_append, later, Option.none_or, List.singleton_append,
    List.lookup_cons_self, Option.some_or]

/-- What is not declared is as in the base. -/
theorem get?_extending_ofList_of_absent (base : Shape) {declarations : List (String × Option Kind)}
    (absent : ∀ declaration ∈ declarations, declaration.1 ≠ name) :
    (base.extending (ofList declarations)).fields.get? name = base.fields.get? name := by
  have none : declarations.reverse.lookup name = none :=
    lookup_eq_none fun declaration member => absent declaration (List.mem_reverse.1 member)
  rw [get?_extending, get?_ofList, none, Option.none_or]

/-! ### Extensions of extensions -/

theorem extending_assoc (first second third : Shape) :
    (first.extending second).extending third = first.extending (second.extending third) := by
  apply ext_get?
  intro name
  simp only [get?_extending, Option.or_assoc]

theorem extending_self (shape : Shape) : shape.extending shape = shape := by
  apply ext_get?
  intro name
  rw [get?_extending, Option.or_self]

theorem empty_extending (shape : Shape) : empty.extending shape = shape := by
  apply ext_get?
  intro name
  rw [get?_extending, get?_empty, Option.or_none]

theorem extending_empty (shape : Shape) : shape.extending empty = shape := by
  apply ext_get?
  intro name
  rw [get?_extending, get?_empty, Option.none_or]

/-- A series of shapes, put together two at a time in some way. -/
inductive Grouping where
  /-- One shape by itself. -/
  | one (shape : Shape) : Grouping
  /-- What was put together of the later shapes extends what was of the earlier ones. -/
  | both (earlier later : Grouping) : Grouping

namespace Grouping

/-- The shapes in their order. -/
def series : Grouping → List Shape
  | one shape => [shape]
  | both earlier later => earlier.series ++ later.series

/-- What they come to, each two being put together as the grouping says. -/
def merged : Grouping → Shape
  | one shape => shape
  | both earlier later => earlier.merged.extending later.merged

/-- What extends a series can be put together before it does. -/
theorem foldl_extending (shape : Shape) (shapes : List Shape) :
    shapes.foldl Shape.extending shape = shape.extending (shapes.foldl Shape.extending .empty) := by
  induction shapes generalizing shape with
  | nil => exact (extending_empty shape).symm
  | cons first rest ih =>
    rw [List.foldl_cons, List.foldl_cons, ih, ih (Shape.empty.extending first), empty_extending,
      extending_assoc]

/-- **The grouping does not matter**: shapes come to what they do one after the other. -/
theorem merged_eq (grouping : Grouping) :
    grouping.merged = grouping.series.foldl Shape.extending .empty := by
  induction grouping with
  | one shape => exact (empty_extending shape).symm
  | both earlier later ih ih' =>
    rw [merged, series, List.foldl_append, foldl_extending, ← ih, ← ih']

end Grouping

/-- How extensions combine. -/
structure ExtensionLaws : Prop where
  /-- To extend by an extension is to extend twice. -/
  assoc : ∀ first second third : Shape,
    (first.extending second).extending third = first.extending (second.extending third)
  /-- A shape adds nothing to itself. -/
  self : ∀ shape : Shape, shape.extending shape = shape
  /-- What extends the empty shape stays as it is. -/
  emptyBase : ∀ shape : Shape, empty.extending shape = shape
  /-- The empty shape adds nothing. -/
  emptyDerived : ∀ shape : Shape, shape.extending empty = shape
  /-- The same series comes to the same, however it is grouped. -/
  grouping : ∀ left right : Grouping, left.series = right.series → left.merged = right.merged

theorem extensionLaws : ExtensionLaws where
  assoc := extending_assoc
  self := extending_self
  emptyBase := empty_extending
  emptyDerived := extending_empty
  grouping left right same := by rw [left.merged_eq, right.merged_eq, same]

/-- **The main theorem**: whatever is declared over a base, declaring one by one with either set
of builders leads to the shape that collects the declarations and extends the base by them.
In it each field is as the last of its declarations says, or else as in the base. -/
theorem builders_agree (base : Shape) (declarations : List (String × Option Kind)) :
    let built := base.extending (ofList declarations)
    declarations.foldl (fun shape declaration => shape.declare declaration.1 declaration.2) base =
        built ∧
      declarations.foldl enter base = built ∧
      (∀ front name kind back, declarations = front ++ (name, kind) :: back →
        (∀ later ∈ back, later.1 ≠ name) → built.fields.get? name = some kind) ∧
      (∀ name, (∀ declaration ∈ declarations, declaration.1 ≠ name) →
        built.fields.get? name = base.fields.get? name) ∧
      ExtensionLaws := by
  intro built
  refine ⟨foldl_declare base declarations, foldl_enter base declarations, ?_, ?_, extensionLaws⟩
  · intro front name kind back listed last
    exact get?_extending_ofList_of_last base listed last
  · intro name absent
    exact get?_extending_ofList_of_absent base absent

/-- A field that is declared again, for any value, over one of a kind in the base. -/
theorem builders_agree_again :
    let base := (empty.field "id" (.single .number)).field "label" (.single .string)
    let declarations := [("id", some (Kind.single .string)), ("meta", none), ("id", none)]
    let built := declarations.foldl enter base
    (∀ later ∈ ([] : List (String × Option Kind)), later.1 ≠ "id") ∧
      (∀ declaration ∈ declarations, declaration.1 ≠ "label") ∧
      built.fields.get? "id" = some none ∧
      built.fields.get? "label" = some (some (.single .string)) := by
  intro base declarations built
  obtain ⟨-, same, last, absent, -⟩ := builders_agree base declarations
  have unlisted : ∀ declaration ∈ declarations, declaration.1 ≠ "label" := by
    simp [declarations]
  have label : base.fields.get? "label" = some (some (.single .string)) := by decide +kernel
  refine ⟨by simp, unlisted, ?_, ?_⟩
  · show (declarations.foldl enter base).fields.get? "id" = _
    rw [same]
    exact last [("id", some (.single .string)), ("meta", none)] "id" none [] rfl (by simp)
  · show (declarations.foldl enter base).fields.get? "label" = _
    rw [same, absent "label" unlisted, label]

end Contracts.Shape
