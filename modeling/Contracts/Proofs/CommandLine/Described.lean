import Contracts.Proofs.Catalog.Namespace
import Contracts.Proofs.CommandLine.Conformance
import Mathlib.Data.List.TakeWhile

/-!
# What a description leaves out

A description is the lines of the definitions with the blanks at its end dropped.  Every
line shows something besides blanks, so nothing but the end of the last line can be
missing; and it is missing when the kind that is shown there is a union of no tags, or
ends with a tag that itself ends in blanks.

## Main definitions

* `Catalog.listing` — the lines of all definitions in full, by looking each name up.
* `Catalog.lastKind?` — the kind that is shown at the very end.
* `Kind.EndsVisibly` — a kind whose words end with a character that is no blank.

## Main results

* `Text.trimEnd_append` — dropping the blanks at the end reaches no further than to the
  last character that is none.
* `Catalog.lines_eq_listing` — the lines of a catalog are those of its definitions.
* `Catalog.describe_eq` — a description is complete up to the end of its last line.
* `Request.describe_iff_endsVisibly` — **what a description leaves out.**
-/

namespace Contracts

/-! ### Blanks at the end -/

namespace Text

/-- The text has a character that is no blank. -/
def IsVisible (text : String) : Prop := ∃ c ∈ text.toList, isBlank c = false

theorem isVisible_append_left {front : String} (h : IsVisible front) (back : String) :
    IsVisible (front ++ back) := by
  obtain ⟨c, member, visible⟩ := h
  exact ⟨c, by rw [String.toList_append]; exact List.mem_append_left _ member, visible⟩

theorem isVisible_append_right (front : String) {back : String} (h : IsVisible back) :
    IsVisible (front ++ back) := by
  obtain ⟨c, member, visible⟩ := h
  exact ⟨c, by rw [String.toList_append]; exact List.mem_append_right _ member, visible⟩

/-- Dropping blanks from the end stops within a part that has something else. -/
theorem trimEnd_append (front : String) {back : String} (visible : IsVisible back) :
    trimEnd (front ++ back) = front ++ trimEnd back := by
  obtain ⟨c, member, noBlank⟩ := visible
  have stops : (back.toList.reverse.dropWhile isBlank).isEmpty = false := by
    rw [Bool.eq_false_iff, ne_eq, List.isEmpty_iff, List.dropWhile_eq_nil_iff]
    intro blank
    rw [blank c (List.mem_reverse.2 member)] at noBlank
    cases noBlank
  apply String.toList_inj.1
  simp only [trimEnd, dropEnd, String.toList_append, String.toList_ofList, List.reverse_append,
    List.dropWhile_append, stops, Bool.false_eq_true, if_false, List.reverse_reverse]

/-- A text is kept as it is exactly if it does not end in a blank. -/
theorem trimEnd_eq_self_iff {text : String} :
    trimEnd text = text ↔ ∀ c ∈ text.toList.getLast?, isBlank c = false := by
  rw [← String.toList_inj, trimEnd, String.toList_ofList, dropEnd, ← List.head?_reverse]
  generalize listed : text.toList.reverse = reversed
  have back : text.toList = reversed.reverse := by rw [← listed, List.reverse_reverse]
  rw [back, List.reverse_inj]
  cases reversed with
  | nil => simp
  | cons first rest => simp

/-- The last of joined lines comes after what the others make up. -/
theorem exists_intercalate_concat (init : List String) :
    ∃ front, ∀ last, "\n".intercalate (init ++ [last]) = front ++ last := by
  cases init with
  | nil =>
    refine ⟨"", fun last => ?_⟩
    rw [List.nil_append, String.intercalate_singleton, String.empty_append]
  | cons first rest =>
    refine ⟨"\n".intercalate (first :: rest) ++ "\n", fun last => ?_⟩
    rw [String.intercalate_append_of_ne_nil (List.cons_ne_nil _ _) (List.cons_ne_nil _ _),
      String.intercalate_singleton]

/-- Of joined lines, only the last one loses its blanks, if it has something else. -/
theorem trimEnd_intercalate {lines : List String}
    (visible : ∀ line ∈ lines.getLast?, IsVisible line) :
    trimEnd ("\n".intercalate lines) =
        "\n".intercalate (lines.dropLast ++ lines.getLast?.toList.map trimEnd) ∧
      (trimEnd ("\n".intercalate lines) = "\n".intercalate lines ↔
        ∀ line ∈ lines.getLast?, trimEnd line = line) := by
  rcases List.eq_nil_or_concat lines with rfl | ⟨init, last, rfl⟩
  · exact ⟨rfl, fun _ _ member => (nomatch member), fun _ => rfl⟩
  obtain ⟨front, joined⟩ := exists_intercalate_concat init
  have shown : IsVisible last := visible last (by simp)
  rw [List.concat_eq_append, List.dropLast_concat, List.getLast?_concat, Option.toList_some,
    List.map_singleton, joined, joined, trimEnd_append front shown]
  refine ⟨rfl, ?_⟩
  simp only [Option.mem_def, Option.some.injEq, forall_eq', String.append_right_inj]

end Text

/-! ### The lines of the definitions -/

/-- The line of a field: its kind, or `any` if it takes any value. -/
def Shape.fieldLine (shape : Shape) (field : String) : String :=
  "  " ++ field ++ ": " ++ (shape.kindOf field).elim "any" Kind.display

/-- The words of a kind do not end in a blank; nor are they missing altogether. -/
def Kind.EndsVisibly (kind : Kind) : Prop :=
  ∃ c ∈ kind.display.toList.getLast?, Text.isBlank c = false

instance (kind : Kind) : Decidable kind.EndsVisibly :=
  decidable_of_iff (kind.display.toList.getLast?.any fun c => !Text.isBlank c) <| by
    simp [Kind.EndsVisibly, Option.any_eq_true]

namespace Catalog

/-- The lines of an interface: its name, then its fields by ascending name. -/
def interfaceLines (catalog : Catalog) (name : String) : List String :=
  (catalog.interfaces.get? name).elim [] fun shape =>
    ("interface " ++ name) :: shape.names.map shape.fieldLine

/-- The line of a type. -/
def typeLines (catalog : Catalog) (name : String) : List String :=
  (catalog.types.get? name).elim [] fun kind => ["type " ++ name ++ " = " ++ kind.display]

/-- The lines of all definitions in full: the interfaces, then the types, by ascending
name. -/
def listing (catalog : Catalog) : List String :=
  catalog.interfaces.names.flatMap catalog.interfaceLines ++
    catalog.types.names.flatMap catalog.typeLines

/-- The kind that is shown last: that of the last type or, without types, of the last field
of the last interface. -/
def lastKind? (catalog : Catalog) : Option Kind :=
  match catalog.types.names.getLast? with
  | some name => catalog.types.get? name
  | none => do
      let shape ← catalog.interfaces.get? (← catalog.interfaces.names.getLast?)
      shape.kindOf (← shape.names.getLast?)

/-! ### What comes last -/

/-- The last of the lines that several names have is that of the last name. -/
theorem getLast?_flatMap {names : List String} {name : String} {lines : String → List String}
    (last : names.getLast? = some name) (some_line : lines name ≠ []) :
    (names.flatMap lines).getLast? = (lines name).getLast? := by
  obtain ⟨front, rfl⟩ := List.getLast?_eq_some_iff.1 last
  rw [List.flatMap_append, List.flatMap_singleton, List.getLast?_append_of_ne_nil _ some_line]

variable {catalog : Catalog}

/-- The keys of a dictionary lead to the lines that its entries have. -/
theorem flatMap_keys {β : Type} (dict : Dict β) (lines : String → β → List String) :
    (dict.keys.flatMap fun key => (dict.get? key).elim [] (lines key)) =
      dict.entries.flatMap fun entry => lines entry.1 entry.2 := by
  rw [Dict.keys, List.flatMap_map]
  refine List.flatMap_congr fun entry listed => ?_
  rw [Dict.mem_entries.1 listed, Option.elim_some]

theorem shape_lines (shape : Shape) : shape.lines = shape.names.map shape.fieldLine := by
  rw [Shape.lines, Shape.names, Dict.keys, List.map_map]
  refine List.map_congr_left fun entry listed => ?_
  have bound : shape.fields.get? entry.1 = some entry.2 := Dict.mem_entries.1 listed
  rw [Function.comp_apply, Shape.fieldLine, Shape.kindOf, bound]
  cases entry.2 <;> rfl

/-- The lines of a catalog are those of its definitions. -/
theorem lines_eq_listing (catalog : Catalog) : catalog.lines = catalog.listing := by
  have interfaces := flatMap_keys catalog.interfaces.entries fun name shape =>
    ("interface " ++ name) :: shape.names.map shape.fieldLine
  have types := flatMap_keys catalog.types.entries fun name kind =>
    ["type " ++ name ++ " = " ++ kind.display]
  refine Eq.trans ?_ (congrArg₂ (· ++ ·) interfaces types).symm
  simp only [lines, shape_lines, ← List.map_eq_flatMap]

/-- A text that ends as its last part does. -/
theorem getLast?_toList_append (front : String) {back : String} (some_char : back.toList ≠ []) :
    (front ++ back).toList.getLast? = back.toList.getLast? := by
  rw [String.toList_append, List.getLast?_append_of_ne_nil _ some_char]

/-- The line of an interface shows its name to the end. -/
theorem trimEnd_interface {name : String} (named : Text.IsIdentifier name) :
    Text.trimEnd ("interface " ++ name) = "interface " ++ name := by
  have shown : name.toList ≠ [] := by
    intro nothing
    rw [Text.IsIdentifier, nothing] at named
    cases named
  rw [Text.trimEnd_eq_self_iff, getLast?_toList_append _ shown]
  intro c last
  have bounds := Text.bounds_of_isIdentifierPart
    (Text.isIdentifierPart_of_mem named (List.mem_of_getLast? last))
  simp only [Text.isBlank, Bool.or_eq_false_iff, Bool.and_eq_false_iff, decide_eq_false_iff_not,
    beq_eq_false_iff_ne]
  omega

/-- A line that shows a kind after a blank is complete exactly if the words of the kind do
not end in a blank. -/
theorem trimEnd_display {front : String} (blank : front.toList.getLast? = some ' ') (kind : Kind) :
    Text.trimEnd (front ++ kind.display) = front ++ kind.display ↔ kind.EndsVisibly := by
  rw [Text.trimEnd_eq_self_iff, Kind.EndsVisibly, String.toList_append, List.getLast?_append, blank]
  cases kind.display.toList.getLast? with
  | none => simp [Text.isBlank]
  | some c => simp

theorem isVisible_header (name : String) : Text.IsVisible ("interface " ++ name) :=
  Text.isVisible_append_left ⟨'i', by decide, by decide⟩ name

/-- The line of a field: it shows something, and what it may not show in full is the kind. -/
theorem trimEnd_fieldLine (shape : Shape) (field : String) :
    Text.IsVisible (shape.fieldLine field) ∧
      (Text.trimEnd (shape.fieldLine field) = shape.fieldLine field ↔
        ∀ kind ∈ shape.kindOf field, kind.EndsVisibly) := by
  have colon : Text.IsVisible ("  " ++ field ++ ": ") :=
    Text.isVisible_append_right _ ⟨':', by decide, by decide⟩
  refine ⟨Text.isVisible_append_left colon _, ?_⟩
  unfold Shape.fieldLine
  cases shape.kindOf field with
  | none =>
    rw [Option.elim_none, Text.trimEnd_eq_self_iff, getLast?_toList_append _ (by decide)]
    simp only [Option.mem_def, reduceCtorEq, false_implies, implies_true, iff_true]
    have last : "any".toList.getLast? = some 'y' := by decide
    rw [last]
    rintro _ ⟨⟩
    decide
  | some kind =>
    rw [Option.elim_some, trimEnd_display (getLast?_toList_append _ (by decide))]
    simp only [Option.mem_def, Option.some.injEq, forall_eq']

/-- The line of a type: likewise. -/
theorem trimEnd_typeLine (name : String) (kind : Kind) :
    Text.IsVisible ("type " ++ name ++ " = " ++ kind.display) ∧
      (Text.trimEnd ("type " ++ name ++ " = " ++ kind.display) =
          "type " ++ name ++ " = " ++ kind.display ↔ kind.EndsVisibly) := by
  have equals : Text.IsVisible ("type " ++ name ++ " = ") :=
    Text.isVisible_append_right _ ⟨'=', by decide, by decide⟩
  exact ⟨Text.isVisible_append_left equals _,
    trimEnd_display (getLast?_toList_append _ (by decide)) kind⟩

/-- Names that are listed have definitions. -/
theorem exists_get?_of_mem {β : Type} {registry : Registry β} {name : String}
    (listed : name ∈ registry.names) : ∃ definition, registry.get? name = some definition :=
  Option.isSome_iff_exists.1 (Dict.mem_keys.1 listed)

/-- Without lines there are no names. -/
theorem names_of_listing_eq_nil (nothing : catalog.listing = []) :
    catalog.interfaces.names = [] ∧ catalog.types.names = [] := by
  rw [listing, List.append_eq_nil_iff, List.flatMap_eq_nil_iff, List.flatMap_eq_nil_iff] at nothing
  constructor
  · refine List.eq_nil_iff_forall_not_mem.2 fun name listed => ?_
    obtain ⟨shape, found⟩ := exists_get?_of_mem listed
    have line := nothing.1 name listed
    rw [interfaceLines, found] at line
    cases line
  · refine List.eq_nil_iff_forall_not_mem.2 fun name listed => ?_
    obtain ⟨kind, found⟩ := exists_get?_of_mem listed
    have line := nothing.2 name listed
    rw [typeLines, found] at line
    cases line

/-- The last line shows something, and all of it unless the kind at its end ends in blanks
or has no words. -/
theorem trimEnd_getLast?_listing {line : String} (last : catalog.listing.getLast? = some line) :
    Text.IsVisible line ∧
      (Text.trimEnd line = line ↔ ∀ kind ∈ catalog.lastKind?, kind.EndsVisibly) := by
  unfold listing at last
  unfold lastKind?
  cases types : catalog.types.names.getLast? with
  | some name =>
    obtain ⟨kind, found⟩ := exists_get?_of_mem (List.mem_of_getLast? types)
    have lines : catalog.typeLines name = ["type " ++ name ++ " = " ++ kind.display] := by
      rw [typeLines, found, Option.elim_some]
    have shown := getLast?_flatMap types (lines ▸ List.cons_ne_nil _ _)
    rw [lines, List.getLast?_singleton] at shown
    rw [List.getLast?_append, shown, Option.some_or, Option.some.injEq] at last
    subst last
    simpa only [found, Option.mem_def, Option.some.injEq, forall_eq']
      using trimEnd_typeLine name kind
  | none =>
    rw [List.getLast?_eq_none_iff.1 types, List.flatMap_nil, List.append_nil] at last
    cases interfaces : catalog.interfaces.names.getLast? with
    | none => rw [List.getLast?_eq_none_iff.1 interfaces] at last; cases last
    | some name =>
      obtain ⟨shape, found⟩ := exists_get?_of_mem (List.mem_of_getLast? interfaces)
      have lines : catalog.interfaceLines name =
          ("interface " ++ name) :: shape.names.map shape.fieldLine := by
        rw [interfaceLines, found, Option.elim_some]
      rw [getLast?_flatMap interfaces (lines ▸ List.cons_ne_nil _ _), lines,
        List.getLast?_cons, List.getLast?_map, Option.some.injEq] at last
      subst last
      simp only [found, Option.bind_eq_bind, Option.bind_some]
      cases fields : shape.names.getLast? with
      | none =>
        have named : Text.IsIdentifier name :=
          catalog.interfaces.named name (Option.isSome_iff_exists.2 ⟨shape, found⟩)
        simp only [Option.map_none, Option.getD_none, Option.bind_none, Option.mem_def,
          reduceCtorEq, false_implies, implies_true, iff_true]
        exact ⟨isVisible_header name, trimEnd_interface named⟩
      | some field => exact trimEnd_fieldLine shape field

/-- A description is complete up to the end of its last line, and to that end exactly if the
kind shown there does not end in a blank. -/
theorem describe_eq (catalog : Catalog) :
    catalog.describe = "\n".intercalate
        (catalog.listing.dropLast ++ catalog.listing.getLast?.toList.map Text.trimEnd) ∧
      (catalog.describe = "\n".intercalate catalog.listing ↔
        ∀ kind ∈ catalog.lastKind?, kind.EndsVisibly) := by
  have visible : ∀ line, catalog.listing.getLast? = some line → Text.IsVisible line :=
    fun line last => (trimEnd_getLast?_listing last).1
  have shown := Text.trimEnd_intercalate visible
  rw [describe, lines_eq_listing, shown.2]
  refine ⟨shown.1, ?_⟩
  cases last : catalog.listing.getLast? with
  | some line =>
    simp only [Option.mem_def, Option.some.injEq, forall_eq']
    exact (trimEnd_getLast?_listing last).2
  | none =>
    -- without a line there is no kind to show
    obtain ⟨interfaces, types⟩ := names_of_listing_eq_nil (List.getLast?_eq_none_iff.1 last)
    have nothing : catalog.lastKind? = none := by
      rw [lastKind?, types, interfaces]
      rfl
    simp only [nothing, Option.mem_def, reduceCtorEq, false_implies, implies_true]

/-- A union of no tags. -/
def emptyUnion : Document := ⟨.ofList [("E", .anyOf [])], []⟩

/-- Not every description is complete: a union of no tags loses the blank after its name. -/
theorem not_describe_eq_listing :
    ¬ ∀ document tally, ((empty {}).load document).outcome = .ok tally →
      ((empty {}).load document).catalog.describe =
        "\n".intercalate ((empty {}).load document).catalog.listing := by
  intro complete
  have full := complete emptyUnion ⟨1, 0⟩ (by decide)
  have visible := (describe_eq _).2.1 full (.anyOf []) rfl
  exact absurd visible (by decide)

end Catalog

/-! ### The command -/

namespace Request

/-- **What a description leaves out.**  If the definitions load, their description is all
the lines of the interfaces and then of the types, each by ascending name, except for blanks
at the end of the last line.  There are such blanks exactly if the kind that is shown there
ends in one or has no words. -/
theorem describe_iff_endsVisibly (stamp : Stamp) (files : FileTree) (working : List String)
    (definitions : String) (catalog : Catalog)
    (loads : Command.LoadsTo files working definitions catalog) :
    let exit := ((perform none (.describe definitions)).runAmong stamp files working).exit
    let full := catalog.listing
    exit = ⟨0, "\n".intercalate (full.dropLast ++ full.getLast?.toList.map Text.trimEnd) ++ "\n",
        ""⟩ ∧
      (exit.output = "\n".intercalate full ++ "\n" ↔
        ∀ kind ∈ catalog.lastKind?, kind.EndsVisibly) ∧
      catalog.interfaces.names.Pairwise (· < ·) ∧ catalog.types.names.Pairwise (· < ·) ∧
      ∀ name shape, catalog.interfaces.get? name = some shape →
        shape.names.Pairwise (· < ·) := by
  intro exit full
  have printed : exit = ⟨0, catalog.describe ++ "\n", ""⟩ := by
    obtain ⟨text, document, tally, read, spelled, loaded, rfl⟩ := loads
    have parsed := Command.parse_eq_ok_iff_spellsDocument.2 spelled
    have ends : exit = (Outcome.mk ((Command.describeCourse definitions).report
        (files.read working)).verdict [] files).exit :=
      congrArg Outcome.exit (Course.runAmong_idle stamp working files _)
    simp only [ends, Command.describeCourse, Course.report, Command.readDocument, read, parsed,
      loaded, Outcome.exit, Verdict.exit, List.map_nil, String.join_nil, String.empty_append]
  have complete := catalog.describe_eq
  refine ⟨by rw [printed, complete.1], ?_, Dict.pairwise_keys _, Dict.pairwise_keys _,
    fun _ shape _ => Dict.pairwise_keys shape.fields⟩
  rw [printed, String.append_left_inj]
  exact complete.2

/-- A file with a union of no tags, and one with a type after it. -/
def unionFiles : FileTree :=
  .directory
    [("alone", .file Catalog.emptyUnion.toJson.print.toUTF8),
      ("followed", .file (Document.toJson
        ⟨.ofList [("E", .anyOf []), ("F", .single .string)], []⟩).print.toUTF8)]

theorem describe_iff_endsVisibly_union :
    let exit (definitions : String) : Exit :=
      ((perform none (.describe definitions)).runAmong ⟨0, ""⟩ unionFiles []).exit
    exit "alone" = ⟨0, "type E =\n", ""⟩ ∧
      exit "followed" = ⟨0, "type E = \ntype F = string\n", ""⟩ := by
  intro exit
  constructor
  · exact (describe_iff_endsVisibly ⟨0, ""⟩ unionFiles [] "alone" _
      ⟨_, _, ⟨1, 0⟩, FileTree.read_of_readBytes rfl, Command.spellsDocument_print (by decide),
        by decide, rfl⟩).1
  · exact (describe_iff_endsVisibly ⟨0, ""⟩ unionFiles [] "followed" _
      ⟨_, _, ⟨2, 0⟩, FileTree.read_of_readBytes rfl, Command.spellsDocument_print (by decide),
        by decide, rfl⟩).1

end Request

end Contracts
