import Contracts.Catalog.Document
import Contracts.Format.Definition

/-!
# Documents as JSON

A document has the fields `kinds` and `interfaces`, and an interface the fields `name`,
`extends` and `fields`.  All but the name may be left out, and no other is allowed.

## Main definitions

* `Document.toJson` — the JSON value of a document.
* `Format.readDeclaration`, `Format.readDocument` — readers.
* `Document.parse` — the document that a text stands for.
-/

namespace Contracts

open Json

/-! ### Written documents -/

/-- The JSON value of the declaration of an interface; a base is mentioned only if there
is one. -/
def InterfaceDeclaration.toJson (declaration : InterfaceDeclaration) : Json :=
  .object
    (("name", .string declaration.name) ::
      ((declaration.base.map fun base => ("extends", .string base)).toList ++
        [("fields", declaration.fields.toJson)]))

/-- The JSON value of a document. -/
def Document.toJson (document : Document) : Json :=
  .object
    [("kinds", .object (document.kinds.entries.map fun entry => (entry.1, entry.2.toJson))),
      ("interfaces", .array (document.interfaces.map InterfaceDeclaration.toJson))]

/-! ### Readers -/

namespace Format

/-- Read a text or null. -/
def readTextOrNull (expected : String) : Reader (Option String) :=
  dispatch
    (fun
      | .string s => .ok (some s)
      | .null => .ok none
      | found => refuseScalar expected found)
    (refuse .list expected) (refuse .object expected)

/-- What the members of a declaration have brought so far. -/
structure DeclarationDraft where
  /-- The name. -/
  name : Option String
  /-- The base. -/
  base : Option (Option String)
  /-- The fields. -/
  fields : Option Shape

/-- Read one member of a declaration. -/
def declarationMember (depth : Nat) (draft : DeclarationDraft) (key : String) :
    Except Reason (Reader DeclarationDraft) :=
  if key = "name" then
    once key draft.name
      (Reader.map (fun name => { draft with name := some name }) (readText "a string"))
  else if key = "extends" then
    once key draft.base
      (Reader.map (fun base => { draft with base := some base }) (readTextOrNull "a string"))
  else if key = "fields" then
    once key draft.fields
      (Reader.map (fun fields => { draft with fields := some fields }) (readShape depth))
  else .error (.unknownMember key ["name", "extends", "fields"])

/-- The declaration of a draft, which has to have a name. -/
def DeclarationDraft.finish (draft : DeclarationDraft) : Except Reason InterfaceDeclaration :=
  match draft.name with
  | some name => .ok ⟨name, draft.base.join, draft.fields.getD .empty⟩
  | none => .error (.missingMember "name")

/-- Read the declaration of an interface. -/
def readDeclaration (depth : Nat) : Reader InterfaceDeclaration :=
  readFields "struct InterfaceDeclaration" depth
    (fun depth =>
      readField true (readText "a string")
        (.error (.wrongLength 0 "struct InterfaceDeclaration with 3 elements"))
      fun name => readField false (readTextOrNull "a string") (.ok ⟨name, none, .empty⟩)
      fun base => readField false (readShape depth) (.ok ⟨name, base, .empty⟩)
      fun fields => endFields ⟨name, base, fields⟩)
    (fun depth =>
      requiring DeclarationDraft.finish
        (readMembers (declarationMember depth) true ⟨none, none, none⟩))

/-- Read a list of declarations. -/
def readDeclarations (depth : Nat) : Reader (List InterfaceDeclaration) :=
  dispatch (refuseScalar "a sequence")
    (bracketed depth fun depth => readItems (readDeclaration depth) true)
    (refuse .object "a sequence")

/-- What the members of a document have brought so far. -/
structure DocumentDraft where
  /-- The types. -/
  kinds : Option (Dict Kind)
  /-- The interfaces. -/
  interfaces : Option (List InterfaceDeclaration)

/-- Read one member of a document. -/
def documentMember (depth : Nat) (draft : DocumentDraft) (key : String) :
    Except Reason (Reader DocumentDraft) :=
  if key = "kinds" then
    once key draft.kinds
      (Reader.map (fun kinds => { draft with kinds := some kinds }) (readMap readKind depth))
  else if key = "interfaces" then
    once key draft.interfaces
      (Reader.map (fun interfaces => { draft with interfaces := some interfaces })
        (readDeclarations depth))
  else .error (.unknownMember key ["kinds", "interfaces"])

/-- The document of a draft. -/
def DocumentDraft.finish (draft : DocumentDraft) : Document :=
  ⟨draft.kinds.getD .empty, draft.interfaces.getD []⟩

/-- Read a document. -/
def readDocument (depth : Nat) : Reader Document :=
  readFields "struct ContractDocument" depth
    (fun depth =>
      readField true (readMap readKind depth) (.ok .empty)
      fun kinds => readField false (readDeclarations depth) (.ok ⟨kinds, []⟩)
      fun interfaces => endFields ⟨kinds, interfaces⟩)
    (fun depth =>
      Reader.map DocumentDraft.finish (readMembers (documentMember depth) true ⟨none, none⟩))

end Format

/-- The document that a text stands for. -/
def Document.parse (text : String) : Except Fault Document :=
  readWhole (Format.readDocument nestingLimit) text

/-- The wording of a fault in the text of a document. -/
def Document.faultMessage (text : String) (fault : Fault) : String :=
  "invalid contract document: " ++ fault.message text

end Contracts
