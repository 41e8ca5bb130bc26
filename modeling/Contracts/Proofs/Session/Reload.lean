import Contracts.Proofs.Definition.Kind
import Contracts.Proofs.Heap.Exchange
import Contracts.Proofs.Instance.Imported

/-!
# Instances that are exported and reloaded

The record of an instance can be written out as JSON, and the record that is made from that
can be the seed of a new instance.  On the way functions and numbers that are not finite
become null, which is of no kind.  So the seed is refused if there is one of these in a field
with a kind, and accepted otherwise: no other value of a kind ceases to be of it, and fields
without a kind take anything.

## Main definitions

* `Value.isLost` — a value of which JSON keeps nothing.

## Main results

* `Interface.objection_toJson` — what can be said against an exported entry.
* `Session.acyclic_record` — the record of an instance is acyclic if its entries are.
* `Session.reload_eq_exported` — **which instances can be reloaded, and what they are then.**
-/

namespace Contracts

/-- Nothing is left of the value in JSON, though it was of a kind. -/
def Value.isLost : Value → Bool
  | .function _ => true
  | .number x => !x.isFinite
  | _ => false

/-! ### Sorts of exported values -/

namespace Store

variable {store : Store} {value : Value}

theorem tag?_toJson_of_isLost (lost : value.isLost = true) :
    (store.toJson value).tag? = none ∧ (store.toJson value).category = .object := by
  unfold toJson unfold
  cases value with
  | function f =>
    rw [unfoldWithin]
    exact ⟨rfl, rfl⟩
  | number x =>
    rw [unfoldWithin, Tree.toJson]
    cases x with
    | finite negative units representable => cases lost
    | nan => exact ⟨rfl, rfl⟩
    | infinite negative => exact ⟨rfl, rfl⟩
  | _ => cases lost

/-- Any other value of the sort that a tag names is exported as one of that sort. -/
theorem tag?_toJson_of_fits {tag : Tag} (fits : tag.fits value = true)
    (grounded : store.Grounded value) (kept : value.isLost = false) :
    (store.toJson value).tag? = some tag := by
  unfold toJson unfold
  cases value with
  | undefined | null => cases tag <;> cases fits
  | function f => cases kept
  | boolean b =>
    rw [unfoldWithin]
    cases tag <;> first | rfl | cases fits
  | string s =>
    rw [unfoldWithin]
    cases tag <;> first | rfl | cases fits
  | number x =>
    rw [unfoldWithin, Tree.toJson]
    have finite : x.isFinite = true := by simpa [Value.isLost] using kept
    obtain ⟨y, back⟩ := Number.exists_exported? finite
    obtain ⟨n, written, _⟩ := Number.exists_toJson back
    rw [written]
    cases tag <;> first | rfl | cases fits
  | array id =>
    have made := Grounded.has (.array id) grounded
    rw [unfoldWithin, dif_pos ⟨made, Opened.contains_none _⟩]
    cases tag <;> first | rfl | cases fits
  | record id =>
    have made := Grounded.has (.record id) grounded
    rw [unfoldWithin, dif_pos ⟨made, Opened.contains_none _⟩]
    cases tag <;> first | rfl | cases fits

end Store

/-- What can be said against an exported entry that was admitted: that nothing is left of its
value, if its field has a kind. -/
theorem Interface.objection_toJson {interface : Interface} {store : Store} {key : String}
    {value : Value} (admitted : interface.check key value = .ok ())
    (grounded : store.Grounded value) :
    interface.shape.objection interface.name key (store.toJson value) =
      match interface.shape.kindOf key with
      | some kind =>
          if value.isLost then some (.wrongKind (some key) kind .object) else none
      | none => none := by
  obtain ⟨declared, of⟩ := check_eq_ok.1 admitted
  unfold Shape.objection Shape.objectionTo
  unfold Shape.declares Dict.contains at declared
  unfold Shape.kindOf at of ⊢
  cases found : interface.shape.fields.get? key with
  | none =>
    rw [found] at declared
    cases declared
  | some kind =>
    rw [found] at of
    cases kind with
    | none => rfl
    | some kind =>
      obtain ⟨tag, named, fits⟩ := Kind.accepts_iff.1 (of kind rfl)
      show (if _ then none else some (Violation.wrongKind (some key) kind _)) =
        if value.isLost then _ else none
      cases lost : value.isLost with
      | true =>
        obtain ⟨untagged, category⟩ := Store.tag?_toJson_of_isLost lost
        rw [untagged, category, if_neg (by simp)]
        rfl
      | false =>
        rw [Store.tag?_toJson_of_fits fits grounded lost, if_pos ⟨tag, named, rfl⟩]
        rfl

/-- There is nothing to be said against it if its field has no kind or something is left. -/
theorem Interface.objection_toJson_eq_none {interface : Interface} {store : Store} {key : String}
    {value : Value} (admitted : interface.check key value = .ok ())
    (grounded : store.Grounded value) :
    interface.shape.objection interface.name key (store.toJson value) = none ↔
      ∀ kind, interface.shape.kindOf key = some kind → value.isLost = false := by
  rw [objection_toJson admitted grounded]
  cases interface.shape.kindOf key with
  | none => simp
  | some kind => cases value.isLost <;> simp

theorem Interface.objection_toJson_eq_some {interface : Interface} {store : Store} {key : String}
    {value : Value} {violation : Violation} (admitted : interface.check key value = .ok ())
    (grounded : store.Grounded value) :
    interface.shape.objection interface.name key (store.toJson value) = some violation ↔
      ∃ kind, interface.shape.kindOf key = some kind ∧ value.isLost = true ∧
        violation = .wrongKind (some key) kind .object := by
  rw [objection_toJson admitted grounded]
  cases interface.shape.kindOf key with
  | none => simp
  | some kind => cases value.isLost <;> simp [eq_comm]

/-- What is found first against exported entries that were admitted is against the least field
that has a kind and of whose value nothing is left. -/
theorem Interface.findSome?_objection_toJson {interface : Interface} {store : Store}
    {stored : Dict Value} (admits : interface.Admits stored)
    (grounded : ∀ key value, stored.get? key = some value → store.Grounded value) :
    let first := stored.entries.findSome? fun entry =>
      interface.shape.objection interface.name entry.1 (store.toJson entry.2)
    (first = none ↔ ∀ key value kind, stored.get? key = some value →
      interface.shape.kindOf key = some kind → value.isLost = false) ∧
    ∀ violation, first = some violation ↔ ∃ key value kind, stored.get? key = some value ∧
      interface.shape.kindOf key = some kind ∧ value.isLost = true ∧
        (∀ key' value' kind', key' < key → stored.get? key' = some value' →
          interface.shape.kindOf key' = some kind' → value'.isLost = false) ∧
        violation = .wrongKind (some key) kind .object := by
  have unobjected : ∀ key value, stored.get? key = some value →
      (interface.shape.objection interface.name key (store.toJson value) = none ↔
        ∀ kind, interface.shape.kindOf key = some kind → value.isLost = false) :=
    fun key value found =>
      objection_toJson_eq_none (admits key value found) (grounded key value found)
  intro first
  constructor
  · rw [Dict.findSome?_entries_eq_none]
    constructor
    · intro nothing key value kind found of
      exact (unobjected key value found).1 (nothing key value found) kind of
    · intro kept key value found
      exact (unobjected key value found).2 fun kind of => kept key value kind found of
  · intro violation
    rw [Dict.findSome?_entries_eq_some]
    constructor
    · rintro ⟨key, value, found, objection, nothing⟩
      obtain ⟨kind, of, lost, named⟩ := (objection_toJson_eq_some (admits key value found)
        (grounded key value found)).1 objection
      refine ⟨key, value, kind, found, of, lost, fun key' value' kind' less found' of' => ?_, named⟩
      exact (unobjected key' value' found').1 (nothing key' value' less found') kind' of'
    · rintro ⟨key, value, kind, found, of, lost, kept, named⟩
      refine ⟨key, value, found, ?_, fun key' value' less found' => ?_⟩
      · exact (objection_toJson_eq_some (admits key value found)
          (grounded key value found)).2 ⟨kind, of, lost, named⟩
      · exact (unobjected key' value' found').2 fun kind' of' =>
          kept key' value' kind' less found' of'

/-! ### Seeds made from exported records -/

namespace Store

variable {store : Store} {id : RecordId}

theorem toJson_record (grounded : store.Grounded (.record id))
    (acyclic : store.Acyclic (.record id)) :
    store.toJson (.record id) =
      .object ((store.record id).entries.map fun entry => (entry.1, store.toJson entry.2)) := by
  rw [toJson, unfold_record grounded acyclic, Tree.toJson, Tree.toJsonMembers_eq_map, List.map_map]
  rfl

/-- What is made from an exported record is a record: what it is refused for as a seed, and what
is in it. -/
theorem exists_seed (grounded : store.Grounded (.record id)) (acyclic : store.Acyclic (.record id))
    (interface : Interface) (other : Store) :
    let made := other.addJson (store.toJson (.record id))
    ∃ seed, made.2 = .record seed ∧
      Violation.first? ((made.1.record seed).entries.map fun entry =>
          interface.check entry.1 entry.2) =
        (store.record id).entries.findSome? (fun entry =>
          interface.shape.objection interface.name entry.1 (store.toJson entry.2)) ∧
      made.1.Grounded (.record seed) ∧
      ((made.1.record seed).entries.map fun entry => (entry.1, made.1.unfold entry.2)) =
        (store.record id).entries.map fun entry => (entry.1, (store.unfold entry.2).exported) := by
  intro made
  have planted : Plants other made.1 made.2 := plants_addJson other _
  have same : made.1.unfold made.2 = (store.unfold (.record id)).exported :=
    (unfold_addJson other _).trans (store.ofJson_toJson_unfoldWithin .none _)
  let members : Dict Json :=
    ⟨(store.record id).entries.map fun entry => (entry.1, store.toJson entry.2),
      List.pairwise_map.2 (store.record id).ascending⟩
  have exported : made = other.addJson (.object members.entries) :=
    congrArg other.addJson (toJson_record grounded acyclic)
  simp only [addJson] at exported
  have seeded : made.2 = .record ((other.addMembers members.entries).1.newRecord
      (.ofList (other.addMembers members.entries).2)).2 := by rw [exported]
  have content : made.1.record ((other.addMembers members.entries).1.newRecord
      (.ofList (other.addMembers members.entries).2)).2 =
        .ofList (other.addMembers members.entries).2 := by
    rw [exported, record_newRecord_self]
  generalize ((other.addMembers members.entries).1.newRecord
    (.ofList (other.addMembers members.entries).2)).2 = seed at seeded content
  rw [seeded] at planted same
  refine ⟨seed, seeded, ?_, planted.grounded, ?_⟩
  · rw [content, interface.first?_addMembers other members, List.findSome?_map]
    rfl
  · rw [unfold_record planted.grounded planted.acyclic, unfold_record grounded acyclic,
      Tree.exported, Tree.exportedEntries_eq_map, List.map_map] at same
    exact Tree.record.inj same

end Store

/-! ### The record of an instance -/

namespace Session

variable {session : Session} {inst : Instance}

/-- What is in the record of an instance of its own does not lead back to the record. -/
theorem visible_of_follow_record (keeps : session.Keeps (· = inst)) {place : Place}
    {rest : List Place} {container : Container}
    (reached : session.store.follow (.record inst.record) (place :: rest) =
      some container.value) :
    session.store.Visible (Instance.Hidden (· = inst)) container := by
  rw [Store.follow_cons, Option.bind_eq_some_iff] at reached
  obtain ⟨inner, found, reached⟩ := reached
  cases place with
  | item index => cases found
  | entry key =>
    exact keeps.secludes.visible_of_follow (keeps.secludes.records _ key inner found) reached

theorem grounded_record (keeps : session.Keeps (· = inst)) :
    session.store.Grounded (.record inst.record) := by
  intro path container reached
  cases path with
  | nil =>
    rw [Store.follow_nil] at reached
    cases container with
    | array id => cases reached
    | record id =>
      cases reached
      exact keeps.secludes.made _ ⟨inst, rfl, rfl⟩
  | cons place rest => exact (visible_of_follow_record keeps reached).1

/-- So the record is acyclic if what is in it is. -/
theorem acyclic_record (keeps : session.Keeps (· = inst))
    (acyclic : ∀ key value, (session.store.record inst.record).get? key = some value →
      session.store.Acyclic value) : session.store.Acyclic (.record inst.record) := by
  intro path container reached place rest back
  cases path with
  | nil =>
    rw [Store.follow_nil] at reached
    cases container with
    | array id => cases reached
    | record id =>
      cases reached
      have visible : session.store.Visible (Instance.Hidden (· = inst)) (.record inst.record) :=
        visible_of_follow_record keeps back
      exact visible.2 ⟨inst, rfl, rfl⟩
  | cons first others =>
    rw [Store.follow_cons, Option.bind_eq_some_iff] at reached
    obtain ⟨inner, found, reached⟩ := reached
    cases first with
    | item index => cases found
    | entry key => exact acyclic key inner found others container reached place rest back

/-- **The main theorem**: the record of an instance that has one of its own and in which there
is nothing cyclic is exported, and a record is made from that in any world.  As a seed that is
validated it is accepted exactly if no field that has a kind holds a function or a number that
is not finite.  It is refused for the least of these fields, as holding an object.  If it is
accepted, the new instance has the same keys, and what is under them is what was, up to what
JSON cannot say. -/
theorem reload_eq_exported {series : Nat} {earlier : List Step} {step : Step}
    {interface : Interface} {entries : Dict Value}
    (founds : ((start series).runSteps earlier).Founds step interface inst entries)
    (later : List Step)
    (acyclic : ∀ key value,
      (((((start series).runSteps earlier).run step).1.runSteps later).store.record
        inst.record).get? key = some value →
      ((((start series).runSteps earlier).run step).1.runSteps later).store.Acyclic value) :
    let session := (((start series).runSteps earlier).run step).1.runSteps later
    let stored := session.store.record inst.record
    let json := session.store.toJson (.record inst.record)
    let constructor : Interface := { interface with seeds := .validate }
    (interface.seeds = .validate → constructor = interface) ∧
    ∀ other : World, ∃ seed, (other.store.addJson json).2 = .record seed ∧
      let world : World := { other with store := (other.store.addJson json).1 }
      ((∃ made, world.constructWith constructor seed = .ok made) ↔
        ∀ key value kind, stored.get? key = some value →
          interface.shape.kindOf key = some kind → value.isLost = false) ∧
      (∀ violation, world.constructWith constructor seed = .error violation ↔
        ∃ key value kind, stored.get? key = some value ∧
          interface.shape.kindOf key = some kind ∧ value.isLost = true ∧
          (∀ key' value' kind', key' < key → stored.get? key' = some value' →
            interface.shape.kindOf key' = some kind' → value'.isLost = false) ∧
          violation = .wrongKind (some key) kind .object) ∧
      ∀ made, world.constructWith constructor seed = .ok made →
        made.2.interface = constructor ∧ (World.recordOf made).keys = stored.keys ∧
        ((World.recordOf made).entries.map fun entry =>
            (entry.1, made.1.store.unfold entry.2)) =
          stored.entries.map fun entry => (entry.1, (session.store.unfold entry.2).exported) := by
  intro session stored json constructor
  obtain ⟨same, -, keeps, -⟩ :=
    founds.keeps (keeps_runSteps_of_none (keeps_start series) earlier)
  obtain ⟨keeps, -, -⟩ := keeps_runSteps keeps later
  have admits : interface.Admits stored := admits_runSteps founds later
  have within : ∀ key value, stored.get? key = some value → session.store.Grounded value :=
    fun key value found => keeps.secludes.grounded (keeps.secludes.records _ key value found)
  refine ⟨fun validates => ?_, fun other => ?_⟩
  · cases interface
    cases validates
    rfl
  obtain ⟨seed, seeded, objections, grounded, written⟩ := Store.exists_seed
    (grounded_record keeps) (acyclic_record keeps acyclic) constructor other.store
  have refused := Interface.findSome?_objection_toJson admits within
  refine ⟨seed, seeded, ?_, fun violation => ?_, fun made accepted => ?_⟩
  · rw [Interface.exists_constructWith rfl]
    show Violation.first? _ = none ↔ _
    rw [objections]
    exact refused.1
  · rw [Interface.constructWith_eq_error rfl]
    show Violation.first? _ = some violation ↔ _
    rw [objections]
    exact refused.2 violation
  · obtain ⟨next, reloaded⟩ := made
    have content := Interface.recordOf_constructWith rfl accepted
    obtain ⟨of, ⟨-, -, store, -⟩ | ⟨trusts, -, -⟩⟩ := World.constructWith_eq_ok accepted
    · have listed : (World.recordOf (next, reloaded)).entries.map (fun entry =>
          (entry.1, next.store.unfold entry.2)) =
            stored.entries.map fun entry => (entry.1, (session.store.unfold entry.2).exported) := by
        rw [content, store]
        refine Eq.trans (List.map_congr_left fun entry member => ?_) written
        have inside := grounded.inside (Store.at?_record member)
        exact congrArg (Prod.mk entry.1) ((Store.extends_newRecord _ _).unfold inside)
      refine ⟨of, ?_, listed⟩
      have keys := congrArg (List.map Prod.fst) listed
      rwa [List.map_map, List.map_map] at keys
    · cases trusts

/-- An instance with not-a-number in one field, functions in a field without a kind and in one
for functions and numbers, and an array in a field for objects: it is refused, and accepted once
there are other numbers in the two fields with a kind. -/
theorem reload_eq_exported_refused :
    let fields : List (String × Option Kind) :=
      [("a", some (.single .number)), ("b", some (.single .object)), ("c", none),
        ("d", some (.anyOf [.function, .number]))]
    let inst : Instance := ⟨⟨0⟩, ⟨"P", .ofList fields, .validate⟩, ⟨0⟩⟩
    let earlier : List Step :=
      [⟨.newCatalog {}, [], some "k"⟩,
        ⟨.defineInterface "k" "P" (.declared fields) none, [], some "P"⟩]
    let step : Step := ⟨.construct "P", [], some "p"⟩
    let later : List Step :=
      [⟨.setField "p" "a", [.number .nan], none⟩,
        ⟨.setField "p" "b", [.array [.number .nan, .undefined]], none⟩,
        ⟨.setField "p" "c", [.function "f" 1 .first], none⟩,
        ⟨.setField "p" "d", [.function "g" 1 .first], none⟩]
    let mended : List Step :=
      [⟨.setField "p" "a", [.number (.zero true)], none⟩,
        ⟨.setField "p" "d", [.number (.zero false)], none⟩]
    let made := (((start 0).runSteps earlier).run step).1
    let before := made.runSteps later
    let after := made.runSteps (later ++ mended)
    ((start 0).runSteps earlier).Founds step inst.interface inst .empty ∧
      (∀ (other : World) (seed : RecordId),
        (other.store.addJson (before.store.toJson (.record ⟨0⟩))).2 = .record seed →
        World.constructWith
            { other with store := (other.store.addJson (before.store.toJson (.record ⟨0⟩))).1 }
            inst.interface seed =
          .error (.wrongKind (some "a") (.single .number) .object)) ∧
      ∀ other : World, ∃ seed result,
        World.constructWith
            { other with store := (other.store.addJson (after.store.toJson (.record ⟨0⟩))).1 }
            inst.interface seed = .ok result ∧
          (World.recordOf result).keys = ["a", "b", "c", "d"] := by
  intro fields inst earlier step later mended made before after
  have founds : ((start 0).runSteps earlier).Founds step inst.interface inst .empty :=
    @Founds.construct _ step "P" inst.interface ((start 0).runSteps earlier).store rfl
      (by decide +kernel) rfl
  obtain ⟨-, -, keeps, -⟩ := founds.keeps (keeps_runSteps_of_none (keeps_start 0) earlier)
  -- writing the record out ends, so there is nothing cyclic in it
  have acyclic : ∀ steps : List Step,
      ((made.runSteps steps).store.exportWithin? 2 (.record ⟨0⟩)).isSome = true →
      ∀ key value, ((made.runSteps steps).store.record ⟨0⟩).get? key = some value →
        (made.runSteps steps).store.Acyclic value := by
    intro steps ends key value found
    obtain ⟨json, ends⟩ := Option.isSome_iff_exists.1 ends
    have whole := (Store.exists_exportWithin?_iff
      (grounded_record (keeps_runSteps keeps steps).1)).1 ⟨2, json, ends⟩
    have inner : (made.runSteps steps).store.at? (.record ⟨0⟩) (.entry key) = some value := found
    exact whole.inside inner
  obtain ⟨-, refused⟩ := reload_eq_exported founds later (acyclic later (by decide +kernel))
  obtain ⟨-, accepted⟩ := reload_eq_exported founds (later ++ mended)
    (acyclic (later ++ mended) (by decide +kernel))
  refine ⟨founds, fun other seed seeded => ?_, fun other => ?_⟩
  · obtain ⟨seed', seeded', -, errors, -⟩ := refused other
    cases seeded.symm.trans seeded'
    have keys : (before.store.record ⟨0⟩).keys = ["a", "b", "c", "d"] := by decide +kernel
    have least : ∀ key ∈ ["a", "b", "c", "d"], ¬ key < "a" := by decide +kernel
    have held : ((before.store.record ⟨0⟩).get? "a").any Value.isLost = true := by
      decide +kernel
    obtain ⟨value, found, lost⟩ := (Option.any_eq_true _ _).1 held
    refine (errors _).2 ⟨"a", value, .single .number, found, by decide +kernel, lost,
      fun key' value' kind' less found' => ?_, rfl⟩
    have member : key' ∈ (before.store.record ⟨0⟩).keys :=
      List.mem_map_of_mem (Dict.mem_entries.2 found')
    exact absurd less (least key' (keys ▸ member))
  · obtain ⟨seed, seeded, success, -, content⟩ := accepted other
    have kept : ((after.store.record ⟨0⟩).entries.all fun entry =>
        (inst.interface.shape.kindOf entry.1).isNone || !entry.2.isLost) = true := by
      decide +kernel
    obtain ⟨result, accepts⟩ := success.2 fun key value kind found of => by
      have one := List.all_eq_true.1 kept _ (Dict.mem_entries.2 found)
      simpa [show inst.interface.shape.kindOf key = some kind from of] using one
    obtain ⟨-, keys, -⟩ := content result accepts
    refine ⟨seed, result, accepts, keys.trans ?_⟩
    decide +kernel

end Session

end Contracts
