import Contracts.Format.Fields
import Contracts.Json.Skip
import Contracts.Policy

/-!
# Policies as JSON

A policy has the fields `seed_policy` and `registration_policy`, each of which is one
of two words; both may be left out, and other members are passed over.  A word may also
be written as the key of an object whose only member is null.

## Main definitions

* `Policy.toJson` — the JSON value of a policy.
* `Format.readChoice` — read one of some words.
* `Policy.parse` — the policy that a text stands for.
-/

namespace Contracts

open Json

/-- The JSON value of a policy. -/
def Policy.toJson (policy : Policy) : Json :=
  .object
    [("seed_policy", .string policy.seeds.text),
      ("registration_policy", .string policy.registration.text)]

namespace Format

variable {α : Type}

/-- The choice that a word names. -/
def choose (choices : List (String × α)) (word : String) : Except Reason α :=
  match choices.lookup word with
  | some choice => .ok choice
  | none => .error (.unknownChoice word (choices.map Prod.fst))

/-- Read null where another sort is a fault. -/
def readNull : Reader Unit :=
  dispatch
    (fun
      | .null => .ok ()
      | found => refuseScalar "unit" found)
    (refuse .list "unit") (refuse .object "unit")

/-- Read a choice after the opening quote of its word. -/
def readChoiceWord (choices : List (String × α)) : Reader α :=
  requiring (choose choices) readString

/-- Read the closing brace behind the only member of an object. -/
def readOnlyEnd (choice : α) : Reader α := fun input =>
  match h : skipBlank input with
  | [] => .error (.before (.endIn .object) [])
  | c :: rest =>
      if c = '\x7d' then
        .ok ⟨choice, rest, length_lt_of_skipBlank h⟩
      else .error (.before .expectedValue (c :: rest))

/-- Read a choice that is the key of an object, after the opening brace. -/
def readChoiceMember (choices : List (String × α)) : Reader α := fun input =>
  match h : skipBlank input with
  | [] => .error (.before (.endIn .object) [])
  | c :: rest =>
      have shorter := length_lt_of_skipBlank h
      if c = '\x7d' then .error (.onto .expectedValue (c :: rest))
      else if c = '"' then
        match readChoiceWord choices rest with
        | .error fault => .error fault
        | .ok ⟨choice, afterWord, h₁⟩ =>
            match readColon afterWord with
            | .error fault => .error fault
            | .ok ⟨(), afterColon, h₂⟩ =>
                match readNull afterColon with
                | .error fault => .error fault
                | .ok ⟨(), after, h₃⟩ =>
                    (readOnlyEnd choice after).map
                      (·.widen (Nat.le_of_lt
                        (Nat.lt_trans h₃ (Nat.lt_trans h₂ (Nat.lt_trans h₁ shorter)))))
      else .error (.onto .keyNotString (c :: rest))

/-- Read one of some choices. -/
def readChoice (choices : List (String × α)) (depth : Nat) : Reader α := fun input =>
  match h : skipBlank input with
  | [] => .error (.before .endInValue [])
  | c :: rest =>
      have whole := length_cons_le_of_skipBlank h
      if c = '"' then (readChoiceWord choices rest).map (·.widen (Nat.le_of_succ_le whole))
      else if c = '\x7b' then
        (bracketed depth (fun _ => readChoiceMember choices) (c :: rest)).map (·.widen whole)
      else .error (.onto .expectedValue (c :: rest))

/-- The words for what is done with seeds. -/
def seedChoices : List (String × SeedPolicy) :=
  [SeedPolicy.validate, .trust].map fun choice => (choice.text, choice)

/-- The words for what is done with names that are registered again. -/
def registrationChoices : List (String × RegistrationPolicy) :=
  [RegistrationPolicy.replace, .reject].map fun choice => (choice.text, choice)

/-- What the members of a policy have brought so far. -/
structure PolicyDraft where
  /-- What is done with seeds. -/
  seeds : Option SeedPolicy
  /-- What is done with names that are registered again. -/
  registration : Option RegistrationPolicy

/-- Read one member of a policy. -/
def policyMember (depth : Nat) (draft : PolicyDraft) (key : String) :
    Except Reason (Reader PolicyDraft) :=
  if key = "seed_policy" then
    once key draft.seeds
      (Reader.map (fun seeds => { draft with seeds := some seeds })
        (readChoice seedChoices depth))
  else if key = "registration_policy" then
    once key draft.registration
      (Reader.map (fun registration => { draft with registration := some registration })
        (readChoice registrationChoices depth))
  else .ok (Reader.map (fun _ => draft) skipValue)

/-- The policy of a draft. -/
def PolicyDraft.finish (draft : PolicyDraft) : Policy :=
  ⟨draft.seeds.getD .validate, draft.registration.getD .replace⟩

/-- Read a policy. -/
def readPolicy (depth : Nat) : Reader Policy :=
  readFields "struct KernelConfig" depth
    (fun depth =>
      readField true (readChoice seedChoices depth) (.ok {})
      fun seeds => readField false (readChoice registrationChoices depth)
        (.ok { seeds })
      fun registration => endFields ⟨seeds, registration⟩)
    (fun depth =>
      Reader.map PolicyDraft.finish (readMembers (policyMember depth) true ⟨none, none⟩))

end Format

/-- The policy that a text stands for. -/
def Policy.parse (text : String) : Except Fault Policy :=
  readWhole (Format.readPolicy nestingLimit) text

end Contracts
