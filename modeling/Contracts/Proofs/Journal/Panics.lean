import Contracts.Host
import Contracts.Proofs.Catalog.Permanence
import Contracts.Proofs.Session.SlotContents

/-!
# What is logged of panics

The payload of a panic is text from outside.  It is put on one line, with a space for each line
break, and cut after a number of characters with a mark that it was cut.  So what is logged
of it is short and unbroken however long it was, depends on its first characters only, and
would not be cut a second time.

## Main definitions

* `Text.unbreak` — a space in place of a line break.
* `Host.events` — what a call in a host is to log.

## Main results

* `Text.singleLine_of_le`, `Text.singleLine_of_lt` — a text on one line, whole or cut.
* `Text.singleLine_eq_take` — the characters that a text on one line depends on.
* `Text.singleLine_singleLine` — **a text on one line stays as it is.**
* `Host.files_run` — what a call logs.
* `Host.eq_of_panicked_mem` — which calls log a panic, and what of it.
* `Host.panicked_singleLine` — **what is logged of a panic** is short and on one line.
-/

namespace Contracts

/-! ### Text on a single line -/

namespace Text

/-- A space in place of a line break, and any other character as it is. -/
def unbreak (c : Char) : Char := if c = '\n' ∨ c = '\r' then ' ' else c

variable {text : String} {limit : Nat}

theorem flatten_eq_map (characters : List Char) : flatten characters = characters.map unbreak :=
  rfl

theorem unbreak_ne (c : Char) : unbreak c ≠ '\n' ∧ unbreak c ≠ '\r' := by
  unfold unbreak
  split
  · decide
  · next unbroken => exact not_or.1 unbroken

theorem unbreak_of_ne {c : Char} (h : c ≠ '\n' ∧ c ≠ '\r') : unbreak c = c :=
  if_neg (not_or.2 h)

/-- The characters of a text on one line. -/
theorem toList_singleLine (text : String) (limit : Nat) :
    (singleLine text limit).toList =
      (text.toList.map unbreak).take limit ++ if limit < text.length then cutMark else [] := by
  rw [singleLine, String.toList_ofList, flatten_eq_map, List.length_map, String.length_toList]

/-- Short text is not cut. -/
theorem singleLine_of_le (short : text.length ≤ limit) :
    (singleLine text limit).toList = text.toList.map unbreak := by
  have whole : (text.toList.map unbreak).length ≤ limit := by
    rwa [List.length_map, String.length_toList]
  rw [toList_singleLine, if_neg (Nat.not_lt.2 short), List.append_nil, List.take_of_length_le whole]

/-- Long text is cut, with a mark. -/
theorem singleLine_of_lt (long : limit < text.length) :
    (singleLine text limit).toList = (text.toList.map unbreak).take limit ++ cutMark := by
  rw [toList_singleLine, if_pos long]

theorem unbroken_singleLine {c : Char} (member : c ∈ (singleLine text limit).toList) :
    c ≠ '\n' ∧ c ≠ '\r' := by
  rw [toList_singleLine, List.mem_append] at member
  rcases member with member | member
  · obtain ⟨original, -, rfl⟩ := List.mem_map.1 (List.mem_of_mem_take member)
    exact unbreak_ne original
  · split at member
    · have mark : c = '.' := by simpa [cutMark] using member
      subst mark
      decide
    · cases member

theorem length_singleLine_of_le (short : text.length ≤ limit) :
    (singleLine text limit).length = text.length := by
  rw [← String.length_toList, singleLine_of_le short, List.length_map, String.length_toList]

theorem length_singleLine_of_lt (long : limit < text.length) :
    (singleLine text limit).length = limit + 3 := by
  rw [← String.length_toList, singleLine_of_lt long, List.length_append, List.length_take,
    List.length_map, String.length_toList, Nat.min_eq_left (Nat.le_of_lt long)]
  rfl

/-- The mark is all that there is beyond the limit. -/
theorem length_singleLine_le (text : String) (limit : Nat) :
    (singleLine text limit).length ≤ limit + 3 := by
  rcases Nat.lt_or_ge limit text.length with long | short
  · exact Nat.le_of_eq (length_singleLine_of_lt long)
  · rw [length_singleLine_of_le short]
    omega

/-- **One character beyond the limit** tells that a text is to be cut, and the others do not
matter. -/
theorem singleLine_eq_take (text : String) (limit : Nat) :
    singleLine text limit = singleLine (String.ofList (text.toList.take (limit + 1))) limit := by
  have same : limit < (text.toList.take (limit + 1)).length ↔ limit < text.length := by
    rw [List.length_take, String.length_toList]
    omega
  rw [← String.toList_inj, toList_singleLine, toList_singleLine, String.toList_ofList,
    String.length_ofList, List.map_take, List.take_take, Nat.min_eq_left (Nat.le_succ limit)]
  simp only [same]

/-- **A text on one line stays as it is**: a cut text is too long by its mark and is cut where it
was before. -/
theorem singleLine_singleLine (text : String) (limit : Nat) :
    singleLine (singleLine text limit) limit = singleLine text limit := by
  have unbroken : (singleLine text limit).toList.map unbreak = (singleLine text limit).toList := by
    have same : ∀ c ∈ (singleLine text limit).toList, unbreak c = id c := by
      intro c member
      exact unbreak_of_ne (unbroken_singleLine member)
    rw [List.map_congr_left same, List.map_id]
  rw [← String.toList_inj]
  rcases Nat.lt_or_ge limit text.length with long | short
  · have front : ((text.toList.map unbreak).take limit).length = limit := by
      rw [List.length_take, List.length_map, String.length_toList]
      omega
    have again : limit < (singleLine text limit).length := by
      rw [length_singleLine_of_lt long]
      omega
    rw [singleLine_of_lt again, unbroken, singleLine_of_lt long, List.take_left' front]
  · have again : (singleLine text limit).length ≤ limit := by
      rwa [length_singleLine_of_le short]
    rw [singleLine_of_le again, unbroken]

end Text

/-! ### Panics in a host -/

namespace PanicPayload

/-- What a panic says of itself, one that carries no text by a fixed one. -/
def said : PanicPayload → String
  | text carried => carried
  | other => "non-string panic payload"

theorem line_eq (payload : PanicPayload) :
    payload.line = Text.singleLine payload.said payloadLimit := by
  cases payload <;> rfl

end PanicPayload

/-- The line of a panic ends with the payload. -/
theorem Event.line_panicked (label : InstanceId → String) (location payload : String) :
    (Event.panicked location payload).line label =
      "event=panic_captured module=logging status=error location=" ++ location ++
        " payload=" ++ payload := by
  have front : "event=panic_captured module=logging status=error location=" =
      "event=panic_captured " ++ "module=logging " ++ "status=error " ++ "location" ++ "=" := rfl
  have back : " payload=" = " " ++ "payload" ++ "=" := rfl
  have joined : (Event.panicked location payload).line label =
      "event=panic_captured " ++ ("module=logging " ++ ("status=error " ++
        ("location" ++ "=" ++ location ++ " " ++ ("payload" ++ "=" ++ payload)))) := by
    simp [line, tokens]
  rw [joined, front, back]
  simp only [String.append_assoc]

namespace Host

/-- What a call in a host is to log. -/
def events (host : Host) (location : String) : Call → List Event
  | .beginLogging level directory =>
      match host.journal.examine level directory with
      | .ok (some asked) =>
          match (host.files.makeDirectories [] asked.directory).2 with
          | .ok () => [.loggingStarted asked.level asked.directory]
          | .error _ => []
      | _ => []
  | .define name =>
      match host.catalog.defineType name (.single .string) with
      | .ok defined => defined.events
      | .error _ => []
  | .misfill name =>
      match host.catalog.type name with
      | .ok type =>
          match (World.mk .empty #[] host.instances).constructSlot type (.string "seed") with
          | .ok (world, slot) => (world.setSlotValue slot (.number (.ofNat 1))).1.log.toList
          | .error _ => []
      | .error _ => []
  | .panic payload => [.panicked location payload.line]

/-- The files that a call writes its events to: a start has made directories before that. -/
def filesBefore (host : Host) : Call → FileTree
  | .beginLogging level directory =>
      match host.journal.examine level directory with
      | .ok (some asked) => (host.files.makeDirectories [] asked.directory).1
      | _ => host.files
  | _ => host.files

/-- **What a call leaves in the files** is what they were, with its events written. -/
theorem files_run (host : Host) (location : String) (call : Call) :
    (host.run location call).1.files =
      (host.run location call).1.journal.write host.stamp (host.filesBefore call)
        (host.events location call) := by
  cases call with
  | beginLogging level directory =>
    simp only [run, beginLogging, filesBefore, events]
    cases host.journal.examine level directory with
    | error fault => rfl
    | ok asked =>
      cases asked with
      | none => rfl
      | some asked =>
        dsimp only
        cases (host.files.makeDirectories [] asked.directory).2 with
        | error fault => rfl
        | ok made => rfl
  | define name =>
    simp only [run, define, filesBefore, events]
    cases host.catalog.defineType name (.single .string) <;> rfl
  | misfill name =>
    simp only [run, misfill, filesBefore, events]
    cases host.catalog.type name with
    | error violation => rfl
    | ok type =>
      dsimp only
      cases (World.mk .empty #[] host.instances).constructSlot type (.string "seed") with
      | error violation => rfl
      | ok made =>
        dsimp only
        cases (made.1.setSlotValue made.2 (.number (.ofNat 1))).2 <;> rfl
  | panic payload => rfl

/-- No event but that of a panic is one. -/
theorem eq_of_panicked_mem {host : Host} {location place shown : String} {call : Call}
    (member : .panicked place shown ∈ host.events location call) :
    ∃ payload, call = .panic payload ∧ place = location ∧ shown = payload.line := by
  unfold events at member
  split at member
  · -- logging begins
    split at member
    · split at member
      · cases List.mem_singleton.1 member
      · cases member
    · cases member
  · -- a type is defined
    split at member
    · next made =>
      rw [Catalog.events_of_defineType made, List.mem_cons] at member
      rcases member with member | member
      · cases member
      · split at member
        · cases List.mem_singleton.1 member
        · cases member
    · cases member
  · -- a slot is written to, in a world of which nothing was told before
    split at member
    · split at member
      · next made =>
        rcases World.constructSlot_eq _ _ _ with ⟨-, -, refused⟩ | ⟨-, _, _, accepted, -, untold⟩
        · cases made.symm.trans refused
        · cases made.symm.trans accepted
          unfold World.setSlotValue at member
          split at member
          · rw [World.emit, untold] at member
            cases List.mem_singleton.1 member
          · rw [untold] at member
            cases member
      · cases member
    · cases member
  · next payload =>
    cases List.mem_singleton.1 member
    exact ⟨payload, rfl, rfl, rfl⟩

/-- **The main theorem**: a text on one line has no line break in it and at most three characters
more than the limit.  It is the text with a space for each line break if that is no longer than
the limit, and the front of that with three dots otherwise, whatever comes after the first
character beyond the limit, and is not changed any more.  So is the payload in whatever is logged
of a panic. -/
theorem panicked_singleLine (text : String) (limit : Nat) (host : Host) (location : String)
    (call : Call) :
    let line := Text.singleLine text limit
    (∀ c ∈ line.toList, c ≠ '\n' ∧ c ≠ '\r') ∧ line.length ≤ limit + 3 ∧
      (text.length ≤ limit → line.toList = text.toList.map Text.unbreak) ∧
      (limit < text.length →
        line.toList = (text.toList.map Text.unbreak).take limit ++ ['.', '.', '.']) ∧
      (∀ other : String, other.toList.take (limit + 1) = text.toList.take (limit + 1) →
        Text.singleLine other limit = line) ∧
      Text.singleLine line limit = line ∧
      (host.run location call).1.files =
        (host.run location call).1.journal.write host.stamp (host.filesBefore call)
          (host.events location call) ∧
      ∀ place shown, .panicked place shown ∈ host.events location call →
        (∀ label, (Event.panicked place shown).line label =
            "event=panic_captured module=logging status=error location=" ++ place ++
              " payload=" ++ shown) ∧
          shown.length ≤ 163 ∧ (∀ c ∈ shown.toList, c ≠ '\n' ∧ c ≠ '\r') ∧
          ∃ payload, call = .panic payload ∧ shown = Text.singleLine payload.said 160 := by
  intro line
  refine ⟨fun c => Text.unbroken_singleLine, Text.length_singleLine_le text limit,
    Text.singleLine_of_le, Text.singleLine_of_lt, fun other same => ?_,
    Text.singleLine_singleLine text limit, host.files_run location call, ?_⟩
  · rw [Text.singleLine_eq_take, same, ← Text.singleLine_eq_take]
  · intro place shown member
    obtain ⟨payload, called, rfl, rfl⟩ := eq_of_panicked_mem member
    rw [payload.line_eq]
    refine ⟨fun label => ?_, Text.length_singleLine_le _ 160, fun c => Text.unbroken_singleLine,
      payload, called, rfl⟩
    exact Event.line_panicked label place _

/-- A text that is cut at its second line break, and a panic with a line break. -/
theorem panicked_singleLine_cut :
    let text := "one\ntwo\rthree"
    let host := start ⟨0, ""⟩ .empty
    let call : Call := .panic (.text "a\nb")
    7 < text.length ∧ "one\ntwo\rfour".toList.take 8 = text.toList.take 8 ∧
      Text.singleLine "one\ntwo\rfour" 7 = "one two..." ∧
      .panicked "lib:1" "a b" ∈ host.events "lib:1" call ∧
      ∃ payload, call = .panic payload ∧ "a b" = Text.singleLine payload.said 160 := by
  intro text host call
  have long : 7 < text.length := by decide +kernel
  have front : "one\ntwo\rfour".toList.take 8 = text.toList.take 8 := by decide +kernel
  have logged : .panicked "lib:1" "a b" ∈ host.events "lib:1" call := by
    have shown : PanicPayload.line (.text "a\nb") = "a b" := by decide +kernel
    show _ ∈ [Event.panicked "lib:1" (PanicPayload.line (.text "a\nb"))]
    rw [shown]
    exact List.mem_singleton_self _
  obtain ⟨-, -, -, cut, same, -, -, panics⟩ := panicked_singleLine text 7 host "lib:1" call
  have line : Text.singleLine text 7 = "one two..." := by
    rw [← String.toList_inj, cut long]
    decide +kernel
  obtain ⟨-, -, -, carried⟩ := panics "lib:1" "a b" logged
  exact ⟨long, front, (same _ front).trans line, logged, carried⟩

end Host

end Contracts
