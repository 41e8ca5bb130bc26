import Contracts.Host

/-!
# Logging begins once

Requests to log come one after the other, and whether a start succeeds is up to what is around
the journal, so that every outcome is allowed for at every request.  As long as no request was
met the journal is idle.  From the first one that was met on, it is as that one asked for, and
no later request changes this, whether it is met or refused.

## Main definitions

* `Level.Named` — a text names a level.
* `LogRequest` — a request, and what comes of a start if it leads to one.
* `LogRequest.Asks` — what a well-formed request asks for.
* `Journal.after`, `LogRequest.Met` — the journal after requests, and whether one is met.

## Main results

* `Level.ofText?_eq_some_iff` — which texts name which levels.
* `Journal.active_after` — the journal is as the first request asked that was met.
* `Journal.begin_once` — **logging begins once**, and how each request is answered.
* `Host.journal_afterCalls` — the journal of a host is one after requests.
-/

namespace Contracts

/-! ### Well-formed requests -/

/-- A text as levels are looked up by it. -/
def Level.lookedUp (text : String) : String := (Text.trim text).map Char.toLower

/-- A text names a level: it is the word for it, where blanks around it and case do not count,
or the long form of that for doubtful things. -/
def Level.Named (level : Level) (text : String) : Prop :=
  lookedUp text = level.text ∨ level = .warn ∧ lookedUp text = "warning"

/-- The level that is found is the one that is named. -/
theorem Level.ofText?_eq_some_iff {text : String} {level : Level} :
    ofText? text = some level ↔ level.Named text := by
  unfold ofText? Named lookedUp
  split <;> rename_i spelled
  · cases level <;> simp [spelled, Level.text]
  · cases level <;> simp [spelled, Level.text]
  · cases level <;> simp [spelled, Level.text]
  · cases level <;> simp [spelled, Level.text]
  · cases level <;> simp [spelled, Level.text]
  · cases level <;> simp [spelled, Level.text]
  · cases level <;> simp_all [Level.text]

/-- A request to log. -/
structure LogRequest where
  /-- The level, as it is spelled. -/
  level : String
  /-- The directory, as it is spelled. -/
  directory : String
  /-- What comes of a start, if the request leads to one. -/
  started : Except StartFault Unit

namespace LogRequest

variable {request : LogRequest}

/-- What a request asks for, if it is well formed: it names a level, and its directory is given
by an absolute path once the blanks around it are removed. -/
structure Asks (request : LogRequest) (asked : Logging) : Prop where
  /-- The level is named. -/
  level : asked.level.Named request.level
  /-- The directory is the one that is given. -/
  directory : asked.directory = Text.trim request.directory
  /-- A directory is given. -/
  given : asked.directory ≠ ""
  /-- It is given by an absolute path. -/
  absolute : Path.isAbsolute asked.directory = true

/-- What is wrong with a request that is not well formed: its level, and only then its
directory. -/
inductive Malformed (request : LogRequest) : JournalFault → Prop where
  /-- No level is named. -/
  | level (unnamed : ∀ level : Level, ¬ level.Named request.level) :
      Malformed request (.unknownLevel (Level.lookedUp request.level))
  /-- No directory is given. -/
  | empty (level : Level) (named : level.Named request.level)
      (absent : Text.trim request.directory = "") : Malformed request .noDirectory
  /-- The directory is not given by an absolute path. -/
  | relative (level : Level) (named : level.Named request.level)
      (given : Text.trim request.directory ≠ "")
      (wandering : Path.isAbsolute (Text.trim request.directory) = false) :
      Malformed request (.relativeDirectory (Text.trim request.directory))

theorem wellFormed_of_asks {asked : Logging} (h : request.Asks asked) :
    Journal.wellFormed request.level request.directory = .ok asked := by
  obtain ⟨level, directory⟩ := asked
  obtain ⟨named, rfl, given, absolute⟩ := h
  rw [Journal.wellFormed, Level.ofText?_eq_some_iff.2 named]
  simp only [String.isEmpty_iff, given, absolute, if_true, if_false]

theorem wellFormed_of_malformed {fault : JournalFault} (h : request.Malformed fault) :
    Journal.wellFormed request.level request.directory = .error fault := by
  cases h with
  | level unnamed =>
    have none : Level.ofText? request.level = none :=
      Option.eq_none_iff_forall_ne_some.2 fun level found =>
        unnamed level (Level.ofText?_eq_some_iff.1 found)
    rw [Journal.wellFormed, none]
    rfl
  | empty level named absent =>
    rw [Journal.wellFormed, Level.ofText?_eq_some_iff.2 named]
    simp only [String.isEmpty_iff, absent, if_true]
  | relative level named given wandering =>
    rw [Journal.wellFormed, Level.ofText?_eq_some_iff.2 named]
    simp only [String.isEmpty_iff, given, wandering, if_false, Bool.false_eq_true]

/-- A request is well formed, or something is wrong with it. -/
theorem malformed_or_asks (request : LogRequest) :
    (∃ fault, request.Malformed fault) ∨ ∃ asked, request.Asks asked := by
  by_cases named : ∃ level : Level, level.Named request.level
  · obtain ⟨level, named⟩ := named
    by_cases absent : Text.trim request.directory = ""
    · exact .inl ⟨_, .empty level named absent⟩
    · cases absolute : Path.isAbsolute (Text.trim request.directory) with
      | false => exact .inl ⟨_, .relative level named absent absolute⟩
      | true => exact .inr ⟨⟨level, Text.trim request.directory⟩, named, rfl, absent, absolute⟩
  · exact .inl ⟨_, .level fun level h => named ⟨level, h⟩⟩

end LogRequest

/-! ### One request -/

namespace Journal

variable {journal : Journal} {request : LogRequest} {asked active : Logging}

/-- What becomes of the journal with a request, and the answer to it. -/
def answer (journal : Journal) (request : LogRequest) : Journal × Except JournalFault Unit :=
  journal.begin request.level request.directory request.started

/-- A start is in the directory that is given, without the blanks around it. -/
theorem directory_of_examine {level directory : String}
    (h : journal.examine level directory = .ok (some asked)) :
    asked.directory = Text.trim directory := by
  unfold examine wellFormed at h
  grind

/-- A request that is not well formed is refused for that, and changes nothing. -/
theorem answer_of_malformed {fault : JournalFault} (h : request.Malformed fault) :
    journal.answer request = (journal, .error fault) := by
  rw [answer, begin, examine, LogRequest.wellFormed_of_malformed h]

/-- As long as logging has not begun, a well-formed request leads to a start. -/
theorem answer_of_inactive (h : request.Asks asked) (inactive : journal.active = none) :
    journal.answer request = journal.conclude asked request.started := by
  rw [answer, begin, examine, LogRequest.wellFormed_of_asks h, inactive]

/-- Once logging has begun, a well-formed request changes nothing.  It is compared with what is
active, the directory first. -/
theorem answer_of_active (h : request.Asks asked) (begun : journal.active = some active) :
    journal.answer request = (journal,
      if Path.same active.directory asked.directory then
        if active.level = asked.level then .ok ()
        else .error (.otherLevel active.level asked.level)
      else .error (.otherDirectory active.directory asked.directory)) := by
  rw [answer, begin, examine, LogRequest.wellFormed_of_asks h, begun]
  dsimp only
  by_cases same : Path.same active.directory asked.directory = true
  · by_cases level : active.level = asked.level
    · simp only [if_pos same, if_pos level]
    · simp only [if_pos same, if_neg level]
  · simp only [if_neg same]

/-- A request that is met changes an idle journal to what it asks for; no other request changes
a journal. -/
theorem active_answer (journal : Journal) (request : LogRequest) :
    (∃ asked, journal.active = none ∧ request.Asks asked ∧
      journal.answer request = (⟨some asked⟩, .ok ())) ∨
    (journal.answer request).1 = journal ∧
      (journal.active = none → ¬ (journal.answer request).2 = .ok ()) := by
  rcases request.malformed_or_asks with ⟨fault, malformed⟩ | ⟨asked, asks⟩
  · rw [answer_of_malformed malformed]
    exact .inr ⟨rfl, fun _ wrong => nomatch wrong⟩
  · cases begun : journal.active with
    | some active =>
      rw [answer_of_active asks begun]
      exact .inr ⟨rfl, fun wrong => nomatch wrong⟩
    | none =>
      rw [answer_of_inactive asks begun]
      cases started : request.started with
      | ok => exact .inl ⟨asked, rfl, asks, rfl⟩
      | error fault => exact .inr ⟨rfl, fun _ wrong => nomatch wrong⟩

end Journal

/-- A request is met by a journal. -/
def LogRequest.Met (request : LogRequest) (journal : Journal) : Prop :=
  (journal.answer request).2 = .ok ()

namespace Journal

variable {journal : Journal} {requests : List LogRequest} {active : Logging}

/-! ### Many requests -/

/-- The journal after requests, one after the other. -/
def after (journal : Journal) (requests : List LogRequest) : Journal :=
  requests.foldl (fun journal request => (journal.answer request).1) journal

theorem after_append_cons (journal : Journal) (front : List LogRequest) (request : LogRequest)
    (back : List LogRequest) : journal.after (front ++ request :: back) =
      ((journal.after front).answer request).1.after back := by
  rw [after, List.foldl_append, List.foldl_cons]
  rfl

/-- None of some requests is met, each by the journal as it is then. -/
def MeetsNone (journal : Journal) (requests : List LogRequest) : Prop :=
  ∀ front request back, requests = front ++ request :: back → ¬ request.Met (journal.after front)

/-- There is one journal before logging has begun. -/
theorem eq_idle (inactive : journal.active = none) : journal = idle := by
  obtain ⟨active⟩ := journal
  exact congrArg Journal.mk inactive

/-- Once logging has begun nothing changes. -/
theorem after_of_active (begun : journal.active = some active) (requests : List LogRequest) :
    journal.after requests = journal := by
  induction requests with
  | nil => rfl
  | cons request rest ih =>
    rw [after, List.foldl_cons]
    rcases journal.active_answer request with ⟨_, inactive, _⟩ | ⟨kept, _⟩
    · rw [begun] at inactive
      cases inactive
    · rw [kept]
      exact ih

/-- As long as no request is met nothing changes. -/
theorem after_of_meetsNone (none : journal.MeetsNone requests) :
    journal.after requests = journal := by
  induction requests with
  | nil => rfl
  | cons request rest ih =>
    rw [after, List.foldl_cons]
    rcases journal.active_answer request with ⟨asked, _, _, met⟩ | ⟨kept, _⟩
    · exact absurd (congrArg Prod.snd met) (none [] request rest rfl)
    · rw [kept]
      refine ih fun front other back split => ?_
      have := none (request :: front) other back (congrArg (request :: ·) split)
      rwa [after, List.foldl_cons, kept] at this

/-- The first request that is met says how logging has begun. -/
theorem active_after_of_met {front back : List LogRequest} {request : LogRequest}
    (none : idle.MeetsNone front) (met : request.Met (idle.after front)) :
    ∃ asked, request.Asks asked ∧
      (idle.after (front ++ request :: back)).active = some asked := by
  rw [after_of_meetsNone none] at met
  rw [after_append_cons, after_of_meetsNone none]
  rcases idle.active_answer request with ⟨asked, _, asks, answered⟩ | ⟨_, unmet⟩
  · rw [answered]
    exact ⟨asked, asks, congrArg active (after_of_active rfl back)⟩
  · exact absurd met (unmet rfl)

/-- **The main theorem**: whatever comes of starts, there is no status as long as no request was
met, and from the first one that was met on the status is the level and the directory that this
one asked for.  The next request is refused for its level first, then for its directory, if it
is not well formed, and this whether or not logging has begun.  A well-formed one begins
logging if a start succeeds, and if it fails then everything is as before, so that the next one
can still succeed.  Once logging has begun, it is met just when it asks for the same directory
and level, and if it asks for another directory and another level it is refused for the
directory. -/
theorem begin_once (requests : List LogRequest) :
    (idle.MeetsNone requests → (idle.after requests).active = none) ∧
    (∀ front request back, requests = front ++ request :: back → idle.MeetsNone front →
      request.Met (idle.after front) →
        ∃ asked, request.Asks asked ∧ (idle.after requests).active = some asked) ∧
    ∀ next : LogRequest,
      ((∃ fault, next.Malformed fault) ∨ ∃ asked, next.Asks asked) ∧
      (∀ fault, next.Malformed fault →
        (idle.after requests).answer next = (idle.after requests, .error fault)) ∧
      ∀ asked, next.Asks asked →
        ((idle.after requests).active = none →
          (next.started = .ok () →
            (idle.after requests).answer next = (⟨some asked⟩, .ok ())) ∧
          ∀ fault, next.started = .error fault →
            (idle.after requests).answer next =
              (idle, .error (.notBegun asked.directory fault))) ∧
        ∀ active, (idle.after requests).active = some active →
          ((idle.after requests).answer next).1 = idle.after requests ∧
          (next.Met (idle.after requests) ↔
            Path.same active.directory asked.directory = true ∧ active.level = asked.level) ∧
          (Path.same active.directory asked.directory = false →
            ((idle.after requests).answer next).2 =
              .error (.otherDirectory active.directory asked.directory)) ∧
          (Path.same active.directory asked.directory = true → active.level ≠ asked.level →
            ((idle.after requests).answer next).2 =
              .error (.otherLevel active.level asked.level)) := by
  refine ⟨fun none => ?_, ?_, fun next => ⟨next.malformed_or_asks, fun fault malformed =>
    answer_of_malformed malformed, fun asked asks => ⟨fun inactive => ?_, fun active begun => ?_⟩⟩⟩
  · rw [after_of_meetsNone none]
    rfl
  · rintro front request back rfl none met
    exact active_after_of_met none met
  · rw [answer_of_inactive asks inactive]
    refine ⟨fun started => by rw [started]; rfl, fun fault started => ?_⟩
    rw [started, eq_idle inactive]
    rfl
  · rw [LogRequest.Met, answer_of_active asks begun]
    by_cases same : Path.same active.directory asked.directory = true
    · by_cases level : active.level = asked.level <;> simp [same, level]
    · simp [same]

/-- A start that fails, a level that is none, a start that succeeds in the long form and with
blanks, the same again in other words, and another directory at another level. -/
example :
    let requests : List LogRequest :=
      [⟨"info", "/logs", .error (.notStarted "already there")⟩, ⟨"loud", "/logs", .ok ()⟩,
        ⟨" WARNING", "/var/logs ", .ok ()⟩, ⟨"warn", "/var//logs/", .error (.notMade .exists)⟩,
        ⟨"info", "/logs", .ok ()⟩]
    (List.range 6).map (fun n => (idle.after (requests.take n)).active) =
        [none, none, none, some ⟨.warn, "/var/logs"⟩, some ⟨.warn, "/var/logs"⟩,
          some ⟨.warn, "/var/logs"⟩] ∧
      (List.range 5).map (fun n => requests[n]?.map fun request =>
          ((idle.after (requests.take n)).answer request).2.toBool) =
        [some false, some false, some true, some true, some false] := by
  decide +kernel

end Journal

/-! ### Hosts -/

namespace Host

/-- The request that a call makes, and what comes of a start among the files as they are. -/
def request? (host : Host) : Call → Option LogRequest
  | .beginLogging level directory =>
      some ⟨level, directory,
        (host.files.makeDirectories [] (Text.trim directory)).2.mapError .notMade⟩
  | _ => none

/-- A host asks its journal, and tries a start only if the journal needs one. -/
theorem beginLogging_eq_answer (host : Host) (level directory : String) {request : LogRequest}
    (h : host.request? (.beginLogging level directory) = some request) :
    (host.beginLogging level directory).1.journal = (host.journal.answer request).1 ∧
      (host.beginLogging level directory).2 =
        (host.journal.answer request).2.mapError Refusal.journal := by
  cases h
  unfold beginLogging Journal.answer Journal.begin
  cases examined : host.journal.examine level directory with
  | error fault => exact ⟨rfl, rfl⟩
  | ok asked =>
    cases asked with
    | none => exact ⟨rfl, rfl⟩
    | some asked =>
      have trimmed := Journal.directory_of_examine examined
      dsimp only
      rw [trimmed]
      cases (host.files.makeDirectories [] (Text.trim directory)).2 with
      | error fault => exact ⟨rfl, rfl⟩
      | ok => exact ⟨rfl, rfl⟩

/-- Nothing but a request changes the journal of a host. -/
theorem journal_run (host : Host) (location : String) (call : Call) :
    (host.run location call).1.journal =
      ((host.request? call).elim host.journal fun request => (host.journal.answer request).1) := by
  cases call with
  | beginLogging level directory => exact (host.beginLogging_eq_answer level directory rfl).1
  | define name =>
    simp only [run, request?, Option.elim, define]
    split <;> rfl
  | misfill name =>
    simp only [run, request?, Option.elim, misfill]
    split
    · rfl
    · split
      · rfl
      · split <;> rfl
  | panic payload => rfl

/-- A host after calls, each made at some location in the code. -/
def afterCalls (host : Host) : List (String × Call) → Host
  | [] => host
  | (location, call) :: rest => (host.run location call).1.afterCalls rest

/-- The requests among calls, with what comes of starts when they are made. -/
def requests (host : Host) : List (String × Call) → List LogRequest
  | [] => []
  | (location, call) :: rest =>
      (host.request? call).toList ++ (host.run location call).1.requests rest

/-- The journal of a host is the one after the requests among its calls, so that logging begins
once in it. -/
theorem journal_afterCalls (host : Host) (calls : List (String × Call)) :
    (host.afterCalls calls).journal = host.journal.after (host.requests calls) := by
  induction calls generalizing host with
  | nil => rfl
  | cons entry rest ih =>
    rw [afterCalls, requests, ih, journal_run, Journal.after, Journal.after, List.foldl_append]
    cases host.request? entry.2 <;> rfl

end Host

end Contracts
