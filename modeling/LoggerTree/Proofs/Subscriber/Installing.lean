import LoggerTree.Proofs.Files
import LoggerTree.Session

/-! # Installing a subscriber

    A session installs a subscriber in three steps, and each of them can fail: it opens the
    output, reads the filter, and takes the one place that there is for a subscriber. What
    has been opened is not undone where a later step fails.

    Which filters can be read, and how lines look, is up to the library that the session makes
    subscribers with. Nothing is assumed of it.

    Main statement: `installed_or_refused`. A subscriber is installed and its file is there with
    all that it held, or else nothing but the file of the output can be new.
-/

namespace LoggerTree

/-! ### Opening the output -/

/-- Whether an output is one of the two streams. All others name files. -/
def IsStream (output : List Char) : Prop :=
  output = "stdout".toList ∨ output = "stderr".toList

/-- What opening an output does to the files: nothing for a stream, else the file that it names is
    there afterwards, and still goes by this name. -/
inductive Opens (output : List Char) (before : Files) : Destination → Files → Prop where
  | stream {destination : Destination} (isStream : IsStream output)
      (not_file : ∀ path, destination ≠ .file path) : Opens output before destination before
  | file {path : FilePath} {after : Files} (not_stream : ¬IsStream output)
      (named : before.resolve output = .ok path) (grows : before.Grows after path .empty) :
      Opens output before (.file path) after

/-- Opening either opens the output or tells why its file cannot be opened. -/
theorem Destination.open_cases (output : List Char) (before : Files) :
    (∃ cause, Destination.open output before = .error (.openFailed output cause) ∧
      ¬IsStream output ∧ before.openAppend output = .error cause) ∨
    ∃ destination after, Destination.open output before = .ok (destination, after) ∧
      Opens output before destination after := by
  unfold Destination.open
  by_cases hstdout : output = "stdout".toList
  · rw [if_pos hstdout]
    exact .inr ⟨_, _, rfl, .stream (.inl hstdout) nofun⟩
  · rw [if_neg hstdout]
    by_cases hstderr : output = "stderr".toList
    · rw [if_pos hstderr]
      exact .inr ⟨_, _, rfl, .stream (.inr hstderr) nofun⟩
    · rw [if_neg hstderr]
      cases hopened : before.openAppend output with
      | error cause => exact .inl ⟨cause, rfl, not_or.2 ⟨hstdout, hstderr⟩, rfl⟩
      | ok opened =>
        obtain ⟨hnamed, hgrows⟩ := Files.openAppend_eq_ok hopened
        exact .inr ⟨_, _, rfl, .file (not_or.2 ⟨hstdout, hstderr⟩) hnamed hgrows⟩

/-- Only the filter of a configuration can be wrong. -/
theorem Subscriber.build_cases (library : Library) (c : SubscriberConfig) :
    (∃ cause, build library c = .error (.invalidFilter cause) ∧
      library.readFilter c.level = .error cause) ∨
    ∃ subscriber, build library c = .ok subscriber := by
  unfold build
  cases library.readFilter c.level with
  | error cause => exact .inl ⟨cause, rfl, rfl⟩
  | ok wants => exact .inr ⟨_, rfl⟩

/-! ### The three steps -/

/-- What is wrong where installing ends in an error. -/
inductive Installation.Faulty (i : Installation) (library : Subscriber.Library)
    (c : SubscriberConfig) : SubscriberError → Prop where
  | file {cause : FileError} (not_stream : ¬IsStream c.output)
      (cannot_open : i.files.openAppend c.output = .error cause) :
      Faulty i library c (.openFailed c.output cause)
  | filter {cause : String} (cannot_read : library.readFilter c.level = .error cause) :
      Faulty i library c (.invalidFilter cause)
  | taken (taken : i.installed.isSome) : Faulty i library c .alreadyInstalled

/-- What installing comes to. An error can come before the output is opened or after it. -/
inductive Installation.Outcome (i : Installation) (library : Subscriber.Library)
    (c : SubscriberConfig) : Except SubscriberError Unit × Installation → Prop where
  | unopened {cause : FileError} (faulty : i.Faulty library c (.openFailed c.output cause)) :
      Outcome i library c (.error (.openFailed c.output cause), i)
  | opened {e : SubscriberError} {destination : Destination} {files : Files}
      (opens : Opens c.output i.files destination files) (faulty : i.Faulty library c e)
      (later : ∀ path cause, e ≠ .openFailed path cause) :
      Outcome i library c (.error e, { i with files })
  | installed {subscriber : Subscriber} {destination : Destination} {files : Files}
      (opens : Opens c.output i.files destination files) (free : i.installed = none)
      (described : Subscriber.build library c = .ok subscriber) :
      Outcome i library c (.ok (), ⟨some (subscriber, destination), files⟩)

theorem Installation.outcome_install (i : Installation) (library : Subscriber.Library)
    (c : SubscriberConfig) : i.Outcome library c (i.install library c) := by
  unfold install
  rcases Destination.open_cases c.output i.files with
    ⟨cause, hopen, hstream, hcause⟩ | ⟨destination, files, hopen, hopens⟩
  · rw [hopen]
    exact .unopened (.file hstream hcause)
  · rw [hopen]
    dsimp only
    rcases Subscriber.build_cases library c with
      ⟨cause, hfilter, hcause⟩ | ⟨subscriber, hdescribed⟩
    · rw [hfilter]
      exact .opened hopens (.filter hcause) (fun _ _ => nofun)
    · rw [hdescribed]
      dsimp only
      by_cases htaken : i.installed.isSome
      · rw [if_pos htaken]
        exact .opened hopens (.taken htaken) (fun _ _ => nofun)
      · rw [if_neg htaken]
        exact .installed hopens (by simpa using htaken) hdescribed

namespace Session

/-! ### Steps of a session -/

variable {c : SubscriberConfig}

/-- The files of a session. -/
abbrev files (s : Session) : Files :=
  s.installation.files

/-- What a step is to have done if it has installed a subscriber. -/
structure Installed (before : Session) (c : SubscriberConfig) (after : Session) : Prop where
  free : before.installation.installed = none
  /-- The subscriber that the configuration describes takes the events that it wants. -/
  subscriber : ∃ subscriber destination, Subscriber.build before.library c = .ok subscriber ∧
    after.installation.installed = some (subscriber, destination) ∧
    after.facade.interest = subscriber.wants
  /-- An output that is not a stream names a file. All that this file held is still in front. -/
  file : ¬IsStream c.output → ∃ path more, before.files.resolve c.output = .ok path ∧
    after.files.resolve c.output = .ok path ∧ before.files.Grows after.files path more

/-- What a step is to have done if installing a subscriber ended in an error. -/
structure Refused (before : Session) (c : SubscriberConfig) (e : SubscriberError)
    (after : Session) : Prop where
  /-- There is something wrong. -/
  faulty : before.installation.Faulty before.library c e
  subscriber : after.installation.installed = before.installation.installed
  facade : after.facade = before.facade
  streams : after.stdout = before.stdout ∧ after.stderr = before.stderr
  unopened : ∀ path cause, e = .openFailed path cause → after.files = before.files
  stream : IsStream c.output → after.files = before.files
  /-- An error that came later leaves the file of the output behind, empty if it is new. -/
  opened : (∀ path cause, e ≠ .openFailed path cause) → ¬IsStream c.output →
    ∃ path, before.files.resolve c.output = .ok path ∧ after.files.resolve c.output = .ok path ∧
      before.files.Grows after.files path .empty

/-- A step is performed, and then the events that it has caused are written. -/
theorem step_of_perform {s next : Session} {step : Step} {answer : Answer}
    (h : s.perform step = (answer, next)) : (s.step step).1.answer = answer ∧
      ∃ seen, (s.step step).2 =
        { next.write (next.facade.delivered.drop s.facade.delivered.length) with seen } := by
  unfold Session.step
  rw [h]
  dsimp only
  split
  · exact ⟨rfl, _, rfl⟩
  · exact ⟨rfl, _, rfl⟩

@[simp] theorem write_nil (s : Session) : s.write [] = s := by
  unfold write
  cases s.installation.installed with
  | none => rfl
  | some => rfl

/-- To write changes nothing but the streams and the files. -/
theorem exists_write_eq (s : Session) (events : List Event) : ∃ stdout stderr files,
    s.write events = { s with stdout, stderr, installation := { s.installation with files } } := by
  unfold write
  split
  · exact ⟨_, _, _, rfl⟩
  · exact ⟨_, _, _, rfl⟩
  · split <;> exact ⟨_, _, _, rfl⟩

@[simp] theorem facade_write (s : Session) (events : List Event) :
    (s.write events).facade = s.facade := by
  obtain ⟨stdout, stderr, files, h⟩ := s.exists_write_eq events
  rw [h]

@[simp] theorem installed_write (s : Session) (events : List Event) :
    (s.write events).installation.installed = s.installation.installed := by
  obtain ⟨stdout, stderr, files, h⟩ := s.exists_write_eq events
  rw [h]

/-- Events are written behind all that has been written to a file. -/
theorem grows_write {s : Session} {subscriber : Subscriber} {path : FilePath} {bytes : ByteArray}
    (hinstalled : s.installation.installed = some (subscriber, .file path))
    (hplaced : s.files.Placed path) (hfile : s.files.find? path = some (.file bytes))
    (events : List Event) : ∃ more, s.files.Grows (s.write events).files path more := by
  cases events with
  | nil =>
    rw [write_nil]
    exact ⟨.empty, .of_find? hfile⟩
  | cons event events =>
    unfold write
    rw [hinstalled]
    exact ⟨_, Files.grows_append hplaced hfile _⟩

/-- After an error there is nothing to write. -/
theorem step_of_error {s : Session} {i : Installation} {e : SubscriberError}
    (h : s.installation.install s.library c = (.error e, i)) :
    (s.step (.install c)).1.answer = .failed (.failure (.subscriber e)) ∧
      ∃ seen, (s.step (.install c)).2 = { s with installation := i, seen } := by
  have hperform : s.perform (.install c) =
      (.failed (.failure (.subscriber e)), { s with installation := i }) := by
    simp only [perform, install, h]
  obtain ⟨hanswer, seen, hafter⟩ := step_of_perform hperform
  -- Nothing has been delivered, so that even a subscriber of long ago has nothing to write.
  rw [List.drop_length, write_nil] at hafter
  exact ⟨hanswer, seen, hafter⟩

/-- A new subscriber takes the events that it wants, and that about itself is written. -/
theorem step_of_installed {s : Session} {subscriber : Subscriber} {destination : Destination}
    {files : Files}
    (h : s.installation.install s.library c = (.ok (), ⟨some (subscriber, destination), files⟩)) :
    (s.step (.install c)).1.answer = .done ∧
      (s.step (.install c)).2.facade.interest = subscriber.wants ∧
      ∃ (opened : Session) (events : List Event),
        opened.installation = ⟨some (subscriber, destination), files⟩ ∧
          (s.step (.install c)).2.installation = (opened.write events).installation := by
  have hperform : ∃ facade : Facade, facade.interest = subscriber.wants ∧
      s.perform (.install c) = (.done,
        { s with facade, installation := ⟨some (subscriber, destination), files⟩ }) := by
    simp only [perform, install, h]
    exact ⟨_, Facade.interest_send _ _, rfl⟩
  obtain ⟨facade, hinterest, hperform⟩ := hperform
  obtain ⟨hanswer, seen, hafter⟩ := step_of_perform hperform
  refine ⟨hanswer, ?_, { s with facade, installation := _ }, _, rfl, by rw [hafter]⟩
  rw [hafter]
  dsimp only
  rw [facade_write]
  exact hinterest

/-- An error after opening leaves what has been opened. -/
theorem refused_of_opens {s : Session} {e : SubscriberError} {destination : Destination}
    {files : Files}
    (h : s.installation.install s.library c = (.error e, { s.installation with files }))
    (opens : Opens c.output s.files destination files)
    (faulty : s.installation.Faulty s.library c e)
    (later : ∀ path cause, e ≠ .openFailed path cause) :
    (s.step (.install c)).1.answer = .failed (.failure (.subscriber e)) ∧
      Refused s c e (s.step (.install c)).2 := by
  obtain ⟨hanswer, seen, hafter⟩ := step_of_error h
  rw [hafter]
  refine ⟨hanswer, faulty, rfl, rfl, ⟨rfl, rfl⟩, ?_, ?_, ?_⟩
  · intro path cause he
    exact absurd he (later path cause)
  · intro isStream
    cases opens with
    | stream => rfl
    | file not_stream => exact absurd isStream not_stream
  · intro _ not_stream
    cases opens with
    | stream isStream => exact absurd isStream not_stream
    | file _ named grows => exact ⟨_, named, grows.resolve named, grows⟩

/-- A file that has been opened is there, and what is written goes to its end. -/
theorem installed_of_opens {s : Session} {subscriber : Subscriber} {destination : Destination}
    {files : Files}
    (h : s.installation.install s.library c = (.ok (), ⟨some (subscriber, destination), files⟩))
    (opens : Opens c.output s.files destination files) (free : s.installation.installed = none)
    (described : Subscriber.build s.library c = .ok subscriber) :
    (s.step (.install c)).1.answer = .done ∧ Installed s c (s.step (.install c)).2 := by
  obtain ⟨hanswer, hinterest, opened, events, hopened, hafter⟩ := step_of_installed h
  have hinstalled : opened.installation.installed = some (subscriber, destination) := by
    rw [hopened]
  have hfiles : opened.files = files := congrArg Installation.files hopened
  have hwritten : (s.step (.install c)).2.files = (opened.write events).files :=
    congrArg Installation.files hafter
  refine ⟨hanswer, free, ⟨subscriber, destination, described, ?_, hinterest⟩, ?_⟩
  · rw [hafter, installed_write, hinstalled]
  · intro not_stream
    cases opens with
    | stream isStream => exact absurd isStream not_stream
    | file _ named grows =>
      -- Two steps on one file: it is opened, and then it may get a line.
      have hplaced := Files.placed_of_resolve (grows.resolve named)
      have hself := grows.self
      rw [← hfiles] at grows hplaced hself
      obtain ⟨more, hmore⟩ := grows_write hinstalled hplaced hself events
      have hwhole := grows.trans hmore
      rw [← hwritten] at hwhole
      exact ⟨_, _, named, hwhole.resolve named, hwhole⟩

/-- **A session gets the subscriber that it asks for, or an error and no change but for the file
    that has been opened**, whatever filters its library reads. -/
theorem installed_or_refused (s : Session) (c : SubscriberConfig) :
    let report := (s.step (.install c)).1
    let after := (s.step (.install c)).2
    report.answer = .done ∧ Installed s c after ∨
      ∃ e, report.answer = .failed (.failure (.subscriber e)) ∧ Refused s c e after := by
  intro report after
  have houtcome := s.installation.outcome_install s.library c
  generalize hinstall : s.installation.install s.library c = result at houtcome
  cases houtcome with
  | @unopened cause faulty =>
    obtain ⟨hanswer, seen, hafter⟩ := step_of_error hinstall
    refine .inr ⟨_, hanswer, ?_⟩
    rw [show after = _ from hafter]
    exact ⟨faulty, rfl, rfl, ⟨rfl, rfl⟩, fun _ _ _ => rfl, fun _ => rfl, fun later =>
      absurd rfl (later c.output cause)⟩
  | opened opens faulty later => exact .inr ⟨_, refused_of_opens hinstall opens faulty later⟩
  | installed opens free described =>
    exact .inl (installed_of_opens hinstall opens free described)

/-! ### What a failure leaves behind -/

/-- An error leaves all files and the subscriber as they were. -/
def AllOrNothing (before : Session) (c : SubscriberConfig) : Prop :=
  ∀ e, (before.step (.install c)).1.answer = .failed (.failure (.subscriber e)) →
    (before.step (.install c)).2.installation.installed = before.installation.installed ∧
    ∀ path, (before.step (.install c)).2.files.find? path = before.files.find? path

/-- A filter that cannot be read leaves the file of its output behind. Here the library in use
    finds the threshold `loud` wrong. -/
theorem not_allOrNothing_of_invalid_filter :
    ¬AllOrNothing (alone (.relay {}) {} "")
      { level := "app=loud".toList, output := "x.log".toList } := by
  intro h
  have hsame := (h _ rfl).2 ["x.log".toList]
  have hmade : (((alone (.relay {}) {} "").step (.install
      { level := "app=loud".toList, output := "x.log".toList })).2.files.find?
        ["x.log".toList]).isSome = true := by
    decide +kernel
  rw [hsame] at hmade
  exact absurd hmade (by decide +kernel)

end Session

end LoggerTree
