import StimulusBench.Proofs.FileTree
import StimulusBench.Session

/-!
# `StimulusBench.Proofs.Session` — what logging changes and what it leaves alone

Logging writes to the error stream and to the log file, and to nothing else: the output stream and the
log itself stay as they are, and the log file is only ever appended to.

## Contents
- **Logged text.** `Session.logged` and `Session.loggedAll`, the text that events add to the file at a
  place.
- **Events.** `Session.emit` and `Session.emitAll` on streams, files and the log.
- **Starting the log.** `startLog_eq_ok`.
-/

namespace StimulusBench.Session

open FileTree (Changes)

variable {s s' : Session} {place : Place} {text : String}

/-! ## Logged text -/

/-- The text that an event adds to the file at a place: a line, if the log file is there and the filter
    admits the event. -/
def logged (s : Session) (place : Place) (e : LogEvent) : String :=
  match s.logger with
  | none => ""
  | some logger =>
    if logger.file = some place ∧ logger.filter.admits e = true then e.line logger.format s.time else ""

/-- Whether an event is logged to the file at a place. -/
def LogsTo (s : Session) (e : LogEvent) (place : Place) : Prop :=
  ∃ logger, s.logger = some logger ∧ logger.file = some place ∧ logger.filter.admits e = true

theorem logged_eq_empty {e : LogEvent} (h : ¬ s.LogsTo e place) : s.logged place e = "" := by
  rw [logged]
  split
  next => rfl
  next logger hlogger => exact if_neg fun hlogged => h ⟨logger, hlogger, hlogged⟩

/-- The text that several events add to the file at a place, one after the other. -/
def loggedAll (s : Session) (place : Place) : List LogEvent → String
  | [] => ""
  | e :: rest => s.logged place e ++ s.loggedAll place rest

theorem loggedAll_append (s : Session) (place : Place) (events events' : List LogEvent) :
    s.loggedAll place (events ++ events') = s.loggedAll place events ++ s.loggedAll place events' := by
  induction events with
  | nil => exact String.empty_append.symm
  | cons e rest ih => rw [List.cons_append, loggedAll, loggedAll, ih, String.append_assoc]

theorem loggedAll_singleton (s : Session) (place : Place) (e : LogEvent) :
    s.loggedAll place [e] = s.logged place e := String.append_empty

theorem loggedAll_eq_empty {events : List LogEvent} (h : ∀ e ∈ events, ¬ s.LogsTo e place) :
    s.loggedAll place events = "" := by
  induction events with
  | nil => rfl
  | cons e rest ih =>
      rw [loggedAll, logged_eq_empty (h e List.mem_cons_self),
        ih fun e he => h e (List.mem_cons_of_mem _ he), String.append_empty]

/-! ## Events -/

/-- **A session goes on as it was**, but for its files and the error stream. -/
structure Keeps (s s' : Session) : Prop where
  stdout : s'.stdout = s.stdout
  logger : s'.logger = s.logger
  time : s'.time = s.time

theorem Keeps.refl (s : Session) : Keeps s s := ⟨rfl, rfl, rfl⟩

theorem Keeps.trans {s'' : Session} (h : Keeps s s') (h' : Keeps s' s'') : Keeps s s'' :=
  ⟨h'.stdout.trans h.stdout, h'.logger.trans h.logger, h'.time.trans h.time⟩

theorem keeps_files (s : Session) (files : FileTree) : s.Keeps { s with files } := ⟨rfl, rfl, rfl⟩

theorem Keeps.logged_eq (h : Keeps s s') (place : Place) (e : LogEvent) :
    s'.logged place e = s.logged place e := by
  rw [logged, logged, h.logger, h.time]

theorem Keeps.loggedAll_eq (h : Keeps s s') (place : Place) (events : List LogEvent) :
    s'.loggedAll place events = s.loggedAll place events := by
  induction events with
  | nil => rfl
  | cons e rest ih => rw [loggedAll, loggedAll, h.logged_eq, ih]

variable [WorkingDirectory]

theorem keeps_emit (s : Session) (e : LogEvent) : Keeps s (s.emit e) := by
  rw [emit]
  split
  · exact .refl s
  · split
    · exact ⟨rfl, rfl, rfl⟩
    · exact .refl s

theorem keeps_emitAll (s : Session) (events : List LogEvent) : Keeps s (s.emitAll events) := by
  induction events generalizing s with
  | nil => exact .refl s
  | cons e rest ih => exact (keeps_emit s e).trans (ih (s.emit e))

/-- **An event** changes no file but the one it is logged to. -/
theorem changes_emit (s : Session) (e : LogEvent) : Changes (s.LogsTo e) s.files (s.emit e).files := by
  rw [emit]
  split
  next => exact .refl _
  next logger hlogger =>
    split
    next hadmits =>
      rw [logLine]
      split
      next place hplace =>
        refine (FileTree.changes_append s.files place _).mono ?_
        rintro q rfl
        exact ⟨logger, hlogger, hplace, hadmits⟩
      next => exact .refl _
    next => exact .refl _

/-- The files behind an event that is logged. -/
theorem emit_files {logger : Logger} (hlogger : s.logger = some logger) {e : LogEvent}
    (hadmits : logger.filter.admits e = true) :
    (s.emit e).files = match logger.file with
      | some place => s.files.append place (e.line logger.format s.time)
      | none => s.files := by
  rw [emit, hlogger]
  dsimp only
  rw [if_pos hadmits]
  rfl

/-- An event that is not logged leaves everything as it is. -/
theorem emit_eq_self (h : ∀ logger, s.logger = some logger → logger.filter.admits e = false) :
    s.emit e = s := by
  rw [emit]
  split
  next => rfl
  next logger hlogger =>
    rw [h logger hlogger]
    rfl

/-- **A file grows** by what is logged to it. -/
theorem get?_emit (h : s.files.get? place = some (.file text)) (e : LogEvent) :
    (s.emit e).files.get? place = some (.file (text ++ s.logged place e)) := by
  rw [logged]
  split
  next hlogger =>
    have hsame : s.emit e = s := emit_eq_self fun logger hsome => nomatch hlogger.symm.trans hsome
    rw [hsame, String.append_empty]
    exact h
  next logger hlogger =>
    split
    next hlogged =>
      rw [emit_files hlogger hlogged.2, hlogged.1]
      exact FileTree.get?_append_self h _
    next hlogged =>
      rw [String.append_empty]
      refine (changes_emit s e).file ?_ h
      rintro ⟨logger', hsome, hplace, hadmits⟩
      cases hlogger.symm.trans hsome
      exact hlogged ⟨hplace, hadmits⟩

/-! ## Starting the log -/

/-- **A log that was opened** changes the files alone, and is at the destination of its path. -/
theorem openLog_eq_ok {file : Option String} {place : Option Place}
    (h : s.openLog file = (s', .ok place)) :
    s' = { s with files := s'.files } ∧ place = file.map fun path => (FilePath.ofText path).destination := by
  cases file with
  | none =>
      cases h
      exact ⟨rfl, rfl⟩
  | some path =>
      unfold openLog at h
      dsimp only at h
      split at h
      next files place' hprepare =>
        cases h
        exact ⟨rfl, congrArg some (FileTree.eq_destination_of_openWith hprepare)⟩
      next => cases h

/-- **A log that was started** leaves the output stream alone. Its file, if it has one, is at the
    destination of the path it was given. -/
theorem startLog_eq_ok [FilterDialect] {environment : Option String} {setting : LogSetting}
    (h : s.startLog environment setting = (s', .ok ())) :
    s'.stdout = s.stdout ∧ ∃ logger, s'.logger = some logger ∧
      logger.file = setting.file.map fun path => (FilePath.ofText path).destination := by
  rw [startLog] at h
  split at h
  next => cases h
  next =>
    split at h
    next => cases h
    next level hlevel =>
      split at h
      next => cases h
      next opened place hopen =>
        cases h
        -- whatever the filter is, the first event only adds to the log file and the error stream
        obtain ⟨hopened, hplace⟩ := openLog_eq_ok hopen
        have hkept := keeps_emit { opened with logger := some ⟨setting.format,
          (environment.bind LogFilter.ofText?).getD (.ofLevel level), place⟩ } (startEvent setting)
        refine ⟨?_, _, hkept.logger, hplace⟩
        rw [hkept.stdout, hopened]

end StimulusBench.Session
