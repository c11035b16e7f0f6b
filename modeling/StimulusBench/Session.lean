import StimulusBench.FileTree
import StimulusBench.Log.Filter

/-!
# `StimulusBench.Session` — what one run of the program sees and leaves behind

The files, the two output streams, and the log. Logging starts at most once; from then on every
event that the filter admits becomes a line on the error stream and in the log file, if there is
one.

## Contents
- **Loggers.** `Logger`, `LogFault`.
- **Sessions.** `Session`, its output, and `Session.emit`.
- **Starting the log.** `Session.startLog`.
-/

namespace StimulusBench

/-! ## Loggers -/

/-- A log that was started. -/
structure Logger where
  format : LogFormat
  filter : LogFilter
  /-- Where the log file is, if there is one. -/
  file : Option Place
  deriving Repr, DecidableEq

/-- Why logging does not start. -/
inductive LogFault
  | alreadyStarted
  | unknownLevel (name : String)
  | fileOpen (path : String) (cause : OsFault)
  deriving Repr, DecidableEq

namespace LogFault

/-- The wording of a log that does not start. -/
def message : LogFault → String
  | .alreadyStarted => "logging already initialized"
  | .unknownLevel name => "invalid log level: " ++ name
  | .fileOpen path cause => "failed to open log file " ++ path ++ ": " ++ cause.message

/-- The wording with what lies behind it. -/
def chain (fault : LogFault) : String :=
  match fault with
  | .fileOpen _ cause => fault.message ++ ": " ++ cause.message
  | _ => fault.message

end LogFault

/-! ## Sessions -/

/-- What one run of the program sees and leaves behind. -/
structure Session where
  files : FileTree
  stdout : String
  stderr : String
  /-- The log, once it is started. -/
  logger : Option Logger
  /-- What log lines show as the time. -/
  time : String
  deriving Repr, DecidableEq

namespace Session

variable [WorkingDirectory]

/-- A session before anything happened. -/
def start (files : FileTree) (time : String) : Session := ⟨files, "", "", none, time⟩

/-- Writes to the output stream. -/
def print (s : Session) (text : String) : Session := { s with stdout := s.stdout ++ text }

/-- Writes to the error stream. -/
def complain (s : Session) (text : String) : Session := { s with stderr := s.stderr ++ text }

/-- Writes a line of the log to the error stream and to the log file. -/
def logLine (s : Session) (logger : Logger) (line : String) : Session :=
  { s with
    stderr := s.stderr ++ line
    files := match logger.file with
      | some place => s.files.append place line
      | none => s.files }

/-- Logs an event if logging has started and the filter admits it. -/
def emit (s : Session) (e : LogEvent) : Session :=
  match s.logger with
  | none => s
  | some logger =>
    if logger.filter.admits e then s.logLine logger (e.line logger.format s.time) else s

/-- Logs events one after the other. -/
def emitAll (s : Session) (events : List LogEvent) : Session := events.foldl emit s

/-! ## Starting the log -/

/-- The event of a log that starts. -/
def startEvent (setting : LogSetting) : LogEvent :=
  let file := match setting.file with
    | some path => "Some(" ++ Quoted.text path ++ ")"
    | none => "None"
  ⟨.debug, "seqvec_core::logging", "logging initialized",
    [("log_level", .text setting.level), ("log_format", .text setting.format.name),
      ("log_file", .text file)]⟩

/-- Opens the log file, if there is to be one, and tells where it is. -/
def openLog (s : Session) (file : Option String) : Session × Except LogFault (Option Place) :=
  match file with
  | none => (s, .ok none)
  | some path =>
    match s.files.prepare path with
    | (files, .ok place) => ({ s with files }, .ok (some place))
    | (files, .error cause) => ({ s with files }, .error (.fileOpen path cause))

/-- Starts the log, unless it was started before. The level is checked first, then the file is
    opened. The filter is that of the environment if there is a proper one, else that of the
    level. -/
def startLog [FilterDialect] (s : Session) (environment : Option String) (setting : LogSetting) :
    Session × Except LogFault Unit :=
  if s.logger.isSome then (s, .error .alreadyStarted)
  else match LogLevel.ofName? setting.level with
    | none => (s, .error (.unknownLevel setting.level))
    | some level =>
      match s.openLog setting.file with
      | (s, .error fault) => (s, .error fault)
      | (s, .ok place) =>
        let filter := (environment.bind LogFilter.ofText?).getD (.ofLevel level)
        let s := { s with logger := some ⟨setting.format, filter, place⟩ }
        (s.emit (startEvent setting), .ok ())

end Session

end StimulusBench
