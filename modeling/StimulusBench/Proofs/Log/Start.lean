import StimulusBench.Proofs.FileTree.Writing

/-!
# `StimulusBench.Proofs.Log.Start` — the log starts once

A call that starts the log looks at three things, in this order: whether the log was started before,
whether the level has a name, and whether the file can be opened. Only a call that finds all three in
order starts the log; one that does not leaves it as it is, so that a later call can. What earlier calls
leave behind are directories at most, which may decide whether a later call can open its file.

## Contents
- **Levels.** `LogLevel.names`, the names of the levels.
- **Calls.** `Session.Ready`, and `startLog_cases`: what a call does that finds the log not started.
- **Sequences of calls.** `Session.startLogs`, and `Session.ReadyBefore`: whether the log was started before a
  call.
- **Answers.** `Session.Answers`, and `startLogs_starts_once`: which call starts the log, and what the others
  answer and leave behind.
-/

namespace StimulusBench

/-! ## Levels -/

/-- The names of the levels, in lower case. -/
def LogLevel.names : List String := ["trace", "debug", "info", "warn", "warning", "error"]

/-- **A name stands for a level** if it is one of the names in any case. -/
theorem LogLevel.ofName?_eq_none_iff {s : String} : ofName? s = none ↔ lowered s ∉ names := by
  unfold ofName?
  split
  case h_7 =>
    simp_all [names]
  all_goals
    next hname => simp [hname, names]

namespace Session

section

variable [WorkingDirectory] {s s' : Session} {setting : LogSetting} {path : String}

/-! ## Calls -/

/-- The file at a path can be opened: the files admit one there. -/
def Opens (s : Session) (path : String) : Prop := s.files.Admits (.ofText path)

/-- It is opened to be appended to. -/
theorem opens_iff : s.Opens path ↔ ∃ place, (s.files.prepare path).2 = .ok place :=
  FileTree.exists_prepare_iff.symm

/-- **A call is ready** if its level has a name and its file, if it names one, can be opened. -/
def Ready (s : Session) (setting : LogSetting) : Prop :=
  lowered setting.level ∈ LogLevel.names ∧ ∀ path ∈ setting.file, s.Opens path

/-- The log of a setting: its lines, its file, and the filter of the environment or else of the level. -/
def loggerOf [FilterDialect] (environment : Option String) (setting : LogSetting) (level : LogLevel) :
    Logger where
  format := setting.format
  filter := (environment.bind LogFilter.ofText?).getD (.ofLevel level)
  file := setting.file.map fun path => (FilePath.ofText path).destination

/-- A call behind the one that started the log changes nothing. -/
theorem startLog_started [FilterDialect] (environment : Option String) (h : s.logger ≠ none) :
    s.startLog environment setting = (s, .error .alreadyStarted) := by
  rw [startLog, if_pos (Option.isSome_iff_ne_none.mpr h)]

theorem openLog_of_opens (h : ∀ path ∈ setting.file, s.Opens path) :
    (s.openLog setting.file).2 =
      .ok (setting.file.map fun path => (FilePath.ofText path).destination) := by
  cases hfile : setting.file with
  | none => rfl
  | some path =>
      obtain ⟨place, hplace⟩ := opens_iff.mp (h path hfile)
      have hprepare : s.files.prepare path = ((s.files.prepare path).1, .ok place) := Prod.ext rfl hplace
      unfold openLog
      dsimp only
      rw [hprepare, FileTree.eq_destination_of_openWith hprepare]
      rfl

theorem openLog_of_error {cause : OsFault} (h : (s.files.prepare path).2 = .error cause) :
    s.openLog (some path) =
      ({ s with files := (s.files.prepare path).1 }, .error (.fileOpen path cause)) := by
  have hprepare : s.files.prepare path = ((s.files.prepare path).1, .error cause) := Prod.ext rfl h
  unfold openLog
  dsimp only
  rw [hprepare]

variable [FilterDialect]

/-- **What a call can do** that finds the log not started: refuse the level, fail to open the file, or
    start the log. -/
theorem startLog_cases (environment : Option String) (setting : LogSetting) (hnone : s.logger = none) :
    (lowered setting.level ∉ LogLevel.names ∧
        s.startLog environment setting = (s, .error (.unknownLevel setting.level))) ∨
      (lowered setting.level ∈ LogLevel.names ∧ ∃ path cause, setting.file = some path ∧
        (s.files.prepare path).2 = .error cause ∧
        s.startLog environment setting =
          ({ s with files := (s.files.prepare path).1 }, .error (.fileOpen path cause))) ∨
      (s.Ready setting ∧ ∃ level, LogLevel.ofName? setting.level = some level ∧
        s.startLog environment setting =
          (({ s with
              files := (s.openLog setting.file).1.files
              logger := some (loggerOf environment setting level) }).emit (startEvent setting),
            .ok ())) := by
  have hopen : ¬ s.logger.isSome = true := by
    rw [hnone]
    exact Bool.false_ne_true
  cases hlevel : LogLevel.ofName? setting.level with
  | none =>
      refine .inl ⟨LogLevel.ofName?_eq_none_iff.mp hlevel, ?_⟩
      rw [startLog, if_neg hopen, hlevel]
  | some level =>
      have hname : lowered setting.level ∈ LogLevel.names := by
        by_cases hmem : lowered setting.level ∈ LogLevel.names
        · exact hmem
        · rw [LogLevel.ofName?_eq_none_iff.mpr hmem] at hlevel
          cases hlevel
      refine .inr ?_
      by_cases hready : ∀ path ∈ setting.file, s.Opens path
      · -- the file is opened, or there is none to open
        refine .inr ⟨⟨hname, hready⟩, level, rfl, ?_⟩
        have hopened : s.openLog setting.file = ((s.openLog setting.file).1, .ok _) :=
          Prod.ext rfl (openLog_of_opens hready)
        rw [startLog, if_neg hopen, hlevel]
        dsimp only
        rw [hopened]
        dsimp only
        rw [(openLog_grows s setting.file).1]
        rfl
      · cases hfile : setting.file with
        | none =>
            refine absurd (fun path hpath => ?_) hready
            rw [hfile] at hpath
            cases hpath
        | some path =>
            cases hprepare : (s.files.prepare path).2 with
            | ok place =>
                refine absurd (fun path' hpath => ?_) hready
                cases hfile.symm.trans hpath
                exact opens_iff.mpr ⟨place, hprepare⟩
            | error cause =>
                refine .inl ⟨hname, path, cause, rfl, hprepare, ?_⟩
                rw [startLog, if_neg hopen, hlevel, hfile, openLog_of_error hprepare]

/-- **A call makes the files grow** at the path of its log, whatever it answers, and the log is at that
    path if it is started. -/
theorem startLog_grows (environment : Option String) (setting : LogSetting) (hnone : s.logger = none) :
    s.files.GrowsAt setting.file (s.startLog environment setting).1.files ∧
      (s.startLog environment setting).1.LogsAt setting.file := by
  rcases startLog_cases environment setting hnone with
    ⟨-, hstart⟩ | ⟨-, path, cause, hfile, -, hstart⟩ | ⟨-, level, -, hstart⟩
  · rw [hstart]
    exact ⟨.refl _ _, logsAt_of_none hnone⟩
  · rw [hstart, hfile]
    exact ⟨FileTree.growsAt_prepare s.files path, logsAt_of_none hnone⟩
  · rw [hstart]
    have hlogs : LogsAt setting.file { s with
        files := (s.openLog setting.file).1.files
        logger := some (loggerOf environment setting level) } := by
      intro logger hlogger
      cases hlogger
      rfl
    exact ⟨(openLog_grows s setting.file).2.trans (hlogs.growsAt_emit _), hlogs.of_keeps (keeps_emit _ _)⟩

/-! ## Sequences of calls -/

/-- Several calls that start the log, one after the other, with what each of them answers. -/
def startLogs (environment : Option String) : Session → List LogSetting →
    Session × List (Except LogFault Unit)
  | s, [] => (s, [])
  | s, setting :: rest =>
    let (s', result) := s.startLog environment setting
    let (s'', results) := startLogs environment s' rest
    (s'', result :: results)

variable {environment : Option String} {settings : List LogSetting}

theorem startLogs_cons (environment : Option String) (s : Session) (setting : LogSetting)
    (rest : List LogSetting) :
    s.startLogs environment (setting :: rest) =
      (((s.startLog environment setting).1.startLogs environment rest).1,
        (s.startLog environment setting).2 ::
          ((s.startLog environment setting).1.startLogs environment rest).2) :=
  rfl

theorem length_startLogs (environment : Option String) (s : Session) (settings : List LogSetting) :
    (s.startLogs environment settings).2.length = settings.length := by
  induction settings generalizing s with
  | nil => rfl
  | cons setting rest ih => rw [startLogs_cons, List.length_cons, List.length_cons, ih]

/-- **The answer of a call** is that of the same call on what the calls before it leave behind. -/
theorem startLogs_getElem? (environment : Option String) (s : Session) (settings : List LogSetting)
    (k : Nat) :
    (s.startLogs environment settings).2[k]? = settings[k]?.map fun setting =>
      ((s.startLogs environment (settings.take k)).1.startLog environment setting).2 := by
  induction settings generalizing s k with
  | nil => rfl
  | cons setting rest ih =>
      cases k with
      | zero => rfl
      | succ k =>
          rw [startLogs_cons, List.getElem?_cons_succ, List.getElem?_cons_succ, List.take_succ_cons, ih]
          rfl

/-- **What a call leaves behind** is what the same call makes of what the calls before it left. -/
theorem startLogs_take_succ (s : Session) {k : Nat} (h : settings[k]? = some setting) :
    (s.startLogs environment (settings.take (k + 1))).1 =
      ((s.startLogs environment (settings.take k)).1.startLog environment setting).1 := by
  induction settings generalizing s k with
  | nil => cases h
  | cons first rest ih =>
      cases k with
      | zero =>
          cases h
          rfl
      | succ k => exact ih (s.startLog environment first).1 h

/-- **A call before the given one was ready**, in what the calls before that had left behind. -/
def ReadyBefore (environment : Option String) (s : Session) (settings : List LogSetting) (k : Nat) : Prop :=
  ∃ j < k, ∃ setting, settings[j]? = some setting ∧
    (s.startLogs environment (settings.take j)).1.Ready setting

theorem readyBefore_succ {k : Nat} (h : settings[k]? = some setting) :
    s.ReadyBefore environment settings (k + 1) ↔ s.ReadyBefore environment settings k ∨
      (s.startLogs environment (settings.take k)).1.Ready setting := by
  constructor
  · rintro ⟨j, hj, earlier, hearlier, hready⟩
    rcases Nat.lt_succ_iff_lt_or_eq.mp hj with hlt | rfl
    · exact .inl ⟨j, hlt, earlier, hearlier, hready⟩
    · cases h.symm.trans hearlier
      exact .inr hready
  · rintro (⟨j, hj, hrest⟩ | hready)
    · exact ⟨j, Nat.lt_succ_of_lt hj, hrest⟩
    · exact ⟨k, Nat.lt_succ_self k, setting, h, hready⟩

/-- **The log is not started** as long as no call was ready. -/
theorem logger_eq_none_iff (hnone : s.logger = none) {k : Nat} (hk : k ≤ settings.length) :
    (s.startLogs environment (settings.take k)).1.logger = none ↔
      ¬ s.ReadyBefore environment settings k := by
  induction k with
  | zero => exact ⟨fun _ ⟨j, hj, _⟩ => Nat.not_lt_zero j hj, fun _ => hnone⟩
  | succ k ih =>
      obtain ⟨setting, hsetting⟩ : ∃ setting, settings[k]? = some setting :=
        ⟨_, List.getElem?_eq_getElem hk⟩
      have hbefore := ih (Nat.le_of_succ_le hk)
      rw [readyBefore_succ hsetting, startLogs_take_succ s hsetting, not_or, ← hbefore]
      generalize (s.startLogs environment (settings.take k)).1 = t
      cases hlogger : t.logger with
      | some logger =>
          rw [startLog_started environment (by rw [hlogger]; exact Option.some_ne_none logger), hlogger]
          exact ⟨fun h => absurd h (Option.some_ne_none logger),
            fun h => absurd h.1 (Option.some_ne_none logger)⟩
      | none =>
          rcases startLog_cases environment setting hlogger with
            ⟨hname, hstart⟩ | ⟨-, path, cause, hfile, hcause, hstart⟩ | ⟨hready, level, -, hstart⟩
          · rw [hstart]
            exact ⟨fun _ => ⟨rfl, fun hready => hname hready.1⟩, fun _ => hlogger⟩
          · rw [hstart]
            refine ⟨fun _ => ⟨rfl, fun hready => ?_⟩, fun _ => hlogger⟩
            obtain ⟨place, hplace⟩ := opens_iff.mp (hready.2 path hfile)
            cases hcause.symm.trans hplace
          · rw [hstart, (keeps_emit _ _).logger]
            exact ⟨fun h => absurd h (Option.some_ne_none _), fun h => absurd hready h.2⟩

/-! ## Answers -/

/-- **What a call answers and leaves behind**, given whether a call before it was ready. The call that
    starts the log is the first one that is ready. One before that has a fault of its own and leaves the
    log to be started: the level is refused before the files are looked at, and the file that cannot be
    opened is named. One behind it changes nothing. -/
structure Answers (environment : Option String) (early : Prop) (s : Session) (setting : LogSetting)
    (result : Except LogFault Unit) (s' : Session) : Prop where
  ok_iff : result = .ok () ↔ ¬ early ∧ s.Ready setting
  started : result = .ok () → ∃ level, LogLevel.ofName? setting.level = some level ∧
    s'.logger = some (loggerOf environment setting level)
  late : early → result = .error .alreadyStarted ∧ s' = s
  unknownLevel : ¬ early → lowered setting.level ∉ LogLevel.names →
    result = .error (.unknownLevel setting.level) ∧ s' = s ∧ s'.logger = none
  fileOpen : ¬ early → lowered setting.level ∈ LogLevel.names →
    ∀ path ∈ setting.file, ¬ s.Opens path → ∃ cause, (s.files.prepare path).2 = .error cause ∧
      result = .error (.fileOpen path cause) ∧ s'.logger = none
  grows : s.files.GrowsAt setting.file s'.files

/-- A call that finds the log started, because a call before it was ready. -/
theorem answers_started {early : Prop} (hearly : early) (hsome : s.logger ≠ none) :
    Answers environment early s setting (s.startLog environment setting).2
      (s.startLog environment setting).1 := by
  rw [startLog_started environment hsome]
  exact {
    ok_iff := ⟨(fun h => nomatch h), fun h => absurd hearly h.1⟩
    started := fun h => nomatch h
    late := fun _ => ⟨rfl, rfl⟩
    unknownLevel := fun h => absurd hearly h
    fileOpen := fun h => absurd hearly h
    grows := .refl _ _ }

/-- A call that finds the log not started, because no call before it was ready. -/
theorem answers_open {early : Prop} (hearly : ¬ early) (hnone : s.logger = none) :
    Answers environment early s setting (s.startLog environment setting).2
      (s.startLog environment setting).1 := by
  have hgrows := (startLog_grows environment setting hnone).1
  rcases startLog_cases environment setting hnone with
    ⟨hname, hstart⟩ | ⟨hname, path, cause, hfile, hcause, hstart⟩ | ⟨hready, level, hlevel, hstart⟩
  · rw [hstart] at hgrows ⊢
    exact {
      ok_iff := ⟨(fun h => nomatch h), fun h => absurd h.2.1 hname⟩
      started := fun h => nomatch h
      late := fun h => absurd h hearly
      unknownLevel := fun _ _ => ⟨rfl, rfl, hnone⟩
      fileOpen := fun _ h => absurd h hname
      grows := hgrows }
  · have hclosed : ¬ s.Opens path := by
      intro hopens
      obtain ⟨place, hplace⟩ := opens_iff.mp hopens
      cases hcause.symm.trans hplace
    rw [hstart] at hgrows ⊢
    refine {
      ok_iff := ⟨(fun h => nomatch h), fun h => absurd (h.2.2 path hfile) hclosed⟩
      started := fun h => nomatch h
      late := fun h => absurd h hearly
      unknownLevel := fun _ h => absurd hname h
      fileOpen := fun _ _ path' hpath' _ => ?_
      grows := hgrows }
    cases hfile.symm.trans hpath'
    exact ⟨cause, hcause, rfl, hnone⟩
  · rw [hstart] at hgrows ⊢
    exact {
      ok_iff := ⟨fun _ => ⟨hearly, hready⟩, fun _ => rfl⟩
      started := fun _ => ⟨level, hlevel, (keeps_emit _ _).logger⟩
      late := fun h => absurd h hearly
      unknownLevel := fun _ h => absurd hready.1 h
      fileOpen := fun _ _ path hpath h => absurd (hready.2 path hpath) h
      grows := hgrows }

/-- **The log starts once**, with the first call that is ready. Each call before that answers with a
    fault of its own and leaves the log to be started; each call behind it answers that the log was started
    and changes nothing. Whatever a call answers, no file loses anything of its text, and nothing but its
    own log file and the directories above that is made or changed. -/
theorem startLogs_starts_once (files : FileTree) (time : String) (environment : Option String)
    (settings : List LogSetting) :
    let start := Session.start files time
    let results := (start.startLogs environment settings).2
    results.length = settings.length ∧
      ∀ k setting, settings[k]? = some setting → ∃ result, results[k]? = some result ∧
        Answers environment (start.ReadyBefore environment settings k)
          (start.startLogs environment (settings.take k)).1 setting result
          (start.startLogs environment (settings.take (k + 1))).1 := by
  intro start results
  refine ⟨length_startLogs environment start settings, fun k setting hsetting => ?_⟩
  have hk : k < settings.length := (List.getElem?_eq_some_iff.mp hsetting).1
  have hresult : results[k]? =
      some ((start.startLogs environment (settings.take k)).1.startLog environment setting).2 := by
    rw [startLogs_getElem?, hsetting]
    rfl
  refine ⟨_, hresult, ?_⟩
  rw [startLogs_take_succ start hsetting]
  have hopen : (start.startLogs environment (settings.take k)).1.logger = none ↔
      ¬ start.ReadyBefore environment settings k := logger_eq_none_iff rfl (Nat.le_of_lt hk)
  by_cases hearly : start.ReadyBefore environment settings k
  · exact answers_started hearly fun hnone => hopen.mp hnone hearly
  · exact answers_open hearly (hopen.mpr hearly)

end

/-- A level without a name, a file where a directory should be, then a call that starts the log. -/
example :
    let files := FileTree.empty.set (Place.working.child "taken") (.file "")
    let results := ((Session.start files "now").startLogs none
      [⟨"loud", .pretty, some "run.log"⟩, ⟨"info", .pretty, some "taken/run.log"⟩,
        ⟨"Warning", .json, some "logs/run.log"⟩, ⟨"info", .pretty, none⟩]).2
    results.map (fun | .ok () => "started" | .error fault => fault.message) =
      ["invalid log level: loud",
        "failed to open log file taken/run.log: File exists (os error 17)", "started",
        "logging already initialized"] := by
  decide +kernel

end Session

end StimulusBench
