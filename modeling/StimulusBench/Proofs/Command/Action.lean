import StimulusBench.Command.Run
import StimulusBench.Proofs.Session

/-!
# `StimulusBench.Proofs.Command.Action` — the steps of a run that succeeds

A run is a chain of steps that pass a session along and end at the first fault. `Action.Ends` says that a
step succeeds and what it leaves behind; the equations here take a chain apart and say what each kind of
step does to the session.

## Contents
- **Chains.** `Action.Ends`, and what it means of a chain.
- **Steps.** Loading the configuration, starting the log, drawing, writing.
-/

namespace StimulusBench.Command.Action

/-- **A step that succeeds** with a value, taking one session to another. -/
def Ends {α : Type} (x : Action α) (s : Session) (a : α) (s' : Session) : Prop :=
  x.run s = (.ok a, s')

variable {α β : Type} {s s' : Session}

/-! ## Chains -/

theorem ends_pure_iff {a b : α} : Ends (pure a : Action α) s b s' ↔ b = a ∧ s' = s := by
  constructor
  · intro h
    cases h
    exact ⟨rfl, rfl⟩
  · rintro ⟨rfl, rfl⟩
    rfl

theorem run_bind (x : Action α) (f : α → Action β) (s : Session) :
    (x >>= f).run s = match x.run s with
      | (.ok a, s₁) => (f a).run s₁
      | (.error fault, s₁) => (.error fault, s₁) := by
  unfold ExceptT.run
  simp only [bind, ExceptT.bind, ExceptT.mk, StateT.bind]
  cases x s with
  | mk result s₁ => cases result <;> rfl

/-- **A chain of two steps** succeeds exactly if both do. -/
theorem ends_bind_iff {x : Action α} {f : α → Action β} {b : β} :
    Ends (x >>= f) s b s' ↔ ∃ a s₁, Ends x s a s₁ ∧ Ends (f a) s₁ b s' := by
  rw [Ends, run_bind]
  constructor
  · intro h
    split at h
    next a s₁ hx => exact ⟨a, s₁, hx, h⟩
    next => cases h
  · rintro ⟨a, s₁, hx, h⟩
    rw [hx]
    exact h

theorem ends_forM_cons_iff {f : α → Action Unit} {a : α} {rest : List α} {u : Unit} :
    Ends ((a :: rest).forM f) s u s' ↔ ∃ s₁, Ends (f a) s () s₁ ∧ Ends (rest.forM f) s₁ u s' := by
  show Ends (f a >>= fun _ => rest.forM f) s u s' ↔ _
  rw [ends_bind_iff]
  exact ⟨fun ⟨_, s₁, h⟩ => ⟨s₁, h⟩, fun ⟨s₁, h⟩ => ⟨(), s₁, h⟩⟩

theorem run_change (f : Session → Session) (s : Session) : (change f).run s = (.ok (), f s) := rfl

/-- A change of the session is that change. -/
theorem ends_change_iff {f : Session → Session} {u : Unit} : Ends (change f) s u s' ↔ s' = f s := by
  constructor
  · intro h
    cases h
    rfl
  · rintro rfl
    rfl

theorem ends_require_iff {x : Except Failure α} {a : α} :
    Ends (require x) s a s' ↔ x = .ok a ∧ s' = s := by
  cases x with
  | ok b =>
      rw [require, ends_pure_iff, Except.ok.injEq, eq_comm]
  | error failure =>
      constructor
      · intro h
        cases h
      · rintro ⟨h, -⟩
        cases h

/-! ## Steps -/

theorem run_get (s : Session) : (get : Action Session).run s = (.ok s, s) := rfl

theorem ends_references_iff {config : Config} {refs : References} :
    Ends (references config) s refs s' ↔ config.references = .ok refs ∧ s' = s := by
  rw [references, ends_require_iff, mapError_eq_ok_iff]

variable [WorkingDirectory]

/-- The configuration of a run: that of a file, or the default one. -/
def configuration (files : FileTree) : Option String → Except ConfigFault Config
  | none => .ok .default
  | some path => Config.load files path

theorem run_loadConfig (path : Option String) (s : Session) :
    (loadConfig path).run s =
      ((configuration s.files path).mapError fun fault => .failed none (.config fault), s) := by
  cases path with
  | none => rfl
  | some path =>
      rw [loadConfig, run_bind, run_get, configuration]
      dsimp only
      cases Config.load s.files path <;> rfl

/-- Reading the configuration leaves the session as it is. -/
theorem eq_of_ends_loadConfig {path : Option String} {config : Config}
    (h : Ends (loadConfig path) s config s') : s' = s := by
  rw [Ends, run_loadConfig] at h
  exact (congrArg Prod.snd h).symm

theorem run_startLog [FilterDialect] (surroundings : Surroundings) (setting : LogSetting) (s : Session) :
    (startLog surroundings setting).run s =
      ((s.startLog surroundings.logFilter setting).2.mapError .logging,
        (s.startLog surroundings.logFilter setting).1) := by
  rw [startLog, run_bind, run_get]
  dsimp only
  cases s.startLog surroundings.logFilter setting with
  | mk s₁ result => cases result <;> rfl

theorem ends_startLog_iff [FilterDialect] {surroundings : Surroundings} {setting : LogSetting} {u : Unit} :
    Ends (startLog surroundings setting) s u s' ↔
      s.startLog surroundings.logFilter setting = (s', .ok ()) := by
  rw [Ends, run_startLog, Prod.mk.injEq, mapError_eq_ok_iff, Prod.ext_iff, and_comm]

/-- The key stream of a run: that of a seed, or else that of the fresh key. -/
def streamOf (surroundings : Surroundings) (seed : Option UInt64) : KeyStream :=
  (seed.map .ofSeed).getD (.ofKey surroundings.freshKey)

/-- That a seed is given is logged, which reaches no output stream. -/
theorem run_keyStream (surroundings : Surroundings) (seed : Option UInt64) (s : Session) :
    ∃ s', (keyStream surroundings seed).run s = (.ok (streamOf surroundings seed), s') ∧ s.Keeps s' := by
  cases seed with
  | none => exact ⟨s, rfl, .refl s⟩
  | some seed => exact ⟨_, rfl, Session.keeps_emit s _⟩

theorem keeps_of_ends_keyStream {surroundings : Surroundings} {seed : Option UInt64} {stream : KeyStream}
    (h : Ends (keyStream surroundings seed) s stream s') : s.Keeps s' := by
  obtain ⟨s₁, hrun, hkept⟩ := run_keyStream surroundings seed s
  cases hrun.symm.trans h
  exact hkept

theorem run_persist (corpus : Corpus) (sink : Sink) (s : Session) :
    (persist corpus sink).run s =
      match sink.persist corpus s.files with
      | (files, .ok ()) => (.ok (), { s with files }.emit (sink.event corpus))
      | (files, .error cause) => (.error (.failed none (.io cause)), { s with files }) := by
  rw [persist, run_bind, run_get]
  dsimp only
  cases sink.persist corpus s.files with
  | mk files result => cases result <;> rfl

/-- **A sink that succeeds** writes its file and logs that it did. -/
theorem ends_persist_iff {corpus : Corpus} {sink : Sink} {u : Unit} :
    Ends (persist corpus sink) s u s' ↔
      ∃ files, sink.persist corpus s.files = (files, .ok ()) ∧
        s' = { s with files }.emit (sink.event corpus) := by
  rw [Ends, run_persist]
  cases sink.persist corpus s.files with
  | mk files result =>
      cases result with
      | ok _ =>
          constructor
          · intro h
            cases h
            exact ⟨files, rfl, rfl⟩
          · rintro ⟨_, h, rfl⟩
            cases h
            rfl
      | error cause =>
          constructor
          · intro h
            cases h
          · rintro ⟨_, h, -⟩
            cases h

end StimulusBench.Command.Action
