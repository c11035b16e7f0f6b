import StimulusBench.Proofs.Command.Artifacts

/-!
# `StimulusBench.Proofs.Command.Configured` — a configuration that was accepted is never to blame

Whatever can be wrong with a configuration is found when it is read. The one check that the tasks make
again is whether the accepted sequence and the sentinel are a reference pair, and settings that were
accepted pass it. So no step behind the reading ends in a fault of the configuration.

## Contents
- **Steps.** `Action.Raises`, the faults that a step can end in, and its closure under chains.
- **Tasks.** `raises_perform`: none of them blames settings that can be used.
- **Texts.** `Config.ofToml_usable_or_firstFault`.
-/

namespace StimulusBench

namespace Command

/-- **A fault of the configuration**, whatever is said about what was being done. -/
def RunFault.IsConfig (fault : RunFault) : Prop := ∃ context cause, fault = .failed context (.config cause)

namespace Action

variable {α β : Type} {allowed : RunFault → Prop}

/-! ## Steps -/

/-- **A step that raises certain faults only**, whatever the session is. -/
def Raises (allowed : RunFault → Prop) (x : Action α) : Prop :=
  ∀ s fault, (x.run s).1 = .error fault → allowed fault

/-- A step that always succeeds. -/
theorem raises_of_run {x : Action α} (h : ∀ s, ∃ a, (x.run s).1 = .ok a) : Raises allowed x := by
  intro s fault hfault
  obtain ⟨a, ha⟩ := h s
  cases ha.symm.trans hfault

theorem raises_pure (a : α) : Raises allowed (pure a) := raises_of_run fun _ => ⟨a, rfl⟩

theorem raises_change (f : Session → Session) : Raises allowed (change f) := raises_of_run fun _ => ⟨(), rfl⟩

theorem raises_get : Raises allowed (get : Action Session) := raises_of_run fun s => ⟨s, rfl⟩

theorem raises_throw {fault : RunFault} (h : allowed fault) : Raises allowed (throw fault : Action α) := by
  rintro s _ ⟨⟩
  exact h

/-- **A chain of two steps** raises what the two raise. -/
theorem Raises.bind {x : Action α} {f : α → Action β} (hx : Raises allowed x)
    (hf : ∀ a, Raises allowed (f a)) : Raises allowed (x >>= f) := by
  intro s fault hfault
  rw [run_bind] at hfault
  split at hfault
  next a s₁ hrun => exact hf a s₁ fault hfault
  next hrun =>
    cases hfault
    exact hx s _ (congrArg Prod.fst hrun)

theorem Raises.forM {f : α → Action Unit} (hf : ∀ a, Raises allowed (f a)) (items : List α) :
    Raises allowed (items.forM f) := by
  induction items with
  | nil => exact raises_pure ()
  | cons a rest ih => exact (hf a).bind fun _ => ih

theorem raises_require {x : Except Failure α}
    (h : ∀ failure, x = .error failure → allowed (.failed none failure)) : Raises allowed (require x) := by
  cases x with
  | ok a => exact raises_pure a
  | error failure => exact raises_throw (h failure rfl)

variable [WorkingDirectory]

theorem raises_keyStream (surroundings : Surroundings) (seed : Option UInt64) :
    Raises allowed (keyStream surroundings seed) := by
  cases seed with
  | none => exact raises_pure _
  | some seed => exact (raises_change _).bind fun _ => raises_pure _

/-! ## Tasks -/

/-- The faults that are none of the configuration. -/
def Spotless (fault : RunFault) : Prop := ¬ fault.IsConfig

omit [WorkingDirectory] in
theorem spotless_failed {context : Option String} {failure : Failure} (h : ∀ cause, failure ≠ .config cause) :
    Spotless (.failed context failure) := by
  rintro ⟨_, cause, ⟨⟩⟩
  exact h cause rfl

theorem raises_readDocument (path : String) : Raises Spotless (readDocument path) := by
  refine raises_get.bind fun s => ?_
  split
  next => exact raises_throw (spotless_failed fun _ => nofun)
  next text _ =>
    refine raises_require fun failure hfailure => spotless_failed ?_
    cases hdocument : Document.ofYaml text with
    | ok document =>
        rw [hdocument] at hfailure
        cases hfailure
    | error fault =>
        rw [hdocument] at hfailure
        cases hfailure
        exact fun _ => nofun

theorem raises_persist (corpus : Corpus) (sink : Sink) : Raises Spotless (persist corpus sink) := by
  refine raises_get.bind fun s => ?_
  dsimp only
  refine (raises_change _).bind fun _ => ?_
  split
  · exact raises_change _
  · exact raises_throw (spotless_failed fun _ => nofun)

theorem raises_printMutants (refs : References) (encoded : Bool) (count : Nat) (stream : KeyStream) :
    Raises Spotless (printMutants refs encoded count stream) := by
  induction count generalizing stream with
  | zero => exact raises_pure ()
  | succ count ih => exact (raises_change _).bind fun _ => ih _

/-- **Settings with a reference pair** are not to blame for any task. -/
theorem raises_perform (surroundings : Surroundings) {config : Config} {refs : References}
    (hrefs : config.references = .ok refs) (task : Task) :
    Raises Spotless (perform surroundings config task) := by
  -- the one step that can blame the configuration, and does not
  have hpair : Raises Spotless (references config) := by
    refine raises_require fun failure hfailure => ?_
    rw [hrefs] at hfailure
    cases hfailure
  cases task with
  | generate output seed testbench quiet =>
      refine hpair.bind fun refs => (raises_keyStream _ _).bind fun stream => ?_
      refine (raises_change _).bind fun _ => ?_
      have hwritten : ∀ (corpus : Corpus) (sinks : List Sink) (e : LogEvent), Raises Spotless (do
          sinks.forM (persist corpus)
          change (·.emit e)
          return ExitStatus.success) := fun corpus sinks e =>
        (Raises.forM (raises_persist _) sinks).bind fun _ => (raises_change _).bind fun _ => raises_pure _
      dsimp only
      split
      · exact (raises_change _).bind fun _ => hwritten _ _ _
      · exact hwritten _ _ _
  | testbench input output bench =>
      refine (raises_readDocument input).bind fun document => ?_
      dsimp only
      split
      · exact (raises_persist _ _).bind fun _ => raises_pure _
      · exact (raises_change _).bind fun _ => raises_pure _
  | check input format strict =>
      refine hpair.bind fun refs => (raises_readDocument input).bind fun document => ?_
      refine (raises_change _).bind fun _ => (raises_change _).bind fun _ => ?_
      split
      · exact (raises_change _).bind fun _ => raises_pure _
      · exact raises_pure _
  | mutate count seed encoded =>
      refine hpair.bind fun refs => (raises_keyStream _ _).bind fun stream => ?_
      exact (raises_printMutants refs encoded count stream).bind fun _ => raises_pure _

/-- **A run whose configuration was read** does not end in a fault of the configuration. -/
theorem raises_invoke [FilterDialect] {surroundings : Surroundings} {invocation : Invocation}
    {s : Session} {config : Config} {fault : RunFault}
    (hconfig : configuration s.files invocation.config = .ok config)
    (hfault : ((invoke surroundings invocation).run s).1 = .error fault) : Spotless fault := by
  cases hstart : (s.startLog surroundings.logFilter (logSetting invocation config)).2 with
  | error cause =>
      rw [run_invoke_of_log_error s hconfig hstart] at hfault
      cases hfault
      rintro ⟨_, _, ⟨⟩⟩
  | ok u =>
      obtain ⟨refs, hrefs⟩ := exists_references_of_configuration hconfig
      rw [run_invoke_of_started s hconfig hstart] at hfault
      exact raises_perform surroundings hrefs invocation.task _ fault hfault

end Action

end Command

open Command Command.Action

/-! ## Texts -/

/-- **A configuration text that is accepted gives settings that can be used**: every key has the setting
    that the text gives it, or its documented one, and no task that is done with them, and no run that
    reads the text from a file, ends in a fault of the configuration. A text of the right form and types
    gives settings in the same way, and is accepted unless these have a fault; the first one is reported. -/
theorem Config.ofToml_usable_or_firstFault [WorkingDirectory] [FilterDialect] (text : String) :
    (∀ c, Config.ofToml text = .ok c →
      c.Usable ∧
      (∃ entries, Toml.Entries.ofText text = .ok entries ∧ Config.Follows entries c) ∧
      (∀ surroundings task s fault,
        ((perform surroundings c task).run s).1 = .error fault → ¬ fault.IsConfig) ∧
      ∀ surroundings invocation path s fault, invocation.config = some path → s.files.read path = .ok text →
        ((invoke surroundings invocation).run s).1 = .error fault → ¬ fault.IsConfig) ∧
    ∀ entries found, Toml.Entries.ofText text = .ok entries → Config.ofEntries entries = .ok found →
      Config.Follows entries found ∧
      (Config.ofToml text = .ok found ↔ ∀ fault, ¬ Config.FirstFault found fault) ∧
      ∀ fault, Config.ofToml text = .error fault ↔ Config.FirstFault found fault := by
  refine ⟨fun c hc => ?_, fun entries found hentries hfound => ?_⟩
  · obtain ⟨entries, hentries, hfound, hvalidated⟩ := Config.ofToml_eq_ok_iff.mp hc
    have husable := Config.usable_of_validated hvalidated
    obtain ⟨refs, hrefs, -⟩ := husable.pair
    refine ⟨husable, ⟨entries, hentries, Config.follows_of_ofEntries hfound⟩,
      fun surroundings task s fault => raises_perform surroundings hrefs task s fault, ?_⟩
    intro surroundings invocation path s fault hpath hread
    have hconfig : configuration s.files invocation.config = .ok c := by
      rw [hpath]
      exact bind_eq_ok_iff.mpr ⟨text, mapError_eq_ok_iff.mpr hread, hc⟩
    exact raises_invoke hconfig
  · rw [Config.ofToml_eq_validated hentries hfound]
    exact ⟨Config.follows_of_ofEntries hfound, Config.validated_eq_ok_iff,
      fun fault => Config.validated_eq_error_iff⟩

end StimulusBench
