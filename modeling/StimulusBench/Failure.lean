import StimulusBench.Config
import StimulusBench.Yaml.Reading

/-!
# `StimulusBench.Failure` — failures and what to do about them

What can go wrong outside the recognizer itself, in words, and with advice on how to mend it.

## Contents
- **Advice.** `Remediation` and its text.
- **Failures.** `Failure`, its message, its advice, whether a text's form is to blame, and the
  report.
-/

namespace StimulusBench

/-! ## Advice -/

/-- A command that helps, and what it is for. -/
structure RemediationCommand where
  label : String
  command : String
  deriving Repr, DecidableEq

/-- Advice on how to mend a failure. -/
structure Remediation where
  summary : String
  commands : List RemediationCommand
  alternatives : List String
  deriving Repr, DecidableEq

namespace Remediation

/-- Advice without commands and alternatives. -/
def ofSummary (summary : String) : Remediation := ⟨summary, [], []⟩

/-- One more command. -/
def withCommand (r : Remediation) (label command : String) : Remediation :=
  { r with commands := r.commands ++ [⟨label, command⟩] }

/-- One more alternative. -/
def withAlternative (r : Remediation) (alternative : String) : Remediation :=
  { r with alternatives := r.alternatives ++ [alternative] }

/-- A heading over lines, left out if there are none. -/
def block (heading : String) (lines : List String) : List String :=
  if lines.isEmpty then [] else ("  " ++ heading) :: lines.map ("    - " ++ ·)

/-- The advice in lines. -/
def lines (r : Remediation) : List String :=
  ["To fix:", "  " ++ r.summary]
    ++ block "Commands:" (r.commands.map fun c => c.label ++ ": " ++ c.command)
    ++ block "Alternatives:" r.alternatives

/-- The advice as text. -/
def text (r : Remediation) : String := String.join (r.lines.map (· ++ "\n"))

end Remediation

/-! ## Failures -/

/-- The advice on a refused configuration. -/
def ConfigFault.remediation : ConfigFault → Remediation
  | .unreadable path _ =>
    ((Remediation.ofSummary
        ("Check that the config file exists and is readable: " ++ path)).withCommand
        "Inspect" ("ls -la \"" ++ path ++ "\"")).withAlternative
      "Omit --config to run with built-in defaults."
  | .form .. => unparsable
  | .mistyped .. => unparsable
  | .invalid _ =>
    (Remediation.ofSummary "Correct the offending config value and retry.").withAlternative
      "Remove the key to fall back to its default."
  | .collision c =>
    (Remediation.ofSummary
        ("Pick a sentinel value that does not appear in the correct sequence (current: "
          ++ Numeral.decimalText c.value.toNat ++ ").")).withAlternative
      "The default sentinel 255 is safe for the default correct sequence."
where
  /-- The advice on a text that cannot be understood. -/
  unparsable : Remediation :=
    (Remediation.ofSummary "Fix the TOML syntax in the config file.").withAlternative
      "Compare against the documented [sequence]/[generation]/[output] tables."

/-- Why stimulus is refused. -/
inductive StimulusFault
  /-- The text is no stimulus document. -/
  | document (fault : Yaml.ReadFault)
  /-- Any other reason, in words. -/
  | other (reason : String)
  deriving Repr

/-- The wording of refused stimulus. -/
def StimulusFault.message : StimulusFault → String
  | .document fault => "not a corpus or `arr:` stimulus document: " ++ fault.message
  | .other reason => reason

/-- What can go wrong. -/
inductive Failure
  | config (fault : ConfigFault)
  | stimulus (fault : StimulusFault)
  /-- The operating system refused to read or write. -/
  | io (cause : OsFault)
  | yaml (fault : Yaml.ReadFault)
  /-- A JSON value or text is refused, for a reason in words. -/
  | json (reason : String)

namespace Failure

/-- The wording of a failure. -/
def message : Failure → String
  | .config fault => "Config error: " ++ fault.message
  | .stimulus fault => "Stimulus error: " ++ fault.message
  | .io cause => "I/O error: " ++ cause.message
  | .yaml fault => "YAML error: " ++ fault.message
  | .json reason => "JSON error: " ++ reason

/-- The advice on a failure, if there is any. -/
def remediation? : Failure → Option Remediation
  | .config fault => some fault.remediation
  | .stimulus _ =>
    some (((Remediation.ofSummary
        "Every record must be [channel, value, start] or [channel, value, start, [unlock, warning]] with 0/1 flags.").withCommand
        "Regenerate corpus" "seqvec generate --output output.yaml").withAlternative
      "Use the legacy `arr:` mapping if the file was written by hand.")
  | .io _ =>
    some ((Remediation.ofSummary "Check filesystem permissions and paths, then retry.").withAlternative
      "Verify the output directory exists and is writable.")
  | .yaml _ =>
    some (((Remediation.ofSummary "Validate the YAML document and retry.").withCommand
        "Regenerate corpus" "seqvec generate").withAlternative
      "Check indentation and that every record is a flat list.")
  | .json _ => none

/-- Whether the form of a text is to blame, not what it says. -/
def isForm : Failure → Bool
  | .config fault => fault.isForm
  | .stimulus (.document fault) => fault.isForm
  | .yaml fault => fault.isForm
  | _ => false

/-- The failure with its advice. -/
def report (failure : Failure) : String :=
  "Error: " ++ failure.message ++ "\n"
    ++ match failure.remediation? with
      | some r => "\n" ++ r.text
      | none => ""

end Failure

end StimulusBench
