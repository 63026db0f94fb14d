import PlanCode.CommandLine.Style
import PlanCode.Convert.Basic
import PlanCode.File.Access
import PlanCode.PlanFile
import PlanCode.Profile.Stage
import PlanCode.Settings
import PlanCode.Surface.Reader
import PlanCode.Text.Utf8
import PlanCode.Yaml.Cursor

/-!
# Failures

Everything that can keep a command or a tool from giving its result. A fault of
what the user hands in is reported, under a name and in its own words; any other
failure ends the run.

* `reportName?_of_isExpected`: what a command tells, a tool reports as well.
-/
namespace PlanCode

inductive Failure where
  | settings (e : SettingsError)
  | planFile (e : PlanFileError)
  | conversion (e : ConversionError)
  | surface (e : SurfaceError)
  | stage (e : StageError)
  | file (f : FileFault)
  | yaml (e : Yaml.Error)
  /-- The bytes of a file are no UTF-8. -/
  | notText (f : Text.Utf8Fault)
  /-- A request does not hold what it has to. -/
  | request (reason : String)
  /-- A value of a request is of a kind that has no use there. -/
  | wrongKind
  /-- A value of a request lacks what is asked of it. -/
  | lacking
  /-- A marked-up line cannot be shown. -/
  | markup (f : CommandLine.MarkupFault)
  /-- A duration leaves the range of durations. -/
  | overflow

namespace Failure

def callName? : CallError → Option String
  | .missingMethod _ => some "UnsupportedMappingException"
  | .noChildrenMethod _ | .notInSlot .. => some "InvariantViolationException"
  | .endlessAncestry _ => none

/-- The name under which a failure is reported, if it is. -/
def reportName? : Failure → Option String
  | .settings .keysNotText | .surface .wrongKind => none
  | .conversion .durationOverflow | .stage .durationOverflow => none
  | .settings _ => some "SettingsException"
  | .planFile _ => some "JMXParseException"
  | .conversion (.call e) => callName? e
  | .conversion (.rootNotConverted ..) | .surface _ => some "CodegenException"
  | .stage _ | .request _ | .yaml (.outOfRange _) | .file .badName => some "ValueError"
  | .notText _ => some "UnicodeDecodeError"
  | _ => none

/-- What happened to a file. -/
def fileMessage : FileFault → String
  | .missing => "a file is missing"
  | .isDirectory => "a directory stands where a file has to be"
  | .notADirectory => "a file stands on the way to a path"
  | .taken => "a file stands where a directory has to be"
  | .longName => "a name is too long"
  | .badName => "embedded null byte"
  | .refused => "a file cannot be used"

def message : Failure → String
  | .settings e => e.message
  | .planFile e => e.message
  | .conversion e => e.message
  | .surface e => e.message
  | .stage e => e.message
  | .file f => fileMessage f
  | .yaml (.outOfRange reason) => reason
  | .yaml .malformed => "the text is no YAML"
  | .yaml .tooLarge => "a character has too large a number"
  | .yaml .notAFlag => "a flag is no word for yes or no"
  | .yaml .emptyNumber => "a number has no digits"
  | .yaml .notATime => "a time does not look like one"
  | .yaml .timeNotText => "a mapping is no time"
  | .yaml .endless => "a mapping stands for a part of itself"
  | .notText f => f.message
  | .request reason => reason
  | .wrongKind => "wrong kind of value"
  | .lacking => "a value has no fields"
  | .markup .badMark => "the marks of a line do not match"
  | .markup .badNumeral => "a part of a colour is no number"
  | .overflow => "duration out of range"

/-- Whether a failure lies in the plan, the settings or the surface, and no more is to be done than
to say so. -/
def isExpected : Failure → Bool
  | .settings .keysNotText | .surface .wrongKind => false
  | .settings _ | .planFile _ | .surface _ => true
  | .conversion (.call (.endlessAncestry _)) | .conversion .durationOverflow => false
  | .conversion _ => true
  | _ => false

theorem reportName?_of_isExpected {f : Failure} (h : f.isExpected = true) :
    f.reportName?.isSome = true := by
  unfold isExpected at h
  split at h
  · cases h
  · cases h
  · rename_i e hk; cases e <;> simp_all [reportName?]
  · rfl
  · rename_i e hk; cases e <;> simp_all [reportName?]
  · cases h
  · cases h
  · rename_i e h1 h2
    cases e with
    | call e => cases e <;> simp_all [reportName?, callName?]
    | durationOverflow => simp_all
    | rootNotConverted => rfl
  · cases h

end Failure
end PlanCode
