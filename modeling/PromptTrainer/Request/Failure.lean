import PromptTrainer.Record.Basic
/-!
# Failed requests

A failed request answers `{"error": kind, "message": text}`.  The kind names the error's
family and case, `Family::Case`, and an error wrapped in another is named by both joined
with `/` (`ValueError::Schema/SchemaError::UnknownField`).  The text is the outermost
error's wording.  A failed validation, alone or wrapped, also lists its violations.  Some
errors carry no text.
-/

namespace PromptTrainer
namespace Request

/-- A failed request: the kind, the text (if any) and the violations of a failed
validation. -/
structure Failure where
  kind : String
  message : Option String
  violations : List Violation := []
  /-- Whether a violation list is part of the answer. -/
  listsViolations : Bool := false

/-- The outcome of decoding or answering a request. -/
abbrev Outcome := Except Failure

namespace Failure

/-- A malformed request. -/
def malformed (message : String) : Failure := ⟨"DriverError", some message, [], false⟩

/-- A computation that gave up because its input broke an assumption it checks. -/
def aborted (message : String) : Failure := ⟨"panic", some message, [], false⟩

/-- Data that does not have the shape of a library type. -/
def undecodable (message : String) : Failure := ⟨"Deserialize", some message, [], false⟩

/-- The error wrapped as the case `outer` of another family, with the outer wording. -/
def within (outer : String) (message : Option String) (inner : Failure) : Failure :=
  { inner with kind := outer ++ "/" ++ inner.kind, message := message }

/-- The members of a failure's answer. -/
def members (f : Failure) : List (String × Json) :=
  let head := [("error", Json.string f.kind)]
  let text := match f.message with
    | some m => [("message", Json.string m)]
    | none => []
  let listed :=
    if f.listsViolations then
      [("violations", Json.array (f.violations.map (fun v =>
        .object [("path", .string v.path), ("message", .string v.message)])))]
    else []
  head ++ text ++ listed

/-- The answer of a failure. -/
def toJson (f : Failure) : Json := .object f.members

end Failure

/-- The case name of a schema error. -/
def SchemaError.caseName : SchemaError → String
  | .conflict .. => "Conflict"
  | .unknownField _ => "UnknownField"
  | .duplicateField _ => "DuplicateField"
  | .invalidJsonSchema .. => "InvalidJsonSchema"
  | .invalidDefault .. => "InvalidDefault"

/-- A schema error as a failure. -/
def SchemaError.failure (e : SchemaError) : Failure :=
  ⟨"SchemaError::" ++ SchemaError.caseName e, some e.message, [], false⟩

/-- A failed validation as a failure. -/
def validationFailure (violations : List Violation) : Failure :=
  ⟨"ValidationError", some (validationMessage violations), violations, true⟩

/-- A record error as a failure. -/
def RecordError.failure : RecordError → Failure
  | .schema e => (SchemaError.failure e).within "ValueError::Schema" (some e.message)
  | .validation violations =>
    ⟨"ValueError::Validation", some (validationMessage violations), violations, true⟩
  | .format m => ⟨"ValueError::Format", some (RecordError.format m).message, [], false⟩

end Request
end PromptTrainer
