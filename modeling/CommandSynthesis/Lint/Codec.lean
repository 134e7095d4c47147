import CommandSynthesis.Json.Decoder
import CommandSynthesis.Lint.Basic

set_option autoImplicit false

/-!
# Lint issues as JSON
-/

namespace CommandSynthesis

namespace Severity

def table : List (String × Severity) :=
  [("error", error), ("warning", warning)]

def encode (severity : Severity) : Json :=
  .string severity.name

def decode : Decoder Severity :=
  Decoder.variant table

end Severity

namespace LintIssue

def encode (issue : LintIssue) : Json :=
  .object [
    ("template_id", .string issue.templateId),
    ("severity", issue.severity.encode),
    ("message", .string issue.message)]

def fields : List Field :=
  [.mandatory "template_id" Decoder.string,
    .mandatory "severity" Severity.decode,
    .mandatory "message" Decoder.string]

def decode : Decoder LintIssue := fun origin value => do
  let record ← Record.read "struct LintIssue" fields origin value
  return {
    templateId := ← record.require "template_id" Decoder.string
    severity := ← record.require "severity" Severity.decode
    message := ← record.require "message" Decoder.string }

end LintIssue

end CommandSynthesis
