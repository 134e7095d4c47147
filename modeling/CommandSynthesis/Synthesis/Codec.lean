import CommandSynthesis.Json.Decoder
import CommandSynthesis.Synthesis.Basic
import CommandSynthesis.Time.Printer
import CommandSynthesis.Time.Reader

set_option autoImplicit false

/-!
# Synthesized commands as JSON

Every member may be absent: a command without text is empty, valid only if that is said, and made at
the start of 1970. The instant at which a command was made is a string in the form of RFC 3339.
-/

namespace CommandSynthesis

namespace Instant

def encode (instant : Instant) : Json :=
  .string instant.print

def decode : Decoder Instant
  | _, .string (some text) =>
    (read text).mapError fun error => .mismatch (.other error.message)
  | _, found => .error (found.refuse "an RFC 3339 formatted date and time string")

end Instant

namespace Synthesis

def encode (synthesis : Synthesis) : Json :=
  .object [
    ("command_text", .string synthesis.command),
    ("valid", .bool synthesis.valid),
    ("errors", .ofStrings synthesis.errors),
    ("created_at", synthesis.createdAt.encode),
    ("template_id", .string synthesis.templateId)]

def fields : List Field :=
  [.optional "command_text" Decoder.string,
    .optional "valid" Decoder.bool,
    .optional "errors" (Decoder.list Decoder.string),
    .optional "created_at" Instant.decode,
    .optional "template_id" Decoder.string]

def decode : Decoder Synthesis := fun origin value => do
  let record ← Record.read "struct SynthesisResult" fields origin value
  return {
    command := ← record.get "command_text" Decoder.string ""
    valid := ← record.get "valid" Decoder.bool false
    errors := ← record.get "errors" (Decoder.list Decoder.string) []
    createdAt := ← record.get "created_at" Instant.decode .epoch
    templateId := ← record.get "template_id" Decoder.string "" }

end Synthesis

end CommandSynthesis
