import CommandSynthesis.Json.Decoder

set_option autoImplicit false

/-!
# Verdicts

The outcome of checking one value: whether it is accepted, and what is said about it if it is not.
-/

namespace CommandSynthesis

structure Verdict where
  valid : Bool
  message : Option String
  deriving DecidableEq, Repr

namespace Verdict

def accept : Verdict := ⟨true, none⟩

def refuse (message : String) : Verdict := ⟨false, some message⟩

/-- Accepts when a condition holds, else refuses for a reason. -/
def check (condition : Bool) (message : String) : Verdict :=
  if condition then accept else refuse message

def encode (verdict : Verdict) : Json :=
  .object (("valid", .bool verdict.valid) ::
    (verdict.message.map fun message => ("message", Json.string message)).toList)

def fields : List Field :=
  [.mandatory "valid" Decoder.bool, .optional "message" (Decoder.nullable Decoder.string)]

def decode : Decoder Verdict := fun origin value => do
  let record ← Record.read "struct Verdict" fields origin value
  return {
    valid := ← record.require "valid" Decoder.bool
    message := ← record.get "message" (Decoder.nullable Decoder.string) none }

end Verdict

end CommandSynthesis
