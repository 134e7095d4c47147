import CommandSynthesis.Json.Tagged
import CommandSynthesis.Validator.Basic

set_option autoImplicit false

/-!
# Validators as JSON

A rule is an object whose member `kind` names it. A custom rule cannot be written.
-/

namespace CommandSynthesis

/-- Why a value has no JSON form. -/
inductive EncodeError where
  | customValidator
  deriving DecidableEq, Repr

namespace EncodeError

def message : EncodeError → String
  | customValidator => "the enum variant Validator::Custom cannot be serialized"

end EncodeError

namespace Validator

def taggedObject (kind : String) (members : List (String × Json)) : Json :=
  .object (("kind", .string kind) :: members)

def encode : Validator → Except EncodeError Json
  | path => .ok (taggedObject "path" [])
  | pattern => .ok (taggedObject "pattern" [])
  | numberRange low high =>
    .ok (taggedObject "number_range"
      [("min", .number (.integer low.toInt)), ("max", .number (.integer high.toInt))])
  | identifier => .ok (taggedObject "identifier" [])
  | keyword => .ok (taggedObject "keyword" [])
  | notBlank message => .ok (taggedObject "not_blank" [("message", .string message)])
  | regex expression message =>
    .ok (taggedObject "regex" [("pattern", .string expression), ("message", .string message)])
  | custom _ _ => .error .customValidator

/-- The kinds of rules that can be written. -/
def kinds : List String :=
  ["path", "pattern", "number_range", "identifier", "keyword", "not_blank", "regex"]

def int64 : Decoder Int64 := fun origin value =>
  (Decoder.signed origin value).map Int64.ofInt

/-- Decodes the contents of a rule without parameters. -/
def bare (validator : Validator) : Outline → Except Misfit Validator
  | .array (_ :: rest) _ => .error (Record.tooLong .aside 0 (rest.length + 1))
  | _ => .ok validator

/-- Decodes the contents of a rule of a kind. -/
def decodeContents (kind : String) (contents : Outline) : Except Misfit Validator :=
  if kind = "path" then bare path contents
  else if kind = "pattern" then bare pattern contents
  else if kind = "number_range" then do
    let record ← Record.read "struct variant Validator::NumberRange"
      [.mandatory "min" int64, .mandatory "max" int64] .aside contents
    return numberRange (← record.require "min" int64) (← record.require "max" int64)
  else if kind = "identifier" then bare identifier contents
  else if kind = "keyword" then bare keyword contents
  else if kind = "not_blank" then do
    let record ← Record.read "struct variant Validator::NotBlank"
      [.mandatory "message" Decoder.string] .aside contents
    return notBlank (← record.require "message" Decoder.string)
  else do
    let record ← Record.read "struct variant Validator::Regex"
      [.mandatory "pattern" Decoder.string, .mandatory "message" Decoder.string] .aside contents
    return regex (← record.require "pattern" Decoder.string)
      (← record.require "message" Decoder.string)

def decode : Decoder Validator :=
  Decoder.tagged "internally tagged enum Validator" "kind" kinds decodeContents

end Validator

end CommandSynthesis
