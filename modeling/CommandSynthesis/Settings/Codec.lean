import CommandSynthesis.Json.Decoder
import CommandSynthesis.Settings.Basic

set_option autoImplicit false

/-!
# Settings as JSON
-/

namespace CommandSynthesis.Settings

def Storage.encode (storage : Storage) : Json :=
  .object [("data_dir", .string storage.dataDirectory)]

def Log.encode (log : Log) : Json :=
  .object [("level", .string log.level)]

def Engine.encode (engine : Engine) : Json :=
  .object [
    ("strict", .bool engine.strict),
    ("history_capacity", (engine.historyCapacity.map Json.ofNat).getD .null)]

def encode (settings : Settings) : Json :=
  .object [
    ("store", settings.store.encode),
    ("log", settings.log.encode),
    ("engine", settings.engine.encode)]

def Storage.decode (environment : Environment) : Decoder Storage := fun origin value => do
  let record ← Record.read "struct StoreConfig" [.optional "data_dir" Decoder.path] origin value
  return ⟨← record.get "data_dir" Decoder.path environment.dataDirectory⟩

def Log.decode : Decoder Log := fun origin value => do
  let record ← Record.read "struct LogConfig" [.optional "level" Decoder.string] origin value
  let default : Log := {}
  return ⟨← record.get "level" Decoder.string default.level⟩

def Engine.decode : Decoder Engine := fun origin value => do
  let capacity := Decoder.nullable (Decoder.natural "usize")
  let record ← Record.read "struct EngineConfig"
    [.optional "strict" Decoder.bool, .optional "history_capacity" capacity] origin value
  let default : Engine := {}
  return {
    strict := ← record.get "strict" Decoder.bool default.strict
    historyCapacity := ← record.get "history_capacity" capacity default.historyCapacity }

def decode (environment : Environment) : Decoder Settings := fun origin value => do
  let storage := Storage.decode environment
  let record ← Record.read "struct Settings"
    [.optional "store" storage, .optional "log" Log.decode, .optional "engine" Engine.decode]
    origin value
  let default := Settings.default environment
  return {
    store := ← record.get "store" storage default.store
    log := ← record.get "log" Log.decode default.log
    engine := ← record.get "engine" Engine.decode default.engine }

end CommandSynthesis.Settings
