import CommandSynthesis.Json.Decoder
import CommandSynthesis.Preferences.Basic

set_option autoImplicit false

/-!
# Preferences as JSON

Every member may be absent and has a default; members with other names are passed over.
-/

namespace CommandSynthesis

/-- A number that fits 64 bits, as JSON. -/
def encodeUInt64 (n : UInt64) : Json :=
  .number (.integer n.toNat)

/-- A number that fits 64 bits, for a type of the given name. -/
def decodeUInt64 (expected : String) : Decoder UInt64 := fun origin value =>
  (Decoder.natural expected origin value).map UInt64.ofNat

namespace Theme

def table : List (String × Theme) :=
  [("light", light), ("dark", dark), ("system", system)]

def encode (theme : Theme) : Json :=
  .string theme.name

def decode : Decoder Theme :=
  Decoder.variant table

end Theme

namespace Preferences

def encode (preferences : Preferences) : Json :=
  .object [
    ("defaultSID", .string preferences.defaultSid),
    ("defaultInstanceNumber", .string preferences.defaultInstanceNumber),
    ("favoriteUtilities", .ofStrings preferences.favorites),
    ("theme", preferences.theme.encode),
    ("commandHistoryLimit", encodeUInt64 preferences.historyLimit),
    ("showDangerWarnings", .bool preferences.showDangerWarnings),
    ("autoSaveHistory", .bool preferences.autoSaveHistory)]

def fields : List Field :=
  [.optional "defaultSID" Decoder.string,
    .optional "defaultInstanceNumber" Decoder.string,
    .optional "favoriteUtilities" (Decoder.list Decoder.string),
    .optional "theme" Theme.decode,
    .optional "commandHistoryLimit" (decodeUInt64 "usize"),
    .optional "showDangerWarnings" Decoder.bool,
    .optional "autoSaveHistory" Decoder.bool]

def decode : Decoder Preferences := fun origin value => do
  let record ← Record.read "struct UserPreferences" fields origin value
  let default : Preferences := {}
  return {
    defaultSid := ← record.get "defaultSID" Decoder.string default.defaultSid
    defaultInstanceNumber :=
      ← record.get "defaultInstanceNumber" Decoder.string default.defaultInstanceNumber
    favorites :=
      ← record.get "favoriteUtilities" (Decoder.list Decoder.string) default.favorites
    theme := ← record.get "theme" Theme.decode default.theme
    historyLimit :=
      ← record.get "commandHistoryLimit" (decodeUInt64 "usize") default.historyLimit
    showDangerWarnings :=
      ← record.get "showDangerWarnings" Decoder.bool default.showDangerWarnings
    autoSaveHistory := ← record.get "autoSaveHistory" Decoder.bool default.autoSaveHistory }

end Preferences

namespace CommonPaths

def encode (paths : CommonPaths) : Json :=
  .object [
    ("sapInstallPath", .string paths.sapInstallPath),
    ("logDirectory", .string paths.logDirectory),
    ("backupDirectory", .string paths.backupDirectory),
    ("tempDirectory", .string paths.temporaryDirectory)]

def fields : List Field :=
  [.optional "sapInstallPath" Decoder.string,
    .optional "logDirectory" Decoder.string,
    .optional "backupDirectory" Decoder.string,
    .optional "tempDirectory" Decoder.string]

def decode : Decoder CommonPaths := fun origin value => do
  let record ← Record.read "struct CommonPaths" fields origin value
  let default : CommonPaths := {}
  return {
    sapInstallPath := ← record.get "sapInstallPath" Decoder.string default.sapInstallPath
    logDirectory := ← record.get "logDirectory" Decoder.string default.logDirectory
    backupDirectory := ← record.get "backupDirectory" Decoder.string default.backupDirectory
    temporaryDirectory :=
      ← record.get "tempDirectory" Decoder.string default.temporaryDirectory }

end CommonPaths

namespace NetworkSettings

def encode (settings : NetworkSettings) : Json :=
  .object [
    ("defaultTestHost", .string settings.defaultTestHost),
    ("timeoutSeconds", encodeUInt64 settings.timeoutSeconds)]

/-- The fields of the settings of the network. -/
def fields : List Field :=
  [.optional "defaultTestHost" Decoder.string,
    .optional "timeoutSeconds" (decodeUInt64 "u64")]

def decode : Decoder NetworkSettings := fun origin value => do
  let record ← Record.read "struct NetworkSettings" fields origin value
  let default : NetworkSettings := {}
  return {
    defaultTestHost := ← record.get "defaultTestHost" Decoder.string default.defaultTestHost
    timeoutSeconds :=
      ← record.get "timeoutSeconds" (decodeUInt64 "u64") default.timeoutSeconds }

end NetworkSettings

namespace SecuritySettings

def encode (settings : SecuritySettings) : Json :=
  .object [
    ("allowDangerousCommands", .bool settings.allowDangerousCommands),
    ("requireConfirmation", .bool settings.requireConfirmation)]

def fields : List Field :=
  [.optional "allowDangerousCommands" Decoder.bool,
    .optional "requireConfirmation" Decoder.bool]

def decode : Decoder SecuritySettings := fun origin value => do
  let record ← Record.read "struct SecuritySettings" fields origin value
  let default : SecuritySettings := {}
  return {
    allowDangerousCommands :=
      ← record.get "allowDangerousCommands" Decoder.bool default.allowDangerousCommands
    requireConfirmation :=
      ← record.get "requireConfirmation" Decoder.bool default.requireConfirmation }

end SecuritySettings

namespace SystemConfig

def encode (config : SystemConfig) : Json :=
  .object [
    ("commonPaths", config.commonPaths.encode),
    ("networkSettings", config.networkSettings.encode),
    ("securitySettings", config.securitySettings.encode)]

/-- The fields of the layout of the system. -/
def fields : List Field :=
  [.optional "commonPaths" CommonPaths.decode,
    .optional "networkSettings" NetworkSettings.decode,
    .optional "securitySettings" SecuritySettings.decode]

def decode : Decoder SystemConfig := fun origin value => do
  let record ← Record.read "struct SystemConfig" fields origin value
  let default : SystemConfig := {}
  return {
    commonPaths := ← record.get "commonPaths" CommonPaths.decode default.commonPaths
    networkSettings :=
      ← record.get "networkSettings" NetworkSettings.decode default.networkSettings
    securitySettings :=
      ← record.get "securitySettings" SecuritySettings.decode default.securitySettings }

end SystemConfig

end CommandSynthesis
