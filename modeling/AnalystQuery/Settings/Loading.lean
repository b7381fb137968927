import AnalystQuery.Settings.Basic
import AnalystQuery.Toml.Document

/-! Where settings come from: a TOML text, a file, or the first file that exists among the usual
places. Settings that are wrong are never handed on. -/

namespace AnalystQuery.Settings

open Json (Raw)

private def cutGroup (group : Option String) (raw : Raw) : Raw :=
  match group.bind (fun name => groupNames.lookup name), raw with
  | some names, .array items => .array (items.take names.length)
  | _, raw => raw

/-- Drops what stands in arrays behind the settings of their groups; TOML text may go on there. -/
def withoutSurplus : Raw → Raw
  | .object entries => .object (entries.map fun (group, raw) => (group, cutGroup group raw))
  | raw => raw

def ofToml (text : String) : Except SettingsError Settings :=
  match (Toml.read? text).bind fun raw => decode? (withoutSurplus raw) with
  | some settings => settings.checked
  | none => .error .syntaxError

def ofFile : Except FileError String → Except SettingsError Settings
  | .ok text => ofToml text
  | .error cause => .error (.unreadable cause)

inductive Place where
  | workingDirectory
  | configuration
  | home
  deriving DecidableEq, Repr

/-- The files that hold settings, the most important first. -/
def usualFiles : List (Place × String) :=
  [(.workingDirectory, "querysmith.toml"), (.workingDirectory, "config.toml"),
    (.configuration, "querysmith/config.toml"), (.home, ".querysmith/config.toml")]

private def present? : Except FileError String → Option (Except FileError String)
  | .ok text => some (.ok text)
  | .error cause => if cause.meansAbsence then none else some (.error cause)

def load (read : Place → String → Except FileError String) : Except SettingsError Settings :=
  match usualFiles.findSome? fun (place, name) => present? (read place name) with
  | some found => ofFile found
  | none => .ok default

end AnalystQuery.Settings
