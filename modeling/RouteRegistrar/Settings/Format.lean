import RouteRegistrar.Settings.Ini
import RouteRegistrar.Settings.Json
import RouteRegistrar.Settings.Json5
import RouteRegistrar.Settings.Ron
import RouteRegistrar.Settings.Toml.Document
import RouteRegistrar.Settings.Yaml.Node

/-!
# Settings formats

A settings file may be written in one of several formats. Which one is told by the ending of its
name.
-/

namespace RouteRegistrar

/-- A format of settings files. -/
inductive SettingsFormat where
  | json
  | toml
  | yaml
  | ini
  | ron
  | json5
  deriving DecidableEq, Repr

namespace SettingsFormat

/-- All formats. -/
def all : List SettingsFormat := [json, toml, yaml, ini, ron, json5]

/-- The endings of file names in a format. -/
def endings : SettingsFormat → List String
  | json => ["json"]
  | toml => ["toml"]
  | yaml => ["yaml", "yml"]
  | ini => ["ini"]
  | ron => ["ron"]
  | json5 => ["json5"]

/-- The value of a document in a format. -/
def document? : SettingsFormat → String → Option SettingsValue
  | json => Settings.Json.document?
  | toml => Settings.Toml.document?
  | yaml => Settings.Yaml.document?
  | ini => Settings.Ini.document?
  | ron => Settings.Ron.document?
  | json5 => Settings.Json5.document?

end SettingsFormat

end RouteRegistrar
