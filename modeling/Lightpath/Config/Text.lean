import Lightpath.Encoding.Config
import Lightpath.Encoding.Yaml

/-!
# Configurations as operators write them

A configuration is written as indented text and checked as soon as it is read. Without a text for
a field its default holds; the empty text is the default configuration.
-/

namespace Lightpath.Config

/-- Why a text that is no configuration is refused. -/
def malformed : Error := .invalidConfig "yaml" "malformed configuration"

/-- The aliases that are followed in a configuration. -/
def follows : Yaml.Follows :=
  .record (fieldNames.map fun name =>
    (name,
      if name = "polatis" then .record (SwitchConfig.fieldNames.map (·, .leaf))
      else if name = "power-range-dbm" then .list .leaf
      else .leaf))

/-- Reads a configuration without checking its values. -/
def parse? (text : String) : Option Config := Yaml.Tree.read? follows decode? text

/-- Reads a configuration and checks its values. -/
def read (text : String) : Except Error Config :=
  match parse? text with
  | none => .error malformed
  | some config => config.validate.map fun _ => config

end Lightpath.Config
