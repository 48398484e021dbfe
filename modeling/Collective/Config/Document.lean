import Collective.Config.Basic
import Collective.Toml.Field
import Collective.Toml.Format

/-!
# Configuration files

A configuration is a TOML table of seven optional settings and nothing else.
-/

namespace Collective.Config

/-- The names of the settings. -/
def settings : List String :=
  ["enabled", "scheduler_path", "algo_dir", "install_dir", "package_share_dir",
    "unit_test_mode", "set_stack_size"]

/-- The configuration of a document, if the document holds settings only. -/
def ofEntries? (entries : Toml.Entries) : Option Config := do
  let standard : Config := {}
  if !entries.all fun entry => settings.contains entry.1 then none
  else
    let path? := fun value : Toml.Value => value.path?.map some
    let enabled ← Toml.optional? entries "enabled" Toml.Value.boolean? standard.enabled
    let schedulerPath ←
      Toml.optional? entries "scheduler_path" Toml.Value.path? standard.schedulerPath
    let algorithmDirectory ← Toml.optional? entries "algo_dir" path? none
    let installDirectory ← Toml.optional? entries "install_dir" path? none
    let packageDirectory ← Toml.optional? entries "package_share_dir" path? none
    let unitTestMode ←
      Toml.optional? entries "unit_test_mode" Toml.Value.boolean? standard.unitTestMode
    let setStackSize ←
      Toml.optional? entries "set_stack_size" Toml.Value.boolean? standard.setStackSize
    some {
      enabled, schedulerPath, algorithmDirectory, installDirectory, packageDirectory,
      unitTestMode, setStackSize }

/-- The configuration that a text describes. -/
def ofToml? (format : Toml.Format) (text : String) : Option Config :=
  (format.read? text).bind ofEntries?

/-- A setting that is written only where it is present. -/
def pathPair? (key : String) : Option Path → Option (List (String × Toml.Plain))
  | some path => do some [(key, .string (← path.toString?))]
  | none => some []

/-- The settings of a configuration in the order of `settings`, if every path is
text. -/
def toPairs? (config : Config) : Option (List (String × Toml.Plain)) := do
  let scheduler ← config.schedulerPath.toString?
  let algorithms ← pathPair? "algo_dir" config.algorithmDirectory
  let install ← pathPair? "install_dir" config.installDirectory
  let package ← pathPair? "package_share_dir" config.packageDirectory
  some <|
    [("enabled", .boolean config.enabled), ("scheduler_path", .string scheduler)] ++
      algorithms ++ install ++ package ++
      [("unit_test_mode", .boolean config.unitTestMode),
        ("set_stack_size", .boolean config.setStackSize)]

/-- The text of a configuration. -/
def toToml? (config : Config) (format : Toml.Format) : Option String := do
  format.write? (← config.toPairs?)

end Collective.Config
