import DropletReconciler.Settings

/-!
Settings of the log.
-/

namespace DropletReconciler.Log

/-- Settings are taken as they come; only their use shows whether they have the right type. -/
structure Config where
  level : Value
  file : Value
  console : Value
  rotation : Value
  retention : Value
  deriving DecidableEq, Repr

namespace Config

def usual : Config where
  level := .text "INFO"
  file := .text ".dropletsync/dropletsync.log"
  console := .bool false
  rotation := .text "50 MB"
  retention := .int 10

def owner : String := "LogConfig.__init__()"

def set (config : Config) (name : String) (value : Value) : Except SettingsFault Config :=
  if name = "level" then .ok { config with level := value }
  else if name = "file" then .ok { config with file := value }
  else if name = "console" then .ok { config with console := value }
  else if name = "rotation" then .ok { config with rotation := value }
  else if name = "retention" then .ok { config with retention := value }
  else .error (.refuse owner name)

def ofSettings (settings : Table) : Except SettingsFault Config :=
  settings.foldlM (fun config (name, value) => config.set name value) usual

end Config

end DropletReconciler.Log
