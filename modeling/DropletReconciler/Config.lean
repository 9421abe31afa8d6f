import DropletReconciler.Account
import DropletReconciler.ErrorClass
import DropletReconciler.Toml.Document
import DropletReconciler.Value.Merge
import DropletReconciler.Value.Pairs

/-!
The configuration: two files, the project's laid over the global one, and the accounts that they
name.
-/

namespace DropletReconciler

/-- What a path of the file system leads to. -/
inductive FileEntry where
  | file (bytes : ByteArray)
  | directory

namespace Config

inductive Origin where
  | global
  | project
  deriving DecidableEq, Repr

def Origin.fileName : Origin → String
  | .global => "defaults.toml"
  | .project => "dropletsync.toml"

inductive Fault where
  | unreadable (origin : Origin) (fault : Toml.Fault)
  | tooDeep
  | notFound (name available : String)
  | noType (name : String)
  | unknownType (type : String)
  | tooLong (fault : Numeral.TooLong)
  | settings (name : String) (fault : SettingsFault)
  | misuse (fault : Value.Misuse)
  deriving DecidableEq, Repr

def Fault.message : Fault → String
  | .unreadable origin .malformed => "Invalid TOML in " ++ origin.fileName
  | .unreadable _ .notText => ""
  | .unreadable _ (.tooLong fault) => fault.message
  | .unreadable _ .tooDeep | .tooDeep => "maximum recursion depth exceeded"
  | .notFound name available =>
    "Provider '" ++ name ++ "' not found. Available: " ++
      if available.isEmpty then "none" else available
  | .noType name => "Provider '" ++ name ++ "' missing 'type' field"
  | .unknownType type =>
    "Unknown provider type '" ++ type ++ "'. Valid: " ++ Account.typeName
  | .tooLong fault => fault.message
  | .settings name fault => "Invalid settings for provider '" ++ name ++ "': " ++ fault.message
  | .misuse fault => fault.message

/-- The two files as they are found. -/
structure Files where
  global : Option FileEntry
  project : Option FileEntry

/-- Puts files in the place of those that were there; `none` leaves one as it is. -/
def Files.replace (global project : Option (Option FileEntry)) (files : Files) : Files :=
  ⟨global.getD files.global, project.getD files.project⟩

/-- The table of a file; only a regular file holds anything. -/
def readFile (origin : Origin) : Option FileEntry → Except Fault Table
  | some (.file bytes) => (Toml.read bytes).mapError (.unreadable origin)
  | _ => .ok []

/-- Adds an empty table of providers where there is none. -/
def withProviders (config : Table) : Table :=
  if (Table.get? "providers" config).isSome then config
  else config ++ [("providers", .table [])]

/-- The configuration of two tables, the second laid over the first. -/
def ofTables (lower upper : Table) : Table := withProviders (Table.merge lower upper)

/-- The room for levels of tables that are merged. A level takes one of the thousand frames that the
stack has, and seven are in use where the merge starts. That is so for a program that loads its
configuration from close to its entry; from deeper down there is less room. -/
def mergeRoom : Nat := 993

def load (files : Files) : Except Fault Table := do
  let lower ← readFile .global files.global
  let upper ← readFile .project files.project
  if mergeRoom < Table.mergeLevels lower upper then throw .tooDeep
  else pure (ofTables lower upper)

/-- One text is part of another. -/
def isPart (part whole : List Char) : Bool :=
  match whole with
  | [] => part.isEmpty
  | _ :: rest => part.isPrefixOf whole || isPart part rest

/-- A name is a key of a table, an item of a list or a part of a text. -/
def names (providers : Value) (name : String) : Except Value.Misuse Bool :=
  match providers with
  | .table fields => .ok (Table.get? name fields).isSome
  | .list items => .ok (items.contains (.text name))
  | .text s => .ok (isPart name.toList s.toList)
  | v => .error (.notSearchable v.kind)

def isType (name : Value) : Bool := name == .text "type"

/-- The account that an entry describes. -/
def accountOf (name : String) (entry : Value) : Except Fault Account := do
  let settings ← entry.distinctPairs.mapError .misuse
  let type := ((settings.find? fun (k, _) => isType k).map Prod.snd).getD .null
  if type = .null then throw (.noType name)
  else if !type.canBeKey then throw (.misuse (.notKey type.kind))
  else if type ≠ .text Account.typeName then
    throw (.unknownType (← type.writeScalar.mapError .tooLong))
  else (Account.ofSettings (settings.filter fun (k, _) => !isType k)).mapError (.settings name)

/-- The account of a provider that the configuration names. -/
def account (config : Value) (name : String) : Except Fault Account := do
  let providers := (← (config.get? "providers").mapError .misuse).getD (.table [])
  if ← (names providers name).mapError .misuse then
    accountOf name (← (providers.field name).mapError .misuse)
  else throw (.notFound name (← providers.joinTexts.mapError .misuse))

end Config

end DropletReconciler
