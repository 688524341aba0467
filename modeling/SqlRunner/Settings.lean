import SqlRunner.Dialect.Registry
import SqlRunner.Fields
import SqlRunner.Log.Level
import SqlRunner.Settings.EnvFile
import SqlRunner.Settings.Field

/-!
# Settings — how a runner is to be built

Five settings say which database to use and how to log. Each is looked for in four places, and the
first that has it wins: the values that the caller passes, the variables of the environment, those
of an environment file, and the defaults. Variables carry a common beginning. Names are found in any
case; where several differ in case alone, the last one counts. Other names are ignored everywhere.

All fields are read before anything is refused, so the complaints name every field in trouble, in
the order of the fields.
-/

set_option autoImplicit false

namespace SqlRunner

/-- Settings that have been read. -/
structure Settings where
  databaseUrl : String := "sqlite:///:memory:"
  /-- The name of the dialect; without one the address decides. -/
  dialect : Option String := none
  /-- Whether there is to be no database. -/
  offline : Bool := false
  logLevel : Level := .info
  /-- Whether logs are written as JSON; without a wish the terminal decides. -/
  jsonLogs : Option Bool := none
deriving DecidableEq, Repr

/-- Where settings are looked for. -/
structure SettingSources where
  /-- What the caller passes. -/
  given : Fields := []
  environment : Entries String := []
  /-- The text of the environment file, if there is one. -/
  file : Option String := none

namespace SettingSources

/-- What the names of variables begin with. -/
def variableStart : String := "SQLGATE_"

/-- The value of a name, of those that are the same but for case the last. -/
def lookup {α : Type} (known : Entries α) (name : String) : Option α :=
  let wanted := Text.lower name
  (known.reverse.find? fun e => Text.lower e.1 == wanted).map (·.2)

/-- The variables of the environment file. -/
def fileVariables (sources : SettingSources) : Entries (Option String) :=
  match sources.file with
  | some text => EnvFile.bound sources.environment text
  | none => []

/-- The value of a field, if any place has it. -/
def value? (sources : SettingSources) (field : String) : Option Datum :=
  match lookup sources.given field with
  | some value => some value
  | none =>
    let variableName := variableStart ++ field
    match lookup sources.environment variableName with
    | some text => some (.text text)
    | none => (lookup sources.fileVariables variableName).join.map .text

end SettingSources

namespace Settings

/-- The address of the database. -/
def readDatabaseUrl (value : Datum) : Except Trouble String := value.asText

/-- The name of a dialect that is registered; an empty one is none. -/
def readDialect (registry : Registry) (value : Datum) : Except Trouble (Option String) := do
  match ← Datum.optional Datum.asText value with
  | none => return none
  | some name =>
    if name.isEmpty then return none
    match registry.get name with
    | .ok _ => return some (Text.lower name)
    | .error fault => throw (.refused fault.message)

/-- The name of a level, in any case. -/
def readLogLevel (value : Datum) : Except Trouble Level := do
  let name ← value.asText
  match Level.settingNames.lookup (Text.upper name) with
  | some level => return level
  | none =>
    throw (.refused ("log_level must be one of " ++
      Fault.listed (Level.settingNames.map (·.1))))

/-- A field read from its value, or left at its default. -/
def readField {α : Type} (sources : SettingSources) (field : String) (default : α)
    (read : Datum → Except Trouble α) : Except Complaint α :=
  match sources.value? field with
  | none => .ok default
  | some value => (read value).mapError (⟨field, ·⟩)

/-- The complaint about a field, if there is one. -/
def complaints {α : Type} : Except Complaint α → List Complaint
  | .ok _ => []
  | .error complaint => [complaint]

/-- The settings that the sources make, or every complaint about them. -/
def ofSources (registry : Registry) (sources : SettingSources) :
    Except (List Complaint) Settings :=
  let defaults : Settings := {}
  let url := readField sources "database_url" defaults.databaseUrl readDatabaseUrl
  let dialect := readField sources "dialect" defaults.dialect (readDialect registry)
  let offline := readField sources "offline" defaults.offline Datum.asTruth
  let level := readField sources "log_level" defaults.logLevel readLogLevel
  let json := readField sources "json_logs" defaults.jsonLogs (Datum.optional Datum.asTruth)
  match url, dialect, offline, level, json with
  | .ok url, .ok dialect, .ok offline, .ok level, .ok json =>
    .ok ⟨url, dialect, offline, level, json⟩
  | _, _, _, _, _ =>
    .error (complaints url ++ complaints dialect ++ complaints offline ++ complaints level ++
      complaints json)

/-- The name of the dialect that the settings mean: the one they name, or that of the address. -/
def dialectName (settings : Settings) (registry : Registry) : Except Fault String := do
  match settings.dialect with
  | some name => return (← registry.get name).name
  | none => return (← registry.forUrl (some settings.databaseUrl)).name

/-- The dialect of that name. -/
def createDialect (settings : Settings) (registry : Registry) : Except Fault Dialect := do
  registry.get (← settings.dialectName registry)

end Settings

end SqlRunner
