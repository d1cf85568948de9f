import TypedSql.Compile
import TypedSql.SqlType.Spec
import TypedSql.Toml

namespace TypedSql

structure CompileSettings where
  defaultDialect : String := "duckdb"
  pretty : Bool := true
deriving DecidableEq

structure Settings where
  compile : CompileSettings := {}
  types : DecimalDefaults := {}
deriving DecidableEq

/-- Why settings cannot be used. -/
inductive SettingsFault
  | precisionRange (precision : Nat)
  | scaleAbovePrecision (scale precision : Nat)
  | blankDialect
deriving DecidableEq

inductive SettingsError
  | notFound (path : String)
  | unreadable
  | malformed
  | invalid (fault : SettingsFault)
deriving DecidableEq

def SettingsFault.text : SettingsFault → String
  | precisionRange p => "types.decimal_precision must be between 1 and 38, got " ++ toString p
  | scaleAbovePrecision s p =>
    "types.decimal_scale (" ++ toString s ++ ") exceeds types.decimal_precision (" ++ toString p
      ++ ")"
  | blankDialect => "compile.default_dialect cannot be empty"

/-- The message; what a reader of files or of TOML has to say is not part of it. -/
def SettingsError.message : SettingsError → String
  | notFound path => "Config file not found: " ++ path
  | unreadable => "Failed to read config file"
  | malformed => "Failed to parse config file"
  | invalid fault => "Invalid configuration: " ++ fault.text

namespace Document

/-- The fields of a record with the given names: by name in a table, in order in a list. What stands
under another name in a table has to be readable, though it does not count; what a list holds beyond
the last field is not looked at. A moment has none of the fields. -/
def fields? (names : List String) : Document → Option (List (Option Document))
  | table es =>
    if entriesReadable (es.filter fun e => e.1 ∉ names) then
      some (names.map fun n => es.lookup n)
    else none
  | list ds => some ((List.range names.length).map fun i => ds[i]?)
  | moment => some (names.map fun _ => none)
  | _ => none

/-- A field, or its default where there is none. -/
def fieldOr {α : Type} (read : Document → Option α) (standard : α) : Option Document → Option α
  | none => some standard
  | some d => read d

end Document

def CompileSettings.ofDocument? (d : Document) : Option CompileSettings :=
  match d.fields? ["default_dialect", "pretty"] with
  | some [dialect, pretty] => do
    let s : CompileSettings := {}
    return { defaultDialect := ← Document.fieldOr Document.string? s.defaultDialect dialect
             pretty := ← Document.fieldOr Document.boolean? s.pretty pretty }
  | _ => none

def DecimalDefaults.ofDocument? (d : Document) : Option DecimalDefaults :=
  match d.fields? ["decimal_precision", "decimal_scale"] with
  | some [precision, scale] => do
    let s : DecimalDefaults := {}
    return { precision := ← Document.fieldOr Document.byte? s.precision precision
             scale := ← Document.fieldOr Document.byte? s.scale scale }
  | _ => none

namespace Settings

def ofDocument? (d : Document) : Option Settings :=
  match d.fields? ["compile", "types"] with
  | some [compile, types] => do
    return { compile := ← Document.fieldOr CompileSettings.ofDocument? {} compile
             types := ← Document.fieldOr DecimalDefaults.ofDocument? {} types }
  | _ => none

def fault? (s : Settings) : Option SettingsFault :=
  let p := s.types.precision
  if p = 0 ∨ SqlType.maxPrecision < p then some (.precisionRange p)
  else if p < s.types.scale then some (.scaleAbovePrecision s.types.scale p)
  else if (Text.trim s.compile.defaultDialect.toList).isEmpty then some .blankDialect
  else none

/-- The settings if they can be used. -/
def validate (s : Settings) : Except SettingsError Settings :=
  match s.fault? with
  | some f => .error (.invalid f)
  | none => .ok s

/-- The settings of a text, given a reader of texts. -/
def ofText (read : String → Option Settings) (text : String) : Except SettingsError Settings :=
  match read text with
  | some s => s.validate
  | none => .error .malformed

def readToml (text : String) : Option Settings := (Toml.read text).bind ofDocument?

def ofToml (text : String) : Except SettingsError Settings := ofText readToml text

/-- The options that the settings mean. A dialect that is not known gives way to the standard one,
with a warning. -/
def compileOptions (s : Settings) : CompileOptions × List String :=
  match Dialect.ofName s.compile.defaultDialect with
  | .ok d => ({ dialect := d, pretty := s.compile.pretty }, [])
  | .error e =>
    ({ dialect := .standard, pretty := s.compile.pretty },
      [e.message ++ "; falling back to " ++ Dialect.standard.id])

end Settings

/-- SQL in the dialect and the layout of the settings. -/
def Target.compileWith (s : Settings) (target : Target) : Except Error String :=
  target.compile s.compileOptions.1

namespace Settings

/-- What stands at a place. -/
inductive Entry
  | directory
  | file (text : String)
deriving DecidableEq

/-- A path from the working directory or from the home directory. -/
inductive Place
  | working (path : String)
  | home (path : String)
deriving DecidableEq

def Place.path : Place → String
  | working p => p
  | home p => "~/" ++ p

/-- What the environment names, and what stands where. -/
structure World where
  named? : Option String
  find? : Place → Option Entry

def workingPlace (application : String) : Place := .working (application ++ ".toml")

def homePlace (application : String) : Place :=
  .home (".config/" ++ application ++ "/config.toml")

def ofPlace (read : String → Option Settings) (w : World) (p : Place) :
    Except SettingsError Settings :=
  match w.find? p with
  | none => .error (.notFound p.path)
  | some .directory => .error .unreadable
  | some (.file text) => ofText read text

/-- The settings of a file. -/
def ofFile (read : String → Option Settings) (w : World) (path : String) :
    Except SettingsError Settings :=
  ofPlace read w (.working path)

/-- The first place that applies. What the environment names applies whether or not it exists. -/
def place? (application : String) (w : World) : Option Place :=
  match w.named? with
  | some path => some (.working path)
  | none =>
    [workingPlace application, homePlace application].find? fun p => (w.find? p).isSome

def load (application : String) (read : String → Option Settings) (w : World) :
    Except SettingsError Settings :=
  match place? application w with
  | some p => ofPlace read w p
  | none => .ok {}

end Settings

end TypedSql
