import TemplateCompiler.Config.Basic
import TemplateCompiler.Diagnostic
import TemplateCompiler.Mismatch
import TemplateCompiler.Toml.Document

namespace TemplateCompiler

/-- The options that a configuration file can set. -/
inductive Setting where
  | arraySizeHelper
  | undefinedOutput
  deriving DecidableEq, Repr

namespace Setting

def name : Setting → String
  | arraySizeHelper => "array_size_helper"
  | undefinedOutput => "undefined_output"

/-- The spellings of the settings, in ascending order. -/
def spellings : List (String × Setting) :=
  [("arraySize", arraySizeHelper), ("arraySizeHelper", arraySizeHelper),
   ("array_size_helper", arraySizeHelper), ("undefinedOutput", undefinedOutput),
   ("undefined_output", undefinedOutput)]

def ofName? (name : String) : Option Setting :=
  spellings.lookup name

end Setting

/-- Why a configuration cannot be had. -/
inductive ConfigError where
  | notToml
  /-- What is wrong with the entry under a key. -/
  | mismatch (key : String) (difference : Mismatch)
  | noSuchFile
  | isDirectory
  | notUtf8

/-- What a TOML reader says of its own about a text that is refused. It may tell a place in the text
and quote a piece of it. -/
structure Toml.Wording where
  /-- Of a text that is not TOML. -/
  malformed : String
  /-- Before the description of what is wrong with the entry under a key. -/
  before : String → String
  /-- After that description. -/
  after : String → String

/-- The shortest words, which tell no place and of a text that is not TOML only that it is not. -/
def Toml.Wording.brief : Wording :=
  ⟨"<toml>", fun _ => "", fun _ => ""⟩

namespace ConfigError

def fileName : String := "stencil.toml"

/-- Numbers are written without an exponent. -/
def floatLayout : Decimal.Layout :=
  ⟨fun _ => true, .up⟩

def message (words : Toml.Wording) : ConfigError → String
  | notToml => "Invalid " ++ fileName ++ ": " ++ words.malformed
  | mismatch key m =>
    "Invalid " ++ fileName ++ ": " ++ words.before key ++ m.describe floatLayout ++ words.after key
  | noSuchFile =>
    "Can't read config file " ++ fileName ++ ": No such file or directory (os error 2)"
  | isDirectory => "Can't read config file " ++ fileName ++ ": Is a directory (os error 21)"
  | notUtf8 => "Can't read config file " ++ fileName ++ ": stream did not contain valid UTF-8"

def report (words : Toml.Wording) (error : ConfigError) : Diagnostic :=
  { stage := .config, message := error.message words }

/-- The report in the shortest words. -/
def diagnostic (error : ConfigError) : Diagnostic :=
  error.report .brief

end ConfigError

namespace Config

/-- The settings that have been read. -/
structure Settings where
  arraySizeHelper : Option Bool := none
  undefinedOutput : Option Bool := none
  deriving DecidableEq, Repr

namespace Settings

def get? (settings : Settings) : Setting → Option Bool
  | .arraySizeHelper => settings.arraySizeHelper
  | .undefinedOutput => settings.undefinedOutput

def insert (settings : Settings) (setting : Setting) (value : Bool) : Settings :=
  match setting with
  | .arraySizeHelper => { settings with arraySizeHelper := some value }
  | .undefinedOutput => { settings with undefinedOutput := some value }

def toConfig (settings : Settings) : Config :=
  ⟨settings.arraySizeHelper.getD false, settings.undefinedOutput.getD false⟩

end Settings

/-- The truth value of an entry, or what it is instead. -/
def readBool : Toml.Item → Except Mismatch Bool
  | .bool value => .ok value
  | .string text => .error (.wrongType (.string text) "a boolean")
  | .integer value => .error (.wrongType (.integer value) "a boolean")
  | .float value => .error (.wrongType (.float value) "a boolean")
  | .array _ | .tables _ => .error (.wrongType .sequence "a boolean")
  | .table _ _ | .datetime => .error (.wrongType .map "a boolean")

/-- Reads one entry: its name must be known, its setting new and its value a truth value. -/
def readEntry (settings : Settings) (entry : String × Toml.Item) : Except ConfigError Settings :=
  match Setting.ofName? entry.1 with
  | none => .error (.mismatch entry.1 (.unknownField entry.1 (Setting.spellings.map Prod.fst)))
  | some setting =>
    match settings.get? setting with
    | some _ => .error (.mismatch entry.1 (.duplicateField setting.name))
    | none => do
      let value ← (readBool entry.2).mapError (.mismatch entry.1)
      .ok (settings.insert setting value)

/-- The entries in ascending order of their keys. -/
def inKeyOrder (entries : Toml.Entries) : Toml.Entries :=
  entries.mergeSort fun first second => first.1 ≤ second.1

/-- The configuration of a top table. Its entries are read in the order of their keys, so that the
answer does not depend on their order in the text. -/
def ofEntries (entries : Toml.Entries) : Except ConfigError Config := do
  let settings ← (inKeyOrder entries).foldlM readEntry {}
  .ok settings.toConfig

/-- The configuration of a text. -/
def ofToml (text : String) : Except ConfigError Config :=
  match Toml.ofText? text with
  | none => .error .notToml
  | some entries => ofEntries entries

/-- The configuration of a text or the report on it, where `words` are what the TOML reader says of
its own about each text. -/
def read (words : String → Toml.Wording) (text : String) : Except Diagnostic Config :=
  (ofToml text).mapError (ConfigError.report (words text))

/-- What is found under the name of a configuration file. -/
inductive FileState where
  | missing
  | directory
  | holds (bytes : ByteArray)

/-- The configuration in a file. -/
def ofFile : FileState → Except ConfigError Config
  | .missing => .error .noSuchFile
  | .directory => .error .isDirectory
  | .holds bytes =>
    match String.fromUTF8? bytes with
    | none => .error .notUtf8
    | some text => ofToml text

end Config

end TemplateCompiler
