import HotReload.Disk
import HotReload.Json.Reader
import HotReload.Text.Utf8
import HotReload.Toml.Writer
/-!
What can go wrong, as causes. The words for a cause are in its `message`.

* `ConfigError`: a configuration file cannot be read or written.
* `TemplateError`: a template is missing or cannot be rendered.
* `TransformError`: an input of a transformation cannot be read.
* `Failure` has these, and the failures of an operation that meets a value of the wrong
  kind, which carry no words.
-/

namespace HotReload

/-- Why a file is not the text that is needed. -/
inductive ReadFault where
  | os (error : OsError)
  | encoding (error : Utf8Error)
  deriving DecidableEq, Repr

/-- The words for a fault. -/
def ReadFault.message : ReadFault → Text
  | .os error => error.message
  | .encoding error => error.message

/-- Why a configuration file cannot be loaded. -/
inductive LoadFault where
  | unreadable (fault : ReadFault)
  | notToml
  | excess (excess : Excess)
  deriving DecidableEq, Repr

/-- The words for a fault, after a colon; a text that is no TOML has none. -/
def LoadFault.suffix : LoadFault → Text
  | .unreadable fault => ": " ++ fault.message
  | .notToml => []
  | .excess e => ": " ++ e.message

/-- Why a configuration cannot be saved. -/
inductive SaveFault where
  | os (error : OsError)
  | form (fault : TomlFault)
  deriving DecidableEq, Repr

/-- The words for a fault. -/
def SaveFault.message : SaveFault → Text
  | .os error => error.message
  | .form fault => fault.message

/-- A configuration file cannot be read or written. -/
inductive ConfigError where
  | notFound (path : Text)
  | loadFailed (path : Text) (fault : LoadFault)
  | notTable (tableName path : Text)
  | saveFailed (path : Text) (fault : SaveFault)
  deriving DecidableEq, Repr

/-- The words for an error. -/
def ConfigError.message : ConfigError → Text
  | .notFound path => "Config file not found: " ++ path
  | .loadFailed path fault => "Failed to load config from " ++ path ++ fault.suffix
  | .notTable tableName path => "[" ++ tableName ++ "] must be a table in " ++ path
  | .saveFailed path fault => "Failed to save config to " ++ path ++ ": " ++ fault.message

/-- Why a template cannot be rendered. -/
inductive RenderFault where
  | undefined (word : Text)
  | noFilter (name : Text)
  deriving DecidableEq, Repr

/-- The words for a fault. -/
def RenderFault.message : RenderFault → Text
  | .undefined word => word.quoted ++ " is undefined"
  | .noFilter name => "No filter named " ++ name.quoted ++ " found."

/-- A template is missing or cannot be rendered. -/
inductive TemplateError where
  | notFound (name : Text)
  | renderFailed (name : Text) (fault : RenderFault)
  deriving DecidableEq, Repr

/-- The words for an error. -/
def TemplateError.message : TemplateError → Text
  | .notFound name => "Template not found: " ++ name
  | .renderFailed name fault =>
      "Failed to render template " ++ name ++ ": " ++ fault.message

/-- An input of a transformation cannot be read. -/
inductive TransformError where
  | unreadable (path : Text) (fault : ReadFault)
  | notJson (path : Text) (error : JsonError)
  | notObject (path : Text)
  deriving DecidableEq, Repr

/-- The words for an error. -/
def TransformError.message : TransformError → Text
  | .unreadable path fault => "Failed to read " ++ path ++ ": " ++ fault.message
  | .notJson path error => "Invalid JSON in " ++ path ++ ": " ++ error.message
  | .notObject path => "Compile result in " ++ path ++ " must be a JSON object"

/-- Why an operation failed. -/
inductive Failure where
  | config (error : ConfigError)
  | template (error : TemplateError)
  | transform (error : TransformError)
  /-- The code to transform is no text. -/
  | codeNotText (kind : Text)
  /-- A value of a kind for which the operation is not there. -/
  | wrongKind
  /-- A value without the member that is asked of it. -/
  | missingMember
  /-- A value out of range. -/
  | badValue
  /-- A template that cannot be read. -/
  | malformedTemplate
  /-- A template that uses a filter that does not exist. -/
  | unknownFilter
  /-- A template with too many conditions one inside the other. -/
  | deepTemplate
  /-- A template that gives a filter two arguments of one name. -/
  | repeatedArgument
  /-- A template file that is no UTF-8. -/
  | undecodable
  /-- A failure of the file system outside the writing of a file. -/
  | os (error : OsError)
  /-- A value or a file that is too large. -/
  | excess (excess : Excess)
  /-- A text with a surrogate in it, where there must be one that has a form in UTF-8. -/
  | halved
  /-- Markup that cannot be read. -/
  | markup
  deriving DecidableEq, Repr

/-- A result, unless there is too much of something in it. -/
def unlessExcess {α : Type} (excess? : Option Excess) (a : α) : Except Failure α :=
  match excess? with
  | none => .ok a
  | some e => .error (.excess e)

/-- The words for a failure, if it has any. -/
def Failure.message? : Failure → Option Text
  | .config error => some error.message
  | .template error => some error.message
  | .transform error => some error.message
  | .codeNotText kind => some ("compiled_code must be str, not " ++ kind)
  | _ => none

/-- The words of a failure that this library foresees; the others stop the program. -/
def Failure.report? : Failure → Option Text
  | .codeNotText _ => none
  | failure => failure.message?

end HotReload
