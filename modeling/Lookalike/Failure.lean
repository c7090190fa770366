import Lookalike.Glob.Lexeme
import Lookalike.Json.Reader
import Lookalike.Text.Quoted

/-!
# Failures

What can go wrong around comparisons, which themselves never fail: reading files, settings and
patterns, and writing reports. Every failure has a message for the user.

## Main definitions

* `IoFault`, `SettingsFault`, `SerializationFault` — the causes within an area.
* `Failure` — all causes.
* `Failure.message` — the message.
-/

namespace Lookalike

/-- What the file system or a sink reports. -/
inductive IoFault where
  | notFound
  | notADirectory
  | nameTooLong
  | nullInName
  | other (text : String)
  deriving DecidableEq, Repr

def IoFault.text : IoFault → String
  | .notFound => "No such file or directory (os error 2)"
  | .notADirectory => "Not a directory (os error 20)"
  | .nameTooLong => "File name too long (os error 36)"
  | .nullInName => "file name contained an unexpected NUL byte"
  | .other text => text

inductive SettingsFault where
  /-- The file that the user names is not there. -/
  | missingFile (path : String)
  | invalidPattern (pattern : String) (fault : Glob.Fault)
  /-- A file cannot be read, or a value does not fit. -/
  | unfit
  | other (text : String)
  deriving DecidableEq, Repr

def SettingsFault.text : SettingsFault → String
  | .missingFile path => "config file not found: " ++ path
  | .invalidPattern pattern fault =>
    "invalid exclude pattern " ++ quoted pattern ++ ": error parsing glob '" ++ pattern ++ "': " ++
      fault.reason
  | .unfit => "a file is not as it should be, or a value does not fit"
  | .other text => text

/-- What is wrong with reading or writing JSON. -/
inductive SerializationFault where
  /-- A text is not the JSON that it should be. -/
  | unreadable (fault : Json.Fault)
  | unwritable (fault : IoFault)

def SerializationFault.text : SerializationFault → String
  | .unreadable fault => fault.text
  | .unwritable fault => fault.text

inductive Failure where
  | io (fault : IoFault)
  | fileNotFound (path : String)
  | settings (fault : SettingsFault)
  | serialization (fault : SerializationFault)
  /-- A text is no TOML, or not the TOML of settings. -/
  | toml
  | invalidArgument (reason : String)

def Failure.message : Failure → String
  | .io fault => "I/O error: " ++ fault.text
  | .fileNotFound path => "File not found: " ++ path
  | .settings fault => "Configuration error: " ++ fault.text
  | .serialization fault => "Serialization error: " ++ fault.text
  | .toml => "TOML error: the text is no TOML, or not that of settings"
  | .invalidArgument reason => "Invalid argument: " ++ reason

end Lookalike
