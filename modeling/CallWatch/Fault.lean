import CallWatch.Config.Basic
import CallWatch.Json.ReadError
import CallWatch.Json.WriteError
import CallWatch.Observation.Record

/-! The faults of record encoding and of reading the configuration, with their wording.
-/

namespace CallWatch

/-- Why a file cannot be read as text. -/
inductive FileFault where
  | notFound
  | isDirectory
  | notDirectory
  | nameTooLong
  | notUtf8
  /-- Any other failure, in the words of the system. -/
  | other (message : String)
  deriving DecidableEq, Repr

def FileFault.message : FileFault → String
  | .notFound => "No such file or directory (os error 2)"
  | .isDirectory => "Is a directory (os error 21)"
  | .notDirectory => "Not a directory (os error 20)"
  | .nameTooLong => "File name too long (os error 36)"
  | .notUtf8 => "stream did not contain valid UTF-8"
  | .other message => message

/-- Why a record is not written or a configuration not read. -/
inductive Fault where
  /-- A record of some kind cannot be encoded. -/
  | encode (kind : RecordKind) (cause : Json.WriteError)
  /-- The text of the configuration does not describe one. -/
  | syntactic (cause : Json.ReadError)
  /-- The configuration breaks a rule. -/
  | rule (broken : ConfigRule)
  /-- The configuration file cannot be read. -/
  | file (cause : FileFault)

def Fault.message : Fault → String
  | .encode kind cause => "failed to encode " ++ kind.tag ++ " record: " ++ cause.message
  | .syntactic cause => "invalid config: invalid json: " ++ cause.message
  | .rule broken => "invalid config: " ++ broken.message
  | .file cause => "read config failed: " ++ cause.message

end CallWatch
