import Cellwise.CommandLine.Folder
import Cellwise.Entity.Error

/-!
# Failures of commands

A failure tells the whole story from the outside to the root: `CommandError.chain` lists what went
wrong, then why, then why that.
-/

namespace Cellwise

mutual
/-- What went wrong in a registry, and why. -/
def RegistryError.chain : RegistryError → List String
  | .configuration reason => [(RegistryError.configuration reason).message]
  | .noConverter type => [(RegistryError.noConverter type).message]
  | .conversion type direction cause =>
    (RegistryError.conversion type direction cause).message :: cause.chain

/-- Why a converter gave up. -/
def Cause.chain : Cause → List String
  | .text text => [text]
  | .json fault => [fault.message]
  | .registry error => error.chain
end

/-- What went wrong with an entity, and why. -/
def MappingError.chain : MappingError → List String
  | store error => [(MappingError.store error).message, error.message]
  | conversion error => (MappingError.conversion error).message :: error.chain
  | error => [error.message]

/-- Why a command fails. -/
inductive CommandError where
  /-- The file with the settings cannot be read. -/
  | unreadable (path : String) (error : FileError)
  /-- The file with the settings does not hold settings. -/
  | noSettings (path : String)
  | store (error : StoreError)
  | registry (error : RegistryError)
  | mapping (error : MappingError)
  /-- The text to be decoded does not stand for a person. -/
  | noPerson (error : RegistryError)
  /-- The employee that was saved is not there any more. -/
  | vanished (id : String)
  /-- The employee that was loaded is not the one that was saved. -/
  | differs

namespace CommandError

/-- What went wrong, and why, from the outside to the root. -/
def chain : CommandError → List String
  | unreadable path error => ["reading config " ++ path, error.reason]
  | noSettings path => ["parsing config " ++ path, "toml"]
  | store error => [error.message]
  | registry error => error.chain
  | mapping error => error.chain
  | noPerson error => "stored value is not a person" :: error.chain
  | vanished id => ["employee " ++ id ++ " vanished"]
  | differs => ["loaded employee differs from the stored one"]

/-- What went wrong. -/
def message (error : CommandError) : String := error.chain.headD ""

/-- The causes below what went wrong, numbered if there are several. -/
def causeLines : List String → String
  | [] => ""
  | [cause] => "\nCaused by:\n    " ++ cause ++ "\n"
  | causes =>
    "\nCaused by:\n" ++ String.join (causes.zipIdx.map fun (cause, index) =>
      "    " ++ Text.ofInt index ++ ": " ++ cause ++ "\n")

/-- The whole story as a text. -/
def report (error : CommandError) : String :=
  "Error: " ++ error.message ++ "\n" ++ causeLines error.chain.tail

end CommandError

end Cellwise
