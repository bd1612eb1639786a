import Polyglot.Json.Fault
import Polyglot.Pattern.Fault
import Polyglot.Text.Quoted

/-!
# Errors of a configuration

What can be wrong with the languages and signals that are added to a detector. Detection itself
does not fail.
-/

namespace Polyglot

/-- Why a file cannot be read as text. -/
inductive ReadFault where
  | notFound
  | isDirectory
  | notUtf8
deriving DecidableEq, Inhabited

def ReadFault.message : ReadFault → String
  | notFound => "No such file or directory (os error 2)"
  | isDirectory => "Is a directory (os error 21)"
  | notUtf8 => "stream did not contain valid UTF-8"

inductive BuildError where
  | invalidLanguageId (id : String)
  | zeroWeight (language : String)
  | invalidPattern (language : String) (fault : Pattern.Fault)
  | unreadableOverlay (path : String) (fault : ReadFault)
  | malformedOverlay (path : String) (fault : Json.Fault)
deriving DecidableEq, Inhabited

/-- The message of an error. For patterns and documents it names what is at fault; the kind of the
fault is kept in the error itself. -/
def BuildError.message : BuildError → String
  | invalidLanguageId id => "Invalid language identifier: " ++ Text.quoted id
  | zeroWeight language => "Signal for " ++ language ++ " must have a positive weight"
  | invalidPattern language _ => "Invalid signal pattern for " ++ language ++ ": "
  | unreadableOverlay path fault => "Cannot read catalog overlay " ++ path ++ ": " ++ fault.message
  | malformedOverlay path _ => "Malformed catalog overlay " ++ path ++ ": "

end Polyglot
