/-! Access to files by their paths. -/
namespace AgentSpec

inductive FileError where
  | notFound
  | alreadyThere
  | notDirectory
  | isDirectory
  | nameTooLong
  /-- A name has a zero character in it, which no file can have. -/
  | zeroInName
  | notText
  /-- Any other reason, in the words of the system. -/
  | other (text : String)
deriving DecidableEq

namespace FileError

def message : FileError → String
  | notFound => "No such file or directory (os error 2)"
  | alreadyThere => "File exists (os error 17)"
  | notDirectory => "Not a directory (os error 20)"
  | isDirectory => "Is a directory (os error 21)"
  | nameTooLong => "File name too long (os error 36)"
  | zeroInName => "file name contained an unexpected NUL byte"
  | notText => "stream did not contain valid UTF-8"
  | other text => text

end FileError

/-- Effects that include reading and writing text files. -/
class Files (m : Type → Type) where
  read : String → m (Except FileError String)
  /-- Writes a file, and makes the directories above it that are missing. -/
  write : String → String → m (Except FileError Unit)

end AgentSpec
