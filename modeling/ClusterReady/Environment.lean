import ClusterReady.Text.Utf8

/-!
# The environment of a program

What a program finds around it: variables with texts, and files.  Reading a file gives its bytes,
or the reason why there are none.
-/

namespace ClusterReady

/-- Why a file cannot be read. -/
inductive FileFault where
  | notFound
  | isDirectory
  /-- The file is not a text. -/
  | notText
  /-- Any other reason, in the words of the system. -/
  | other (reason : String)
deriving DecidableEq, Repr

def FileFault.message : FileFault → String
  | notFound => "No such file or directory (os error 2)"
  | isDirectory => "Is a directory (os error 21)"
  | notText => "stream did not contain valid UTF-8"
  | other reason => reason

/-- The files of a system, by their paths. -/
abbrev Files := String → Except FileFault (List UInt8)

/-- The text of a file. -/
def Files.text (files : Files) (path : String) : Except FileFault String := do
  match Text.Utf8.decode (← files path) with
  | .ok text => return text
  | .error _ => .error .notText

/-- The environment variables that are set, by their names. -/
abbrev Variables := String → Option String

structure Environment where
  lookup : Variables
  files : Files

end ClusterReady
