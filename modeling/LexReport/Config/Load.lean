import LexReport.Config.Document
import LexReport.Config.Environment
import LexReport.Files.Tree
import LexReport.Text.Escaped
import LexReport.Toml.Reader

/-! Preferences for a run: from the file that the environment names, or from the environment. -/

set_option autoImplicit false

namespace LexReport.Config

inductive LoadError where
  /-- The preferences file cannot be read. -/
  | unreadable (path : String) (failure : Files.Failure)
  /-- The preferences file holds something else. -/
  | malformed (path : String)
  deriving DecidableEq, Repr

namespace LoadError

/-- Of what is wrong in a document nothing more is said than where it is. -/
def message : LoadError → String
  | unreadable path failure =>
    "Failed to read preferences file '" ++ path ++ "': " ++ failure.message
  | malformed path => "Invalid preferences in '" ++ path ++ "'"

def detail : LoadError → String
  | unreadable path failure =>
    "Read \x7b path: " ++ Text.quoted path ++ ", source: " ++ failure.detail ++ " \x7d"
  | malformed path => "Parse \x7b path: " ++ Text.quoted path ++ ", ..."

end LoadError

/-- What a document says, and for the rest what the environment says. -/
def ofText? (environment : Environment) (document : String) : Option Preferences :=
  (Toml.read? document).bind (Preferences.ofEnvironment environment).over?

def ofFile (environment : Environment) (tree : Files.Tree) (path : String) :
    Except LoadError Preferences :=
  match tree.readText path with
  | .error failure => .error (.unreadable path failure)
  | .ok document =>
    match ofText? environment document with
    | some preferences => .ok preferences
    | none => .error (.malformed path)

def load (environment : Environment) (tree : Files.Tree) : Except LoadError Preferences :=
  match environment.filled? Environment.fileVariable with
  | some path => ofFile environment tree path
  | none => .ok (.ofEnvironment environment)

end LexReport.Config
