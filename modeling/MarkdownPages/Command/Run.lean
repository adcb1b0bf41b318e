import MarkdownPages.Command.Outcome
import MarkdownPages.Markup.Parse

/-!
# Running a command

A command is a function from a file system to what it tells and the file system after it.

## Main definitions

* `prepareProject` — makes the directory for data of the project
* `Command.convert` — the conversion
* `Command.run` — whatever a command line asks for
-/

namespace MarkdownPages

/-- The file that keeps the directory for data of the project out of version control. -/
def ignoreFile (projectDirectory : Path) : Path := projectDirectory.child ".gitignore"

/-- What that file says. -/
def ignoreText : String := "# Automatically created by mdkt\n*\n"

/-- Makes the directory for data of the project and the file that keeps it out of version control,
unless they are there. That the file cannot be written does no harm. -/
def prepareProject (projectDirectory : Path) : FileAction Unit := do
  FileAction.makeDirectories projectDirectory
  if !(← get).present (ignoreFile projectDirectory) then
    tryCatch (FileAction.write (ignoreFile projectDirectory) ignoreText) fun _ => return

namespace Command

/-- Converts as settings ask for, once the directory of the project is there. -/
def convertWith (s : Settings) (fs : FileSystem) : Outcome × FileSystem :=
  match (prepareProject s.projectDirectory).run fs with
  | (.error fault, fs) => (.failure [] fault.message, fs)
  | (.ok (), fs) =>
    match ((Conversion.ofSettings s).run .commonMark).run fs with
    | (.error error, fs) => (.failure (announcement s) error.message, fs)
    | (.ok summary, fs) =>
      (.success (announcement s ++ report s summary) (pageList summary), fs)

/-- The conversion. -/
def convert (environment : Environment) (options : ConvertOptions) (fs : FileSystem) :
    Outcome × FileSystem :=
  match Settings.load fs environment options.settingsFile (some options.overrides) with
  | .error error => (.failure [] error.message, fs)
  | .ok settings => convertWith settings fs

/-- What a request leads to. -/
def answer (environment : Environment) (fs : FileSystem) : Request → Outcome × FileSystem
  | .convert options => convert environment options fs
  | .help topic => (.telling (helpText topic), fs)
  | .version => (.telling versionText, fs)
  | .misuse => (.misuse, fs)

/-- What a command line leads to. -/
def run (environment : Environment) (arguments : List String) (fs : FileSystem) :
    Outcome × FileSystem :=
  answer environment fs (Request.ofArguments environment arguments)

end Command

end MarkdownPages
