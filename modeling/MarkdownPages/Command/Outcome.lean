import MarkdownPages.Command.Request
import MarkdownPages.Conversion.Run

/-!
# What a command tells

## Main definitions

* `Outcome` — an exit code, text for the standard output, and messages
* `Outcome.success`, `Outcome.failure`, `Outcome.misuse`
* `announcement`, `report` — what is told before and after a conversion
* `programName`, `versionText`, `helpText`
-/

namespace MarkdownPages

/-- What a command tells. -/
structure Outcome where
  exitCode : Nat
  /-- Text for the standard output. -/
  output : String := ""
  /-- Messages, each of which takes a line, or more if its text does. -/
  messages : List String := []
  /-- Messages for those who want to know more. -/
  details : List String := []
deriving DecidableEq, Inhabited, Repr

namespace Outcome

/-- A command that was carried out. -/
def success (messages : List String) (details : List String := []) : Outcome :=
  { exitCode := 0, messages := messages, details := details }

/-- A command that was given up for a reason, after some messages. -/
def failure (messages : List String) (reason : String) : Outcome :=
  { exitCode := 1, messages := messages ++ ["Error: " ++ reason] }

/-- A command that does not exist. -/
def misuse : Outcome := { exitCode := 2 }

/-- A command that only tells something. -/
def telling (text : String) : Outcome := { exitCode := 0, output := text }

/-- The lines that the messages take. -/
def lines (outcome : Outcome) : List String :=
  outcome.messages.flatMap fun message =>
    (Text.splitOn (· == '\n') message.toList).map String.ofList

end Outcome

/-! ### Conversions -/

/-- What is told before a conversion. -/
def announcement (s : Settings) : List String :=
  s.allRoots.map (fun root => "Root: " ++ root.text.shown) ++
    ["Output: " ++ s.outputDirectory.text.shown, "Package: " ++ s.basePackage]

/-- What is told after a conversion. -/
def report (s : Settings) (summary : Summary) : List String :=
  summary.warnings.map ("Warning: " ++ ·) ++
    ["Generated " ++ toString summary.files.length ++ " file(s) in " ++
      s.outputDirectory.text.shown ++ " (" ++ toString summary.warnings.length ++ " warning(s))"]

/-- What more there is to tell after a conversion. -/
def pageList (summary : Summary) : List String :=
  summary.files.map fun file => file.source.text.shown ++ " -> " ++ file.output.text.shown

/-! ### The program itself -/

/-- The name of the program. -/
def programName : String := "mdkt"

/-- The name and the version of the program. -/
def versionText : String := programName ++ " 0.1.0\n"

/-- What there is to say about the use of the program. -/
def helpText : HelpTopic → String
  | .program => "\n".intercalate [
      "Markdown to Kotlin pages",
      "",
      "Usage: " ++ programName ++ " <COMMAND>",
      "",
      "Commands:",
      "  convert  Convert markdown files into Kotlin page sources",
      "  help     Print this message or the help of the given subcommand(s)",
      "",
      "Options:",
      "  -h, --help     Print help",
      "  -V, --version  Print version",
      ""]
  | .conversion => "\n".intercalate [
      "Convert markdown files into Kotlin page sources",
      "",
      "Usage: " ++ programName ++ " convert [OPTIONS]",
      "",
      "Options:",
      "  -c, --config <CONFIG>    Path to configuration file (default: auto-discover " ++
        Settings.fileName ++ ")",
      "  -r, --root <ROOTS>       Markdown root directory, may be repeated",
      "  -o, --output <OUTPUT>    Directory receiving generated Kotlin sources",
      "  -g, --group <GROUP>      Project group used for packages that start with a dot",
      "      --markdown-artifact  Provide the markdown runtime context to generated pages",
      "  -v, --verbose            List every generated file",
      "  -h, --help               Print help",
      ""]

end MarkdownPages
