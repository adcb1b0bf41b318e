import MarkdownPages.Files.Path
import MarkdownPages.Settings.Settings

/-!
# Requests on the command line

The command line is read in two steps. Every argument is first read by itself: as options with
the values attached to them, or as a bare word. The sequence is then read from left to right: an
option that needs a value and has none attached takes the next word. The first thing that is wrong
decides, and so does a request for help that comes before it.

## Main definitions

* `ConvertOption` — the options of the conversion
* `Token`, `Token.ofArgument` — an argument read by itself
* `ConvertOptions` — what the options of the conversion ask for
* `Request`, `Request.ofArguments` — what a command line asks for

## Implementation notes

A word that starts with a dash is never the value of an option unless it is attached to it, or is
a dash alone. Paths must not be empty, and only the option for roots may be repeated.
-/

namespace MarkdownPages

/-- An option of the conversion. -/
inductive ConvertOption where
  /-- The settings file. -/
  | config
  /-- One more root. -/
  | root
  /-- The output directory. -/
  | output
  | group
  | markdownArtifact
  | verbose
  | help
deriving DecidableEq, Inhabited, Repr

namespace ConvertOption

/-- The option of a long name. -/
def ofName? : String → Option ConvertOption
  | "config" => some config
  | "root" => some root
  | "output" => some output
  | "group" => some group
  | "markdown-artifact" => some markdownArtifact
  | "verbose" => some verbose
  | "help" => some help
  | _ => none

/-- The option of a letter. -/
def ofLetter? : Char → Option ConvertOption
  | 'c' => some config
  | 'r' => some root
  | 'o' => some output
  | 'g' => some group
  | 'v' => some verbose
  | 'h' => some help
  | _ => none

/-- Whether an option needs a value. -/
def takesValue : ConvertOption → Bool
  | config | root | output | group => true
  | markdownArtifact | verbose | help => false

end ConvertOption

/-! ### Single arguments -/

/-- An argument, or a part of one, read by itself. -/
inductive Token where
  /-- An option, with the value attached to it. -/
  | option (which : ConvertOption) (value : Option String)
  /-- Something that does not look like an option. -/
  | word (text : String)
  /-- Two dashes, behind which there are no options. -/
  | separator
  /-- Something that looks like an option but is none. -/
  | unknown
deriving DecidableEq, Inhabited, Repr

namespace Token

/-- The value attached to a letter. -/
def attached? : List Char → Option String
  | [] => none
  | '=' :: value => some (String.ofList value)
  | value => some (String.ofList value)

/-- The options that letters behind a dash stand for. What follows the letter of an option that
needs a value is that value. -/
def ofLetters : List Char → List Token
  | [] => []
  | letter :: rest =>
    match ConvertOption.ofLetter? letter with
    | none => [unknown]
    | some which =>
      if which.takesValue then [option which (attached? rest)]
      else option which none :: ofLetters rest

/-- The option that a text behind two dashes stands for. A value follows an equals sign. -/
def ofLong (text : List Char) : Token :=
  let (name, value) := match Text.cutFirst '=' text with
    | some (name, value) => (name, some (String.ofList value))
    | none => (text, none)
  match ConvertOption.ofName? (String.ofList name) with
  | some which => option which value
  | none => unknown

/-- An argument read by itself. -/
def ofArgument (argument : String) : List Token :=
  match argument.toList with
  | ['-', '-'] => [separator]
  | '-' :: '-' :: long => [ofLong long]
  | '-' :: letter :: rest => ofLetters (letter :: rest)
  | _ => [word argument]

end Token

/-! ### Conversions -/

/-- What the options of the conversion ask for. -/
structure ConvertOptions where
  settingsFile : Option Path := none
  roots : List Path := []
  outputDirectory : Option Path := none
  group : Option String := none
  markdownArtifact : Bool := false
  verbose : Bool := false
deriving DecidableEq, Inhabited, Repr

namespace ConvertOptions

/-- The path that a text writes. -/
def path? (text : String) : Option Path := if text.isEmpty then none else some ⟨text⟩

/-- The value of an option that may be given once. -/
def once? {α : Type} (earlier value : Option α) : Option (Option α) :=
  match earlier, value with
  | none, some value => some (some value)
  | _, _ => none

/-- The options with a value for one more of them, if it can have that value now. -/
def withValue? (o : ConvertOptions) (value : String) : ConvertOption → Option ConvertOptions
  | .config => (once? o.settingsFile (path? value)).map fun file => { o with settingsFile := file }
  | .root => (path? value).map fun root => { o with roots := o.roots ++ [root] }
  | .output =>
    (once? o.outputDirectory (path? value)).map fun path => { o with outputDirectory := path }
  | .group => (once? o.group (some value)).map fun group => { o with group := group }
  | .markdownArtifact | .verbose | .help => none

/-- The options with one more that has no value, if it is not among them. -/
def withFlag? (o : ConvertOptions) : ConvertOption → Option ConvertOptions
  | .markdownArtifact => if o.markdownArtifact then none else some { o with markdownArtifact := true }
  | .verbose => if o.verbose then none else some { o with verbose := true }
  | _ => none

/-- The settings that the options override. -/
def overrides (o : ConvertOptions) : Overrides where
  roots := if o.roots.isEmpty then none else some o.roots
  outputDirectory := o.outputDirectory
  group := o.group
  markdownArtifact := if o.markdownArtifact then some true else none

end ConvertOptions

/-! ### Requests -/

/-- What there is help about. -/
inductive HelpTopic where
  | program
  | conversion
deriving DecidableEq, Inhabited, Repr

/-- What a command line asks for. -/
inductive Request where
  | convert (options : ConvertOptions)
  | help (topic : HelpTopic)
  | version
  /-- The command line is wrong. -/
  | misuse
deriving DecidableEq, Inhabited, Repr

namespace Request

/-- The variable that names the settings file if no option does. -/
def fileVariable : String := "MDKT_CONFIG"

/-- What the tokens behind the name of the conversion ask for, with the options before them. -/
def ofTokens (before : ConvertOptions) : List Token → Request
  | [] | [.separator] => convert before
  | .option which none :: rest =>
    if which.takesValue then
      match rest with
      | .word value :: rest =>
        match before.withValue? value which with
        | some options => ofTokens options rest
        | none => misuse
      | _ => misuse
    else if which = .help then help .conversion
    else
      match before.withFlag? which with
      | some options => ofTokens options rest
      | none => misuse
  | .option which (some value) :: rest =>
    match before.withValue? value which with
    | some options => ofTokens options rest
    | none => misuse
  | _ => misuse

/-- The request with a settings file from the environment, unless it names one. -/
def withVariable (environment : Environment) : Request → Request
  | convert options =>
    match options.settingsFile, environment.lookup fileVariable with
    | none, some value =>
      match ConvertOptions.path? value with
      | some path => convert { options with settingsFile := some path }
      | none => misuse
    | _, _ => convert options
  | request => request

/-- What an argument before the name of a command asks for. -/
def ofFirst (argument : String) : Request :=
  match argument.toList with
  | '-' :: 'V' :: _ => version
  | '-' :: 'h' :: _ => help .program
  | _ =>
    if argument = "--version" then version
    else if argument = "--help" then help .program
    else misuse

/-- What a command line asks for. -/
def ofArguments (environment : Environment) : List String → Request
  | "convert" :: rest => (ofTokens {} (rest.flatMap Token.ofArgument)).withVariable environment
  | ["help"] => help .program
  | ["help", "convert"] => help .conversion
  | first :: _ => ofFirst first
  | [] => misuse

end Request

end MarkdownPages
