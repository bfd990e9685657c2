import TemplateLint.Text.Lines
import TemplateLint.Text.Literal

namespace TemplateLint.CommandLine

open Text

inductive Command where
  | config | lint
  deriving DecidableEq, Repr

def Command.name : Command → String
  | config => "config"
  | lint => "lint"

def Command.ofName? : String → Option Command
  | "config" => some .config
  | "lint" => some .lint
  | _ => none

inductive Level where
  | program
  | command (c : Command)
  deriving DecidableEq, Repr

structure OptionName where
  name : String
  takesValue : Bool
  deriving DecidableEq, Repr

namespace Level

def options : Level → List OptionName
  | program =>
    [⟨"--version", false⟩, ⟨"--config", true⟩, ⟨"--verbose", false⟩, ⟨"--debug", false⟩, ⟨"--help", false⟩]
  | command .config => [⟨"--validate", false⟩, ⟨"--json", false⟩, ⟨"--help", false⟩]
  | command .lint => [⟨"--format", true⟩, ⟨"--show-source", false⟩, ⟨"--no-show-source", false⟩, ⟨"--help", false⟩]

def callPath : Level → String
  | program => "makolint"
  | command c => "makolint " ++ c.name

def usage (l : Level) : String :=
  let arguments := match l with
    | program => " [OPTIONS] COMMAND [ARGS]..."
    | command .config => " [OPTIONS]"
    | command .lint => " [OPTIONS] [PATHS]..."
  "Usage: " ++ l.callPath ++ arguments

def help (l : Level) : String :=
  joinStrings "\n" <| [l.usage, ""] ++ match l with
    | program => [
        "  MakoLint - run pylint over the Python inside Mako templates.",
        "",
        "Options:",
        "  --version      Show the version and exit.",
        "  --config FILE  pyproject.toml to read [tool.makolint] from (default: nearest",
        "                 one above the cwd)",
        "  --verbose      Log file counts and timing to stderr",
        "  --debug        Log per-template and pylint detail to stderr",
        "  --help         Show this message and exit.",
        "",
        "Commands:",
        "  config  Print or check the resolved configuration.",
        "  lint    Lint templates under PATHS (default: the current directory)."]
    | command .config => [
        "  Print or check the resolved configuration.",
        "",
        "Options:",
        "  --validate  Check the configuration without printing it",
        "  --json      Print the configuration as JSON",
        "  --help      Show this message and exit."]
    | command .lint => [
        "  Lint templates under PATHS (default: the current directory).",
        "",
        "Options:",
        "  --format [text|json]            Report format, overriding output_format",
        "  --show-source / --no-show-source",
        "                                  Print the template line under each diagnostic",
        "  --help                          Show this message and exit."]

end Level

def versionText : String := "makolint, version 0.1.0"

inductive UsageFault where
  | unknownOption (name : String) (alike : List String)
  | valueMissing (name : String)
  | valueUnwanted (name : String)
  | missingCommand
  | unknownCommand (name : String) (alike : List String)
  | unknownFormat (word : String)
  | configIsDirectory (path : String)
  | missingPath (path : String)
  | extraArguments (arguments : List String)
  deriving DecidableEq, Repr

namespace UsageFault

def message : UsageFault → String
  | unknownOption name alike =>
    let names := joinStrings ", " (alike.mergeSort fun a b => decide (a ≤ b))
    match alike with
    | [] => s!"No such option: {name}"
    | [_] => s!"No such option: {name} Did you mean {names}?"
    | _ => s!"No such option: {name} (Possible options: {names})"
  | valueMissing name => s!"Option '{name}' requires an argument."
  | valueUnwanted name => s!"Option '{name}' does not take a value."
  | missingCommand => "Missing command."
  | unknownCommand name alike =>
    let known := s!"No such command {quoted name}."
    match alike with
    | [] => known
    | _ =>
      let names := joinStrings ", " (alike.map quoted)
      s!"{known} Did you mean {names}?"
  | unknownFormat word => s!"Invalid value for '--format': {quoted word} is not one of 'text', 'json'."
  | configIsDirectory path => s!"Invalid value for '--config': File {quoted path} is a directory."
  | missingPath path => s!"Invalid value for '[PATHS]...': Path {quoted path} does not exist."
  | extraArguments arguments =>
    let words := joinStrings " " arguments
    match arguments with
    | [_] => s!"Got unexpected extra argument ({words})"
    | _ => s!"Got unexpected extra arguments ({words})"

def tellsUsage : UsageFault → Bool
  | valueMissing _ => false
  | valueUnwanted _ => false
  | _ => true

def report (f : UsageFault) (l : Level) : String :=
  let usage := if f.tellsUsage then [l.usage, s!"Try '{l.callPath} --help' for help.", ""] else []
  joinStrings "\n" (usage ++ ["Error: " ++ f.message])

end UsageFault

end TemplateLint.CommandLine
