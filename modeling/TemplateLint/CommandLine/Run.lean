import TemplateLint.Config.Locate
import TemplateLint.Run

namespace TemplateLint.CommandLine

open Discovery

structure Output where
  stdout : String
  stderr : String
  exit : Int
  failure : Option Failure := none

namespace Output

def line (s : String) : String := s ++ "\n"

def told (s : String) : Output := ⟨line s, "", 0, none⟩

def failed (f : Failure) : Output :=
  match f with
  | .analyzerExit code => ⟨"", "", code.getD 0, none⟩
  | _ => ⟨"", "", 1, some f⟩

def ofExcept (r : Except Failure String) : Output :=
  match r with
  | .ok s => told s
  | .error f => failed f

end Output

structure Settings where
  config : Option Path
  verbose : Bool
  debug : Bool

def Settings.shows (s : Settings) : TemplateLint.Level → Bool
  | .debug => s.debug
  | .info => s.debug || s.verbose

def Settings.log (s : Settings) (events : List Event) : String :=
  String.join <| events.filterMap fun
    | .log level part text => if s.shows level then some (Output.line (part.name ++ ": " ++ text)) else none
    | _ => none

inductive Request where
  | config (validate json : Bool)
  | lint (paths : List Path) (format : Option OutputFormat) (showSource : Option Bool)

/-- What the words of a call come to: the settings of the program, and the request. Either may end the call with an output
of its own; the request does so only after the configuration has been loaded. -/
abbrev Parser := Site → List String → Except Output (Settings × Except Output Request)

def runConfig (config : Config) (rcfile : Option String) (validate json : Bool) : Output :=
  if validate then .told ("Configuration valid: " ++ config.pathText)
  else if json then .ofExcept (config.toJson rcfile)
  else .ofExcept (config.describe rcfile)

def runLint (reader : Template.Reader) (site : Site) (analyzer : Analyzer) (rcfile : Option String) (s : Settings)
    (config : Config) (paths : List Path) (format : Option OutputFormat) (showSource : Option Bool) : Output :=
  let config := { config with
    format := format.getD config.format
    showSource := showSource.getD config.showSource }
  let run := Run.lintPaths reader site (Analyzer.run analyzer rcfile) config (if paths = [] then [.ofString "."] else paths)
  let log := s.log run.events
  match run.outcome with
  | .ok result => ⟨Output.line (result.report config), log, result.exitCode, none⟩
  | .error f => { Output.failed f with stderr := log }

def run (parser : Parser) (reader : Template.Reader) (site : Site) (analyzer : Analyzer) (rcfile : Option String)
    (words : List String) : Output :=
  match parser site words with
  | .error output => output
  | .ok (s, request) =>
    match Config.load site s.config with
    | .error (.config fault path) =>
      let place := (path.map fun p => Output.line ("  in: " ++ p.toText)).getD ""
      ⟨"", Output.line ("Error: " ++ fault.message) ++ place, 1, none⟩
    | .error f => .failed f
    | .ok config =>
      match request with
      | .error output => output
      | .ok (.config validate json) => runConfig config rcfile validate json
      | .ok (.lint paths format showSource) => runLint reader site analyzer rcfile s config paths format showSource

end TemplateLint.CommandLine
