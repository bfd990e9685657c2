import TemplateLint.Diagnostic.Report
import TemplateLint.Discovery
import TemplateLint.Linter

namespace TemplateLint

namespace Template

def ofFile (reader : Reader) (site : Discovery.Site) (file : Path) : Template :=
  match FileTree.bytes site.root site.cwd file with
  | .error f => .unreadable file s!"Cannot read file: {f.message file.toText}"
  | .ok bytes =>
    match Text.decodeUtf8 bytes with
    | .error f => .unreadable file s!"Encoding error: {f.message}"
    | .ok text => .ofSource reader (String.ofList (Text.unifyNewlines text.toList)) (some file)

end Template

namespace Run

structure Result where
  diagnostics : Diagnostics
  filesChecked : Nat

def Result.exitCode (r : Result) : Nat := if r.diagnostics.hasErrors then 1 else 0

def Result.report (r : Result) (config : Config) : String :=
  r.diagnostics.results config.format config.showSource r.filesChecked

def lintTemplate (invoke : Linter.Invoker) (config : Config) (t : Template) : Traced Diagnostics :=
  match t.rejection? with
  | some d => return [d]
  | none => do
    if config.isEnabled linterName then
      let found ← Linter.check invoke config.linter.ignored t
      Traced.log .debug .run s!"{t.label}: {found.length} diagnostics from {linterName}"
      return found
    else return []

def lintFiles (reader : Template.Reader) (site : Discovery.Site) (invoke : Linter.Invoker) (config : Config) :
    List Path → Traced Diagnostics
  | [] => return []
  | file :: files => do
    Traced.log .debug .run s!"Checking {file}"
    let found ← lintTemplate invoke config (.ofFile reader site file)
    let rest ← lintFiles reader site invoke config files
    return found ++ rest

def lintPaths (reader : Template.Reader) (site : Discovery.Site) (invoke : Linter.Invoker) (config : Config)
    (paths : List Path) : Traced Result := do
  let files ← Discovery.scan site paths config
  Traced.log .info .run s!"Found {files.length} files"
  let diagnostics ← lintFiles reader site invoke config files
  Traced.log .info .run "Completed in 0.00s"
  return ⟨diagnostics, files.length⟩

def lintSource (reader : Template.Reader) (invoke : Linter.Invoker) (config : Config) (source : String) (file : Option Path) :
    Traced Diagnostics :=
  lintTemplate invoke config (.ofSource reader source file)

end Run

end TemplateLint
