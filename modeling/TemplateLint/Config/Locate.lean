import TemplateLint.Config.Settings
import TemplateLint.Discovery
import TemplateLint.Value.Toml.Document

namespace TemplateLint.Config

open Discovery

def documentName : String := "pyproject.toml"

def find? (site : Site) (start : Path) : Except Failure (Option Path) := do
  let resolved ← resolve site start
  return (resolved.ancestors.map fun directory => directory.child documentName).find? (FileTree.isFile site.root [])

def subtable (v : Value) (key : String) : Except Failure Value :=
  match v with
  | .table entries => .ok ((Table.get? entries key).getD (.table []))
  | _ => .error (.notTable v)

def settingsIn (document : Table) : Except Failure Table := do
  let tool ← subtable (.table document) "tool"
  match ← subtable tool "makolint" with
  | .table settings => return settings
  | v => .error (.notTable v)

def loadFile (site : Site) (path : Path) : Except Failure Config := do
  match FileTree.bytes site.root site.cwd path with
  | .error f => .error (.config (.unreadable (f.message path.toText)) (some path))
  | .ok bytes =>
    match Text.decodeUtf8 bytes with
    | .error f => .error (.undecodable f)
    | .ok text =>
      match Toml.read? text with
      | none => .error (.config .notToml (some path))
      | some document => Settings.toConfig (← settingsIn document) (some path)

def load (site : Site) (path : Option Path) : Except Failure Config := do
  let found ← match path with
    | some p => pure (some p)
    | none => find? site (.ofString ".")
  match found with
  | some p => loadFile site p
  | none => return {}

end TemplateLint.Config
