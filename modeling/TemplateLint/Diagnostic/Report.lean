import TemplateLint.Config.Basic
import TemplateLint.Diagnostic.Basic
import TemplateLint.Value.Json.Printer

namespace TemplateLint.Diagnostic

open Text

def headline (d : Diagnostic) : String :=
  let file := (d.file.map Path.toText).getD "<stdin>"
  s!"{file}:{d.location.line}:{d.location.column}: {d.severity.heading} [{d.rule}] {d.message}"

def carets (d : Diagnostic) : String :=
  let length := (d.location.length.filter (· ≠ 0)).getD 1
  String.ofList (List.replicate (4 + (d.location.column - 1).toNat) ' ' ++ List.replicate (max 1 length).toNat '^')

def textLines (showSource : Bool) (d : Diagnostic) : List String :=
  match d.sourceLine with
  | some line => if showSource then [d.headline, "    " ++ line, d.carets, ""] else [d.headline]
  | none => [d.headline]

def toValue (includeSource : Bool) (d : Diagnostic) : Value :=
  .table <| [
    ("file", .ofOption (d.file.map Path.toText)),
    ("line", .int d.location.line),
    ("column", .int d.location.column),
    ("end_line", .ofInt? d.location.endLine),
    ("end_column", .ofInt? d.location.endColumn),
    ("length", .ofInt? d.location.length),
    ("linter", .str d.linter),
    ("code", .str d.code),
    ("severity", .str d.severity.word),
    ("message", .str d.message)] ++ if includeSource then [("source_line", .ofOption d.sourceLine)] else []

end TemplateLint.Diagnostic

namespace TemplateLint.Diagnostics

open Text

def textReport (ds : Diagnostics) (showSource : Bool) : String :=
  joinStrings "\n" (ds.sorted.flatMap (Diagnostic.textLines showSource))

def jsonReport (ds : Diagnostics) (showSource : Bool) : String :=
  Json.render (.list (ds.sorted.map (Diagnostic.toValue showSource)))

def report (ds : Diagnostics) (format : OutputFormat) (showSource : Bool) : String :=
  match format with
  | .text => ds.textReport showSource
  | .json => ds.jsonReport showSource

def counted (n : Nat) (noun : String) : String := if n = 1 then s!"{n} {noun}" else s!"{n} {noun}s"

def summary (ds : Diagnostics) : String :=
  let errors := if ds.errorCount = 0 then [] else [counted ds.errorCount "error"]
  let warnings := if ds.warningCount = 0 then [] else [counted ds.warningCount "warning"]
  match errors ++ warnings with
  | [] => "No issues found."
  | tally => "Found " ++ joinStrings ", " tally ++ "."

def results (ds : Diagnostics) (format : OutputFormat) (showSource : Bool) (filesChecked : Nat) : String :=
  let report := ds.report format showSource
  joinStrings "\n"
    ((if report = "" then [] else [report]) ++ [ds.summary, "Checked " ++ counted filesChecked "file" ++ "."])

end TemplateLint.Diagnostics
