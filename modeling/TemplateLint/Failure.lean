import TemplateLint.Config.Problem
import TemplateLint.Path
import TemplateLint.Text.Literal
import TemplateLint.Text.Utf8
import TemplateLint.Value.Basic

namespace TemplateLint

inductive Failure where
  | noTree
  | noRejection
  | noPlace (line : Int)
  | config (fault : ConfigFault) (path : Option Path)
  | undecodable (fault : Text.DecodeFault)
  | notTable (found : Value)
  | notText (index : Nat) (found : Value)
  | notSearchable (found : Value)
  | notPattern (found : Value)
  | notPath (found : Value)
  | notJson (found : Value)
  | linkLoop (path : String)
  | analyzerCrash (message : String)
  | analyzerExit (code : Option Int)
  | misreported (reporter : String)

namespace Failure

def message : Failure → String
  | noTree => "parse_result must have a parse tree"
  | noRejection => "parse_result must have a syntax_error"
  | noPlace line => s!"{line}"
  | config fault _ => fault.message
  | undecodable fault => fault.message
  | notTable found => s!"'{found.fullKind}' object has no attribute 'get'"
  | notText index found => s!"sequence item {index}: expected str instance, {found.fullKind} found"
  | notSearchable found => s!"argument of type '{found.fullKind}' is not iterable"
  | notPattern found => s!"'{found.fullKind}' object has no attribute 'startswith'"
  | notPath found => s!"expected str, bytes or os.PathLike object, not {found.kind}"
  | notJson found => s!"Object of type {found.kind} is not JSON serializable"
  | linkLoop path =>
    let path := Text.quoted path
    s!"Symlink loop from {path}"
  | analyzerCrash message => message
  | analyzerExit (some code) => s!"{code}"
  | analyzerExit none => "None"
  | misreported reporter => s!"pylint reported through {reporter}, not OffenseCollector"

end Failure

end TemplateLint
