import TemplateLint.Template.Basic
import TemplateLint.Text.Literal

namespace TemplateLint.Lexer

inductive Cause where
  | undelimited (expected : List String)
  | noKeyword (text : String)
  | nothingToEnd (keyword text : String)
  | endsAnother (text opened : String)
  | noContinuation (keyword opened : String)
  | notPartial (text : String)
  | unsupported (keyword : String)
  | unknownTag (tag : String)
  | unknownAttribute (tag key : String)
  | embeddedExpression (tag key : String)
  | missingAttributes (names : List String)
  | namespaceUnnamed
  | namespaceTwoSources
  | definitionWithoutParentheses
  | blockSignature
  | anonymousArguments
  | unclosedTag (tag : String)
  | nothingToClose (name : String)
  | closesAnother (name opened : String)
  | unendedControl (keyword : String)
  -- In the words of the compiler.
  | python (message : String)
  deriving DecidableEq, Repr

def Cause.message : Cause → String
  | undelimited expected =>
    let expected := Text.joinStrings "," expected
    s!"Expected: {expected}; unterminated tag or expression beginning"
  | noKeyword text => s!"Invalid control line: '{text}'"
  | nothingToEnd keyword text => s!"No starting keyword '{keyword}' for '{text}'"
  | endsAnother text opened => s!"Keyword '{text}' doesn't match keyword '{opened}'"
  | noContinuation keyword opened => s!"Keyword '{keyword}' not a legal ternary for keyword '{opened}'"
  | notPartial text => s!"Fragment '{text}' is not a partial control statement"
  | unsupported keyword => s!"Unsupported control keyword: '{keyword}'"
  | unknownTag tag => s!"No such tag: '{tag}'"
  | unknownAttribute tag key => s!"Invalid attribute for tag '{tag}': '{key}'"
  | embeddedExpression tag key => s!"Attribute '{key}' in tag '{tag}' does not allow embedded expressions"
  | missingAttributes names =>
    let names := Text.joinStrings "," (names.map Text.quoted)
    s!"Missing attribute(s): {names}"
  | namespaceUnnamed => "'name' and/or 'import' attributes are required for <%namespace>"
  | namespaceTwoSources => "<%namespace> may only have one of 'file' or 'module'"
  | definitionWithoutParentheses => "Missing parenthesis in %def"
  | blockSignature => "%block may not specify an argument signature"
  | anonymousArguments => "Only named %blocks may specify args"
  | unclosedTag tag => s!"Unclosed tag: <%{tag}>"
  | nothingToClose name => s!"Closing tag without opening tag: </%{name}>"
  | closesAnother name opened => s!"Closing tag </%{name}> does not match tag: <%{opened}>"
  | unendedControl keyword => s!"Unterminated control keyword: '{keyword}'"
  | python message => message

structure Fault where
  cause : Cause
  place : Place
  deriving DecidableEq, Repr

def Fault.message (name : Option String) (f : Fault) : String :=
  let where_ := match name with
    | none => ""
    | some name => s!" in file '{name}'"
  s!"{f.cause.message}{where_} at line: {f.place.line} char: {f.place.column}"

end TemplateLint.Lexer
