import ScriptPress.Yaml.Cursor

/-!
# What can be wrong with a YAML text

A fault says what is wrong and where, and, where it helps, what was being read and where that
began. The wording is in `Fault.message` alone.
-/
namespace ScriptPress.Yaml

inductive Reading where
  | nextToken
  | simpleKey
  | directive
  | versionDirective
  | tagDirective
  | handleOfDirective
  | closedHandleOfDirective
  | uriOfDirective
  | anchor
  | alias
  | tag
  | uri
  | blockScalar
  | quotedScalar
  | escape
  | plainScalar
  | node
  | blockNode
  | flowNode
  | blockSequence
  | blockMapping
  | flowSequence
  | flowMapping
  deriving DecidableEq, Repr

def Reading.text : Reading → String
  | .nextToken => "while scanning for the next token"
  | .simpleKey => "while scanning a simple key"
  | .directive => "while scanning a directive"
  | .versionDirective => "while scanning a %YAML directive"
  | .tagDirective => "while scanning a %TAG directive"
  | .handleOfDirective => "while scanning a tag directive"
  | .closedHandleOfDirective => "while parsing a tag directive"
  | .uriOfDirective => "while parsing a %TAG directive"
  | .anchor => "while scanning an anchor"
  | .alias => "while scanning an alias"
  | .tag => "while scanning a tag"
  | .uri => "while parsing a tag"
  | .blockScalar => "while scanning a block scalar"
  | .quotedScalar => "while scanning a quoted scalar"
  | .escape => "while parsing a quoted scalar"
  | .plainScalar => "while scanning a plain scalar"
  | .node => "while parsing a node"
  | .blockNode => "while parsing a block node"
  | .flowNode => "while parsing a flow node"
  | .blockSequence => "while parsing a block collection"
  | .blockMapping => "while parsing a block mapping"
  | .flowSequence => "while parsing a flow sequence"
  | .flowMapping => "while parsing a flow mapping"

inductive Problem where
  | controlCharacter
  | noTokenStartsSo
  | noColonAfterKey
  | entryNotAllowed
  | keyNotAllowed
  | valueNotAllowed
  | noDirectiveName
  | badDirectiveName
  | unknownDirective
  | noLineEnd
  | noVersionDot
  | longVersion
  | noVersion
  | noTagMark
  | noBlankAfterHandle
  | noBlankAfterTag
  | noNameCharacter
  | noTagEnd
  | noTagUri
  | noEscapedOctet
  | badLeadingOctet
  | badTrailingOctet
  | zeroIndentation
  | tabInIndentation
  | documentSignInQuotes
  | endInQuotes
  | unknownEscape
  | noHexDigits
  | badCodePoint
  | colonInPlain
  | tabBeforePlain
  | noDocumentStart
  | secondVersion
  | otherVersion
  | secondHandle
  | unknownHandle
  | noContent
  | noDash
  | noKey
  | noCommaOrBracket
  | noCommaOrBrace
  | unknownAnchor
  | tooDeep
  deriving DecidableEq, Repr

def Problem.text : Problem → String
  | .controlCharacter => "control characters are not allowed"
  | .noTokenStartsSo => "found character that cannot start any token"
  | .noColonAfterKey => "could not find expected ':'"
  | .entryNotAllowed => "block sequence entries are not allowed in this context"
  | .keyNotAllowed => "mapping keys are not allowed in this context"
  | .valueNotAllowed => "mapping values are not allowed in this context"
  | .noDirectiveName => "could not find expected directive name"
  | .badDirectiveName => "found unexpected non-alphabetical character"
  | .unknownDirective => "found unknown directive name"
  | .noLineEnd => "did not find expected comment or line break"
  | .noVersionDot => "did not find expected digit or '.' character"
  | .longVersion => "found extremely long version number"
  | .noVersion => "did not find expected version number"
  | .noTagMark => "did not find expected '!'"
  | .noBlankAfterHandle => "did not find expected whitespace"
  | .noBlankAfterTag => "did not find expected whitespace or line break"
  | .noNameCharacter => "did not find expected alphabetic or numeric character"
  | .noTagEnd => "did not find the expected '>'"
  | .noTagUri => "did not find expected tag URI"
  | .noEscapedOctet => "did not find URI escaped octet"
  | .badLeadingOctet => "found an incorrect leading UTF-8 octet"
  | .badTrailingOctet => "found an incorrect trailing UTF-8 octet"
  | .zeroIndentation => "found an indentation indicator equal to 0"
  | .tabInIndentation => "found a tab character where an indentation space is expected"
  | .documentSignInQuotes => "found unexpected document indicator"
  | .endInQuotes => "found unexpected end of stream"
  | .unknownEscape => "found unknown escape character"
  | .noHexDigits => "did not find expected hexdecimal number"
  | .badCodePoint => "found invalid Unicode character escape code"
  | .colonInPlain => "found unexpected ':'"
  | .tabBeforePlain => "found a tab character that violates indentation"
  | .noDocumentStart => "did not find expected <document start>"
  | .secondVersion => "found duplicate %YAML directive"
  | .otherVersion => "found incompatible YAML document"
  | .secondHandle => "found duplicate %TAG directive"
  | .unknownHandle => "found undefined tag handle"
  | .noContent => "did not find expected node content"
  | .noDash => "did not find expected '-' indicator"
  | .noKey => "did not find expected key"
  | .noCommaOrBracket => "did not find expected ',' or ']'"
  | .noCommaOrBrace => "did not find expected ',' or '\x7d'"
  | .unknownAnchor => "unknown anchor"
  | .tooDeep => "recursion limit exceeded"

/-- What is wrong and where; for a character that may not be written, its offset in bytes. -/
structure Fault where
  problem : Problem
  mark : Mark
  offset : Nat
  reading : Option (Reading × Mark)
  deriving DecidableEq, Repr

def Fault.during (reading : Reading) (began : Mark) (problem : Problem) (mark : Mark) : Fault :=
  ⟨problem, mark, 0, some (reading, began)⟩

def Fault.plain (problem : Problem) (mark : Mark) : Fault := ⟨problem, mark, 0, none⟩

/-- The wording of a fault. Where its place is the start of the text, the offset is told instead,
and where the thing began is told only if that is another place. -/
def Fault.message (f : Fault) : String :=
  f.problem.text ++
    (if f.mark.at = "" ∧ f.offset ≠ 0 then " at position " ++ toString f.offset else f.mark.at) ++
    match f.reading with
    | none => ""
    | some (reading, began) =>
      ", " ++ reading.text ++
        (if began.line = f.mark.line ∧ began.column = f.mark.column then "" else began.at)

end ScriptPress.Yaml
