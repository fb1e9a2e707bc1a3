import DocViews.Text.Basic

/-!
# What can be wrong with YAML

The reasons why a text is no YAML stream of one document, in the order in which the stages of the
reader meet them: characters, tokens, structure, anchors.
-/

set_option autoImplicit false

namespace DocViews
namespace Yaml

inductive Problem where
  | unreadableCharacter
  | strayCharacter
  | directiveName
  | unknownDirective
  | directiveEnd
  | versionNumber
  | tagHandle
  | tagText
  | tagEscape
  | tagEnd
  | anchorName
  | scalarHeader
  | zeroIndentation
  | tabInIndentation
  | unclosedQuote
  | documentMarkInQuote
  | unknownEscape
  | escapedCode
  | colonInFlow
  | entryNotAllowed
  | keyNotAllowed
  | valueNotAllowed
  | keyWithoutColon
  | documentStart
  | repeatedVersion
  | foreignVersion
  | repeatedHandle
  | undefinedHandle
  | nodeContent
  | blockEntry
  | blockKey
  | flowEntry
  | flowKey
  | unfinished
  | unknownAnchor
  | severalDocuments
deriving DecidableEq, Repr

namespace Problem

def message : Problem → Text
  | unreadableCharacter => "control characters are not allowed".toList
  | strayCharacter => "found character that cannot start any token".toList
  | directiveName => "could not find expected directive name".toList
  | unknownDirective => "found unknown directive name".toList
  | directiveEnd => "did not find expected comment or line break".toList
  | versionNumber => "did not find expected version number".toList
  | tagHandle => "did not find expected tag handle".toList
  | tagText => "did not find expected tag text".toList
  | tagEscape => "found an incorrect escaped octet in a tag".toList
  | tagEnd => "did not find expected whitespace or line break after a tag".toList
  | anchorName => "did not find expected alphabetic or numeric character".toList
  | scalarHeader => "did not find expected comment or line break after a block scalar header".toList
  | zeroIndentation => "found an indentation indicator equal to 0".toList
  | tabInIndentation => "found a tab character that violates indentation".toList
  | unclosedQuote => "found unexpected end of stream in a quoted scalar".toList
  | documentMarkInQuote => "found unexpected document indicator in a quoted scalar".toList
  | unknownEscape => "found unknown escape character".toList
  | escapedCode => "found invalid escaped character code".toList
  | colonInFlow => "found unexpected ':'".toList
  | entryNotAllowed => "block sequence entries are not allowed in this context".toList
  | keyNotAllowed => "mapping keys are not allowed in this context".toList
  | valueNotAllowed => "mapping values are not allowed in this context".toList
  | keyWithoutColon => "could not find expected ':'".toList
  | documentStart => "did not find expected document start".toList
  | repeatedVersion => "found duplicate version directive".toList
  | foreignVersion => "found incompatible version".toList
  | repeatedHandle => "found duplicate tag directive".toList
  | undefinedHandle => "found undefined tag handle".toList
  | nodeContent => "did not find expected node content".toList
  | blockEntry => "did not find expected '-' indicator".toList
  | blockKey => "did not find expected key".toList
  | flowEntry => "did not find expected ',' or ']'".toList
  | flowKey => "did not find expected ',' or a closing brace".toList
  | unfinished => "found unexpected end of stream".toList
  | unknownAnchor => "unknown anchor".toList
  | severalDocuments => "found more than one document".toList

end Problem
end Yaml
end DocViews
