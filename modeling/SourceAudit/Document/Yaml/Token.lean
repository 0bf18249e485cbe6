-- The tokens of a document: what a text consists of once its layout has been turned into
-- beginnings and ends of blocks. Also what can be wrong with a document.

import SourceAudit.Breakdown

namespace SourceAudit.Document.Yaml

/-- A line in front of a document that says how to read it. -/
inductive Directive where
  | version (major : Nat)
  | handle (name expansion : String)
  | other
  deriving DecidableEq, Repr

/-- A token. A scalar is plain if neither quotes nor an indicator mark it; a tag has a handle or is
written out. -/
inductive Token where
  | directive (directive : Directive)
  | documentStart
  | documentEnd
  | blockSequence
  | blockMapping
  | blockEnd
  | blockEntry
  | flowSequence
  | flowSequenceEnd
  | flowMapping
  | flowMappingEnd
  | flowEntry
  | key
  | value
  | reference (name : String)
  | anchor (name : String)
  | tag (handle : Option String) (suffix : String)
  | scalar (text : WideText) (plain : Bool)
  deriving DecidableEq, Repr

/-- Why a text is no document, or why it is given up. -/
inductive Fault where
  | notPrintable
  | strayCharacter
  | keyWithoutValue
  | entryNotAllowed
  | keyNotAllowed
  | valueNotAllowed
  | unbalancedBracket
  | badDirective
  | badName
  | badTag
  | badBlockHeader
  | unknownEscape
  | openQuotes
  | markInQuotes
  | unsupportedVersion
  | repeatedDirective
  | documentStartExpected
  | unknownHandle
  | contentExpected
  | blockEndExpected
  | separatorExpected
  | severalDocuments
  | unknownAlias
  | repeatedAnchor
  | kindMismatch
  | badMerge
  | compoundKey
  | badBase64
  | broken (cause : Breakdown)
  deriving DecidableEq, Repr

/-- What is said of a text that is no document. -/
def Fault.message : Fault → String
  | notPrintable => "a character is not allowed"
  | strayCharacter => "a character cannot begin anything"
  | keyWithoutValue => "a key lacks its colon"
  | entryNotAllowed => "an entry is not allowed here"
  | keyNotAllowed => "a key is not allowed here"
  | valueNotAllowed => "a value is not allowed here"
  | unbalancedBracket => "a bracket closes nothing"
  | badDirective => "a directive is malformed"
  | badName => "a name is malformed"
  | badTag => "a tag is malformed"
  | badBlockHeader => "the first line of a block of text is malformed"
  | unknownEscape => "an escape is unknown"
  | openQuotes => "quotes are not closed"
  | markInQuotes => "a document ends inside quotes"
  | unsupportedVersion => "the version is not supported"
  | repeatedDirective => "a directive is given twice"
  | documentStartExpected => "the start of a document is missing"
  | unknownHandle => "a tag has an unknown handle"
  | contentExpected => "a value is missing"
  | blockEndExpected => "a block does not end where it should"
  | separatorExpected => "a comma or a closing bracket is missing"
  | severalDocuments => "there is more than one document"
  | unknownAlias => "an alias refers to nothing"
  | repeatedAnchor => "an anchor is used twice"
  | kindMismatch => "a value is not of the kind that its tag names"
  | badMerge => "only mappings can be merged"
  | compoundKey => "a list or a mapping cannot be a key"
  | badBase64 => "a text does not stand for bytes"
  | broken cause => cause.message

/-- The tokens of a text, oldest first: all of them, or those before its first fault. -/
structure TokenStream where
  tokens : List Token
  fault : Option Fault
  deriving Repr

end SourceAudit.Document.Yaml
