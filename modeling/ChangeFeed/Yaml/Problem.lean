import ChangeFeed.Text.Basic

/-!
Why a text is no YAML document that can be read.
-/

namespace ChangeFeed.Yaml

/-- Why a document cannot be read. -/
inductive SyntaxProblem where
  /-- A character that no document may have. -/
  | unprintable
  /-- A quote that is not closed, or an escape without meaning. -/
  | quoting
  /-- Something that cannot stand where it does. -/
  | misplaced
  /-- A key without its colon. -/
  | noColon
  /-- A directive that is malformed, given twice or for another version. -/
  | directive
  /-- An anchor or an alias without a name, or with one that is taken or unknown. -/
  | anchor
  /-- A tag that is malformed, or one whose handle is unknown. -/
  | tag
  /-- Collections too deep inside each other. -/
  | tooDeep
  /-- More than one document. -/
  | documents
  /-- A key that is a list or a table. -/
  | collectionKey
  /-- A merge of something that is no table. -/
  | merge
  /-- A scalar that is not what its tag says. -/
  | scalar
  /-- A tag that no value has. -/
  | special
  deriving DecidableEq, Repr

/-- The text of the error. -/
def SyntaxProblem.message : SyntaxProblem → Text
  | unprintable => "special characters are not allowed"
  | quoting => "found unexpected end of stream or unknown escape"
  | misplaced => "found unexpected content"
  | noColon => "could not find expected ':'"
  | directive => "found a directive that cannot be followed"
  | anchor => "found an anchor or an alias that names nothing"
  | tag => "found an undefined tag handle"
  | tooDeep => "found collections that are nested too deeply"
  | documents => "expected a single document in the stream"
  | collectionKey => "found unhashable key"
  | merge => "expected a mapping for merging"
  | scalar => "found a scalar that does not match its tag"
  | special => "could not determine a constructor"

end ChangeFeed.Yaml
