-- The languages that rules are written for. A tag or a file suffix that names none of them
-- stands for an unknown language.

import SourceAudit.Document.Value
import SourceAudit.Files.Path

namespace SourceAudit

open SourceAudit.Document

/-- A source language. -/
inductive Language where
  | javascript
  | typescript
  | python
  | java
  | go
  | ruby
  | php
  | c
  | cpp
  | csharp
  | unknown
  deriving DecidableEq, Repr

namespace Language

/-- All languages, the unknown one last. -/
def all : List Language :=
  [javascript, typescript, python, java, go, ruby, php, c, cpp, csharp, unknown]

/-- The tag of a language. -/
def name : Language → String
  | javascript => "javascript"
  | typescript => "typescript"
  | python => "python"
  | java => "java"
  | go => "go"
  | ruby => "ruby"
  | php => "php"
  | c => "c"
  | cpp => "cpp"
  | csharp => "csharp"
  | unknown => "unknown"

/-- All languages in the order of their tags. -/
def byName : List Language :=
  [c, cpp, csharp, go, java, javascript, php, python, ruby, typescript, unknown]

/-- The languages of a list, each once, in the order of their tags. -/
def sorted (languages : List Language) : List Language :=
  byName.filter languages.contains

/-! ## Tags -/

/-- Other tags in use for a language. -/
def aliases : List (WideText × Language) :=
  [("js", javascript), ("node", javascript), ("ts", typescript), ("py", python), ("golang", go),
    ("rb", ruby), ("c#", csharp), ("cs", csharp), ("c++", cpp)]

/-- The language that a tag in lower case names, if it names one. -/
def ofName? (tag : WideText) : Option Language :=
  (aliases.lookup tag).or (all.find? fun language => language.name = tag)

/-- The language that a text names, whatever its case and the white space around it. -/
def ofText (text : WideText) : Language :=
  (ofName? text.trim.lowercase).getD unknown

/-- The language that a value names. A value that counts as nothing names none. -/
def ofValue (value : Value) : Language :=
  if value.isFalsy then unknown else ofText value.shown

/-! ## Files -/

/-- The suffixes of source files. -/
def suffixes : List (String × Language) :=
  [(".js", javascript), (".jsx", javascript), (".mjs", javascript), (".cjs", javascript),
    (".ts", typescript), (".tsx", typescript), (".py", python), (".java", java), (".go", go),
    (".rb", ruby), (".php", php), (".cs", csharp), (".c", c), (".h", c), (".cpp", cpp),
    (".cc", cpp), (".cxx", cpp), (".hpp", cpp)]

/-- The language of a file, told from its suffix in any case. -/
def ofPath (path : Files.Path) : Language :=
  (suffixes.lookup (Text.lowercase path.suffix)).getD unknown

end Language

end SourceAudit
