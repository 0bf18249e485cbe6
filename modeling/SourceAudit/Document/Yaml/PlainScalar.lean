-- What a scalar is taken for. A plain one is a truth value, a number, a time or nothing if it is
-- spelled like one, and a text otherwise; a tag in front of it decides by itself.

import SourceAudit.Document.Yaml.MomentText
import SourceAudit.Number.Integer
import SourceAudit.Text.Digits

namespace SourceAudit.Document.Yaml

open SourceAudit.Number (splitSign)
open SourceAudit.Text (isHex isOctal)

/-! ## Words -/

/-- A word that stands for a truth value. -/
def isTruthWord (word : String) : Bool :=
  ["yes", "Yes", "YES", "no", "No", "NO", "true", "True", "TRUE", "false", "False", "FALSE",
    "on", "On", "ON", "off", "Off", "OFF"].contains word

/-- A word that stands for nothing. -/
def isNothing (word : String) : Bool :=
  ["", "~", "null", "Null", "NULL"].contains word

/-! ## Whole numbers -/

/-- The parts between the colons of a text whose first part has begun with `current`, nearest
character first. -/
def colonParts (current : List Char) : List Char → List (List Char)
  | [] => [current.reverse]
  | ':' :: rest => current.reverse :: colonParts [] rest
  | c :: rest => colonParts (c :: current) rest

/-- Digits, between which there may be underscores. -/
def areDigits (isDigit : Char → Bool) (cs : List Char) : Bool :=
  cs.all fun c => isDigit c || c == '_'

/-- A decimal digit, and behind it digits and underscores. -/
def isDecimalNumber (cs : List Char) : Bool :=
  (cs.headD '_').isDigit && areDigits Char.isDigit cs

/-- A part of a number of base sixty. -/
def isSixtieth : List Char → Bool
  | [d] => d.isDigit
  | [d, e] => '0' ≤ d && d ≤ '5' && e.isDigit
  | _ => false

/-- A whole number without a sign: with base two, eight or sixteen behind a zero, else with base
ten, or sixty between colons. -/
def isMagnitude : List Char → Bool
  | ['0'] => true
  | '0' :: 'b' :: rest => !rest.isEmpty && areDigits (fun c => c == '0' || c == '1') rest
  | '0' :: 'x' :: rest => !rest.isEmpty && areDigits isHex rest
  | '0' :: rest => areDigits isOctal rest
  | cs =>
    match colonParts [] cs with
    | first :: more => isDecimalNumber first && more.all isSixtieth
    | [] => false

/-- A whole number. -/
def isWhole (cs : List Char) : Bool :=
  isMagnitude (splitSign cs).2

/-! ## Numbers with a point -/

/-- A power of ten with its mark, a sign and digits, or nothing. -/
def isPower : List Char → Bool
  | [] => true
  | mark :: sign :: digits =>
    (mark == 'e' || mark == 'E') && (sign == '+' || sign == '-') && !digits.isEmpty &&
      digits.all Char.isDigit
  | _ => false

/-- What may stand behind a point: digits and underscores, and a power of ten. -/
def isBehindPoint (cs : List Char) : Bool :=
  isPower (cs.dropWhile fun c => c.isDigit || c == '_')

/-- A number of base sixty, up to its point. -/
def areSixtieths (cs : List Char) : Bool :=
  match colonParts [] cs with
  | first :: second :: more => isDecimalNumber first && (second :: more).all isSixtieth
  | _ => false

/-- A number with a point, an infinity, or what is no number. -/
def isReal (cs : List Char) : Bool :=
  let body := (splitSign cs).2
  let before := body.takeWhile (· != '.')
  match body.drop before.length with
  | [] => false
  | _ :: behind =>
    [".nan", ".NaN", ".NAN"].contains (String.ofList cs) ||
      [".inf", ".Inf", ".INF"].contains (String.ofList body) ||
      (isDecimalNumber before && isBehindPoint behind) ||
      (cs.head? == some '.' && (behind.headD '_').isDigit && isBehindPoint behind) ||
      (areSixtieths before && areDigits Char.isDigit behind)

/-! ## Tags -/

/-- The kind of value that a node stands for. -/
inductive Tag where
  | null
  | bool
  | int
  | float
  | binary
  | moment
  | text
  | list
  | map
  | set
  | orderedMap
  | pairs
  | merge
  | default
  | other (name : String)
  deriving DecidableEq, Repr

namespace Tag

/-- What a text is spelled like. -/
def ofSpelling (text : String) : Tag :=
  if isTruthWord text then .bool
  else if isReal text.toList then .float
  else if isWhole text.toList then .int
  else if text = "<<" then .merge
  else if isNothing text then .null
  else if isMomentText text.toList then .moment
  else if text = "=" then .default
  else .text

/-- A text without the line feed at its end, if there is one. -/
def withoutLineFeed (text : String) : String :=
  let cs := text.toList
  if cs.getLast? = some '\n' then String.ofList cs.dropLast else text

/-- The tag of a plain scalar. A line feed at the end does not count, unless it is all there
is. -/
def ofPlain (text : String) : Tag :=
  if text = "\n" then .text else ofSpelling (withoutLineFeed text)

/-- The tag that a name in full stands for. -/
def ofName (name : String) : Tag :=
  match name with
  | "tag:yaml.org,2002:null" => .null
  | "tag:yaml.org,2002:bool" => .bool
  | "tag:yaml.org,2002:int" => .int
  | "tag:yaml.org,2002:float" => .float
  | "tag:yaml.org,2002:binary" => .binary
  | "tag:yaml.org,2002:timestamp" => .moment
  | "tag:yaml.org,2002:str" => .text
  | "tag:yaml.org,2002:seq" => .list
  | "tag:yaml.org,2002:map" => .map
  | "tag:yaml.org,2002:set" => .set
  | "tag:yaml.org,2002:omap" => .orderedMap
  | "tag:yaml.org,2002:pairs" => .pairs
  | "tag:yaml.org,2002:merge" => .merge
  | "tag:yaml.org,2002:value" => .default
  | name => .other name

/-- The tag of a scalar. A lone exclamation mark has it read as if it were plain, and a text with
surrogates is spelled like nothing else. -/
def ofScalar (name : Option String) (plain : Bool) (text : WideText) : Tag :=
  let spelled := (text.text?.map ofPlain).getD .text
  match name with
  | none => if plain then spelled else .text
  | some name => if name = "!" then spelled else ofName name

/-- The tag of a sequence. -/
def ofSequence (name : Option String) : Tag :=
  match name with
  | none => .list
  | some name => if name = "!" then .list else ofName name

/-- The tag of a mapping. -/
def ofMapping (name : Option String) : Tag :=
  match name with
  | none => .map
  | some name => if name = "!" then .map else ofName name

/-- The values of the kind have parts, which are read after the value itself has been made. -/
def isCompound : Tag → Bool
  | list | map | set | orderedMap | pairs => true
  | _ => false

end Tag

end SourceAudit.Document.Yaml
