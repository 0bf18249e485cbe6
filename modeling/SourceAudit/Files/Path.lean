-- Paths. A path is a root, which a relative path does not have, and the names below it. Empty
-- names and single points are not kept; a name of two points is.

import SourceAudit.Text.WideText

namespace SourceAudit.Files

/-- A path. The root is empty, one slash or two. -/
structure Path where
  root : String
  parts : List String
  deriving DecidableEq, Repr, Inhabited

namespace Path

/-- The names between slashes, where the first one has begun with `current`, nearest character
first. -/
def namesFrom (current : List Char) : List Char → List String
  | [] => [String.ofList current.reverse]
  | c :: rest =>
    if c = '/' then String.ofList current.reverse :: namesFrom [] rest
    else namesFrom (c :: current) rest

/-- Two slashes in front are a root of their own; any other number counts as one. -/
def rootOf : List Char → String
  | '/' :: '/' :: '/' :: _ => "/"
  | '/' :: '/' :: _ => "//"
  | '/' :: _ => "/"
  | _ => ""

/-- Reads a path. -/
def ofString (text : String) : Path where
  root := rootOf text.toList
  parts := (namesFrom [] text.toList).filter fun name => name ≠ "" ∧ name ≠ "."

/-- The written form. A path without root and names is a single point. -/
def toString (path : Path) : String :=
  if path.root = "" ∧ path.parts = [] then "."
  else path.root ++ "/".intercalate path.parts

/-- The written form of the path that a text stands for, whose names may have surrogates. -/
def writtenForm (text : WideText) : WideText :=
  let root : WideText :=
    if text.startsWith "///" then "/"
    else if text.startsWith "//" then "//"
    else if text.startsWith "/" then "/"
    else ""
  let names := (text.parts '/').filter fun (name : WideText) => !name.isEmpty && name != "."
  if root.isEmpty ∧ names = [] then "." else root ++ .intercalate "/" names

/-- The path contains the character that ends texts, which no name may have. -/
def containsZero (path : Path) : Bool :=
  path.parts.any fun name => name.toList.contains '\x00'

/-- How many bytes a path may have. -/
def sizeLimit : Nat := 4095

/-- The path is longer than any path that can be followed. -/
def isTooLong (path : Path) : Bool :=
  sizeLimit < path.toString.utf8ByteSize

/-- The last name, or nothing. -/
def name (path : Path) : String :=
  path.parts.getLast?.getD ""

/-- The path of something below. -/
def below (path : Path) (names : List String) : Path :=
  { path with parts := path.parts ++ names }

/-- The path that `other` names for someone who stands at `path`. -/
def join (path other : Path) : Path :=
  if other.root = "" then path.below other.parts else other

/-- The path without its last name. -/
def parent (path : Path) : Path :=
  { path with parts := path.parts.dropLast }

end Path

/-! ## Suffixes -/

/-- The end of a name from its last point on. A point that is the first or the last character
starts no suffix. -/
def suffixOf (name : String) : String :=
  let backwards := name.toList.reverse
  let tail := backwards.takeWhile (· != '.')
  match backwards.drop tail.length with
  | _ :: _ :: _ => if tail.isEmpty then "" else String.ofList ('.' :: tail.reverse)
  | _ => ""

/-- The suffix of the last name. -/
def Path.suffix (path : Path) : String :=
  suffixOf path.name

end SourceAudit.Files
