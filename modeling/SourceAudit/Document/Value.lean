-- Values of a parsed document: what a catalog or a configuration is read from. Also the two
-- ways a value is written in messages, bare and quoted, and which values count as nothing.
-- A value may contain itself; it is then a loop, and the places where it comes back are marked.
-- Not every value can be written: it may lie too deep, or have a number that is too long.

import SourceAudit.Breakdown
import SourceAudit.Calendar
import SourceAudit.Number.Binary64
import SourceAudit.Text.Quoted

namespace SourceAudit.Document

open SourceAudit.Calendar (Date Moment)
open SourceAudit.Number

/-- What a compound value looks like. -/
inductive Shape where
  | list
  | map
  | pair
  deriving DecidableEq, Repr

/-- What is written where a value of some shape comes back inside of itself. -/
def Shape.elided : Shape → String
  | list => "[...]"
  | map => "\x7b...\x7d"
  | pair => "(...)"

/-- A value of a document. A mapping keeps its entries in the order they were first written. A loop
is a value that contains itself, under a number of its own, and `back` stands for a loop inside of
it. -/
inductive Value where
  | null
  | bool (b : Bool)
  | int (n : Int)
  | float (x : Binary64)
  | text (s : WideText)
  | bytes (content : List UInt8)
  | date (day : Date)
  | moment (time : Moment)
  | list (items : List Value)
  | map (entries : List (Value × Value))
  | pair (first second : Value)
  | set (members : List Value)
  | loop (number : Nat) (body : Value)
  | back (number : Nat) (shape : Shape)
  deriving Repr

namespace Value

/-! ## Looking into a value -/

/-- What a value is called in messages. -/
def kindName : Value → String
  | null => "NoneType"
  | bool _ => "bool"
  | int _ => "int"
  | float _ => "float"
  | text _ => "str"
  | bytes _ => "bytes"
  | date _ => "date"
  | moment _ => "datetime"
  | list _ | back _ .list => "list"
  | map _ | back _ .map => "dict"
  | pair _ _ | back _ .pair => "tuple"
  | set _ => "set"
  | loop _ body => body.kindName

/-- A value that counts as nothing: null, false, zero, or empty. -/
def isFalsy : Value → Bool
  | null => true
  | bool b => !b
  | int n => n == 0
  | float x => x.isZero
  | text s => s.isEmpty
  | bytes bs => bs.isEmpty
  | list items => items.isEmpty
  | map entries => entries.isEmpty
  | set members => members.isEmpty
  | date _ | moment _ | pair _ _ | loop _ _ | back _ _ => false

mutual

/-- A value in whose places that come back to a loop the whole loop stands. -/
def withLoop (number : Nat) (whole : Value) : Value → Value
  | list items => list (withLoopItems number whole items)
  | map entries => map (withLoopEntries number whole entries)
  | pair first second => pair (withLoop number whole first) (withLoop number whole second)
  | loop other body => loop other (withLoop number whole body)
  | back other shape => if other = number then whole else back other shape
  | value => value

/-- Items in whose places that come back to a loop the whole loop stands. -/
def withLoopItems (number : Nat) (whole : Value) : List Value → List Value
  | [] => []
  | item :: rest => withLoop number whole item :: withLoopItems number whole rest

/-- Entries in whose places that come back to a loop the whole loop stands. -/
def withLoopEntries (number : Nat) (whole : Value) : List (Value × Value) → List (Value × Value)
  | [] => []
  | (key, value) :: rest =>
    (withLoop number whole key, withLoop number whole value) :: withLoopEntries number whole rest

end

/-- The items of a list. -/
def items? : Value → Option (List Value)
  | list items => some items
  | loop number (list items) => some (withLoopItems number (loop number (list items)) items)
  | _ => none

/-- The entries of a mapping. -/
def entries? : Value → Option (List (Value × Value))
  | map entries => some entries
  | loop number (map entries) => some (withLoopEntries number (loop number (map entries)) entries)
  | _ => none

/-- The value under a key that is a text, in the entries of a mapping. -/
def field? (entries : List (Value × Value)) (name : String) : Option Value :=
  entries.findSome? fun
    | (text key, value) => if key = name then some value else none
    | _ => none

/-- The value under a key, where a missing one is null. -/
def field (entries : List (Value × Value)) (name : String) : Value :=
  (field? entries name).getD null

/-! ## Written forms -/

/-- The shape of a compound value. -/
def shape : Value → Shape
  | map _ => .map
  | pair _ _ => .pair
  | _ => .list

mutual

/-- A value with its texts in quotes, inside of loops with some numbers. -/
def quotedIn (inside : List Nat) : Value → String
  | null => "None"
  | bool b => if b then "True" else "False"
  | int n => toString n
  | float x => x.text
  | text s => Text.quoted s
  | bytes bs => Text.quotedBytes bs
  | date d => d.quoted
  | moment m => m.quoted
  | list items => "[" ++ quotedItems inside items ++ "]"
  | map entries => "\x7b" ++ quotedEntries inside entries ++ "\x7d"
  | pair first second => "(" ++ quotedIn inside first ++ ", " ++ quotedIn inside second ++ ")"
  | set [] => "set()"
  | set (first :: rest) => "\x7b" ++ quotedItems inside (first :: rest) ++ "\x7d"
  | loop number body =>
    if inside.contains number then body.shape.elided else quotedIn (number :: inside) body
  | back _ shape => shape.elided

/-- Items, separated by commas. -/
def quotedItems (inside : List Nat) : List Value → String
  | [] => ""
  | [item] => quotedIn inside item
  | item :: rest => quotedIn inside item ++ ", " ++ quotedItems inside rest

/-- Entries, separated by commas. -/
def quotedEntries (inside : List Nat) : List (Value × Value) → String
  | [] => ""
  | [(key, value)] => quotedIn inside key ++ ": " ++ quotedIn inside value
  | (key, value) :: rest =>
    quotedIn inside key ++ ": " ++ quotedIn inside value ++ ", " ++ quotedEntries inside rest

end

/-- A value with its texts in quotes. -/
def quoted (value : Value) : String :=
  quotedIn [] value

/-- The text that a value is, if it is one. -/
def text? : Value → Option WideText
  | text s => some s
  | _ => none

/-- A value in words. A text stands for itself, and texts inside a list or a mapping are
quoted. -/
def shown : Value → WideText
  | text s => s
  | date d => d.shown
  | moment m => m.shown
  | value => value.quoted

/-! ## Values that cannot be written -/

/-- A whole number has more digits than are written. -/
def isTooLong (n : Int) : Bool :=
  Nat.pow 10 Breakdown.digitLimit ≤ n.natAbs

/-- How many values may lie inside each other where one is written. -/
def writingLimit : Nat := 988

mutual

/-- Why a value cannot be written inside of `depth` others, and of loops with some numbers: the
first thing that is too long or lies too deep. The members of a set are written as a list inside of
it. -/
def flawIn (inside : List Nat) (depth : Nat) (value : Value) : Option Breakdown :=
  if writingLimit ≤ depth then some .nestedTooDeep
  else match value with
    | int n => if isTooLong n then some (.tooManyDigits none) else none
    | list items => flawInItems inside (depth + 1) items
    | map entries => flawInEntries inside (depth + 1) entries
    | pair first second =>
      (flawIn inside (depth + 1) first).or (flawIn inside (depth + 1) second)
    | set members => flawInItems inside (depth + 2) members
    | loop number body =>
      if inside.contains number then none else flawIn (number :: inside) depth body
    | _ => none

/-- Why one of some items cannot be written. -/
def flawInItems (inside : List Nat) (depth : Nat) : List Value → Option Breakdown
  | [] => none
  | item :: rest => (flawIn inside depth item).or (flawInItems inside depth rest)

/-- Why one of some entries cannot be written. -/
def flawInEntries (inside : List Nat) (depth : Nat) :
    List (Value × Value) → Option Breakdown
  | [] => none
  | (key, value) :: rest =>
    ((flawIn inside depth key).or (flawIn inside depth value)).or
      (flawInEntries inside depth rest)

end

/-- Why a value cannot be written. A text needs no writing. -/
def flaw? : Value → Option Breakdown
  | text _ => none
  | value => flawIn [] 0 value

/-- A value in words, unless it cannot be written. -/
def words (value : Value) : Except Breakdown WideText :=
  match value.flaw? with
  | none => .ok value.shown
  | some cause => .error cause

theorem words_eq_ok_iff {value : Value} {text : WideText} :
    value.words = .ok text ↔ value.flaw? = none ∧ value.shown = text := by
  unfold words
  cases value.flaw? <;> simp

theorem words_eq_error_iff {value : Value} {cause : Breakdown} :
    value.words = .error cause ↔ value.flaw? = some cause := by
  unfold words
  cases value.flaw? <;> simp

/-- Whatever counts as nothing can be written. -/
theorem flaw?_of_isFalsy {value : Value} (h : value.isFalsy = true) : value.flaw? = none := by
  cases value with
  | int n =>
    obtain rfl : n = 0 := by simpa [isFalsy] using h
    have hpos : ∀ limit, Nat.pow 10 limit ≠ 0 := fun _ => Nat.ne_of_gt (Nat.pow_pos (by decide))
    have hshort : isTooLong 0 = false := by
      rw [isTooLong, decide_eq_false_iff_not, Int.natAbs_zero, Nat.le_zero]
      exact hpos _
    change flawIn [] 0 (int 0) = none
    rw [flawIn, if_neg (by decide), hshort]
    rfl
  | list items =>
    obtain rfl : items = [] := by simpa [isFalsy] using h
    rfl
  | set members =>
    obtain rfl : members = [] := by simpa [isFalsy] using h
    rfl
  | map entries =>
    obtain rfl : entries = [] := by simpa [isFalsy] using h
    rfl
  | pair first second => cases h
  | loop number body => cases h
  | _ => rfl

/-! ## Keys -/

/-- A value that may be a key of a mapping. -/
def isKey : Value → Bool
  | list _ | map _ | set _ | loop _ _ | back _ _ => false
  | _ => true

/-- The number that a value counts as in comparisons; truth values count as one and zero. -/
def wholeNumber? : Value → Option Int
  | bool b => some (if b then 1 else 0)
  | int n => some n
  | float x => x.toInt?
  | _ => none

/-- Two keys name the same entry. Equal numbers do, whatever their kind, and times that are the
same moment. -/
def sameKey (a b : Value) : Bool :=
  match a, b with
  | null, null => true
  | text s, text t => s == t
  | bytes s, bytes t => s == t
  | date d, date e => d == e
  | moment m, moment n => m.isSame n
  | float x, float y => x == y || (x.isZero && y.isZero)
  | _, _ =>
    match a.wholeNumber?, b.wholeNumber? with
    | some m, some n => m == n
    | _, _ => false

/-- Puts a value under a key. An entry that is there keeps its place and its key. -/
def insert (key value : Value) : List (Value × Value) → List (Value × Value)
  | [] => [(key, value)]
  | (k, v) :: rest =>
    if k.sameKey key then (k, value) :: rest else (k, v) :: insert key value rest

end Value

end SourceAudit.Document
