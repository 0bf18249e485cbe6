-- Characters by their names. Case does not matter, except in the names of Korean syllables and of
-- Chinese characters, which follow from the sounds of the one and from the number of the other.

import SourceAudit.Text.CharacterNames
import SourceAudit.Text.Digits

namespace SourceAudit.Text

/-! ## Names from the tables -/

/-- The words between spaces, where the first one has begun with `current`, nearest character
first. -/
def wordsFrom (current : List Char) : List Char → List (List Char)
  | [] => [current.reverse]
  | ' ' :: rest => current.reverse :: wordsFrom [] rest
  | c :: rest => wordsFrom (c :: current) rest

/-- The entries of a block: how many words a name takes over, and its own words. The first one has
begun with `current`, nearest character first. -/
def nameEntries (shared : Nat) (current : List Char) : List Char → List (Nat × List (List Char))
  | [] => [(shared, wordsFrom [] current.reverse)]
  | c :: rest =>
    if c.isLower then
      (shared, wordsFrom [] current.reverse) :: nameEntries (c.toNat - 97) [] rest
    else nameEntries shared (c :: current) rest

/-- The number of the name that consists of some words, where the next entry is of a number and
`previous` are the words of the name before it. -/
def numberOfName? (wanted previous : List (List Char)) (number : Nat) :
    List (Nat × List (List Char)) → Option Nat
  | [] => none
  | (shared, own) :: rest =>
    let words := previous.take shared ++ own
    if words = wanted then some number else numberOfName? wanted words (number + 1) rest

/-- The character of a block that has a name. Nothing stands before the first entry. -/
def NameBlock.find? (block : NameBlock) (wanted : List (List Char)) : Option Nat :=
  numberOfName? wanted [] block.first (nameEntries 0 [] (String.join block.names).toList).tail

/-! ## Names with numbers in them -/

/-- A number lies in one of some ranges. -/
def liesIn (ranges : List (Nat × Nat)) (n : Nat) : Bool :=
  ranges.any fun (first, last) => first ≤ n && n ≤ last

/-- Beginnings of names that end in the number of the character, and the numbers of these
characters. -/
def numberedNames : List (String × List (Nat × Nat)) :=
  [("CJK COMPATIBILITY IDEOGRAPH-", [(0xF900, 0xFA6D), (0xFA70, 0xFAD9), (0x2F800, 0x2FA1D)]),
    ("KHITAN SMALL SCRIPT CHARACTER-", [(0x18B00, 0x18CD5)]),
    ("NUSHU CHARACTER-", [(0x1B170, 0x1B2FB)])]

/-- The numbers of Chinese characters. -/
def ideographs : List (Nat × Nat) :=
  [(0x3400, 0x4DBF), (0x4E00, 0x9FFF), (0x20000, 0x2A6DF), (0x2A700, 0x2B738),
    (0x2B740, 0x2B81D), (0x2B820, 0x2CEA1), (0x2CEB0, 0x2EBE0), (0x30000, 0x3134A)]

/-- A number in capital digits, of which there are as many as it needs, but four at least. -/
def ownNumber? (digits : List Char) : Option Nat :=
  let n := numberOf 16 digits
  if digits.all isHex ∧ digits.length = max 4 (Nat.toDigits 16 n).length then some n else none

/-- The character whose name ends in its number. -/
def numberedName? (name : List Char) : Option Nat :=
  numberedNames.findSome? fun (beginning, ranges) =>
    if beginning.toList.isPrefixOf name then
      (ownNumber? (name.drop beginning.length)).filter (liesIn ranges)
    else none

/-- A capital digit of base sixteen. -/
def isCapitalHex (c : Char) : Bool :=
  isHex c && !c.isLower

/-- The Chinese character that four or five digits stand for. -/
def ideograph? (digits : List Char) : Option Nat :=
  if (digits.length = 4 ∨ digits.length = 5) ∧ digits.all isCapitalHex then
    some (numberOf 16 digits) |>.filter (liesIn ideographs)
  else none

/-! ## Korean syllables -/

/-- The sounds that a syllable begins with, in the middle, and at the end. -/
def leadingSounds : List String :=
  ["G", "GG", "N", "D", "DD", "R", "M", "B", "BB", "S", "SS", "", "J", "JJ", "C", "K", "T", "P",
    "H"]

@[inherit_doc leadingSounds]
def middleSounds : List String :=
  ["A", "AE", "YA", "YAE", "EO", "E", "YEO", "YE", "O", "WA", "WAE", "OE", "YO", "U", "WEO", "WE",
    "WI", "YU", "EU", "YI", "I"]

@[inherit_doc leadingSounds]
def trailingSounds : List String :=
  ["", "G", "GG", "GS", "N", "NJ", "NH", "D", "L", "LG", "LM", "LB", "LS", "LT", "LP", "LH", "M",
    "B", "BS", "S", "SS", "NG", "J", "C", "K", "T", "P", "H"]

/-- The place of the longest sound that characters begin with, and what stands behind it. -/
def takeSound? (sounds : List String) (cs : List Char) : Option (Nat × List Char) :=
  let fitting := sounds.zipIdx.filter fun (sound, _) => sound.toList.isPrefixOf cs
  let longest := (fitting.map fun (sound, _) => sound.length).foldl max 0
  (fitting.find? fun (sound, _) => sound.length = longest).map fun (sound, place) =>
    (place, cs.drop sound.length)

/-- The syllable that sounds stand for. -/
def syllable? (cs : List Char) : Option Nat := do
  let (leading, cs) ← takeSound? leadingSounds cs
  let (middle, cs) ← takeSound? middleSounds cs
  let (trailing, cs) ← takeSound? trailingSounds cs
  if cs.isEmpty then some (0xAC00 + (leading * 21 + middle) * 28 + trailing) else none

/-! ## All names -/

/-- What stands behind a beginning, if characters begin with it. -/
def behind? (beginning : String) (cs : List Char) : Option (List Char) :=
  if beginning.toList.isPrefixOf cs then some (cs.drop beginning.length) else none

/-- The number of the character with a name. -/
def namedCharacter? (name : List Char) : Option Nat :=
  match behind? "HANGUL SYLLABLE " name, behind? "CJK UNIFIED IDEOGRAPH-" name with
  | some sounds, _ => syllable? sounds
  | none, some digits => ideograph? digits
  | none, none =>
    let name := name.map Char.toUpper
    ((nameAliases.lookup (String.ofList name)).or (numberedName? name)).or
      (nameBlocks.findSome? fun block => block.find? (wordsFrom [] name))

end SourceAudit.Text
