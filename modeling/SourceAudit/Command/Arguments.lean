-- The arguments of the command. Options may be shortened as long as only one is meant, take
-- their value behind an equals sign, in the next argument, or, in their short spelling, directly;
-- short options without a value may share a dash with others, even behind an equals sign. There is
-- nothing to name besides options.

import SourceAudit.Severity
import SourceAudit.Text.Category

namespace SourceAudit.Command

/-! ## Options -/

/-- An option of the command. -/
inductive CommandOption where
  | help
  | source
  | config
  | rules
  | language
  | failOn
  | format
  | output
  | noFixes
  | strict
  | verbose
  deriving DecidableEq, Repr

namespace CommandOption

/-- The spellings of all options, in the order in which they are listed. -/
def spellings : List (String × CommandOption) :=
  [("-h", help), ("--help", help), ("--source", source), ("-s", source), ("--config", config),
    ("--rules", rules), ("--language", language), ("--fail-on", failOn), ("--format", format),
    ("--out", output), ("--output", output), ("--no-fixes", noFixes), ("--strict", strict),
    ("--verbose", verbose), ("-v", verbose)]

/-- The option is followed by a value. -/
def takesValue : CommandOption → Bool
  | source | config | rules | language | failOn | format | output => true
  | help | noFixes | strict | verbose => false

/-- The values that an option may have, unless any will do. -/
def choices? : CommandOption → Option (List String)
  | failOn => some (Severity.all.map (·.name))
  | format => some ["json"]
  | _ => none

/-- All spellings of an option, as messages name it. -/
def title (option : CommandOption) : String :=
  "/".intercalate ((spellings.filter (·.2 = option)).map Prod.fst)

end CommandOption

/-! ## Faults -/

/-- Why arguments cannot be understood. -/
inductive UsageFault where
  | ambiguous (given : String) (candidates : List String)
  | valueMissing (option : CommandOption)
  | valueNotTaken (option : CommandOption) (value : String)
  | badChoice (option : CommandOption) (value : String) (choices : List String)
  | unrecognized (arguments : List String)
  deriving DecidableEq, Repr

/-- What is said of arguments that cannot be understood. -/
def UsageFault.message : UsageFault → String
  | ambiguous given candidates =>
    "ambiguous option: " ++ given ++ " could match " ++ ", ".intercalate candidates
  | valueMissing option => "argument " ++ option.title ++ ": expected one argument"
  | valueNotTaken option value =>
    "argument " ++ option.title ++ ": ignored explicit argument " ++ Text.quoted value
  | badChoice option value choices =>
    "argument " ++ option.title ++ ": invalid choice: " ++ Text.quoted value ++
      " (choose from " ++
      ", ".intercalate (choices.map fun choice => Text.quoted (.ofString choice)) ++ ")"
  | unrecognized arguments => "unrecognized arguments: " ++ " ".intercalate arguments

/-! ## What an argument is -/

/-- An argument, told apart by its beginning. An option may have a text attached, with or without
an equals sign. -/
inductive Argument where
  | word (text : String)
  | separator
  | given (option : CommandOption) (isShort : Bool) (attached : Option String)
  | unknown (text : String)
  deriving DecidableEq, Repr

namespace Argument

/-- The argument as it was given, where it is not an option. -/
def text : Argument → String
  | word text => text
  | unknown text => text
  | separator => "--"
  | given _ _ _ => ""

/-- A negative number. It is a value, and not an option. -/
def isNegativeNumber : List Char → Bool
  | '-' :: rest =>
    let rest := if rest.getLast? = some '\n' then rest.dropLast else rest
    let whole := rest.takeWhile Text.isDecimalDigit
    match rest.drop whole.length with
    | [] => !whole.isEmpty
    | '.' :: part => !part.isEmpty && part.all Text.isDecimalDigit
    | _ => false
  | _ => false

/-- What stands before the first equals sign, and the value behind it. -/
def splitAtSign (text : List Char) : String × Option String :=
  let before := text.takeWhile (· != '=')
  match text.drop before.length with
  | [] => (String.ofList before, none)
  | _ :: value => (String.ofList before, some (String.ofList value))

/-- The spelling begins with two dashes. -/
def isLong (spelling : String) : Bool :=
  spelling.startsWith "--"

/-- The options that an argument may stand for, with the spellings that it shortens. -/
def candidates (text : List Char) : List (String × Argument) :=
  match text with
  | '-' :: '-' :: _ =>
    let (start, attached) := splitAtSign text
    (CommandOption.spellings.filter fun (spelling, _) => spelling.startsWith start).map
      fun (spelling, o) => (spelling, given o false attached)
  | dash :: letter :: value =>
    let short := String.ofList [dash, letter]
    (CommandOption.spellings.filter (·.1 = short)).map fun (spelling, o) =>
      (spelling, given o true (if value.isEmpty then none else some (String.ofList value)))
  | _ => []

/-- Tells what an argument with a dash in front and something behind it is. -/
def ofDashed (text : String) : Except UsageFault Argument :=
  let cs := text.toList
  let (start, attached) := splitAtSign cs
  match CommandOption.spellings.lookup text, CommandOption.spellings.lookup start with
  | some o, _ => .ok (given o (!isLong text) none)
  | none, some o => .ok (given o (!isLong start) attached)
  | none, none =>
    match candidates cs with
    | [(_, argument)] => .ok argument
    | [] =>
      if isNegativeNumber cs ∨ cs.contains ' ' then .ok (word text) else .ok (unknown text)
    | several => .error (.ambiguous text (several.map Prod.fst))

/-- Tells what arguments are. Behind two dashes there are no more options. -/
def readAll : List String → Except UsageFault (List Argument)
  | [] => .ok []
  | text :: rest =>
    if text = "--" then .ok (separator :: rest.map word)
    else do
      let argument ← if text.startsWith "-" ∧ text ≠ "-" then ofDashed text else pure (word text)
      return argument :: (← readAll rest)

end Argument

/-! ## What the command is told to do -/

/-- What an option is given: a text, or two dashes, which stand for no text at all. -/
inductive Operand where
  | text (content : String)
  | dashes
  deriving DecidableEq, Repr

namespace Operand

/-- The operand that a text attached to an option is. -/
def ofAttached (text : String) : Operand :=
  if text = "--" then .dashes else .text text

/-- The text that is given, if there is one. -/
def text? : Operand → Option String
  | text content => some content
  | dashes => none

end Operand

/-- What the options choose. -/
structure Settings where
  sources : List Operand := []
  config : Option Operand := none
  rules : Option String := none
  language : Option String := none
  threshold : Option Severity := none
  isJson : Bool := true
  output : Option String := none
  noFixes : Bool := false
  strict : Bool := false
  verbose : Bool := false
  deriving DecidableEq, Repr

namespace Settings

/-- The settings with an option that has no value. -/
def withFlag (settings : Settings) : CommandOption → Settings
  | .noFixes => { settings with noFixes := true }
  | .strict => { settings with strict := true }
  | .verbose => { settings with verbose := true }
  | _ => settings

/-- The value of an option is one of its choices, if it has any. Two dashes are no value. -/
def checkChoice (option : CommandOption) : Operand → Except UsageFault Unit
  | .dashes => .ok ()
  | .text value =>
    match option.choices? with
    | some choices =>
      if choices.contains value then .ok () else .error (.badChoice option value choices)
    | none => .ok ()

/-- The settings with an option that has a value. The last value of an option counts, except that
sources add up. -/
def withValue (settings : Settings) (option : CommandOption) (value : Operand) :
    Except UsageFault Settings :=
  (checkChoice option value).map fun _ =>
    match option with
    | .source => { settings with sources := settings.sources ++ [value] }
    | .config => { settings with config := some value }
    | .rules => { settings with rules := value.text? }
    | .language => { settings with language := value.text? }
    | .failOn =>
      { settings with threshold := value.text?.bind fun name => Severity.all.find? (·.name = name) }
    | .format => { settings with isJson := value.text?.isSome }
    | .output => { settings with output := value.text? }
    | _ => settings

end Settings

/-- What the command is asked for. -/
inductive Wish where
  | help
  | run (settings : Settings)
  deriving DecidableEq, Repr

/-! ## Options that share a dash -/

/-- The options of one argument: those without a value, then one with its value or one that still
needs it. -/
structure Cluster where
  flags : List CommandOption := []
  valued : Option (CommandOption × Operand) := none
  open? : Option CommandOption := none

/-- The cluster with another flag in front. -/
def Cluster.behind (cluster : Cluster) (flag : CommandOption) : Cluster :=
  { cluster with flags := flag :: cluster.flags }

/-- The cluster of an option with nothing attached. -/
def bareCluster (option : CommandOption) : Cluster :=
  if option.takesValue then { open? := some option } else { flags := [option] }

/-- The cluster of an option with a text attached, whose letters are short options if the option
itself takes no value. -/
def clusterFrom (option : CommandOption) : List Char → Except UsageFault Cluster
  | [] => .ok (bareCluster option)
  | c :: rest =>
    let text := String.ofList (c :: rest)
    if option.takesValue then .ok { valued := some (option, .ofAttached text) }
    else
      match CommandOption.spellings.lookup (String.ofList ['-', c]) with
      | none => .error (.valueNotTaken option text)
      | some next => (clusterFrom next rest).map (·.behind option)

/-- The cluster of an option. Only a short one shares its dash, and an empty text is not shared. -/
def clusterOf (option : CommandOption) (isShort : Bool) : Option String → Except UsageFault Cluster
  | none => .ok (bareCluster option)
  | some text =>
    if option.takesValue then .ok { valued := some (option, .ofAttached text) }
    else if isShort ∧ !text.isEmpty then clusterFrom option text.toList
    else .error (.valueNotTaken option text)

/-! ## Understanding the arguments -/

/-- Takes over the options of a cluster whose open option has a value. None stands for a wish for
help. -/
def applyCluster (settings : Settings) (cluster : Cluster) (value : Option String) :
    Except UsageFault (Option Settings) :=
  if cluster.flags.contains .help then .ok none
  else
    let flagged := cluster.flags.foldl Settings.withFlag settings
    match cluster.valued, cluster.open?, value with
    | some (option, value), _, _ => (flagged.withValue option value).map some
    | none, some option, some value => (flagged.withValue option (.text value)).map some
    | none, some option, none => .error (.valueMissing option)
    | none, none, _ => .ok (some flagged)

/-- Goes through the arguments, where `extras` are those that nothing could be made of, newest
first. -/
def understand (settings : Settings) (extras : List String) :
    List Argument → Except UsageFault Wish
  | [] =>
    if extras.isEmpty then .ok (.run settings) else .error (.unrecognized extras.reverse)
  | .given o isShort attached :: rest =>
    match clusterOf o isShort attached with
    | .error fault => .error fault
    | .ok cluster =>
      match cluster.open?, rest with
      | some _, .word value :: rest =>
        match applyCluster settings cluster (some value) with
        | .error fault => .error fault
        | .ok none => .ok .help
        | .ok (some settings) => understand settings extras rest
      | some option, _ => .error (.valueMissing option)
      | none, rest =>
        match applyCluster settings cluster none with
        | .error fault => .error fault
        | .ok none => .ok .help
        | .ok (some settings) => understand settings extras rest
  | argument :: rest => understand settings (argument.text :: extras) rest

/-- What arguments ask for. -/
def Wish.ofArguments (arguments : List String) : Except UsageFault Wish := do
  understand {} [] (← Argument.readAll arguments)

end SourceAudit.Command
