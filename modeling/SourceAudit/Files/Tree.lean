-- Files and directories. A tree is looked into by names from its top, where two points go back
-- to the directory above, and nothing lies above the top. What may be looked at is limited: the
-- names in a directory need not be shown, the way through it may be closed, and a file may be
-- sealed.

namespace SourceAudit.Files

/-- What a directory allows: to list the names in it, and to go on to what they name. -/
structure Access where
  listed : Bool := true
  entered : Bool := true
  deriving DecidableEq, Repr, Inhabited

/-- A file with its bytes, a file that may not be read, of which only the size is known, or a
directory with what lies in it by name. -/
inductive Tree where
  | file (bytes : List UInt8)
  | sealed (size : Nat)
  | directory (access : Access) (entries : List (String × Tree))
  deriving Inhabited

/-- Why nothing is found at a path. -/
inductive PathFault where
  | missing
  | notDirectory
  | denied
  | tooLong
  | containsZero
  deriving DecidableEq, Repr

/-- How many bytes a name may have. -/
def nameLimit : Nat := 255

/-- A name is longer than any name in a directory. -/
def isTooLong (name : String) : Bool :=
  nameLimit < name.utf8ByteSize

namespace Tree

/-- A directory that nothing lies in. -/
def empty : Tree :=
  directory {} []

def isDirectory : Tree → Bool
  | directory _ _ => true
  | file _ | sealed _ => false

/-- The tree is a directory that may not be gone through. -/
def isClosed : Tree → Bool
  | directory access _ => !access.entered
  | file _ | sealed _ => false

/-- What lies in a directory under a name. -/
def child? : Tree → (name : String) → Option Tree
  | directory _ entries, name => entries.lookup name
  | file _, _ | sealed _, _ => none

/-! ## Looking up -/

/-- What is found by names from a tree on, where `above` are the trees on the way to it, nearest
first. -/
def findFrom (above : List Tree) (tree : Tree) : List String → Except PathFault Tree
  | [] => .ok tree
  | name :: rest =>
    match tree with
    | file _ | sealed _ => .error .notDirectory
    | directory access entries =>
      if !access.entered then .error .denied
      else if name = ".." then
        match above with
        | [] => findFrom [] tree rest
        | parent :: above => findFrom above parent rest
      else
        match entries.lookup name with
        | none => .error (if isTooLong name then .tooLong else .missing)
        | some child => findFrom (tree :: above) child rest

/-- What is found by names from the top of a tree on. -/
def find (tree : Tree) (names : List String) : Except PathFault Tree :=
  findFrom [] tree names

/-- The tree at the end of names, with the trees on the way to it, nearest first. Whoever stands
there need not be allowed to go there. -/
def standFrom? (above : List Tree) (tree : Tree) : List String → Option (List Tree × Tree)
  | [] => some (above, tree)
  | name :: rest => (tree.child? name).bind fun child => child.standFrom? (tree :: above) rest

/-- The tree at the end of names from the top, with the trees on the way to it, nearest first. -/
def stand? (tree : Tree) (names : List String) : Option (List Tree × Tree) :=
  tree.standFrom? [] names

/-! ## What is seen below -/

/-- Something that is seen below a directory: the names that lead there, what it is, and whether
the way to it is open. -/
structure Sight where
  names : List String
  item : Tree
  isReached : Bool

/-- The same thing, seen from the directory that lies above under a name. -/
def Sight.below (name : String) (sight : Sight) : Sight :=
  { sight with names := name :: sight.names }

mutual

/-- All that is seen below a tree, a directory in front of what lies in it. -/
def seen : Tree → List Sight
  | file _ | sealed _ => []
  | directory access entries => if access.listed then seenIn access.entered entries else []

/-- All that is seen among some entries of a directory and below them. Behind a closed way only
their names are seen. -/
def seenIn (isReached : Bool) : List (String × Tree) → List Sight
  | [] => []
  | (name, item) :: rest =>
    ⟨[name], item, isReached⟩ ::
      ((if isReached then item.seen.map (.below name) else []) ++ seenIn isReached rest)

end

/-! ## Putting in -/

/-- Puts something under a name. What was there is replaced, and keeps its place. -/
def putEntry (name : String) (tree : Tree) : List (String × Tree) → List (String × Tree)
  | [] => [(name, tree)]
  | (n, t) :: rest => if n = name then (n, tree) :: rest else (n, t) :: putEntry name tree rest

/-- Puts something at a place given by names, none of which is two points. Directories on the way
are made. -/
def put : Tree → (names : List String) → (item : Tree) → Tree
  | _, [], item => item
  | directory access entries, name :: rest, item =>
    let child := (entries.lookup name).getD empty
    directory access (putEntry name (child.put rest item) entries)
  | file _, name :: rest, item | sealed _, name :: rest, item =>
    directory {} [(name, empty.put rest item)]

end Tree

end SourceAudit.Files
