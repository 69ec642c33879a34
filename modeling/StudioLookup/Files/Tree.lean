import StudioLookup.Files.Workspace
import StudioLookup.Location
import StudioLookup.Text.Quoted

set_option autoImplicit false

/-! # Trees of directories

A workspace with directories, in which a path is walked name by name: every name but the last
has to be that of a directory, and `..` is taken from where the walk has come to, not from the
text of the path.

The current directory may be removed while it is current. It then can no longer be named, and
nothing is found or created in it, but its parent is still found from it.
-/

namespace StudioLookup

/-- What stands at a path. -/
inductive TreeNode where
  | file (text : Text)
  | directory
  deriving DecidableEq, Repr

/-- A directory, by the names that lead to it from the root. A number of its last ancestors,
itself included, may be lost: they have been removed and lie below `names`. -/
structure Standpoint where
  names : List Text
  lost : Nat
  deriving DecidableEq, Repr

/-- A tree, by the nodes below its root, and the current directory. -/
structure Tree where
  nodes : List (List Text × TreeNode)
  standpoint : Standpoint
  deriving DecidableEq, Repr

/-- Why a path does not lead where it should. -/
inductive PathFault where
  | noSuchEntry
  | notADirectory
  | isADirectory
  | nameTooLong
  | nullCharacter
  deriving DecidableEq, Repr

/-- What is wrong with the path, in words. -/
def PathFault.message : PathFault → Text
  | .noSuchEntry => "No such file or directory (os error 2)".toList
  | .notADirectory => "Not a directory (os error 20)".toList
  | .isADirectory => "Is a directory (os error 21)".toList
  | .nameTooLong => "File name too long (os error 36)".toList
  | .nullCharacter => "file name contained an unexpected NUL byte".toList

namespace Tree

/-! ## Walking -/

/-- The greatest length of a name and of a path, in bytes. -/
def longestName : Nat := 255
def longestPath : Nat := 4095

/-- The node at the end of some names. -/
def node? (t : Tree) (names : List Text) : Option TreeNode :=
  if names.isEmpty then some .directory else (t.nodes.find? (·.1 == names)).map (·.2)

/-- The standpoint above another one. Above the root there is only the root. -/
def above (s : Standpoint) : Standpoint :=
  if s.lost = 0 then ⟨s.names.dropLast, 0⟩ else { s with lost := s.lost - 1 }

/-- Whether a name does not name an entry but a way. -/
def isDots (name : Text) : Bool := name == ['.'] || name == ['.', '.']

/-- The node a name leads to from a standpoint. -/
def entry (t : Tree) (s : Standpoint) (name : Text) : Except PathFault TreeNode :=
  if s.lost ≠ 0 then .error .noSuchEntry
  else if longestName < Text.byteCount name then .error .nameTooLong
  else
    match t.node? (s.names ++ [name]) with
    | some n => .ok n
    | none => .error .noSuchEntry

/-- The directory one name leads to. -/
def enter (t : Tree) (s : Standpoint) (name : Text) : Except PathFault Standpoint :=
  if name == ['.'] then .ok s
  else if name == ['.', '.'] then .ok (above s)
  else
    match t.entry s name with
    | .ok .directory => .ok ⟨s.names ++ [name], 0⟩
    | .ok (.file _) => .error .notADirectory
    | .error e => .error e

/-- The directory some names lead to, one after the other. -/
def walk (t : Tree) : Standpoint → List Text → Except PathFault Standpoint
  | s, [] => .ok s
  | s, name :: names =>
      match t.enter s name with
      | .ok s' => t.walk s' names
      | .error e => .error e

/-- The names of a path. -/
def namesOf (path : Text) : List Text := (Text.pieces '/' path).filter (!·.isEmpty)

/-- Where the walk along a path begins. -/
def origin (t : Tree) (path : Text) : Standpoint :=
  if isAbsolutePath path then ⟨[], 0⟩ else t.standpoint

/-- Whether a path asks for a directory by a slash at its end. -/
def endsInSlash (path : Text) : Bool := path.getLast? == some '/'

/-- What is wrong with a path before it is walked. -/
def textFault? (path : Text) : Option PathFault :=
  if path.contains '\x00' then some .nullCharacter
  else if path.isEmpty then some .noSuchEntry
  else if longestPath < Text.byteCount path then some .nameTooLong
  else none

/-- The directory before the last name of a path, and that name; no name for the root. -/
def approach (t : Tree) (path : Text) : Except PathFault (Standpoint × Option Text) :=
  match textFault? path with
  | some e => .error e
  | none =>
      match t.walk (t.origin path) (namesOf path).dropLast with
      | .ok s => .ok (s, (namesOf path).getLast?)
      | .error e => .error e

/-! ## Looking and writing -/

/-- Whether something is found at a path. -/
def holds (t : Tree) (path : Text) : Bool :=
  match t.approach path with
  | .error _ => false
  | .ok (_, none) => true
  | .ok (s, some name) =>
      if isDots name then true
      else
        match t.entry s name with
        | .ok .directory => true
        | .ok (.file _) => !endsInSlash path
        | .error _ => false

/-- The names of the file that a write to a path creates or replaces. -/
def target (t : Tree) (path : Text) : Except PathFault (List Text) :=
  match t.approach path with
  | .error e => .error e
  | .ok (_, none) => .error .isADirectory
  | .ok (s, some name) =>
      if isDots name || endsInSlash path then .error .isADirectory
      else
        match t.entry s name with
        | .ok .directory => .error .isADirectory
        | .ok (.file _) => .ok (s.names ++ [name])
        | .error .noSuchEntry =>
            if s.lost = 0 then .ok (s.names ++ [name]) else .error .noSuchEntry
        | .error e => .error e

/-- The tree with a node in place of what is at some names. -/
def set (t : Tree) (names : List Text) (n : TreeNode) : Tree :=
  { t with nodes := (names, n) :: t.nodes.filter (·.1 != names) }

/-- The text of the file at the end of some names. -/
def text? (t : Tree) (names : List Text) : Option Text :=
  match t.node? names with
  | some (.file text) => some text
  | _ => none

/-- The failure to write to a path. -/
def writeFailure (path : Text) (e : PathFault) : Failure :=
  (Failure.plain e.message).withNote ("Failed to write to ".toList ++ Text.quoted path)

/-- Writes a file. -/
def write (t : Tree) (path text : Text) : Except Failure Tree :=
  match t.target path with
  | .ok names => .ok (t.set names (.file text))
  | .error e => .error (writeFailure path e)

/-- An absolute path. -/
def pathOf (names : List Text) : Text := '/' :: Text.join ['/'] names

/-- The failure to name the current directory. -/
def noDirectory : Failure :=
  (Failure.plain PathFault.noSuchEntry.message).withNote
    "Failed to determine the current directory".toList

/-- The path of the current directory. -/
def currentDirectory (t : Tree) : Except Failure Text :=
  if t.standpoint.lost = 0 then .ok (pathOf t.standpoint.names) else .error noDirectory

instance : Workspace Tree where
  currentDirectory := currentDirectory
  holds := holds
  write := write

/-! ## Changes from outside -/

/-- The names a path leads to when all directories on it are there or are made. -/
def namesFrom (t : Tree) (path : Text) : List Text :=
  (namesOf path).foldl
    (fun names name =>
      if name == ['.'] then names
      else if name == ['.', '.'] then names.dropLast
      else names ++ [name])
    (t.origin path).names

/-- All nonempty beginnings of a list of names, shortest first. -/
def beginnings (names : List Text) : List (List Text) :=
  (List.range names.length).map fun n => names.take (n + 1)

/-- The tree with a directory, and those above it, wherever nothing stands yet. -/
def makeDirectory (t : Tree) (names : List Text) : Tree :=
  (beginnings names).foldl
    (fun t names => if (t.node? names).isSome then t else t.set names .directory) t

/-- The tree with a file and the directories above it. -/
def putFile (t : Tree) (names : List Text) (text : Text) : Tree :=
  (t.makeDirectory names.dropLast).set names (.file text)

/-- A standpoint after all at and below some names is removed. -/
def afterRemoval (names : List Text) (s : Standpoint) : Standpoint :=
  if names.isPrefixOf s.names then
    ⟨names.dropLast, s.lost + (s.names.length - names.dropLast.length)⟩
  else s

/-- The tree without the node at some names and all below it. -/
def removeAll (t : Tree) (names : List Text) : Tree :=
  { nodes := t.nodes.filter fun e => !names.isPrefixOf e.1
    standpoint := afterRemoval names t.standpoint }

/-- What may happen to a tree from outside. -/
inductive Event where
  | put (path text : Text)
  | remove (path : Text)
  | makeDirectory (path : Text)
  | moveTo (path : Text)

/-- The tree after an event. -/
def after (t : Tree) : Event → Tree
  | .put path text => t.putFile (t.namesFrom path) text
  | .remove path => t.removeAll (t.namesFrom path)
  | .makeDirectory path => t.makeDirectory (t.namesFrom path)
  | .moveTo path => { t with standpoint := ⟨t.namesFrom path, 0⟩ }

end Tree

end StudioLookup
