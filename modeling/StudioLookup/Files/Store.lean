import StudioLookup.Files.Workspace

set_option autoImplicit false

/-! # Stores

A workspace that knows files by the exact text of their paths: no directories, and no two
spellings of one path. Some paths may be protected, each with the failure that a write to it
meets, and the current directory may be gone.
-/

namespace StudioLookup

/-- A workspace without directories. -/
structure Store where
  /-- The current directory, if there is one. -/
  directory : Option Text
  /-- The texts of the files, by path. -/
  files : List (Text × Text)
  /-- The protected paths, each with the chain of its failure. -/
  refusals : List (Text × List Text)
  deriving DecidableEq, Repr

namespace Store

/-- The value under a key. -/
def lookup {α : Type} (entries : List (Text × α)) (key : Text) : Option α :=
  (entries.find? (·.1 == key)).map (·.2)

/-- The entries without those under a key. -/
def without {α : Type} (entries : List (Text × α)) (key : Text) : List (Text × α) :=
  entries.filter (·.1 != key)

/-- The text of the file at a path. -/
def text? (s : Store) (path : Text) : Option Text := lookup s.files path

/-- The store with a file at a path. -/
def put (s : Store) (path text : Text) : Store :=
  { s with files := (path, text) :: without s.files path }

@[simp] theorem text?_put (s : Store) (path text : Text) :
    (s.put path text).text? path = some text := by
  simp [put, text?, lookup]

/-- A file that is put changes no other. -/
theorem text?_put_of_ne (s : Store) {path other : Text} (text : Text) (h : other ≠ path) :
    (s.put path text).text? other = s.text? other := by
  have hne : (path == other) = false := by simpa using fun e => h e.symm
  have hf : (fun e : Text × Text => !decide (e.1 = path) && decide (e.1 = other)) =
      fun e => e.1 == other := by
    funext e
    by_cases he : e.1 = other
    · simp [he, h]
    · simp [he]
  simp [put, text?, lookup, without, hne, List.find?_filter, hf]

/-- The store without the file at a path. -/
def remove (s : Store) (path : Text) : Store := { s with files := without s.files path }

/-- The store with a protected path. -/
def protect (s : Store) (path : Text) (chain : List Text) : Store :=
  { s with refusals := (path, chain) :: without s.refusals path }

/-- The store with a path that may be written. -/
def unprotect (s : Store) (path : Text) : Store :=
  { s with refusals := without s.refusals path }

/-- The failure to name a current directory that is gone. -/
def noDirectory : Failure := .plain "cwd removed".toList

/-- Writes a file, unless its path is protected. -/
def write (s : Store) (path text : Text) : Except Failure Store :=
  match lookup s.refusals path with
  | some chain => .error (.ofChain chain)
  | none => .ok (s.put path text)

instance : Workspace Store where
  currentDirectory s :=
    match s.directory with
    | some d => .ok d
    | none => .error noDirectory
  holds s path := (s.text? path).isSome
  write := write

/-- What may happen to a store from outside. -/
inductive Event where
  | put (path text : Text)
  | remove (path : Text)
  | protect (path : Text) (chain : List Text)
  | unprotect (path : Text)
  | moveTo (directory : Option Text)

/-- The store after an event. -/
def after (s : Store) : Event → Store
  | .put path text => s.put path text
  | .remove path => s.remove path
  | .protect path chain => s.protect path chain
  | .unprotect path => s.unprotect path
  | .moveTo directory => { s with directory := directory }

end Store

end StudioLookup
