import TaskAutomation.CommandLine.Host

/-!
This file defines a machine with a single directory, in which files are texts or databases. Its
clock stands still. A file of text is no database, unless it is empty, and a database is no text. A
database without a name, or in memory, is gone when the command ends.
-/

namespace TaskAutomation.CommandLine

/-- What a file holds. -/
inductive Content where
  | text (text : String)
  | table (table : TableQueue)
  deriving DecidableEq, Repr

/-- Files by the names on their paths. -/
structure Directory where
  files : List (List String × Content)
  deriving DecidableEq, Repr

namespace Directory

/-- The names on a path. A single dot goes nowhere. -/
def names (path : String) : List String :=
  ((Text.splitAt '/' path.toList).map String.ofList).filter fun name => name ≠ "" ∧ name ≠ "."

/-- The path leads out of the directory, or nowhere. -/
def isForeign (path : String) : Bool :=
  path.isEmpty || path.toList.head? = some '/' || (names path).contains ".."

/-- The path can only be that of a folder. -/
def isFolderPath (path : String) : Bool := path.toList.getLast? = some '/'

/-- A directory with files of text. -/
def ofTexts (texts : List (String × String)) : Directory :=
  ⟨texts.map fun (path, text) => (names path, .text text)⟩

/-- The names lead to a folder. -/
def isFolder (directory : Directory) (names : List String) : Bool :=
  names.isEmpty || directory.files.any fun file => names.isPrefixOf file.1 && names ≠ file.1

/-- There is a file where the names lead through. -/
def isBlocked (directory : Directory) (names : List String) : Bool :=
  directory.files.any fun file => file.1.isPrefixOf names && names ≠ file.1

/-- The text in a file, or why there is none. -/
def readText (directory : Directory) (path : String) : Except String String :=
  let names := names path
  if isForeign path then .error "No such file or directory (os error 2)"
  else
    match directory.files.lookup names with
    | some content =>
      if isFolderPath path then .error "Not a directory (os error 20)"
      else
        match content with
        | .text text => .ok text
        | .table _ => .error "stream did not contain valid UTF-8"
    | none =>
      if directory.isFolder names then .error "Is a directory (os error 21)"
      else if directory.isBlocked names then .error "Not a directory (os error 20)"
      else .error "No such file or directory (os error 2)"

/-- The database of a path is gone when the command ends. -/
def isPrivate (path : String) : Bool := path = "" || path = ":memory:"

/-- The table in a database, or why there is none. Only the last name on the path may be new. -/
def openTable (directory : Directory) (path : String) : Except String TableQueue :=
  let names := names path
  let failure := "unable to open database file: " ++ path
  if isPrivate path then .ok .empty
  else if isForeign path || isFolderPath path then .error failure
  else
    match directory.files.lookup names with
    | some (.table table) => .ok table
    | some (.text text) => if text.isEmpty then .ok .empty else .error "file is not a database"
    | none =>
      if directory.isFolder names || !directory.isFolder names.dropLast then .error failure
      else .ok .empty

/-- The directory with a table in a database. -/
def saveTable (directory : Directory) (path : String) (table : TableQueue) : Directory :=
  if isPrivate path then directory
  else ⟨(names path, .table table) :: directory.files.filter fun file => file.1 ≠ names path⟩

end Directory

/-- A machine with one directory. -/
structure Machine where
  directory : Directory
  clock : Instant
  /-- The random bits of the machine, and how many supplies of them have been handed out. -/
  draws : Nat → Nat
  supplies : Nat

/-- What the program sees of such a machine. -/
def Machine.host : Host (StateM Machine) where
  readText path := return (← get).directory.readText path
  openTable path := return (← get).directory.openTable path
  saveTable path table :=
    modify fun machine => { machine with directory := machine.directory.saveTable path table }
  time := return (← get).clock
  draws := modifyGet fun machine =>
    (fun n => machine.draws (machine.supplies + n),
      { machine with supplies := machine.supplies + 1 })

end TaskAutomation.CommandLine
