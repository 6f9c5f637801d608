import ZoneBridge.Error

/-!
# Files and paths

A file system as seen by a reader of configuration files: its entries, each a file with its bytes
or a directory, listed under their absolute paths, and the working directory where relative
paths start. A path is resolved as the system resolves it:

* a path longer than `pathLimit` bytes names nothing, and neither does the empty path;
* a path that starts with a slash starts at the root, any other at the working directory;
* the names between the slashes are taken in order, each in a directory: an empty name and `.`
  stay where they are, `..` goes up (the root is its own parent), and any other name goes down to
  the entry of that name, which must exist and whose name is at most `nameLimit` bytes long;
* a name after a file, a trailing slash included, is refused: a file is no directory.

Main statements: an empty name in a directory stays there (`follow_stay`), and a name after a
file is refused whatever it is (`follow_file`).
-/

namespace ZoneBridge

/-- What a path names in a file system. -/
inductive FileEntry where
  | file (bytes : ByteArray)
  | directory

/-- A file system: its entries under their absolute paths, each given as the names from the root
down, and the working directory. The root is a directory and is not listed. -/
structure Files where
  entries : List (List String × FileEntry)
  workingDirectory : List String := []

namespace Files

/-- The longest path, in bytes, that the system takes. -/
def pathLimit : Nat := 4095

/-- The longest name of one file or directory, in bytes. -/
def nameLimit : Nat := 255

/-- A file system with nothing but its root, which is the working directory. -/
def empty : Files := { entries := [] }

/-- The entry at an absolute path; the root is a directory. -/
def entryAt (fs : Files) : List String → Option FileEntry
  | [] => some .directory
  | place => fs.entries.lookup place

/-- Follows names from a place, each taken in the directory reached so far; gives the place
reached or why a name could not be taken. -/
def follow (fs : Files) (place : List String) : List String → Except IoFault (List String)
  | [] => .ok place
  | name :: rest =>
    match fs.entryAt place with
    | some .directory =>
      if name == "" || name == "." then fs.follow place rest
      else if name == ".." then fs.follow place.dropLast rest
      else if nameLimit < name.utf8ByteSize then .error .nameTooLong
      else
        match fs.entryAt (place ++ [name]) with
        | some _ => fs.follow (place ++ [name]) rest
        | none => .error .notFound
    | _ => .error .notDirectory

/-- What a path names, or why it names nothing. -/
def entry? (fs : Files) (path : String) : Except IoFault FileEntry :=
  if pathLimit < path.utf8ByteSize then .error .nameTooLong
  else if path.isEmpty then .error .notFound
  else
    let start := if path.startsWith "/" then [] else fs.workingDirectory
    match fs.follow start (path.splitOn "/") with
    | .ok place =>
      match fs.entryAt place with
      | some e => .ok e
      | none => .error .notFound
    | .error f => .error f

theorem follow_stay (fs : Files) (place : List String) (rest : List String)
    (h : fs.entryAt place = some .directory) :
    fs.follow place ("" :: rest) = fs.follow place rest := by
  simp [follow, h]

theorem follow_file (fs : Files) (place : List String) (bytes : ByteArray) (name : String)
    (rest : List String) (h : fs.entryAt place = some (.file bytes)) :
    fs.follow place (name :: rest) = .error .notDirectory := by
  simp [follow, h]

example : Files.empty.entryAt [] = some .directory := rfl

end Files

end ZoneBridge
