import SqlCommands.Config.File

/-!
# Folders

A folder of files kept in memory, without folders below it. `Folder.fileSystem` gives access to it
as the content of a root path. A path leads to a folder, to a file or nowhere (`Folder.place`).

There are folders above it, up to the top, which is above itself. So a path that only stays or goes
up leads to a folder, and a path with one name behind that leads to a file.

A name has at most 255 bytes and a path at most 4095, a path has no null character, and a file that
is not text in UTF-8 cannot be read.
-/

namespace SqlCommands

/-- Files by name. A file of a folder above goes by the way to it. -/
structure Folder where
  files : List (String × ByteArray) := []

namespace Folder

/-- The content of a file. -/
def get? (f : Folder) (name : String) : Option ByteArray := f.files.lookup name

/-- Put a file into the folder, in place of one of that name. -/
def put (f : Folder) (name : String) (content : ByteArray) : Folder :=
  ⟨(name, content) :: f.files.filter (·.1 ≠ name)⟩

theorem lookup_filter_ne {name other : String} (h : other ≠ name)
    (files : List (String × ByteArray)) :
    (files.filter (·.1 ≠ name)).lookup other = files.lookup other := by
  induction files with
  | nil => rfl
  | cons file files ih =>
    obtain ⟨key, content⟩ := file
    by_cases hk : key = name
    · subst hk
      simpa [List.lookup_cons, beq_eq_false_iff_ne.mpr h] using ih
    · by_cases ho : other = key
      · simp [hk, ho]
      · simpa [List.lookup_cons, hk, beq_eq_false_iff_ne.mpr ho] using ih

/-- Putting a file changes no other file. -/
@[simp] theorem get?_put (f : Folder) (name other : String) (content : ByteArray) :
    (f.put name content).get? other = if other = name then some content else f.get? other := by
  by_cases h : other = name
  · simp [get?, put, h]
  · simp only [get?, put, List.lookup_cons, beq_eq_false_iff_ne.mpr h, h, if_false]
    exact lookup_filter_ne h f.files

/-- What a path means. -/
inductive Place where
  | folder
  | file (name : String)
  | nowhere
deriving DecidableEq

/-- The way to the folder above the one that a way leads to. The top is above itself. -/
def wayUp (way : String) : String := if way = "/" then way else way ++ "../"

/-- The place that the parts of a path lead to, from the folder that a way leads to. A name has to
be the last part, since no folder has a folder below it that could be named. -/
def resolve (way : String) : List String → Place
  | [] => .folder
  | part :: parts =>
    if part = "" ∨ part = "." then resolve way parts
    else if part = ".." then resolve (wayUp way) parts
    else if parts = [] ∧ part.utf8ByteSize ≤ 255 then .file (way ++ part)
    else .nowhere

/-- The place of a path, where the folder is at a root. A path that does not start with the root
starts at the top. -/
def place (root path : String) : Place :=
  if path.toList.contains (Char.ofNat 0) ∨ 4095 < path.utf8ByteSize then .nowhere
  else if path.startsWith root then resolve "" ((path.drop root.length).toString.splitOn "/")
  else resolve "/" (path.splitOn "/")

/-- The text of a file. -/
def text (f : Folder) (name : String) : Except String String :=
  match f.get? name with
  | none => .error "No such file"
  | some content =>
    match String.fromUTF8? content with
    | some text => .ok text
    | none => .error "stream did not contain valid UTF-8"

/-- A folder as the content of a root path. -/
def fileSystem (root : String) : FileSystem Folder where
  exists? f path :=
    match place root path with
    | .folder => true
    | .file name => (f.get? name).isSome
    | .nowhere => false
  read f path :=
    match place root path with
    | .file name => f.text name
    | _ => .error "Not a file"
  write f path text :=
    match place root path with
    | .file name => (.ok (), f.put name text.toUTF8)
    | _ => (.error "Not a file", f)

end Folder

end SqlCommands
