import Crosscheck.Text.Blank

/-!
# Crosscheck.FileTree

**A directory of text files.** Paths are read relative to the directory and cannot leave it. A
directory exists if some file is below it, and has no text of its own.
-/

namespace Crosscheck

/-- A directory: the paths of its files, without dots in them, and their texts. -/
abbrev FileTree := List (String × String)

namespace FileTree

/-- The parts of a path. -/
def parts (path : String) : List String := (Text.splitOnChar '/' path.toList).map String.ofList

/-- Whether there is a directory of the given parts. -/
def hasDirectory (t : FileTree) (dir : List String) : Bool :=
  dir.isEmpty || t.any fun (path, _) =>
    dir.isPrefixOf (parts path) && decide (dir.length < (parts path).length)

/-- Follows a path from a directory. Every part of it but the last has to be a directory. -/
def follow? (t : FileTree) (dir : List String) : List String → Option (List String)
  | [] => some dir
  | part :: rest =>
    if !t.hasDirectory dir then none
    else if part = "" || part = "." then follow? t dir rest
    else if part = ".." then if dir.isEmpty then none else follow? t dir.dropLast rest
    else follow? t (dir ++ [part]) rest

/-- The text of the file of a path. -/
def read? (t : FileTree) (path : String) : Option String := do
  let found ← if path.startsWith "/" then none else t.follow? [] (parts path)
  (t.find? fun (p, _) => parts p == found).map (·.2)

end FileTree

/-- The path of the directory a file is in; nothing where the path names no directory. -/
def directoryOf (path : String) : String :=
  String.ofList <| (path.toList.reverse.dropWhile (· != '/')).reverse

/-- A path, read relative to a directory. -/
def pathIn (directory path : String) : String :=
  if path.startsWith "/" then path else directory ++ path

end Crosscheck
