import Workflow.Source.Location

/-!
# Trees of files

A tree of text files, each under the names of the directories on the way to it.  A directory is
there if some file lies in it.  Following a path, every part before the last must lead to a
directory, and two points lead to the directory around.
-/

namespace Workflow

/-- Files with the parts of their paths, and in which words a path is refused that leads to none. -/
structure FileTree where
  files : List (List (List Char) × String)
  unreadable : String → String

namespace FileTree

def ofFiles (root : String) (files : List (String × String)) (unreadable : String → String) :
    FileTree where
  files := files.map fun (path, text) =>
    (Location.steps root.toList ++ Location.steps path.toList, text)
  unreadable

def file? (tree : FileTree) (place : List (List Char)) : Option String :=
  (tree.files.find? fun file => file.1 == place).map Prod.snd

def isDirectory (tree : FileTree) (place : List (List Char)) : Bool :=
  place.isEmpty || tree.files.any fun file =>
    place.length < file.1.length && file.1.take place.length == place

/-- The place to which the parts of a path lead from a place. -/
def follow? (tree : FileTree) : List (List Char) → List (List Char) → Option (List (List Char))
  | place, [] => some place
  | place, part :: rest =>
    if tree.isDirectory place then
      if Location.isIdle part then tree.follow? place rest
      else if part = ['.', '.'] then tree.follow? place.dropLast rest
      else tree.follow? (place ++ [part]) rest
    else none

def read? (tree : FileTree) (path : String) : Option String :=
  (tree.follow? [] (Location.split path.toList)).bind tree.file?

end FileTree

end Workflow
