/-!
# Places of documents in a directory

A url names a file below a root directory: its leading slashes are dropped, the rest is put behind
the root, and a file name without an extension gets the extension `json`.  Paths are texts whose
parts are divided by slashes; empty parts and parts that are a single point count for nothing when
the file name is looked for.
-/

namespace Workflow.Location

/-- The parts of a text between slashes. -/
def split : List Char → List (List Char)
  | [] => [[]]
  | '/' :: rest => [] :: split rest
  | c :: rest =>
    match split rest with
    | [] => [[c]]
    | part :: parts => (c :: part) :: parts

/-- Whether a part counts for nothing. -/
def isIdle (part : List Char) : Bool :=
  part.isEmpty || part == ['.']

/-- The parts of a path that lead somewhere. -/
def steps (path : List Char) : List (List Char) :=
  (split path).filter (!isIdle ·)

/-- A path put behind a root; a path that begins with a slash stands for itself. -/
def join (root path : List Char) : List Char :=
  match path with
  | '/' :: _ => path
  | _ => if root.isEmpty || root.getLast? == some '/' then root ++ path else root ++ '/' :: path

/-- The last part of a path, unless it leads to the parent. -/
def fileName? (path : List Char) : Option (List Char) :=
  match (steps path).getLast? with
  | some part => if part = ['.', '.'] then none else some part
  | none => none

/-- Whether a file name has an extension: a point that does not come first. The extension may be
empty. -/
def hasExtension : List Char → Bool
  | [] => false
  | _ :: rest => rest.contains '.'

/-- A reversed path without the slashes and idle parts behind its file name. -/
def dropIdle : List Char → List Char
  | '/' :: rest => dropIdle rest
  | '.' :: '/' :: rest => dropIdle ('/' :: rest)
  | path => path

/-- The path with the extension `json` on its file name, if that has none. -/
def withExtension (path : List Char) : List Char :=
  match fileName? path with
  | none => path
  | some name =>
    if hasExtension name then path
    else (dropIdle path.reverse).reverse ++ ['.', 'j', 's', 'o', 'n']

/-- Where below `root` the document of a url lies. -/
def resolve (root url : String) : String :=
  String.ofList (withExtension (join root.toList (url.toList.dropWhile (· == '/'))))

end Workflow.Location
