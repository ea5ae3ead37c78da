import DeferredText.Text.Search

/-!
Contract: a tree of text files and the paths into it.

Owns: paths with empty and single-dot parts left out, and looking up files.

Does not own: what stands in a file (`Config.Loader`).
-/

namespace DeferredText

structure PathName where
  /-- Slashes at the start: none, one, or two. -/
  root : String
  parts : List String
deriving DecidableEq, Repr

namespace PathName

/-- Number of slashes that stay at the start; more than two count as one. -/
def rootOf (text : List Char) : String :=
  match (text.takeWhile fun found => found == '/').length with
  | 0 => ""
  | 2 => "//"
  | _ => "/"

def partsOf (text : List Char) : List String :=
  ((splitOnChar '/' text).map String.ofList).filter fun part => part != "" && part != "."

def ofText (text : String) : PathName :=
  { root := rootOf text.toList
    parts := partsOf text.toList }

def text (path : PathName) : String :=
  if path.root == "" && path.parts.isEmpty then "."
  else path.root ++ String.intercalate "/" path.parts

/-- A path with more parts at its end. -/
def append
    (path : PathName)
    (parts : List String) : PathName :=
  { path with parts := path.parts ++ parts }

end PathName

/-- Files by their places, each a list of directories and the name of the file. -/
abbrev FileTree := List (List String × String)

namespace FileTree

def ofTexts (files : List (String × String)) : FileTree :=
  files.map fun file => ((PathName.ofText file.1).parts, file.2)

def isDirectory
    (files : FileTree)
    (place : List String) : Bool :=
  place.isEmpty || List.any files fun file => place.isPrefixOf file.1 && place != file.1

def content?
    (files : FileTree)
    (place : List String) : Option String :=
  (List.find? (fun file => file.1 == place) files).map Prod.snd

/-- The place that further parts lead to, if everything on the way exists. -/
def walk?
    (files : FileTree) : List String → List String → Option (List String)
  | place, [] =>
      if files.isDirectory place || (files.content? place).isSome then some place else none
  | place, part :: rest =>
      if !files.isDirectory place then none
      else if part == ".." then
        if place.isEmpty then none else files.walk? place.dropLast rest
      else files.walk? (place ++ [part]) rest

/-- The place of an existing file or directory. -/
def locate?
    (files : FileTree)
    (path : PathName) : Option (List String) :=
  if path.root == "" then files.walk? [] path.parts else none

def contains
    (files : FileTree)
    (path : PathName) : Bool :=
  (files.locate? path).isSome

end FileTree

end DeferredText
