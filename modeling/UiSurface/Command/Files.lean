import UiSurface.Command.Program
import UiSurface.Text.Lines
import UiSurface.Text.Utf8

/-!
# Files — what reading a path brings

A folder is given by the files in it, each by its path.  A path is followed segment by segment;
outside the folder there is nothing to be read, and the way up leads through folders only.
-/

namespace UiSurface.Files

def pathOf (segments : List String) : String := String.intercalate "/" segments

def isFolder (files : Record String) (path : String) : Bool :=
  (Record.keys files).any (fun name => (path ++ "/").toList.isPrefixOf name.toList)

def maxNameLength : Nat := 255

def maxPathLength : Nat := 4095

/-- What is found where a segment leads to neither a file nor a folder. -/
def nothingAt (segment : String) : ReadFault :=
  if maxNameLength < segment.utf8ByteSize then .longName else .absent

/-- What is found above the folder: the folders above it, and nothing else that is known. -/
def outside (segments : List String) : ReadFault :=
  match segments.find? (· != "..") with
  | some segment => nothingAt segment
  | none => .folder

/-- Follows the segments of a path from a folder on. -/
def follow (files : Record String) (here : List String) : List String → Except ReadFault String
  | [] => .error .folder
  | segment :: rest =>
    if segment = ".." then
      match here with
      | [] => .error (outside rest)
      | _ :: _ => follow files here.dropLast rest
    else
      let path := pathOf (here ++ [segment])
      match Record.get? files path, rest with
      | some text, [] => .ok text
      | some _, _ :: _ => .error .notFolder
      | none, _ =>
        if isFolder files path then follow files (here ++ [segment]) rest
        else .error (nothingAt segment)

/-- The segments of a path that lead anywhere. -/
def segments (path : String) : List String :=
  ((Text.splitAt '/' path.toList).map String.ofList).filter (fun s => s != "" && s != ".")

/-- The slashes that a path begins with: two are kept, more count as one. -/
def root (path : String) : String :=
  match path.toList with
  | '/' :: '/' :: '/' :: _ => "/"
  | '/' :: '/' :: _ => "//"
  | '/' :: _ => "/"
  | _ => ""

/-- What reading a path brings, by the files of the folder. -/
def read (files : Record String) (path : String) : Except ReadFault String :=
  -- the length is asked before anything is looked up
  if maxPathLength < (root path ++ pathOf (segments path)).utf8ByteSize then .error .longName
  else if root path = "" then follow files [] (segments path)
  else .error (outside (segments path))

end UiSurface.Files
