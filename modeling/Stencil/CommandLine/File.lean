import Stencil.Text.Quoted
import Stencil.Text.Utf8

namespace Stencil
namespace CommandLine

/-!
Files to read.  A file may be missing, which is a mistake in the command; that
there is something else in its place, or that it holds no text, is beyond what
the command deals with.

A folder stands for the place where the command runs: files by name, nothing
within anything else.  Paths lead through it as they do on a disk.
-/

/-- Why a name cannot be opened, other than that nothing has it. -/
inductive Obstacle where
  | directory
  /-- Something on the way is no directory. -/
  | notDirectory
  | tooLong
  /-- The name holds the character with code zero. -/
  | nullCharacter
  deriving DecidableEq, Repr

/-- What reading the file of a name gives. -/
inductive ReadResult where
  | missing
  | blocked (obstacle : Obstacle)
  | bytes (bytes : List UInt8)
  deriving DecidableEq, Repr

def Obstacle.message (obstacle : Obstacle) (name : String) : String :=
  match obstacle with
  | .directory => "[Errno 21] Is a directory: " ++ Text.quoted name
  | .notDirectory => "[Errno 20] Not a directory: " ++ Text.quoted name
  | .tooLong => "[Errno 36] File name too long: " ++ Text.quoted name
  | .nullCharacter => "embedded null byte"

/-- The files at the place where the command runs.  It stands for a disk where
one is needed to run the command inside the logic. -/
structure Folder where
  files : List (String × List UInt8)
  deriving DecidableEq, Repr

namespace Folder

def maxNameBytes : Nat := 255

/-- No path may have as many bytes. -/
def maxPathBytes : Nat := 4096

/-- Reads what a path inside the folder leads to, the path being given by its
parts.  A part that is empty or a single dot stays where it is. -/
def readParts (folder : Folder) : List String -> ReadResult
  | [] => .blocked .directory
  | part :: rest =>
      if part = "" || part = "." then folder.readParts rest
      else if maxNameBytes < part.utf8ByteSize then .blocked .tooLong
      else
        match folder.files.lookup part, rest with
        | some bytes, [] => .bytes bytes
        | some _, _ :: _ => .blocked .notDirectory
        | none, _ => if part = ".." && rest.isEmpty then .blocked .directory else .missing

def read (folder : Folder) (name : String) : ReadResult :=
  if name.toList.contains '\x00' then .blocked .nullCharacter
  else if maxPathBytes ≤ name.utf8ByteSize then .blocked .tooLong
  else
    match name.toList.splitOn '/' with
    | [[]] => .missing
    | [] :: parts => if parts.all List.isEmpty then .blocked .directory else .missing
    | parts => folder.readParts (parts.map String.ofList)

end Folder

end CommandLine
end Stencil
