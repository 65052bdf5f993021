import VulnScan.Config.File
import VulnScan.Text.Split
import VulnScan.Text.Utf8

/-! # The files of a rehearsal

A rehearsal knows the usual directories of a system and a few of the files in them, among them the
one that is always empty. Of the directory in which it takes place nothing is known, so no name is
found there; files may be written to every directory.

A path is followed name by name. Its first fault counts, so a name that is too long is no fault if
the directory before it does not exist.
-/

set_option autoImplicit false

namespace VulnScan.Rehearsal

open Config (FileFault)

/-- What a path leads to. -/
inductive Place where
  /-- A directory with the names on the way to it from the root, if they are known. -/
  | directory (names : Option (List String))
  /-- A file with its content, if that is text. -/
  | file (content : Option String)
deriving DecidableEq, Inhabited

/-- The directories of the root. -/
def rootDirectories : List String :=
  ["bin", "boot", "dev", "etc", "home", "lib", "lib64", "media", "mnt", "opt", "proc", "root",
   "run", "sbin", "srv", "sys", "tmp", "usr", "var"]

/-- Further directories, each within another one. -/
def innerDirectories : List (String × List String) :=
  [("dev", ["pts", "shm"]), ("usr", ["bin", "include", "lib", "local", "sbin", "share", "src"]),
   ("var", ["cache", "lib", "local", "log", "mail", "opt", "spool", "tmp"])]

/-- The files, each by the names on the way to it. None but the empty one is a configuration. -/
def files : List (List String × Option String) :=
  [(["dev", "null"], some ""), (["etc", "passwd"], some "root:x:0:0:root:/root:/bin/sh\n"),
   (["etc", "group"], some "root:x:0:\n"), (["etc", "hosts"], some "127.0.0.1 localhost\n"),
   (["etc", "hostname"], some "localhost\n"), (["bin", "sh"], none), (["usr", "bin", "env"], none)]

/-- Whether there is a directory. -/
def isDirectory : List String → Bool
  | [] => true
  | [name] => rootDirectories.contains name
  | [outer, name] => ((innerDirectories.lookup outer).getD []).contains name
  | _ => false

/-- What the names on the way from the root lead to. -/
def placeOf? (names : List String) : Option Place :=
  if isDirectory names then some (.directory (some names)) else (files.lookup names).map .file

/-- The greatest number of octets of a name. -/
def longestName : Nat := 255

/-- The greatest number of octets of a path. -/
def longestPath : Nat := 4095

namespace Place

/-- The place with a name in a directory; a point and no name at all stand for the directory
itself, two points for the one around it. -/
def enter : Place → String → Except FileFault Place
  | .file _, _ => .error .noDirectory
  | .directory names, name =>
    if name = "" ∨ name = "." then .ok (.directory names)
    else if name = ".." then .ok (.directory (names.map List.dropLast))
    else if longestName < name.utf8ByteSize then .error .tooLong
    else match names.bind fun names => placeOf? (names ++ [name]) with
      | some place => .ok place
      | none => .error .missing

/-- The names in a path and the directory where it starts: the root if the path starts with a
stroke. -/
def start (path : String) : Except FileFault (Place × List String) :=
  if path.toList.contains '\x00' then .error .zero
  else if path = "" then .error .missing
  else if longestPath < path.utf8ByteSize then .error .tooLong
  else match (Text.splitAll '/' path.toList).map String.ofList with
    | "" :: names => .ok (.directory (some []), names)
    | names => .ok (.directory none, names)

/-- The place that a path leads to. -/
def find (path : String) : Except FileFault Place := do
  let (place, names) ← start path
  names.foldlM enter place

end Place

/-- The content of the file at a path. -/
def contentAt (path : String) : Except FileFault String := do
  match ← Place.find path with
  | .directory _ => .error .directory
  | .file (some content) => return content
  | .file none => .error .noText

/-- The content of the file at a path, if the path leads anywhere. -/
def contentAt? (path : String) : Except FileFault (Option String) :=
  match Place.find path with
  | .error _ => .ok none
  | .ok _ => (contentAt path).map some

/-- Whether a file can be written at a path, be it a new one. A path that ends with a stroke leads
to directories only. -/
def newFileAt (path : String) : Except FileFault Unit := do
  let (place, names) ← Place.start path
  let shown := (names.reverse.dropWhile (· = "")).reverse
  let outer ← shown.dropLast.foldlM Place.enter place
  match outer.enter (shown.getLast?.getD "") with
  | .ok (.directory _) => .error .directory
  | .ok (.file _) | .error .missing =>
    if shown.length < names.length then .error .directory else return ()
  | .error f => .error f

end VulnScan.Rehearsal
