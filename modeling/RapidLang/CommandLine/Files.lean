import RapidLang.Text.AsciiCase
import RapidLang.Text.Utf8

/-!
# Files

What a command finds at the path it is given, and a set of files in memory that can be searched and
written like the files of a disk.
-/

set_option autoImplicit false

namespace RapidLang

inductive ReadError where
  | notFound
  | notDirectory
  | isDirectory
  /-- The bytes of the file are not a text. -/
  | notText
  | other (reason : String)
  deriving DecidableEq, Repr

def ReadError.message : ReadError → String
  | .notFound => "No such file or directory (os error 2)"
  | .notDirectory => "Not a directory (os error 20)"
  | .isDirectory => "Is a directory (os error 21)"
  | .notText => "stream did not contain valid UTF-8"
  | .other reason => reason

def readText (bytes : List Nat) : Except ReadError String :=
  match Text.decodeUtf8? bytes with
  | some text => .ok text
  | none => .error .notText

structure FileBelow where
  /-- The names on the way from the directory to the file. -/
  path : List String
  text : Except ReadError String

inductive PathContent where
  | missing (error : ReadError)
  | file (text : Except ReadError String)
  | directory (files : List FileBelow)

def PathContent.read : PathContent → Except ReadError String
  | .missing error => .error error
  | .file text => text
  | .directory _ => .error .isDirectory

/-- Is a file taken for a module, by the ending of its name? A name that has nothing before its
only dot has no ending. -/
def isModuleFile (name : String) : Bool :=
  let reversed := name.toList.reverse
  let ending := String.ofList (reversed.takeWhile (· != '.')).reverse
  let named := match reversed.dropWhile (· != '.') with
    | _ :: before => !before.isEmpty
    | [] => false
  named && ["mod", "modx", "sys", "prg"].any fun known => Text.sameWord known ending

/-- Files by the names on the way to them, with their bytes. There are no empty directories. -/
structure Files where
  entries : List (List String × List Nat)

namespace Files

def find? (files : Files) (path : List String) : Option (List Nat) :=
  files.entries.lookup path

def below (files : Files) (directory : List String) : List (List String × List Nat) :=
  files.entries.filterMap fun (path, bytes) =>
    if directory.isPrefixOf path && path.length != directory.length then
      some (path.drop directory.length, bytes)
    else none

def hasDirectory (files : Files) (path : List String) : Bool :=
  path.isEmpty || !(files.below path).isEmpty

def write (files : Files) (path : List String) (bytes : List Nat) : Files :=
  if (files.find? path).isSome then
    ⟨files.entries.map fun entry => if entry.1 == path then (path, bytes) else entry⟩
  else ⟨files.entries ++ [(path, bytes)]⟩

def follow (files : Files) (here : List String) :
    List String → Except ReadError (List String)
  | [] => .ok here
  | step :: rest =>
    if (files.find? here).isSome then .error .notDirectory
    else if step == "" || step == "." then files.follow here rest
    else if step == ".." then
      if here.isEmpty then .error .notFound else files.follow here.dropLast rest
    else if (files.find? (here ++ [step])).isSome || files.hasDirectory (here ++ [step]) then
      files.follow (here ++ [step]) rest
    else .error .notFound

/-- The names on the way to a path; paths that leave the set lead nowhere. -/
def resolve (files : Files) (path : String) : Except ReadError (List String) :=
  if path.isEmpty || path.startsWith "/" then .error .notFound
  else files.follow [] (path.splitOn "/")

def look (files : Files) (path : String) : PathContent :=
  match files.resolve path with
  | .error error => .missing error
  | .ok place =>
    match files.find? place with
    | some bytes => .file (readText bytes)
    | none =>
      .directory ((files.below place).map fun (path, bytes) => ⟨path, readText bytes⟩)

/-- Writes a text to a path, unless the path leads nowhere. -/
def writeText (files : Files) (path text : String) : Files :=
  match files.resolve path with
  | .ok place => files.write place (text.toUTF8.toList.map UInt8.toNat)
  | .error _ => files

end Files

end RapidLang
