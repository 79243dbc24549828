import RapidLang.CommandLine.Files
import RapidLang.CommandLine.Outcome
import RapidLang.Layout.Format

/-!
# Commands that format files

One file is printed, written back or merely compared with its formatted form; a directory is treated
file by file, and a file that cannot be formatted does not stop the others.
-/

set_option autoImplicit false

namespace RapidLang

def LayoutConfig.indented (width : Nat) : LayoutConfig :=
  { indent := .spaces width }

/-- A source with its formatted text, or why it cannot be read or formatted. -/
def formatRead (path : String) (config : LayoutConfig) (read : Except ReadError String) :
    Except String (String × String) :=
  match read with
  | .error error => .error ("Failed to read " ++ path ++ ": " ++ error.message)
  | .ok source =>
    match format config source with
    | .ok formatted => .ok (source, formatted)
    | .error error => .error (path ++ ": " ++ error.message)

/-- The same for what stands at a path, which may be nothing. -/
def formatContent (path : String) (config : LayoutConfig) (content : PathContent) :
    Except String (String × String) :=
  match content with
  | .missing _ => .error ("File not found: " ++ path)
  | _ => formatRead path config content.read

/-- Formats a file: prints the result, or writes it back if it differs. -/
def formatOne (file : String) (write : Bool) (config : LayoutConfig) (content : PathContent) :
    Outcome :=
  match formatContent file config content with
  | .error reason => .failed reason
  | .ok (source, formatted) =>
    if !write then { messages := [.result formatted] }
    else if formatted = source then { messages := [.info ("Already formatted: " ++ file)] }
    else
      { messages := [.success ("Formatted: " ++ file)]
        writes := [(file, formatted)] }

/-- Tells whether a file is formatted; it fails if not. -/
def checkFormat (file : String) (config : LayoutConfig) (content : PathContent) : Outcome :=
  match formatContent file config content with
  | .error reason => .failed reason
  | .ok (source, formatted) =>
    if formatted = source then { messages := [.success ("OK: " ++ file)] }
    else .failed ("Would reformat: " ++ file)

inductive FileResult where
  | unchanged
  | written (path text : String)
  | pending (path : String)
  | failed (reason : String)
  deriving DecidableEq, Repr

namespace FileResult

def ofFile (path : String) (write : Bool) (config : LayoutConfig)
    (read : Except ReadError String) : FileResult :=
  match formatRead path config read with
  | .error reason => .failed reason
  | .ok (source, formatted) =>
    if formatted = source then .unchanged
    else if write then .written path formatted
    else .pending path

def message? : FileResult → Option Message
  | .unchanged => none
  | .written path _ => some (.success ("Formatted: " ++ path))
  | .pending path => some (.warning ("Would reformat: " ++ path))
  | .failed reason => some (.error reason)

def write? : FileResult → Option (String × String)
  | .written path text => some (path, text)
  | _ => none

def isPending : FileResult → Bool
  | .pending _ => true
  | _ => false

def isFailed : FileResult → Bool
  | .failed _ => true
  | _ => false

def failure? (results : List FileResult) : Option String :=
  match results.countP isPending, results.countP isFailed with
  | 0, 0 => none
  | 0, broken => some (counted broken "file" ++ " could not be formatted")
  | waiting, 0 => some (counted waiting "file" ++ " would be reformatted")
  | waiting, broken =>
    some (counted waiting "file" ++ " would be reformatted, " ++ toString broken
      ++ " could not be formatted")

end FileResult

def pathBelow (directory : String) (path : List String) : String :=
  directory ++ (if directory.endsWith "/" then "" else "/") ++ "/".intercalate path

/-- The module files among those below a directory, in the order of their paths, compared name by
name. -/
def moduleFiles (files : List FileBelow) : List FileBelow :=
  let modules := files.filter fun file => isModuleFile (file.path.getLastD "")
  modules.mergeSort fun left right => !decide (right.path < left.path)

/-- Formats the module files of a directory, or tells which ones are not formatted. -/
def formatAll (directory : String) (write : Bool) (config : LayoutConfig)
    (content : PathContent) : Outcome :=
  match content with
  | .directory files =>
    let results := (moduleFiles files).map fun file =>
      FileResult.ofFile (pathBelow directory file.path) write config file.text
    { messages := results.filterMap FileResult.message?
      writes := results.filterMap FileResult.write?
      failure := FileResult.failure? results }
  | _ => .failed ("Not a directory: " ++ directory)

end RapidLang
