import RapidLang.Number.Decimal

/-!
# Arguments of the command line

How the words after the name of the program are understood. A command is named by one or two words;
switches may stand before and after its operand, and those for all commands also before its name.
-/

set_option autoImplicit false

namespace RapidLang

inductive Command where
  /-- Report the diagnostics of a file. -/
  | check (file : String) (json : Bool)
  /-- Print a file in its formatted form, or write it back. -/
  | formatFile (file : String) (write : Bool) (indent : Nat)
  /-- Tell whether a file is formatted. -/
  | formatCheck (file : String) (indent : Nat)
  /-- Format all files of a directory, or tell which ones are not formatted. -/
  | formatDirectory (directory : String) (write : Bool) (indent : Nat)
  /-- List the declarations of a file. -/
  | symbols (file : String)
  /-- Print the syntax tree of a file. -/
  | tree (file : String)
  /-- Serve an editor. -/
  | serve
  deriving DecidableEq, Repr

structure Invocation where
  command : Command
  verbose : Bool
  quiet : Bool
  deriving DecidableEq, Repr

inductive NoCommand where
  | help
  | version
  /-- The arguments cannot be understood. -/
  | misuse
  deriving DecidableEq, Repr

inductive Argument where
  | long (name : String) (value : Option String)
  | letters (letters : List Char)
  /-- The mark after which every argument is an operand. -/
  | endOfSwitches
  | operand (text : String)
  deriving DecidableEq, Repr

namespace Argument

def ofLong (text : List Char) : Argument :=
  let name := String.ofList (text.takeWhile (· != '='))
  match text.dropWhile (· != '=') with
  | [] => .long name none
  | _ :: value => .long name (some (String.ofList value))

/-- The form of an argument; a single dash is an operand. -/
def ofString (text : String) : Argument :=
  match text.toList with
  | ['-', '-'] => .endOfSwitches
  | '-' :: '-' :: rest => ofLong rest
  | '-' :: c :: rest => .letters (c :: rest)
  | _ => .operand text

end Argument

inductive Switch where
  | verbose
  | quiet
  | json
  | write
  | help
  | version
  deriving DecidableEq, Repr

namespace Switch

def ofName? : String → Option Switch
  | "verbose" => some .verbose
  | "quiet" => some .quiet
  | "json" => some .json
  | "write" => some .write
  | "help" => some .help
  | "version" => some .version
  | _ => none

def ofLetter? : Char → Option Switch
  | 'v' => some .verbose
  | 'q' => some .quiet
  | 'w' => some .write
  | 'h' => some .help
  | 'V' => some .version
  | _ => none

end Switch

inductive CommandName where
  | check
  | formatFile
  | formatCheck
  | formatDirectory
  | symbols
  | tree
  | serve
  deriving DecidableEq, Repr

inductive NameRead where
  | none
  | format
  | complete (name : CommandName)
  deriving DecidableEq, Repr

namespace NameRead

def extend? : NameRead → String → Option NameRead
  | .none, "check" => some (.complete .check)
  | .none, "fmt" => some .format
  | .none, "symbols" => some (.complete .symbols)
  | .none, "ast" => some (.complete .tree)
  | .none, "lsp" => some (.complete .serve)
  | .format, "file" => some (.complete .formatFile)
  | .format, "check" => some (.complete .formatCheck)
  | .format, "dir" => some (.complete .formatDirectory)
  | _, _ => Option.none

def allows : NameRead → Switch → Bool
  | _, .verbose | _, .quiet | _, .help => true
  | .none, .version => true
  | .complete .check, .json => true
  | .complete .formatFile, .write | .complete .formatDirectory, .write => true
  | _, _ => false

def allowsIndent : NameRead → Bool
  | .complete .formatFile | .complete .formatCheck | .complete .formatDirectory => true
  | _ => false

def allowsOperand : NameRead → Bool
  | .complete .serve => false
  | .complete _ => true
  | _ => false

def isHelpTopic (name : NameRead) : List String → Bool
  | [] => true
  | word :: rest =>
    match name.extend? word with
    | some longer => longer.isHelpTopic rest
    | Option.none => name == .none && word == "help" && rest.isEmpty

end NameRead

structure ArgumentsRead where
  name : NameRead
  /-- The switches of all arguments so far. -/
  switches : List Switch
  /-- The switches since the name was last extended; none may be given twice there. -/
  recent : List Switch
  indent : Option Nat
  operand : Option String
  deriving DecidableEq, Repr

/-- A number without a sign or with a plus sign, if it fits into 64 bits. -/
def readCount? (text : String) : Option Nat :=
  let digits := match text.toList with
    | '+' :: rest => rest
    | all => all
  let value := digitsValue digits
  if digits.isEmpty || !digits.all Char.isDigit || 0xFFFFFFFFFFFFFFFF < value then none
  else some value

namespace ArgumentsRead

def start : ArgumentsRead := ⟨.none, [], [], none, none⟩

def takeSwitch (read : ArgumentsRead) (switch : Switch) : Except NoCommand ArgumentsRead :=
  if !read.name.allows switch then .error .misuse
  else
    match switch with
    | .help => .error .help
    | .version => .error .version
    | _ =>
      if read.recent.contains switch then .error .misuse
      else .ok
        { read with switches := switch :: read.switches, recent := switch :: read.recent }

def takeLetters (read : ArgumentsRead) : List Char → Except NoCommand ArgumentsRead
  | [] => .ok read
  | letter :: rest =>
    match Switch.ofLetter? letter with
    | some switch => do
      let next ← read.takeSwitch switch
      next.takeLetters rest
    | none => .error .misuse

def takeLong (read : ArgumentsRead) (name : String) : Except NoCommand ArgumentsRead :=
  match Switch.ofName? name with
  | some switch => read.takeSwitch switch
  | none => .error .misuse

/-- Takes the value of the indentation, which may be given once. -/
def takeIndent (read : ArgumentsRead) (value : String) : Except NoCommand ArgumentsRead :=
  if !read.name.allowsIndent || read.indent.isSome then .error .misuse
  else
    match readCount? value with
    | some count => .ok { read with indent := some count }
    | none => .error .misuse

def takeOperand (read : ArgumentsRead) (text : String) : Except NoCommand ArgumentsRead :=
  if read.name.allowsOperand && read.operand.isNone then .ok { read with operand := some text }
  else .error .misuse

/-- Takes the arguments after the mark, all of which are operands. -/
def takeOperands (read : ArgumentsRead) : List String → Except NoCommand ArgumentsRead
  | [] => .ok read
  | text :: rest => do
    let next ← read.takeOperand text
    next.takeOperands rest

def isValue (argument : String) : Bool :=
  match Argument.ofString argument with
  | .operand _ => true
  | _ => false

/-- Takes a word of the name of a command, or a request for help on the words after it. -/
def takeWord (read : ArgumentsRead) (text : String) (rest : List String) :
    Except NoCommand ArgumentsRead :=
  match read.name.extend? text with
  | some longer => .ok { read with name := longer, recent := [] }
  | none => .error (if text == "help" && read.name.isHelpTopic rest then .help else .misuse)

def takeAll (read : ArgumentsRead) : List String → Except NoCommand ArgumentsRead
  | [] => .ok read
  | argument :: rest =>
    match Argument.ofString argument with
    | .endOfSwitches => read.takeOperands rest
    | .letters letters => do
      let next ← read.takeLetters letters
      next.takeAll rest
    | .long "indent" (some value) => do
      let next ← read.takeIndent value
      next.takeAll rest
    | .long "indent" none =>
      match rest with
      | value :: others =>
        if isValue value then do
          let next ← read.takeIndent value
          next.takeAll others
        else .error .misuse
      | [] => .error .misuse
    | .long _ (some _) => .error .misuse
    | .long name none => do
      let next ← read.takeLong name
      next.takeAll rest
    | .operand text => do
      let next ← match read.name with
        | .complete _ => read.takeOperand text
        | _ => read.takeWord text rest
      next.takeAll rest

def command? (read : ArgumentsRead) : Option Command :=
  let write := read.switches.contains .write
  let indent := read.indent.getD 4
  match read.name, read.operand with
  | .complete .serve, _ => some .serve
  | .complete .check, some file => some (.check file (read.switches.contains .json))
  | .complete .symbols, some file => some (.symbols file)
  | .complete .tree, some file => some (.tree file)
  | .complete .formatFile, some file => some (.formatFile file write indent)
  | .complete .formatCheck, some file => some (.formatCheck file indent)
  | .complete .formatDirectory, some directory =>
    some (.formatDirectory directory write indent)
  | _, _ => none

end ArgumentsRead

def Invocation.ofArguments (arguments : List String) : Except NoCommand Invocation := do
  let read ← ArgumentsRead.start.takeAll arguments
  match read.command? with
  | some command =>
    .ok ⟨command, read.switches.contains .verbose, read.switches.contains .quiet⟩
  | none => .error .misuse

end RapidLang
