import RapidLang.Text.UpperCase

/-!
# Kinds of tokens

The reserved words, punctuation and operators of the language, and how each is spelled. Reserved
words are recognised in any letter case.
-/

set_option autoImplicit false

namespace RapidLang

inductive TokenKind where
  | identifier
  | number
  | string
  | module
  | endModule
  | proc
  | endProc
  | func
  | endFunc
  | var
  | pers
  | const
  | «if»
  | «then»
  | elseIf
  | «else»
  | endIf
  | «for»
  | «from»
  | to
  | endFor
  | «while»
  | endWhile
  | «return»
  | true
  | false
  | moveJ
  | moveL
  | moveC
  | and
  | or
  | not
  | test
  | «case»
  | default
  | endTest
  | trap
  | endTrap
  | connect
  | «with»
  | raise
  | record
  | endRecord
  | leftParen
  | rightParen
  | leftBracket
  | rightBracket
  | comma
  | colon
  | assign
  | semicolon
  | dot
  | backslash
  | plus
  | minus
  | star
  | slash
  | equal
  | notEqual
  | less
  | lessEqual
  | greater
  | greaterEqual
  | endOfInput
  deriving DecidableEq, Repr

namespace TokenKind

/-- All kinds: literals, reserved words, punctuation, operators and the end of the input. -/
def all : List TokenKind :=
  [.identifier, .number, .string, .module, .endModule, .proc, .endProc, .func, .endFunc, .var,
    .pers, .const, .if, .then, .elseIf, .else, .endIf, .for, .from, .to, .endFor, .while,
    .endWhile, .return, .true, .false, .moveJ, .moveL, .moveC, .and, .or, .not, .test, .case,
    .default, .endTest, .trap, .endTrap, .connect, .with, .raise, .record, .endRecord,
    .leftParen, .rightParen, .leftBracket, .rightBracket, .comma, .colon, .assign, .semicolon,
    .dot, .backslash, .plus, .minus, .star, .slash, .equal, .notEqual, .less, .lessEqual,
    .greater, .greaterEqual, .endOfInput]

/-- The reserved words in upper case, with their kinds. -/
def reservedWords : List (String × TokenKind) :=
  [("MODULE", .module), ("ENDMODULE", .endModule), ("PROC", .proc), ("ENDPROC", .endProc),
    ("FUNC", .func), ("ENDFUNC", .endFunc), ("VAR", .var), ("PERS", .pers), ("CONST", .const),
    ("IF", .if), ("THEN", .then), ("ELSEIF", .elseIf), ("ELSE", .else), ("ENDIF", .endIf),
    ("FOR", .for), ("FROM", .from), ("TO", .to), ("ENDFOR", .endFor), ("WHILE", .while),
    ("ENDWHILE", .endWhile), ("RETURN", .return), ("TRUE", .true), ("FALSE", .false),
    ("MOVEJ", .moveJ), ("MOVEL", .moveL), ("MOVEC", .moveC), ("AND", .and), ("OR", .or),
    ("NOT", .not), ("TEST", .test), ("CASE", .case), ("DEFAULT", .default),
    ("ENDTEST", .endTest), ("TRAP", .trap), ("ENDTRAP", .endTrap), ("CONNECT", .connect),
    ("WITH", .with), ("RAISE", .raise), ("RECORD", .record), ("ENDRECORD", .endRecord)]

/-- The reserved word that a word spells in some letter case. -/
def ofWord? (word : String) : Option TokenKind :=
  reservedWords.lookup (Text.upperCase word)

def word? (kind : TokenKind) : Option String :=
  (reservedWords.find? fun entry => entry.2 == kind).map Prod.fst

def isReserved (kind : TokenKind) : Bool :=
  kind.word?.isSome

def isOperator : TokenKind → Bool
  | .plus | .minus | .star | .slash | .equal | .notEqual | .less | .lessEqual | .greater
  | .greaterEqual | .assign => Bool.true
  | _ => Bool.false

/-- The spelling of a kind that has just one, and a noun for the other kinds. -/
def render (kind : TokenKind) : String :=
  match kind.word? with
  | some word => word
  | none =>
    match kind with
    | .identifier => "identifier"
    | .number => "number"
    | .string => "string"
    | .leftParen => "("
    | .rightParen => ")"
    | .leftBracket => "["
    | .rightBracket => "]"
    | .comma => ","
    | .colon => ":"
    | .assign => ":="
    | .semicolon => ";"
    | .dot => "."
    | .backslash => "\\"
    | .plus => "+"
    | .minus => "-"
    | .star => "*"
    | .slash => "/"
    | .equal => "="
    | .notEqual => "<>"
    | .less => "<"
    | .lessEqual => "<="
    | .greater => ">"
    | .greaterEqual => ">="
    | .endOfInput => "end of input"
    | _ => "keyword"

end TokenKind

end RapidLang
