import RapidLang.Text.HexDigit
import RapidLang.Text.Utf8

/-!
# Addresses

Which texts are addresses of documents. An address begins with a scheme; where an authority follows
it, the authority names a host and perhaps a port. Whatever follows is not restricted.
-/

set_option autoImplicit false

namespace RapidLang.Text

inductive AddressError where
  | withoutScheme
  | emptyHost
  | port
  | domain
  | domainCharacter
  | ipv4
  | ipv6
  deriving DecidableEq, Repr

def AddressError.message : AddressError → String
  | .withoutScheme => "relative URL without a base"
  | .emptyHost => "empty host"
  | .port => "invalid port number"
  | .domain => "invalid international domain name"
  | .domainCharacter => "invalid domain character"
  | .ipv4 => "invalid IPv4 address"
  | .ipv6 => "invalid IPv6 address"

namespace Address

inductive SchemeKind where
  /-- The host may be left out, and there is no port. -/
  | file
  /-- There must be a host; backslashes count as slashes. -/
  | web
  | other
  deriving DecidableEq, Repr

def SchemeKind.ofName (name : String) : SchemeKind :=
  if name == "file" then .file
  else if ["http", "https", "ws", "wss", "ftp"].contains name then .web
  else .other

/-- The text that counts: without blanks and control characters at its ends, and without tabs and
line breaks anywhere. -/
def significant (text : List Char) : List Char :=
  let outside := fun c : Char => c.toNat ≤ 0x20
  let trimmed := ((text.dropWhile outside).reverse.dropWhile outside).reverse
  trimmed.filter fun c => c != '\t' && c != '\n' && c != '\r'

def scheme? (text : List Char) : Option (String × List Char) :=
  let inScheme := fun c : Char => c.isAlphanum || c == '+' || c == '-' || c == '.'
  match text.takeWhile inScheme, text.dropWhile inScheme with
  | first :: more, ':' :: rest =>
    if first.isAlpha then some (String.ofList ((first :: more).map Char.toLower), rest) else none
  | _, _ => none

def endsAuthority (kind : SchemeKind) (c : Char) : Bool :=
  c == '/' || c == '?' || c == '#' || (c == '\\' && kind != .other)

def splitAt (separator : Char) (text : List Char) : List (List Char) :=
  text.foldr
    (fun c parts =>
      match parts with
      | [] => [[c]]
      | part :: others => if c = separator then [] :: part :: others else (c :: part) :: others)
    [[]]

def valueIn (base : Nat) (digits : List Char) : Option Nat :=
  digits.foldl
    (fun value c => do
      let before ← value
      let digit ← hexDigit? c
      if digit < base then some (before * base + digit) else none)
    (some 0)

/-- A part of an address of four numbers; hexadecimal and octal digits have a mark before them. -/
def ipv4Number? (text : List Char) : Option Nat :=
  match text with
  | [] => none
  | '0' :: 'x' :: digits | '0' :: 'X' :: digits => valueIn 16 digits
  | '0' :: digit :: digits => valueIn 8 (digit :: digits)
  | digits => valueIn 10 digits

/-- The parts of a host between dots; a dot at the end does not count. -/
def hostParts (host : List Char) : List (List Char) :=
  match (splitAt '.' host).reverse with
  | [] :: before :: others => (before :: others).reverse
  | _ => splitAt '.' host

/-- Does a host end in a number, so that it has to be an address of four numbers? -/
def endsInNumber (host : List Char) : Bool :=
  match (hostParts host).getLast? with
  | some last => (!last.isEmpty && last.all Char.isDigit) || (ipv4Number? last).isSome
  | none => false

/-- Do the numbers make an address? All but the last one are below 256, and the last one fills the
bytes that are left. -/
def isIpv4 (parts : List (List Char)) : Bool :=
  match (parts.mapM ipv4Number?).map List.reverse with
  | some (last :: others) =>
    others.length ≤ 3 && others.all (· < 256)
      && last < [0x100000000, 0x1000000, 0x10000, 0x100].getD others.length 0
  | _ => false

def isHexGroup (text : List Char) : Bool :=
  !text.isEmpty && text.length ≤ 4 && text.all fun c => (hexDigit? c).isSome

/-- Is the text a number below 256 without superfluous zeros? -/
def isByte (text : List Char) : Bool :=
  !text.isEmpty && text.length ≤ 3 && text.all Char.isDigit
    && (text.length = 1 || text.head? != some '0') && (valueIn 10 text).any (· < 256)

/-- The number of groups of sixteen bits that a text between colons stands for; only the last text
of an address may be four numbers with dots. -/
def groupCount? : List (List Char) → Option Nat
  | [] => some 0
  | [last] =>
    if isHexGroup last then some 1
    else
      let bytes := splitAt '.' last
      if bytes.length = 4 && bytes.all isByte then some 2 else none
  | group :: rest => if isHexGroup group then (groupCount? rest).map (· + 1) else none

def cutAtGap : List Char → List Char × Option (List Char)
  | ':' :: ':' :: rest => ([], some rest)
  | c :: rest =>
    let (before, after) := cutAtGap rest
    (c :: before, after)
  | [] => ([], none)

/-- The groups of a part of an address, which may be empty. -/
def groupsOf (text : List Char) : List (List Char) :=
  if text.isEmpty then [] else splitAt ':' text

/-- Is the text an address of eight groups, of which a double colon may leave out some? -/
def isIpv6 (text : List Char) : Bool :=
  match cutAtGap text with
  | (before, none) => groupCount? (groupsOf before) == some 8
  | (before, some after) =>
    (groupsOf before).all isHexGroup
      && (groupCount? (groupsOf after)).any fun count => (groupsOf before).length + count ≤ 7

def bracketedProblem? (inner : List Char) : Option AddressError :=
  if inner.getLast? == some ']' && isIpv6 inner.dropLast then none else some .ipv6

/-- The bytes of a text in which a percent sign with two digits stands for a byte. -/
def percentDecode : List Char → List Nat
  | [] => []
  | '%' :: high :: low :: rest =>
    match hexDigit? high, hexDigit? low with
    | some high, some low => (high * 16 + low) :: percentDecode rest
    | _, _ => '%'.toNat :: percentDecode (high :: low :: rest)
  | c :: rest => (c.toString.toUTF8.toList.map UInt8.toNat) ++ percentDecode rest

def isForbidden (c : Char) : Bool :=
  c == '\x00' || "\t\n\r #/:<>?@[\\]^|".toList.contains c

def isForbiddenInDomain (c : Char) : Bool :=
  isForbidden c || c.toNat < 0x20 || c == '%' || c == '\x7f' || c == '\ufffd'

def hostProblem? (host : List Char) : Option AddressError :=
  match host with
  | '[' :: inner => bracketedProblem? inner
  | _ =>
    let domain := (decodeUtf8 (percentDecode host)).toList
    if domain.any isForbiddenInDomain then some .domain
    else if domain.isEmpty then some .emptyHost
    else if endsInNumber domain && !isIpv4 (hostParts domain) then some .ipv4
    else none

def opaqueHostProblem? (host : List Char) : Option AddressError :=
  match host with
  | '[' :: inner => bracketedProblem? inner
  | _ => if host.any isForbidden then some .domainCharacter else none

/-- Cuts a host from what follows it; a colon inside brackets belongs to the host. -/
def cutHost (bracketed : Bool) : List Char → List Char × List Char
  | [] => ([], [])
  | c :: rest =>
    if c = ':' && !bracketed then ([], c :: rest)
    else
      let (host, after) :=
        cutHost (if c = '[' then true else if c = ']' then false else bracketed) rest
      (c :: host, after)

def portProblem? (port : List Char) : Option AddressError :=
  if port.all Char.isDigit && (valueIn 10 port).any (· ≤ 0xFFFF) then none else some .port

/-- The problem of an authority: a name of a user and an at sign may stand before the host. -/
def authorityProblem? (kind : SchemeKind) (authority : List Char) : Option AddressError :=
  let parts := splitAt '@' authority
  let located := parts.getLastD []
  let named := 2 ≤ parts.length
  let (host, port) := cutHost false located
  if named && located.isEmpty then some .emptyHost
  else if host.isEmpty && (kind == .web || !port.isEmpty) then some .emptyHost
  else
    (if kind == .web then hostProblem? host
      else if host.isEmpty then none
      else opaqueHostProblem? host).or
      (portProblem? (port.drop 1))

def isDrive : List Char → Bool
  | [letter, mark] => letter.isAlpha && (mark == ':' || mark == '|')
  | _ => false

def problemAfter? (kind : SchemeKind) (rest : List Char) : Option AddressError :=
  let authority := fun text : List Char => text.takeWhile fun c => !endsAuthority kind c
  let isSlash := fun c : Char => c == '/' || c == '\\'
  match kind, rest with
  | .web, _ => authorityProblem? .web (authority (rest.dropWhile isSlash))
  | .file, first :: second :: after =>
    let host := authority after
    if isSlash first && isSlash second && !host.isEmpty && !isDrive host then hostProblem? host
    else none
  | .other, '/' :: '/' :: after => authorityProblem? .other (authority after)
  | _, _ => none

end Address

def addressProblem? (text : String) : Option AddressError :=
  match Address.scheme? (Address.significant text.toList) with
  | some (name, rest) => Address.problemAfter? (.ofName name) rest
  | none => some .withoutScheme

end RapidLang.Text
