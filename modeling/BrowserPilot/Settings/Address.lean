import BrowserPilot.Json.Literal
import BrowserPilot.Json.Reader
import BrowserPilot.Text.Split

/-!
# Addresses of proxies

The scheme and the host of an address, as far as they are needed to tell a
proxy from something else. Some texts are refused as a whole: those with a host
in brackets that is none, and those with a character that stands for one of
the delimiters.
-/

namespace BrowserPilot

/-- An address with a scheme and a host, either of which may be empty. -/
structure Address where
  scheme : String
  host : String
  deriving DecidableEq, Repr

namespace Address

inductive Refusal where
  | unbalanced
  | futureVersion
  | plainInBrackets
  | notNumeric (host : String)
  | hiddenDelimiter (authority : String)
  deriving DecidableEq, Repr

def Refusal.message : Refusal → String
  | unbalanced => "Invalid IPv6 URL"
  | futureVersion => "IPvFuture address is invalid"
  | plainInBrackets => "An IPv4 address cannot be in brackets"
  | notNumeric host => Json.literalText host ++ " does not appear to be an IPv4 or IPv6 address"
  | hiddenDelimiter authority =>
    "netloc '" ++ authority ++ "' contains invalid characters under NFKC normalization"

/-! ## Numeric hosts -/

/-- A number of 0, …, 255 without leading zeros. -/
def isByte (cs : List Char) : Bool :=
  cs ≠ [] && cs.length ≤ 3 && cs.all Json.isAsciiDigit && (cs = ['0'] || cs.head? ≠ some '0') &&
    decide (Text.readNat cs ≤ 255)

def isFourBytes (cs : List Char) : Bool :=
  let parts := Text.splitOn ['.'] cs
  parts.length == 4 && parts.all isByte

def isGroup (cs : List Char) : Bool := cs ≠ [] && cs.length ≤ 4 && cs.all fun c => (Text.hexValue? c).isSome

/-- How many groups of sixteen bits a list of parts makes, if all are good. The
last part of the whole address may be four bytes. -/
def countGroups (endsAddress : Bool) : List (List Char) → Option Nat
  | [] => some 0
  | [part] => if isGroup part then some 1 else if endsAddress && isFourBytes part then some 2 else none
  | part :: rest => if isGroup part then (countGroups endsAddress rest).map (· + 1) else none

def partsOf (cs : List Char) : List (List Char) := if cs = [] then [] else Text.splitOn [':'] cs

/-- Eight groups, or fewer with one double colon for those left out. -/
def isEightGroups (cs : List Char) : Bool :=
  match Text.cut? [':', ':'] cs with
  | none => countGroups true (Text.splitOn [':'] cs) == some 8
  | some (high, low) =>
    match countGroups false (partsOf high), countGroups true (partsOf low) with
    -- the double colon stands for one group at least
    | some h, some l => decide (h + l ≤ 7)
    | _, _ => false

/-- Eight groups, with the name of a zone after a percent sign. -/
def isZoned (cs : List Char) : Bool :=
  !cs.contains '/' &&
    match Text.cut? ['%'] cs with
    | none => isEightGroups cs
    | some (address, zone) => zone ≠ [] && !zone.contains '%' && isEightGroups address

/-- An address of a version to come: its version, a dot, and anything. -/
def isFutureVersion (cs : List Char) : Bool :=
  match Text.cut? ['.'] (cs.drop 1) with
  | some (version, rest) => version ≠ [] && version.all (fun c => (Text.hexValue? c).isSome) && rest ≠ []
  | none => false

def checkBracketed (host : List Char) : Except Refusal Unit :=
  if host.head? = some 'v' then (if isFutureVersion host then .ok () else .error .futureVersion)
  else if isFourBytes host then .error .plainInBrackets
  else if isZoned host then .ok ()
  else .error (.notNumeric (String.ofList host))

/-! ## Parts -/

/-- Code points of characters whose compatibility form holds a delimiter. -/
def delimiterLookalikes : List Nat := [
  0x2047, 0x2048, 0x2049, 0x2100, 0x2101, 0x2105, 0x2106, 0x2A74, 0xFE13, 0xFE16, 0xFE55, 0xFE56, 0xFE5F, 0xFE6B,
  0xFF03, 0xFF0F, 0xFF1A, 0xFF1F, 0xFF20]

/-- Control characters and blanks, which do not count at the start. -/
def isIgnoredAtStart (c : Char) : Bool := decide (c.toNat ≤ 0x20)

def isSchemeChar (c : Char) : Bool := c.isAlphanum || c = '+' || c = '-' || c = '.'

def splitScheme (cs : List Char) : List Char × List Char :=
  match Text.cut? [':'] cs with
  | some (c :: name, rest) =>
    if c.isAlpha && name.all isSchemeChar then ((c :: name).map Char.toLower, rest) else ([], cs)
  | _ => ([], cs)

/-- Host, port and user: what stands between two slashes and the path. -/
def authorityOf : List Char → List Char
  | '/' :: '/' :: rest => rest.takeWhile fun c => c ≠ '/' && c ≠ '?' && c ≠ '#'
  | _ => []

/-- What follows the last `@`. -/
def withoutUser (authority : List Char) : List Char := ((Text.splitOn ['@'] authority).getLast?).getD []

def hostOf (authority : List Char) : List Char :=
  let place := withoutUser authority
  match Text.cut? ['['] place with
  | some (_, bracketed) => bracketed.takeWhile (· ≠ ']')
  | none => place.takeWhile (· ≠ ':')

def checkBrackets (authority : List Char) : Except Refusal Unit :=
  if authority.contains '[' ≠ authority.contains ']' then .error .unbalanced
  else
    match Text.cut? ['['] authority with
    | none => .ok ()
    | some (_, rest) => checkBracketed (rest.takeWhile (· ≠ ']'))

/-- Reads an address. Tabs and line ends inside it do not count. -/
def ofString (s : String) : Except Refusal Address :=
  let cs := (s.toList.dropWhile isIgnoredAtStart).filter fun c => c ≠ '\t' && c ≠ '\r' && c ≠ '\n'
  let (scheme, rest) := splitScheme cs
  let authority := authorityOf rest
  match checkBrackets authority with
  | .error r => .error r
  | .ok () =>
    if authority.any fun c => delimiterLookalikes.contains c.toNat then
      .error (.hiddenDelimiter (String.ofList authority))
    else .ok ⟨String.ofList scheme, String.ofList (hostOf authority)⟩

/-- Whether this is the address of a proxy that a browser can use. -/
def isProxy (a : Address) : Bool := ["http", "https", "socks5"].contains a.scheme && !a.host.isEmpty

end Address

end BrowserPilot
