import EndpointMonitor.Url.Domain
import EndpointMonitor.Url.NumericHost

/-!
# URLs

A URL starts with its scheme. The well-known schemes of the web always have a host, which is a
domain name or an address; with any other scheme a host is optional, and its text is opaque.
Controls and blanks at both ends count for nothing, nor do tabs and line ends anywhere.
-/

namespace EndpointMonitor

/-- The machine that a URL leads to. -/
inductive UrlHost where
  | domain (name : String)
  | ipv4 (value : Nat)
  | ipv6 (groups : List Nat)
  | opaqueName (text : String)
  deriving DecidableEq, Inhabited

/-- The parts of a URL that say where to connect. -/
structure Url where
  /-- The scheme, in lower case. -/
  scheme : String
  host : Option UrlHost := none
  /-- The number after the host, where one is written. -/
  portNumber : Option Nat := none
  deriving DecidableEq, Inhabited

namespace UrlHost

/-- A text in brackets is an IPv6 address. -/
def ofBrackets (rest : List Char) : Except UrlFault UrlHost :=
  if rest.getLast? = some ']' then (Ipv6.ofChars rest.dropLast).map .ipv6
  else .error .invalidIpv6

/-- The host of a URL of the web. -/
def ofWeb (cs : List Char) : Except UrlFault UrlHost :=
  match cs with
  | '[' :: rest => ofBrackets rest
  | cs => do
    let name ← Domain.ofChars cs
    let labels := Text.pieces '.' name
    if name.isEmpty then .error .emptyHost
    else if Ipv4.isMeant labels then (Ipv4.ofLabels labels).map .ipv4
    else return .domain (String.ofList name)

/-- The characters that no opaque host holds. -/
def forbidden : List Char :=
  ['\x00', ' ', '#', '/', ':', '<', '>', '?', '@', '[', '\\', ']', '^', '|']

/-- The host of any other URL, or `none` if it is empty. -/
def ofOther (cs : List Char) : Except UrlFault (Option UrlHost) :=
  match cs with
  | [] => .ok none
  | '[' :: rest => (ofBrackets rest).map some
  | cs =>
    if cs.any forbidden.contains then .error .invalidHostCharacter
    else .ok (some (.opaqueName (String.ofList cs)))

end UrlHost

namespace Url

/-- The schemes of the web that lead to a host. -/
def webSchemes : List String :=
  ["ftp", "http", "https", "ws", "wss"]

/-- The scheme of a text in lower case, and the text after its colon. -/
def splitScheme? (cs : List Char) : Option (String × List Char) := do
  let (scheme, rest) ← Text.splitFirst ':' cs
  let first ← scheme.head?
  if first.isAlpha && scheme.all fun c => c.isAlphanum || c == '+' || c == '-' || c == '.' then
    return (String.ofList (scheme.map Char.toLower), rest)
  else none

/-- Whether a character ends the part of a URL that names its host. -/
def endsAuthority (isWeb : Bool) (c : Char) : Bool :=
  c == '/' || c == '?' || c == '#' || (isWeb && c == '\\')

/-- The text before and after the last `@`; without one there is nothing before. -/
def splitUser (cs : List Char) : Option (List Char) × List Char :=
  match Text.splitFirst '@' cs.reverse with
  | some (after, before) => (some before.reverse, after.reverse)
  | none => (none, cs)

/-- The text of a host, and the rest from the colon that stands outside of brackets. -/
def splitHost (isInside : Bool) : List Char → List Char × List Char
  | [] => ([], [])
  | c :: rest =>
    if c = ':' ∧ !isInside then ([], c :: rest)
    else
      let (host, rest) := splitHost (c = '[' || (isInside && c ≠ ']')) rest
      (c :: host, rest)

/-- The number after a host; a backslash ends it. -/
def readPortNumber : List Char → Except UrlFault (Option Nat)
  | ':' :: rest =>
    let digits := rest.takeWhile Char.isDigit
    let after := rest.dropWhile Char.isDigit
    match Radix.number? 10 digits with
    | some number =>
      if 65535 < number ∨ (!after.isEmpty ∧ after.head? ≠ some '\\') then .error .invalidPortNumber
      else .ok (if digits.isEmpty then none else some number)
    | none => .error .invalidPortNumber
  | _ => .ok none

/-- Read the user, the host and the number after it, which stand before a path. -/
def readAuthority (scheme : String) (isWeb : Bool) (cs : List Char) : Except UrlFault Url := do
  let authority := cs.takeWhile fun c => !endsAuthority isWeb c
  let (user, place) := splitUser authority
  if user = some [] ∧ place.isEmpty ∧ authority.length < cs.length then .error .emptyHost
  let (hostText, numberText) := splitHost false place
  let host ←
    if isWeb then
      if hostText.isEmpty then .error .emptyHost else (UrlHost.ofWeb hostText).map some
    else UrlHost.ofOther hostText
  if host.isNone ∧ !numberText.isEmpty then .error .emptyHost
  let portNumber ← readPortNumber numberText
  if host.isNone ∧ (user.getD []) ∉ [[], [':']] then .error .emptyHost
  return { scheme, host, portNumber }

/-- Whether a text is the letter of a drive with a colon or a bar. -/
def isDriveLetter : List Char → Bool
  | [letter, c] => letter.isAlpha && (c == ':' || c == '|')
  | _ => false

/-- Whether a character is a slash of either direction. -/
def isSlash (c : Char) : Bool :=
  c == '/' || c == '\\'

/-- Read the host of a file, which is the machine itself unless one is named. -/
def readFile (cs : List Char) : Except UrlFault Url :=
  if (cs.take 2).length = 2 ∧ (cs.take 2).all isSlash then
    let name := (cs.drop 2).takeWhile fun c => !endsAuthority true c
    if name.isEmpty ∨ isDriveLetter name then .ok { scheme := "file" }
    else do
      let host ← UrlHost.ofWeb name
      return { scheme := "file", host := if host = .domain "localhost" then none else some host }
  else .ok { scheme := "file" }

/-- The characters of a text that count. -/
def significant (text : String) : List Char :=
  let isEdge (c : Char) : Bool := c.toNat ≤ 0x20
  let cs := ((text.toList.dropWhile isEdge).reverse.dropWhile isEdge).reverse
  cs.filter fun c => c ≠ '\t' ∧ c ≠ '\n' ∧ c ≠ '\r'

/-- Read a URL. -/
def read (text : String) : Except UrlFault Url :=
  match splitScheme? (significant text) with
  | none => .error .noScheme
  | some (scheme, rest) =>
    if scheme = "file" then readFile rest
    else if webSchemes.contains scheme then readAuthority scheme true (rest.dropWhile isSlash)
    else
      match rest with
      | '/' :: '/' :: rest => readAuthority scheme false rest
      | _ => .ok { scheme }

end Url

end EndpointMonitor
