import Entitlement.Fault.Basic
import Entitlement.Text.Case
import Entitlement.Text.Numeral
import Entitlement.Text.Unencodable
import Entitlement.Text.Utf8
import Entitlement.Url.Address
import Entitlement.Url.Domain

/-!
# Addresses of requests

A `Url` is an address taken apart and brought to its regular form: scheme and host in lower case,
the host in ASCII, no port where the scheme implies it, no dot segments in the path, and every code
point escaped that its part of the address may not hold.

* `Url.read` takes a text apart.  Nearly every text is an address; what is refused is an ill-formed
  host or port, or a control character.
* `Url.text` writes the address, with the parts in their order.
* `Url.target` is what a request asks of a host, and `Url.localPart` the address of it without host.
-/

namespace Entitlement

/-- An address in its regular form. -/
structure Url where
  scheme : Text
  userinfo : Text
  host : Text
  port : Option Int
  path : Text
  query : Option Text
  fragment : Option Text
  deriving DecidableEq

namespace Url

/-- The fault of a text that is no address. -/
def invalid (message : Text) : Fault := .failure Kind.invalidUrl message

/-! ## Escapes -/

/-- The visible ASCII code points but for some. -/
def isVisibleBut (others : String) (c : CodePoint) : Bool :=
  0x21 ≤ c.val && c.val ≤ 0x7E && !(Text.ofString others).contains c

/-- What the fragment may hold. -/
def inFragment : CodePoint → Bool := isVisibleBut "\"<>\x60"

/-- What the query may hold. -/
def inQuery : CodePoint → Bool := isVisibleBut "\"#<>"

/-- What the path may hold. -/
def inPath : CodePoint → Bool := isVisibleBut "\"#<>?\x60\x7b\x7d"

/-- What may stand before the host. -/
def inUserinfo : CodePoint → Bool := isVisibleBut "\"#<>?\x60\x7b\x7d/;=@[\\]^|"

/-- What the name of a host may hold. -/
def inHost : CodePoint → Bool := isVisibleBut "#/:<>?@[]^"

/-- The escapes of the UTF-8 form of a code point. -/
def escape (c : CodePoint) : Text :=
  (Utf8.encodePoint c).flatMap fun byte => "%" ++ (Text.hex 2 byte.toNat).upperAscii

/-- A part with escapes for what it may not hold.  A surrogate has no escape. -/
def escaped (holds : CodePoint → Bool) (t : Text) : Except Fault Text :=
  match t.find? CodePoint.isSurrogate with
  | some c =>
    .error (.failure Kind.unicodeEncode
      (Text.encodingMessage "utf-8" "surrogates not allowed" 0 [c]))
  | none => .ok (t.flatMap fun c => if holds c then [c] else escape c)

/-! ## Parts -/

/-- A text taken apart; nothing is checked. -/
structure Parts where
  scheme : Text
  authority : Text
  path : Text
  query : Option Text
  fragment : Option Text

def isLetter (c : CodePoint) : Bool := 0x61 ≤ c.lowerAscii.val && c.lowerAscii.val ≤ 0x7A

/-- Whether the code point may stand in a scheme after the first one. -/
def inScheme (c : CodePoint) : Bool := isLetter c || c.isDigit || (("+.-" : Text).contains c)

/-- The scheme before a colon, and the rest.  The scheme may be empty. -/
def splitScheme (t : Text) : Text × Text :=
  match t.span inScheme with
  | (scheme, c :: rest) =>
    if c = ':' && scheme.head?.all isLetter then (scheme, rest) else ([], t)
  | (_, []) => ([], t)

/-- The part after two slashes, and the rest. -/
def splitAuthority (t : Text) : Text × Text :=
  match Text.dropPrefix? "//" t with
  | some rest => rest.span fun (c : CodePoint) => !(c = '/' || c = '?' || c = '#')
  | none => ([], t)

namespace Parts

def ofText (t : Text) : Parts :=
  let (scheme, t) := splitScheme t
  let (authority, t) := splitAuthority t
  let (t, fragment) := Text.splitAt '#' t
  let (path, query) := Text.splitAt '?' t
  ⟨scheme, authority, path, query, fragment⟩

end Parts

/-- The part before the last `@`, and the rest. -/
def splitUserinfo (authority : Text) : Text × Text :=
  match authority.reverse.span fun (c : CodePoint) => c ≠ '@' with
  | (_, []) => ([], authority)
  | (rest, _ :: userinfo) => (userinfo.reverse, rest.reverse)

/-- The part up to the last closing bracket, after an opening one in front. -/
def splitBrackets? (t : Text) : Option (Text × Text) :=
  if t.head? = some ('[' : CodePoint) then
    match t.reverse.span fun (c : CodePoint) => c ≠ ']' with
    | (_, []) => none
    | (rest, host) => some (host.reverse, rest.reverse)
  else none

/-- The host, in brackets or up to a colon, and the port, which may follow a colon. -/
def splitHost (t : Text) : Text × Text :=
  let (host, rest) := (splitBrackets? t).getD (t.span fun (c : CodePoint) => c ≠ ':')
  (host, (Text.dropPrefix? ":" rest).getD rest)

/-! ## Regular forms -/

/-- A host in brackets. -/
def bracketed? (t : Text) : Option Text :=
  if 2 ≤ t.length && t.head? = some ('[' : CodePoint) && t.getLast? = some (']' : CodePoint) then
    some ((t.drop 1).dropLast)
  else none

/-- The host: an address of numbers, or a name in ASCII. -/
def regularHost (host : Text) : Except Fault Text :=
  if Address.looksQuad host then
    if Address.isQuad host then .ok host
    else .error (invalid ("Invalid IPv4 address: " ++ host.quoted))
  else
    match bracketed? host with
    | some address =>
      if Address.isLong address then .ok address
      else .error (invalid ("Invalid IPv6 address: " ++ host.quoted))
    | none =>
      if host.all CodePoint.isAscii then escaped inHost host.lowerAscii
      else
        match Domain.encode host.lower with
        | .ok code => .ok code
        | .error _ => .error (invalid ("Invalid IDNA hostname: " ++ host.quoted))

/-- The ports that schemes imply. -/
def impliedPorts : List (Text × Int) :=
  [("ftp", 21), ("http", 80), ("https", 443), ("ws", 80), ("wss", 443)]

/-- The port, unless the scheme as written implies it. -/
def regularPort (scheme port : Text) : Except Fault (Option Int) :=
  if port = [] then .ok none
  else
    match Text.integer? port with
    | some n => .ok (if impliedPorts.lookup scheme = some n then none else some n)
    | none => .error (invalid ("Invalid port: " ++ port.quoted))

/-- The segments that are left when every `.` is dropped and every `..` drops the one before it, but
not the empty one in front; `kept` is reversed. -/
def withoutDots : (kept segments : List Text) → List Text
  | kept, [] => kept.reverse
  | kept, segment :: rest =>
    if segment = Text.ofString "." then withoutDots kept rest
    else if segment = Text.ofString ".." then
      withoutDots (if kept = [[]] then kept else kept.drop 1) rest
    else withoutDots (segment :: kept) rest

/-- A path without dot segments. -/
def regularPath (path : Text) : Text :=
  Text.joinWith "/" (withoutDots [] (Text.splitOn '/' path))

/-- An address without scheme and authority must not look like one with them. -/
def checkLocal (path : Text) : Except Fault Unit :=
  if (Text.dropPrefix? "//" path).isSome then
    .error (invalid "Relative URLs cannot have a path starting with '//'")
  else if (Text.dropPrefix? ":" path).isSome then
    .error (invalid "Relative URLs cannot have a path starting with ':'")
  else .ok ()

/-! ## Reading and writing -/

/-- The longest text that is read. -/
def lengthLimit : Nat := 65536

/-- Control characters have no place in an address. -/
def checkControls (t : Text) : Except Fault Unit :=
  match Text.run? (fun c => c.isAscii && !c.isPrintable) t with
  | some (position, c :: _) =>
    .error (invalid ("Invalid non-printable ASCII character in URL, " ++ Text.quoted [c]
      ++ " at position " ++ Text.decimal position ++ ("." : Text)))
  | _ => .ok ()

def ofParts (parts : Parts) : Except Fault Url := do
  let (userinfo, rest) := splitUserinfo parts.authority
  let (host, port) := splitHost rest
  let userinfo ← escaped inUserinfo userinfo
  let host ← regularHost host
  let port ← regularPort parts.scheme port
  let isLocal := parts.scheme = [] && userinfo = [] && host = [] && port.isNone
  if isLocal then checkLocal parts.path
  let path ← escaped inPath (if isLocal then parts.path else regularPath parts.path)
  let query ← parts.query.mapM (escaped inQuery)
  let fragment ← parts.fragment.mapM (escaped inFragment)
  return ⟨parts.scheme.lowerAscii, userinfo, host, port, path, query, fragment⟩

def read (t : Text) : Except Fault Url := do
  if lengthLimit < t.length then throw (invalid "URL too long")
  checkControls t
  ofParts (.ofText t)

/-- The host and the port, with brackets around an address that holds colons. -/
def hostText (u : Url) : Text :=
  let host : Text :=
    if u.host.contains (':' : CodePoint) then "[" ++ u.host ++ ("]" : Text) else u.host
  let port : Text := u.port.elim [] fun n => ":" ++ Text.ofInt n
  host ++ port

/-- The query after its mark. -/
def queryText (u : Url) : Text := u.query.elim [] fun q => "?" ++ q

/-- The path and the query. -/
def target (u : Url) : Text :=
  let path : Text := if u.path = [] then "/" else u.path
  path ++ u.queryText

def text (u : Url) : Text :=
  let scheme : Text := if u.scheme = [] then "" else u.scheme ++ (":" : Text)
  let userinfo : Text := if u.userinfo = [] then "" else u.userinfo ++ ("@" : Text)
  let authority := userinfo ++ u.hostText
  let authority : Text := if authority = [] then "" else "//" ++ authority
  let fragment : Text := u.fragment.elim [] fun f => "#" ++ f
  scheme ++ authority ++ u.path ++ u.queryText ++ fragment

/-- Whether the address says how to reach a host. -/
def isAbsolute (u : Url) : Bool := u.scheme ≠ [] && u.host ≠ []

/-- The address of the same target, without host. -/
def localPart (u : Url) : Url :=
  let (path, query) := Text.splitAt '?' (("/" : Text) ++ Text.stripStart (· = '/') u.target)
  ⟨[], [], [], none, path, query, none⟩

/-- Whether the host is a domain name in Punycode. -/
def isEncoded (u : Url) : Bool := (Text.dropPrefix? Domain.encodedMark u.host).isSome

/-- Why a request cannot name its host, if it cannot: the name has to be ASCII, and readable where
it is in Punycode. -/
def checkHost (u : Url) : Except Fault Unit :=
  match if u.isEncoded then Domain.checkEncoded u.host else .ok () with
  | .error flaw => .error flaw.fault
  | .ok () =>
    match u.hostText.asciiObstacle? with
    | some message => .error (.failure Kind.unicodeEncode message)
    | none => .ok ()

end Url

end Entitlement
