import ImageDiscovery.Idna
import ImageDiscovery.Text.Case
import ImageDiscovery.Text.Digit
import ImageDiscovery.Url.Address
import ImageDiscovery.Url.Percent

/-!
# Url — where a document is

A URL is cut into parts, and each part is brought to one form: the scheme and the host in lower case,
hosts of other scripts in ASCII, no port that the scheme implies, no `.` and `..` in the path, and
everything that may not stand in a part written in percent escapes.  `Url.parse` reads a text and
`Url.toText` writes the parts.
-/

namespace ImageDiscovery

/-- The parts of a URL, each in its normal form. -/
structure Url where
  scheme : Text
  userinfo : Text
  /-- Without the brackets of an IPv6 address. -/
  host : Text
  port : Option Int
  path : Text
  query : Option Text
  fragment : Option Text
deriving DecidableEq

namespace Url

/-! ## What may be wrong -/

inductive Problem where
  | tooLong
  | control (point : CodePoint) (position : Nat)
  | longPart (part : Text)
  | controlIn (part : Text) (point : CodePoint) (position : Nat)
  | badPart (part : Text)
  | badIpv4 (host : Text)
  | badIpv6 (host : Text)
  | badHostName (host : Text)
  | badPort (port : Text)
  | noSlash
  | doubleSlash
  | colonFirst
deriving DecidableEq

def Problem.message : Problem → Text
  | .tooLong => "URL too long"
  | .control p position =>
    "Invalid non-printable ASCII character in URL, " ++ Text.quoted [p] ++ " at position "
      ++ Text.ofNat position ++ "."
  | .longPart part => "URL component '" ++ part ++ "' too long"
  | .controlIn part p position =>
    "Invalid non-printable ASCII character in URL " ++ part ++ " component, " ++ Text.quoted [p]
      ++ " at position " ++ Text.ofNat position ++ "."
  | .badPart part => "Invalid URL component '" ++ part ++ "'"
  | .badIpv4 host => "Invalid IPv4 address: " ++ host.quoted
  | .badIpv6 host => "Invalid IPv6 address: " ++ host.quoted
  | .badHostName host => "Invalid IDNA hostname: " ++ host.quoted
  | .badPort port => "Invalid port: " ++ port.quoted
  | .noSlash => "For absolute URLs, path must be empty or begin with '/'"
  | .doubleSlash => "Relative URLs cannot have a path starting with '//'"
  | .colonFirst => "Relative URLs cannot have a path starting with ':'"

/-- The most code points of a URL or of a part of one. -/
def maxLength : Nat := 65536

def isControl (p : CodePoint) : Bool := p.toNat < 0x20 || p.toNat = 0x7F

/-- The first control code point of a text and where it is. -/
def findControl (t : Text) : Option (CodePoint × Nat) :=
  match t.dropWhile fun p => !isControl p with
  | [] => none
  | p :: _ => some (p, (t.takeWhile fun p => !isControl p).length)

/-! ## Cutting -/

def isSchemePoint (p : CodePoint) : Bool :=
  p.isLetter || p.isDigit || p = .char '+' || p = .char '.' || p = .char '-'

/-- The scheme before the first colon, if what stands there can be one; it may be empty. -/
def cutScheme (t : Text) : Text × Text :=
  match t.cut (.char ':') with
  | (_, none) => ([], t)
  | (before, some rest) =>
    if before.all isSchemePoint && before.head?.all CodePoint.isLetter then (before, rest)
    else ([], t)

/-- The text up to the first code point of some kind, and the rest from there on. -/
def upTo (ends : CodePoint → Bool) (t : Text) : Text × Text :=
  (t.takeWhile fun p => !ends p, t.dropWhile fun p => !ends p)

def isSlash (p : CodePoint) : Bool := p = .char '/'

def isQuestionMark (p : CodePoint) : Bool := p = .char '?'

def isNumberSign (p : CodePoint) : Bool := p = .char '#'

def isColon (p : CodePoint) : Bool := p = .char ':'

/-- The parts of a URL as they are written. -/
structure Parts where
  scheme : Text
  authority : Text
  path : Text
  query : Option Text
  fragment : Option Text

/-- Cuts a text into parts; this never fails. -/
def Parts.ofText (t : Text) : Parts :=
  let (scheme, rest) := cutScheme t
  let (authority, rest) : Text × Text := match rest with
    | .char '/' :: .char '/' :: rest =>
      upTo (fun p => isSlash p || isQuestionMark p || isNumberSign p) rest
    | rest => ([], rest)
  let (path, rest) := upTo (fun p => isQuestionMark p || isNumberSign p) rest
  let (query, rest) : Option Text × Text := match rest with
    | .char '?' :: rest =>
      let (query, rest) := upTo isNumberSign rest
      (some query, rest)
    | rest => (none, rest)
  ⟨scheme, authority, path, query, match rest with
    | _ :: fragment => some fragment
    | [] => none⟩

structure Authority where
  userinfo : Text
  host : Text
  port : Text

/-- The texts around the last separator; all of the text is after it if there is none. -/
def cutLast (sep : CodePoint) (t : Text) : Text × Text :=
  match Text.cut sep t.reverse with
  | (_, none) => ([], t)
  | (after, some before) => (List.reverse before, List.reverse after)

/-- Cuts an authority: what is before its last `@`, the host, and the port after it.  The brackets
around a host may hold colons. -/
def Authority.ofText (t : Text) : Authority :=
  let (userinfo, rest) := cutLast (.char '@') t
  let (host, after) : Text × Text :=
    if rest.head? = some (.char '[') && rest.contains (.char ']') then
      let (inner, after) := cutLast (.char ']') rest
      (inner ++ [.char ']'], after)
    else upTo isColon rest
  ⟨userinfo, host, match after with
    | .char ':' :: port => port
    | port => port⟩

/-! ## Normal forms -/

def encodeHost (host : Text) : Except Problem Text :=
  if host.isEmpty then .ok []
  else if Address.looksNumeric host then
    if Address.isIpv4 host then .ok host else .error (.badIpv4 host)
  else if host.head? = some (.char '[') && host.getLast? = some (.char ']') then
    let inner := host.tail.dropLast
    if Address.isIpv6 inner then .ok inner else .error (.badIpv6 host)
  else if host.isAscii then .ok (Percent.encode Percent.inHost host.asciiLower)
  else (Idna.toAscii host.lower).mapError fun _ => .badHostName host

def defaultPort? (scheme : Text) : Option Int :=
  if scheme = "http" || scheme = "ws" then some 80
  else if scheme = "https" || scheme = "wss" then some 443
  else if scheme = "ftp" then some 21
  else none

/-- The port as a number, unless the scheme, as it is written, implies it. -/
def readPort (scheme port : Text) : Except Problem (Option Int) :=
  if port.isEmpty then .ok none
  else match port.toInt? with
    | none => .error (.badPort port)
    | some n => .ok (if defaultPort? scheme = some n then none else some n)

/-- A step over one segment of a path; the segments before it are backwards. -/
def dotStep (before : List Text) (segment : Text) : List Text :=
  if segment = "." then before
  else if segment = ".." then if before = [[]] then before else before.drop 1
  else segment :: before

def removeDots (path : Text) : Text :=
  Text.join "/" (((path.split (.char '/')).foldl dotStep []).reverse)

def checkPath (path : Text) (hasScheme hasAuthority : Bool) : Option Problem :=
  if hasAuthority && !path.isEmpty && path.head? ≠ some (.char '/') then some .noSlash
  else if !hasScheme && !hasAuthority && List.isPrefixOf "//" path then some .doubleSlash
  else if !hasScheme && !hasAuthority && path.head? = some (.char ':') then some .colonFirst
  else none

def ofParts (parts : Parts) (authority : Authority) : Except Problem Url := do
  let scheme := parts.scheme.asciiLower
  let userinfo := Percent.encode Percent.inUserinfo authority.userinfo
  let host ← encodeHost authority.host
  let port ← readPort parts.scheme authority.port
  let hasScheme := !scheme.isEmpty
  let hasAuthority := !userinfo.isEmpty || !host.isEmpty || port.isSome
  if let some problem := checkPath parts.path hasScheme hasAuthority then
    throw problem
  let path := if hasScheme || hasAuthority then removeDots parts.path else parts.path
  return {
    scheme, userinfo, host, port
    path := Percent.encode Percent.inPath path
    query := parts.query.map (Percent.encode Percent.inQuery)
    fragment := parts.fragment.map (Percent.encode Percent.inFragment) }

def parse (t : Text) : Except Problem Url :=
  if maxLength < t.length then .error .tooLong
  else match findControl t with
    | some (p, position) => .error (.control p position)
    | none =>
      let parts := Parts.ofText t
      ofParts parts (Authority.ofText parts.authority)

/-! ## Writing -/

def inBrackets (t : Text) : Text := .char '[' :: (t ++ [.char ']'])

def isInBrackets (t : Text) : Bool :=
  2 ≤ t.length && t.head? = some (.char '[') && t.getLast? = some (.char ']')

/-- The host with the brackets that an IPv6 address needs, and the port. -/
def netloc (u : Url) : Text :=
  (if u.host.any isColon then inBrackets u.host else u.host)
    ++ (match u.port with | some n => .char ':' :: Text.ofInt n | none => [])

def authority (u : Url) : Text :=
  (if u.userinfo.isEmpty then [] else u.userinfo ++ [.char '@']) ++ u.netloc

def queryText (u : Url) : Text := match u.query with
  | some query => .char '?' :: query
  | none => []

def fragmentText (u : Url) : Text := match u.fragment with
  | some fragment => .char '#' :: fragment
  | none => []

def toText (u : Url) : Text :=
  (if u.scheme.isEmpty then [] else u.scheme ++ [.char ':'])
    ++ (if u.authority.isEmpty then [] else .char '/' :: .char '/' :: u.authority)
    ++ u.path ++ u.queryText ++ u.fragmentText

/-- The host as it is read by people. -/
def hostName (u : Url) : Except Idna.Problem Text :=
  if Idna.mark.isPrefixOf u.host then Idna.toUnicode u.host else .ok u.host

/-- The path as it is read by people; it is never empty. -/
def pathName (u : Url) : Text := Percent.decode (if u.path.isEmpty then "/" else u.path)

/-- A URL without a scheme or without a host says where something is only in relation to another. -/
def isRelative (u : Url) : Bool := u.scheme.isEmpty || u.host.isEmpty

/-- The port, also if the scheme implies it. -/
def effectivePort (u : Url) : Option Int :=
  u.port.or (if u.scheme = "http" || u.scheme = "https" then defaultPort? u.scheme else none)

/-! ## Changing parts -/

/-- What is wrong with a part that is put into a URL. -/
def checkPart (name : Text) (fits : Text → Bool) (part : Text) : Option Problem :=
  if maxLength < part.length then some (.longPart name)
  else match findControl part with
    | some (p, position) => some (.controlIn name p position)
    | none => if fits part then none else some (.badPart name)

def without (excluded : String) (t : Text) : Bool := t.all fun p => p ∉ Text.ofString excluded

/-- Can a text be the host of a URL, with the brackets of an IPv6 address? -/
def fitsHost (t : Text) : Bool :=
  without ":@" t || isInBrackets t

/-- Puts parts together to a URL, with another host than that of the authority if one is given.
Every part is checked by itself. -/
def assemble (parts : Parts) (host : Option Text) : Except Problem Url :=
  let fitsScheme (t : Text) : Bool := t.all isSchemePoint && t.head?.all CodePoint.isLetter
  let host := host.map fun h => if h.any isColon && !isInBrackets h then inBrackets h else h
  let problems : List (Option Problem) :=
    [checkPart "scheme" fitsScheme parts.scheme,
      checkPart "authority" (without "/?#") parts.authority,
      checkPart "path" (without "?#") parts.path,
      parts.query.bind (checkPart "query" (without "#")),
      parts.fragment.bind (checkPart "fragment" fun _ => true),
      host.bind (checkPart "host" fitsHost)]
  match problems.findSome? id with
  | some problem => .error problem
  | none =>
    let authority := Authority.ofText parts.authority
    ofParts parts { authority with host := host.getD authority.host }

def parts (u : Url) : Parts := ⟨u.scheme, u.authority, u.path, u.query, u.fragment⟩

def withScheme (u : Url) (scheme : Text) : Except Problem Url :=
  assemble { u.parts with scheme } none

def withHost (u : Url) (host : Text) : Except Problem Url := assemble u.parts (some host)

def withFragment (u : Url) (fragment : Text) : Except Problem Url :=
  assemble { u.parts with fragment := some fragment } none

/-- What is asked of a server when it is not known which: the path and the query. -/
def localPart (u : Url) : Except Problem Url :=
  let path := .char '/' :: u.path.dropWhile (· = .char '/')
  assemble ⟨[], [], path, u.query, none⟩ none

/-- A text that should name a document, with a scheme: instead of its own if it has one. -/
def replaceScheme (t scheme : Text) : Except Problem Text :=
  if Text.isWithin "://" t then do
    let u ← parse t
    return (← u.withScheme scheme).toText
  else .ok (scheme ++ "://" ++ t)

end Url

end ImageDiscovery
