import ImageDiscovery.Text.Case
import ImageDiscovery.Url

/-!
# Loose URLs — addresses as they are written

Before an address is checked and brought to its normal form it can be cut into parts as it stands.
References to other documents are resolved on such parts, and passwords are found in them.
-/

namespace ImageDiscovery

/-- The parts of an address as they are written; an absent part and an empty one are the same. -/
structure LooseUrl where
  scheme : Text
  netloc : Text
  path : Text
  /-- What follows a semicolon in the last segment of the path. -/
  params : Text
  query : Text
  fragment : Text
deriving DecidableEq

namespace LooseUrl

/-- Schemes whose addresses may be relative to one another. -/
def relativeSchemes : List Text :=
  ["", "ftp", "http", "gopher", "nntp", "imap", "wais", "file", "https", "shttp", "mms", "prospero",
    "rtsp", "rtsps", "rtspu", "sftp", "svn", "svn+ssh", "ws", "wss"]

/-- Schemes whose paths may have parameters. -/
def paramSchemes : List Text :=
  ["", "ftp", "hdl", "prospero", "http", "imap", "https", "shttp", "rtsp", "rtsps", "rtspu", "sip",
    "sips", "mms", "sftp", "tel"]

/-- Schemes whose addresses name a server. -/
def serverSchemes : List Text :=
  ["ftp", "http", "gopher", "nntp", "telnet", "imap", "wais", "file", "mms", "https", "shttp",
    "snews", "prospero", "rtsp", "rtsps", "rtspu", "rsync", "svn", "svn+ssh", "sftp", "nfs", "git",
    "git+ssh", "ws", "wss"]

/-- Code points whose compatible form has a mark in it that parts an address. -/
def deceptive : Ranges := .ofHex
  "2047-2049 2100 2101 2105 2106 2A74 FE13 FE16 FE55 FE56 FE5F FE6B FF03 FF0F FF1A FF1F FF20"

/-- Without the blanks and control code points in front, and without those that break lines. -/
def cleaned (t : Text) : Text :=
  (t.dropWhile fun p => p.toNat ≤ 0x20).filter fun p =>
    p ≠ .char '\t' && p ≠ .char '\r' && p ≠ .char '\n'

/-- The scheme before the first colon; it is not empty. -/
def cutScheme? (t : Text) : Option (Text × Text) :=
  match t.cut (.char ':') with
  | (before, some rest) =>
    if before.all Url.isSchemePoint && before.head?.any CodePoint.isLetter then
      some (before.asciiLower, rest)
    else none
  | (_, none) => none

/-! ## What may be wrong with the place of a server -/

inductive Problem where
  | unpairedBracket
  | badVersion
  | ipv4InBrackets
  | badAddress (address : Text)
  | deceptive (netloc : Text)
deriving DecidableEq

def Problem.message : Problem → Text
  | .unpairedBracket => "Invalid IPv6 URL"
  | .badVersion => "IPvFuture address is invalid"
  | .ipv4InBrackets => "An IPv4 address cannot be in brackets"
  | .badAddress address => address.quoted ++ " does not appear to be an IPv4 or IPv6 address"
  | .deceptive netloc =>
    "netloc '" ++ netloc ++ "' contains invalid characters under NFKC normalization"

/-- Only an IPv6 address, or one of a version to come, may stand between brackets. -/
def checkBrackets (inner : Text) : Option Problem :=
  match inner with
  | .char 'v' :: rest =>
    match Text.cut (.char '.') rest with
    | (version, some address) =>
      if !version.isEmpty && version.all (fun p => p.hexValue?.isSome) && !address.isEmpty then none
      else some .badVersion
    | (_, none) => some .badVersion
  | inner =>
    if Address.isIpv4 inner then some .ipv4InBrackets
    else if Address.isIpv6 inner then none
    else some (.badAddress inner)

/-- Brackets have to come in pairs, and nothing may look like a mark that parts an address. -/
def checkNetloc (netloc : Text) : Option Problem :=
  let opens := netloc.contains (.char '[')
  let inner := (Text.cut (.char ']') ((netloc.cut (.char '[')).2.getD [])).1
  if opens != netloc.contains (.char ']') then some .unpairedBracket
  else (if opens then checkBrackets inner else none).or
    (if netloc.any fun p => deceptive.contains p.toNat then some (.deceptive netloc) else none)

/-! ## Cutting -/

/-- The path and the parameters of its last segment. -/
def cutParams (t : Text) : Text × Text :=
  let (before, segment) : Text × Text :=
    if t.contains (.char '/') then
      let (before, segment) := Url.cutLast (.char '/') t
      (before ++ [.char '/'], segment)
    else ([], t)
  let (segment, params) := Text.cut (.char ';') segment
  (before ++ segment, params.getD [])

/-- Cuts an address, which has a given scheme unless it says otherwise. -/
def parse (t : Text) (scheme : Text) : Except Problem LooseUrl :=
  let t := cleaned t
  let (scheme, rest) := (cutScheme? t).getD (scheme, t)
  let (netloc, rest) : Text × Text := match rest with
    | .char '/' :: .char '/' :: rest =>
      Url.upTo (fun p => Url.isSlash p || Url.isQuestionMark p || Url.isNumberSign p) rest
    | rest => ([], rest)
  let (rest, fragment) := Text.cut (.char '#') rest
  let (path, query) := Text.cut (.char '?') rest
  match checkNetloc netloc with
  | some problem => .error problem
  | none =>
    let (path, params) := if scheme ∈ paramSchemes then cutParams path else (path, [])
    .ok ⟨scheme, netloc, path, params, query.getD [], fragment.getD []⟩

/-- A part with the mark in front of it, unless it is empty. -/
def marked (mark : Char) (part : Text) : Text := if part.isEmpty then [] else .char mark :: part

def toText (u : LooseUrl) : Text :=
  let path := u.path ++ marked ';' u.params
  let place :=
    if !u.netloc.isEmpty || u.scheme ∈ serverSchemes || List.isPrefixOf "//" path then
      let path := if path.isEmpty || path.head? = some (.char '/') then path else .char '/' :: path
      .char '/' :: .char '/' :: u.netloc ++ path
    else path
  (if u.scheme.isEmpty then [] else u.scheme ++ [.char ':']) ++ place
    ++ marked '?' u.query ++ marked '#' u.fragment

/-! ## References -/

/-- A step over one segment of a path; the segments before it are backwards. -/
def segmentStep (before : List Text) (segment : Text) : List Text :=
  if segment = ".." then before.drop 1
  else if segment = "." then before
  else segment :: before

/-- All but the last segment, unless that is empty. -/
def directory (path : Text) : List Text :=
  let segments := path.split (.char '/')
  if segments.getLast? = some [] then segments else segments.dropLast

/-- Segments without the empty ones between the first and the last. -/
def withoutGaps : List Text → List Text
  | [] => []
  | first :: rest =>
    first :: (rest.dropLast.filter (!·.isEmpty) ++ rest.getLast?.toList)

/-- The path that a path means where another one is. -/
def resolvePath (base path : Text) : Text :=
  let segments :=
    if path.head? = some (.char '/') then path.split (.char '/')
    else withoutGaps (directory base ++ path.split (.char '/'))
  let resolved := (segments.foldl segmentStep []).reverse
  let last := segments.getLast?.getD []
  let joined := Text.join "/" (if last = "." || last = ".." then resolved ++ [[]] else resolved)
  if joined.isEmpty then "/" else joined

/-- The address that a reference means where a document is. -/
def resolve (base reference : Text) : Except Problem Text :=
  if base.isEmpty then .ok reference
  else if reference.isEmpty then .ok base
  else do
    let b ← parse base []
    let u ← parse reference b.scheme
    if u.scheme ≠ b.scheme || u.scheme ∉ relativeSchemes then return reference
    else if !u.netloc.isEmpty then return u.toText
    else if u.path.isEmpty && u.params.isEmpty then
      let query := if u.query.isEmpty then b.query else u.query
      return toText { u with netloc := b.netloc, path := b.path, params := b.params, query }
    else return toText { u with netloc := b.netloc, path := resolvePath b.path u.path }

end LooseUrl

end ImageDiscovery
