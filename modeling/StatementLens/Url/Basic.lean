import StatementLens.Path
import StatementLens.Url.Host

/-!
# URLs

A URL is read into its parts and written back in one normal form: the scheme and the domain in lower
case, dots in the path resolved, and characters encoded that a part cannot hold. URLs are compared
by this form. A URL without a host whose path starts with a slash names a file.
-/

namespace StatementLens

/-- The parts of a URL. A URL has no authority if no two slashes follow its scheme. -/
structure Url where
  scheme : List Char
  authority : Option (List Char)
  host : List Char
  path : List Char
  query : Option (List Char)
  fragment : Option (List Char)
  deriving DecidableEq, Repr, Inhabited

namespace Url

/-- The normal form of a URL. A path that starts with two slashes is set off from the scheme, so
that it is not taken for an authority. -/
def toChars (u : Url) : List Char :=
  let front := match u.authority with
    | some authority => '/' :: '/' :: authority
    | none => if ['/', '/'].isPrefixOf u.path then ['/', '.'] else []
  let query := match u.query with
    | some q => '?' :: q
    | none => []
  let fragment := match u.fragment with
    | some f => '#' :: f
    | none => []
  u.scheme ++ ':' :: front ++ u.path ++ query ++ fragment

/-- The normal form of a URL. -/
protected def toString (u : Url) : String := String.ofList u.toChars

/-! ## Reading -/

/-- The kinds of schemes. -/
inductive SchemeKind where
  | file
  | special
  | other
  deriving DecidableEq, Repr

/-- The schemes, `file` apart, whose URLs have a host. -/
def specialSchemes : List String := ["http", "https", "ws", "wss", "ftp"]

/-- The kind of a scheme. -/
def schemeKind (scheme : List Char) : SchemeKind :=
  if scheme = "file".toList then .file
  else if specialSchemes.any fun s => s.toList = scheme then .special
  else .other

/-- The port that a scheme has unless another one is given. -/
def defaultPort (scheme : List Char) : Option Nat :=
  if scheme = "http".toList || scheme = "ws".toList then some 80
  else if scheme = "https".toList || scheme = "wss".toList then some 443
  else if scheme = "ftp".toList then some 21
  else none

/-- Whether a character is a slash in URLs of a kind of schemes. -/
def isSlash (kind : SchemeKind) (c : Char) : Bool := c = '/' || (c = '\\' && kind ≠ .other)

/-- Whether a character ends a path. -/
def endsPath (c : Char) : Bool := c = '?' || c = '#'

/-- Whether a character ends an authority. -/
def endsAuthority (kind : SchemeKind) (c : Char) : Bool := isSlash kind c || endsPath c

/-- Reads the scheme and the colon after it. -/
def readScheme (cs : List Char) : Option (List Char × List Char) :=
  let (scheme, rest) := cs.span fun c => c.isAlphanum || c = '+' || c = '-' || c = '.'
  match scheme, rest with
  | c :: _, ':' :: rest => if c.isAlpha then some (scheme.map Char.toLower, rest) else none
  | _, _ => none

/-- Drops characters that are not read: blanks and control characters at the ends, and tabs and line
breaks anywhere. -/
def clean (cs : List Char) : List Char :=
  let isEdge (c : Char) : Bool := c.toNat ≤ 0x20
  (((cs.dropWhile isEdge).reverse.dropWhile isEdge).reverse).filter fun c =>
    c ≠ '\t' && c ≠ '\n' && c ≠ '\r'

/-- Spellings of a dot in a segment. -/
def isDotSpelling (cs : List Char) : Bool :=
  cs = ['.'] || cs.map Char.toLower = ['%', '2', 'e']

/-- Whether a segment is a single dot. -/
def isSingleDot (segment : List Char) : Bool := isDotSpelling segment

/-- Whether a segment is a double dot. -/
def isDoubleDot (segment : List Char) : Bool :=
  (isDotSpelling (segment.take 1) && isDotSpelling (segment.drop 1))
    || (isDotSpelling (segment.take 3) && isDotSpelling (segment.drop 3))

/-- Whether a segment is a drive letter with a colon. -/
def isDriveLetter : List Char → Bool
  | [c, ':'] => c.isAlpha
  | _ => false

/-- The segments of a path without the last one, except that a drive letter stays. -/
def shorten (kind : SchemeKind) (done : List (List Char)) : List (List Char) :=
  match done with
  | [] => []
  | [segment] => if kind = .file && isDriveLetter segment then [segment] else []
  | _ :: rest => rest

/-- Adds a segment to those read, the last one first; `isLast` says that no slash follows it. -/
def addSegment (kind : SchemeKind) (done : List (List Char)) (segment : List Char) (isLast : Bool) :
    List (List Char) :=
  if isDoubleDot segment then
    let done := shorten kind done
    if isLast then [] :: done else done
  else if isSingleDot segment then if isLast then [] :: done else done
  else segment :: done

/-- The segments of a path after its first slash, resolved, the last one first. -/
def resolveSegments (kind : SchemeKind) : List (List Char) → List (List Char) → List (List Char)
  | done, [] => done
  | done, [segment] => addSegment kind done segment true
  | done, segment :: rest => resolveSegments kind (addSegment kind done segment false) rest

/-- The normal form of a path, given what follows its first slash. -/
def normalPath (kind : SchemeKind) (cs : List Char) : List Char :=
  let segments := (Text.splitOn (isSlash kind) cs).map (percentEncode pathSet)
  let path := (resolveSegments kind [] segments).reverse.flatMap fun segment => '/' :: segment
  if kind = .file then '/' :: path.dropWhile (· = '/') else path

/-- Reads the query and the fragment. -/
def readQueryAndFragment (kind : SchemeKind) (cs : List Char) :
    Option (List Char) × Option (List Char) :=
  let (front, back) := cs.span (· ≠ '#')
  let query := match front with
    | '?' :: q => some (percentEncode (if kind = .other then querySet else specialQuerySet) q)
    | _ => none
  let fragment := match back with
    | '#' :: f => some (percentEncode fragmentSet f)
    | _ => none
  (query, fragment)

/-- Reads the path after an authority, the query and the fragment. -/
def readAfterAuthority (kind : SchemeKind) (scheme authority host cs : List Char) : Url :=
  let (path, rest) := cs.span fun c => !endsPath c
  let path := match path with
    | [] => if kind = .other then [] else ['/']
    | c :: more => if isSlash kind c then normalPath kind more else normalPath kind path
  let (query, fragment) := readQueryAndFragment kind rest
  ⟨scheme, some authority, host, path, query, fragment⟩

/-- Reads the user name and the password in front of the last `@` of an authority. -/
def readUserinfo (cs : List Char) : List Char :=
  let (name, rest) := cs.span (· ≠ ':')
  let password := rest.drop 1
  let text := percentEncode userinfoSet name
    ++ (if password.isEmpty then [] else ':' :: percentEncode userinfoSet password)
  if text.isEmpty then [] else text ++ ['@']

/-- Cuts an authority at its last `@`. -/
def cutUserinfo (cs : List Char) : Option (List Char) × List Char :=
  let back := cs.reverse
  match back.dropWhile (· ≠ '@') with
  | [] => (none, cs)
  | _ :: front => (some front.reverse, (back.takeWhile (· ≠ '@')).reverse)

/-- Cuts a host from its port: at the first colon outside brackets. -/
def cutPort : Bool → List Char → List Char × Option (List Char)
  | _, [] => ([], none)
  | inside, c :: rest =>
    if c = ':' && !inside then ([], some rest)
    else
      let inside := if c = '[' then true else if c = ']' then false else inside
      let (host, port) := cutPort inside rest
      (c :: host, port)

/-- Reads a port; the default port of the scheme is dropped. -/
def readPort (scheme : List Char) (cs : List Char) : Except ParseError (List Char) :=
  if !cs.all Char.isDigit then .error .invalidPort
  else
    let n := cs.foldl (fun n c => 10 * n + (c.toNat - 48)) 0
    if 65535 < n then .error .invalidPort
    else if cs.isEmpty || defaultPort scheme = some n then .ok []
    else .ok (':' :: Nat.toDigits 10 n)

/-- Reads a URL from its authority on. -/
def readAuthority (kind : SchemeKind) (scheme cs : List Char) : Except ParseError Url := do
  let (authority, rest) := cs.span fun c => !endsAuthority kind c
  let (userinfo, hostAndPort) := cutUserinfo authority
  let userText := (userinfo.map readUserinfo).getD []
  if userinfo.isSome && hostAndPort.isEmpty && (userText ≠ [] || !rest.isEmpty) then
    throw .emptyHost
  let (hostText, portText) := cutPort false hostAndPort
  if kind = .special && hostText.isEmpty then throw .emptyHost
  let host ← if kind = .other then parseOpaqueHost hostText else parseHost hostText
  if host.isEmpty && (portText.isSome || userText ≠ []) then throw .emptyHost
  let port ← match portText with
    | some p => readPort scheme p
    | none => pure []
  return readAfterAuthority kind scheme (userText ++ host ++ port) host rest

/-- Whether a host of a file URL is a drive letter, which belongs to the path. -/
def isDriveHost : List Char → Bool
  | [c, d] => c.isAlpha && (d = ':' || d = '|')
  | _ => false

/-- Reads a file URL after its scheme. -/
def readFile (cs : List Char) : Except ParseError Url := do
  let scheme := "file".toList
  match cs with
  | a :: b :: rest =>
    if isSlash .file a && isSlash .file b then
      let (hostText, after) := rest.span fun c => !endsAuthority .file c
      if isDriveHost hostText then return readAfterAuthority .file scheme [] [] ('/' :: rest)
      else if hostText.isEmpty then return readAfterAuthority .file scheme [] [] after
      else
        let host ← parseHost hostText
        let host := if host = "localhost".toList then [] else host
        return readAfterAuthority .file scheme host host after
    else return readAfterAuthority .file scheme [] [] cs
  | _ => return readAfterAuthority .file scheme [] [] cs

/-- Reads a URL after a scheme that is not special. -/
def readOther (scheme cs : List Char) : Except ParseError Url :=
  match cs with
  | '/' :: '/' :: rest => readAuthority .other scheme rest
  | _ =>
    let (path, rest) := cs.span fun c => !endsPath c
    let path := match path with
      | '/' :: more => normalPath .other more
      | _ => percentEncode isControl path
    let (query, fragment) := readQueryAndFragment .other rest
    .ok ⟨scheme, none, [], path, query, fragment⟩

/-- Reads a URL. -/
def parseChars (cs : List Char) : Except ParseError Url :=
  match readScheme (clean cs) with
  | none => .error .noScheme
  | some (scheme, rest) =>
    match schemeKind scheme with
    | .file => readFile rest
    | .special => readAuthority .special scheme (rest.dropWhile (isSlash .special))
    | .other => readOther scheme rest

/-- Reads a URL. -/
def parse (s : String) : Except ParseError Url := parseChars s.toList

/-! ## Files -/

/-- The file that a URL names: its path, decoded, if it has no host and the path starts with a
slash. A path that ends in a letter and a colon or bar gets a slash at its end. -/
def toPath? (u : Url) : Option Path :=
  if u.path.head? ≠ some '/' || !(u.host.isEmpty || u.host = "localhost".toList) then none
  else
    let segments := Text.splitOn (· = '/') (u.path.drop 1)
    let bytes := segments.flatMap fun segment => Path.slash :: percentDecode segment
    match bytes.reverse with
    | mark :: letter :: _ :: _ =>
      let isLetter := (0x41 ≤ letter && letter ≤ 0x5A) || (0x61 ≤ letter && letter ≤ 0x7A)
      if isLetter && (mark = 0x3A || mark = 0x7C) then some ⟨bytes ++ [Path.slash]⟩
      else some ⟨bytes⟩
    | _ => some ⟨bytes⟩

/-- The URL of a file, given by an absolute path. -/
def ofPath? (p : Path) : Option Url :=
  if !p.isAbsolute then none
  else
    let path := (p.components.drop 1).flatMap fun c =>
      '/' :: percentEncodeBytes segmentSet (Path.Component.bytes c)
    some ⟨"file".toList, some [], [], if path.isEmpty then ['/'] else path, none, none⟩

end Url

end StatementLens
