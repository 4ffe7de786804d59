import FleetWatch.Url.Host

/-! # URLs

Reading is lenient where people are: blanks around a URL are dropped, tabs and line ends inside it
too, on the web a backslash is as good as a slash and the slashes in front of the host may be more
or fewer than two. Writing gives one form.
-/

namespace FleetWatch

inductive UrlPath where
  /-- Segments, each behind a slash. -/
  | segments (parts : List (List Char))
  /-- A text without structure. -/
  | plain (text : List Char)
  deriving Repr, DecidableEq, Inhabited

/-- Who asks: a name and perhaps a password, both encoded. -/
structure Credentials where
  user : List Char
  password : Option (List Char)
  deriving Repr, DecidableEq, Inhabited

structure Url where
  scheme : List Char
  credentials : Option Credentials
  host : Option (List Char)
  /-- The port where it is not the one of the scheme. -/
  port : Option Nat
  path : UrlPath
  query : Option (List Char)
  fragment : Option (List Char)
  deriving Repr, DecidableEq, Inhabited

namespace Url

/-- The schemes of the web, with their ports. -/
def webPort? (scheme : List Char) : Option Nat :=
  match String.ofList scheme with
  | "http" => some 80
  | "https" => some 443
  | "ws" => some 80
  | "wss" => some 443
  | "ftp" => some 21
  | _ => none

def pathText : UrlPath → List Char
  | .segments parts => parts.flatMap ('/' :: ·)
  | .plain text => text

/-- A part behind its mark, if there is one. -/
def marked (mark : Char) : Option (List Char) → List Char
  | none => []
  | some text => mark :: text

/-- What is asked for at the host: the path and the query. -/
def target (u : Url) : List Char := pathText u.path ++ marked '?' u.query

def credentialsText : Option Credentials → List Char
  | none => []
  | some c => c.user ++ marked ':' c.password ++ ['@']

/-- What stands between the scheme and the path. Without a host, a path whose first segment is empty
would look as though it began with one, so that a segment that leads nowhere stands before it. -/
def authorityText (u : Url) : List Char :=
  match u.host, u.path with
  | some host, _ =>
    '/' :: '/' :: credentialsText u.credentials ++ host ++ marked ':' (u.port.map Digits.ofNat)
  | none, .segments ([] :: _ :: _) => ['/', '.']
  | none, _ => []

def text (u : Url) : String :=
  String.ofList (u.scheme ++ ':' :: u.authorityText ++ u.target ++ marked '#' u.fragment)

/-! ## Reading -/

/-- The text without control characters and blanks around it and without tabs and line ends. -/
def cleaned (text : List Char) : List Char :=
  let isEdge (c : Char) : Bool := c.toNat ≤ 0x20
  (((text.dropWhile isEdge).reverse.dropWhile isEdge).reverse).filter fun c =>
    c ≠ '\t' && c ≠ '\n' && c ≠ '\r'

/-- The scheme in lower case and what stands behind its colon. -/
def splitScheme? (text : List Char) : Option (List Char × List Char) :=
  let isSchemeChar (c : Char) : Bool := c.isAlphanum || c = '+' || c = '-' || c = '.'
  match text.head?, text.dropWhile isSchemeChar with
  | some first, ':' :: rest =>
    if first.isAlpha then some ((text.takeWhile isSchemeChar).map Char.toLower, rest) else none
  | _, _ => none

/-- What stands before and behind the first mark. -/
def cut (mark : Char) (text : List Char) : List Char × Option (List Char) :=
  match text.dropWhile (· ≠ mark) with
  | [] => (text, none)
  | _ :: rest => (text.takeWhile (· ≠ mark), some rest)

/-- What stands behind the last mark, or the whole text. -/
def behindLast (mark : Char) (text : List Char) : List Char :=
  (text.reverse.takeWhile (· ≠ mark)).reverse

/-- Whether a segment stands for the place it stands at. -/
def isHere (segment : List Char) : Bool :=
  let lower := segment.map Char.toLower
  lower = ".".toList || lower = "%2e".toList

/-- Whether a segment stands for the place above. -/
def isUp (segment : List Char) : Bool :=
  let lower := segment.map Char.toLower
  lower = "..".toList || lower = ".%2e".toList || lower = "%2e.".toList ||
    lower = "%2e%2e".toList

/-- The first characters of a segment that names a drive: a letter and a colon or a bar. -/
def drive? : List Char → Option (Char × List Char)
  | letter :: mark :: rest =>
    if letter.isAlpha && (mark = ':' || mark = '|') then some (letter, rest) else none
  | _ => none

def isDrive (segment : List Char) : Bool :=
  match drive? segment with
  | some (_, []) => true
  | _ => false

/-- Whether a segment cannot be gone up from: it is a drive, perhaps with a backslash behind it. -/
def isRoot (segment : List Char) : Bool :=
  match drive? segment with
  | some (_, []) => true
  | some (_, c :: _) => c = '\\'
  | none => false

/-- The segments above the place reached, both given in reverse. -/
def above : List (List Char) → List (List Char)
  | [] => []
  | last :: passed => if isRoot last then last :: passed else passed

/-- Segments followed from the top, those already passed given in reverse. A segment for a place
is left out; at the end of the path an empty one stands for it. At the top of the path of a file a
drive is written with a colon. -/
def walk (isFile : Bool) (passed : List (List Char)) : List (List Char) → List (List Char)
  | [] => passed.reverse
  | segment :: rest =>
    let place := if isUp segment then above passed else passed
    if isUp segment || isHere segment then
      if rest.isEmpty then ([] :: place).reverse else walk isFile place rest
    else
      let written := match drive? segment with
        | some (letter, []) => if isFile && passed.isEmpty then [letter, ':'] else segment
        | _ => segment
      walk isFile (written :: passed) rest

def segmentsOf (isFile : Bool) (text : List Char) : List (List Char) :=
  walk isFile [] ((Text.parts '/' text).map fun segment =>
    Percent.encode Percent.inPath (Utf8.ofChars segment))

/-- A text with slashes for its backslashes. -/
def slashed (text : List Char) : List Char := text.map fun c => if c = '\\' then '/' else c

/-- The path behind a host; `isWeb` tells that backslashes are slashes, and that an empty path is
one slash. -/
def pathOf (isWeb : Bool) (text : List Char) : UrlPath :=
  match if isWeb then slashed text else text with
  | [] => .segments (if isWeb then [[]] else [])
  | '/' :: rest => .segments (segmentsOf false rest)
  | rest => .segments (segmentsOf false rest)

/-- A port, which no digits at all leave open, and what stands behind it. -/
def port? (text : List Char) : Option (Option Nat × List Char) :=
  let digits := text.takeWhile Digits.isDigit
  let rest := text.dropWhile Digits.isDigit
  if digits.isEmpty then some (none, rest)
  else if Digits.toNat digits < 65536 then some (some (Digits.toNat digits), rest)
  else none

/-- The host and the port of an authority; the colons of an address in brackets part nothing. -/
def splitPort (authority : List Char) : List Char × Option (List Char) :=
  match authority with
  | '[' :: _ =>
    let inside := authority.takeWhile (· ≠ ']')
    match authority.dropWhile (· ≠ ']') with
    | ']' :: ':' :: port => (inside ++ [']'], some port)
    | behind => (inside ++ behind, none)
  | _ => cut ':' authority

/-- The name and the password in front of the last at-sign of an authority. An empty password is
none, and without either there are no credentials. -/
def credentials? (authority : List Char) : Option Credentials :=
  match authority.reverse.dropWhile (· ≠ '@') with
  | [] => none
  | _ :: front =>
    let (user, password) := cut ':' front.reverse
    let encoded (text : List Char) : List Char :=
      Percent.encode Percent.inCredentials (Utf8.ofChars text)
    let password := password.bind fun p => if p.isEmpty then none else some (encoded p)
    if user.isEmpty && password.isNone then none else some ⟨encoded user, password⟩

/-- What stands between the slashes and the path. -/
structure Authority where
  credentials : Option Credentials
  host : List Char
  port : Option Nat
  /-- What stands behind the port and is taken for the path's first segment. -/
  rest : List Char

/-- The authority that a text is. On the web the host is not empty and nothing stands behind the
port. Elsewhere an empty host has neither port nor credentials, and what begins with a backslash may
follow. -/
def authority? (scheme : List Char) (text : List Char) : Option Authority := do
  let credentials := credentials? text
  let (name, written) := splitPort (behindLast '@' text)
  let (port, rest) ← port? (written.getD [])
  match webPort? scheme with
  | some usual =>
    if !rest.isEmpty then none
    else return ⟨credentials, ← Host.web? name, if port = some usual then none else port, []⟩
  | none =>
    if name.isEmpty && (written.isSome || credentials.isSome || text = ['@']) then none
    else if !rest.isEmpty && rest.head? ≠ some '\\' then none
    else return ⟨credentials, ← Host.other? name, port, rest⟩

/-- The host and the path behind the scheme of files. The path of a file has no empty segments at
its top, and a file on a drive has no host. -/
def filePlace? (text : List Char) : Option (List Char × UrlPath) := do
  let (host, path) ← match slashed text with
    | '/' :: '/' :: rest => do
      let name := rest.takeWhile (· ≠ '/')
      if name.isEmpty || isDrive name then pure ([], rest)
      else
        let host ← Host.web? name
        let path := rest.dropWhile (· ≠ '/')
        if host = "localhost".toList then pure ([], path) else pure (host, path.drop 1)
    | '/' :: rest => pure ([], rest)
    | rest => pure ([], rest)
  let segments := segmentsOf true path
  let host := if segments.head?.any isDrive then [] else host
  match segments.dropWhile List.isEmpty with
  | [] => return (host, .segments [[]])
  | top => return (host, .segments top)

def parse? (s : String) : Option Url := do
  let (scheme, rest) ← splitScheme? (cleaned s.toList)
  let (body, fragment) := cut '#' rest
  let (place, query) := cut '?' body
  let isWeb := (webPort? scheme).isSome || scheme = "file".toList
  let query := query.map fun q =>
    Percent.encode (if isWeb then Percent.inWebQuery else Percent.inQuery) (Utf8.ofChars q)
  let fragment := fragment.map fun f => Percent.encode Percent.inFragment (Utf8.ofChars f)
  if scheme = "file".toList then
    let (host, path) ← filePlace? place
    return ⟨scheme, none, some host, none, path, query, fragment⟩
  else if (webPort? scheme).isSome then
    let isSlash (c : Char) : Bool := c = '/' || c = '\\'
    let inner := place.dropWhile isSlash
    let a ← authority? scheme (inner.takeWhile (!isSlash ·))
    return ⟨scheme, a.credentials, some a.host, a.port, pathOf true (inner.dropWhile (!isSlash ·)),
      query, fragment⟩
  else
    match place with
    | '/' :: '/' :: inner =>
      let a ← authority? scheme (inner.takeWhile (· ≠ '/'))
      let path := pathOf false (a.rest ++ inner.dropWhile (· ≠ '/'))
      return ⟨scheme, a.credentials, some a.host, a.port, path, query, fragment⟩
    | '/' :: _ => return ⟨scheme, none, none, none, pathOf false place, query, fragment⟩
    | _ =>
      let path := .plain (Percent.encode Percent.inPlain (Utf8.ofChars place))
      return ⟨scheme, none, none, none, path, query, fragment⟩

/-! ## Use -/

/-- Whether the URL is one that HTTP is spoken with. -/
def isHttp (u : Url) : Bool :=
  (u.scheme = "http".toList || u.scheme = "https".toList) && u.host.isSome

/-- The characters of a host that cannot be written in a request. -/
def isUnsendable (c : Char) : Bool := ['"', '\x60', '\x7B', '\x7D'].contains c

/-- The greatest length of a URL that a request can be made for. -/
def maxLength : Nat := 65534

/-- Whether a request for the URL can be written. -/
def isSendable (u : Url) : Bool :=
  !(u.host.getD []).any isUnsendable && u.text.length ≤ maxLength

/-- A name and perhaps a password, as a server is told them. -/
structure Login where
  user : String
  password : Option String
  deriving Repr, DecidableEq, Inhabited

/-- The login that the credentials of a URL tell. The name is the encoding of a text, and it is not
empty or the password is the encoding of a text too. -/
def login? (u : Url) : Option Login := do
  let c ← u.credentials
  let user ← Utf8.text? (Percent.decode c.user)
  let password := c.password.bind fun encoded => Utf8.text? (Percent.decode encoded)
  if user.isEmpty && password.isNone then none else some ⟨user, password⟩

/-- The URL without its credentials where they can be told. -/
def withoutCredentials (u : Url) : Url :=
  if u.login?.isSome then { u with credentials := none } else u

end Url

end FleetWatch
