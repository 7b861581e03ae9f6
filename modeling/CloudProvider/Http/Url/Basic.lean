import CloudProvider.Http.Url.Host

/-!
# URLs

* `Url.ofText`: the URL that a text writes, in its normal form.
* `Url.text`: how a URL is written.
* `Url.authority?`: the host with the number behind it.
-/

namespace CloudProvider.Http

/-- A URL in its normal form. -/
structure Url where
  scheme : String
  user : String := ""
  password : Option String := none
  host : Option Host := none
  /-- Which of the ports of the host is meant, unless it is the usual one of the scheme. -/
  portNumber : Option Nat := none
  path : String := ""
  query : Option String := none
  fragment : Option String := none
  deriving DecidableEq, Repr

namespace Url

/-! ## Schemes -/

/-- The usual one of the ports for a scheme. -/
def defaultPort? (scheme : String) : Option Nat :=
  if scheme = "http" ∨ scheme = "ws" then some 80
  else if scheme = "https" ∨ scheme = "wss" then some 443
  else if scheme = "ftp" then some 21
  else none

/-- Whether a scheme is one of the usual ones, in whose URLs a backslash counts as a slash. -/
def isSpecial (scheme : String) : Bool :=
  (defaultPort? scheme).isSome || scheme = "file"

/-- A text without control characters and blanks at its ends, tabs and line breaks. -/
def clean (s : String) : List Char :=
  let cs := (s.toList.dropWhile (· ≤ ' ')).reverse.dropWhile (· ≤ ' ')
  cs.reverse.filter fun c => c ≠ '\t' ∧ c ≠ '\n' ∧ c ≠ '\r'

/-- The scheme in front of a text, in lower case, and what follows its colon. -/
def scheme? (cs : List Char) : Option (String × List Char) :=
  let isPart (c : Char) : Bool := c.isAlphanum || c = '+' || c = '-' || c = '.'
  match cs.span isPart with
  | (c :: scheme, ':' :: rest) =>
    if c.isAlpha then some (String.ofList ((c :: scheme).map Char.toLower), rest) else none
  | _ => none

/-! ## Parts of a URL -/

def isSlash (special : Bool) (c : Char) : Bool := c = '/' || (special && c = '\\')

/-- Whether a character ends the part between the double slash and the path. -/
def endsAuthority (special : Bool) (c : Char) : Bool :=
  isSlash special c || c = '?' || c = '#'

/-- The user and the password in front of a host. -/
def readUser (cs : List Char) : String × Option String :=
  let encode (cs : List Char) : String := String.ofList (percentEncode inUserInfo cs)
  match cs.span (· ≠ ':') with
  | (user, ':' :: password) =>
    (encode user, if password.isEmpty then none else some (encode password))
  | (user, _) => (encode user, none)

/-- The text of a host and the one of the number behind it. Colons within brackets belong to the
host. -/
def splitPort (inBrackets : Bool) : List Char → List Char × Option (List Char)
  | [] => ([], none)
  | c :: cs =>
    if c = ':' ∧ !inBrackets then ([], some cs)
    else
      let inBrackets := if c = '[' then true else if c = ']' then false else inBrackets
      let (host, number) := splitPort inBrackets cs
      (c :: host, number)

/-- The one of the ports that a text gives, unless it is the usual one. -/
def readPort (scheme : String) (cs : List Char) : Except Fault (Option Nat) :=
  if cs.isEmpty then .ok none
  else
    match (Host.numberIn? 10 cs).filter (· < 65536) with
    | none => .error .badPort
    | some n => .ok (if defaultPort? scheme = some n then none else some n)

/-! ## Paths -/

def isSingleDot (cs : List Char) : Bool :=
  String.ofList (cs.map Char.toLower) ∈ [".", "%2e"]

def isDoubleDot (cs : List Char) : Bool :=
  String.ofList (cs.map Char.toLower) ∈ ["..", ".%2e", "%2e.", "%2e%2e"]

/-- The letter of a drive, if a segment is one with a colon or a bar behind it. -/
def drive? : List Char → Option Char
  | [c, d] => if c.isAlpha ∧ (d = ':' ∨ d = '|') then some c else none
  | _ => none

/-- Whether a segment begins with a drive: a double dot does not take such a segment away. -/
def beginsWithDrive : List Char → Bool
  | c :: d :: '\\' :: _ => (drive? [c, d]).isSome
  | cs => (drive? cs).isSome

/-- A segment in its normal form. With `drives`, a drive as the first one has a colon behind it. -/
def segment (drives isFirst : Bool) (s : List Char) : List Char :=
  match drive? s with
  | some c => if drives && isFirst then [c, ':'] else s
  | none => percentEncode inPath s

/-- The segments of a path after those in `before`, which are in reverse. A single dot stays in
place, and a double dot takes the segment before it away. -/
def resolve (drives : Bool) (before : List (List Char)) : List (List Char) → List (List Char)
  | [] => before.reverse
  | s :: rest =>
    let goesUp := isDoubleDot s && !before.head?.any beginsWithDrive
    let before := if goesUp then before.drop 1 else before
    if isDoubleDot s || isSingleDot s then
      resolve drives (if rest.isEmpty then [] :: before else before) rest
    else resolve drives (segment drives before.isEmpty s :: before) rest

/-- The segments of a path, whose first character is a slash or missing. -/
def segments (special : Bool) (cs : List Char) : List (List Char) :=
  let cs := match cs with
    | c :: rest => if isSlash special c then rest else c :: rest
    | [] => []
  Text.piecesOf '/' (cs.map fun c => if isSlash special c then '/' else c)

/-- How segments are written. -/
def pathText (segments : List (List Char)) : String :=
  String.ofList (segments.flatMap ('/' :: ·))

/-- The query and the fragment behind a path. -/
def readTail (special : Bool) (cs : List Char) : Option String × Option String :=
  let fragment (cs : List Char) : Option String :=
    match cs with
    | _ :: rest => some (String.ofList (percentEncode inFragment rest))
    | [] => none
  match cs with
  | '?' :: rest =>
    let (query, rest) := rest.span (· ≠ '#')
    (some (String.ofList (percentEncode (inQuery special) query)), fragment rest)
  | cs => (none, fragment cs)

/-- A URL with the query and the fragment that a text gives. -/
def withTail (u : Url) (cs : List Char) : Url :=
  let (query, fragment) := readTail (isSpecial u.scheme) cs
  { u with query, fragment }

/-- A URL with the path, the query and the fragment that a text gives. -/
def withPath (u : Url) (cs : List Char) : Url :=
  let special := isSpecial u.scheme
  let (path, tail) := cs.span fun c => c ≠ '?' ∧ c ≠ '#'
  let hasPath := special || !path.isEmpty
  let path := if hasPath then pathText (resolve false [] (segments special path)) else ""
  withTail { u with path } tail

/-! ## Reading -/

/-- The text of a user and a password, unless there is none, what follows it up to the path, and the
rest. -/
def splitAuthority (special : Bool) (cs : List Char) :
    Option (List Char) × List Char × List Char :=
  let (authority, rest) := cs.span fun c => !endsAuthority special c
  match authority.reverse.span (· ≠ '@') with
  | (host, _ :: user) => (some user.reverse, host.reverse, rest)
  | (_, []) => (none, authority, rest)

/-- A URL whose text goes on with a user, a host and a number. -/
def readAuthority (scheme : String) (cs : List Char) : Except Fault Url := do
  let special := isSpecial scheme
  let (userText, authority, rest) := splitAuthority special cs
  let (user, password) := readUser (userText.getD [])
  let (hostText, portText) := splitPort false authority
  let (portText, below) := (portText.map (·.span (· ≠ '\\'))).getD ([], [])
  let needsHost : Bool :=
    special || hostText ≠ authority || user ≠ "" || password.isSome ||
      (userText = some [] && !rest.isEmpty)
  if hostText.isEmpty && needsHost then throw .emptyHost
  let host ← if special then Host.read hostText else Host.readOpaque hostText
  let portNumber ← readPort scheme portText
  let host := if hostText.isEmpty then none else some host
  return withPath { scheme, user, password, host, portNumber } (below ++ rest)

/-- A URL of a file with the path, the query and the fragment that a text gives. The path begins
with no more than one slash, and where its first segment is a drive there is no host. -/
def withFilePath (host : Option Host) (cs : List Char) : Url :=
  let (path, tail) := cs.span fun c => c ≠ '?' ∧ c ≠ '#'
  let resolved := resolve true [] (segments true path)
  let host := if resolved.head?.any fun s => (drive? s).isSome then none else host
  let shown := resolved.dropWhile List.isEmpty
  withTail { scheme := "file", host, path := pathText (if shown = [] then [[]] else shown) } tail

/-- A URL of a file: there may be no host, and the own one is left out. -/
def readFile (cs : List Char) : Except Fault Url :=
  match cs with
  | a :: b :: rest =>
    if isSlash true a && isSlash true b then
      let (hostText, path) := rest.span fun c => !endsAuthority true c
      if hostText.isEmpty ∨ (drive? hostText).isSome then .ok (withFilePath none rest)
      else do
        let host ← Host.read hostText
        return withFilePath (if host = .name "localhost" then none else some host) path
    else .ok (withFilePath none cs)
  | cs => .ok (withFilePath none cs)

/-- A URL whose path is not made of segments. -/
def readOpaque (scheme : String) (cs : List Char) : Url :=
  let (path, tail) := cs.span fun c => c ≠ '?' ∧ c ≠ '#'
  let (query, fragment) := readTail false tail
  { scheme, path := String.ofList (percentEncode isPlain path), query, fragment }

/-- **The URL that a text writes.** -/
def ofText (s : String) : Except Fault Url :=
  match scheme? (clean s) with
  | none => .error .relative
  | some (scheme, rest) =>
    if scheme = "file" then readFile rest
    else if isSpecial scheme then readAuthority scheme (rest.dropWhile (isSlash true))
    else
      match rest with
      | '/' :: '/' :: rest => readAuthority scheme rest
      | '/' :: _ => .ok (withPath { scheme } rest)
      | rest => .ok (readOpaque scheme rest)

/-! ## Writing -/

/-- The host of a URL with the number behind it. -/
def authority? (u : Url) : Option String :=
  u.host.map fun host => host.text ++ (u.portNumber.elim "" fun n => s!":{n}")

/-- The user and the password as they stand in front of a host. -/
def userInfo (u : Url) : String :=
  let password := u.password.elim "" fun p => ":" ++ p
  if u.user = "" ∧ u.password = none then "" else u.user ++ password ++ "@"

/-- **How a URL is written.** -/
def text (u : Url) : String :=
  let slashes := if u.host.isSome || u.scheme = "file" then "//" else ""
  let query := u.query.elim "" fun q => "?" ++ q
  let fragment := u.fragment.elim "" fun f => "#" ++ f
  u.scheme ++ ":" ++ slashes ++ u.userInfo ++ u.authority?.getD "" ++ u.path ++ query ++ fragment

/-- A URL without user and password. -/
def anonymous (u : Url) : Url := { u with user := "", password := none }

end Url

end CloudProvider.Http
