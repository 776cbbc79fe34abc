import PoolLedger.Net.Host

/-!
# URLs

Absolute URLs in their normal form, and relative ones joined to them.
-/

namespace PoolLedger.Net

open Text

structure Authority where
  user : List Char := []
  password : List Char := []
  host : List Char
  /-- The number of the service at the host, none for the one that goes without saying. -/
  service : Option Nat := none
deriving DecidableEq

inductive UrlPath where
  /-- A text that is not divided. -/
  | whole (text : List Char)
  /-- Each segment comes after a slash. -/
  | segments (list : List (List Char))
deriving DecidableEq

structure Url where
  scheme : List Char
  authority : Option Authority
  path : UrlPath
  query : Option (List Char)
  fragment : Option (List Char)
deriving DecidableEq

namespace UrlPath

def text : UrlPath → List Char
  | whole t => t
  | segments ss => ss.flatMap ('/' :: ·)

end UrlPath

/-- Schemes that name a host, with the services that go without saying. -/
def specialSchemes : List (String × Option Nat) :=
  [("http", some 80), ("https", some 443), ("ws", some 80), ("wss", some 443), ("ftp", some 21),
    ("file", none)]

def isSpecial (scheme : List Char) : Bool :=
  specialSchemes.any fun (name, _) => name.toList == scheme

def defaultService (scheme : List Char) : Option Nat :=
  (specialSchemes.lookup (String.ofList scheme)).join

namespace Authority

def text (a : Authority) : List Char :=
  let password := if a.password.isEmpty then [] else ':' :: a.password
  let user := if a.user.isEmpty && a.password.isEmpty then [] else a.user ++ password ++ ['@']
  let service := match a.service with
    | some p => ':' :: Nat.toDigits 10 p
    | none => []
  user ++ a.host ++ service

/-- Cuts a host from the service after a colon outside brackets. -/
def cutService : Bool → List Char → List Char × Option (List Char)
  | _, [] => ([], none)
  | inBrackets, c :: rest =>
    if c = ':' && !inBrackets then ([], some rest)
    else
      let (host, service) := cutService (c = '[' || (inBrackets && c ≠ ']')) rest
      (c :: host, service)

/-- The number of a service, none where it is left out or goes without saying. -/
def service? (scheme s : List Char) : Option (Option Nat) :=
  if s.isEmpty then some none
  else (SocketAddress.service? s).map fun number =>
    if defaultService scheme = some number then none else some number

/-- Whether a host may be left out after what stands before the at sign, if there is one: nothing
must be said there, and an at sign alone must be the end of the URL. -/
def mayLackHost (credentials : Option (List Char)) (atEnd : Bool) : Bool :=
  match credentials with
  | none => true
  | some [] => atEnd
  | some said => said = [':']

/-- User and password before the last at sign, host, and service. A backslash after the service is
left for the path. `atEnd` says that nothing comes after the text. -/
def parse? (scheme s : List Char) (atEnd : Bool) : Option (Authority × List Char) := do
  let (credentials, rest) := match SocketAddress.cutLast '@' s with
    | some (before, after) => (some before, after)
    | none => (none, s)
  let (host, service) := cutService false rest
  let mayLackHost := !isSpecial scheme && service.isNone && mayLackHost credentials atEnd
  if host.isEmpty && !mayLackHost then none
  let host ← if isSpecial scheme then Host.special? host else Host.other? host
  let service := service.getD []
  let rest := service.dropWhile Char.isDigit
  if rest.head?.any (· ≠ '\\') then none
  let service ← service? scheme (service.takeWhile Char.isDigit)
  let credentials := credentials.getD []
  let user := credentials.takeWhile (· ≠ ':')
  let password := (credentials.dropWhile (· ≠ ':')).drop 1
  let authority : Authority := {
    user := percentEncode inUserSet user, password := percentEncode inUserSet password
    host, service }
  return (authority, rest)

end Authority

namespace Url

def text (u : Url) : String :=
  let authority := match u.authority with
    | some a => '/' :: '/' :: a.text
    | none =>
      match u.path with
      | .segments ([] :: _ :: _) => ['/', '.']
      | _ => []
  let query := match u.query with
    | some q => '?' :: q
    | none => []
  let fragment := match u.fragment with
    | some f => '#' :: f
    | none => []
  String.ofList (u.scheme ++ ':' :: authority ++ u.path.text ++ query ++ fragment)

/-- What is asked of a host: the path and the query. -/
def target (u : Url) : String :=
  String.ofList (u.path.text ++ match u.query with
    | some q => '?' :: q
    | none => [])

/-- Without control characters and spaces at the ends, and without tabs and line ends. -/
def clean (s : List Char) : List Char :=
  let isEdge (c : Char) : Bool := c.toNat ≤ 0x20
  let trimmed := ((s.dropWhile isEdge).reverse.dropWhile isEdge).reverse
  trimmed.filter fun c => c ≠ '\t' && c ≠ '\n' && c ≠ '\r'

/-- Cuts a text at the first `c`, which is left out. -/
def cut (c : Char) (s : List Char) : List Char × Option (List Char) :=
  (s.takeWhile (· ≠ c), match s.dropWhile (· ≠ c) with
    | [] => none
    | _ :: rest => some rest)

/-- The scheme in lower case and what follows its colon. -/
def cutScheme (s : List Char) : Option (List Char × List Char) :=
  let isSchemeChar (c : Char) : Bool := c.isAlphanum || c = '+' || c = '-' || c = '.'
  match cut ':' s with
  | (scheme, some rest) =>
    if (scheme.head?.any Char.isAlpha) && scheme.all isSchemeChar then
      some (scheme.map Char.toLower, rest)
    else none
  | _ => none

def isSlash (special : Bool) (c : Char) : Bool := c = '/' || (special && c = '\\')

/-- A dot of a segment may be written as its byte. -/
def plainDots : List Char → List Char
  | '%' :: '2' :: 'e' :: rest | '%' :: '2' :: 'E' :: rest => '.' :: plainDots rest
  | c :: rest => c :: plainDots rest
  | [] => []

/-- The drive of a file, with a colon whichever mark it is written with. -/
def drive? : List Char → Option (List Char)
  | [c, mark] => if c.isAlpha && (mark = ':' || mark = '|') then some [c, ':'] else none
  | _ => none

/-- Whether a segment names a drive, alone or before a backslash. -/
def namesDrive : List Char → Bool
  | c :: mark :: rest =>
    c.isAlpha && (mark = ':' || mark = '|') && (rest.isEmpty || rest.head? = some '\\')
  | _ => false

/-- One level up. There is none above a drive. -/
def parent (done : List (List Char)) : List (List Char) :=
  if done.getLast?.any namesDrive then done else done.dropLast

/-- A segment as it is put after others: a file may begin with its drive. -/
def segment (scheme : List Char) (done : List (List Char)) (s : List Char) : List Char :=
  if scheme = "file".toList ∧ done.isEmpty then (drive? s).getD (percentEncode inPathSet s)
  else percentEncode inPathSet s

/-- Segments put after others. A dot stays where it is and two dots go up, and one that comes last
leaves an empty segment. -/
def walk (scheme : List Char) (done : List (List Char)) : List (List Char) → List (List Char)
  | [] => done
  | s :: rest =>
    let leave (done : List (List Char)) := if rest.isEmpty then done ++ [[]] else done
    if plainDots s = ['.', '.'] then walk scheme (leave (parent done)) rest
    else if plainDots s = ['.'] then walk scheme (leave done) rest
    else walk scheme (done ++ [segment scheme done s]) rest

/-- The segments of a path that begins with a slash or, after a host, is empty. -/
def rooted (scheme s : List Char) : List (List Char) :=
  let special := isSpecial scheme
  match s with
  | [] => if special then [[]] else []
  | c :: rest =>
    walk scheme [] (split (isSlash special) (if isSlash special c then rest else c :: rest))

def encodeQuery (special : Bool) (q : Option (List Char)) : Option (List Char) :=
  q.map (percentEncode (if special then inSpecialQuerySet else inQuerySet))

/-- A URL with a host: what comes after the slashes before it. `bare` says that neither query nor
fragment comes after that. -/
def hosted? (scheme s : List Char) (bare : Bool) : Option (Authority × UrlPath) := do
  let special := isSpecial scheme
  let after := s.dropWhile fun c => !isSlash special c
  let (authority, rest) ←
    Authority.parse? scheme (s.takeWhile fun c => !isSlash special c) (bare && after.isEmpty)
  return (authority, .segments (rooted scheme (rest ++ after)))

/-- The path of a file, which begins with a name: empty segments before it are left out. -/
def filePath (segments : List (List Char)) : UrlPath :=
  match segments.dropWhile List.isEmpty with
  | [] => .segments [[]]
  | named => .segments named

/-- A file has a host only after exactly two slashes. This machine is none, and neither is a drive.
A host before a drive is left out. -/
def file? (s : List Char) : Option (Authority × UrlPath) := do
  let slash := isSlash true
  let scheme := "file".toList
  let here (segments : List (List Char)) : Authority × UrlPath :=
    ({ host := [] }, filePath segments)
  match s with
  | a :: b :: rest =>
    if slash a && slash b then
      let name := rest.takeWhile fun c => !slash c
      let after := rest.dropWhile fun c => !slash c
      if (drive? name).isSome then return here (rooted scheme rest)
      else
        let host ← if name.isEmpty then some [] else Host.special? name
        if host.isEmpty || host = "localhost".toList then
          return here (walk scheme [] (split slash after))
        else
          let segments := rooted scheme after
          if (segments.head?.bind drive?).isSome then return here segments
          else return ({ host }, filePath segments)
    else return here (rooted scheme s)
  | s => return here (rooted scheme s)

/-- Authority and path after the scheme. -/
def body? (scheme s : List Char) (bare : Bool) : Option (Option Authority × UrlPath) :=
  if scheme = "file".toList then (file? s).map fun (a, p) => (some a, p)
  else if isSpecial scheme then
    (hosted? scheme (s.dropWhile (isSlash true)) bare).map fun (a, p) => (some a, p)
  else
    match s with
    | '/' :: '/' :: rest => (hosted? scheme rest bare).map fun (a, p) => (some a, p)
    | '/' :: _ => some (none, .segments (rooted scheme s))
    | s => some (none, .whole (percentEncode isControl s))

/-- Reads an absolute URL. -/
def parse? (s : String) : Option Url := do
  let (rest, fragment) := cut '#' (clean s.toList)
  let (rest, query) := cut '?' rest
  let (scheme, rest) ← cutScheme rest
  let (authority, path) ← body? scheme rest (query.isNone && fragment.isNone)
  return {
    scheme, authority, path, query := encodeQuery (isSpecial scheme) query
    fragment := fragment.map (percentEncode inFragmentSet) }

/-- The URL of a relative one: a path in place of the last segment, or from the root. -/
def join? (base : Url) (s : String) : Option Url :=
  match base.path with
  | .whole _ => none
  | .segments ss =>
    let special := isSpecial base.scheme
    let (rest, fragment) := cut '#' (clean s.toList)
    let (rest, query) := cut '?' rest
    let fragment := fragment.map (percentEncode inFragmentSet)
    match rest with
    | [] =>
      some { base with
        query := if query.isSome then encodeQuery special query else base.query, fragment }
    | c :: _ =>
      let path :=
        if isSlash special c then rooted base.scheme rest
        else walk base.scheme ss.dropLast (split (isSlash special) rest)
      some { base with path := .segments path, query := encodeQuery special query, fragment }

/-- The URL as a directory: its path ends with a slash. -/
def directory (u : Url) : Url :=
  match u.path with
  | .whole _ => u
  | .segments ss =>
    if ss.getLast? = some [] then u else { u with path := .segments (ss ++ [[]]) }

/-- The URL of a path below a directory. -/
def below? (base : Url) (path : String) : Option Url :=
  base.directory.join? (String.ofList (path.toList.dropWhile (· = '/')))

end Url

end PoolLedger.Net
