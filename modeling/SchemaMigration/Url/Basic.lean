import SchemaMigration.Url.Host
import SchemaMigration.Url.Path
import SchemaMigration.Url.Query

/-!
# Absolute URLs

Splits a text into the components of an absolute URL.  Blanks and control characters around it, and
tabs and line breaks inside it, are ignored.  User name, password and path stay in percent form, as
the standard for URLs on the web lays down.
-/

namespace SchemaMigration

/-- The components of a URL that say where to connect to. -/
structure Url where
  scheme : String
  /-- In percent form; empty if there is none. -/
  username : List Char := []
  /-- In percent form, and never empty. -/
  password : Option (List Char) := none
  host : Option String := none
  port : Option Nat := none
  /-- In percent form. -/
  path : List Char := []
  fields : List (String × String) := []
deriving DecidableEq, Repr, Inhabited

namespace Url

/-- The schemes of the web, which have domain names as hosts. -/
def isWebScheme (scheme : String) : Bool := ["http", "https", "ws", "wss", "ftp"].contains scheme

/-- The port that a scheme implies; a URL that gives it says nothing new. -/
def impliedPort? (scheme : String) : Option Nat :=
  match scheme with
  | "http" | "ws" => some 80
  | "https" | "wss" => some 443
  | "ftp" => some 21
  | _ => none

/-- A space or an ASCII control character other than the last one. -/
def isSpaceOrControl (c : Char) : Bool := c.toNat ≤ 0x20

/-- The characters of a text that count. -/
def significant (text : String) : List Char :=
  let fromStart := text.toList.dropWhile isSpaceOrControl
  let trimmed := (fromStart.reverse.dropWhile isSpaceOrControl).reverse
  trimmed.filter fun c => c ≠ '\t' ∧ c ≠ '\n' ∧ c ≠ '\r'

/-- The scheme in lower case, and what follows its colon.  A scheme starts with a letter. -/
def splitScheme? (cs : List Char) : Option (String × List Char) :=
  let isSchemeChar (c : Char) : Bool := c.isAlphanum || c = '+' || c = '-' || c = '.'
  match cs with
  | [] => none
  | first :: _ =>
    if first.isAlpha then
      match cs.dropWhile isSchemeChar with
      | ':' :: rest => some (String.ofList ((cs.takeWhile isSchemeChar).map Char.toLower), rest)
      | _ => none
    else none

/-- The text before the first colon outside brackets, and the text from that colon on. -/
def splitAtPort (inBrackets : Bool) : List Char → List Char × List Char
  | [] => ([], [])
  | c :: cs =>
    if c = ':' && !inBrackets then ([], c :: cs)
    else
      let inside := if c = '[' then true else if c = ']' then false else inBrackets
      let (host, rest) := splitAtPort inside cs
      (c :: host, rest)

/-- User name and password in percent form, around the first colon.  An empty password is none. -/
def credentials (cs : List Char) : List Char × Option (List Char) :=
  let (user, password) := Text.splitAtFirst ':' cs
  let encode := Text.percentEncode isUserSpecial
  (encode user, (password.filter (· ≠ [])).map encode)

/-- A port number, and what follows its digits: nothing, or a backslash.  Without digits there is no
port. -/
def readPort (cs : List Char) : Except UrlError (Option Nat × List Char) :=
  let digits := cs.takeWhile Char.isDigit
  let rest := cs.dropWhile Char.isDigit
  if rest ≠ [] ∧ rest.head? ≠ some '\x5C' then .error .invalidPort
  else if digits = [] then .ok (none, rest)
  else
    match Text.readNat? digits with
    | some n => if n ≤ 65535 then .ok (some n, rest) else .error .invalidPort
    | none => .error .invalidPort

/-- The components between the two slashes and the path.  `followed` tells whether anything follows.
The last component is what belongs to the path already. -/
def readAuthority (scheme : String) (followed : Bool) (authority : List Char) :
    Except UrlError (Url × List Char) := do
  let (user?, hostAndPort) := Text.splitAtLast '@' authority
  let (username, password) := credentials (user?.getD [])
  let hasCredentials := username ≠ [] ∨ password.isSome
  -- An at sign alone is an empty authority only where something follows; at the very end it is
  -- an empty host, which schemes other than those of the web allow.
  if user? = some [] ∧ hostAndPort = [] ∧ followed then throw .emptyHost
  let (hostText, portText) := splitAtPort false hostAndPort
  if isWebScheme scheme ∧ hostText = [] then throw .emptyHost
  let host ← if isWebScheme scheme then domainHost hostText else opaqueHost hostText
  if host = "" ∧ portText ≠ [] then throw .emptyHost
  let (port, rest) ← readPort (portText.drop 1)
  if host = "" ∧ hasCredentials then throw .emptyHost
  pure
    ({ scheme
       username
       password
       host := if host = "" then none else some host
       port := if port = impliedPort? scheme then none else port }, rest)

/-- A URL whose scheme is followed by an authority. -/
def readWithAuthority (scheme : String) (followed : Bool) (cs : List Char) :
    Except UrlError Url := do
  let isEnd (c : Char) : Bool := c = '/' || (isWebScheme scheme && c = '\x5C')
  let authority := cs.takeWhile (!isEnd ·)
  let path := (cs.dropWhile (!isEnd ·)).map fun c => if isEnd c then '/' else c
  let (url, rest) ← readAuthority scheme (followed || !path.isEmpty) authority
  -- What follows the port belongs to the first segment, although no slash stands before it.
  let segments :=
    if rest ≠ [] then Text.splitAtEach '/' (rest ++ path)
    else if path = [] then []
    else Text.splitAtEach '/' (path.drop 1)
  pure { url with path := hierarchicalPath segments }

/-- A drive instead of a host. -/
def isDriveLetter : List Char → Bool
  | [letter, mark] => letter.isAlpha && (mark = ':' || mark = '|')
  | _ => false

/-- A URL of a file.  Two slashes may announce a host; there is neither a port nor a user. -/
def readFile : List Char → Except UrlError Url
  | first :: second :: cs =>
    let isSlash (c : Char) : Bool := c = '/' || c = '\x5C'
    let host := cs.takeWhile (!isSlash ·)
    if !(isSlash first && isSlash second) || host = [] || isDriveLetter host then
      .ok { scheme := "file" }
    else (domainHost host).map fun host => { scheme := "file", host := some host }
  | _ => .ok { scheme := "file" }

/-- A URL without an authority: a path behind a slash, or an opaque one. -/
def readWithoutAuthority (scheme : String) : List Char → Url
  | '/' :: cs => { scheme, path := hierarchicalPath (Text.splitAtEach '/' cs) }
  | cs => { scheme, path := Text.percentEncode isControl cs }

/-- The components before the query.  The schemes of the web have an authority whatever slashes
follow them. -/
def readHierarchy (scheme : String) (followed : Bool) (cs : List Char) : Except UrlError Url :=
  if isWebScheme scheme then
    readWithAuthority scheme followed (cs.dropWhile fun c => c = '/' || c = '\x5C')
  else if scheme = "file" then readFile cs
  else
    match cs with
    | '/' :: '/' :: rest => readWithAuthority scheme followed rest
    | _ => .ok (readWithoutAuthority scheme cs)

/-- Reads an absolute URL.  The fragment is left out. -/
def parse (text : String) : Except UrlError Url :=
  let (whole, fragment) := Text.splitAtFirst '#' (significant text)
  let (front, query) := Text.splitAtFirst '?' whole
  match splitScheme? front with
  | none => .error .noScheme
  | some (scheme, rest) =>
    (readHierarchy scheme (query.isSome || fragment.isSome) rest).map fun url =>
      { url with fields := formFields (query.getD []) }

end Url

end SchemaMigration
