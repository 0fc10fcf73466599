import SchemaMigration.Connection.Error
import SchemaMigration.Text.Integer
import SchemaMigration.Url.Basic

/-!
# Connection settings

Where and how to connect to a MySQL server, and the URLs that say so.  Options in the query of a URL
are taken in order, so that the last one of a kind counts, and the first fault is reported.

How a URL is split and how its percent forms are read is not the business of the settings: they are
made from what any reader of URLs finds (`ofUrlWith`).
-/

namespace SchemaMigration

/-- How a connection is encrypted. -/
inductive TlsMode
  | disabled
  /-- Encrypted, whatever name the server's certificate carries. -/
  | required
  /-- Encrypted, with the certificate verified in full. -/
  | verifyIdentity
deriving DecidableEq, Repr, Inhabited

/-- What is verified on an encrypted connection. -/
structure TlsOptions where
  skipDomainValidation : Bool := false
  acceptInvalidCertificates : Bool := false
deriving DecidableEq, Repr, Inhabited

/-- Where and how to connect. -/
structure ConnectionSettings where
  host : String := "localhost"
  port : UInt16 := 3306
  database : String := ""
  username : Option String := none
  password : Option String := none
  /-- In seconds. -/
  connectTimeout : Option UInt64 := some 30
  tls : TlsMode := .disabled
deriving DecidableEq, Repr, Inhabited

/-- Reads a mode in any letter case. -/
def TlsMode.read (text : String) : Except ConnectionError TlsMode :=
  match Text.lowerAscii text with
  | "disabled" => .ok .disabled
  | "required" => .ok .required
  | "verify_identity" => .ok .verifyIdentity
  | other => .error (.config ("unknown ssl_mode '" ++ other ++ "'"))

/-- The options of an encrypted connection, if it is encrypted. -/
def TlsMode.options? : TlsMode → Option TlsOptions
  | disabled => none
  | required => some { skipDomainValidation := true }
  | verifyIdentity => some {}

/-- How URLs are read. -/
structure UrlReader where
  /-- Splits a URL into its components, which stay in percent form, and the fields of its query. -/
  parse : String → Except UrlError Url
  /-- The text that a component in percent form writes in UTF-8. -/
  decode? : List Char → Option String

/-- The reader of this library. -/
def UrlReader.standard : UrlReader where
  parse := Url.parse
  decode? component := Text.decodeUtf8? (Text.percentDecode (Text.encodeUtf8 component))

namespace ConnectionSettings

/-- Decodes a component in percent form, which must write UTF-8. -/
def decode (reader : UrlReader) (component : List Char) : Except ConnectionError String :=
  match reader.decode? component with
  | some text => .ok text
  | none => .error (.config ("'" ++ String.ofList component ++ "' is not valid UTF-8"))

/-- Decodes a component that may be absent. -/
def decodeOption (reader : UrlReader) :
    Option (List Char) → Except ConnectionError (Option String)
  | none => .ok none
  | some component => (decode reader component).map some

/-- Takes over an option. -/
def setOption (s : ConnectionSettings) (name value : String) :
    Except ConnectionError ConnectionSettings :=
  if name = "connect_timeout" then
    match Text.readUInt64? value with
    | some seconds => .ok { s with connectTimeout := some seconds }
    | none => .error (.config ("invalid connect_timeout '" ++ value ++ "'"))
  else if name = "ssl_mode" ∨ name = "sslmode" then
    (TlsMode.read value).map fun tls => { s with tls }
  else .error (.config ("unknown option '" ++ name ++ "'"))

/-- Takes over options in order. -/
def setOptions (s : ConnectionSettings) : List (String × String) →
    Except ConnectionError ConnectionSettings
  | [] => .ok s
  | (name, value) :: rest =>
    match s.setOption name value with
    | .ok s => s.setOptions rest
    | .error e => .error e

/-- The settings that the components of a URL give.  The path without its leading slashes names the
database. -/
def ofComponents (reader : UrlReader) (url : Url) : Except ConnectionError ConnectionSettings := do
  if url.scheme ≠ "mysql" then
    throw (.config ("invalid scheme '" ++ url.scheme ++ "', expected 'mysql'"))
  let database ← decode reader (url.path.dropWhile (· = '/'))
  if database = "" then throw (.config "database name is required")
  let username ← decodeOption reader (if url.username = [] then none else some url.username)
  let password ← decodeOption reader url.password
  setOptions
    { host := url.host.getD "localhost"
      port := UInt16.ofNat (url.port.getD 3306)
      database
      username
      password } url.fields

/-- The settings that a URL gives to a reader. -/
def ofUrlWith (reader : UrlReader) (text : String) : Except ConnectionError ConnectionSettings :=
  match reader.parse text with
  | .ok url => ofComponents reader url
  | .error e => .error (.config ("invalid URL: " ++ e.message))

/-- The settings that a URL gives. -/
def ofUrl : String → Except ConnectionError ConnectionSettings := ofUrlWith .standard

end ConnectionSettings

end SchemaMigration
