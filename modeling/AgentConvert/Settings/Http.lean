import AgentConvert.Argument.Basic
import AgentConvert.Decoding.Record
import AgentConvert.Diagnostic

/-!
# HTTP clients

Settings of clients that scrape, discover and push: authentication, encryption and proxies. They
become attributes and nested blocks of the component that owns the client.
-/

namespace AgentConvert

/-! ## Authentication -/

/-- A user and a password. -/
structure BasicAuth where
  username : String := ""
  password : Option Secret := none
  passwordFile : Option String := none
  deriving DecidableEq, Inhabited

namespace BasicAuth

def record : Record BasicAuth where
  name := "BasicAuth"
  initial := {}
  fields := [
    .of "username" Decode.text fun v s => { s with username := v },
    .of "password" (Decode.optional Decode.secret) fun v s => { s with password := v },
    .of "password_file" (Decode.optional Decode.text) fun v s => { s with passwordFile := v }]

/-- The nested block; an empty password is left out. -/
def block (auth : BasicAuth) : Argument :=
  .blockOf (Field.always "username" (.text auth.username) ++
    Field.optional "password" .secret (auth.password.filter fun p => !p.isEmpty) ++
    Field.optional "password_file" .text auth.passwordFile)

end BasicAuth

/-- Credentials of some type. -/
structure Authorization where
  type : Option String := none
  credentials : Option Secret := none
  credentialsFile : Option String := none
  deriving DecidableEq, Inhabited

namespace Authorization

def record : Record Authorization where
  name := "Authorization"
  initial := {}
  fields := [
    .of "type" (Decode.optional Decode.text) fun v s => { s with type := v },
    .of "credentials" (Decode.optional Decode.secret) fun v s => { s with credentials := v },
    .of "credentials_file" (Decode.optional Decode.text) fun v s =>
      { s with credentialsFile := v }]

/-- The nested block. -/
def block (auth : Authorization) : Argument :=
  .blockOf (Field.optional "type" .text auth.type ++
    Field.optional "credentials" .secret auth.credentials ++
    Field.optional "credentials_file" .text auth.credentialsFile)

end Authorization

/-! ## Encryption -/

/-- How a client checks its server and shows who it is. -/
structure TlsSettings where
  caFile : Option String := none
  certFile : Option String := none
  keyFile : Option String := none
  serverName : Option String := none
  insecureSkipVerify : Bool := false
  minVersion : Option String := none
  deriving DecidableEq, Inhabited

namespace TlsSettings

def record : Record TlsSettings where
  name := "TlsConfig"
  initial := {}
  fields := [
    .of "ca_file" (Decode.optional Decode.text) fun v s => { s with caFile := v },
    .of "cert_file" (Decode.optional Decode.text) fun v s => { s with certFile := v },
    .of "key_file" (Decode.optional Decode.text) fun v s => { s with keyFile := v },
    .of "server_name" (Decode.optional Decode.text) fun v s => { s with serverName := v },
    .of "insecure_skip_verify" Decode.bool fun v s => { s with insecureSkipVerify := v },
    .of "min_version" (Decode.optional Decode.text) fun v s => { s with minVersion := v }]

/-- The nested block. -/
def block (tls : TlsSettings) : Argument :=
  .blockOf (Field.optional "ca_file" .text tls.caFile ++
    Field.optional "cert_file" .text tls.certFile ++
    Field.optional "key_file" .text tls.keyFile ++
    Field.optional "server_name" .text tls.serverName ++
    Field.whenOn "insecure_skip_verify" tls.insecureSkipVerify ++
    Field.optional "min_version" .text tls.minVersion)

end TlsSettings

/-! ## Clients -/

/-- The settings of a client. -/
structure HttpClient where
  basicAuth : Option BasicAuth := none
  authorization : Option Authorization := none
  bearerToken : Option Secret := none
  bearerTokenFile : Option String := none
  tls : Option TlsSettings := none
  proxyUrl : Option String := none
  followRedirects : Option Bool := none
  enableHttp2 : Option Bool := none
  /-- Settings that are not supported, whatever they are. -/
  oauth2 : Option Value := none
  deriving Inhabited

namespace HttpClient

/-- The fields of a client; they stand among those of the owner. -/
def fields : List (Field HttpClient) := [
  .of "basic_auth" (Decode.optional BasicAuth.record.decode) fun v s => { s with basicAuth := v },
  .of "authorization" (Decode.optional Authorization.record.decode) fun v s =>
    { s with authorization := v },
  .of "bearer_token" (Decode.optional Decode.secret) fun v s => { s with bearerToken := v },
  .of "bearer_token_file" (Decode.optional Decode.text) fun v s =>
    { s with bearerTokenFile := v },
  .of "tls_config" (Decode.optional TlsSettings.record.decode) fun v s => { s with tls := v },
  .of "proxy_url" (Decode.optional Decode.text) fun v s => { s with proxyUrl := v },
  .of "follow_redirects" (Decode.optional Decode.bool) fun v s => { s with followRedirects := v },
  .of "enable_http2" (Decode.optional Decode.bool) fun v s => { s with enableHttp2 := v },
  .of "oauth2" (Decode.optional Decode.kept) fun v s => { s with oauth2 := v }]

/-- The arguments of the owner that a client becomes. -/
def arguments (client : HttpClient) : Fields :=
  Field.optional "bearer_token" .secret client.bearerToken ++
  Field.optional "bearer_token_file" .text client.bearerTokenFile ++
  Field.optional "proxy_url" .text client.proxyUrl ++
  Field.optional "follow_redirects" .bool client.followRedirects ++
  Field.optional "enable_http2" .bool client.enableHttp2 ++
  Field.optional "basic_auth" BasicAuth.block client.basicAuth ++
  Field.optional "authorization" Authorization.block client.authorization ++
  Field.optional "tls_config" TlsSettings.block client.tls

/-- What cannot be converted. -/
def findings (context : String) (client : HttpClient) : Diagnostics :=
  Diagnostic.when client.oauth2.isSome (.error (context ++ ": oauth2 is not supported")) ++
  Diagnostic.when (client.bearerToken.isSome && client.authorization.isSome)
    (.error (context ++ ": at most one of bearer_token and authorization may be set"))

end HttpClient

end AgentConvert
