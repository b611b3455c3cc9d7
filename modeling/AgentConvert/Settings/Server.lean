import AgentConvert.Argument.Basic
import AgentConvert.Decoding.Record
import AgentConvert.Diagnostic
import AgentConvert.Text.Lowercase

/-!
# Servers

Settings of listeners: those of the agent itself, and those that a source embeds to be pushed to.
-/

namespace AgentConvert

/-- The settings of a server. -/
structure ServerSettings where
  logLevel : Option String := none
  logFormat : Option String := none
  httpListenAddress : Option String := none
  httpListenPort : Option UInt16 := none
  grpcListenAddress : Option String := none
  grpcListenPort : Option UInt16 := none
  httpTls : Option Value := none
  grpcTls : Option Value := none
  httpReadTimeout : Option Duration := none
  httpWriteTimeout : Option Duration := none
  httpIdleTimeout : Option Duration := none
  grpcMaxRecvMsgSize : Option UInt64 := none
  grpcMaxSendMsgSize : Option UInt64 := none
  grpcMaxConcurrentStreams : Option UInt64 := none
  gracefulShutdownTimeout : Option Duration := none
  registerInstrumentation : Option Bool := none
  deriving Inhabited

namespace ServerSettings

def record : Record ServerSettings where
  name := "ServerConfig"
  initial := {}
  fields := [
    .of "log_level" (Decode.optional Decode.text) fun v s => { s with logLevel := v },
    .of "log_format" (Decode.optional Decode.text) fun v s => { s with logFormat := v },
    .of "http_listen_address" (Decode.optional Decode.text) fun v s =>
      { s with httpListenAddress := v },
    .of "http_listen_port" (Decode.optional Decode.uint16) fun v s =>
      { s with httpListenPort := v },
    .of "grpc_listen_address" (Decode.optional Decode.text) fun v s =>
      { s with grpcListenAddress := v },
    .of "grpc_listen_port" (Decode.optional Decode.uint16) fun v s =>
      { s with grpcListenPort := v },
    .of "http_tls_config" (Decode.optional Decode.kept) fun v s => { s with httpTls := v },
    .of "grpc_tls_config" (Decode.optional Decode.kept) fun v s => { s with grpcTls := v },
    .of "http_server_read_timeout" (Decode.optional Decode.duration) fun v s =>
      { s with httpReadTimeout := v },
    .of "http_server_write_timeout" (Decode.optional Decode.duration) fun v s =>
      { s with httpWriteTimeout := v },
    .of "http_server_idle_timeout" (Decode.optional Decode.duration) fun v s =>
      { s with httpIdleTimeout := v },
    .of "grpc_server_max_recv_msg_size" (Decode.optional Decode.uint64) fun v s =>
      { s with grpcMaxRecvMsgSize := v },
    .of "grpc_server_max_send_msg_size" (Decode.optional Decode.uint64) fun v s =>
      { s with grpcMaxSendMsgSize := v },
    .of "grpc_server_max_concurrent_streams" (Decode.optional Decode.uint64) fun v s =>
      { s with grpcMaxConcurrentStreams := v },
    .of "graceful_shutdown_timeout" (Decode.optional Decode.duration) fun v s =>
      { s with gracefulShutdownTimeout := v },
    .of "register_instrumentation" (Decode.optional Decode.bool) fun v s =>
      { s with registerInstrumentation := v }]

/-! ## The agent's own server -/

/-- The arguments of the `logging` block; none when both settings are the usual ones. -/
def logging? (s : ServerSettings) : Option Argument :=
  let level := (s.logLevel.map Text.lowercase).filter (· != "info")
  let format := s.logFormat.filter (· != "logfmt")
  if level.isNone && format.isNone then none
  else some (.record (Field.optional "level" .text level ++ Field.optional "format" .text format))

/-- The settings of the agent's own server that move to the command line, with whether they are
set. -/
def commandLineSettings (s : ServerSettings) : List (String × Bool) := [
  ("http_listen_address", s.httpListenAddress.isSome),
  ("http_listen_port", s.httpListenPort.isSome),
  ("grpc_listen_address", s.grpcListenAddress.isSome),
  ("grpc_listen_port", s.grpcListenPort.isSome),
  ("http_tls_config", s.httpTls.isSome),
  ("grpc_tls_config", s.grpcTls.isSome)]

/-- What of the agent's own server is not converted. -/
def agentFindings (s : ServerSettings) : Diagnostics :=
  (s.commandLineSettings.filter Prod.snd).map fun setting =>
    .warning ("server." ++ setting.1 ++
      " is not converted; set the equivalent command-line flag instead")

/-! ## Embedded servers -/

/-- What of an embedded server is not converted. -/
def embeddedFindings (context : String) (s : ServerSettings) : Diagnostics :=
  Diagnostic.when (s.registerInstrumentation == some true) (.warning
    (context ++ ": server.register_instrumentation is not supported and was ignored"))

/-- A nested block, left out when each of its fields is absent. -/
def blockUnlessEmpty (name : String) (isEmpty : Bool) (fields : Fields) : Fields :=
  Field.optional name .blockOf (if isEmpty then none else some fields)

/-- The fields of the nested block for HTTP. -/
def httpFields (s : ServerSettings) : Fields :=
  Field.optional "listen_address" .text s.httpListenAddress ++
    Field.optional "listen_port" .uint16 s.httpListenPort ++
    Field.optional "server_read_timeout" .duration s.httpReadTimeout ++
    Field.optional "server_write_timeout" .duration s.httpWriteTimeout ++
    Field.optional "server_idle_timeout" .duration s.httpIdleTimeout

/-- The fields of the nested block for gRPC. -/
def grpcFields (s : ServerSettings) : Fields :=
  Field.optional "listen_address" .text s.grpcListenAddress ++
    Field.optional "listen_port" .uint16 s.grpcListenPort ++
    Field.optional "server_max_recv_msg_size" .uint64 s.grpcMaxRecvMsgSize ++
    Field.optional "server_max_send_msg_size" .uint64 s.grpcMaxSendMsgSize ++
    Field.optional "server_max_concurrent_streams" .uint64 s.grpcMaxConcurrentStreams

/-- The arguments of the source that an embedded server becomes. -/
def arguments (s : ServerSettings) : Fields :=
  blockUnlessEmpty "http"
    (s.httpListenAddress.isNone && s.httpListenPort.isNone && s.httpReadTimeout.isNone &&
      s.httpWriteTimeout.isNone && s.httpIdleTimeout.isNone) s.httpFields ++
  blockUnlessEmpty "grpc"
    (s.grpcListenAddress.isNone && s.grpcListenPort.isNone && s.grpcMaxRecvMsgSize.isNone &&
      s.grpcMaxSendMsgSize.isNone && s.grpcMaxConcurrentStreams.isNone) s.grpcFields ++
  Field.optional "graceful_shutdown_timeout" .duration s.gracefulShutdownTimeout

end ServerSettings

end AgentConvert
