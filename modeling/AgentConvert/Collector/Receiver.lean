import AgentConvert.ByteSize
import AgentConvert.Decoding.Record

/-!
# Receivers

The receivers that can be converted: their settings, and the arguments that they become. Every
receiver has a nested block that says where its data goes.
-/

namespace AgentConvert.Collector

/-- The text of an optional size in bytes. -/
def sizeField (name : String) (size : Option UInt64) : Fields :=
  Field.optional name .text (size.map fun n => ByteSize.text n.toNat)

/-- The bytes of a size in units of `2 ^ 20` bytes, in a 64-bit word. -/
def bytesOfMib (n : UInt64) : UInt64 := n <<< 20

/-! ## Servers -/

/-- How a server shows who it is and checks its clients. -/
structure ServerTls where
  certFile : Option String := none
  keyFile : Option String := none
  caFile : Option String := none
  clientCaFile : Option String := none
  minVersion : Option String := none
  deriving Inhabited

namespace ServerTls

def record : Record ServerTls where
  name := "ServerTls"
  initial := {}
  fields := [
    .of "cert_file" (Decode.optional Decode.text) fun v s => { s with certFile := v },
    .of "key_file" (Decode.optional Decode.text) fun v s => { s with keyFile := v },
    .of "ca_file" (Decode.optional Decode.text) fun v s => { s with caFile := v },
    .of "client_ca_file" (Decode.optional Decode.text) fun v s => { s with clientCaFile := v },
    .of "min_version" (Decode.optional Decode.text) fun v s => { s with minVersion := v }]

/-- The nested block. -/
def block (tls : ServerTls) : Argument :=
  .blockOf (Field.optional "cert_file" .text tls.certFile ++
    Field.optional "key_file" .text tls.keyFile ++
    Field.optional "ca_file" .text tls.caFile ++
    Field.optional "client_ca_file" .text tls.clientCaFile ++
    Field.optional "min_version" .text tls.minVersion)

end ServerTls

/-- A server for remote procedure calls. -/
structure GrpcServer where
  endpoint : Option String := none
  transport : Option String := none
  maxRecvMsgSizeMib : Option UInt64 := none
  maxConcurrentStreams : Option UInt32 := none
  readBufferSize : Option UInt64 := none
  writeBufferSize : Option UInt64 := none
  includeMetadata : Option Bool := none
  tls : Option ServerTls := none
  deriving Inhabited

namespace GrpcServer

def record : Record GrpcServer where
  name := "GrpcProtocol"
  initial := {}
  fields := [
    .of "endpoint" (Decode.optional Decode.text) fun v s => { s with endpoint := v },
    .of "transport" (Decode.optional Decode.text) fun v s => { s with transport := v },
    .of "max_recv_msg_size_mib" (Decode.optional Decode.uint64) fun v s =>
      { s with maxRecvMsgSizeMib := v },
    .of "max_concurrent_streams" (Decode.optional Decode.uint32) fun v s =>
      { s with maxConcurrentStreams := v },
    .of "read_buffer_size" (Decode.optional Decode.uint64) fun v s =>
      { s with readBufferSize := v },
    .of "write_buffer_size" (Decode.optional Decode.uint64) fun v s =>
      { s with writeBufferSize := v },
    .of "include_metadata" (Decode.optional Decode.bool) fun v s => { s with includeMetadata := v },
    .of "tls" (Decode.optional ServerTls.record.decode) fun v s => { s with tls := v }]

/-- The nested block. -/
def block (g : GrpcServer) : Argument :=
  .blockOf (Field.always "endpoint" (.text (g.endpoint.getD "0.0.0.0:4317")) ++
    Field.optional "transport" .text g.transport ++
    sizeField "max_recv_msg_size" (g.maxRecvMsgSizeMib.map bytesOfMib) ++
    Field.optional "max_concurrent_streams" .uint32 g.maxConcurrentStreams ++
    sizeField "read_buffer_size" g.readBufferSize ++
    sizeField "write_buffer_size" g.writeBufferSize ++
    Field.optional "include_metadata" .bool g.includeMetadata ++
    Field.optional "tls" ServerTls.block g.tls)

end GrpcServer

/-- Which pages may send to a server. -/
structure Cors where
  allowedOrigins : List String := []
  allowedHeaders : List String := []
  maxAge : Option UInt32 := none
  deriving Inhabited

namespace Cors

def record : Record Cors where
  name := "Cors"
  initial := {}
  fields := [
    .of "allowed_origins" Decode.texts fun v s => { s with allowedOrigins := v },
    .of "allowed_headers" Decode.texts fun v s => { s with allowedHeaders := v },
    .of "max_age" (Decode.optional Decode.uint32) fun v s => { s with maxAge := v }]

/-- The nested block. -/
def block (c : Cors) : Argument :=
  .blockOf (Field.unlessNil "allowed_origins" .texts c.allowedOrigins ++
    Field.unlessNil "allowed_headers" .texts c.allowedHeaders ++
    Field.optional "max_age" .uint32 c.maxAge)

end Cors

/-- A web server. -/
structure HttpServer where
  endpoint : Option String := none
  includeMetadata : Option Bool := none
  maxRequestBodySize : Option UInt64 := none
  cors : Option Cors := none
  tracesUrlPath : Option String := none
  metricsUrlPath : Option String := none
  logsUrlPath : Option String := none
  tls : Option ServerTls := none
  deriving Inhabited

namespace HttpServer

def record : Record HttpServer where
  name := "HttpProtocol"
  initial := {}
  fields := [
    .of "endpoint" (Decode.optional Decode.text) fun v s => { s with endpoint := v },
    .of "include_metadata" (Decode.optional Decode.bool) fun v s => { s with includeMetadata := v },
    .of "max_request_body_size" (Decode.optional Decode.uint64) fun v s =>
      { s with maxRequestBodySize := v },
    .of "cors" (Decode.optional Cors.record.decode) fun v s => { s with cors := v },
    .of "traces_url_path" (Decode.optional Decode.text) fun v s => { s with tracesUrlPath := v },
    .of "metrics_url_path" (Decode.optional Decode.text) fun v s => { s with metricsUrlPath := v },
    .of "logs_url_path" (Decode.optional Decode.text) fun v s => { s with logsUrlPath := v },
    .of "tls" (Decode.optional ServerTls.record.decode) fun v s => { s with tls := v }]

/-- The nested block. -/
def block (h : HttpServer) : Argument :=
  .blockOf (Field.always "endpoint" (.text (h.endpoint.getD "0.0.0.0:4318")) ++
    Field.optional "include_metadata" .bool h.includeMetadata ++
    sizeField "max_request_body_size" h.maxRequestBodySize ++
    Field.optional "traces_url_path" .text h.tracesUrlPath ++
    Field.optional "metrics_url_path" .text h.metricsUrlPath ++
    Field.optional "logs_url_path" .text h.logsUrlPath ++
    Field.optional "cors" Cors.block h.cors ++
    Field.optional "tls" ServerTls.block h.tls)

end HttpServer

/-! ## Receivers -/

/-- The protocols of a receiver. A protocol that is named is on, also when nothing is said about
it. -/
structure Protocols where
  grpc : Option GrpcServer := none
  http : Option HttpServer := none
  deriving Inhabited

/-- The settings of a protocol that is named. -/
def Protocols.enabled {α : Type} (default : α) (d : Decoder α) : Decoder (Option α) := fun v =>
  return some ((← Decode.optional d v).getD default)

def Protocols.record : Record Protocols where
  name := "OtlpProtocols"
  initial := {}
  fields := [
    .of "grpc" (enabled {} GrpcServer.record.decode) fun v s => { s with grpc := v },
    .of "http" (enabled {} HttpServer.record.decode) fun v s => { s with http := v }]

/-- The receiver for the collector's own protocol. -/
structure OtlpReceiver where
  protocols : Protocols := {}
  deriving Inhabited

namespace OtlpReceiver

def record : Record OtlpReceiver where
  name := "OtlpReceiverConfig"
  initial := {}
  fields := [.of "protocols" Protocols.record.decode fun v s => { s with protocols := v }]

def arguments (r : OtlpReceiver) (output : Argument) : Fields :=
  Field.optional "grpc" GrpcServer.block r.protocols.grpc ++
  Field.optional "http" HttpServer.block r.protocols.http ++
  Field.always "output" output

end OtlpReceiver

/-- A receiver for traces. -/
structure ZipkinReceiver where
  endpoint : Option String := none
  parseStringTags : Bool := false
  includeMetadata : Option Bool := none
  tls : Option ServerTls := none
  deriving Inhabited

namespace ZipkinReceiver

def record : Record ZipkinReceiver where
  name := "ZipkinReceiverConfig"
  initial := {}
  fields := [
    .of "endpoint" (Decode.optional Decode.text) fun v s => { s with endpoint := v },
    .of "parse_string_tags" Decode.bool fun v s => { s with parseStringTags := v },
    .of "include_metadata" (Decode.optional Decode.bool) fun v s => { s with includeMetadata := v },
    .of "tls" (Decode.optional ServerTls.record.decode) fun v s => { s with tls := v }]

def arguments (r : ZipkinReceiver) (output : Argument) : Fields :=
  Field.always "endpoint" (.text (r.endpoint.getD "0.0.0.0:9411")) ++
  Field.whenOn "parse_string_tags" r.parseStringTags ++
  Field.optional "include_metadata" .bool r.includeMetadata ++
  Field.optional "tls" ServerTls.block r.tls ++
  Field.always "output" output

end ZipkinReceiver

end AgentConvert.Collector
