import LanShield.BackendSync.FlowDao
import LanShield.BackendSync.OpenPortsFinder
import LanShield.BackendSync.SyncACL
import LanShield.Database.Converters
import LanShield.Library.Json

/-!
# Flows as JSON

`LANFlow` with all its columns, its two ways into a JSON document, and the
documents made of them: the body `syncFlows` posts and the file `exportFlows`
writes.  How the platform prints endpoints, times and UUIDs is left open.
-/

namespace LanShield.Database

open LanShield.Library
open BackendSync (Policy UUID packageNameUnknown)

/-- `LANFlow`. -/
structure LANFlow where
  appId : Option String
  uuid : UUID
  remoteEndpoint : SocketAddress
  localEndpoint : SocketAddress
  transportLayerProtocol : String
  timeStart : Int
  timeEnd : Int
  packetCountEgress : Int
  packetCountIngress : Int
  dataIngress : Int
  dataEgress : Int
  tcpEstablishedReached : Bool
  appliedPolicy : Policy
  protocols : List String
  timeEndAtLastSync : Int
  scheduledForDeletion : Bool
  dpiReport : Option String
  dpiProtocol : Option String
  deriving DecidableEq, Repr

/-- What the platform prints. -/
structure Printing where
  uuidText : UUID → String
  endpointText : SocketAddress → String
  convertMillisToRFC8601 : Int → String

/-- `InetSocketAddress.getPort`. -/
def SocketAddress.port : SocketAddress → Int
  | .resolved endpoint => endpoint.port
  | .unresolved _ port => port

/-- `removePrefix("/")`. -/
def removeSlash (text : String) : String :=
  match text.toList with
  | '/' :: rest => String.ofList rest
  | _ => text

/-- A value of a `JSONObject`; `other` is one that has no type of JSON, by
its text. -/
inductive JSONValue where
  | string (text : String)
  | int (value : Int)
  | long (value : Int)
  | boolean (value : Bool)
  | object (members : List (String × JSONValue))
  | other (text : String)

/-- `JSONObject`, in the order the keys were put. -/
abbrev JSONObject := List (String × JSONValue)

/-- `JSONObject.put` replaces the value of a key that is there. -/
def JSONObject.put (object : JSONObject) (member : String × JSONValue) :
    JSONObject :=
  if object.any fun old => old.1 = member.1 then
    object.map fun old => if old.1 = member.1 then member else old
  else
    object ++ [member]

/-- The object after some calls of `put`. -/
def JSONObject.puts (members : List (String × JSONValue)) : JSONObject :=
  members.foldl JSONObject.put []

private theorem JSONObject.foldl_put {members : List (String × JSONValue)}
    {object : JSONObject}
    (distinct : ((object ++ members).map Prod.fst).Nodup) :
    members.foldl JSONObject.put object = object ++ members := by
  induction members generalizing object with
  | nil => rw [List.append_nil]; rfl
  | cons member rest inductionHypothesis =>
      have new : object.any (fun old => old.1 = member.1) = false := by
        rw [List.any_eq_false]
        intro old inside same
        rw [List.map_append, List.map_cons] at distinct
        have apart := (List.nodup_append.mp distinct).2.2
        exact apart old.1 (List.mem_map_of_mem inside) member.1
          List.mem_cons_self (of_decide_eq_true same)
      rw [List.foldl_cons, JSONObject.put, new, if_neg Bool.false_ne_true,
        inductionHypothesis (by simpa using distinct), List.append_assoc]
      rfl

/-- Different keys stand in the object as they were put. -/
private theorem JSONObject.puts_eq {members : List (String × JSONValue)}
    (distinct : (members.map Prod.fst).Nodup) :
    JSONObject.puts members = members :=
  JSONObject.foldl_put distinct

mutual

/-- The branch of `writeJsonObjectToStream` for a value. -/
def writeJsonValueToStream : JSONValue → List JsonCall
  | .string text => [.value (.string text)]
  | .int value => [.value (.number value)]
  | .long value => [.value (.number value)]
  | .boolean value => [.value (.boolean value)]
  | .object members =>
      .beginObject :: (writeMembersToStream members ++ [.endObject])
  | .other text => [.value (.string text)]

/-- The loop of `writeJsonObjectToStream`. -/
def writeMembersToStream : JSONObject → List JsonCall
  | [] => []
  | (key, value) :: rest =>
      .name key ::
        (writeJsonValueToStream value ++ writeMembersToStream rest)

end

/-- `LANTrafficViewModel.writeJsonObjectToStream`. -/
def writeJsonObjectToStream (object : JSONObject) : List JsonCall :=
  .beginObject :: (writeMembersToStream object ++ [.endObject])

namespace LANFlow

variable (printing : Printing)

/-- What `toJSON` puts for every flow. -/
def members (flow : LANFlow) : List (String × JSONValue) :=
  [("flow_uuid", .other (printing.uuidText flow.uuid)),
    ("app_id", .string (flow.appId.getD packageNameUnknown)),
    ("time_start",
      .string (printing.convertMillisToRFC8601 flow.timeStart)),
    ("time_end", .string (printing.convertMillisToRFC8601 flow.timeEnd)),
    ("remote_ip",
      .string (removeSlash (printing.endpointText flow.remoteEndpoint))),
    ("remote_port", .int flow.remoteEndpoint.port),
    ("local_ip",
      .string (removeSlash (printing.endpointText flow.localEndpoint))),
    ("local_port", .int flow.localEndpoint.port),
    ("transport_layer_protocol", .string flow.transportLayerProtocol),
    ("packet_count_egress", .long flow.packetCountEgress),
    ("data_egress", .long flow.dataEgress),
    ("packet_count_ingress", .long flow.packetCountIngress),
    ("data_ingress", .long flow.dataIngress),
    ("detected_protocols", .string (joinWith ',' flow.protocols)),
    ("time_end_at_last_sync", .long flow.timeEndAtLastSync),
    ("dpi_report", .string (flow.dpiReport.getD "{}")),
    ("dpi_protocol", .string (flow.dpiProtocol.getD ""))]

/-- `toJSON`. -/
def toJSON (flow : LANFlow) : JSONObject :=
  let json := JSONObject.puts (flow.members printing)
  if flow.transportLayerProtocol = "TCP" then
    json.put ("tcp_established_reached", .boolean flow.tcpEstablishedReached)
  else
    json

/-- `writeJson`. -/
def writeJson (flow : LANFlow) : List JsonCall :=
  ([.beginObject,
    .name "flow_uuid", .value (.string (printing.uuidText flow.uuid)),
    .name "app_id",
    .value (.string (flow.appId.getD packageNameUnknown)),
    .name "time_start",
    .value (.string (printing.convertMillisToRFC8601 flow.timeStart)),
    .name "time_end",
    .value (.string (printing.convertMillisToRFC8601 flow.timeEnd)),
    .name "remote_ip",
    .value
      (.string (removeSlash (printing.endpointText flow.remoteEndpoint))),
    .name "remote_port", .value (.number flow.remoteEndpoint.port),
    .name "local_ip",
    .value
      (.string (removeSlash (printing.endpointText flow.localEndpoint))),
    .name "local_port", .value (.number flow.localEndpoint.port),
    .name "transport_layer_protocol",
    .value (.string flow.transportLayerProtocol),
    .name "packet_count_egress", .value (.number flow.packetCountEgress),
    .name "data_egress", .value (.number flow.dataEgress),
    .name "packet_count_ingress", .value (.number flow.packetCountIngress),
    .name "data_ingress", .value (.number flow.dataIngress),
    .name "detected_protocols",
    .value (.string (joinWith ',' flow.protocols)),
    .name "time_end_at_last_sync",
    .value (.number flow.timeEndAtLastSync),
    .name "dpi_report",
    .value (.string (flow.dpiReport.getD "{}")),
    .name "dpi_protocol",
    .value (.string (flow.dpiProtocol.getD ""))] : List JsonCall) ++
    (if flow.transportLayerProtocol = "TCP" then
      [.name "tcp_established_reached",
        .value (.boolean flow.tcpEstablishedReached)]
    else
      []) ++
    [.endObject]

end LANFlow

/-- The body `syncFlows` posts for a batch. -/
def syncFlowsBody (printing : Printing) (appInstallationUUID : String)
    (batch : List LANFlow) : List JsonCall :=
  ([.beginObject, .name "app_installation_uuid",
      .value (.string appInstallationUUID), .name "flows",
      .beginArray] : List JsonCall) ++
    batch.flatMap (LANFlow.writeJson printing) ++ [.endArray, .endObject]

/-- The file `exportFlows` writes, from the pages it has read. -/
def exportFlowsFile (printing : Printing) (deviceSdk : Int) (model : String)
    (pages : List (List LANFlow)) : List JsonCall :=
  ([.beginObject, .name "device_sdk", .value (.number deviceSdk),
      .name "model", .value (.string model), .name "flows",
      .beginArray] : List JsonCall) ++
    (pages.flatMap fun batch =>
      batch.flatMap fun flow =>
        writeJsonObjectToStream (flow.toJSON printing)) ++
    [.endArray, .endObject]

mutual

/-- The value that is written for a value of a `JSONObject`. -/
def JSONValue.toJson : JSONValue → Json
  | .string text => .scalar (.string text)
  | .int value => .scalar (.number value)
  | .long value => .scalar (.number value)
  | .boolean value => .scalar (.boolean value)
  | .object members => .object (membersToJson members)
  | .other text => .scalar (.string text)

def membersToJson : JSONObject → List (String × Json)
  | [] => []
  | (key, value) :: rest => (key, value.toJson) :: membersToJson rest

end

mutual

private theorem writeJsonValueToStream_eq :
    ∀ value : JSONValue,
      writeJsonValueToStream value = value.toJson.calls
  | .string _ => rfl
  | .int _ => rfl
  | .long _ => rfl
  | .boolean _ => rfl
  | .object members => by
      rw [writeJsonValueToStream, writeMembersToStream_eq members,
        JSONValue.toJson, Json.calls]
  | .other _ => rfl

private theorem writeMembersToStream_eq :
    ∀ members : JSONObject,
      writeMembersToStream members =
        Json.membersCalls (membersToJson members)
  | [] => rfl
  | (key, value) :: rest => by
      rw [writeMembersToStream, writeJsonValueToStream_eq value,
        writeMembersToStream_eq rest, membersToJson, Json.membersCalls]

end

/-- `writeJsonObjectToStream` writes the object. -/
private theorem writeJsonObjectToStream_eq (object : JSONObject) :
    writeJsonObjectToStream object =
      (Json.object (membersToJson object)).calls := by
  rw [writeJsonObjectToStream, writeMembersToStream_eq, Json.calls]

namespace LANFlow

variable (printing : Printing)

/-- The JSON object of a flow. -/
def document (flow : LANFlow) : Json :=
  .object (membersToJson (flow.toJSON printing))

/-- No key is put twice. -/
private theorem toJSON_eq (flow : LANFlow) :
    flow.toJSON printing =
      flow.members printing ++
        if flow.transportLayerProtocol = "TCP" then
          [("tcp_established_reached", .boolean flow.tcpEstablishedReached)]
        else
          [] := by
  have distinct :
      ((flow.members printing ++
        [("tcp_established_reached",
          JSONValue.boolean flow.tcpEstablishedReached)]).map
          Prod.fst).Nodup := by
    change (["flow_uuid", "app_id", "time_start", "time_end", "remote_ip",
      "remote_port", "local_ip", "local_port", "transport_layer_protocol",
      "packet_count_egress", "data_egress", "packet_count_ingress",
      "data_ingress", "detected_protocols", "time_end_at_last_sync",
      "dpi_report", "dpi_protocol",
      "tcp_established_reached"] : List String).Nodup
    decide
  have short : ((flow.members printing).map Prod.fst).Nodup := by
    rw [List.map_append] at distinct
    exact (List.nodup_append.mp distinct).1
  rw [toJSON, JSONObject.puts_eq short]
  by_cases tcp : flow.transportLayerProtocol = "TCP"
  · have put := @JSONObject.foldl_put [("tcp_established_reached",
      .boolean flow.tcpEstablishedReached)] _ distinct
    rw [if_pos tcp, if_pos tcp]
    exact put
  · rw [if_neg tcp, if_neg tcp, List.append_nil]

private theorem writeJson_eq (flow : LANFlow) :
    flow.writeJson printing = (flow.document printing).calls := by
  rw [document, toJSON_eq]
  by_cases tcp : flow.transportLayerProtocol = "TCP"
  · rw [writeJson, if_pos tcp, if_pos tcp]
    rfl
  · rw [writeJson, if_neg tcp, if_neg tcp]
    rfl

/-- The streaming equivalent of `toJSON`. -/
private theorem writeJson_eq_writeJsonObjectToStream (flow : LANFlow) :
    flow.writeJson printing =
      writeJsonObjectToStream (flow.toJSON printing) := by
  rw [writeJson_eq, writeJsonObjectToStream_eq, document]

end LANFlow

/-- The columns the upload and its bookkeeping use. -/
def LANFlow.counted (flow : LANFlow) : BackendSync.LANFlow where
  appId := flow.appId
  uuid := flow.uuid
  transportLayerProtocol := flow.transportLayerProtocol
  timeEnd := flow.timeEnd
  packetCountEgress := flow.packetCountEgress
  packetCountIngress := flow.packetCountIngress
  dataIngress := flow.dataIngress
  dataEgress := flow.dataEgress
  tcpEstablishedReached := flow.tcpEstablishedReached
  timeEndAtLastSync := flow.timeEndAtLastSync
  scheduledForDeletion := flow.scheduledForDeletion
  dpiReport := flow.dpiReport
  dpiProtocol := flow.dpiProtocol

/-- The counters, the flag and the results of packet inspection in an
object. -/
def readReport (object : JSONObject) : Option BackendSync.LANFlow.Report :=
  match object.lookup "packet_count_egress", object.lookup "data_egress",
    object.lookup "packet_count_ingress", object.lookup "data_ingress",
    object.lookup "dpi_report", object.lookup "dpi_protocol",
    object.lookup "tcp_established_reached" with
  | some (.long packetCountEgress), some (.long dataEgress),
    some (.long packetCountIngress), some (.long dataIngress),
    some (.string dpiReport), some (.string dpiProtocol), flag =>
      some
        { packetCountEgress, dataEgress, packetCountIngress, dataIngress,
          dpiReport, dpiProtocol
          tcpEstablishedReached :=
            match flag with
            | some (.boolean reached) => some reached
            | _ => none }
  | _, _, _, _, _, _, _ => none

/-- The report of the counted columns is in the object of the flow. -/
theorem readReport_toJSON (printing : Printing) (flow : LANFlow) :
    readReport (flow.toJSON printing) = some flow.counted.writeJson := by
  rw [LANFlow.toJSON_eq, BackendSync.LANFlow.writeJson]
  by_cases tcp : flow.transportLayerProtocol = "TCP"
  · have same : flow.counted.transportLayerProtocol = "TCP" := tcp
    rw [if_pos tcp, if_pos same]
    rfl
  · have same : flow.counted.transportLayerProtocol ≠ "TCP" := tcp
    rw [if_neg tcp, if_neg same]
    rfl

/-- What `syncFlows` posts and what `exportFlows` writes are whole documents,
whatever the batch and the pages are, with the same object for a flow. -/
theorem flow_documents (printing : Printing) (appInstallationUUID : String)
    (batch : List LANFlow) (deviceSdk : Int) (model : String)
    (pages : List (List LANFlow)) :
    Json.Writes (syncFlowsBody printing appInstallationUUID batch)
        (.object
          [("app_installation_uuid", .scalar (.string appInstallationUUID)),
            ("flows", .array (batch.map (LANFlow.document printing)))]) ∧
      Json.Writes (exportFlowsFile printing deviceSdk model pages)
        (.object
          [("device_sdk", .scalar (.number deviceSdk)),
            ("model", .scalar (.string model)),
            ("flows",
              .array (pages.flatten.map (LANFlow.document printing)))]) := by
  have elements (flows : List LANFlow) :
      Json.elementsCalls (flows.map (LANFlow.document printing)) =
        flows.flatMap (LANFlow.writeJson printing) := by
    rw [Json.elementsCalls_eq, List.flatMap_map]
    exact List.flatMap_congr fun flow _ =>
      (LANFlow.writeJson_eq printing flow).symm
  constructor
  · have body :
        syncFlowsBody printing appInstallationUUID batch =
          (Json.object
            [("app_installation_uuid",
                .scalar (.string appInstallationUUID)),
              ("flows",
                .array (batch.map (LANFlow.document printing)))]).calls := by
      simp only [syncFlowsBody, Json.calls, Json.membersCalls, elements]
      simp
    rw [body]
    exact Json.writes_calls rfl
  · have file :
        exportFlowsFile printing deviceSdk model pages =
          (Json.object
            [("device_sdk", .scalar (.number deviceSdk)),
              ("model", .scalar (.string model)),
              ("flows",
                .array
                  (pages.flatten.map
                    (LANFlow.document printing)))]).calls := by
      have streamed :
          (pages.flatMap fun batch =>
            batch.flatMap fun flow =>
              writeJsonObjectToStream (flow.toJSON printing)) =
            pages.flatten.flatMap (LANFlow.writeJson printing) := by
        simp only [← LANFlow.writeJson_eq_writeJsonObjectToStream]
        rw [List.flatMap_def, List.flatMap_def, List.map_flatten,
          List.flatten_flatten, List.map_map]
        rfl
      simp only [exportFlowsFile, Json.calls, Json.membersCalls, elements,
        streamed]
      simp
    rw [file]
    exact Json.writes_calls rfl

end LanShield.Database
