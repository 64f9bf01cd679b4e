/-
CaiNetwork/Events/State.lean

The state that every node of the cluster derives from the master's events (`state.py`,
`topology.py`, `apply.py`).

A value that no event looks into is carried as the text it is serialised to (`Dump`).  What the
code takes from the Python process is collected in `Process`: the readers of dates and addresses,
the cycle finder of `rustworkx`, and the order in which the process runs over a set of texts,
which is not the same in two processes.
-/

import Mathlib.Data.List.Sort
import CaiNetwork.Table

namespace CaiNetwork.Cluster

abbrev NodeId := String

/-- A value in its serialised form. -/
abbrev Dump := String

/-! ### Dictionaries -/

/-- A dictionary, in insertion order. -/
abbrev Dict (V : Type) := List (String × V)

/-- `{**d, k: v}`. -/
def Dict.set {V : Type} (d : Dict V) (k : String) (v : V) : Dict V :=
  Table.upsert Prod.fst (k, v) d

/-- `{key: value for key, value in d.items() if key != k}`. -/
def Dict.without {V : Type} (d : Dict V) (k : String) : Dict V :=
  d.filter (fun entry => entry.1 ≠ k)

/-! ### Topology -/

/-- `RDMAConnection | SocketConnection`. -/
inductive Edge where
  | rdma (sourceIface sinkIface : String)
  | socket (sinkMultiaddr : String)
deriving DecidableEq

def Edge.isRdma : Edge → Bool
  | .rdma _ _ => true
  | .socket _ => false

/-- `Connection`. -/
structure Connection where
  source : NodeId
  sink : NodeId
  edge : Edge
deriving DecidableEq

/-- `Topology`: the nodes and edges of the graph.  Both are listed in the order of insertion;
`rustworkx` gives a freed index to the next one, so after a removal its order is another. -/
structure Topology where
  nodes : List NodeId := []
  connections : List Connection := []
deriving DecidableEq

namespace Topology

/-- `Topology.add_node`. -/
def addNode (topology : Topology) (nodeId : NodeId) : Topology :=
  if nodeId ∈ topology.nodes then topology
  else { topology with
    nodes := topology.nodes ++ [nodeId] }

/-- `Topology.add_connection`. -/
def addConnection (topology : Topology) (conn : Connection) : Topology :=
  if conn ∈ topology.connections then topology
  else
    let grown := (topology.addNode conn.source).addNode conn.sink
    { grown with
      connections := grown.connections ++ [conn] }

/-- `Topology.remove_node`; the graph drops the edges of the node with it. -/
def removeNode (topology : Topology) (nodeId : NodeId) : Topology where
  nodes := topology.nodes.filter (· ≠ nodeId)
  connections := topology.connections.filter (fun c => c.source ≠ nodeId ∧ c.sink ≠ nodeId)

/-- `Topology.replace_all_out_rdma_connections`. -/
def replaceAllOutRdmaConnections (topology : Topology) (source : NodeId)
    (newConnections : List Connection) : Topology :=
  newConnections.foldl addConnection { topology with
    connections := topology.connections.filter (fun c => ¬(c.source = source ∧ c.edge.isRdma)) }

/-- `Topology.remove_connection`. -/
def removeConnection (topology : Topology) (conn : Connection) : Topology :=
  { topology with
    connections := topology.connections.filter (· ≠ conn) }

end Topology

/-! ### The state -/

/-- A `datetime`: its microseconds, and whether it knows its offset from UTC. -/
structure Instant where
  micros : Int
  aware : Bool
deriving DecidableEq

/-- `TaskStatus`. -/
inductive TaskStatus where
  | pending | running | complete | timedOut | failed | cancelled
deriving DecidableEq

/-- `Task`. -/
structure Task where
  taskStatus : TaskStatus := .pending
  errorType : Option String := none
  errorMessage : Option String := none
  details : Dump
deriving DecidableEq

/-- `Instance`. -/
structure Instance where
  instanceId : String
  details : Dump
deriving DecidableEq

/-- `RunnerStatus`. -/
inductive RunnerStatus where
  | idle | connecting | connected
  | loading (layersLoaded totalLayers : Int)
  | loaded | warmingUp | ready | running | shuttingDown | shutdown
  | failed (errorMessage : Option String)
deriving DecidableEq

/-- `DownloadProgress`. -/
structure DownloadProgress where
  nodeId : NodeId
  modelId : String
  details : Dump
deriving DecidableEq

/-- `AdvertisedTransportEndpoint.route_type`. -/
inductive RouteType where
  | direct | overlay | relay
deriving DecidableEq

/-- `AdvertisedTransportEndpoint`. -/
structure TransportEndpoint where
  purpose : String
  routeType : RouteType
  host : String
  port : Option Int := none
  source : Option String := none
  interfaceName : Option String := none
deriving DecidableEq

/-- `NodeIdentity`. -/
structure NodeIdentity where
  modelId : String := "Unknown"
  chipId : String := "Unknown"
  friendlyName : String := "Unknown"
  osVersion : String := "Unknown"
  osBuildVersion : String := "Unknown"
  cpuPhysicalCores : Option Int := none
  cpuLogicalCores : Option Int := none
  totalVramBytes : Option Int := none
  apiHost : Option String := none
  apiPort : Option Int := none
  dataHost : Option String := none
  dataPort : Option Int := none
  transportEndpoints : List TransportEndpoint := []
  workerEnabled : Option Bool := none
  relayEnabled : Option Bool := none
  workerRewardAddress : Option String := none
  nodePublicKeyB64 : Option String := none
  nodePublicKeyAddress : Option String := none
  readiness : Dump := "{}"
deriving DecidableEq

/-- `NetworkInterfaceInfo.interface_type`. -/
inductive InterfaceType where
  | wifi | ethernet | maybeEthernet | thunderbolt | unknown
deriving DecidableEq

/-- `NetworkInterfaceInfo`. -/
structure NetworkInterface where
  name : String
  ipAddress : String
  interfaceType : InterfaceType := .unknown
deriving DecidableEq

/-- `ThunderboltIdentifier`. -/
structure ThunderboltIdentifier where
  rdmaInterface : String
  domainUuid : String
  linkSpeed : String := ""
deriving DecidableEq

/-- `ThunderboltBridgeStatus`. -/
structure BridgeStatus where
  enabled : Bool
  bridgeExists : Bool
  serviceName : Option String := none
deriving DecidableEq

/-- `State`. -/
structure State where
  instances : Dict Instance := []
  runners : Dict RunnerStatus := []
  downloads : Dict (List DownloadProgress) := []
  tasks : Dict Task := []
  lastSeen : Dict Instant := []
  overlayPeers : Dict (List NodeId) := []
  overlayAdvertisedPeers : Dict (List String) := []
  topology : Topology := {}
  lastEventAppliedIdx : Int := -1
  nodeIdentities : Dict NodeIdentity := []
  nodeMemory : Dict Dump := []
  nodeDisk : Dict Dump := []
  nodeSystem : Dict Dump := []
  nodeNetwork : Dict (List NetworkInterface) := []
  nodeThunderbolt : Dict (List ThunderboltIdentifier) := []
  nodeThunderboltBridge : Dict BridgeStatus := []
  nodeRdmaCtl : Dict Bool := []
  thunderboltBridgeCycles : List (List NodeId) := []
deriving DecidableEq

/-! ### Events -/

/-- `GatheredInfo`. -/
inductive GatheredInfo where
  | macmonMetrics (systemProfile memory : Dump)
  | psutilSystemMetrics (systemProfile : Dump)
  | memoryUsage (memory : Dump)
  | nodeNetworkInterfaces (ifaces : List NetworkInterface)
  | macThunderboltIdentifiers (idents : List ThunderboltIdentifier)
  | macThunderboltConnections (conns : List (String × String))
  | rdmaCtlStatus (enabled : Bool)
  | thunderboltBridgeInfo (status : BridgeStatus)
  | nodeConfig (config : Dump)
  | workerStateInfo (workerEnabled relayEnabled : Bool)
      (workerRewardAddress nodePublicKeyB64 nodePublicKeyAddress : Option String)
      (readiness : Dump)
  | miscData (friendlyName : String)
  | apiEndpointInfo (host : Option String) (port : Int) (dataHost : Option String)
      (dataPort : Option Int) (transportEndpoints : List TransportEndpoint)
  | staticNodeInformation (model chip osVersion osBuildVersion : String)
      (cpuPhysicalCores cpuLogicalCores totalVramBytes : Option Int)
  | nodeDiskUsage (diskUsage : Dump)
deriving DecidableEq

/-- What an event says. -/
inductive EventBody where
  | testEvent
  | taskCreated (taskId : String) (task : Task)
  | taskStatusUpdated (taskId : String) (taskStatus : TaskStatus)
  | taskFailed (taskId errorType errorMessage : String)
  | taskDeleted (taskId : String)
  | taskAcknowledged (taskId : String)
  | instanceCreated (inst : Instance)
  | instanceDeleted (instanceId : String)
  | runnerStatusUpdated (runnerId : String) (runnerStatus : RunnerStatus)
  | nodeTimedOut (nodeId : NodeId)
  | nodeGatheredInfo (nodeId : NodeId) (when_ : String) (info : GatheredInfo)
  | nodeDownloadProgress (downloadProgress : DownloadProgress)
  | chunkGenerated (commandId : String) (chunk : Dump)
  | inputChunkReceived (commandId : String) (chunk : Dump)
  | topologyEdgeCreated (conn : Connection)
  | topologyEdgeDeleted (conn : Connection)
  | overlayPeerConnected (localNodeId remoteNodeId : NodeId)
  | overlayPeerDisconnected (localNodeId remoteNodeId : NodeId)
  | overlayBootstrapPeersAdvertised (nodeId : NodeId) (peers : List String)
  | tracesCollected (taskId : String) (rank : Int) (traces : Dump)
  | tracesMerged (taskId : String) (traces : Dump)
  | customModelCardAdded (modelCard : Dump)
  | customModelCardDeleted (modelId : String)
deriving DecidableEq

/-- `Event`. -/
structure Event where
  eventId : String
  body : EventBody
deriving DecidableEq

/-- `IndexedEvent`. -/
structure IndexedEvent where
  idx : ℕ
  event : Event
deriving DecidableEq

/-! ### The process -/

/-- What the code takes from the process it runs in. -/
structure Process where
  /-- `datetime.fromisoformat`; nothing where it raises. -/
  fromisoformat : String → Option Instant
  /-- `Multiaddr.ip_address`; nothing where it raises. -/
  ipAddress : String → Option String
  /-- `rx.simple_cycles` of a new graph with these nodes and edges, added in this order. -/
  simpleCycles : List NodeId → List (NodeId × NodeId) → List (List NodeId)
  /-- The order in which the process runs over the set of these texts. -/
  setOrder : List NodeId → List NodeId

variable (process : Process) (nodeId : NodeId)

/-! ### Thunderbolt cycles -/

/-- `_get_ips_with_interface_type(node_ids, node_network, "thunderbolt")`. -/
def thunderboltIps (nodeIds : List NodeId) (nodeNetwork : Dict (List NetworkInterface)) :
    List String :=
  nodeIds.flatMap fun nodeId =>
    (((nodeNetwork.lookup nodeId).getD []).filter (·.interfaceType = .thunderbolt)).map
      (·.ipAddress)

/-- Whether the edge counts for cycles: every RDMA connection, and a socket whose address is
one of a thunderbolt interface. -/
def overThunderbolt (ips : List String) : Edge → Option Bool
  | .rdma _ _ => some true
  | .socket address => (process.ipAddress address).map (fun ip => decide (ip ∈ ips))

/-- The edges of the graph among the given nodes that count, with their ends. -/
def thunderboltEdges (process : Process) (nodes : List NodeId) (ips : List String) :
    List Connection → Option (List (NodeId × NodeId))
  | [] => some []
  | conn :: conns =>
    if conn.source ∉ nodes ∨ conn.sink ∉ nodes then thunderboltEdges process nodes ips conns
    else do
      let counts ← overThunderbolt process ips conn.edge
      let rest ← thunderboltEdges process nodes ips conns
      pure (if counts then (conn.source, conn.sink) :: rest else rest)

/-- `Topology.get_thunderbolt_bridge_cycles`. -/
def getThunderboltBridgeCycles (topology : Topology)
    (bridges : Dict BridgeStatus) (nodeNetwork : Dict (List NetworkInterface)) :
    Option (List (List NodeId)) := do
  let enabledNodes := (bridges.filter (fun entry => entry.2.enabled)).map Prod.fst
  if enabledNodes.length < 2 then pure []
  else
    let ips := thunderboltIps enabledNodes nodeNetwork
    let nodes := (process.setOrder enabledNodes).filter (· ∈ topology.nodes)
    let edges ← thunderboltEdges process nodes ips topology.connections
    pure ((process.simpleCycles nodes edges).filter (fun cycle => 2 ≤ cycle.length))

/-! ### Applying events -/

/-- `_dedupe_transport_endpoints`; the key of an endpoint has all its fields. -/
def dedupeTransportEndpoints (endpoints : List TransportEndpoint) : List TransportEndpoint :=
  endpoints.foldl
    (fun deduped endpoint => if endpoint ∈ deduped then deduped else deduped ++ [endpoint]) []

/-- `_normalized_transport_endpoints`; an empty list of endpoints counts as none. -/
def normalizedTransportEndpoints (currentIdentity : NodeIdentity)
    (endpoints : List TransportEndpoint) (relayEnabled : Option Bool) : List TransportEndpoint :=
  let given := if endpoints = [] then currentIdentity.transportEndpoints else endpoints
  let base := given.filter (fun endpoint => endpoint.routeType ≠ .relay)
  if relayEnabled.getD (currentIdentity.relayEnabled.getD false) then
    dedupeTransportEndpoints (base ++ base.map (fun endpoint => { endpoint with
      routeType := .relay }))
  else dedupeTransportEndpoints base

/-- `apply_node_download_progress`. -/
def applyNodeDownloadProgress (dp : DownloadProgress) (state : State) : State :=
  let current := (state.downloads.lookup dp.nodeId).getD []
  { state with
    downloads := state.downloads.set dp.nodeId (Table.upsert DownloadProgress.modelId dp current) }

/-- `apply_task_status_updated`. -/
def applyTaskStatusUpdated (taskId : String) (taskStatus : TaskStatus) (state : State) : State :=
  match state.tasks.lookup taskId with
  | none => state
  | some task =>
    let updated := { task with
      taskStatus
      errorType := if taskStatus ≠ .failed then none else task.errorType
      errorMessage := if taskStatus ≠ .failed then none else task.errorMessage }
    { state with
      tasks := state.tasks.set taskId updated }

/-- `apply_task_failed`. -/
def applyTaskFailed (taskId errorType errorMessage : String) (state : State) : State :=
  match state.tasks.lookup taskId with
  | none => state
  | some task =>
    { state with
      tasks := state.tasks.set taskId { task with
        errorType := some errorType
        errorMessage := some errorMessage } }

/-- `apply_runner_status_updated`. -/
def applyRunnerStatusUpdated (runnerId : String) (runnerStatus : RunnerStatus) (state : State) :
    State :=
  if runnerStatus = .shutdown then
    { state with
      runners := state.runners.without runnerId }
  else
    { state with
      runners := state.runners.set runnerId runnerStatus }

/-- `apply_node_timed_out`. -/
def applyNodeTimedOut (state : State) : Option State := do
  let topology := state.topology.removeNode nodeId
  let nodeNetwork := state.nodeNetwork.without nodeId
  let nodeThunderboltBridge := state.nodeThunderboltBridge.without nodeId
  let hadBridge := ((state.nodeThunderboltBridge.lookup nodeId).map (·.enabled)).getD false
  let cycles ←
    if hadBridge then
      getThunderboltBridgeCycles process topology nodeThunderboltBridge nodeNetwork
    else pure state.thunderboltBridgeCycles
  pure { state with
    downloads := state.downloads.without nodeId
    topology
    lastSeen := state.lastSeen.without nodeId
    nodeIdentities := state.nodeIdentities.without nodeId
    nodeMemory := state.nodeMemory.without nodeId
    nodeDisk := state.nodeDisk.without nodeId
    nodeSystem := state.nodeSystem.without nodeId
    nodeNetwork
    nodeThunderbolt := state.nodeThunderbolt.without nodeId
    nodeThunderboltBridge
    nodeRdmaCtl := state.nodeRdmaCtl.without nodeId
    overlayPeers := (state.overlayPeers.filter (fun entry =>
      entry.1 ≠ nodeId ∧ entry.2.any (· ≠ nodeId))).map
        (fun entry => (entry.1, entry.2.filter (· ≠ nodeId)))
    overlayAdvertisedPeers := state.overlayAdvertisedPeers.without nodeId
    thunderboltBridgeCycles := cycles }

/-- The identity of a node, the default one when it has none, changed. -/
def updateIdentity (change : NodeIdentity → NodeIdentity) (state : State) :
    State :=
  { state with
    nodeIdentities := state.nodeIdentities.set nodeId
      (change ((state.nodeIdentities.lookup nodeId).getD {})) }

/-- `conn_map` of `apply_node_gathered_info`: the node and interface of a domain; a later
entry of the same domain replaces an earlier one. -/
def connMap (nodeThunderbolt : Dict (List ThunderboltIdentifier)) : Dict (NodeId × String) :=
  nodeThunderbolt.foldl (fun connMap entry =>
    entry.2.foldl (fun connMap ident =>
      connMap.set ident.domainUuid (entry.1, ident.rdmaInterface)) connMap) []

/-- `as_rdma_conns` of `apply_node_gathered_info`. -/
def asRdmaConns (connMap : Dict (NodeId × String))
    (conns : List (String × String)) : List Connection :=
  conns.filterMap fun conn => do
    let source ← connMap.lookup conn.1
    let sink ← connMap.lookup conn.2
    pure { source := nodeId, sink := sink.1, edge := .rdma source.2 sink.2 }

/-- The `match info` of `apply_node_gathered_info`, on a state that has the node. -/
def applyInfo (info : GatheredInfo) (state : State) :
    Option State :=
  match info with
  | .macmonMetrics systemProfile memory => some { state with
      nodeSystem := state.nodeSystem.set nodeId systemProfile
      nodeMemory := state.nodeMemory.set nodeId memory }
  | .psutilSystemMetrics systemProfile => some { state with
      nodeSystem := state.nodeSystem.set nodeId systemProfile }
  | .memoryUsage memory => some { state with
      nodeMemory := state.nodeMemory.set nodeId memory }
  | .nodeDiskUsage diskUsage => some { state with
      nodeDisk := state.nodeDisk.set nodeId diskUsage }
  | .nodeConfig _ => some state
  | .miscData friendlyName => some <| updateIdentity nodeId (fun identity => { identity with
      friendlyName }) state
  | .apiEndpointInfo host port dataHost dataPort transportEndpoints =>
    some <| updateIdentity nodeId (fun identity => { identity with
      apiHost := host
      apiPort := some port
      dataHost
      dataPort
      transportEndpoints := normalizedTransportEndpoints identity transportEndpoints none }) state
  | .staticNodeInformation model chip osVersion osBuildVersion cpuPhysicalCores cpuLogicalCores
      totalVramBytes =>
    some <| updateIdentity nodeId (fun identity => { identity with
      modelId := model
      chipId := chip
      osVersion
      osBuildVersion
      cpuPhysicalCores
      cpuLogicalCores
      totalVramBytes }) state
  | .workerStateInfo workerEnabled relayEnabled workerRewardAddress nodePublicKeyB64
      nodePublicKeyAddress readiness =>
    some <| updateIdentity nodeId (fun identity => { identity with
      workerEnabled := some workerEnabled
      relayEnabled := some relayEnabled
      workerRewardAddress
      nodePublicKeyB64
      nodePublicKeyAddress
      readiness
      transportEndpoints := normalizedTransportEndpoints identity [] (some relayEnabled) }) state
  | .nodeNetworkInterfaces ifaces => some { state with
      nodeNetwork := state.nodeNetwork.set nodeId ifaces }
  | .macThunderboltIdentifiers idents => some { state with
      nodeThunderbolt := state.nodeThunderbolt.set nodeId idents }
  | .macThunderboltConnections conns => some { state with
      topology := state.topology.replaceAllOutRdmaConnections nodeId
        (asRdmaConns nodeId (connMap state.nodeThunderbolt) conns) }
  | .thunderboltBridgeInfo status =>
    let bridges := state.nodeThunderboltBridge.set nodeId status
    let oldEnabled := ((state.nodeThunderboltBridge.lookup nodeId).map (·.enabled)).getD false
    if oldEnabled ≠ status.enabled then do
      let cycles ← getThunderboltBridgeCycles process state.topology bridges state.nodeNetwork
      pure { state with
        nodeThunderboltBridge := bridges
        thunderboltBridgeCycles := cycles }
    else some { state with
      nodeThunderboltBridge := bridges }
  | .rdmaCtlStatus enabled => some { state with
      nodeRdmaCtl := state.nodeRdmaCtl.set nodeId enabled }

/-- `apply_node_gathered_info`. -/
def applyNodeGatheredInfo (when_ : String)
    (info : GatheredInfo) (state : State) : Option State := do
  let seen ← process.fromisoformat when_
  applyInfo process nodeId info { state with
    lastSeen := state.lastSeen.set nodeId seen
    topology := state.topology.addNode nodeId }

/-- One direction of `apply_overlay_peer_connected`. -/
def addOverlayPeer (overlayPeers : Dict (List NodeId)) (source sink : NodeId) :
    Dict (List NodeId) :=
  let current := (overlayPeers.lookup source).getD []
  overlayPeers.set source
    (if sink ∈ current then current else (current ++ [sink]).mergeSort (· ≤ ·))

/-- One direction of `apply_overlay_peer_disconnected`. -/
def removeOverlayPeer (overlayPeers : Dict (List NodeId)) (source sink : NodeId) :
    Dict (List NodeId) :=
  let current := ((overlayPeers.lookup source).getD []).filter (· ≠ sink)
  if current = [] then overlayPeers.without source else overlayPeers.set source current

/-- `event_apply`. -/
def eventApply (event : Event) (state : State) : Option State :=
  match event.body with
  | .testEvent | .chunkGenerated _ _ | .taskAcknowledged _ | .inputChunkReceived _ _
  | .tracesCollected _ _ _ | .tracesMerged _ _ | .customModelCardAdded _
  | .customModelCardDeleted _ => some state
  | .instanceCreated inst => some { state with
      instances := state.instances.set inst.instanceId inst }
  | .instanceDeleted instanceId => some { state with
      instances := state.instances.without instanceId }
  | .nodeTimedOut nodeId => applyNodeTimedOut process nodeId state
  | .nodeDownloadProgress dp => some (applyNodeDownloadProgress dp state)
  | .nodeGatheredInfo nodeId when_ info => applyNodeGatheredInfo process nodeId when_ info state
  | .runnerStatusUpdated runnerId runnerStatus =>
    some (applyRunnerStatusUpdated runnerId runnerStatus state)
  | .taskCreated taskId task => some { state with
      tasks := state.tasks.set taskId task }
  | .taskDeleted taskId => some { state with
      tasks := state.tasks.without taskId }
  | .taskFailed taskId errorType errorMessage =>
    some (applyTaskFailed taskId errorType errorMessage state)
  | .taskStatusUpdated taskId taskStatus =>
    some (applyTaskStatusUpdated taskId taskStatus state)
  | .topologyEdgeCreated conn => some { state with
      topology := state.topology.addConnection conn }
  | .topologyEdgeDeleted conn => some { state with
      topology := state.topology.removeConnection conn }
  | .overlayPeerConnected localNodeId remoteNodeId => some { state with
      overlayPeers := addOverlayPeer (addOverlayPeer state.overlayPeers localNodeId remoteNodeId)
        remoteNodeId localNodeId }
  | .overlayPeerDisconnected localNodeId remoteNodeId => some { state with
      overlayPeers := removeOverlayPeer
        (removeOverlayPeer state.overlayPeers localNodeId remoteNodeId) remoteNodeId localNodeId }
  | .overlayBootstrapPeersAdvertised nodeId peers => some { state with
      overlayAdvertisedPeers := state.overlayAdvertisedPeers.set nodeId peers }

/-- `apply`. -/
def apply (state : State) (event : IndexedEvent) : Option State :=
  if state.lastEventAppliedIdx = (event.idx : Int) - 1 then do
    let newState ← eventApply process event.event state
    pure { newState with
      lastEventAppliedIdx := event.idx }
  else none

end CaiNetwork.Cluster
