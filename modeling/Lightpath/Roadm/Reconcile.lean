import Lightpath.Roadm.Provision

/-!
# Reconciliation

What a node says to be connected is compared with what is remembered. Connections that are
remembered become flow entries; those that are not belong to nobody and are taken away.
-/

namespace Lightpath.Roadm

/-- The rule that a remembered connection was made for, as far as the device can tell: the channel
    is found from the center and the width that were programmed. -/
def rebuild (r : Roadm) (conn : Connection) : Except Error FlowRule := do
  let channel ← Channel.around conn.sourceNetwork.center conn.sourceNetwork.width
  return {
    device := r.device
    inPort := conn.inPort
    outPort := some conn.outPort
    channel := some channel
    signalType := some .fixedGrid
    priority := conn.priority
    cookie := conn.cookie }

/-- The name of a connection that the device lists. -/
def listedName? (node : Document) : Option String :=
  (node.member? CircuitEdit.connectionNameKey).bind Document.leaf?

/-- Goes through the connections that the device lists. What cannot be taken away is left for the
    next time. -/
def reconcileNodes (r : Roadm) (cache : ConnectionCache) : List Document → Action (List FlowEntry)
  | [] => return []
  | node :: nodes =>
    match listedName? node with
    | none => r.reconcileNodes cache nodes
    | some name =>
      match cache.get? name with
      | some conn => do
        let entries ← r.reconcileNodes cache nodes
        match r.rebuild conn with
        | .ok rule => return .added rule :: entries
        | .error _ => return entries
      | none => do
        tryCatch (r.deleteNamed name) fun _ => return
        r.reconcileNodes cache nodes

/-- Compares the connections on the device with those remembered. -/
def reconcile (r : Roadm) : Action (List FlowEntry) := do
  r.acquire
  let cache ← openCache
  let reply ← r.ask (Netconf.Session.getConfig r.config.datastore CircuitEdit.connectionsFilter)
  r.reconcileNodes cache (reply.nodesAt (CircuitEdit.replyPath CircuitEdit.connectionsKey))

/-- The flow entries of a reconciliation; none if the device cannot be read. -/
def flowEntries (r : Roadm) : Action (List FlowEntry) :=
  tryCatch r.reconcile fun _ => return []

end Lightpath.Roadm
