import Lightpath.Roadm

/-!
# Making connections and taking them away

`apply` makes the connection of a rule and remembers it; `release` takes a remembered connection
away. Both check all they can before the first edit is sent. A connection is forgotten as soon as
the device has dropped it, even if what lies below it cannot be cleared.
-/

namespace Lightpath.Roadm

/-- Makes the connection of a rule. A node that holds as many connections as it may takes no
    further one. -/
def apply (r : Roadm) (rule : FlowRule) : Action Connection := do
  let xc ← CrossConnect.ofRule rule r.lineNumbers
  let cache ← openCache
  if r.config.maxConnections.toNat ≤ cache.size then
    throw (.capacityExceeded r.device r.config.maxConnections)
  let conn ← r.connection xc
  r.acquire
  r.program (CircuitEdit.creation conn)
  changeCache (·.add conn)
  return conn

/-- Takes the connection of a rule away, as it is remembered. -/
def release (r : Roadm) (rule : FlowRule) : Action Connection := do
  let xc ← CrossConnect.ofRule rule r.lineNumbers
  let built ← r.connection xc
  let cache ← openCache
  match cache.get? built.name with
  | none =>
    throw (.cacheInconsistency r.device ("release of unknown connection " ++ built.name))
  | some conn =>
    r.acquire
    r.program [CircuitEdit.deletion conn.name]
    changeCache (·.erase conn.name)
    r.program (CircuitEdit.clearance conn.names.networks (conn.medias.map (·.name)))
    return conn

/-- Takes away a connection of which only the name is known, and the channels that the name
    tells. -/
def deleteNamed (r : Roadm) (name : String) : Action Unit :=
  match CircuitNames.ofConnection? name with
  | none => throw (.document ("cannot split connection name " ++ name))
  | some names =>
    r.program (CircuitEdit.deletion name :: CircuitEdit.clearance names.networks names.medias)

/-- Takes away the connection of a name. It is forgotten once all of it is gone. -/
def deleteByName (r : Roadm) (name : String) : Action Unit := do
  r.acquire
  let _ ← openCache
  r.deleteNamed name
  changeCache (·.erase name)

/-- Applies rules one after the other and tells which were applied. -/
def applyAll (r : Roadm) : List FlowRule → Action (List FlowRule)
  | [] => return []
  | rule :: rules => do
    let done ← tryCatch (do let _ ← r.apply rule; pure true) fun _ => pure false
    let rest ← r.applyAll rules
    return if done then rule :: rest else rest

/-- Releases rules one after the other and tells which were released. -/
def releaseAll (r : Roadm) : List FlowRule → Action (List FlowRule)
  | [] => return []
  | rule :: rules => do
    let done ← tryCatch (do let _ ← r.release rule; pure true) fun _ => pure false
    let rest ← r.releaseAll rules
    return if done then rule :: rest else rest

end Lightpath.Roadm
