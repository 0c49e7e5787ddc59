import Lightpath.FlowRule

/-!
# Why an operation fails

The causes for which programming or asking a device fails, and their wording.
-/

namespace Lightpath

/-- Why an operation on a device fails. -/
inductive Error where
  /-- Neither port of a rule faces a neighbouring node. -/
  | invalidTopology (inPort outPort : PortNumber)
  /-- The window of a channel has a width of no supported grid. -/
  | unsupportedChannelWidth (width : Frequency)
  /-- The device holds as many connections as it may. -/
  | capacityExceeded (device : DeviceId) (limit : UInt64)
  /-- A remote operation failed, or the device refused it. -/
  | transport (operation message : String)
  /-- The connections remembered and the request do not fit together. -/
  | cacheInconsistency (device : DeviceId) (message : String)
  /-- The device cannot be reached. -/
  | noSession (device : DeviceId)
  /-- A rule lacks what is needed to program it. -/
  | invalidFlowRule (message : String)
  /-- The inventory has no such port. -/
  | portNotFound (device : DeviceId) (port : PortNumber)
  /-- A port lacks an annotation from which names are made. -/
  | portMetadata (port : PortNumber) (key : String)
  /-- No port number can be made from the name of a port. -/
  | invalidPortName (name : String)
  /-- A configuration value is refused. -/
  | invalidConfig (field message : String)
  /-- The operation does not exist for the device. -/
  | unsupported (message : String)
  /-- A text writes no value. -/
  | parse (cause : ParseError)
  /-- A document is malformed. -/
  | document (message : String)
deriving DecidableEq, Repr, Inhabited

namespace Error

/-- The wording of the cause. -/
def message : Error → String
  | invalidTopology inPort outPort =>
    "Invalid topology: in-port " ++ inPort.display ++ " / out-port " ++ outPort.display ++
      " match no link type"
  | unsupportedChannelWidth width =>
    "Unsupported channel width " ++ width.ghz ++ " GHz (only 50 and 100 GHz are supported)"
  | capacityExceeded device limit =>
    "Connection capacity exceeded on " ++ device.name ++ ": " ++ toString limit.toNat ++
      " live connections"
  | transport operation message =>
    "Transport operation failed: " ++ operation ++ ": " ++ message
  | cacheInconsistency device message =>
    "Cache inconsistency on " ++ device.name ++ ": " ++ message
  | noSession device => "No session available for device " ++ device.name
  | invalidFlowRule message => "Invalid flow rule: " ++ message
  | portNotFound device port => "Port " ++ port.display ++ " not found on " ++ device.name
  | portMetadata port key => "Port " ++ port.display ++ " is missing annotation '" ++ key ++ "'"
  | invalidPortName name => "Unsupported port name '" ++ name ++ "'"
  | invalidConfig field message => "Invalid configuration for " ++ field ++ ": " ++ message
  | unsupported message => "Unsupported operation: " ++ message
  | parse cause => cause.message
  | document message => "Malformed document: " ++ message

/-- Whether the same request may succeed later. -/
def isRetryable : Error → Bool
  | transport .. => true
  | noSession .. => true
  | _ => false

end Error

end Lightpath
