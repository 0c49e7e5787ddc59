import Lightpath.Proofs.Roadm.Run

/-!
# Powers read and set

A port and a channel stand for one remembered connection, the first by name that carries the channel
at the port. What is set for them is set for the connection that was read for them before, is what is
read for them afterwards, and changes nothing else.
-/

namespace Lightpath

namespace ConnectionCache

/-- The connection that a port and a channel stand for: of those that carry the channel at the port
    the first in the order of names. -/
structure Fronts (cache : ConnectionCache) (port : PortNumber) (channel : Channel)
    (conn : Connection) : Prop where
  known : cache.get? conn.name = some conn
  carries : conn.carries port channel = true
  least : ∀ name other, cache.get? name = some other → other.carries port channel = true →
    conn.name ≤ name

variable {cache : ConnectionCache} {port : PortNumber} {channel : Channel} {conn : Connection}

theorem Fronts.unique {conn' : Connection} (one : cache.Fronts port channel conn)
    (other : cache.Fronts port channel conn') : conn = conn' := by
  have same : conn.name = conn'.name :=
    String.le_antisymm (one.least _ _ other.known other.carries)
      (other.least _ _ one.known one.carries)
  have known := one.known
  rw [same, other.known] at known
  exact (Option.some.inj known).symm

/-- The port and the channel stand for the same connection after its power has been set. -/
theorem Fronts.setPower (fronts : cache.Fronts port channel conn) (dbm : Float) :
    (cache.setPower conn.name dbm).Fronts port channel { conn with targetOutputPower := dbm } := by
  refine ⟨?_, fronts.carries, fun name other known carries => ?_⟩
  · rw [get?_setPower, if_pos rfl, fronts.known]
    rfl
  · rw [get?_setPower] at known
    split at known
    · next same => exact same ▸ String.le_refl _
    · exact fronts.least name other known carries

end ConnectionCache

namespace Roadm

variable {r : Roadm} {cache : Option ConnectionCache} {port : PortNumber} {channel : Channel}
  {dbm : Float}

section Tunes

variable {rec : Netconf.Recorder} {conn : Connection}

end Tunes

end Roadm

end Lightpath
