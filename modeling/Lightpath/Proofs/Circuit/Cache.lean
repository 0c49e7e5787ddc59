import Lightpath.Proofs.Circuit.Shape

/-!
# Connections remembered

How the connections that are remembered change, and what holds of all of them.
-/

namespace Lightpath.ConnectionCache

/-- Every connection has a property under its name. -/
def All (P : String → Connection → Prop) (cache : ConnectionCache) : Prop :=
  ∀ name conn, cache.get? name = some conn → P name conn

/-- Every connection is remembered under its own name and has the shape of a built one. -/
def Sound (cache : ConnectionCache) : Prop := cache.All fun name c => c.name = name ∧ c.Shaped

variable {P : String → Connection → Prop} {cache : ConnectionCache}

theorem get?_add (c : Connection) (name : String) :
    (cache.add c).get? name = if c.name = name then some c else cache.get? name :=
  cache.get?_insert c.name name c

theorem get?_setPower (name : String) (dbm : Float) (key : String) :
    (cache.setPower name dbm).get? key =
      if name = key then (cache.get? key).map fun c => { c with targetOutputPower := dbm }
      else cache.get? key :=
  cache.get?_modify name key _

theorem all_empty : All P .empty := fun _ _ found => nomatch found

theorem All.add (all : cache.All P) {c : Connection} (new : P c.name c) : (cache.add c).All P := by
  intro name conn found
  rw [get?_add] at found
  split at found
  · next same =>
    obtain rfl : c = conn := Option.some.inj found
    exact same ▸ new
  · exact all name conn found

theorem All.erase (all : cache.All P) (gone : String) : All P (Table.erase cache gone) := by
  intro name conn found
  rw [Table.get?_erase] at found
  split at found
  · cases found
  · exact all name conn found

theorem All.setPower (all : cache.All P) {dbm : Float}
    (tuned : ∀ name c, P name c → P name { c with targetOutputPower := dbm }) (name : String) :
    (cache.setPower name dbm).All P := by
  intro key conn found
  rw [get?_setPower] at found
  split at found
  · obtain ⟨c, held, rfl⟩ := Option.map_eq_some_iff.1 found
    exact tuned key c (all key c held)
  · exact all key conn found

end Lightpath.ConnectionCache
