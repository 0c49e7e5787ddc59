import Lightpath.Error

/-!
# Port numbers made from port names

Devices name their ports by role and place. `ext-txN`, `ext-rxN`, `int-txN` and `int-rxN` get the
numbers 300 + N, 400 + N, 500 + N and 600 + N, and a port `N-M` gets 100 · N + M.
-/

namespace Lightpath.PortNumber

/-- The roles of numbered ports, each with the number that its ports are counted from. -/
def roleBases : List (List Char × Nat) :=
  [("ext-tx".toList, 300), ("ext-rx".toList, 400), ("int-tx".toList, 500), ("int-rx".toList, 600)]

/-- A run of digits with a value that fits a word. -/
def field? (cs : List Char) : Option Nat :=
  match Text.natural? cs with
  | some n => if n < UInt64.size then some n else none
  | none => none

/-- The number of a port named by its role. -/
def ofRole? (cs : List Char) : List (List Char × Nat) → Option Nat
  | [] => none
  | (role, base) :: rest =>
    match Text.dropHead? role cs with
    | some digits => (field? digits).map (· + base)
    | none => ofRole? cs rest

/-- The number of a port named by its place. -/
def ofPlace? (cs : List Char) : Option Nat :=
  match Text.cutAt? ['-'] cs with
  | some (pack, place) =>
    match field? pack, field? place with
    | some n, some m => some (100 * n + m)
    | _, _ => none
  | none => none

/-- The number of a port of this name. -/
def ofName (name : String) : Except Error PortNumber :=
  match ofRole? name.toList roleBases <|> ofPlace? name.toList with
  | some n => if n < UInt64.size then .ok ⟨UInt64.ofNat n⟩ else .error (.invalidPortName name)
  | none => .error (.invalidPortName name)

end Lightpath.PortNumber
