import Lightpath.Inventory
import Lightpath.Proofs.Action
import Lightpath.Proofs.Port.Naming
import Lightpath.Roadm.Discovery
import Lightpath.Sample

/-!
# Bands of port numbers

The ports of a role, and those of a pack, are counted from a hundred of their own. Different names
get one number in two ways: a role and a pack have a hundred in common, or ports are counted beyond
the end of their hundred and up to the number of another port. Ports that are numbered by their
names can be told apart by number exactly as far as this goes.
-/

namespace Lightpath

theorem PortRole.base_injective {role role' : PortRole}
    (same : role.base / 100 = role'.base / 100) : role = role' := by
  revert same
  cases role <;> cases role' <;> decide

namespace PortName

/-- The hundred that the ports of the name are counted from. -/
def hundred : PortName → Nat
  | .byRole role _ => role.base / 100
  | .byPlace pack _ => Text.digitsValue pack

/-- What the last numeric field counts. -/
def count : PortName → Nat
  | .byRole _ digits => Text.digitsValue digits
  | .byPlace _ digits => Text.digitsValue digits

/-- Whether the port is named by its place on a pack. -/
def isPlace : PortName → Bool
  | .byRole .. => false
  | .byPlace .. => true

/-- No numeric field begins with a zero that could be left out. -/
def Unpadded (n : PortName) : Prop := ∀ field ∈ n.fields, Text.Unpadded field

/-- The same port of one hundred, once by the role and once by the pack. -/
structure SharesHundred (n n' : PortName) : Prop where
  isPlace_ne : n.isPlace ≠ n'.isPlace
  hundred_eq : n.hundred = n'.hundred
  count_eq : n.count = n'.count

/-- A port is counted beyond the end of its hundred, up to a port of a higher one. -/
structure RunsInto (n n' : PortName) : Prop where
  hundred_lt : n.hundred < n'.hundred
  count_eq : n.count = 100 * (n'.hundred - n.hundred) + n'.count

/-- Two names by which ports are counted up to one number. -/
def Collides (n n' : PortName) : Prop :=
  n.SharesHundred n' ∨ n.RunsInto n' ∨ n'.RunsInto n

variable {n n' : PortName}

theorem number_eq_hundred_add_count (n : PortName) : n.number = 100 * n.hundred + n.count := by
  cases n with
  | byRole role digits =>
    have whole : role.base = 100 * (role.base / 100) := by cases role <;> decide
    rw [number, hundred, count, ← whole]
  | byPlace pack digits => rfl

/-- A name is told by its kind, its hundred and its count. -/
theorem eq_of_same_place (runs : ∀ field ∈ n.fields, Text.IsRun field)
    (runs' : ∀ field ∈ n'.fields, Text.IsRun field) (plain : n.Unpadded) (plain' : n'.Unpadded)
    (kind : n.isPlace = n'.isPlace) (hundreds : n.hundred = n'.hundred)
    (counts : n.count = n'.count) : n = n' := by
  cases n with
  | byRole role digits =>
    cases n' with
    | byPlace => cases kind
    | byRole role' digits' =>
      obtain rfl := PortRole.base_injective hundreds
      have same : digits = digits' :=
        (plain digits List.mem_cons_self).eq_of_digitsValue_eq (plain' digits' List.mem_cons_self)
          (runs_byRole.1 runs) (runs_byRole.1 runs') counts
      rw [same]
  | byPlace pack digits =>
    cases n' with
    | byRole => cases kind
    | byPlace pack' digits' =>
      obtain ⟨run, run_digits⟩ := runs_byPlace.1 runs
      obtain ⟨run', run_digits'⟩ := runs_byPlace.1 runs'
      have packs : pack = pack' :=
        (plain pack List.mem_cons_self).eq_of_digitsValue_eq (plain' pack' List.mem_cons_self)
          run run' hundreds
      have places : digits = digits' :=
        (plain digits (by simp [fields])).eq_of_digitsValue_eq (plain' digits' (by simp [fields]))
          run_digits run_digits' counts
      rw [packs, places]

/-- Different names stand for one number exactly if they collide. -/
theorem number_eq_iff_collides (runs : ∀ field ∈ n.fields, Text.IsRun field)
    (runs' : ∀ field ∈ n'.fields, Text.IsRun field) (plain : n.Unpadded) (plain' : n'.Unpadded)
    (different : n ≠ n') : n.number = n'.number ↔ n.Collides n' := by
  rw [number_eq_hundred_add_count, number_eq_hundred_add_count]
  constructor
  · intro same
    rcases Nat.lt_trichotomy n.hundred n'.hundred with lower | level | higher
    · exact .inr (.inl ⟨lower, by omega⟩)
    · have counts : n.count = n'.count := by omega
      have kinds : n.isPlace ≠ n'.isPlace := fun kind =>
        different (eq_of_same_place runs runs' plain plain' kind level counts)
      exact .inl ⟨kinds, level, counts⟩
    · exact .inr (.inr ⟨higher, by omega⟩)
  · rintro (⟨-, level, counts⟩ | ⟨lower, reaches⟩ | ⟨lower, reaches⟩)
    · rw [level, counts]
    · omega
    · omega

end PortName

namespace PortNumber

open PortName

/-- Two texts are port names that collide. -/
def Collide (name name' : String) : Prop :=
  ∃ n n' : PortName, n.Writes name ∧ n'.Writes name' ∧ n.Collides n'

/-- The numeric fields of a port name have no zeros in front. -/
def Unpadded (name : String) : Prop := ∀ n : PortName, n.Writes name → n.Unpadded

variable {name name' : String} {p p' : PortNumber}

theorem unpadded_of_writes {n : PortName} (writes : n.Writes name) (plain : n.Unpadded) :
    Unpadded name := by
  intro n' writes'
  rwa [writes'.unique writes]

theorem eq_iff_collide (accepted : ofName name = .ok p) (accepted' : ofName name' = .ok p')
    (plain : Unpadded name) (plain' : Unpadded name') (different : name ≠ name') :
    p = p' ↔ Collide name name' := by
  obtain ⟨n, writes, total⟩ := exists_writes_of_ofName accepted
  obtain ⟨n', writes', total'⟩ := exists_writes_of_ofName accepted'
  have apart : n ≠ n' := by
    rintro rfl
    exact different (String.toList_inj.1 (writes.chars_eq.symm.trans writes'.chars_eq))
  have numbers : p = p' ↔ n.number = n'.number := by
    rw [total, total', UInt64.toNat_inj]
    exact ⟨congrArg PortNumber.value, fun same => by cases p; cases p'; exact congrArg _ same⟩
  rw [numbers, number_eq_iff_collides writes.runs writes'.runs (plain n writes) (plain' n' writes')
    apart]
  constructor
  · intro collides
    exact ⟨n, n', writes, writes', collides⟩
  · rintro ⟨m, m', read, read', collides⟩
    rwa [read.unique writes, read'.unique writes'] at collides

end PortNumber

namespace Port

/-- A port has a name, and the number that the name gives. -/
def NumberedBy (p : Port) (name : String) : Prop :=
  p.name? = some name ∧ PortNumber.ofName name = .ok p.number

/-- A port that a node lists, or that a file lists without a number. -/
def Synthesized (p : Port) : Prop :=
  (∃ reply, p ∈ Roadm.readPorts reply) ∨
    ∃ entry : PortEntry, entry.number = none ∧ entry.port = .ok p

theorem numberedBy_of_readPort? {pack : String} {node : Document} {p : Port}
    (read : Roadm.readPort? pack node = some p) : ∃ name, p.NumberedBy name := by
  rw [Roadm.readPort?] at read
  dsimp only at read
  split at read
  · generalize ((node.member? "port-name").bind Document.leaf?).getD "unnamed" = name at read
    split at read
    · next number accepted =>
      cases read
      refine ⟨name, ?_, accepted⟩
      simp [name?, annotation?, annotate, Table.get?_insert, nameKey, connectionPointKey]
    · cases read
  · cases read

theorem numberedBy_of_entry {entry : PortEntry} {p : Port} (unnumbered : entry.number = none)
    (made : entry.port = .ok p) : p.NumberedBy entry.name := by
  rw [PortEntry.port, unnumbered] at made
  obtain ⟨number, accepted, same⟩ := Action.bind_eq_ok_iff.1 made
  cases same
  refine ⟨?_, accepted⟩
  simp [name?, annotation?, annotate, Table.get?_insert, nameKey, connectionPointKey,
    circuitPackKey]

/-- Ports without a number of their own are numbered by their names. -/
theorem Synthesized.exists_numberedBy {p : Port} (synthesized : p.Synthesized) :
    ∃ name, p.NumberedBy name := by
  rcases synthesized with ⟨reply, listed⟩ | ⟨entry, unnumbered, made⟩
  · rw [Roadm.readPorts, List.mem_flatMap] at listed
    obtain ⟨pack, -, listed⟩ := listed
    dsimp only at listed
    split at listed
    · obtain ⟨node, -, read⟩ := List.mem_filterMap.1 listed
      exact numberedBy_of_readPort? read
    · cases listed
  · exact ⟨entry.name, numberedBy_of_entry unnumbered made⟩

end Port

namespace PortNumber

open PortName

/-- Different port names without zeros in front of their fields give one number if and only if they
    collide, and the ports that are numbered by them have one number as often as that. -/
theorem numbers_tell_names_iff :
    (∀ (name name' : String) (p p' : PortNumber), ofName name = .ok p → ofName name' = .ok p' →
      Unpadded name → Unpadded name' → name ≠ name' → (p = p' ↔ Collide name name')) ∧
    ∀ port port' : Port, port.Synthesized → port'.Synthesized →
      ∃ name name', port.NumberedBy name ∧ port'.NumberedBy name' ∧
        (Unpadded name → Unpadded name' → name ≠ name' →
          (port.number = port'.number ↔ Collide name name')) := by
  constructor
  · intro name name' p p' accepted accepted' plain plain' different
    exact eq_iff_collide accepted accepted' plain plain' different
  · intro port port' synthesized synthesized'
    obtain ⟨name, numbered⟩ := synthesized.exists_numberedBy
    obtain ⟨name', numbered'⟩ := synthesized'.exists_numberedBy
    refine ⟨name, name', numbered, numbered', fun plain plain' different => ?_⟩
    exact eq_iff_collide numbered.2 numbered'.2 plain plain' different

theorem unpadded_byRole (role : PortRole) (digits : List Char) (run : Text.IsRun digits)
    (plain : Text.Unpadded digits) : Unpadded (role.head ++ String.ofList digits) := by
  have writes : (byRole role digits).Writes (role.head ++ String.ofList digits) :=
    ⟨runs_byRole.2 run, by simp [chars]⟩
  exact unpadded_of_writes writes (List.forall_mem_singleton.2 plain)

/-- Two ports that a node lists: one sends, the other receives. -/
theorem numbers_tell_names_of_two_roles :
    let reply := Sample.circuitPack "1/0"
      [⟨"ext-tx1", "roadm-external", "DEG1-TTP-TX", some "multi-wavelength"⟩,
        ⟨"ext-rx1", "roadm-external", "DEG1-TTP-RX", some "multi-wavelength"⟩]
    Unpadded "ext-tx1" ∧ Unpadded "ext-rx1" ∧ ¬ Collide "ext-tx1" "ext-rx1" ∧
      ∃ port port', Roadm.readPorts reply = [port, port'] ∧ port.Synthesized ∧ port'.Synthesized ∧
        port.NumberedBy "ext-tx1" ∧ port'.NumberedBy "ext-rx1" ∧ port.number ≠ port'.number := by
  intro reply
  have plain : Unpadded "ext-tx1" :=
    unpadded_byRole .externalSender ['1'] (by decide) (by decide)
  have plain' : Unpadded "ext-rx1" :=
    unpadded_byRole .externalReceiver ['1'] (by decide) (by decide)
  have accepted : ofName "ext-tx1" = .ok ⟨301⟩ := by decide +kernel
  have accepted' : ofName "ext-rx1" = .ok ⟨401⟩ := by decide +kernel
  obtain ⟨names_apart, ports_apart⟩ := numbers_tell_names_iff
  have clear : ¬ Collide "ext-tx1" "ext-rx1" := by
    rw [← names_apart _ _ _ _ accepted accepted' plain plain' (by decide)]
    decide
  let port (number : UInt64) (label name : String) : Port :=
    (Port.mk ⟨number⟩ .cBand true .empty).annotate Port.circuitPackKey "1/0"
      |>.annotate Port.nameKey name |>.annotate Port.connectionPointKey label
  have listed : Roadm.readPorts reply =
      [port 301 "DEG1-TTP-TX" "ext-tx1", port 401 "DEG1-TTP-RX" "ext-rx1"] := by decide +kernel
  have synthesized : (port 301 "DEG1-TTP-TX" "ext-tx1").Synthesized :=
    .inl ⟨reply, listed ▸ List.mem_cons_self⟩
  have synthesized' : (port 401 "DEG1-TTP-RX" "ext-rx1").Synthesized :=
    .inl ⟨reply, listed ▸ List.mem_cons_of_mem _ List.mem_cons_self⟩
  obtain ⟨name, name', numbered, numbered', ports⟩ := ports_apart _ _ synthesized synthesized'
  obtain rfl : "ext-tx1" = name := Option.some.inj numbered.1
  obtain rfl : "ext-rx1" = name' := Option.some.inj numbered'.1
  exact ⟨plain, plain', clear, _, _, listed, synthesized, synthesized', numbered, numbered',
    fun same => clear ((ports plain plain' (by decide)).1 same)⟩

/-- A role and a pack with a hundred in common, and a role the ports of which are counted beyond
    the end of its hundred: two numbers for four names. -/
theorem one_number_for_two_names :
    (ofName "ext-tx1" = .ok ⟨301⟩ ∧ ofName "3-1" = .ok ⟨301⟩ ∧
      Unpadded "ext-tx1" ∧ Unpadded "3-1") ∧
    (ofName "ext-tx101" = .ok ⟨401⟩ ∧ ofName "ext-rx1" = .ok ⟨401⟩ ∧
      Unpadded "ext-tx101" ∧ Unpadded "ext-rx1") := by
  have writes : (byPlace ['3'] ['1']).Writes "3-1" := ⟨runs_byPlace.2 (by decide), by decide⟩
  have plain_place : Unpadded "3-1" := by
    refine unpadded_of_writes writes fun field member => ?_
    rcases List.mem_pair.1 member with rfl | rfl <;> decide
  refine ⟨⟨by decide +kernel, by decide +kernel, ?_, plain_place⟩, by decide +kernel,
    by decide +kernel, ?_, ?_⟩
  · exact unpadded_byRole .externalSender ['1'] (by decide) (by decide)
  · exact unpadded_byRole .externalSender ['1', '0', '1'] (by decide) (by decide)
  · exact unpadded_byRole .externalReceiver ['1'] (by decide) (by decide)

end PortNumber

end Lightpath
