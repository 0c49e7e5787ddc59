import Lightpath.Encoding.FlowRule
import Lightpath.Proofs.Document.Text
import Lightpath.Proofs.Encoding.Abridged

/-!
# Channels, ports and flow rules read back

What is written of a channel, a port, a flow rule or a flow entry is read as the same, as a document
and as text, whatever fields at their default are left out of it. Different ones are never written
alike.
-/

namespace Lightpath

open Document (Kept fieldsOf fieldsOf_id forall_abridges_of_leaf textMembers)
open Table (lookup)

/-- The fields that may be left out, with the values that they have then. -/
def Encoded.defaults : List (String × Document) :=
  [("out_port", .null), ("och_signal", .null), ("signal_type", .null), ("cookie", .word 0),
    ("enabled", .bool true), ("annotations", .empty)]

/-- A field may be left out only if it has the default of its key. -/
theorem Encoded.eq_default {key : String} {value default : Document}
    (spare : (key, value) ∈ defaults) (known : lookup key defaults = some default) :
    value = default :=
  Option.some.inj ((Table.lookup_of_mem (by decide) spare).symm.trans known)

theorem Encoded.text_notMem_defaults (key s : String) : (key, Document.text s) ∉ defaults := by
  simp [defaults, Document.empty, Document.word]

/-- What is written of a value is read as the value, and tells it from all other values. -/
structure Encoded.ReadsBack {β : Type} (encode : β → Document) (decode? : Document → Option β)
    (decodeDraft? : Draft → Option β) : Prop where
  /-- Any of the members that stand at their default may be left out. -/
  without : ∀ x members kept, encode x = .object members → kept.Sublist members →
    (∀ member ∈ members, member ∉ kept → member ∈ defaults) → decode? (.object kept) = some x
  /-- They may also be left out further down, and the members may stand in any order. -/
  document : ∀ x short, (encode x).Abridges defaults short → decode? short = some x
  text : ∀ x short, (encode x).Abridges defaults short →
    (Draft.parse? Document.maxDepth short.render).bind decodeDraft? = some x
  injective : ∀ x y, encode x = encode y → x = y
  /-- Not even the texts are the same, whatever is left out of them. -/
  texts_ne : ∀ x y short short', (encode x).Abridges defaults short →
    (encode y).Abridges defaults short' → x ≠ y → short.render ≠ short'.render

theorem Document.word_injective : Function.Injective Document.word := fun _ _ same =>
  UInt64.toNat_inj.1 (Int.ofNat.inj (Document.int.inj same))

theorem Channel.ne_null_of_abridges {c : Channel} {defaults : List (String × Document)}
    {short : Document} (abridged : c.encode.Abridges defaults short) : short ≠ .null := by
  obtain ⟨kept, rfl, -⟩ := abridged.exists_kept (by simp)
  nofun

theorem Grid.ofName?_name (g : Grid) : ofName? g.name = some g := by cases g <;> rfl

theorem Spacing.ofName?_name (s : Spacing) : ofName? s.name = some s := by cases s <;> rfl

theorem SignalType.ofName?_name (t : SignalType) : ofName? t.name = some t := by cases t <;> rfl

theorem FlowState.ofName?_name (s : FlowState) : ofName? s.name = some s := by cases s <;> rfl

theorem Port.eq_empty_of_textMembers {annotations : Table String}
    (none : Document.object (textMembers annotations.entries) = .empty) : annotations = .empty := by
  obtain ⟨entries, sorted⟩ := annotations
  have nothing : entries = [] := List.map_eq_nil_iff.1 (Document.object.inj none)
  subst nothing
  rfl

section Forms

variable {α : Type} [DocumentForm α] {put : Document → α} (faithful : DocumentForm.Faithful put)
  {doc : Document}

open Encoded (defaults)

include faithful

theorem Frequency.decode?_put (f : Frequency) : decode? (put f.encode) = some f :=
  congrArg (Option.map Frequency.mk) (faithful.word64?_put f.hz)

theorem PortNumber.decode?_put (p : PortNumber) : decode? (put p.encode) = some p :=
  congrArg (Option.map PortNumber.mk) (faithful.word64?_put p.value)

theorem DeviceId.decode?_put (d : DeviceId) : decode? (put d.encode) = some d :=
  congrArg (Option.map DeviceId.mk) (faithful.text?_put d.encode)

theorem Channel.decode?_put {c : Channel} (abridged : c.encode.Abridges defaults doc) :
    decode? (put doc) = some c := by
  obtain ⟨kept, rfl, k⟩ := abridged.exists_kept (by simp)
  have fields := faithful.fields?_kept fieldNames 0 k (by simp [fieldNames])
  have grid : Encoded.field? (fieldsOf put kept) "grid_type" (Encoded.alternative? Grid.ofName?) =
      some c.grid :=
    k.leaf? rfl (by decide) (fun _ => nofun) (by rw [faithful.alternative?_put, Grid.ofName?_name])
  have spacing : Encoded.field? (fieldsOf put kept) "channel_spacing"
      (Encoded.alternative? Spacing.ofName?) = some c.spacing :=
    k.leaf? rfl (by decide) (fun _ => nofun)
      (by rw [faithful.alternative?_put, Spacing.ofName?_name])
  have multiplier : Encoded.field? (fieldsOf put kept) "spacing_multiplier" DocumentForm.int32? =
      some c.multiplier :=
    k.leaf? rfl (by decide) (fun _ => nofun) (faithful.int32?_int c.multiplier)
  have slots : Encoded.field? (fieldsOf put kept) "slot_granularity" Encoded.word32? =
      some c.slots :=
    k.leaf? rfl (by decide) (fun _ => nofun) (faithful.word32?_put c.slots)
  rw [decode?, fields]
  simp only [grid, spacing, multiplier, slots, Option.bind_eq_bind, Option.bind_some]
  rfl

end Forms

namespace PortKind

open Encoded (defaults)

variable {members kept : List (String × Document)}

/-- The member that tells the kind is found among those that are left, and set apart. -/
theorem ofDocument?_kept (k : Kept defaults members kept) {kind : String}
    (tagged : lookup "type" members = some (.text kind)) :
    ofDocument? (.object kept) =
      decodeAs? kind (.object (kept.filter fun member => member.1 ≠ "type")) := by
  have tag := knownMembers?_of_nodup k.distinct ["type"]
  have whole : lookup "type" (members.filter fun member => ["type"].contains member.1) =
      some (.text kind) := by
    rw [Table.lookup_filter]
    exact tagged
  have told : Encoded.field? (fieldsOf id
      (kept.filter fun member => ["type"].contains member.1)) "type" Document.text? = some kind :=
    (k.filter fun key => ["type"].contains key).leaf? whole (by decide) (fun _ => nofun) rfl
  rw [fieldsOf_id] at told
  rw [ofDocument?, tag]
  simp only [told, Option.bind_eq_bind, Option.bind_some]

theorem decodeAs?_oms {minFrequency maxFrequency grid : Frequency}
    (k : Kept defaults [("grid", grid.encode), ("max_frequency", maxFrequency.encode),
      ("min_frequency", minFrequency.encode)] kept) :
    decodeAs? "oms" (.object kept) = some (.oms minFrequency maxFrequency grid) := by
  have same := DocumentForm.faithful_id
  have fields : Encoded.fields? ["min_frequency", "max_frequency", "grid"] 0
      (Document.object kept) = some (fieldsOf id kept) := same.fields?_kept _ 0 k (by simp)
  have min : Encoded.field? (fieldsOf id kept) "min_frequency" Frequency.decode? =
      some minFrequency :=
    k.leaf? rfl (by decide) (fun _ => nofun) (Frequency.decode?_put same _)
  have max : Encoded.field? (fieldsOf id kept) "max_frequency" Frequency.decode? =
      some maxFrequency :=
    k.leaf? rfl (by decide) (fun _ => nofun) (Frequency.decode?_put same _)
  have grid : Encoded.field? (fieldsOf id kept) "grid" Frequency.decode? = some grid :=
    k.leaf? rfl (by decide) (fun _ => nofun) (Frequency.decode?_put same _)
  rw [decodeAs?, if_pos rfl, fields]
  simp only [min, max, grid, Option.bind_eq_bind, Option.bind_some]
  rfl

theorem decodeAs?_och {signal : Channel} {tunable : Bool}
    (k : Kept defaults [("signal", signal.encode), ("tunable", .bool tunable)] kept) :
    decodeAs? "och" (.object kept) = some (.och signal tunable) := by
  have same := DocumentForm.faithful_id
  have fields : Encoded.fields? ["signal", "tunable"] 0 (Document.object kept) =
      some (fieldsOf id kept) := same.fields?_kept _ 0 k (by simp)
  have signal : Encoded.field? (fieldsOf id kept) "signal" Channel.decode? = some signal :=
    k.field? rfl (by decide) fun _ abridged => Channel.decode?_put same abridged
  have tunable : Encoded.field? (fieldsOf id kept) "tunable" Encoded.bool? = some tunable :=
    k.leaf? rfl (by decide) (fun _ => nofun) rfl
  rw [decodeAs?, if_neg (by decide), if_pos rfl, fields]
  simp only [signal, tunable, Option.bind_eq_bind, Option.bind_some]
  rfl

theorem ofDocument?_of_abridges {kind : PortKind} {doc : Document}
    (abridged : kind.encode.Abridges defaults doc) : ofDocument? doc = some kind := by
  cases kind with
  | oms minFrequency maxFrequency grid =>
    obtain ⟨kept, rfl, k⟩ := abridged.exists_kept (by simp)
    rw [ofDocument?_kept k rfl]
    exact decodeAs?_oms (k.filter fun key => key ≠ "type")
  | och signal tunable =>
    obtain ⟨kept, rfl, k⟩ := abridged.exists_kept (by simp)
    rw [ofDocument?_kept k rfl]
    exact decodeAs?_och (k.filter fun key => key ≠ "type")

end PortKind

section Forms

variable {α : Type} [DocumentForm α] {put : Document → α} (faithful : DocumentForm.Faithful put)
  {doc : Document}

open Encoded (defaults)

include faithful

theorem PortKind.decode?_put {kind : PortKind} (abridged : kind.encode.Abridges defaults doc) :
    decode? (put doc) = some kind := by
  rw [decode?, faithful.whole?_put, Option.bind_some, ofDocument?_of_abridges abridged]

/-- A field with a value that may be missing is read if what is written of the value is read and is
    not `null`. -/
theorem DocumentForm.Faithful.nullable?_kept {β : Type} (encode : β → Document)
    {members kept : List (String × Document)} (k : Kept defaults members kept) {key : String}
    {o : Option β} {read : α → Option β}
    (whole : lookup key members = some (encodeOption encode o))
    (silent : lookup key defaults = some .null)
    (some_value : ∀ x short, (encode x).Abridges defaults short → short ≠ .null)
    (reads : ∀ x short, (encode x).Abridges defaults short → read (put short) = some x) :
    Encoded.fieldOr (fieldsOf put kept) key none (Encoded.optional? read) = some o := by
  refine k.fieldOr whole (fun spare => ?_) ?_
  · cases o with
    | none => rfl
    | some x => exact absurd (Encoded.eq_default spare silent) (some_value x _ (.same _))
  · cases o with
    | none => exact forall_abridges_of_leaf (fun _ => nofun) faithful.optional?_null
    | some x =>
      intro short abridged
      rw [faithful.optional?_put (some_value x short abridged), reads x short abridged,
        Option.map_some]

/-- The annotations are read, in whatever order they stand. -/
theorem Port.decodeAnnotations?_put {annotations : Table String}
    (abridged : (Document.object (textMembers annotations.entries)).Abridges defaults doc) :
    decodeAnnotations? (put doc) = some annotations := by
  obtain ⟨kept, rfl, k⟩ := abridged.exists_kept
    (by rw [Document.keys_textMembers]; exact annotations.nodup_keys)
  obtain ⟨texts, rfl, distinct, same⟩ := k.exists_texts Encoded.text_notMem_defaults
  have read : (fieldsOf put (textMembers texts)).mapM
      (fun member => (Encoded.text? member.2).map fun s => (member.1, s)) = some texts := by
    clear k distinct same abridged
    induction texts with
    | nil => rfl
    | cons entry texts ih =>
      have first : fieldsOf put (textMembers (entry :: texts)) =
          (entry.1, put (.text entry.2)) :: fieldsOf put (textMembers texts) := rfl
      have text : Encoded.text? (put (.text entry.2)) = some entry.2 := faithful.text?_put _
      rw [first, List.mapM_cons, ih]
      simp [text]
  have table : Table.ofList texts = annotations :=
    Table.ext_get? fun key => (Table.get?_ofList distinct key).trans (same key)
  rw [decodeAnnotations?, faithful.members?_put, ← fieldsOf, ← table]
  exact congrArg (Option.bind · fun entries => some (Table.ofList entries)) read

theorem Port.decode?_put {p : Port} (abridged : p.encode.Abridges defaults doc) :
    decode? (put doc) = some p := by
  obtain ⟨kept, rfl, k⟩ := abridged.exists_kept (by simp)
  have fields := faithful.fields?_kept fieldNames 0 k (by simp [fieldNames])
  have number : Encoded.field? (fieldsOf put kept) "number" PortNumber.decode? = some p.number :=
    k.leaf? rfl (by decide) (fun _ => nofun) (PortNumber.decode?_put faithful p.number)
  have kind : Encoded.field? (fieldsOf put kept) "kind" PortKind.decode? = some p.kind :=
    k.field? rfl (by decide) fun _ abridged => PortKind.decode?_put faithful abridged
  have enabled : Encoded.fieldOr (fieldsOf put kept) "enabled" true Encoded.bool? =
      some p.enabled :=
    k.fieldOr rfl (fun spare => (Document.bool.inj (Encoded.eq_default spare rfl)).symm)
      (forall_abridges_of_leaf (fun _ => nofun) (faithful.bool?_put _))
  have annotations : Encoded.fieldOr (fieldsOf put kept) "annotations" .empty
      decodeAnnotations? = some p.annotations :=
    k.fieldOr rfl (fun spare => (eq_empty_of_textMembers (Encoded.eq_default spare rfl)).symm)
      fun _ abridged => Port.decodeAnnotations?_put faithful abridged
  rw [decode?, fields]
  simp only [number, kind, enabled, annotations, Option.bind_eq_bind, Option.bind_some]
  rfl

theorem FlowRule.decode?_put {r : FlowRule} (abridged : r.encode.Abridges defaults doc) :
    decode? (put doc) = some r := by
  obtain ⟨kept, rfl, k⟩ := abridged.exists_kept (by simp)
  have fields := faithful.fields?_kept fieldNames 0 k (by simp [fieldNames])
  have device : Encoded.field? (fieldsOf put kept) "device_id" DeviceId.decode? = some r.device :=
    k.leaf? rfl (by decide) (fun _ => nofun) (DeviceId.decode?_put faithful r.device)
  have inPort : Encoded.field? (fieldsOf put kept) "in_port" PortNumber.decode? = some r.inPort :=
    k.leaf? rfl (by decide) (fun _ => nofun) (PortNumber.decode?_put faithful r.inPort)
  have outPort : Encoded.fieldOr (fieldsOf put kept) "out_port" none
      (Encoded.optional? PortNumber.decode?) = some r.outPort :=
    faithful.nullable?_kept PortNumber.encode k rfl rfl
      (fun _ => forall_abridges_of_leaf (fun _ => nofun) nofun)
      fun p => forall_abridges_of_leaf (fun _ => nofun) (PortNumber.decode?_put faithful p)
  have channel : Encoded.fieldOr (fieldsOf put kept) "och_signal" none
      (Encoded.optional? Channel.decode?) = some r.channel :=
    faithful.nullable?_kept Channel.encode k rfl rfl (fun _ _ => Channel.ne_null_of_abridges)
      fun _ _ => Channel.decode?_put faithful
  have signalType : Encoded.fieldOr (fieldsOf put kept) "signal_type" none
      (Encoded.optional? (Encoded.alternative? SignalType.ofName?)) = some r.signalType :=
    faithful.nullable?_kept (fun t : SignalType => .text t.name) k rfl rfl
      (fun _ => forall_abridges_of_leaf (fun _ => nofun) nofun)
      fun t => forall_abridges_of_leaf (fun _ => nofun)
        (by rw [faithful.alternative?_put, SignalType.ofName?_name])
  have priority : Encoded.field? (fieldsOf put kept) "priority" Encoded.word32? =
      some r.priority :=
    k.leaf? rfl (by decide) (fun _ => nofun) (faithful.word32?_put r.priority)
  have cookie : Encoded.fieldOr (fieldsOf put kept) "cookie" 0 Encoded.word64? = some r.cookie :=
    k.fieldOr rfl (fun spare => (Document.word_injective (Encoded.eq_default spare rfl)).symm)
      (forall_abridges_of_leaf (fun _ => nofun) (faithful.word64?_put r.cookie))
  rw [decode?, fields]
  simp only [device, inPort, outPort, channel, signalType, priority, cookie, Option.bind_eq_bind,
    Option.bind_some]
  rfl

theorem FlowEntry.decode?_put {e : FlowEntry} (abridged : e.encode.Abridges defaults doc) :
    decode? (put doc) = some e := by
  obtain ⟨kept, rfl, k⟩ := abridged.exists_kept (by simp)
  have fields := faithful.fields?_kept ["rule", "state"] 0 k (by simp)
  have rule : Encoded.field? (fieldsOf put kept) "rule" FlowRule.decode? = some e.rule :=
    k.field? rfl (by decide) fun _ abridged => FlowRule.decode?_put faithful abridged
  have state : Encoded.field? (fieldsOf put kept) "state"
      (Encoded.alternative? FlowState.ofName?) = some e.state :=
    k.leaf? rfl (by decide) (fun _ => nofun)
      (by rw [faithful.alternative?_put, FlowState.ofName?_name])
  rw [decode?, fields]
  simp only [rule, state, Option.bind_eq_bind, Option.bind_some]
  rfl

end Forms

section Plain

open Document (plain_int plain_word plain_textMembers)

variable (depth : Nat)

theorem plain_encodeOption {β : Type} {encode : β → Document}
    (plain : ∀ x, (encode x).Plain depth) (o : Option β) : (encodeOption encode o).Plain depth := by
  cases o with
  | none => exact trivial
  | some x => exact plain x

theorem Channel.plain_encode (c : Channel) : c.encode.Plain (depth + 1) := by
  have multiplier : (Document.int c.multiplier.toInt).Plain depth :=
    have low := c.multiplier.le_toInt
    have high := c.multiplier.toInt_lt
    plain_int depth (by omega) (by omega)
  have slots : (Document.int c.slots.toNat).Plain depth :=
    have fits := c.slots.toNat_lt
    plain_int depth (by omega) (by omega)
  exact ⟨Nat.succ_pos depth, trivial, trivial, slots, multiplier, trivial⟩

theorem PortKind.plain_encode (kind : PortKind) : kind.encode.Plain (depth + 2) := by
  cases kind with
  | oms minFrequency maxFrequency grid =>
    exact ⟨Nat.succ_pos _, plain_word _ grid.hz, plain_word _ maxFrequency.hz,
      plain_word _ minFrequency.hz, trivial, trivial⟩
  | och signal tunable =>
    exact ⟨Nat.succ_pos _, signal.plain_encode depth, trivial, trivial, trivial⟩

theorem Port.plain_encode (p : Port) : p.encode.Plain (depth + 3) :=
  ⟨Nat.succ_pos _, ⟨Nat.succ_pos _, plain_textMembers _ _⟩, trivial, p.kind.plain_encode depth,
    plain_word _ p.number.value, trivial⟩

theorem FlowRule.plain_encode (r : FlowRule) : r.encode.Plain (depth + 2) := by
  have priority : (Document.int r.priority.toNat).Plain (depth + 1) :=
    have fits := r.priority.toNat_lt
    plain_int (depth + 1) (by omega) (by omega)
  have signalType (t : SignalType) : (Document.text t.name).Plain (depth + 1) := trivial
  exact ⟨Nat.succ_pos _, plain_word _ r.cookie, trivial, plain_word _ r.inPort.value,
    plain_encodeOption _ (Channel.plain_encode depth) r.channel,
    plain_encodeOption _ (fun p => plain_word _ p.value) r.outPort, priority,
    plain_encodeOption _ signalType r.signalType, trivial⟩

theorem FlowEntry.plain_encode (e : FlowEntry) : e.encode.Plain (depth + 3) :=
  ⟨Nat.succ_pos _, e.rule.plain_encode depth, trivial, trivial⟩

end Plain

namespace Encoded

/-- A value is read back as soon as it is read from what is written of it, in all forms of
    documents, and that can be written as text. -/
theorem readsBack_of_put {β : Type} {encode : β → Document}
    {decode? : Document → Option β} {decodeDraft? : Draft → Option β}
    (distinct : ∀ x members, encode x = .object members → (members.map (·.1)).Nodup)
    (document : ∀ x short, (encode x).Abridges defaults short → decode? short = some x)
    (draft : ∀ x short, (encode x).Abridges defaults short →
      decodeDraft? (Draft.ofDocument short) = some x)
    (plain : ∀ x, (encode x).Plain Document.maxDepth) : ReadsBack encode decode? decodeDraft? := by
  have text x short (abridged : (encode x).Abridges defaults short) :
      (Draft.parse? Document.maxDepth short.render).bind decodeDraft? = some x := by
    rw [Draft.parse?_render (abridged.plain (plain x)), Option.bind_some]
    exact draft x short abridged
  refine ⟨fun x members kept written left left_out => document x _ ?_, document, text,
    fun x y same => ?_, fun x y short short' abridged abridged' other same => other ?_⟩
  · have keys := distinct x members written
    rw [written]
    exact .of_subset keys (keys.sublist (left.map _)) left.subset left_out
  · have read := document x _ (.same _)
    rw [same, document y _ (.same _)] at read
    exact (Option.some.inj read).symm
  · have read := text x short abridged
    rw [same, text y short' abridged'] at read
    exact (Option.some.inj read).symm

/-- Flow rules, flow entries, ports and channels are read back from what is written of them. -/
theorem readsBack :
    ReadsBack FlowRule.encode FlowRule.decode? FlowRule.decode? ∧
      ReadsBack FlowEntry.encode FlowEntry.decode? FlowEntry.decode? ∧
      ReadsBack Port.encode Port.decode? Port.decode? ∧
      ReadsBack Channel.encode Channel.decode? Channel.decode? := by
  have document := DocumentForm.faithful_id
  have draft := DocumentForm.faithful_draft
  refine ⟨readsBack_of_put ?_ (fun _ _ => FlowRule.decode?_put document)
      (fun _ _ => FlowRule.decode?_put draft) (FlowRule.plain_encode 125),
    readsBack_of_put ?_ (fun _ _ => FlowEntry.decode?_put document)
      (fun _ _ => FlowEntry.decode?_put draft) (FlowEntry.plain_encode 124),
    readsBack_of_put ?_ (fun _ _ => Port.decode?_put document)
      (fun _ _ => Port.decode?_put draft) (Port.plain_encode 124),
    readsBack_of_put ?_ (fun _ _ => Channel.decode?_put document)
      (fun _ _ => Channel.decode?_put draft) (Channel.plain_encode 126)⟩
  all_goals
    intro x members written
    rw [← Document.object.inj written]
    simp

end Encoded

end Lightpath
