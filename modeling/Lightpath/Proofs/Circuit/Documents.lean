import Lightpath.Proofs.Circuit.Sheets
import Lightpath.Proofs.Circuit.Spectrum
import Lightpath.Proofs.Roadm.Provision

/-!
# What the documents of a circuit say

The documents that make a circuit name the center and the width of its channel at both ends, and
the ends of a window for every media channel; those that take it away name neither. What they name
is read off the documents themselves, wherever in them it stands, and also off what is read of them
when they have been printed.
-/

namespace Lightpath

namespace Document

mutual

/-- The values of all members with a key, however deep they lie. -/
def under (key : String) : Document → List Document
  | .list items => underItems key items
  | .object members => underMembers key members
  | _ => []

/-- The values of members with a key in items of a list. -/
def underItems (key : String) : List Document → List Document
  | [] => []
  | item :: items => item.under key ++ underItems key items

/-- The values of members with a key among members of an object, or below them. -/
def underMembers (key : String) : List (String × Document) → List Document
  | [] => []
  | (name, value) :: members =>
    (if name = key then [value] else []) ++ (value.under key ++ underMembers key members)

end

/-- The frequency that a member says in a unit. -/
def frequency? (unit : FrequencyUnit) (key : String) (doc : Document) : Option Frequency := do
  let text ← (← doc.member? key).text?
  (Frequency.read unit text).toOption

variable (key : String)

@[simp] theorem under_list (items : List Document) :
    under key (.list items) = underItems key items := rfl

@[simp] theorem under_object (members : List (String × Document)) :
    under key (.object members) = underMembers key members := rfl

@[simp] theorem underItems_nil : underItems key [] = [] := rfl

@[simp] theorem underItems_cons (item : Document) (items : List Document) :
    underItems key (item :: items) = item.under key ++ underItems key items := rfl

@[simp] theorem underMembers_nil : underMembers key [] = [] := rfl

@[simp] theorem underMembers_cons (name : String) (value : Document)
    (members : List (String × Document)) :
    underMembers key ((name, value) :: members) =
      (if name = key then [value] else []) ++ (value.under key ++ underMembers key members) := rfl

theorem underItems_map {α : Type} (f : α → Document) (xs : List α) :
    underItems key (xs.map f) = xs.flatMap fun x => (f x).under key := by
  induction xs with
  | nil => rfl
  | cons x xs ih => rw [List.map_cons, underItems_cons, ih, List.flatMap_cons]

@[simp] theorem under_text (s : String) : under key (.text s) = [] := rfl

@[simp] theorem under_number (x : Float) : under key (.number x) = [] := by
  rw [number]
  split <;> rfl

theorem frequency?_write (unit : FrequencyUnit) (f : Frequency) {doc : Document}
    (said : doc.member? key = some (.text (f.write unit))) : doc.frequency? unit key = some f := by
  simp [frequency?, said, text?, Frequency.read_write, Except.toOption]

end Document

namespace Draft

mutual

/-- The drafts of all members with a key, however deep they lie. -/
def under (key : String) : Draft → List Draft
  | .list items => underItems key items
  | .object members => underMembers key members
  | .leaf _ => []

/-- The drafts of members with a key in items of a list. -/
def underItems (key : String) : List Draft → List Draft
  | [] => []
  | item :: items => item.under key ++ underItems key items

/-- The drafts of members with a key among members of an object, or below them. -/
def underMembers (key : String) : List (String × Draft) → List Draft
  | [] => []
  | (name, value) :: members =>
    (if name = key then [value] else []) ++ (value.under key ++ underMembers key members)

end

/-- The frequency that a member says in a unit. -/
def frequency? (unit : FrequencyUnit) (key : String) : Draft → Option Frequency
  | .object members => do
    let said ← (← Table.lookup key members).document?
    (Frequency.read unit (← said.text?)).toOption
  | _ => none

variable (key : String)

/-- In what is read of a document the same lies under a key. -/
theorem under_told (doc : Document) : (told doc).under key = (doc.under key).map told := by
  induction doc using Document.induction with
  | list items ih =>
    rw [told_list, under, Document.under_list]
    induction items with
    | nil => rfl
    | cons item items others =>
      rw [List.map_cons, underItems, Document.underItems_cons, List.map_append,
        ih item List.mem_cons_self,
        others fun next member => ih next (List.mem_cons_of_mem _ member)]
  | object members ih =>
    rw [told_object, under, Document.under_object]
    induction members with
    | nil => rfl
    | cons member members others =>
      rw [List.map_cons, underMembers, Document.underMembers_cons, List.map_append,
        List.map_append, ih member List.mem_cons_self,
        others fun next listed => ih next (List.mem_cons_of_mem _ listed)]
      split <;> rfl
  | _ => rfl

/-- What a document says is read of it. -/
theorem frequency?_told {unit : FrequencyUnit} {doc : Document} {f : Frequency}
    (said : doc.frequency? unit key = some f) : (told doc).frequency? unit key = some f := by
  cases doc with
  | object members =>
    rw [told_object, frequency?, Table.lookup_map_values]
    cases found : Table.lookup key members with
    | none => simp [Document.frequency?, Document.member?, found] at said
    | some value =>
      cases value with
      | text s => simpa [Document.frequency?, Document.member?, found, document?] using said
      | _ => simp [Document.frequency?, Document.member?, found, Document.text?] at said
  | _ => cases said

end Draft

namespace CircuitEdit

/-- The member that says where a network media channel lies. -/
def signalKey : String := "nmc-ctp"

/-- The member that says where a media channel lies. -/
def windowKey : String := "mc-ttp"

/-- What edits say about a key. -/
def under (key : String) (steps : List Step) : List Document :=
  steps.flatMap fun step => step.body.under key

/-- What is read of edits makes a channel at two ends and a window for it. -/
structure Configure (read : List Draft) (center width : Frequency) : Prop where
  two_signals : (Draft.underItems signalKey read).length = 2
  signals : ∀ said ∈ Draft.underItems signalKey read,
    said.frequency? .terahertz "frequency" = some center ∧
      said.frequency? .gigahertz "width" = some width
  windows_ne_nil : Draft.underItems windowKey read ≠ []
  windows : ∀ said ∈ Draft.underItems windowKey read, ∃ window : Window,
    said.frequency? .terahertz "min-freq" = some window.min ∧
      said.frequency? .terahertz "max-freq" = some window.max ∧
        window.Spans center.toNat width.toNat

/-- Edits say of one channel only where it lies. -/
theorem Configure.unique {read : List Draft} {center center' width width' : Frequency}
    (one : Configure read center width) (other : Configure read center' width') :
    center = center' ∧ width = width' := by
  obtain ⟨said, rest, listed⟩ := List.exists_cons_of_ne_nil
    (List.ne_nil_of_length_pos (Nat.lt_of_lt_of_eq Nat.zero_lt_two one.two_signals.symm))
  have member : said ∈ Draft.underItems signalKey read := listed ▸ List.mem_cons_self
  obtain ⟨middle, wide⟩ := one.signals said member
  obtain ⟨middle', wide'⟩ := other.signals said member
  rw [middle] at middle'
  rw [wide] at wide'
  exact ⟨Option.some.inj middle', Option.some.inj wide'⟩

theorem underItems_told (key : String) (steps : List Step) :
    Draft.underItems key (told steps) = (under key steps).map Draft.told := by
  induction steps with
  | nil => rfl
  | cons step steps ih =>
    rw [told, List.map_cons, Draft.underItems, ← told, ih, Draft.under_told, ← List.map_append]
    rfl

/-- Where a network media channel lies. -/
def signal (n : NetworkMediaChannel) : Document :=
  .object [("frequency", .text n.center.thz), ("width", .text n.width.ghz)]

/-- Where a media channel lies. -/
def window (m : MediaChannel) : Document :=
  .object [("max-freq", .text m.window.max.thz), ("min-freq", .text m.window.min.thz)]

variable {key : String}

theorem under_device {member : String} (apart : member ≠ key) (inner : root ≠ key)
    (body : Document) : (device member body).under key = body.under key := by
  simp [device, apart, inner]

theorem under_signalKey_mediaInterface (m : MediaChannel) :
    (mediaInterface m).under signalKey = [] := by
  simp [mediaInterface, signalKey]

theorem under_windowKey_mediaInterface (m : MediaChannel) :
    (mediaInterface m).under windowKey = [window m] := by
  simp [mediaInterface, windowKey, window]

theorem under_signalKey_networkInterface (n : NetworkMediaChannel) :
    (networkInterface n).under signalKey = [signal n] := by
  cases laid : n.support <;>
    simp [networkInterface, laid, signalKey, signal]

theorem under_windowKey_networkInterface (n : NetworkMediaChannel) :
    (networkInterface n).under windowKey = [] := by
  cases laid : n.support <;>
    simp [networkInterface, laid, windowKey]

theorem under_signalKey_creation (c : Connection) :
    under signalKey (creation c) = [signal c.sourceNetwork, signal c.destinationNetwork] := by
  have medias : (createMedias c).under signalKey = [] := by
    rw [createMedias, under_device (by decide) (by decide)]
    simp [Document.underItems_map, under_signalKey_mediaInterface]
  have networks : (createNetworks c).under signalKey =
      [signal c.sourceNetwork, signal c.destinationNetwork] := by
    rw [createNetworks, under_device (by decide) (by decide)]
    simp [under_signalKey_networkInterface]
  have connection : (createConnection c).under signalKey = [] := by
    rw [createConnection, under_device (by decide) (by decide)]
    simp [signalKey, connectionNameKey, powerKey]
  simp [under, creation, medias, networks, connection]

theorem under_windowKey_creation (c : Connection) :
    under windowKey (creation c) = c.medias.map window := by
  have medias : (createMedias c).under windowKey = c.medias.map window := by
    rw [createMedias, under_device (by decide) (by decide), Document.under_list,
      Document.underItems_map]
    simp only [under_windowKey_mediaInterface]
    exact List.map_eq_flatMap.symm
  have networks : (createNetworks c).under windowKey = [] := by
    rw [createNetworks, under_device (by decide) (by decide)]
    simp [under_windowKey_networkInterface]
  have connection : (createConnection c).under windowKey = [] := by
    rw [createConnection, under_device (by decide) (by decide)]
    simp [windowKey, connectionNameKey, powerKey]
  simp [under, creation, medias, networks, connection]

/-- What is taken away is only named. -/
theorem under_withdrawal
    (apart : key ∉ [root, connectionsKey, interfaceKey, operationKey, connectionNameKey, "name"])
    (name : String) (networks medias : List String) :
    under key (withdrawal name networks medias) = [] := by
  simp only [List.mem_cons, List.not_mem_nil, or_false, not_or, ← ne_eq] at apart
  obtain ⟨outer, connections, interfaces, operation, connection, plain⟩ := apart
  have gone : (deleteConnection name).under key = [] := by
    rw [deleteConnection, under_device connections.symm outer.symm]
    simp [operation.symm, connection.symm]
  have cleared (names : List String) : (deleteInterfaces names).under key = [] := by
    rw [deleteInterfaces, under_device interfaces.symm outer.symm]
    simp [Document.underItems_map, operation.symm, plain.symm]
  simp only [under, withdrawal, deletion, clearance, deletionSteps, List.flatMap_cons, gone, cleared]
  split <;> simp [cleared]

/-! ## Levels -/

theorem levels_device {body : Document} (fits : body.levels ≤ Document.maxDepth - 2)
    (key : String) : (device key body).levels ≤ Document.maxDepth := by
  simpa [device, Document.maxDepth] using fits

theorem levels_networkInterface (n : NetworkMediaChannel) :
    (networkInterface n).levels ≤ Document.maxDepth - 3 := by
  cases laid : n.support <;> simp [networkInterface, laid, Document.maxDepth]

theorem levels_creation (c : Connection) :
    ∀ step ∈ creation c, step.body.levels ≤ Document.maxDepth := by
  have medias : (createMedias c).levels ≤ Document.maxDepth :=
    levels_device (by simp [mediaInterface, Document.maxDepth]) _
  have networks : (createNetworks c).levels ≤ Document.maxDepth := by
    refine levels_device (Document.levels_list_le_iff.2 ⟨by decide, fun item member => ?_⟩) _
    obtain ⟨n, -, rfl⟩ := List.mem_map.1 member
    exact levels_networkInterface n
  have connection : (createConnection c).levels ≤ Document.maxDepth :=
    levels_device (by simp [Document.maxDepth]) _
  simp [creation, medias, networks, connection]

theorem levels_withdrawal (name : String) (networks medias : List String) :
    ∀ step ∈ withdrawal name networks medias, step.body.levels ≤ Document.maxDepth := by
  have gone : (deleteConnection name).levels ≤ Document.maxDepth :=
    levels_device (by simp [Document.maxDepth]) _
  have cleared (names : List String) : (deleteInterfaces names).levels ≤ Document.maxDepth :=
    levels_device (by simp [Document.maxDepth]) _
  simp only [withdrawal, deletion, clearance, deletionSteps]
  split <;> simp [gone, cleared]

/-! ## What they configure -/

variable {c : Connection} {channel : Channel}

/-- The edits that make a connection configure the channel that it is made for. -/
theorem configure_creation (shaped : c.Shaped) (cut : c.CutFor channel)
    (spans : (Window.around channel.center channel.width).Spans channel.center.toNat
      channel.width.toNat) :
    Configure (told (creation c)) channel.center channel.width := by
  have signals := underItems_told signalKey (creation c)
  have windows := underItems_told windowKey (creation c)
  rw [under_signalKey_creation] at signals
  rw [under_windowKey_creation] at windows
  have tells (side : Side) :
      (Draft.told (signal (c.network side))).frequency? .terahertz "frequency" =
          some channel.center ∧
        (Draft.told (signal (c.network side))).frequency? .gigahertz "width" =
          some channel.width := by
    rw [← cut.center_eq side, ← cut.width_eq side]
    exact ⟨Draft.frequency?_told _ (Document.frequency?_write _ _ _ rfl),
      Draft.frequency?_told _ (Document.frequency?_write _ _ _ rfl)⟩
  constructor
  · rw [signals]
    rfl
  · intro said member
    rw [signals, List.map_cons, List.map_singleton, List.mem_pair] at member
    rcases member with rfl | rfl
    · exact tells .source
    · exact tells .destination
  · rw [windows, List.map_map]
    exact fun none => shaped.medias_ne_nil (List.map_eq_nil_iff.1 none)
  · intro said member
    rw [windows, List.map_map] at member
    obtain ⟨m, listed, rfl⟩ := List.mem_map.1 member
    obtain ⟨side, -, carried⟩ := List.mem_filterMap.1 listed
    refine ⟨m.window, Draft.frequency?_told _ (Document.frequency?_write _ _ _ rfl),
      Draft.frequency?_told _ (Document.frequency?_write _ _ _ rfl), ?_⟩
    rw [cut.window_eq side m carried]
    exact spans

/-- It makes no difference to what is configured that the connection is taken away again. -/
theorem Configure.withdrawn {steps : List Step} {center width : Frequency}
    (made : Configure (told steps) center width) (name : String) (networks medias : List String) :
    Configure (told (steps ++ withdrawal name networks medias)) center width := by
  have same {key : String}
      (apart : key ∉ [root, connectionsKey, interfaceKey, operationKey, connectionNameKey, "name"]) :
      Draft.underItems key (told (steps ++ withdrawal name networks medias)) =
        Draft.underItems key (told steps) := by
    rw [underItems_told, underItems_told, under, List.flatMap_append]
    exact congrArg _ ((congrArg _ (under_withdrawal apart ..)).trans (List.append_nil _))
  have signals : Draft.underItems signalKey _ = _ := same (by decide)
  have windows : Draft.underItems windowKey _ = _ := same (by decide)
  constructor
  · rw [signals]
    exact made.two_signals
  · rw [signals]
    exact made.signals
  · rw [windows]
    exact made.windows_ne_nil
  · rw [windows]
    exact made.windows

end CircuitEdit

end Lightpath
