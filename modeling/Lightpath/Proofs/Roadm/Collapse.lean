import Lightpath.Proofs.Document.Collapse
import Lightpath.Proofs.Roadm.Discovery

/-!
# Answers without lists of one

A node may leave out lists of one in what it answers, and it may do so at some places and not at
others. Neither the ports that are read nor the course of a reconciliation depends on it.
-/

namespace Lightpath.Roadm

/-- A list in the answer about circuit packs: that of the packs, or that of the ports of the pack at
    a place in the list. -/
inductive ListPlace where
  | packs
  | portsOf (pack : Nat)
deriving DecidableEq, Repr, Inhabited

/-- Leaves out the list at a place if the place is chosen. -/
def collapseAt (chosen : ListPlace → Bool) (place : ListPlace) (doc : Document) : Document :=
  if chosen place then doc.collapse else doc

/-- The answer about circuit packs, the lists of one left out at the chosen places. -/
def collapsePacks (chosen : ListPlace → Bool) (reply : Document) : Document :=
  reply.changeAt
    (fun packs => collapseAt chosen .packs <|
      packs.changeNodes fun i pack => pack.changeMember "ports" (collapseAt chosen (.portsOf i)))
    (Document.keysOf (CircuitEdit.replyPath CircuitEdit.circuitPacksKey))

/-- The answer about connections, their list left out if it is one of one. -/
def collapseListed (reply : Document) : Document :=
  reply.changeAt Document.collapse
    (Document.keysOf (CircuitEdit.replyPath CircuitEdit.connectionsKey))

/-- The state in which the node leaves out the list of one connection. -/
def State.collapsed (s : State) : State :=
  { s with session := s.session.map fun
      | .recorder rec => .recorder { rec with configReply := collapseListed rec.configReply }
      | .rehearsal state => .rehearsal state }

@[simp] theorem nodes_collapseAt (chosen : ListPlace → Bool) (place : ListPlace) (doc : Document) :
    (collapseAt chosen place doc).nodes = doc.nodes := by
  unfold collapseAt
  split <;> simp

/-- The nodes of a pack are found with or without their list. -/
theorem packNodes_changeMember {f : Document → Document} (kept : ∀ doc, (f doc).nodes = doc.nodes)
    (pack : Document) : packNodes (pack.changeMember "ports" f) = packNodes pack := by
  unfold packNodes
  rw [Document.member?_changeMember_self, Document.member?_changeMember_of_ne f (by decide)]
  cases pack.member? "ports" with
  | none => rfl
  | some ports => simp only [Option.map_some, kept]

theorem flatMap_packNodes_mapIdx {f : Nat → Document → Document}
    (kept : ∀ i doc, (f i doc).nodes = doc.nodes) (packs : List Document) :
    (packs.mapIdx fun i pack => pack.changeMember "ports" (f i)).flatMap packNodes =
      packs.flatMap packNodes := by
  induction packs generalizing f with
  | nil => rfl
  | cons pack packs ih =>
    rw [List.mapIdx_cons, List.flatMap_cons, List.flatMap_cons, packNodes_changeMember (kept 0),
      ih fun i => kept (i + 1)]

/-- The nodes of all packs are found with or without the lists of the ports. -/
theorem flatMap_packNodes_changeNodes {f : Nat → Document → Document}
    (kept : ∀ i doc, (f i doc).nodes = doc.nodes) (packs : Document) :
    (packs.changeNodes fun i pack => pack.changeMember "ports" (f i)).nodes.flatMap packNodes =
      packs.nodes.flatMap packNodes := by
  cases packs with
  | list items => exact flatMap_packNodes_mapIdx kept items
  | object members =>
    -- an object stands for a list of itself, before and after the change
    exact flatMap_packNodes_mapIdx kept [.object members]
  | _ => rfl

theorem portNodes_collapsePacks (chosen : ListPlace → Bool) (reply : Document) :
    portNodes (collapsePacks chosen reply) = portNodes reply := by
  simp only [portNodes, collapsePacks, Document.nodesAt, Document.at?, Document.atKeys?_changeAt]
  cases reply.atKeys? (Document.keysOf (CircuitEdit.replyPath CircuitEdit.circuitPacksKey)) with
  | none => rfl
  | some packs =>
    simp only [Option.map_some, nodes_collapseAt]
    exact flatMap_packNodes_changeNodes (fun i => nodes_collapseAt chosen (.portsOf i)) packs

theorem listed_collapseListed (reply : Document) : listed (collapseListed reply) = listed reply :=
  Document.nodesAt_changeAt Document.nodes_collapse _ reply

variable (r : Roadm) (s : State)

theorem collapsed_through (cache : Option ConnectionCache) (rec : Netconf.Recorder) :
    (State.through cache (some rec)).collapsed =
      .through cache (some { rec with configReply := collapseListed rec.configReply }) := rfl

/-- A reconciliation with a node that leaves out the list of one connection goes as with a node that
    does not, up to what the node would answer next. -/
theorem run_reconcile_collapsed :
    r.reconcile.run s.collapsed = ((r.reconcile.run s).1, (r.reconcile.run s).2.collapsed) := by
  obtain ⟨cache, session⟩ := s
  cases session with
  | none => rfl
  | some session =>
    cases session with
    | rehearsal state =>
      obtain ⟨printed, fault⟩ := state
      cases fault <;> rfl
    | recorder rec =>
      change r.reconcile.run (State.through cache (some rec)).collapsed =
        ((r.reconcile.run (.through cache (some rec))).1,
          (r.reconcile.run (.through cache (some rec))).2.collapsed)
      rw [collapsed_through, run_reconcile, run_reconcile]
      dsimp only
      rw [listed_collapseListed, Netconf.Recorder.attempts_congr (r := rec) _ _ (by rfl)]
      split <;> rfl

/-- The edits and their answers do not tell what else the node would answer. -/
theorem exchangesSince_collapsed (after before : State) :
    after.collapsed.exchangesSince before.collapsed = after.exchangesSince before := by
  have told (s : State) : s.collapsed.recorder? =
      s.recorder?.map fun rec => { rec with configReply := collapseListed rec.configReply } := by
    obtain ⟨cache, session⟩ := s
    rcases session with _ | ⟨_ | _⟩ <;> rfl
  unfold State.exchangesSince
  rw [told, told]
  cases after.recorder? with
  | none => rfl
  | some later =>
    cases before.recorder? with
    | none => rfl
    | some earlier => exact Netconf.Recorder.answers_congr (r := earlier) _ (by rfl) _

/-- Whatever a node answers, lists of one can be left out at any places: the ports that are read are
    the same, and so are the entries that a reconciliation gives, the edits that it sends with their
    answers, and what is remembered after it. -/
theorem lists_of_one_left_out (chosen : ListPlace → Bool) (reply : Document) :
    let plain := r.reconcile.run s
    let short := r.reconcile.run s.collapsed
    readPorts (collapsePacks chosen reply) = readPorts reply ∧
      short.1 = plain.1 ∧ short.2.exchangesSince s.collapsed = plain.2.exchangesSince s ∧
        short.2.cache = plain.2.cache := by
  intro plain short
  have same : short = (plain.1, plain.2.collapsed) := r.run_reconcile_collapsed s
  refine ⟨?_, ?_, ?_, ?_⟩
  · rw [readPorts_eq, readPorts_eq, portNodes_collapsePacks]
  · rw [same]
  · rw [same]
    exact exchangesSince_collapsed plain.2 s
  · rw [same]
    rfl

/-- One pack with one port, both lists left out. -/
example :
    let port : Sample.PackPort := ⟨"1-1", "roadm-external", "SRG1-PP1-TX", none⟩
    collapsePacks (fun _ => true) (Sample.circuitPack "4/0" [port]) =
      Sample.reply (.object [(CircuitEdit.circuitPacksKey, .object
        [("circuit-pack-name", .text "4/0"), ("ports", port.encode)])]) := rfl

end Lightpath.Roadm
