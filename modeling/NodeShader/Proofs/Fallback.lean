import NodeShader.Proofs.Defaults
import NodeShader.Proofs.Retyping

/-! Inputs that fall back to their defaults. The collection of uniforms asks whether an enabled node feeds
the input; the code that is written asks in addition whether this node has a value to give. So the two
differ at an input that is fed in vain, and only there. -/
namespace NodeShader

namespace ShaderGraph

section
variable (graph : ShaderGraph) (slot : Slot) (source : Node) (place : SlotId)

theorem ne_default_of_fedReading {reading : Reading}
    (fed : graph.fedReading slot source place = some reading) (precision : Precision) (node : Node)
    (id : SlotId) : reading ≠ defaultReading precision node id slot := by
  rintro rfl
  obtain ⟨given, _, fed⟩ := Option.bind_eq_some_iff.1 fed
  unfold defaultReading at fed
  split at fed
  next =>
    obtain ⟨property, _, fed⟩ := Option.bind_eq_some_iff.1 fed
    split at fed <;> simp at fed
  next => split at fed <;> simp at fed

end

section
variable (graph : ShaderGraph) (precision : Precision) {node : Node} {id : SlotId} {slot : Slot}

theorem usesDefault_eq_true_iff : graph.usesDefault node id = true ↔ graph.source? node id = none := by
  simp [usesDefault]

theorem reading_eq_default_iff (found : node.slots.get? id = some slot) :
    graph.reading precision node id = defaultReading precision node id slot ↔
      graph.usesDefault node id = true ∨ graph.FedInVain node id := by
  rw [usesDefault_eq_true_iff]
  refine ⟨fun same => ?_, reading_of_unfed found⟩
  rcases graph.given_or_unfed node id slot with ⟨source, place, reading, fed, given⟩ | unfed
  · rw [reading_of_given found fed given] at same
    exact absurd same (graph.ne_default_of_fedReading slot source place given precision node id)
  · exact unfed

theorem FedInVain.not_usesDefault {graph : ShaderGraph} (vain : graph.FedInVain node id) :
    graph.usesDefault node id = false := by
  obtain ⟨source, place, feeding, _⟩ := vain
  simp [usesDefault, feeding]

theorem agrees_iff_not_fedInVain (found : node.slots.get? id = some slot) :
    (graph.reading precision node id = defaultReading precision node id slot ↔
      graph.usesDefault node id = true) ↔ ¬ graph.FedInVain node id := by
  rw [graph.reading_eq_default_iff precision found]
  constructor
  · intro same vain
    have unfed := same.1 (.inr vain)
    rw [vain.not_usesDefault] at unfed
    contradiction
  · exact fun other => or_iff_left other

/-- What is read is the default if no enabled node feeds the input, or if one does so in vain. The two
decisions agree unless the input is fed in vain. The default is the uniform of the input for a texture, and
a literal for anything else. -/
theorem reads_default (found : node.slots.get? id = some slot) :
    (graph.reading precision node id = defaultReading precision node id slot ↔
      graph.usesDefault node id = true ∨ graph.FedInVain node id) ∧
    ((graph.reading precision node id = defaultReading precision node id slot ↔
      graph.usesDefault node id = true) ↔ ¬ graph.FedInVain node id) ∧
    (defaultReading precision node id slot).text precision =
      if slot.type.isTexture then node.variableName id
      else (slot.default.literal precision).getD "0" :=
  ⟨graph.reading_eq_default_iff precision found, graph.agrees_iff_not_fedInVain precision found,
    text_defaultReading precision node id slot⟩

end

end ShaderGraph

/-- Connections that join what they should start at a slot that is there. -/
theorem Graph.WellConnected.fedInVain_iff {graph : ShaderGraph} (sound : graph.WellConnected)
    (node : Node) (id : SlotId) : graph.FedInVain node id ↔
      ∃ source place guid, graph.source? node id = some (source, place) ∧
        source.kind = .reader guid ∧ graph.property? guid = none := by
  constructor
  · rintro ⟨source, place, feeding, lacks | ⟨guid, reads, unknown⟩⟩
    · obtain ⟨connection, found, known, _, rfl⟩ :=
        (graph.source?_eq_some_iff node id source place).1 feeding
      obtain ⟨other, slot, present, carries, _⟩ :=
        (sound.joined connection (List.mem_of_find?_eq_some found)).1
      cases known.symm.trans present
      exact absurd (lacks.symm.trans carries) (by simp)
    · exact ⟨source, place, guid, feeding, reads, unknown⟩
  · rintro ⟨source, place, guid, feeding, reads, unknown⟩
    exact ⟨source, place, feeding, .inr ⟨guid, reads, unknown⟩⟩

/-- However a graph was edited, only a reader of a property that the graph does not expose makes a
difference between what an input reads and what is collected for it. -/
theorem edited_reads_default (start : ShaderGraph) (fresh : start.New) (edits : List Edit)
    (admitted : Edit.AllAdmitted start edits) (precision : Precision) {node : Node} {id : SlotId}
    {slot : Slot} (found : node.slots.get? id = some slot) :
    let reached := edits.foldl Edit.apply start
    (reached.reading precision node id = ShaderGraph.defaultReading precision node id slot ↔
      reached.usesDefault node id = true) ↔
    ¬ ∃ source place guid, reached.source? node id = some (source, place) ∧
      source.kind = .reader guid ∧ reached.property? guid = none := by
  intro reached
  have sound : reached.WellConnected := (edited_wellConnected start fresh edits admitted).1
  rw [← sound.fedInVain_iff]
  exact reached.agrees_iff_not_fedInVain precision found

namespace Edit

def texturing : Node :=
  { Node.make ⟨4, 1⟩ "Sample" (.function ⟨"sample", "sample", none, false, .none⟩) with
    slots := SlotTable.empty.add (Slot.make (.positional 0) "Map" "Map" .input .texture2D) }

def unexposed : Node :=
  { Node.make ⟨4, 2⟩ "Albedo" (.reader ⟨4, 3⟩) with
    slots := SlotTable.empty.add (Slot.make (.positional 0) "Out" "Out" .output .texture2D) }

/-- A node that samples a texture is fed by a reader of a property that the graph does not expose. -/
def stray : List Edit :=
  [.addNode unexposed, .addNode texturing,
    .connect ⟨4, 4⟩ ⟨⟨4, 2⟩, .positional 0⟩ ⟨⟨4, 1⟩, .positional 0⟩]

end Edit

theorem stray_reads_default :
    let start := ShaderGraph.root ⟨4, 5⟩ "Stray"
    let reached := Edit.stray.foldl Edit.apply start
    let slot := Slot.make (.positional 0) "Map" "Map" .input .texture2D
    Edit.texturing.slots.get? (.positional 0) = some slot ∧
    (reached.reading .float Edit.texturing (.positional 0) =
        ShaderGraph.defaultReading .float Edit.texturing (.positional 0) slot ↔
      reached.usesDefault Edit.texturing (.positional 0) = true ∨
        reached.FedInVain Edit.texturing (.positional 0)) ∧
    reached.FedInVain Edit.texturing (.positional 0) ∧
    ¬ (reached.reading .float Edit.texturing (.positional 0) =
        ShaderGraph.defaultReading .float Edit.texturing (.positional 0) slot ↔
      reached.usesDefault Edit.texturing (.positional 0) = true) ∧
    (reached.reading .float Edit.texturing (.positional 0)).text .float = "_Sample_00000000_Map" := by
  intro start reached slot
  have found : Edit.texturing.slots.get? (.positional 0) = some slot := by decide +kernel
  have vain : reached.FedInVain Edit.texturing (.positional 0) :=
    ⟨Edit.unexposed, .positional 0, by decide +kernel, .inr ⟨⟨4, 3⟩, rfl, by decide +kernel⟩⟩
  obtain ⟨reads, agrees, text⟩ := reached.reads_default .float found
  refine ⟨found, reads, vain, fun same => agrees.1 same vain, ?_⟩
  rw [reads.2 (.inr vain), text]
  decide +kernel

/-- No step is refused. The code passes the uniform of the input, which nothing declares; without a slot
at the source it is the same. -/
theorem stray_reads_undeclared :
    let start := ShaderGraph.root ⟨4, 5⟩ "Stray"
    let reached := Edit.stray.foldl Edit.apply start
    let slotless := reached.modifyNode ⟨4, 2⟩ fun node => { node with slots := .empty }
    let name := "_Sample_00000000_Map"
    let slot := Slot.make (.positional 0) "Map" "Map" .input .texture2D
    Edit.AllAdmitted start Edit.stray ∧ Edit.allSucceed start Edit.stray ∧
    reached.node? ⟨4, 1⟩ = some Edit.texturing ∧
    Edit.texturing.slots.get? (.positional 0) = some slot ∧ slot.isInput = true ∧
    ∀ graph ∈ [reached, slotless], graph.reading .float Edit.texturing (.positional 0) =
        ShaderGraph.defaultReading .float Edit.texturing (.positional 0) slot ∧
      graph.usesDefault Edit.texturing (.positional 0) = false ∧
      name ∈ (graph.routine Assets.empty.view .standard "Entry" true).uniforms ∧
      (Assets.empty.view.uniforms graph).contains name = false := by
  decide +kernel

end NodeShader
