import NodeShader.Proofs.Paging
import NodeShader.Proofs.Sharing
import Mathlib.Data.List.Perm.Basic

/-! Graphs that differ in the order in which their active nodes are worked off. Everything that is
collected on the way then comes in another order, and the tables made of it may keep another text or
another uniform under a name that stands for several; apart from that the same comes out, with the lines
of the entry function in another order. -/
namespace NodeShader

/-- The same active nodes, each of which reads from the same nodes as before, under the same properties
and outlets. -/
structure ShaderGraph.Rearranges (other graph : ShaderGraph) : Prop where
  active : other.active.Perm graph.active
  properties : other.properties = graph.properties
  outputs : other.outputs = graph.outputs
  sources : ∀ entry ∈ graph.active, ∀ slot,
    other.source? entry.2 slot = graph.source? entry.2 slot

namespace ShaderGraph.Rearranges
variable {other graph : ShaderGraph} (rearranges : other.Rearranges graph)
include rearranges

theorem sound : other.sound.Perm graph.sound := rearranges.active.filter _

theorem fedReading (slot : Slot) (source : Node) (place : SlotId) :
    other.fedReading slot source place = graph.fedReading slot source place := by
  simp only [ShaderGraph.fedReading, property?, rearranges.properties]

variable {entry : NodeId × Node} (active : entry ∈ graph.active)
include active

theorem reading (precision : Precision) (slot : SlotId) :
    other.reading precision entry.2 slot = graph.reading precision entry.2 slot := by
  simp only [ShaderGraph.reading, rearranges.sources entry active, rearranges.fedReading]

theorem slotUniforms : other.slotUniforms entry.2 = graph.slotUniforms entry.2 := by
  simp only [ShaderGraph.slotUniforms, usesDefault, rearranges.sources entry active]

theorem propertyArgument (precision : Precision) (property : Property) :
    other.propertyArgument precision entry.2 property =
      graph.propertyArgument precision entry.2 property := by
  simp only [ShaderGraph.propertyArgument, rearranges.reading active]

theorem statements (view : View) (settings : Settings) :
    other.statements view settings entry.2 = graph.statements view settings entry.2 := by
  have arguments : other.propertyArgument settings.precision entry.2 =
      graph.propertyArgument settings.precision entry.2 :=
    funext (rearranges.propertyArgument active settings.precision)
  simp only [ShaderGraph.statements, functionStatements, wrapperStatements, outputStatements,
    rearranges.reading active, arguments]

omit active
variable (view : View) (settings : Settings) (name : String) (withProperties : Bool)

theorem header : (other.routine view settings name withProperties).header settings.precision =
    (graph.routine view settings name withProperties).header settings.precision := by
  simp only [Routine.header, routine, propertyParameters, rearranges.properties, rearranges.outputs]

theorem routine_statements : (other.routine view settings name withProperties).statements.Perm
    (graph.routine view settings name withProperties).statements := by
  simp only [Routine.statements, routine, List.flatMap_map]
  refine rearranges.active.flatMap fun entry listed => ?_
  rw [rearranges.statements (rearranges.active.subset listed)]

theorem bodyLines :
    ((other.routine view settings name withProperties).bodyLines settings.precision).Perm
      ((graph.routine view settings name withProperties).bodyLines settings.precision) :=
  (rearranges.routine_statements view settings name withProperties).flatMap_right _

end ShaderGraph.Rearranges

namespace View

/-- What is read off the events of a walk comes in the order of the nodes that the walk starts from, where
it does not depend on the graph that they stand in. -/
theorem walk_flatMap_perm {α : Type} {read : Event → List α} (view : View) (chosen : Node → Bool)
    (opened : List Handle) (owner : Option Serial) {other graph : ShaderGraph}
    {others nodes : List (NodeId × Node)} (perm : others.Perm nodes)
    (same : ∀ entry ∈ nodes, ∀ site,
      read (.meet other site entry.2) = read (.meet graph site entry.2)) :
    ((view.walk chosen opened owner other others).flatMap read).Perm
      ((view.walk chosen opened owner graph nodes).flatMap read) := by
  rw [walk, walk, List.flatMap_assoc, List.flatMap_assoc]
  refine perm.flatMap fun entry listed => ?_
  rw [List.flatMap_cons, List.flatMap_cons, same entry (perm.subset listed)]

theorem walk_filterMap_perm {α : Type} {read : Event → Option α} (view : View) (chosen : Node → Bool)
    (opened : List Handle) (owner : Option Serial) {other graph : ShaderGraph}
    {others nodes : List (NodeId × Node)} (perm : others.Perm nodes)
    (same : ∀ entry ∈ nodes, ∀ site,
      read (.meet other site entry.2) = read (.meet graph site entry.2)) :
    ((view.walk chosen opened owner other others).filterMap read).Perm
      ((view.walk chosen opened owner graph nodes).filterMap read) := by
  rw [List.filterMap_eq_flatMap_toList, List.filterMap_eq_flatMap_toList]
  exact view.walk_flatMap_perm chosen opened owner perm fun entry listed site =>
    congrArg Option.toList (same entry listed site)

end View

theorem Spaces.union_right_comm (a b c : Spaces) : (a.union b).union c = (a.union c).union b := by
  simp only [union, UInt8.or_assoc, UInt8.or_comm b.bits]

theorem Requirement.combine_right_comm (a b c : Requirement) :
    (a.combine b).combine c = (a.combine c).combine b := by
  cases a <;> cases b <;> cases c
  case spaces.spaces.spaces a b c => exact congrArg spaces (a.union_right_comm b c)
  case flag.flag.flag a b c => exact congrArg flag (Bool.or_right_comm a b c)
  all_goals rfl

namespace Requirements

theorem combined_perm {records others : List Requirements} (perm : records.Perm others)
    (capability : Capability) : combined records capability = combined others capability :=
  perm.foldl_eq' (fun _ _ _ _ _ => Requirement.combine_right_comm ..) _

theorem ofList_perm {records others : List Requirements} (perm : records.Perm others) :
    ofList records = ofList others :=
  congrArg none.recordAll (funext (combined_perm perm))

end Requirements

/-- A name stands for one of the items at most. -/
def Unambiguous {α : Type} (name : α → String) (items : List α) : Prop :=
  ∀ item ∈ items, ∀ other ∈ items, name item = name other → item = other

instance {α : Type} [DecidableEq α] (name : α → String) (items : List α) :
    Decidable (Unambiguous name items) :=
  inferInstanceAs (Decidable (∀ item ∈ items, ∀ other ∈ items, name item = name other → item = other))

namespace Uniforms

/-- Where a name stands for one uniform all that were added are there. -/
theorem mem_values_iff {listed : List Uniform} (agree : Unambiguous Uniform.name listed)
    (uniform : Uniform) :
    uniform ∈ (listed.foldl add .empty).values ↔ uniform ∈ listed := by
  have added {entry : String × Uniform} (member : entry ∈ (listed.foldl add .empty).entries) :
      entry.2 ∈ listed ∧ entry.2.name = entry.1 :=
    (mem_of_mem_foldl_add member).resolve_left (by simp [Keyed.empty])
  constructor
  · intro member
    obtain ⟨entry, held, rfl⟩ := List.mem_map.1 member
    exact (added held).1
  · intro member
    obtain ⟨entry, held, name⟩ := List.mem_map.1 (@mem_keys_foldl_add _ .empty _ member)
    obtain ⟨known, same⟩ := added held
    exact List.mem_map.2 ⟨entry, held, agree _ known _ member (same.trans name)⟩

end Uniforms

namespace View

/-- The uniforms that a graph asks for, in the order in which they are asked for. -/
def wanted (view : View) (graph : ShaderGraph) : List Uniform :=
  graph.properties.filterMap Property.uniform? ++ (view.soundWalk graph).flatMap Event.uniforms

/-- What is the same in the code of two graphs, for the nodes of the first in any order. A function or a
uniform is only sure to be in both where its name stands for no other. -/
structure Matches (view : View) (settings : Settings) (graph : ShaderGraph)
    (compiled other : Compiled) : Prop where
  requirements : other.requirements = compiled.requirements
  functions : Unambiguous Prod.fst (view.offers settings graph) →
    ∀ function, function ∈ other.functions ↔ function ∈ compiled.functions
  properties : Unambiguous Uniform.name (view.wanted graph) →
    ∀ uniform, uniform ∈ other.properties ↔ uniform ∈ compiled.properties
  header : ∀ entry ∈ [compiled.entry, other.entry],
    (graph.routine view settings settings.entryPoint false).headerLines settings.precision ++
      [['\x7b']] <+: Text.lines entry.toList
  lines : (Text.lines other.entry.toList).Perm (Text.lines compiled.entry.toList)

theorem matches_of_compile {view : View} {settings : Settings} {graph changed flagged rearranged :
    ShaderGraph} {compiled other : Compiled} (rearranges : rearranged.Rearranges flagged)
    (ok : view.compile settings graph = .ok (compiled, flagged))
    (otherOk : view.compile settings changed = .ok (other, rearranged)) :
    view.Matches settings flagged compiled other := by
  obtain ⟨report, _, rfl⟩ := compile_eq_ok ok
  obtain ⟨otherReport, _, rfl⟩ := compile_eq_ok otherOk
  have offers : (view.offers settings rearranged).Perm (view.offers settings flagged) :=
    view.walk_filterMap_perm _ _ _ rearranges.sound fun _ _ _ => rfl
  have wanted : (view.wanted rearranged).Perm (view.wanted flagged) := by
    rw [View.wanted, View.wanted, rearranges.properties]
    refine (view.walk_flatMap_perm _ _ _ rearranges.sound fun entry listed _ => ?_).append_left _
    exact rearranges.slotUniforms (List.mem_filter.1 listed).1
  have declares : (declared (view.fullWalk rearranged rearranged.sound)).Perm
      (declared (view.fullWalk flagged flagged.sound)) :=
    view.walk_filterMap_perm _ _ _ rearranges.sound fun _ _ _ => rfl
  have header : (rearranged.routine view settings settings.entryPoint false).headerLines
      settings.precision =
      (flagged.routine view settings settings.entryPoint false).headerLines settings.precision := by
    rw [Routine.headerLines, rearranges.header, ← Routine.headerLines]
  constructor
  · exact Requirements.ofList_perm declares
  · intro agree function
    have texts : ∀ offer ∈ view.offers settings flagged, ∀ rival ∈ view.offers settings flagged,
        offer.1 = rival.1 → offer.2 = rival.2 :=
      fun offer here rival there name => congrArg Prod.snd (agree offer here rival there name)
    simp only [generate_eq_provideAll]
    rw [Functions.mem_provideAll_iff texts, Functions.mem_provideAll_iff, offers.mem_iff]
    exact fun offer here rival there => texts offer (offers.subset here) rival (offers.subset there)
  · intro agree uniform
    have others : Unambiguous Uniform.name (view.wanted rearranged) := fun uniform here rival there =>
      agree uniform (wanted.subset here) rival (wanted.subset there)
    exact (Uniforms.mem_values_iff others uniform).trans
      (wanted.mem_iff.trans (Uniforms.mem_values_iff agree uniform).symm)
  · intro entry member
    rcases List.mem_pair.1 member with rfl | rfl
    · rw [emit, Routine.lines_text]
      simp
    · rw [emit, Routine.lines_text, header]
      simp
  · simp only [emit, Routine.lines_text, header]
    refine .append_left _ (.cons _ (.append_right _ ?_))
    exact rearranges.bodyLines view settings settings.entryPoint false

end View
end NodeShader
