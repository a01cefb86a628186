import NodeShader.Proofs.Binding
import NodeShader.Proofs.Digits
import Mathlib.Data.List.Nodup

/-! Names of locals and uniforms. The parts of such a name are the name of a node, its short id and what its
slot is called, and the underscore between them may also occur inside the first and the last. So nodes with
different short ids can share a name, namely when what one of them calls its slot begins by going on with the
name of the other and then gives its id and slot; in no other way. -/
namespace NodeShader

namespace Text

/-- Two texts made of a front, a word of fixed length without underscores and a back agree only in all parts,
or in such a way that the back of one goes on with the front of the other. Here the one with the shorter
front. -/
theorem parts_of_append (front : List Char) {more word other back rest : List Char} (plain : '_' ∉ word)
    (length : word.length = other.length)
    (same : '_' :: (word ++ '_' :: back) = more ++ '_' :: (other ++ '_' :: rest)) :
    (more = [] ∧ word = other ∧ back = rest) ∨
      ∃ middle, front ++ more ++ ['_'] = front ++ '_' :: (word ++ '_' :: middle) ∧
        back = middle ++ other ++ '_' :: rest := by
  cases more with
  | nil =>
    obtain ⟨words, backs⟩ := List.append_inj (List.cons.inj same).2 length
    exact .inl ⟨rfl, words, (List.cons.inj backs).2⟩
  | cons c more =>
    obtain ⟨rfl, inner⟩ := List.cons.inj same
    right
    rcases List.append_eq_append_iff.1 inner with ⟨beyond, rfl, tail⟩ | ⟨cut, rfl, tail⟩
    · cases beyond with
      | nil => exact ⟨[], by simp, by simpa using tail⟩
      | cons d beyond =>
        obtain ⟨rfl, backs⟩ := List.cons.inj tail
        exact ⟨beyond ++ ['_'], by simp, by simp [backs]⟩
    · cases cut with
      | nil => exact ⟨[], by simp, by simpa using tail.symm⟩
      | cons d cut =>
        obtain ⟨rfl, _⟩ := List.cons.inj tail
        exact absurd (by simp) plain

end Text

/-- A slot of a node, and the id that it is filed under. -/
structure Place where
  node : Node
  id : SlotId
  slot : Slot
deriving DecidableEq

namespace Place

def name (place : Place) : String := place.node.variableName place.id

/-- The reference name of the slot goes on as the name of the other node does behind the name and id of this
one, and then gives the id of that node and what its slot is called. -/
def RunsInto (place other : Place) : Prop :=
  ∃ middle, Text.identifier other.node.name ++ "_" =
      Text.identifier place.node.name ++ "_" ++ place.node.id.guid.short ++ "_" ++ middle ∧
    place.slot.referenceName = middle ++ other.node.id.guid.short ++ "_" ++ other.slot.referenceName

theorem RunsInto.ne {place other : Place} (runs : place.RunsInto other) : place ≠ other := by
  rintro rfl
  obtain ⟨middle, same, _⟩ := runs
  have lengths := congrArg String.length same
  simp only [String.length_append] at lengths
  have eight := Guid.length_short place.node.id.guid
  rw [String.length_toList] at eight
  omega

theorem RunsInto.mem {place other : Place} (runs : place.RunsInto other) :
    '_' ∈ place.slot.referenceName.toList := by
  obtain ⟨middle, _, slots⟩ := runs
  rw [slots]
  simp [String.toList_append]

end Place

namespace Graph

def places (graph : Graph) : List Place :=
  graph.nodes.values.flatMap fun node => node.slots.entries.map fun entry => ⟨node, entry.1, entry.2⟩

/-- The short ids tell the nodes apart, and the reference names tell the slots of each node apart. -/
structure Discernible (graph : Graph) : Prop where
  nodes : (graph.nodes.values.map fun node => node.id.guid.short).Nodup
  slots : ∀ node ∈ graph.nodes.values, (node.slots.slots.map (·.referenceName)).Nodup

instance (graph : Graph) : Decidable graph.Discernible :=
  decidable_of_iff ((graph.nodes.values.map fun node => node.id.guid.short).Nodup ∧
      ∀ node ∈ graph.nodes.values, (node.slots.slots.map (·.referenceName)).Nodup)
    ⟨fun ⟨nodes, slots⟩ => ⟨nodes, slots⟩, fun ⟨nodes, slots⟩ => ⟨nodes, slots⟩⟩

variable {graph : Graph} {place other : Place}

theorem mem_places_iff : place ∈ graph.places ↔
    place.node ∈ graph.nodes.values ∧ (place.id, place.slot) ∈ place.node.slots.entries := by
  constructor
  · intro member
    obtain ⟨node, filed, inside⟩ := List.mem_flatMap.1 member
    obtain ⟨entry, listed, rfl⟩ := List.mem_map.1 inside
    exact ⟨filed, listed⟩
  · rintro ⟨filed, listed⟩
    exact List.mem_flatMap.2 ⟨place.node, filed, List.mem_map.2 ⟨_, listed, rfl⟩⟩

theorem toList_name (member : place ∈ graph.places) : place.name.toList =
    '_' :: ((Text.identifier place.node.name).toList ++
      '_' :: (place.node.id.guid.short.toList ++ '_' :: place.slot.referenceName.toList)) := by
  have found := (place.node.slots.get?_eq_some_iff place.id place.slot).2 (mem_places_iff.1 member).2
  simp only [Place.name, Node.variableName, found, String.toList_append]
  simp

theorem name_of_runsInto (member : place ∈ graph.places) (member' : other ∈ graph.places)
    (runs : place.RunsInto other) : place.name = other.name := by
  obtain ⟨middle, names, slots⟩ := runs
  rw [← String.toList_inj, toList_name member, toList_name member', slots]
  have fronts := congrArg String.toList names
  simp only [String.toList_append] at fronts
  have joined := congrArg (· ++ (other.node.id.guid.short.toList ++ '_' ::
    other.slot.referenceName.toList)) fronts
  simpa [String.toList_append] using joined.symm

/-- Where the name of the one node is at most as long as that of the other. -/
theorem runsInto_of_name {more : List Char} (member : place ∈ graph.places)
    (member' : other ∈ graph.places) (same : place.name = other.name)
    (longer : (Text.identifier other.node.name).toList =
      (Text.identifier place.node.name).toList ++ more) :
    (place.node.id.guid.short = other.node.id.guid.short ∧
      place.slot.referenceName = other.slot.referenceName) ∨ place.RunsInto other := by
  have texts := congrArg String.toList same
  rw [toList_name member, toList_name member', longer, List.append_assoc] at texts
  have inner := List.append_cancel_left (List.cons.inj texts).2
  have length : place.node.id.guid.short.toList.length = other.node.id.guid.short.toList.length := by
    rw [Guid.length_short, Guid.length_short]
  rcases Text.parts_of_append (Text.identifier place.node.name).toList
    (Guid.not_mem_short _) length inner with ⟨_, shorts, names⟩ | ⟨middle, fronts, backs⟩
  · exact .inl ⟨String.toList_inj.1 shorts, String.toList_inj.1 names⟩
  · refine .inr ⟨String.ofList middle, ?_, ?_⟩
    · rw [← String.toList_inj]
      simpa [String.toList_append, longer] using fronts
    · rw [← String.toList_inj]
      simpa [String.toList_append] using backs

namespace Discernible
variable (discernible : graph.Discernible)
include discernible

theorem nodup_referenceNames {node : Node} (filed : node ∈ graph.nodes.values) :
    (node.slots.entries.map fun entry => entry.2.referenceName).Nodup := by
  have distinct := discernible.slots node filed
  rwa [SlotTable.slots, List.map_map] at distinct

theorem eq_of_names (member : place ∈ graph.places) (member' : other ∈ graph.places)
    (shorts : place.node.id.guid.short = other.node.id.guid.short)
    (names : place.slot.referenceName = other.slot.referenceName) : place = other := by
  obtain ⟨filed, listed⟩ := mem_places_iff.1 member
  obtain ⟨filed', listed'⟩ := mem_places_iff.1 member'
  obtain ⟨node, id, slot⟩ := place
  obtain ⟨_, id', slot'⟩ := other
  obtain rfl := List.inj_on_of_nodup_map discernible.nodes filed filed' shorts
  have distinct := discernible.nodup_referenceNames filed
  obtain ⟨rfl, rfl⟩ := Prod.mk.inj (List.inj_on_of_nodup_map distinct listed listed' names)
  rfl

theorem nodup_places : graph.places.Nodup := by
  have nodes := discernible.nodes.of_map
  refine List.nodup_flatMap.2 ⟨fun node filed => ?_, nodes.imp ?_⟩
  · refine (discernible.nodup_referenceNames filed).of_map.map ?_
    rintro ⟨id, slot⟩ ⟨id', slot'⟩ same
    cases same
    rfl
  · intro node node' apart place inside inside'
    obtain ⟨_, _, rfl⟩ := List.mem_map.1 inside
    obtain ⟨_, _, same⟩ := List.mem_map.1 inside'
    exact apart (congrArg Place.node same).symm

theorem name_eq_iff (member : place ∈ graph.places) (member' : other ∈ graph.places)
    (different : place ≠ other) :
    place.name = other.name ↔ place.RunsInto other ∨ other.RunsInto place := by
  constructor
  · intro same
    have texts := congrArg String.toList same
    rw [toList_name member, toList_name member'] at texts
    rcases List.append_eq_append_iff.1 (List.cons.inj texts).2 with ⟨more, longer, _⟩ | ⟨more, longer, _⟩
    · rcases runsInto_of_name member member' same longer with ⟨shorts, names⟩ | runs
      · exact absurd (discernible.eq_of_names member member' shorts names) different
      · exact .inl runs
    · rcases runsInto_of_name member' member same.symm longer with ⟨shorts, names⟩ | runs
      · exact absurd (discernible.eq_of_names member' member shorts names).symm different
      · exact .inr runs
  · rintro (runs | runs)
    · exact name_of_runsInto member member' runs
    · exact (name_of_runsInto member' member runs).symm

theorem nodup_names_iff : (graph.places.map Place.name).Nodup ↔
    ∀ place ∈ graph.places, ∀ other ∈ graph.places, ¬ place.RunsInto other := by
  rw [List.nodup_map_iff_inj_on discernible.nodup_places]
  constructor
  · intro apart place member other member' runs
    exact runs.ne (apart place member other member' (name_of_runsInto member member' runs))
  · intro apart place member other member' same
    by_contra different
    rcases (discernible.name_eq_iff member member' different).1 same with runs | runs
    · exact apart place member other member' runs
    · exact apart other member' place member runs

/-- Slots without underscores in their reference names share no names. -/
theorem nodup_names_of_plain
    (plain : ∀ place ∈ graph.places, '_' ∉ place.slot.referenceName.toList) :
    (graph.places.map Place.name).Nodup :=
  discernible.nodup_names_iff.2 fun place member _ _ runs => plain place member runs.mem

end Discernible
end Graph

theorem Uniforms.entries_foldl_add {listed : List Uniform} (distinct : (listed.map Uniform.name).Nodup)
    {uniforms : Uniforms} (fresh : ∀ uniform ∈ listed, uniform.name ∉ uniforms.keys) :
    (listed.foldl add uniforms).entries =
      uniforms.entries ++ listed.map fun uniform => (uniform.name, uniform) := by
  induction listed generalizing uniforms with
  | nil => simp
  | cons uniform rest ih =>
    rw [List.map_cons, List.nodup_cons] at distinct
    have entered : (uniforms.add uniform).entries = uniforms.entries ++ [(uniform.name, uniform)] := by
      rw [entries_add, if_neg (fresh uniform List.mem_cons_self)]
    have others : ∀ other ∈ rest, other.name ∉ (uniforms.add uniform).keys := by
      intro other member known
      rcases (mem_keys_add_iff uniforms uniform other.name).1 known with old | same
      · exact fresh other (List.mem_cons_of_mem _ member) old
      · exact distinct.1 (same ▸ List.mem_map_of_mem member)
    rw [List.foldl_cons, ih distinct.2 others, entered, List.map_cons, List.append_assoc,
      List.singleton_append]

theorem Uniforms.values_foldl_add {listed : List Uniform} (distinct : (listed.map Uniform.name).Nodup) :
    (listed.foldl add .empty).values = listed := by
  rw [Keyed.values, entries_foldl_add distinct (by simp [Keyed.empty, Keyed.keys])]
  simp [Keyed.empty, Function.comp_def]

namespace ShaderGraph
variable {graph : ShaderGraph}

/-- The places whose defaults become uniforms. -/
def defaulted (graph : ShaderGraph) : List Place :=
  graph.places.filter fun place => place.slot.type.isTexture && !place.node.isOutput &&
    graph.usesDefault place.node place.slot.id && place.slot.isInput

theorem flatMap_slotUniforms (own : ∀ place ∈ graph.places, place.slot.id = place.id) :
    graph.nodes.values.flatMap graph.slotUniforms =
      graph.defaulted.map fun place => ⟨place.name, place.slot.type, place.slot.default⟩ := by
  rw [defaulted, Graph.places, List.filter_flatMap, List.map_flatMap]
  refine List.flatMap_congr fun node filed => ?_
  rw [slotUniforms, SlotTable.inputs, List.filter_filter, SlotTable.slots, List.filter_map, List.map_map,
    List.filter_map, List.map_map]
  refine List.map_congr_left fun entry member => ?_
  have same : entry.2.id = entry.1 :=
    own ⟨node, entry.1, entry.2⟩ (Graph.mem_places_iff.2 ⟨filed, List.mem_of_mem_filter member⟩)
  simp only [Function.comp_apply, Place.name, same]

/-- Where short ids tell nodes apart, and reference names the slots of each node, two slots share the name of
their local or uniform in one way only: one of them runs into the other. If none does, all names differ, and
a uniform is kept for each slot that needs one. -/
theorem names_merge_iff (discernible : graph.Discernible) :
    (∀ place ∈ graph.places, ∀ other ∈ graph.places, place ≠ other →
      (place.name = other.name ↔ place.RunsInto other ∨ other.RunsInto place)) ∧
    ((graph.places.map Place.name).Nodup ↔
      ∀ place ∈ graph.places, ∀ other ∈ graph.places, ¬ place.RunsInto other) ∧
    ((∀ place ∈ graph.places, ∀ other ∈ graph.places, ¬ place.RunsInto other) →
      (∀ place ∈ graph.places, place.slot.id = place.id) →
        ((graph.nodes.values.flatMap graph.slotUniforms).foldl Uniforms.add .empty).values =
          graph.nodes.values.flatMap graph.slotUniforms) := by
  refine ⟨fun place member other member' different => discernible.name_eq_iff member member' different,
    discernible.nodup_names_iff, fun apart own => Uniforms.values_foldl_add ?_⟩
  rw [flatMap_slotUniforms own, List.map_map]
  have names := discernible.nodup_names_iff.2 apart
  exact names.sublist (List.filter_sublist.map Place.name)

/-- A node with a texture input, the first half of its id given. -/
def textured (high : UInt64) (name reference resource : String) : Node :=
  { Node.make ⟨high, 0⟩ name (.function ⟨"custom", "custom", none, false, .none⟩) with
    slots := SlotTable.empty.add { Slot.make (.positional 1) "Map" reference .input .texture2D with
      default := .texture2D (some resource) } }

theorem names_of_namesakes :
    let graph := ((root ⟨9, 0⟩ "Root").addNode (textured 0x1000000000 "Mix" "Map_1" "a")).addNode
      (textured 0x2000000000 "Mix" "Map_1" "b")
    graph.Discernible ∧ (graph.places.map Place.name).Nodup ∧
      (∀ place ∈ graph.places, ∀ other ∈ graph.places, ¬ place.RunsInto other) ∧
      ((graph.nodes.values.flatMap graph.slotUniforms).foldl Uniforms.add .empty).values.map
        Uniform.name = ["_Mix_00000010_Map_1", "_Mix_00000020_Map_1"] := by
  intro graph
  have discernible : graph.Discernible := by decide +kernel
  have distinct : (graph.places.map Place.name).Nodup := by decide +kernel
  obtain ⟨_, merge, kept⟩ := names_merge_iff discernible
  have apart := merge.1 distinct
  refine ⟨discernible, distinct, apart, ?_⟩
  rw [kept apart (by decide +kernel)]
  decide +kernel

/-- The second of two textures is lost where the first slot runs into the second. -/
theorem names_merged :
    let first := textured 0x1000000000 "A" "00000020_Map" "a"
    let second := textured 0x2000000000 "A_00000010" "Map" "b"
    let graph := ((root ⟨9, 0⟩ "Root").addNode first).addNode second
    graph.Discernible ∧
      (∃ place ∈ graph.places, ∃ other ∈ graph.places, place.node = first ∧ other.node = second ∧
        place ≠ other ∧ place.name = other.name) ∧
      (Assets.empty.view.uniforms graph).values =
        [⟨"_A_00000010_00000020_Map", .texture2D, .texture2D (some "a")⟩] := by
  decide +kernel

end ShaderGraph
end NodeShader
