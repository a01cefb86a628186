import NodeShader.Proofs.CallSite
import NodeShader.Proofs.Numbering
import NodeShader.Proofs.Sorting

/-! What the function of a definition returns. Its header is made from the designated output node, its
body from all active nodes in their order. When this node is the only one of its kind, is enabled and not
broken, the two agree: each outlet is a parameter, and is assigned to once. -/
namespace NodeShader

def Parameter.out? : Parameter → Option (String × ValueType)
  | .out name type => some (name, type)
  | _ => none

def Statement.assigned? : Statement → Option (String × Reading)
  | .assign target value => some (target, value)
  | _ => none

/-- The text of a statement that is no assignment. The names in it are as they are. -/
inductive Text.IsAside (precision : Precision) : String → Prop
  | declare (type : ValueType) (name : String) :
    IsAside precision (type.keyword precision ++ " " ++ name ++ ";")
  | declareZero (type : ValueType) (name : String) :
    IsAside precision (type.keyword precision ++ " " ++ name ++ " = " ++ type.zeroLiteral precision ++ ";")
  | call (function : String) (arguments : List String) :
    IsAside precision (function ++ "(" ++ ", ".intercalate arguments ++ ");")
  | errorRemark (name : String) : IsAside precision ("// " ++ name ++ " has errors")

theorem Statement.isAside_text (precision : Precision) {statement : Statement}
    (other : statement.assigned? = none) : Text.IsAside precision (statement.text precision) := by
  cases statement with
  | declare cell type => exact .declare type cell.name
  | declareZero cell type => exact .declareZero type cell.name
  | call function arguments => exact .call function (arguments.map (Argument.text precision))
  | assign target value => contradiction
  | errorRemark name => exact .errorRemark name

namespace Routine

def returned (routine : Routine) : List (String × ValueType) :=
  routine.parameters.filterMap Parameter.out?

def assigned (routine : Routine) : List (String × Reading) :=
  routine.statements.filterMap Statement.assigned?

end Routine

namespace SlotTable

/-- The inputs as they are filed, in ascending order of the ids that they are filed under. -/
def filedInputs (table : SlotTable) : List (SlotId × Slot) :=
  table.entries.filter fun entry => entry.2.isInput

theorem inputs_eq (table : SlotTable) : table.inputs = table.filedInputs.map (·.2) := by
  rw [inputs, slots, List.filter_map]
  rfl

theorem ascending_filedInputs (table : SlotTable) : Ascending table.filedInputs :=
  table.ascending.sublist List.filter_sublist

/-- Inputs that are filed under their own ids are in ascending order of these and found by them. -/
theorem ascending_inputs {table : SlotTable}
    (own : ∀ entry ∈ table.filedInputs, entry.2.id = entry.1) :
    table.inputs.Pairwise (fun x y => x.id.value < y.id.value) ∧
      ∀ slot ∈ table.inputs, table.get? slot.id = some slot := by
  rw [inputs_eq]
  constructor
  · rw [List.pairwise_map]
    apply table.ascending_filedInputs.imp_of_mem
    intro x y first second less
    rw [own x first, own y second]
    exact less
  · intro slot member
    obtain ⟨entry, listed, rfl⟩ := List.mem_map.1 member
    rw [own entry listed]
    exact (table.get?_eq_some_iff _ _).2 (List.mem_of_mem_filter listed)

end SlotTable

namespace ShaderGraph
variable {graph : ShaderGraph} {view : View} {settings : Settings}

/-- The designated output node is the only one of its kind, is enabled and not broken. -/
structure ReturnsBy (graph : ShaderGraph) (id : NodeId) (node : Node) : Prop where
  designated : graph.outputNode = some id
  known : graph.node? id = some node
  kind : node.kind = .output
  enabled : node.enabled = true
  sound : node.hasError = false
  only : ∀ other ∈ graph.nodes.entries, other.2.kind = .output → other.1 = id

instance (graph : ShaderGraph) (id : NodeId) (node : Node) : Decidable (graph.ReturnsBy id node) :=
  decidable_of_iff (graph.outputNode = some id ∧ graph.node? id = some node ∧ node.kind = .output ∧
      node.enabled = true ∧ node.hasError = false ∧
      ∀ other ∈ graph.nodes.entries, other.2.kind = .output → other.1 = id)
    ⟨fun ⟨designated, known, kind, enabled, sound, only⟩ =>
      ⟨designated, known, kind, enabled, sound, only⟩,
    fun ⟨designated, known, kind, enabled, sound, only⟩ =>
      ⟨designated, known, kind, enabled, sound, only⟩⟩

theorem assigned?_of_declarations {α : Type} {items : List α} {declared : α → Statement}
    (plain : ∀ item, (declared item).assigned? = none) {statement : Statement}
    (member : statement ∈ items.map declared) : statement.assigned? = none := by
  obtain ⟨item, _, rfl⟩ := List.mem_map.1 member
  exact plain item

theorem assigned?_of_call {α : Type} {items : List α} {declared : α → Statement} {function : String}
    {arguments : List Argument} (plain : ∀ item, (declared item).assigned? = none)
    {statement : Statement} (member : statement ∈ items.map declared ++ [.call function arguments]) :
    statement.assigned? = none := by
  rcases List.mem_append.1 member with inside | last
  · exact assigned?_of_declarations plain inside
  · rw [List.mem_singleton.1 last]
    rfl

theorem assigned?_of_mem_statements {node : Node} (other : node.kind ≠ .output)
    {statement : Statement} (member : statement ∈ graph.statements view settings node) :
    statement.assigned? = none := by
  unfold statements at member
  split at member
  next =>
    rcases List.mem_cons.1 member with rfl | inside
    · rfl
    · exact assigned?_of_declarations (fun _ => rfl) inside
  next =>
    split at member
    next => exact assigned?_of_call (fun _ => rfl) member
    next =>
      split at member
      next => exact assigned?_of_call (fun _ => rfl) member
      next => exact absurd member List.not_mem_nil
    next kind => exact absurd kind other
    next => exact absurd member List.not_mem_nil

theorem returned_routine (graph : ShaderGraph) (view : View) (settings : Settings) (name : String)
    (withProperties : Bool) : (graph.routine view settings name withProperties).returned =
      graph.outputs.map fun outlet => (outlet.referenceName, outlet.type) := by
  have given : (if withProperties then graph.propertyParameters else []).filterMap Parameter.out? =
      [] := by
    apply List.filterMap_eq_nil_iff.2
    intro parameter member
    split at member
    next =>
      obtain ⟨property, _, made⟩ := List.mem_filterMap.1 member
      split at made
      next =>
        cases made
        rfl
      next => contradiction
    next => exact absurd member List.not_mem_nil
  rw [Routine.returned, routine, List.filterMap_append, List.filterMap_append, given, List.filterMap_map]
  simp [Parameter.out?, Function.comp_def]

namespace ReturnsBy
variable {id : NodeId} {node : Node} (returns : graph.ReturnsBy id node)
include returns

theorem outputs : graph.outputs = node.slots.inputs := by
  simp [ShaderGraph.outputs, output?, returns.designated, returns.known]

theorem statements_eq : graph.statements view settings node = graph.outputStatements settings node := by
  simp [statements, returns.sound, returns.kind]

theorem kind_of_mem_active {entry : NodeId × Node} (member : entry ∈ graph.active)
    (other : entry ≠ (id, node)) : entry.2.kind ≠ .output := by
  intro kind
  have known : graph.node? entry.1 = some entry.2 := Graph.node?_of_mem_active member
  have same := returns.only entry ((graph.nodes.get?_eq_some_iff _ _).1 known) kind
  rw [same, returns.known] at known
  exact other (Prod.ext same (Option.some.inj known).symm)

/-- The output node is active once, so its code stands in one place, and there are no assignments in
what is before and behind it. -/
theorem exists_statements (name : String) (withProperties : Bool) : ∃ before after,
    (graph.routine view settings name withProperties).statements =
      before ++ graph.outputStatements settings node ++ after ∧
    ∀ statement ∈ before ++ after, statement.assigned? = none := by
  have filed := (graph.nodes.get?_eq_some_iff id node).1 returns.known
  have member : (id, node) ∈ graph.active :=
    graph.active_perm.mem_iff.2 (List.mem_filter.2 ⟨filed, returns.enabled⟩)
  obtain ⟨front, back, split⟩ := List.append_of_mem member
  have once := graph.nodup_active
  rw [split, List.nodup_middle, List.nodup_cons] at once
  let code := fun entry : NodeId × Node => graph.statements view settings entry.2
  refine ⟨front.flatMap code, back.flatMap code, ?_, ?_⟩
  · rw [Routine.statements, routine, List.flatMap_map, split, List.flatMap_append, List.flatMap_cons,
      returns.statements_eq, List.append_assoc]
  · intro statement written
    rw [← List.flatMap_append] at written
    obtain ⟨entry, elsewhere, inside⟩ := List.mem_flatMap.1 written
    have active : entry ∈ graph.active := by
      rw [split, List.mem_append, List.mem_cons]
      rcases List.mem_append.1 elsewhere with early | late
      · exact .inl early
      · exact .inr (.inr late)
    have other : entry ≠ (id, node) := fun same => once.1 (same ▸ elsewhere)
    exact assigned?_of_mem_statements (returns.kind_of_mem_active active other) inside

theorem returned_routine (name : String) (withProperties : Bool) :
    (graph.routine view settings name withProperties).returned =
      node.slots.filedInputs.map fun entry => (entry.2.referenceName, entry.2.type) := by
  rw [ShaderGraph.returned_routine, returns.outputs, SlotTable.inputs_eq, List.map_map]
  rfl

theorem assigned_routine (name : String) (withProperties : Bool) :
    (graph.routine view settings name withProperties).assigned =
      node.slots.filedInputs.map fun entry =>
        (entry.2.referenceName, graph.reading settings.precision node entry.2.id) := by
  obtain ⟨before, after, split, others⟩ := returns.exists_statements name withProperties
  have front : before.filterMap Statement.assigned? = [] :=
    List.filterMap_eq_nil_iff.2 fun statement member => others statement (List.mem_append_left _ member)
  have back : after.filterMap Statement.assigned? = [] :=
    List.filterMap_eq_nil_iff.2 fun statement member => others statement (List.mem_append_right _ member)
  rw [Routine.assigned, split, List.filterMap_append, List.filterMap_append, front, back,
    outputStatements, SlotTable.inputs_eq, List.filterMap_map, List.filterMap_map]
  simp [Statement.assigned?, Function.comp_def]

end ReturnsBy

/-- What the function of a graph takes besides its outlets, as it is written: its properties if wanted, and
the context. -/
def TakesIn (graph : ShaderGraph) (settings : Settings) (withProperties : Bool) (texts : List String) :
    Prop :=
  ∃ properties, texts = properties ++ [settings.contextType ++ " " ++ settings.contextArgument] ∧
    List.Forall₂ (fun exposed text =>
        exposed.2.TakenAs settings.precision exposed.1.referenceName text)
      (if withProperties then graph.representable else []) properties

/-- The text is a function with an `out` for each outlet in its head, and an assignment for each in its
body between statements that are no assignments. -/
structure ReturnsText (graph : ShaderGraph) (settings : Settings) (withProperties : Bool) (node : Node)
    (name text : String) (taken assignments : List String) (before after : List Statement) : Prop where
  function : Text.IsFunction text
    ("void " ++ name ++ "(" ++ ", ".intercalate (taken ++ node.slots.filedInputs.map fun entry =>
      "out " ++ entry.2.type.keyword settings.precision ++ " " ++ entry.2.referenceName) ++ ")")
    (before.map (Statement.text settings.precision) ++ assignments ++
      after.map (Statement.text settings.precision))
  taken : graph.TakesIn settings withProperties taken
  assigned : List.Forall₂ (fun entry text => ∃ value,
      graph.ReadsAs settings.precision node entry.2.id value ∧
        text = entry.2.referenceName ++ " = " ++ value ++ ";")
    node.slots.filedInputs assignments
  others : ∀ statement ∈ before ++ after, statement.assigned? = none ∧
    Text.IsAside settings.precision (statement.text settings.precision)

/-- The function of a graph has a parameter for each outlet and assigns to each once, both in the order in
which the outlets are filed. What an outlet is assigned is read by the id that it carries, which is the
one it is filed under unless it was misfiled. The other statements assign to nothing. -/
structure ReturnsOnce (graph : ShaderGraph) (settings : Settings) (withProperties : Bool) (node : Node)
    (name : String) (routine : Routine) : Prop where
  parameters : routine.returned =
    node.slots.filedInputs.map fun entry => (entry.2.referenceName, entry.2.type)
  assignments : routine.assigned = node.slots.filedInputs.map fun entry =>
    (entry.2.referenceName, graph.reading settings.precision node entry.2.id)
  ascending : Ascending node.slots.filedInputs
  written : ∃ taken assignments before after, graph.ReturnsText settings withProperties node name
    (routine.text settings.precision) taken assignments before after
  own : (∀ entry ∈ node.slots.filedInputs, entry.2.id = entry.1) →
    node.slots.inputs.Pairwise (fun x y => x.id.value < y.id.value) ∧
      ∀ port ∈ node.slots.inputs, node.slots.get? port.id = some port

theorem takesIn (graph : ShaderGraph) (settings : Settings) (withProperties : Bool) :
    graph.TakesIn settings withProperties
      (((if withProperties then graph.propertyParameters else []) ++
        [Parameter.context settings.contextType settings.contextArgument]).map
          (Parameter.text settings.precision)) := by
  refine ⟨(if withProperties then graph.propertyParameters else []).map
    (Parameter.text settings.precision), List.map_append, ?_⟩
  cases withProperties with
  | false => exact .nil
  | true =>
    simp only [if_true, propertyParameters_eq, List.map_map]
    rw [List.forall₂_map_right_iff, List.forall₂_same]
    exact fun exposed _ => exposed.2.takenAs settings.precision exposed.1.referenceName

theorem ReturnsBy.exists_returnsText {id : NodeId} {node : Node} (returns : graph.ReturnsBy id node)
    (view : View) (settings : Settings) (name : String) (withProperties : Bool) :
    ∃ taken assignments before after, graph.ReturnsText settings withProperties node name
      ((graph.routine view settings name withProperties).text settings.precision)
      taken assignments before after := by
  obtain ⟨before, after, split, others⟩ :=
    @exists_statements graph view settings id node returns name withProperties
  let routine := graph.routine view settings name withProperties
  let written := Statement.text settings.precision
  have parameters : routine.parameters.map (Parameter.text settings.precision) = _ ++ _ := List.map_append
  have statements : routine.statements.map written =
      before.map written ++ (graph.outputStatements settings node).map written ++ after.map written := by
    rw [split, List.map_append, List.map_append]
  have function := routine.text_isFunction settings.precision
  rw [parameters, statements, returns.outputs, SlotTable.inputs_eq, List.map_map, List.map_map] at function
  refine ⟨_, _, before, after, function, graph.takesIn settings withProperties, ?_, ?_⟩
  · rw [outputStatements, SlotTable.inputs_eq, List.map_map, List.map_map, List.forall₂_map_right_iff,
      List.forall₂_same]
    exact fun entry _ => ⟨_, graph.readsAs_reading settings.precision node entry.2.id, rfl⟩
  · intro statement member
    have plain := others statement member
    exact ⟨plain, statement.isAside_text settings.precision plain⟩

theorem routine_returnsOnce (graph : ShaderGraph) (view : View) (settings : Settings) {id : NodeId}
    {node : Node} (returns : graph.ReturnsBy id node) (name : String) (withProperties : Bool) :
    (∀ entry ∈ graph.active, entry.1 ≠ id →
      ∀ statement ∈ graph.statements view settings entry.2, statement.assigned? = none ∧
        Text.IsAside settings.precision (statement.text settings.precision)) ∧
    graph.ReturnsOnce settings withProperties node name
      (graph.routine view settings name withProperties) := by
  constructor
  · intro entry active other statement member
    have apart : entry ≠ (id, node) := fun same => other (congrArg Prod.fst same)
    have plain := assigned?_of_mem_statements (returns.kind_of_mem_active active apart) member
    exact ⟨plain, statement.isAside_text settings.precision plain⟩
  · exact ⟨returns.returned_routine name withProperties, returns.assigned_routine name withProperties,
      node.slots.ascending_filedInputs, returns.exists_returnsText view settings name withProperties,
      SlotTable.ascending_inputs⟩

/-- In a graph that was made by editing the outlets are numbered, and each reads its own input. -/
theorem returns_of_numbered (graph : ShaderGraph) (view : View) (settings : Settings) {id : NodeId}
    {node : Node} {count : Nat} (numbered : graph.Numbered id count) (returns : graph.ReturnsBy id node)
    (name : String) (withProperties : Bool) :
    let routine := graph.routine view settings name withProperties
    let numbers := (List.range count).map (· + 1)
    routine.returned = numbers.map (fun number => ("Output" ++ toString number, .vector4)) ∧
      routine.assigned = numbers.map fun number => ("Output" ++ toString number,
        graph.reading settings.precision node (.positional number)) := by
  intro routine numbers
  obtain ⟨other, known, outlets⟩ := numbered.present
  cases known.symm.trans returns.known
  have filed : node.slots.filedInputs =
      numbers.map fun number => (.positional number, .numbered number) := by
    rw [SlotTable.filedInputs, outlets.outlets, Node.firstOutlets, List.map_map]
    apply List.filter_eq_self.2
    intro entry member
    obtain ⟨index, _, rfl⟩ := List.mem_map.1 member
    rfl
  constructor
  · rw [returns.returned_routine name withProperties, filed, List.map_map]
    rfl
  · rw [returns.assigned_routine name withProperties, filed, List.map_map]
    rfl

end ShaderGraph

theorem edited_returns (guid : Guid) (name : String) (output : NodeId) (edits : List Edit)
    (admitted : Edit.AllAdmitted (.subGraph guid name output) edits) {node : Node}
    (returns : (edits.foldl Edit.apply (.subGraph guid name output)).ReturnsBy output node)
    (view : View) (settings : Settings) (function : String) (withProperties : Bool) :
    let reached := edits.foldl Edit.apply (.subGraph guid name output)
    let routine := reached.routine view settings function withProperties
    let numbers := (List.range (edits.foldl Edit.tally 0)).map (· + 1)
    routine.returned = numbers.map (fun number => ("Output" ++ toString number, .vector4)) ∧
      routine.assigned = numbers.map fun number => ("Output" ++ toString number,
        reached.reading settings.precision node (.positional number)) := by
  have kept : (ShaderGraph.subGraph guid name output).Kept := .new (.subGraph guid name output)
  have numbered := Edit.run_numbered kept (.new guid name output) admitted
  exact ShaderGraph.returns_of_numbered _ view settings numbered returns function withProperties

namespace ShaderGraph

/-- Two relays that read from each other, a texture, and two outlets, the second of them fed. -/
def entangled : ShaderGraph :=
  let reached := [.addNode (Edit.relay ⟨5, 1⟩), .addNode (Edit.relay ⟨5, 2⟩), .addOutput, .addOutput,
    .addProperty ⟨⟨5, 7⟩, "Base", "Base", .texture none⟩,
    .connect ⟨5, 4⟩ ⟨⟨5, 2⟩, .positional 1⟩ ⟨⟨5, 0⟩, .positional 2⟩].foldl Edit.apply
      (.subGraph ⟨5, 9⟩ "Entangled" ⟨5, 0⟩)
  let joined (number source target : UInt64) : Guid × Connection :=
    (⟨5, number⟩, ⟨⟨5, number⟩, ⟨⟨5, source⟩, .positional 1⟩, ⟨⟨5, target⟩, .positional 0⟩⟩)
  { reached with filed := reached.filed ++ [joined 5 1 2, joined 6 2 1] }

def pairing : Node := ((Node.outputNode ⟨5, 0⟩).addSlot (Node.outlet 1)).addSlot (Node.outlet 2)

theorem entangled_returnsOnce :
    entangled.topologicalOrder = none ∧ entangled.ReturnsBy ⟨5, 0⟩ pairing ∧
    (∀ entry ∈ entangled.active, entry.1 ≠ ⟨5, 0⟩ →
      ∀ statement ∈ entangled.statements Assets.empty.view .standard entry.2,
        statement.assigned? = none ∧ Text.IsAside .float (statement.text .float)) ∧
    let routine := entangled.routine Assets.empty.view .standard "Entangled" true
    entangled.ReturnsOnce .standard true pairing "Entangled" routine ∧
      Text.IsFunction (routine.text .float)
        ("void Entangled(TEXTURE2D_ARGS(Base, samplerBase), SurfaceInputs IN, " ++
          "out float4 Output1, out float4 Output2)")
        ["Output1 = float4(0, 0, 0, 0);", "Output2 = _Relay_00000000_Out;",
          "float4 _Relay_00000000_Out;", "relay(_Relay_00000000_Out, _Relay_00000000_Out);",
          "float4 _Relay_00000000_Out;", "relay(_Relay_00000000_Out, _Relay_00000000_Out);"] := by
  have cyclic : entangled.topologicalOrder = none := by decide +kernel
  have returns : entangled.ReturnsBy ⟨5, 0⟩ pairing := by decide +kernel
  obtain ⟨others, once⟩ :=
    entangled.routine_returnsOnce Assets.empty.view .standard returns "Entangled" true
  refine ⟨cyclic, returns, others, once, ?_⟩
  convert Routine.text_isFunction .float _ using 1 <;> decide +kernel

/-- An output node whose outlets are filed under each other's ids. -/
def swapping : Node :=
  { Node.outputNode ⟨6, 0⟩ with
    slots := .ofList
      [(.positional 1, { Node.outlet 2 with default := .vector4 (.replicate 4 .one) }),
        (.positional 2, { Node.outlet 1 with default := .vector4 (.replicate 4 .half) })] }

def swapped : ShaderGraph := (subGraph ⟨6, 9⟩ "Swapped" ⟨6, 0⟩).modifyNode ⟨6, 0⟩ fun _ => swapping

/-- A node with an error whose name falls into two lines, the second of them an assignment. -/
def remarking : ShaderGraph :=
  [.addOutput, .addNode { Edit.relay ⟨7, 1⟩ with name := "x\nOutput1 = 1;//", hasError := true }].foldl
    Edit.apply (.subGraph ⟨7, 9⟩ "Remarking" ⟨7, 0⟩)

/-- Of outlets that were misfiled the first does not have the smallest id, and each is assigned the
value of the other. The name of a node with an error may come out as an assignment of its own. -/
theorem misfiled_outlets_swapped :
    swapped.ReturnsBy ⟨6, 0⟩ swapping ∧
    (let routine := swapped.routine Assets.empty.view .standard "Swapped" true
    routine.returned.map (·.1) = swapping.slots.inputs.map (·.referenceName) ∧
      ¬ swapping.slots.inputs.Pairwise (fun x y => x.id.value < y.id.value) ∧
      routine.assigned = [("Output2", .literal "float4(0.5, 0.5, 0.5, 0.5)"),
        ("Output1", .literal "float4(1, 1, 1, 1)")] ∧
      (∀ entry ∈ swapping.slots.filedInputs, (entry.2.referenceName,
        swapped.reading .float swapping entry.1) ∉ routine.assigned) ∧
      routine.text .float =
        "void Swapped(SurfaceInputs IN, out float4 Output2, out float4 Output1)\n\x7b\n" ++
          "    Output2 = float4(0.5, 0.5, 0.5, 0.5);\n    Output1 = float4(1, 1, 1, 1);\n\x7d\n") ∧
    remarking.ReturnsBy ⟨7, 0⟩ ((Node.outputNode ⟨7, 0⟩).addSlot (Node.outlet 1)) ∧
    (remarking.routine Assets.empty.view .standard "Remarking" true).text .float =
      "void Remarking(SurfaceInputs IN, out float4 Output1)\n\x7b\n" ++
        "    Output1 = float4(0, 0, 0, 0);\n    // x\n    Output1 = 1;// has errors\n" ++
        "    float4 _x_Output1___1____00000000_Out = float4(0, 0, 0, 0);\n\x7d\n" := by
  decide +kernel

end ShaderGraph
end NodeShader
