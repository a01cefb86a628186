import NodeShader.Proofs.Deriving
import NodeShader.Proofs.Wording

/-! Calls of the functions that are made of definitions. A wrapper and the definition that it stands
for agree on what is passed: both leave out the properties that no slot can carry, and neither asks
whether the slots of the wrapper are up to date. -/
namespace NodeShader

namespace ValueType

/-- How a parameter of a type is written: a texture with its sampler, anything else plainly. -/
def TakenAs (precision : Precision) (name text : String) : ValueType → Prop
  | texture2D => text = "TEXTURE2D_ARGS(" ++ name ++ ", sampler" ++ name ++ ")"
  | cubemap => text = "TEXTURECUBE_ARGS(" ++ name ++ ", sampler" ++ name ++ ")"
  | type => text = type.keyword precision ++ " " ++ name

/-- How an argument of a type is written, against a parameter of the same type. -/
def PassedAs (expression text : String) : ValueType → Prop
  | texture2D => text = "TEXTURE2D_PARAM(" ++ expression ++ ", sampler" ++ expression ++ ")"
  | cubemap => text = "TEXTURECUBE_PARAM(" ++ expression ++ ", sampler" ++ expression ++ ")"
  | _ => text = expression

theorem takenAs (type : ValueType) (precision : Precision) (name : String) :
    type.TakenAs precision name ((Parameter.property name type).text precision) := by
  cases type <;> rfl

theorem passedAs (type : ValueType) (precision : Precision) (reading : Reading) :
    type.PassedAs (reading.text precision) ((Argument.value type reading).text precision) := by
  cases type <;> rfl

end ValueType

namespace ShaderGraph

/-- The properties that a slot can carry, with the types of their slots. -/
def representable (graph : ShaderGraph) : List (Property × ValueType) :=
  graph.properties.filterMap fun property =>
    match property.slotType with
    | .ok type => some (property, type)
    | .error _ => none

/-- What a wrapper in the graph passes for a property: what its slot reads, or the default of the
property where it has no slot for it. -/
def passedFor (graph : ShaderGraph) (precision : Precision) (node : Node) (property : Property) :
    Reading :=
  if (node.slots.get? property.slotId).isSome then graph.reading precision node property.slotId
  else .literal ((property.literal precision).getD property.referenceName)

theorem propertyParameters_eq (graph : ShaderGraph) :
    graph.propertyParameters =
      graph.representable.map fun exposed => .property exposed.1.referenceName exposed.2 := by
  rw [propertyParameters, representable, List.map_filterMap]
  congr 1
  funext property
  cases property.slotType <;> rfl

theorem propertyArguments_eq (graph inner : ShaderGraph) (precision : Precision) (node : Node) :
    inner.properties.filterMap (graph.propertyArgument precision node) =
      inner.representable.map fun exposed =>
        .value exposed.2 (graph.passedFor precision node exposed.1) := by
  rw [representable, List.map_filterMap]
  congr 1
  funext property
  unfold propertyArgument
  cases property.slotType <;> rfl

/-- Only a Boolean has no slot type. -/
theorem map_representable (graph : ShaderGraph) : graph.representable.map (·.1) =
    graph.properties.filter fun property => property.kind ≠ .boolean := by
  rw [representable, List.map_filterMap, ← List.filterMap_eq_filter]
  congr 1
  funext property
  unfold Property.slotType
  cases kind : property.kind <;> simp [PropertyKind.slotType, Option.guard, kind]

theorem mem_representable_iff (graph : ShaderGraph) (property : Property) (type : ValueType) :
    (property, type) ∈ graph.representable ↔
      property ∈ graph.properties ∧ property.slotType = .ok type := by
  rw [representable, List.mem_filterMap]
  constructor
  · rintro ⟨other, member, same⟩
    split at same
    next typed =>
      cases same
      exact ⟨member, typed⟩
    next => contradiction
  · rintro ⟨member, typed⟩
    exact ⟨property, member, by simp [typed]⟩

/-- The expression that a wrapper passes for a property: what its slot reads, or the default of the
property where it has no slot for it. -/
inductive Passes (graph : ShaderGraph) (precision : Precision) (node : Node) (property : Property) :
    String → Prop
  | slot {slot : Slot} {expression : String} (found : node.slots.get? property.slotId = some slot)
      (reads : graph.ReadsAs precision node property.slotId expression) :
      Passes graph precision node property expression
  | default {type : ValueType} {default : Value} (absent : node.slots.get? property.slotId = none)
      (carried : property.value.CarriedAs type default) :
      Passes graph precision node property ((default.literal precision).getD property.referenceName)

theorem passes_passedFor (graph : ShaderGraph) (precision : Precision) (node : Node)
    {property : Property} {type : ValueType} {default : Value}
    (carried : property.value.CarriedAs type default) : graph.Passes precision node property
      ((graph.passedFor precision node property).text precision) := by
  unfold passedFor
  cases found : node.slots.get? property.slotId with
  | none => simpa [Property.literal, carried.slotValue, Reading.text] using Passes.default found carried
  | some slot => exact .slot found (graph.readsAs_reading precision node property.slotId)

/-- The arguments of a call, position by position, against the parameters of the function that a
definition becomes, as both are written: the properties that are not Boolean, the context, and the
outlets, each of which is handed a local variable that was declared with its type before. -/
structure CallFits (graph : ShaderGraph) (settings : Settings) (node : Node) (inner : ShaderGraph)
    (parameters declared arguments : List String) : Prop where
  carried : inner.representable.map (·.1) =
    inner.properties.filter fun property => property.kind ≠ .boolean
  parameters_length : parameters.length = inner.representable.length + 1 + inner.outputs.length
  declared_length : declared.length = inner.outputs.length
  arguments_length : arguments.length = parameters.length
  property : ∀ (place : Nat) property type, inner.representable[place]? = some (property, type) →
    (∃ default, property.value.CarriedAs type default) ∧ ∃ parameter argument expression,
      parameters[place]? = some parameter ∧ arguments[place]? = some argument ∧
      type.TakenAs settings.precision property.referenceName parameter ∧
      type.PassedAs expression argument ∧ graph.Passes settings.precision node property expression
  context :
    parameters[inner.representable.length]? =
        some (settings.contextType ++ " " ++ settings.contextArgument) ∧
      arguments[inner.representable.length]? = some settings.contextArgument
  outlet : ∀ (place : Nat) outlet, inner.outputs[place]? = some outlet →
    let type := outlet.type.keyword settings.precision
    let name := node.variableName outlet.id
    declared[place]? = some (type ++ " " ++ name ++ ";") ∧
      parameters[inner.representable.length + 1 + place]? =
        some ("out " ++ type ++ " " ++ outlet.referenceName) ∧
      arguments[inner.representable.length + 1 + place]? = some name

/-- Parameters and arguments are both laid out like this: one for each thing passed in, one in
between, and one for each thing handed back. -/
private theorem getElem?_laidOut {α β γ : Type} (given : List α) (into : α → γ) (between : γ)
    (returned : List β) (back : β → γ) :
    let all := given.map into ++ [between] ++ returned.map back
    (∀ (place : Nat) item, given[place]? = some item → all[place]? = some (into item)) ∧
      all[given.length]? = some between ∧
      ∀ (place : Nat) item, returned[place]? = some item →
        all[given.length + 1 + place]? = some (back item) := by
  refine ⟨?_, by simp, ?_⟩
  · intro place item listed
    have inside : place < given.length := (List.getElem?_eq_some_iff.1 listed).1
    rw [List.append_assoc, List.getElem?_append_left (by simpa using inside), List.getElem?_map,
      listed, Option.map_some]
  · intro place item listed
    rw [List.getElem?_append_right (by simp)]
    simp [listed]

section
variable (graph inner : ShaderGraph) (settings : Settings) (node : Node)

def parameterTexts : List String :=
  inner.representable.map (fun exposed =>
      (Parameter.property exposed.1.referenceName exposed.2).text settings.precision) ++
    [settings.contextType ++ " " ++ settings.contextArgument] ++
    inner.outputs.map fun outlet =>
      "out " ++ outlet.type.keyword settings.precision ++ " " ++ outlet.referenceName

def declarationTexts : List String :=
  inner.outputs.map fun outlet =>
    outlet.type.keyword settings.precision ++ " " ++ node.variableName outlet.id ++ ";"

def argumentTexts : List String :=
  inner.representable.map (fun exposed => (Argument.value exposed.2
      (graph.passedFor settings.precision node exposed.1)).text settings.precision) ++
    [settings.contextArgument] ++ inner.outputs.map fun outlet => node.variableName outlet.id

theorem text_parameters (view : View) (name : String) :
    (inner.routine view settings name true).parameters.map (Parameter.text settings.precision) =
      inner.parameterTexts settings := by
  simp only [routine, if_true, propertyParameters_eq, List.map_append, List.map_map]
  rfl

theorem text_arguments :
    (inner.properties.filterMap (graph.propertyArgument settings.precision node) ++
        [Argument.context settings.contextArgument] ++
        inner.outputs.map fun outlet => Argument.out (node.localOf outlet.id)).map
        (Argument.text settings.precision) =
      graph.argumentTexts inner settings node := by
  simp only [propertyArguments_eq, List.map_append, List.map_map]
  rfl

theorem callFits : graph.CallFits settings node inner (inner.parameterTexts settings)
    (inner.declarationTexts settings node) (graph.argumentTexts inner settings node) := by
  obtain ⟨properties, context, outlets⟩ := getElem?_laidOut inner.representable
    (fun exposed => (Parameter.property exposed.1.referenceName exposed.2).text settings.precision)
    (settings.contextType ++ " " ++ settings.contextArgument) inner.outputs fun outlet =>
      "out " ++ outlet.type.keyword settings.precision ++ " " ++ outlet.referenceName
  obtain ⟨passed, passed_context, locals⟩ := getElem?_laidOut inner.representable
    (fun exposed => (Argument.value exposed.2
      (graph.passedFor settings.precision node exposed.1)).text settings.precision)
    settings.contextArgument inner.outputs fun outlet => node.variableName outlet.id
  refine ⟨inner.map_representable, by simp [parameterTexts]; omega, by simp [declarationTexts],
    by simp [parameterTexts, argumentTexts], ?_, ⟨context, passed_context⟩, ?_⟩
  · intro place property type listed
    have typed := ((inner.mem_representable_iff property type).1 (List.mem_of_getElem? listed)).2
    obtain ⟨default, carried⟩ := PropertyValue.exists_carriedAs typed
    exact ⟨⟨default, carried⟩, _, _, _, properties place _ listed, passed place _ listed,
      type.takenAs _ _, type.passedAs _ _, graph.passes_passedFor _ _ carried⟩
  · intro place outlet listed
    refine ⟨?_, outlets place outlet listed, locals place outlet listed⟩
    rw [declarationTexts, List.getElem?_map, listed]
    rfl

end

/-- The code of a wrapper, in sync with its definition or not, declares a local variable for each
outlet and then calls the function of the definition with what this function takes. -/
theorem wrapper_call_fits {view : View} (settings : Settings) (graph : ShaderGraph) {node : Node}
    {wrapper : Wrapper} {definition : Live} (kind : node.kind = .wrapper wrapper)
    (resolved : view.resolve wrapper = some definition) :
    let name := functionName (some definition.toDefinition)
    let code := graph.wrapperStatements settings node definition.toDefinition
    let routine := definition.graph.routine view settings name true
    let parameters := routine.parameters.map (Parameter.text settings.precision)
    (node.hasError = false → graph.statements view settings node = code) ∧
      Text.IsFunction (routine.text settings.precision)
        ("void " ++ name ++ "(" ++ ", ".intercalate parameters ++ ")")
        (routine.statements.map (Statement.text settings.precision)) ∧
      ∃ before passed, code = before ++ [.call name passed] ∧
        let declared := before.map (Statement.text settings.precision)
        let arguments := passed.map (Argument.text settings.precision)
        graph.CallFits settings node definition.graph parameters declared arguments ∧
        ∀ page : Page, ∃ lines,
          (page.addStatements settings.precision code).lines = page.lines ++ lines ∧
          Page.Holds page.depth
            (declared ++ [name ++ "(" ++ ", ".intercalate arguments ++ ");"]) lines := by
  intro name code routine parameters
  refine ⟨fun unbroken => by simp [statements, unbroken, kind, resolved, code],
    routine.text_isFunction settings.precision, _, _, rfl, ?_, fun page => ?_⟩
  · simp only [parameters, routine, text_parameters, text_arguments, List.map_map]
    exact graph.callFits definition.graph settings node
  · obtain ⟨lines, added, holds⟩ := page.holds_addStatements settings.precision code
    refine ⟨lines, added, ?_⟩
    rwa [show code = _ ++ [_] from rfl, List.map_append] at holds

/-- A definition with a property that no slot can carry among others, and with two outlets. -/
def layered : Definition :=
  let exposed (number : UInt64) (name : String) (value : PropertyValue) : Property :=
    ⟨⟨number, 0⟩, name, name, value⟩
  let output := ((Node.outputNode ⟨2, 0⟩).addSlot (Node.outlet 1)).addSlot (Node.outlet 2)
  let graph := (ShaderGraph.subGraph ⟨1, 0⟩ "Layered" ⟨2, 0⟩).modifyNode ⟨2, 0⟩ fun _ => output
  { handle := ⟨3, 3⟩, name := "Layered",
    graph := { graph with
      properties := [exposed 4 "On" (.boolean true), exposed 5 "Base" (.texture none),
        exposed 6 "Sky" (.cubemap none), exposed 7 "Blend" (.float .zero)] } }

/-- A wrapper whose one slot is left from an earlier state of its definition. -/
def outdated : Node :=
  { Node.make ⟨8, 0⟩ "Sub-graph" (.wrapper (.bound (some ⟨3, 3⟩))) with
    slots := SlotTable.empty.add (Slot.make (.ofGuid ⟨6, 0⟩) "Sky" "Sky" .input .cubemap) }

theorem outdated_call_fits :
    let view := (Assets.empty.store layered).view
    let graph := (ShaderGraph.root ⟨9, 0⟩ "Root").addNode outdated
    let definition : Live := ⟨layered, 0⟩
    let routine := definition.graph.routine view .standard (functionName (some layered)) true
    let parameters := ["TEXTURE2D_ARGS(Base, samplerBase)", "TEXTURECUBE_ARGS(Sky, samplerSky)",
      "float Blend", "SurfaceInputs IN", "out float4 Output1", "out float4 Output2"]
    let declared := ["float4 _Sub_graph_00000000_Slot1;", "float4 _Sub_graph_00000000_Slot2;"]
    let arguments := ["TEXTURE2D_PARAM(Base, samplerBase)",
      "TEXTURECUBE_PARAM(_Sub_graph_00000000_Sky, sampler_Sub_graph_00000000_Sky)", "0", "IN",
      "_Sub_graph_00000000_Slot1", "_Sub_graph_00000000_Slot2"]
    outdated.kind = .wrapper (.bound (some ⟨3, 3⟩)) ∧
      view.resolve (.bound (some ⟨3, 3⟩)) = some definition ∧
      graph.CallFits .standard outdated layered.graph parameters declared arguments ∧
      Text.IsFunction (routine.text .float)
        ("void Layered_00000000000000010000000000000000(" ++ ", ".intercalate parameters ++ ")")
        ["Output1 = float4(0, 0, 0, 0);", "Output2 = float4(0, 0, 0, 0);"] ∧
      ∃ lines, (Page.empty.openBrace.addStatements .float
          (graph.statements view .standard outdated)).lines = ['\x7b'] :: lines ∧
        Page.Holds 1 (declared ++
          ["Layered_00000000000000010000000000000000(" ++ ", ".intercalate arguments ++ ");"]) lines := by
  intro view graph definition routine parameters declared arguments
  have kind : outdated.kind = .wrapper (.bound (some ⟨3, 3⟩)) := rfl
  have resolved : view.resolve (.bound (some ⟨3, 3⟩)) = some definition := by decide +kernel
  obtain ⟨code, function, before, passed, called, fits, written⟩ :=
    wrapper_call_fits .standard graph kind resolved
  obtain ⟨first, last⟩ := List.append_inj' called rfl
  have call := (Statement.call.inj (List.singleton_inj.1 last)).2
  have taken : routine.parameters.map (Parameter.text .float) = parameters := by decide +kernel
  have locals : declared = before.map (Statement.text .float) := by
    rw [← first]
    decide +kernel
  have given : arguments = passed.map (Argument.text .float) := by
    rw [← call]
    decide +kernel
  have name : "Layered_00000000000000010000000000000000(" = functionName (some layered) ++ "(" := by
    decide +kernel
  have head : "void Layered_00000000000000010000000000000000(" =
      "void " ++ functionName (some layered) ++ "(" := by decide +kernel
  have body : ["Output1 = float4(0, 0, 0, 0);", "Output2 = float4(0, 0, 0, 0);"] =
      routine.statements.map (Statement.text .float) := by decide +kernel
  have opened : (Page.empty.openBrace).lines = [['\x7b']] := by decide
  obtain ⟨lines, added, holds⟩ := written Page.empty.openBrace
  rw [opened, List.singleton_append] at added
  rw [← taken, locals, given, head, body, name, code rfl]
  exact ⟨kind, resolved, fits, function, lines, added, holds⟩

end ShaderGraph
end NodeShader
