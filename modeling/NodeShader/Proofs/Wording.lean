import NodeShader.Code.Block
import NodeShader.Proofs.Paging

/-! What code says, word by word. A text whose last character can be seen takes a line of its own on a
page, with nothing but the indentation in front, unless there is a line feed in it. An input reads what is
given to it, converted to its type, or else its default. -/
namespace NodeShader

namespace Page

/-- The lines are those of the texts, one below the other. A text without line feeds is one line. -/
structure Holds (depth : Nat) (texts : List String) (lines : List (List Char)) : Prop where
  all : lines = texts.flatMap (bodyLines depth)
  single : ∀ text ∈ texts, '\n' ∉ text.toList →
    bodyLines depth text = [List.replicate (4 * depth) ' ' ++ text.toList]

theorem holds_flatMap (depth : Nat) {texts : List String}
    (visible : ∀ text ∈ texts, Text.Visible text) :
    Holds depth texts (texts.flatMap (bodyLines depth)) := by
  refine ⟨rfl, fun text member plain => ?_⟩
  rw [bodyLines_of_visible depth (visible text member) plain, indentation_eq]

end Page

namespace Statement
variable (precision : Precision)

theorem visible_text (statement : Statement) : Text.Visible (statement.text precision) := by
  have ended : Text.Visible ";" := ⟨';', rfl, rfl⟩
  have closed : Text.Visible ");" := ⟨';', rfl, rfl⟩
  have remarked : Text.Visible " has errors" := ⟨'s', rfl, rfl⟩
  cases statement with
  | declare cell type => exact ended.append _
  | declareZero cell type => exact ended.append _
  | call function arguments => exact closed.append _
  | assign target value => exact ended.append _
  | errorRemark node => exact remarked.append _

theorem holds_texts (depth : Nat) (statements : List Statement) :
    Page.Holds depth (statements.map (text precision))
      (statements.flatMap fun statement => Page.bodyLines depth (statement.text precision)) := by
  rw [← List.flatMap_map]
  apply Page.holds_flatMap
  intro text member
  obtain ⟨statement, _, rfl⟩ := List.mem_map.1 member
  exact statement.visible_text precision

end Statement

theorem Page.holds_addStatements (page : Page) (precision : Precision) (statements : List Statement) :
    ∃ lines, (page.addStatements precision statements).lines = page.lines ++ lines ∧
      Holds page.depth (statements.map (Statement.text precision)) lines :=
  ⟨_, page.lines_addStatements precision statements, Statement.holds_texts precision page.depth statements⟩

/-- The text is a function: a head, and a body between two braces. -/
def Text.IsFunction (text head : String) (body : List String) : Prop :=
  ∃ front inner, lines text.toList = front ++ ['\x7b'] :: (inner ++ [['\x7d']]) ∧
    Page.Holds 0 [head] front ∧ Page.Holds 1 body inner

theorem Routine.text_isFunction (precision : Precision) (routine : Routine) :
    Text.IsFunction (routine.text precision)
      ("void " ++ routine.name ++ "(" ++
        String.intercalate ", " (routine.parameters.map (Parameter.text precision)) ++ ")")
      (routine.statements.map (Statement.text precision)) := by
  refine ⟨_, _, routine.lines_text precision, ?_, Statement.holds_texts precision 1 routine.statements⟩
  have bracket : Text.Visible ")" := ⟨')', rfl, rfl⟩
  have closed : Text.Visible (routine.header precision) := bracket.append _
  have front : routine.headerLines precision =
      [routine.header precision].flatMap (Page.bodyLines 0) := by
    rw [List.flatMap_singleton, headerLines, Page.bodyLines, Page.bodyLine_zero]
  rw [front]
  apply Page.holds_flatMap
  intro text member
  rw [List.mem_singleton.1 member]
  exact closed

namespace ShaderGraph

/-- An enabled node feeds the input and has no value for it: it lacks the slot, or it reads a property
that the graph does not expose. -/
def FedInVain (graph : ShaderGraph) (node : Node) (id : SlotId) : Prop :=
  ∃ source place, graph.source? node id = some (source, place) ∧
    (source.slots.get? place = none ∨
      ∃ guid, source.kind = .reader guid ∧ graph.property? guid = none)

/-- The text that an input reads: a zero if it is not there, the property or the local variable of a node
that gives something to it, or else its default, which for a texture is a uniform. -/
inductive ReadsAs (graph : ShaderGraph) (precision : Precision) (node : Node) (id : SlotId) : String → Prop
  | missing (absent : node.slots.get? id = none) : ReadsAs graph precision node id "0"
  | property {slot given : Slot} {source : Node} {place : SlotId} {guid : Guid} {exposed : Property}
      (found : node.slots.get? id = some slot) (fed : graph.source? node id = some (source, place))
      (gives : source.slots.get? place = some given) (reads : source.kind = .reader guid)
      (known : graph.property? guid = some exposed) :
      ReadsAs graph precision node id (given.type.convert slot.type precision exposed.referenceName)
  | output {slot given : Slot} {source : Node} {place : SlotId}
      (found : node.slots.get? id = some slot) (fed : graph.source? node id = some (source, place))
      (gives : source.slots.get? place = some given) (computes : ∀ guid, source.kind ≠ .reader guid) :
      ReadsAs graph precision node id (given.type.convert slot.type precision (source.variableName place))
  | texture {slot : Slot} (found : node.slots.get? id = some slot)
      (unfed : graph.source? node id = none ∨ graph.FedInVain node id)
      (type : slot.type.isTexture = true) : ReadsAs graph precision node id (node.variableName id)
  | literal {slot : Slot} (found : node.slots.get? id = some slot)
      (unfed : graph.source? node id = none ∨ graph.FedInVain node id)
      (type : slot.type.isTexture = false) :
      ReadsAs graph precision node id ((slot.default.literal precision).getD "0")

theorem fedReading_eq_none_iff (graph : ShaderGraph) (slot : Slot) (source : Node) (place : SlotId) :
    graph.fedReading slot source place = none ↔
    source.slots.get? place = none ∨ ∃ guid, source.kind = .reader guid ∧
      graph.property? guid = none := by
  unfold fedReading
  cases source.slots.get? place with
  | none => simp
  | some given =>
    cases source.kind with
    | reader guid => cases exposed : graph.property? guid <;> simp [exposed]
    | function | wrapper | output => simp

/-- A node gives something to an input, or none does. -/
theorem given_or_unfed (graph : ShaderGraph) (node : Node) (id : SlotId) (slot : Slot) :
    (∃ source place reading, graph.source? node id = some (source, place) ∧
      graph.fedReading slot source place = some reading) ∨
    (graph.source? node id = none ∨ graph.FedInVain node id) := by
  cases fed : graph.source? node id with
  | none => exact .inr (.inl rfl)
  | some pair =>
    obtain ⟨source, place⟩ := pair
    cases given : graph.fedReading slot source place with
    | none =>
      have lacks := (graph.fedReading_eq_none_iff slot source place).1 given
      exact .inr (.inr ⟨source, place, fed, lacks⟩)
    | some reading => exact .inl ⟨source, place, reading, rfl, given⟩

section
variable {graph : ShaderGraph} {precision : Precision} {node : Node} {id : SlotId} {slot : Slot}

theorem reading_of_given {source : Node} {place : SlotId} {reading : Reading}
    (found : node.slots.get? id = some slot) (fed : graph.source? node id = some (source, place))
    (given : graph.fedReading slot source place = some reading) :
    graph.reading precision node id = reading := by
  simp [ShaderGraph.reading, found, fed, given]

theorem reading_of_unfed (found : node.slots.get? id = some slot)
    (unfed : graph.source? node id = none ∨ graph.FedInVain node id) :
    graph.reading precision node id = defaultReading precision node id slot := by
  rcases unfed with alone | ⟨source, place, fed, lacks⟩
  · simp [reading, found, alone]
  · have none := (graph.fedReading_eq_none_iff slot source place).2 lacks
    simp [reading, found, fed, none]

theorem text_defaultReading (precision : Precision) (node : Node) (id : SlotId) (slot : Slot) :
    (defaultReading precision node id slot).text precision =
      if slot.type.isTexture then node.variableName id
      else (slot.default.literal precision).getD "0" := by
  unfold defaultReading
  split <;> rfl

theorem ReadsAs.eq_text {text : String} (reads : graph.ReadsAs precision node id text) :
    text = (graph.reading precision node id).text precision := by
  cases reads with
  | missing absent => simp [reading, absent, Reading.text]
  | @property slot given source place guid exposed found fed gives reads known =>
    have value : graph.fedReading slot source place =
        some (.property exposed.referenceName given.type slot.type) := by
      simp [fedReading, gives, reads, known]
    rw [reading_of_given found fed value]
    rfl
  | @output slot given source place found fed gives computes =>
    have value : graph.fedReading slot source place =
        some (.output (source.localOf place) given.type slot.type) := by
      unfold fedReading
      rw [gives]
      cases kind : source.kind with
      | reader guid => exact absurd kind (computes guid)
      | function | wrapper | output => rfl
    rw [reading_of_given found fed value]
    rfl
  | texture found unfed type =>
    rw [reading_of_unfed found unfed, text_defaultReading, if_pos type]
  | literal found unfed type =>
    rw [reading_of_unfed found unfed, text_defaultReading, if_neg (by simp [type])]

theorem readsAs_of_given {source : Node} {place : SlotId} {reading : Reading}
    (found : node.slots.get? id = some slot) (fed : graph.source? node id = some (source, place))
    (given : graph.fedReading slot source place = some reading) :
    graph.ReadsAs precision node id (reading.text precision) := by
  obtain ⟨slot, gives, value⟩ := Option.bind_eq_some_iff.1 given
  split at value
  next guid reads =>
    obtain ⟨exposed, known, same⟩ := Option.bind_eq_some_iff.1 value
    cases same
    exact .property found fed gives reads known
  next computes =>
    cases value
    exact .output found fed gives computes

theorem readsAs_of_unfed (found : node.slots.get? id = some slot)
    (unfed : graph.source? node id = none ∨ graph.FedInVain node id) :
    graph.ReadsAs precision node id ((defaultReading precision node id slot).text precision) := by
  rw [text_defaultReading]
  split
  next texture => exact .texture found unfed texture
  next other => exact .literal found unfed (Bool.eq_false_iff.2 other)

theorem readsAs_reading (graph : ShaderGraph) (precision : Precision) (node : Node) (id : SlotId) :
    graph.ReadsAs precision node id ((graph.reading precision node id).text precision) := by
  cases found : node.slots.get? id with
  | none => simpa [reading, found, Reading.text] using ReadsAs.missing found
  | some slot =>
    rcases graph.given_or_unfed node id slot with ⟨source, place, reading, fed, given⟩ | unfed
    · rw [reading_of_given found fed given]
      exact readsAs_of_given found fed given
    · rw [reading_of_unfed found unfed]
      exact readsAs_of_unfed found unfed

/-- There is exactly one text that an input reads. -/
theorem readsAs_iff (graph : ShaderGraph) (precision : Precision) (node : Node) (id : SlotId)
    (text : String) : graph.ReadsAs precision node id text ↔
      text = (graph.reading precision node id).text precision := by
  constructor
  · exact ReadsAs.eq_text
  · rintro rfl
    exact graph.readsAs_reading precision node id

end

end ShaderGraph
end NodeShader
