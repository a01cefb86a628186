import NodeShader.Code.Block
import NodeShader.Proofs.Paging

/-! The code of flagged nodes. It is a remark with the name of the node and a zero for each output, whatever
the node would do otherwise. On the page these are a comment and declarations as long as the names stay on
their lines; what stands behind a line feed in a name is no part of the remark any more, and may well be a
statement. -/
namespace NodeShader

namespace Text

/-- A comment begins with two slashes, blanks before them aside. -/
def IsComment (line : List Char) : Prop := ['/', '/'] <+: line.dropWhile isBlank

instance (line : List Char) : Decidable (IsComment line) :=
  inferInstanceAs (Decidable (['/', '/'] <+: line.dropWhile isBlank))

theorem isComment_iff {line : List Char} : IsComment line ↔
    ∃ blanks rest, (∀ c ∈ blanks, isBlank c = true) ∧ line = blanks ++ '/' :: '/' :: rest := by
  constructor
  · rintro ⟨rest, found⟩
    refine ⟨line.takeWhile isBlank, rest, fun c member => List.mem_takeWhile_imp member, ?_⟩
    exact ((congrArg _ found).trans List.takeWhile_append_dropWhile).symm
  · rintro ⟨blanks, rest, blank, rfl⟩
    rw [IsComment, List.dropWhile_append_of_pos blank, List.dropWhile_cons_of_neg (by decide)]
    exact ⟨rest, rfl⟩

theorem isComment_append_iff {blanks line : List Char} (blank : ∀ c ∈ blanks, isBlank c = true) :
    IsComment (blanks ++ line) ↔ IsComment line := by
  rw [IsComment, IsComment, List.dropWhile_append_of_pos blank]

theorem isComment_concat_iff {line : List Char} {c : Char} (blank : isBlank c = true) :
    IsComment (line ++ [c]) ↔ IsComment line := by
  rw [isComment_iff, isComment_iff]
  constructor
  · rintro ⟨blanks, rest, before, same⟩
    rcases List.eq_nil_or_concat rest with rfl | ⟨rest, last, rfl⟩
    · have slash : c = '/' := by
        have := congrArg List.getLast? same
        simpa using this
      rw [slash] at blank
      exact absurd blank (by decide)
    · refine ⟨blanks, rest, before, ?_⟩
      have same : line ++ [c] = (blanks ++ '/' :: '/' :: rest) ++ [last] := by
        simpa using same
      exact (List.append_inj' same rfl).1
  · rintro ⟨blanks, rest, before, rfl⟩
    exact ⟨blanks, rest ++ [c], before, by simp⟩

theorem isComment_trimEnd_iff (line : List Char) : IsComment (trimEnd line) ↔ IsComment line := by
  induction line using List.reverseRecOn with
  | nil => rfl
  | append_singleton line c ih =>
    by_cases blank : isBlank c = true
    · rw [isComment_concat_iff blank, ← ih, trimEnd, ← List.rdropWhile, List.rdropWhile_concat_pos _ _ _ blank]
      rfl
    · rw [trimEnd, ← List.rdropWhile, List.rdropWhile_concat_neg _ _ _ blank]

/-- What has been read of a line stays at its beginning. -/
theorem prefix_endedLine (begin : List Char) {last : Char} (visible : last ≠ '\r')
    (earlier : List Char) : (last :: begin).reverse <+: endedLine (earlier ++ last :: begin) := by
  cases earlier with
  | nil => simp [endedLine_of_ne visible]
  | cons final earlier =>
    rw [List.cons_append]
    unfold endedLine
    split
    next same =>
      obtain ⟨rfl, rfl⟩ := List.cons.inj same
      simp
    next => simp

theorem exists_first_linesAfter (begin : List Char) {last : Char} (visible : last ≠ '\r')
    (earlier text : List Char) : ∃ first others,
      linesAfter (earlier ++ last :: begin) text = first :: others ∧
        (last :: begin).reverse <+: first := by
  induction text generalizing earlier with
  | nil =>
    refine ⟨_, [], by simp [linesAfter]; rfl, ?_⟩
    simp
  | cons c rest ih =>
    by_cases ended : c = '\n'
    · subst ended
      exact ⟨_, _, by rw [linesAfter], prefix_endedLine begin visible earlier⟩
    · rw [linesAfter]
      · exact ih (c :: earlier)
      · exact ended

end Text

namespace Page

theorem blank_indent (depth : Nat) : ∀ c ∈ (List.replicate depth indentation).flatten,
    Text.isBlank c = true := by
  rw [indentation_eq]
  intro c member
  rw [List.eq_of_mem_replicate member]
  decide

theorem isComment_bodyLine_iff (depth : Nat) (line : List Char) :
    Text.IsComment (bodyLine depth line) ↔ Text.IsComment line := by
  rw [← Text.isComment_trimEnd_iff line]
  unfold bodyLine
  split
  next none => rw [none]
  next => exact Text.isComment_append_iff (blank_indent depth)

end Page

namespace SlotTable

/-- The outputs as they are filed, in ascending order of the ids that they are filed under. -/
def filedOutputs (table : SlotTable) : List (SlotId × Slot) :=
  table.entries.filter fun entry => entry.2.isOutput

theorem outputs_eq (table : SlotTable) : table.outputs = table.filedOutputs.map (·.2) := by
  rw [outputs, slots, List.filter_map]
  rfl

theorem ascending_filedOutputs (table : SlotTable) : Ascending table.filedOutputs :=
  table.ascending.sublist List.filter_sublist

end SlotTable

namespace Node

def remark (node : Node) : String := "// " ++ node.name ++ " has errors"

/-- The declaration of an output of a flagged node. -/
def zeroText (node : Node) (precision : Precision) (output : Slot) : String :=
  output.type.keyword precision ++ " " ++ node.variableName output.id ++ " = " ++
    output.type.zeroLiteral precision ++ ";"

/-- The declarations of all outputs, a line for each. -/
def zeroLines (node : Node) (precision : Precision) (depth : Nat) : List (List Char) :=
  node.slots.filedOutputs.map fun entry =>
    (List.replicate depth Page.indentation).flatten ++ (node.zeroText precision entry.2).toList

/-- No name in the code of a flagged node makes a line that it should not: what stands behind a line feed in
the remark is a comment again, and the names of locals have no line feeds. -/
structure StaysInLine (node : Node) : Prop where
  remark : ∀ line ∈ (Text.lines node.remark.toList).tail, Text.IsComment line
  locals : ∀ entry ∈ node.slots.filedOutputs, '\n' ∉ (node.variableName entry.2.id).toList

instance (node : Node) : Decidable node.StaysInLine :=
  decidable_of_iff ((∀ line ∈ (Text.lines node.remark.toList).tail, Text.IsComment line) ∧
      ∀ entry ∈ node.slots.filedOutputs, '\n' ∉ (node.variableName entry.2.id).toList)
    ⟨fun ⟨remark, locals⟩ => ⟨remark, locals⟩, fun ⟨remark, locals⟩ => ⟨remark, locals⟩⟩

/-- The lines are comments and then the declarations of the outputs. -/
def ComesOut (node : Node) (precision : Precision) (depth : Nat) (lines : List (List Char)) : Prop :=
  ∃ comments, (∀ line ∈ comments, Text.IsComment line) ∧
    lines = comments ++ node.zeroLines precision depth

/-- The lines of the code of a flagged node on a page of some depth. -/
def flaggedLines (node : Node) (precision : Precision) (depth : Nat) : List (List Char) :=
  Page.bodyLines depth node.remark ++
    node.slots.filedOutputs.flatMap fun entry => Page.bodyLines depth (node.zeroText precision entry.2)

variable {node : Node} {precision : Precision} {depth : Nat}

theorem plain_zeroText {output : Slot} (plain : '\n' ∉ (node.variableName output.id).toList) :
    '\n' ∉ (node.zeroText precision output).toList := by
  have keyword : '\n' ∉ (output.type.keyword precision).toList := by
    cases output.type <;> cases precision <;> decide
  have zero : '\n' ∉ (output.type.zeroLiteral precision).toList := by
    cases output.type <;> cases precision <;> decide +kernel
  simp [zeroText, String.toList_append, keyword, plain, zero]

theorem bodyLines_zeroText {output : Slot} (plain : '\n' ∉ (node.variableName output.id).toList) :
    Page.bodyLines depth (node.zeroText precision output) =
      [(List.replicate depth Page.indentation).flatten ++ (node.zeroText precision output).toList] := by
  have ended : Text.Visible ";" := ⟨';', rfl, rfl⟩
  exact Page.bodyLines_of_visible depth (ended.append _) (plain_zeroText plain)

theorem bodyLines_remark (plain : '\n' ∉ node.name.toList) : Page.bodyLines depth node.remark =
    [(List.replicate depth Page.indentation).flatten ++ node.remark.toList] := by
  have ended : Text.Visible " has errors" := ⟨'s', rfl, rfl⟩
  apply Page.bodyLines_of_visible depth (ended.append _)
  simp [String.toList_append, plain]

theorem zeroLines_eq
    (plain : ∀ entry ∈ node.slots.filedOutputs, '\n' ∉ (node.variableName entry.2.id).toList) :
    (node.slots.filedOutputs.flatMap fun entry => Page.bodyLines depth (node.zeroText precision entry.2)) =
      node.zeroLines precision depth := by
  rw [zeroLines, List.map_eq_flatMap]
  exact List.flatMap_congr fun entry member => bodyLines_zeroText (plain entry member)

theorem exists_bodyLines_remark (node : Node) (depth : Nat) : ∃ first, Text.IsComment first ∧
    Page.bodyLines depth node.remark =
      first :: (Text.lines node.remark.toList).tail.map (Page.bodyLine depth) := by
  obtain ⟨first, others, split, kept⟩ := Text.exists_first_linesAfter ['/', '/']
    (show ' ' ≠ '\r' by decide) [] (node.name ++ " has errors").toList
  have lines : Text.lines node.remark.toList = first :: others := by
    rw [← split, remark, String.append_assoc, String.toList_append]
    rfl
  refine ⟨Page.bodyLine depth first, ?_, by rw [Page.bodyLines, lines]; rfl⟩
  obtain ⟨rest, rfl⟩ := kept
  exact (Page.isComment_bodyLine_iff depth _).2 (Text.isComment_iff.2 ⟨[], ' ' :: rest, by simp, rfl⟩)

theorem comesOut_iff :
    node.ComesOut precision depth (node.flaggedLines precision depth) ↔ node.StaysInLine := by
  obtain ⟨first, comment, remark⟩ := exists_bodyLines_remark node depth
  constructor
  · rintro ⟨comments, all, same⟩
    have locals : ∀ entry ∈ node.slots.filedOutputs, '\n' ∉ (node.variableName entry.2.id).toList := by
      intro entry filed inside
      have written : (List.replicate depth Page.indentation).flatten ++
          (node.zeroText precision entry.2).toList ∈ node.flaggedLines precision depth := by
        rw [same]
        exact List.mem_append_right _ (List.mem_map_of_mem filed)
      have plain : ∀ line ∈ node.flaggedLines precision depth, '\n' ∉ line := by
        intro line member
        rcases List.mem_append.1 member with early | late
        · exact (Page.tidy_of_mem_bodyLines early).plain
        · obtain ⟨_, _, listed⟩ := List.mem_flatMap.1 late
          exact (Page.tidy_of_mem_bodyLines listed).plain
      refine plain _ written (List.mem_append_right _ ?_)
      simp [zeroText, String.toList_append, inside]
    refine ⟨fun line member => ?_, locals⟩
    rw [flaggedLines, zeroLines_eq locals] at same
    rw [← Page.isComment_bodyLine_iff depth]
    apply all
    rw [← List.append_cancel_right same, remark]
    exact List.mem_cons_of_mem first (List.mem_map_of_mem member)
  · intro stays
    refine ⟨Page.bodyLines depth node.remark, ?_, by rw [flaggedLines, zeroLines_eq stays.locals]⟩
    rw [remark]
    intro line member
    rcases List.mem_cons.1 member with rfl | later
    · exact comment
    · obtain ⟨given, listed, rfl⟩ := List.mem_map.1 later
      exact (Page.isComment_bodyLine_iff depth given).2 (stays.remark given listed)

/-- What the lines of the code of a flagged node come to. They are comments followed by one declaration for
each output, in ascending order of the ids that the outputs are filed under, exactly where the names stay on
their lines; without line feeds in them the remark is a single line. -/
structure FlaggedCode (node : Node) (precision : Precision) (depth : Nat) (lines : List (List Char)) :
    Prop where
  comesOut : node.ComesOut precision depth lines ↔ node.StaysInLine
  single : '\n' ∉ node.name.toList →
    (∀ entry ∈ node.slots.filedOutputs, '\n' ∉ (node.variableName entry.2.id).toList) →
      lines = ((List.replicate depth Page.indentation).flatten ++ node.remark.toList) ::
        node.zeroLines precision depth
  outputs : node.slots.outputs = node.slots.filedOutputs.map (·.2)
  ascending : Ascending node.slots.filedOutputs

theorem flaggedCode (node : Node) (precision : Precision) (depth : Nat) :
    node.FlaggedCode precision depth (node.flaggedLines precision depth) where
  comesOut := comesOut_iff
  single named plain := by
    rw [flaggedLines, zeroLines_eq plain, bodyLines_remark named, List.singleton_append]
  outputs := node.slots.outputs_eq
  ascending := node.slots.ascending_filedOutputs

end Node

namespace ShaderGraph

theorem statements_of_flagged {graph : ShaderGraph} {view : View} {settings : Settings} {node : Node}
    (flagged : node.hasError = true) : graph.statements view settings node =
      .errorRemark node.name :: node.slots.filedOutputs.map fun entry =>
        .declareZero (node.localOf entry.2.id) entry.2.type := by
  rw [statements, if_pos flagged, errorStatements, SlotTable.outputs_eq, List.map_map]
  rfl

theorem flagged_lines {graph : ShaderGraph} {view : View} {settings : Settings} {node : Node}
    (flagged : node.hasError = true) (page : Page) :
    (page.addStatements settings.precision (graph.statements view settings node)).lines =
      page.lines ++ node.flaggedLines settings.precision page.depth := by
  rw [Page.lines_addStatements, statements_of_flagged flagged, List.flatMap_cons, List.flatMap_map]
  rfl

/-- A flagged node of any kind adds lines to any page that are a comment and zeros, as far as its names stay
on their lines. -/
theorem flagged_code (graph : ShaderGraph) (view : View) (settings : Settings) (page : Page) {node : Node}
    (flagged : node.hasError = true) : ∃ lines,
      (page.addStatements settings.precision (graph.statements view settings node)).lines =
          page.lines ++ lines ∧
        node.FlaggedCode settings.precision page.depth lines :=
  ⟨_, flagged_lines flagged page, node.flaggedCode settings.precision page.depth⟩

/-- A flagged node with that name, whose first output has that name in code. -/
def flaggedNamed (name output : String) : Node :=
  { Node.make ⟨8, 0⟩ name (.function ⟨"custom", "custom", none, false, .none⟩) with
    hasError := true
    slots := SlotTable.empty.addAll
      [.make (.positional 2) "Map" "Map" .output .texture2D, .named (.positional 0) "In" .input .vector1,
        .make (.positional 1) "Out" output .output .vector3] }

theorem flagged_mix_code :
    let node := flaggedNamed "Mix\u2028/*" "Out"
    let page := Page.empty.openBrace
    let graph := root ⟨9, 0⟩ "Root"
    node.hasError = true ∧ ∃ lines,
      (page.addStatements .float (graph.statements Assets.empty.view .standard node)).lines =
          page.lines ++ lines ∧
        node.FlaggedCode .float 1 lines ∧ node.StaysInLine ∧
        lines = ["    // Mix\u2028/* has errors".toList,
          "    float3 _Mix____00000000_Out = float3(0, 0, 0);".toList,
          "    Texture2D _Mix____00000000_Map = 0;".toList] := by
  intro node page graph
  have flagged : node.hasError = true := rfl
  obtain ⟨lines, added, code⟩ := flagged_code graph Assets.empty.view .standard page flagged
  have single := code.single (by decide +kernel) (by decide +kernel)
  exact ⟨flagged, lines, added, code, by decide +kernel, single.trans (by decide +kernel)⟩

/-- A line feed in the name of a flagged node, or in the name of one of its outputs, ends the comment or the
declaration; the rest may be an assignment. -/
theorem flagged_name_assigns :
    let graph := root ⟨9, 0⟩ "Root"
    let code (node : Node) : Page :=
      Page.empty.addStatements .float (graph.statements Assets.empty.view .standard node)
    let named := flaggedNamed "x\nOutput1 = 1;//" "Out"
    let listed := flaggedNamed "x" "Out;\nOutput1"
    (named.hasError = true ∧ ¬ named.ComesOut .float 0 (code named).lines ∧
        (code named).text = "// x\nOutput1 = 1;// has errors\n" ++
          "float3 _x_Output1___1____00000000_Out = float3(0, 0, 0);\n" ++
          "Texture2D _x_Output1___1____00000000_Map = 0;\n") ∧
      listed.hasError = true ∧ ¬ listed.ComesOut .float 0 (code listed).lines ∧
        (code listed).text = "// x has errors\nfloat3 _x_00000000_Out;\n" ++
          "Output1 = float3(0, 0, 0);\nTexture2D _x_00000000_Map = 0;\n" := by
  intro graph code named listed
  have lines (node : Node) (flagged : node.hasError = true) :
      (code node).lines = node.flaggedLines .float 0 :=
    @flagged_lines graph Assets.empty.view .standard node flagged Page.empty
  refine ⟨⟨rfl, ?_, by decide +kernel⟩, rfl, ?_, by decide +kernel⟩
  · rw [lines named rfl, Node.comesOut_iff]
    decide +kernel
  · rw [lines listed rfl, Node.comesOut_iff]
    decide +kernel

end ShaderGraph
end NodeShader
