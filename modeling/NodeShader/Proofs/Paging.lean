import NodeShader.Code.Statement
import Mathlib.Data.List.DropRight

/-! Text as it was put together. A page is written line by line, and its text falls into the same lines
again, since none of them has a line feed inside or a blank at its end. For a function these are the lines
of its header, and those of its statements, one after the other, between two braces. -/
namespace NodeShader

namespace Text

/-- A line as it stands on a page. -/
structure Tidy (line : List Char) : Prop where
  plain : '\n' ∉ line
  trimmed : ∀ last ∈ line.getLast?, isBlank last = false

theorem endedLine_of_ne {last : Char} (visible : last ≠ '\r') (earlier : List Char) :
    endedLine (last :: earlier) = earlier.reverse ++ [last] := by
  unfold endedLine
  split
  next same => exact absurd (List.cons.inj same).1 visible
  next => exact List.reverse_cons

theorem endedLine_reverse {line : List Char} (tidy : Tidy line) : endedLine line.reverse = line := by
  rcases List.eq_nil_or_concat line with rfl | ⟨earlier, last, rfl⟩
  · rfl
  · have visible : last ≠ '\r' := by
      rintro rfl
      have blank := tidy.trimmed '\r' (by simp)
      exact absurd blank (by decide)
    rw [List.concat_eq_append, List.reverse_append, List.reverse_singleton, List.singleton_append,
      endedLine_of_ne visible, List.reverse_reverse]

theorem linesAfter_append {front : List Char} (plain : '\n' ∉ front) (earlier rest : List Char) :
    linesAfter earlier (front ++ rest) = linesAfter (front.reverse ++ earlier) rest := by
  induction front generalizing earlier with
  | nil => rfl
  | cons c front ih =>
    rw [List.mem_cons, not_or] at plain
    rw [List.cons_append, linesAfter, ih plain.2, List.reverse_cons, List.append_assoc,
      List.singleton_append]
    exact Ne.symm plain.1

theorem lines_of_plain {text : List Char} (plain : '\n' ∉ text) (some : text ≠ []) :
    lines text = [text] := by
  have read := linesAfter_append plain [] []
  rw [List.append_nil, List.append_nil] at read
  rw [lines, read, linesAfter, if_neg (by simpa using some), List.reverse_reverse]

theorem lines_flatMap {page : List (List Char)} (tidy : ∀ line ∈ page, Tidy line) :
    lines (page.flatMap (· ++ ['\n'])) = page := by
  induction page with
  | nil => rfl
  | cons line rest ih =>
    have here := tidy line List.mem_cons_self
    have others := ih fun other member => tidy other (List.mem_cons_of_mem _ member)
    rw [lines] at others
    rw [List.flatMap_cons, List.append_assoc, List.singleton_append, lines, linesAfter_append here.plain,
      linesAfter, List.append_nil, endedLine_reverse here, others]

theorem subset_endedLine (earlier : List Char) : endedLine earlier ⊆ earlier := by
  unfold endedLine
  split <;> simp

theorem not_mem_of_mem_linesAfter {text earlier line : List Char} (plain : '\n' ∉ earlier)
    (member : line ∈ linesAfter earlier text) : '\n' ∉ line := by
  induction earlier, text using linesAfter.induct with
  | case1 earlier none => simp [linesAfter, none] at member
  | case2 earlier some =>
    simp only [linesAfter, if_neg some, List.mem_singleton] at member
    simpa [member] using plain
  | case3 earlier rest ih =>
    rw [linesAfter, List.mem_cons] at member
    rcases member with rfl | later
    · exact fun inside => plain (subset_endedLine earlier inside)
    · exact ih (by simp) later
  | case4 earlier c rest other ih =>
    rw [linesAfter] at member
    · exact ih (by simp [plain, Ne.symm other]) member
    · exact other

theorem tidy_trimEnd {line : List Char} (plain : '\n' ∉ line) : Tidy (trimEnd line) where
  plain := fun inside => plain ((line.rdropWhile_prefix isBlank).subset inside)
  trimmed last final := by
    obtain ⟨some, rfl⟩ := List.mem_getLast?_eq_getLast final
    exact Bool.eq_false_iff.2 (List.rdropWhile_last_not isBlank line some)

theorem Tidy.prepend {front line : List Char} (tidy : Tidy line) (plain : '\n' ∉ front)
    (some : line ≠ []) : Tidy (front ++ line) where
  plain := by
    rw [List.mem_append, not_or]
    exact ⟨plain, tidy.plain⟩
  trimmed last final := by
    rw [List.getLast?_append_of_ne_nil _ some] at final
    exact tidy.trimmed last final

theorem Tidy.trimEnd_eq {line : List Char} (tidy : Tidy line) : trimEnd line = line := by
  apply List.rdropWhile_eq_self_iff.2
  intro some blank
  rw [tidy.trimmed _ (List.getLast_mem_getLast? some)] at blank
  contradiction

/-- The last character can be seen. -/
def Visible (text : String) : Prop := ∃ last ∈ text.toList.getLast?, isBlank last = false

namespace Visible
variable {text : String} (visible : Visible text)
include visible

theorem append (front : String) : Visible (front ++ text) := by
  obtain ⟨last, final, seen⟩ := visible
  refine ⟨last, ?_, seen⟩
  rw [String.toList_append, List.getLast?_append, Option.mem_def.1 final]
  rfl

theorem ne_nil : text.toList ≠ [] := by
  obtain ⟨last, final, _⟩ := visible
  intro none
  simp [none] at final

theorem tidy (plain : '\n' ∉ text.toList) : Tidy text.toList where
  plain := plain
  trimmed last final := by
    obtain ⟨other, same, seen⟩ := visible
    cases final.symm.trans same
    exact seen

end Visible
end Text

namespace Page

/-- The lines that a page of some depth gets for a text in its body. -/
def bodyLines (depth : Nat) (text : String) : List (List Char) :=
  (Text.lines text.toList).map (bodyLine depth)

theorem indentation_eq (depth : Nat) :
    (List.replicate depth indentation).flatten = List.replicate (4 * depth) ' ' := by
  rw [indentation, List.flatten_replicate_replicate, Nat.mul_comm]

theorem plain_indent (depth : Nat) : '\n' ∉ (List.replicate depth indentation).flatten := by
  simp [indentation_eq, List.mem_replicate]

theorem bodyLine_zero : bodyLine 0 = Text.trimEnd := by
  funext line
  unfold bodyLine
  split
  next none => exact none.symm
  next => rfl

theorem tidy_bodyLine (depth : Nat) {line : List Char} (plain : '\n' ∉ line) :
    Text.Tidy (bodyLine depth line) := by
  have trimmed := Text.tidy_trimEnd plain
  unfold bodyLine
  split
  next => exact ⟨by simp, by simp⟩
  next some => exact trimmed.prepend (plain_indent depth) some

theorem tidy_of_mem_bodyLines {depth : Nat} {text : String} {line : List Char}
    (member : line ∈ bodyLines depth text) : Text.Tidy line := by
  obtain ⟨given, listed, rfl⟩ := List.mem_map.1 member
  exact tidy_bodyLine depth (Text.not_mem_of_mem_linesAfter (by simp) listed)

/-- A text without line feeds is one line, as it is. -/
theorem bodyLines_of_visible (depth : Nat) {text : String} (visible : Text.Visible text)
    (plain : '\n' ∉ text.toList) :
    bodyLines depth text = [(List.replicate depth indentation).flatten ++ text.toList] := by
  rw [bodyLines, Text.lines_of_plain plain visible.ne_nil, List.map_singleton, bodyLine,
    (visible.tidy plain).trimEnd_eq]
  split
  next none => exact absurd none visible.ne_nil
  next => rfl

def Tidy (page : Page) : Prop := ∀ line ∈ page.lines, Text.Tidy line

theorem tidy_empty : empty.Tidy := by simp [Tidy, empty]

theorem Tidy.addBody {page : Page} (tidy : page.Tidy) (text : String) : (page.addBody text).Tidy := by
  intro line member
  rcases List.mem_append.1 member with old | new
  · exact tidy line old
  · exact tidy_of_mem_bodyLines new

theorem Tidy.addStatement {page : Page} (tidy : page.Tidy) (text : String) :
    (page.addStatement text).Tidy := by
  intro line member
  rcases List.mem_append.1 member with old | new
  · exact tidy line old
  · obtain ⟨before, listed, rfl⟩ := List.mem_map.1 new
    exact Text.tidy_trimEnd (Text.not_mem_of_mem_linesAfter (by simp) listed)

theorem Tidy.openBrace {page : Page} (tidy : page.Tidy) : page.openBrace.Tidy := tidy.addBody "\x7b"

theorem Tidy.closeBrace {page : Page} (tidy : page.Tidy) : page.closeBrace.Tidy :=
  Tidy.addBody (show page.outdent.Tidy from tidy) "\x7d"

theorem lines_text {page : Page} (tidy : page.Tidy) : Text.lines page.text.toList = page.lines := by
  rw [text, String.toList_ofList]
  exact Text.lines_flatMap tidy

end Page

/-- The lines that a statement adds to the body of a function. -/
def Statement.lines (precision : Precision) (statement : Statement) : List (List Char) :=
  (Text.lines (statement.text precision).toList).map (Page.bodyLine 1)

namespace Page

theorem Tidy.addStatements {page : Page} (tidy : page.Tidy) (precision : Precision)
    (statements : List Statement) : (page.addStatements precision statements).Tidy := by
  induction statements generalizing page with
  | nil => exact tidy
  | cons statement rest ih => exact ih (tidy.addBody _)

theorem depth_addStatements (page : Page) (precision : Precision) (statements : List Statement) :
    (page.addStatements precision statements).depth = page.depth := by
  induction statements generalizing page with
  | nil => rfl
  | cons statement rest ih => exact ih (page.addBody (statement.text precision))

theorem lines_addStatements (page : Page) (precision : Precision) (statements : List Statement) :
    (page.addStatements precision statements).lines =
      page.lines ++ statements.flatMap fun statement =>
        bodyLines page.depth (statement.text precision) := by
  induction statements generalizing page with
  | nil => simp [addStatements]
  | cons statement rest ih =>
    rw [addStatements, List.foldl_cons, ← addStatements, ih, List.flatMap_cons, ← List.append_assoc]
    rfl

end Page

namespace Routine
variable (precision : Precision) (routine : Routine)

def headerLines : List (List Char) :=
  (Text.lines (routine.header precision).toList).map Text.trimEnd

def bodyLines : List (List Char) :=
  routine.statements.flatMap (Statement.lines precision)

theorem lines_text : Text.lines (routine.text precision).toList =
    routine.headerLines precision ++ ['\x7b'] :: (routine.bodyLines precision ++ [['\x7d']]) := by
  have tidy : (Page.empty.addRoutine precision routine).Tidy :=
    ((Page.tidy_empty.addStatement _).openBrace.addStatements precision _).closeBrace
  have opened : (Text.lines "\x7b".toList).map (Page.bodyLine 0) = [['\x7b']] := by decide
  have closed : (Text.lines "\x7d".toList).map (Page.bodyLine 0) = [['\x7d']] := by decide
  rw [text, Page.lines_text tidy, Page.addRoutine, Page.closeBrace, Page.addBody, Page.outdent,
    Page.lines_addStatements, Page.depth_addStatements]
  simp only [Page.openBrace, Page.addBody, Page.addStatement, Page.indent, Page.empty, List.nil_append,
    opened, closed, Nat.zero_add, Nat.sub_self, List.append_assoc, List.singleton_append]
  rfl

end Routine
end NodeShader
