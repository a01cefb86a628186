import NodeShader.Code.Functions
import NodeShader.Proofs.Paging

/-! Pages that are written step by step. Whatever the steps and their texts, the lines of a page are tidy,
each stands behind the indentation of the scopes that were open when it was added, and the text of the page
falls into the same lines again; so writing it on an empty page changes nothing. -/
namespace NodeShader

namespace Page

inductive Step where
  | body (text : String)
  | statement (text : String)
  | indent
  | outdent
  | openBrace
  | closeBrace

namespace Step

def apply (page : Page) : Step → Page
  | body text => page.addBody text
  | statement text => page.addStatement text
  | indent => page.indent
  | outdent => page.outdent
  | openBrace => page.openBrace
  | closeBrace => page.closeBrace

/-- How many scopes are open after a step, given how many were open before. -/
def scopes (before : Nat) : Step → Nat
  | indent | openBrace => before + 1
  | outdent | closeBrace => before - 1
  | body _ | statement _ => before

/-- The text that a step adds, with the number of scopes by which it is indented. A brace stands outside of
the scope that it opens or closes. -/
def adds (before : Nat) : Step → String × Nat
  | body text => (text, before)
  | statement text => (text, 0)
  | openBrace => ("\x7b", before)
  | closeBrace => ("\x7d", before - 1)
  | indent | outdent => ("", 0)

end Step

def write (steps : List Step) : Page := steps.foldl Step.apply empty

def openScopes (steps : List Step) : Nat := steps.foldl Step.scopes 0

theorem drop_bodyLine (depth : Nat) (line : List Char) :
    (bodyLine depth line).drop (4 * depth) = Text.trimEnd line := by
  unfold bodyLine
  split
  next none => rw [none, List.drop_nil]
  next => rw [indentation_eq, List.drop_left' (List.length_replicate ..)]

theorem indentation_prefix_bodyLine {depth : Nat} {line : List Char} (some : bodyLine depth line ≠ []) :
    List.replicate (4 * depth) ' ' <+: bodyLine depth line := by
  unfold bodyLine at some ⊢
  split at some
  next => contradiction
  next =>
    rw [indentation_eq]
    exact List.prefix_append _ _

theorem depth_apply (page : Page) (step : Step) : (step.apply page).depth = step.scopes page.depth := by
  cases step <;> rfl

theorem lines_apply (page : Page) (step : Step) : (step.apply page).lines =
    page.lines ++ (Text.lines (step.adds page.depth).1.toList).map
      (bodyLine (step.adds page.depth).2) := by
  cases step with
  | statement text => rw [Step.adds, bodyLine_zero]; rfl
  | body | openBrace | closeBrace => rfl
  | indent | outdent => exact (List.append_nil _).symm

theorem Tidy.apply {page : Page} (tidy : page.Tidy) (step : Step) : (step.apply page).Tidy := by
  cases step with
  | body text => exact tidy.addBody text
  | statement text => exact tidy.addStatement text
  | openBrace => exact tidy.openBrace
  | closeBrace => exact tidy.closeBrace
  | indent | outdent => exact tidy

theorem depth_write (steps : List Step) : (write steps).depth = openScopes steps := by
  suffices folded : ∀ page : Page,
      (steps.foldl Step.apply page).depth = steps.foldl Step.scopes page.depth from folded empty
  induction steps with
  | nil => exact fun _ => rfl
  | cons step rest ih =>
    intro page
    rw [List.foldl_cons, List.foldl_cons, ih, depth_apply]

theorem tidy_write (steps : List Step) : (write steps).Tidy :=
  List.foldlRecOn steps Step.apply tidy_empty fun _ tidy step _ => tidy.apply step

theorem write_concat (steps : List Step) (step : Step) :
    write (steps ++ [step]) = step.apply (write steps) := by
  rw [write, List.foldl_append]
  rfl

/-- Nothing that stands on a page is changed by later steps. -/
theorem lines_prefix_write (steps later : List Step) :
    (write steps).lines <+: (write (steps ++ later)).lines := by
  rw [write, write, List.foldl_append]
  generalize steps.foldl Step.apply empty = page
  induction later generalizing page with
  | nil => exact List.prefix_refl _
  | cons step rest ih =>
    refine List.IsPrefix.trans ?_ (ih (step.apply page))
    rw [lines_apply]
    exact List.prefix_append _ _

theorem blockText_text {page : Page} (tidy : page.Tidy) : blockText page.text = page.text := by
  have kept : page.lines.map Text.trimEnd = page.lines := by
    rw [List.map_congr_left fun line member => (tidy line member).trimEnd_eq, List.map_id']
  have lines : (empty.addBody page.text).lines = page.lines := by
    rw [addBody, lines_text tidy, show empty.depth = 0 from rfl, bodyLine_zero, kept]
    rfl
  rw [blockText, text, textChars, lines]
  rfl

/-- The page that was written by the steps: each line is tidy, each step has added the lines of its text,
every line that is not empty behind four blanks for each scope around it, and the text of the page says no
less and no more than its lines. -/
structure WrittenBy (steps : List Step) (page : Page) : Prop where
  tidy : page.Tidy
  placed : ∀ before step after, steps = before ++ step :: after →
    let (text, around) := step.adds (openScopes before)
    ∃ added, (write (before ++ [step])).lines = (write before).lines ++ added ∧
      (write (before ++ [step])).lines <+: page.lines ∧
      added.map (List.drop (4 * around)) = (Text.lines text.toList).map Text.trimEnd ∧
      ∀ line ∈ added, line ≠ [] → List.replicate (4 * around) ' ' <+: line
  text : page.text.toList = page.lines.flatMap (· ++ ['\n'])
  lines : Text.lines page.text.toList = page.lines
  again : blockText page.text = page.text

theorem write_writtenBy (steps : List Step) : WrittenBy steps (write steps) where
  tidy := tidy_write steps
  placed := by
    rintro before step after rfl
    refine ⟨(Text.lines (step.adds (openScopes before)).1.toList).map
      (bodyLine (step.adds (openScopes before)).2), ?_, ?_, ?_, ?_⟩
    · rw [write_concat, lines_apply, depth_write]
    · have longer := lines_prefix_write (before ++ [step]) after
      rwa [List.append_assoc, List.singleton_append] at longer
    · rw [List.map_map]
      exact List.map_congr_left fun line _ => drop_bodyLine _ line
    · intro line member some
      obtain ⟨given, _, rfl⟩ := List.mem_map.1 member
      exact indentation_prefix_bodyLine some
  text := String.toList_ofList
  lines := lines_text (tidy_write steps)
  again := blockText_text (tidy_write steps)

theorem write_block_writtenBy :
    let steps : List Step := [.statement "void F() \n#define TOP", .openBrace,
      .body "a;\r\n\n  b;\u3000", .outdent, .outdent, .closeBrace]
    (write steps).text = "void F()\n#define TOP\n\x7b\n    a;\n\n      b;\n\x7d\n" ∧
      (write steps).Tidy ∧ Text.lines (write steps).text.toList = (write steps).lines ∧
      blockText (write steps).text = (write steps).text ∧
      ∃ added, (write (steps.take 3)).lines = (write (steps.take 2)).lines ++ added ∧
        (write (steps.take 3)).lines <+: (write steps).lines ∧
        added.map (List.drop 4) = ["a;".toList, [], "  b;".toList] ∧
        ∀ line ∈ added, line ≠ [] → List.replicate 4 ' ' <+: line := by
  intro steps
  have written := write_writtenBy steps
  obtain ⟨added, grown, kept, given, indented⟩ := written.placed (steps.take 2) _ (steps.drop 3) rfl
  have lines : (Text.lines "a;\r\n\n  b;\u3000".toList).map Text.trimEnd =
      ["a;".toList, [], "  b;".toList] := by decide
  exact ⟨by decide +kernel, written.tidy, written.lines, written.again, added, grown, kept,
    given.trans lines, indented⟩

end Page
end NodeShader
