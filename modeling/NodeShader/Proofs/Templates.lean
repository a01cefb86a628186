import NodeShader.Settings
import Mathlib.Data.List.Infix
import Mathlib.Data.List.Nodup

/-! Templates. Their placeholders are replaced one after the other, each over the whole text. All begin with
the same mark and have no other one inside. Where every mark of a template begins a placeholder, and what
stands for the placeholders has no marks, nothing that was brought in is ever taken for one; so a single
pass gives the same text, and a template can be filled in piece by piece. -/
namespace NodeShader

namespace Text

/-- Replaces several patterns in a single pass, at each place the first one that stands there. -/
def replaceEach (pairs : List (List Char × List Char)) : List Char → List Char
  | [] => []
  | c :: rest =>
    match pairs.find? fun pair => pair.1.isPrefixOf (c :: rest) with
    | some pair => pair.2 ++ replaceEach pairs (rest.drop (pair.1.length - 1))
    | none => c :: replaceEach pairs rest
termination_by text => text.length

/-- Each mark in the text is the beginning of a pattern. -/
def MarksBegin (mark : Char) (patterns : List (List Char)) (text : List Char) : Prop :=
  ∀ rest ∈ text.tails, rest.head? = some mark → ∃ pattern ∈ patterns, pattern <+: rest

instance (mark : Char) (patterns : List (List Char)) (text : List Char) :
    Decidable (MarksBegin mark patterns text) :=
  inferInstanceAs (Decidable (∀ rest ∈ text.tails, rest.head? = some mark →
    ∃ pattern ∈ patterns, pattern <+: rest))

/-- No pattern lies across the joint of the two texts. -/
def JoinedClear (patterns : List (List Char)) (front back : List Char) : Prop :=
  ∀ pattern ∈ patterns, ∀ count < pattern.length, 0 < count →
    pattern.take count <:+ front → ¬ pattern.drop count <+: back

instance (patterns : List (List Char)) (front back : List Char) :
    Decidable (JoinedClear patterns front back) :=
  inferInstanceAs (Decidable (∀ pattern ∈ patterns, ∀ count < pattern.length, 0 < count →
    pattern.take count <:+ front → ¬ pattern.drop count <+: back))

theorem joinedClear_of_last {patterns : List (List Char)} {c : Char} (front back : List Char)
    (foreign : ∀ pattern ∈ patterns, c ∉ pattern) : JoinedClear patterns (front ++ [c]) back := by
  intro pattern listed count inside some ending
  have full : (pattern.take count).length = count := by
    rw [List.length_take]
    omega
  have last : [c] <:+ pattern.take count :=
    List.suffix_of_suffix_length_le (List.suffix_append front [c]) ending (by simp; omega)
  have taken : c ∈ pattern.take count := last.subset (by simp)
  exact absurd (List.mem_of_mem_take taken) (foreign pattern listed)

theorem joinedClear_of_first {patterns : List (List Char)} {c : Char} (front back : List Char)
    (foreign : ∀ pattern ∈ patterns, c ∉ pattern) : JoinedClear patterns front (c :: back) := by
  intro pattern listed count inside _ _ beginning
  have first : [c] <+: pattern.drop count :=
    List.prefix_of_prefix_length_le (List.prefix_append [c] back) beginning (by simp; omega)
  have dropped : c ∈ pattern.drop count := first.subset (by simp)
  exact foreign pattern listed (List.mem_of_mem_drop dropped)

theorem MarksBegin.back {mark : Char} {patterns : List (List Char)} {front back : List Char}
    (begins : MarksBegin mark patterns (front ++ back)) : MarksBegin mark patterns back := by
  intro rest member
  rw [List.mem_tails] at member
  exact begins rest ((List.mem_tails _ _).2 (member.trans (List.suffix_append front back)))

theorem MarksBegin.front {mark : Char} {patterns : List (List Char)} {front back : List Char}
    (begins : MarksBegin mark patterns (front ++ back)) (clear : JoinedClear patterns front back) :
    MarksBegin mark patterns front := by
  intro rest member marked
  rw [List.mem_tails] at member
  have longer : rest ++ back <:+ front ++ back := by
    obtain ⟨before, rfl⟩ := member
    exact ⟨before, (List.append_assoc before rest back).symm⟩
  have some : 0 < rest.length := by
    apply List.length_pos_iff.2
    rintro rfl
    contradiction
  obtain ⟨pattern, listed, stands⟩ := begins (rest ++ back) ((List.mem_tails _ _).2 longer)
    (by rw [List.head?_append, marked, Option.some_or])
  refine ⟨pattern, listed, ?_⟩
  rcases List.prefix_or_prefix_of_prefix stands (List.prefix_append rest back) with whole | ⟨tail, rfl⟩
  · exact whole
  · -- The pattern goes beyond the front, so that a part of it would be left for the back.
    rcases List.eq_nil_or_concat tail with rfl | ⟨_, _, rfl⟩
    · simp
    · refine absurd ?_ (clear _ listed rest.length (by simp) some (by simpa using member))
      rw [List.drop_left]
      exact (List.prefix_append_right_inj rest).1 stands

/-- Patterns that are told by a mark, with replacements that have none. -/
structure Marked (mark : Char) (pairs : List (List Char × List Char)) : Prop where
  begins : ∀ pair ∈ pairs, ∃ word, pair.1 = mark :: word ∧ mark ∉ word
  apart : ∀ pair ∈ pairs, ∀ other ∈ pairs, pair.1 <+: other.1 → pair = other
  plain : ∀ pair ∈ pairs, mark ∉ pair.2

/-- Text put together from characters that are no marks and from whole patterns. -/
inductive Made (mark : Char) (pairs : List (List Char × List Char)) : List Char → Prop where
  | nil : Made mark pairs []
  | plain {c : Char} {rest : List Char} : c ≠ mark → Made mark pairs rest → Made mark pairs (c :: rest)
  | pattern {pair : List Char × List Char} {rest : List Char} : pair ∈ pairs → Made mark pairs rest →
    Made mark pairs (pair.1 ++ rest)

theorem Made.of_plain {mark : Char} {pairs : List (List Char × List Char)} {front rest : List Char}
    (plain : mark ∉ front) (made : Made mark pairs rest) : Made mark pairs (front ++ rest) := by
  induction front with
  | nil => exact made
  | cons c front ih =>
    rw [List.mem_cons, not_or] at plain
    exact .plain (Ne.symm plain.1) (ih plain.2)

section Replacement
variable {mark : Char} {word front rest replacement : List Char}

theorem replaceAll_front (plain : mark ∉ front) :
    replaceAll (mark :: word) replacement (front ++ rest) =
      front ++ replaceAll (mark :: word) replacement rest := by
  induction front with
  | nil => rfl
  | cons c front ih =>
    rw [List.mem_cons, not_or] at plain
    have other : ¬ (mark :: word ≠ [] ∧ (mark :: word).isPrefixOf (c :: (front ++ rest)) = true) := by
      simp [List.isPrefixOf, plain.1]
    rw [List.cons_append, replaceAll, if_neg other, ih plain.2, List.cons_append]

theorem replaceAll_pattern : replaceAll (mark :: word) replacement (mark :: word ++ rest) =
    replacement ++ replaceAll (mark :: word) replacement rest := by
  have here : mark :: word ≠ [] ∧ (mark :: word).isPrefixOf (mark :: (word ++ rest)) = true := by
    simp [List.isPrefixOf]
  rw [List.cons_append, replaceAll, if_pos here]
  simp

theorem replaceAll_other {letters : List Char} (plain : mark ∉ letters)
    (apart : ¬ mark :: word <+: mark :: letters) (apart' : ¬ mark :: letters <+: mark :: word) :
    replaceAll (mark :: word) replacement (mark :: letters ++ rest) =
      mark :: letters ++ replaceAll (mark :: word) replacement rest := by
  have elsewhere : ¬ mark :: word <+: mark :: letters ++ rest := fun stands =>
    (List.prefix_or_prefix_of_prefix stands (List.prefix_append _ rest)).elim apart apart'
  rw [← List.isPrefixOf_iff_prefix] at elsewhere
  rw [List.cons_append] at elsewhere ⊢
  rw [replaceAll, if_neg (fun both => elsewhere both.2), replaceAll_front plain, List.cons_append]

theorem replaceEach_nil (text : List Char) : replaceEach [] text = text := by
  induction text with
  | nil => rw [replaceEach]
  | cons c rest ih => rw [replaceEach, List.find?_nil, ih]

namespace Marked
variable {pairs : List (List Char × List Char)} (marked : Marked mark pairs)
include marked

theorem replaceEach_front (plain : mark ∉ front) :
    replaceEach pairs (front ++ rest) = front ++ replaceEach pairs rest := by
  induction front with
  | nil => rfl
  | cons c front ih =>
    rw [List.mem_cons, not_or] at plain
    have absent : (pairs.find? fun pair => pair.1.isPrefixOf (c :: (front ++ rest))) = none := by
      rw [List.find?_eq_none]
      intro pair member
      obtain ⟨word, spelled, _⟩ := marked.begins pair member
      simp [spelled, List.isPrefixOf, plain.1]
    rw [List.cons_append, replaceEach, absent, ih plain.2, List.cons_append]

theorem replaceEach_pattern {pair : List Char × List Char} (member : pair ∈ pairs) :
    replaceEach pairs (pair.1 ++ rest) = pair.2 ++ replaceEach pairs rest := by
  have found : (pairs.find? fun other => other.1.isPrefixOf (pair.1 ++ rest)) = some pair := by
    obtain ⟨other, found⟩ : ∃ other, (pairs.find? fun other => other.1.isPrefixOf (pair.1 ++ rest)) =
        some other := by
      apply Option.isSome_iff_exists.1
      rw [List.find?_isSome]
      exact ⟨pair, member, by simp⟩
    have stands : other.1 <+: pair.1 ++ rest := by simpa using List.find?_some found
    have listed := List.mem_of_find?_eq_some found
    rcases List.prefix_or_prefix_of_prefix stands (List.prefix_append pair.1 rest) with shorter | longer
    · rw [found, marked.apart other listed pair member shorter]
    · rw [found, marked.apart pair member other listed longer]
  obtain ⟨word, spelled, _⟩ := marked.begins pair member
  rw [spelled, List.cons_append] at found ⊢
  rw [replaceEach, found]
  simp [spelled]

theorem replaceEach_append (made : Made mark pairs front) (back : List Char) :
    replaceEach pairs (front ++ back) = replaceEach pairs front ++ replaceEach pairs back := by
  induction made with
  | nil => simp [replaceEach]
  | @plain c rest other _ ih =>
    have unmarked : mark ∉ [c] := by simpa using Ne.symm other
    have single (text : List Char) : replaceEach pairs (c :: text) = c :: replaceEach pairs text :=
      marked.replaceEach_front unmarked
    rw [List.cons_append, single, single, ih, List.cons_append]
  | pattern member _ ih =>
    rw [List.append_assoc, marked.replaceEach_pattern member, marked.replaceEach_pattern member, ih,
      List.append_assoc]

theorem not_mem_replaceEach {text : List Char} (made : Made mark pairs text) :
    mark ∉ replaceEach pairs text := by
  induction made with
  | nil => simp [replaceEach]
  | @plain c rest other _ ih =>
    rw [show c :: rest = [c] ++ rest from rfl, marked.replaceEach_front (by simpa using Ne.symm other)]
    simp [Ne.symm other, ih]
  | pattern member _ ih =>
    rw [marked.replaceEach_pattern member, List.mem_append, not_or]
    exact ⟨marked.plain _ member, ih⟩

theorem made_of_marksBegin {text : List Char}
    (begins : MarksBegin mark (pairs.map (·.1)) text) : Made mark pairs text := by
  induction length : text.length using Nat.strong_induction_on generalizing text with
  | _ bound ih =>
    cases text with
    | nil => exact .nil
    | cons c rest =>
      by_cases here : c = mark
      · obtain ⟨pattern, listed, tail, split⟩ :=
          begins (c :: rest) ((List.mem_tails _ _).2 (List.suffix_refl _)) (by rw [here, List.head?_cons])
        obtain ⟨pair, member, rfl⟩ := List.mem_map.1 listed
        obtain ⟨word, spelled, _⟩ := marked.begins pair member
        rw [← split] at begins length ⊢
        have shorter : tail.length < bound := by
          rw [← length, spelled, List.length_append, List.length_cons]
          omega
        exact .pattern member (ih tail.length shorter begins.back rfl)
      · have split : MarksBegin mark (pairs.map (·.1)) ([c] ++ rest) := begins
        exact .plain here (ih rest.length (by rw [← length]; simp) split.back rfl)

end Marked

theorem Marked.tail {pair : List Char × List Char} {pairs : List (List Char × List Char)}
    (marked : Marked mark (pair :: pairs)) : Marked mark pairs where
  begins other member := marked.begins other (List.mem_cons_of_mem pair member)
  apart other member another member' :=
    marked.apart other (List.mem_cons_of_mem pair member) another (List.mem_cons_of_mem pair member')
  plain other member := marked.plain other (List.mem_cons_of_mem pair member)

/-- What the replacement of the first pattern leaves to be done is what the others do to its result. -/
theorem Marked.replaceEach_cons {pair : List Char × List Char} {pairs : List (List Char × List Char)}
    (marked : Marked mark (pair :: pairs)) {text : List Char} (made : Made mark (pair :: pairs) text) :
    Made mark pairs (replaceAll pair.1 pair.2 text) ∧
      replaceEach pairs (replaceAll pair.1 pair.2 text) = replaceEach (pair :: pairs) text := by
  have first : pair ∈ pair :: pairs := List.mem_cons_self
  obtain ⟨word, spelled, _⟩ := marked.begins pair first
  induction made with
  | nil => exact ⟨by simpa [replaceAll] using .nil, by simp [replaceAll, replaceEach]⟩
  | @plain c rest other _ ih =>
    have single : mark ∉ [c] := by simpa using Ne.symm other
    rw [show c :: rest = [c] ++ rest from rfl, spelled, replaceAll_front single, ← spelled,
      marked.tail.replaceEach_front single, marked.replaceEach_front single, ih.2]
    exact ⟨.of_plain single ih.1, rfl⟩
  | @pattern next rest member _ ih =>
    rw [marked.replaceEach_pattern member, ← ih.2]
    by_cases same : next = pair
    · rw [same, spelled, replaceAll_pattern, ← spelled, marked.tail.replaceEach_front (marked.plain _ first)]
      exact ⟨.of_plain (marked.plain _ first) ih.1, rfl⟩
    · have later : next ∈ pairs := (List.mem_cons.1 member).resolve_left same
      obtain ⟨letters, written, plain⟩ := marked.begins next member
      have kept : replaceAll pair.1 pair.2 (next.1 ++ rest) =
          next.1 ++ replaceAll pair.1 pair.2 rest := by
        have apart : ¬ pair.1 <+: next.1 := fun stands =>
          same (marked.apart pair first next member stands).symm
        have apart' : ¬ next.1 <+: pair.1 := fun stands =>
          same (marked.apart next member pair first stands)
        rw [spelled, written] at apart apart' ⊢
        exact replaceAll_other plain apart apart'
      rw [kept, marked.tail.replaceEach_pattern later]
      exact ⟨.pattern later ih.1, rfl⟩

/-- Replacing the patterns one after the other comes to the same as replacing them in a single pass. -/
theorem Marked.foldl_replaceAll {pairs : List (List Char × List Char)} (marked : Marked mark pairs)
    {text : List Char} (made : Made mark pairs text) :
    pairs.foldl (fun text pair => replaceAll pair.1 pair.2 text) text = replaceEach pairs text := by
  induction pairs generalizing text with
  | nil => exact (replaceEach_nil text).symm
  | cons pair pairs ih =>
    obtain ⟨left, same⟩ := marked.replaceEach_cons made
    rw [List.foldl_cons, ih marked.tail left, same]

end Replacement
end Text

namespace Settings

def patterns : List (List Char) := ["$precision".toList, "$context".toList, "$in".toList]

/-- Neither of the names of the context has the mark of placeholders. -/
structure Plain (settings : Settings) : Prop where
  type : '$' ∉ settings.contextType.toList
  argument : '$' ∉ settings.contextArgument.toList

theorem spelled_patterns : ∀ pattern ∈ patterns, pattern = '$' :: pattern.tail ∧ '$' ∉ pattern.tail := by
  decide

theorem apart_patterns : ∀ pattern ∈ patterns, ∀ other ∈ patterns, pattern <+: other → pattern = other := by
  decide

theorem mem_patterns {settings : Settings} {pair : List Char × List Char}
    (member : pair ∈ settings.placeholders) : pair.1 ∈ patterns :=
  List.mem_map.2 ⟨pair, member, rfl⟩

namespace Plain
variable {settings : Settings} (plain : settings.Plain)
include plain

theorem marked : Text.Marked '$' settings.placeholders where
  begins pair member := ⟨pair.1.tail, spelled_patterns pair.1 (mem_patterns member)⟩
  apart pair member other member' stands := by
    have distinct : (settings.placeholders.map (·.1)).Nodup := show patterns.Nodup by decide
    have same := apart_patterns pair.1 (mem_patterns member) other.1 (mem_patterns member') stands
    exact List.inj_on_of_nodup_map distinct member member' same
  plain pair member := by
    simp only [placeholders, List.mem_cons, List.not_mem_nil, or_false] at member
    rcases member with rfl | rfl | rfl
    · cases settings.precision <;> decide
    · exact plain.type
    · exact plain.argument

theorem made {text : List Char} (begins : Text.MarksBegin '$' patterns text) :
    Text.Made '$' settings.placeholders text :=
  plain.marked.made_of_marksBegin begins

theorem expandChars_eq {text : List Char} (begins : Text.MarksBegin '$' patterns text) :
    settings.expandChars text = Text.replaceEach settings.placeholders text :=
  plain.marked.foldl_replaceAll (plain.made begins)

theorem expandChars_append {front back : List Char} (begins : Text.MarksBegin '$' patterns (front ++ back))
    (clear : Text.JoinedClear patterns front back) :
    settings.expandChars (front ++ back) = settings.expandChars front ++ settings.expandChars back := by
  have first := begins.front clear
  rw [plain.expandChars_eq begins, plain.expandChars_eq first, plain.expandChars_eq begins.back,
    plain.marked.replaceEach_append (plain.made first)]

theorem expandChars_of_not_mem {text : List Char} (unmarked : '$' ∉ text) :
    settings.expandChars text = text := by
  have begins : Text.MarksBegin '$' patterns text := by
    intro rest member begin
    rw [List.mem_tails] at member
    exact absurd (member.subset (List.mem_of_head? begin)) unmarked
  calc settings.expandChars text
      = Text.replaceEach settings.placeholders (text ++ []) := by
        rw [List.append_nil, plain.expandChars_eq begins]
    _ = text ++ Text.replaceEach settings.placeholders [] := plain.marked.replaceEach_front unmarked
    _ = text := by rw [Text.replaceEach, List.append_nil]

/-- No pattern has a blank or a bracket, so each part of the beginning of a function is filled in by
itself. -/
theorem expandChars_header {name rest : List Char}
    (begins : Text.MarksBegin '$' patterns ("void ".toList ++ name ++ ['('] ++ rest)) :
    settings.expandChars ("void ".toList ++ name ++ ['('] ++ rest) =
      "void ".toList ++ settings.expandChars name ++ ['('] ++ settings.expandChars rest := by
  have opened : Text.JoinedClear patterns ("void ".toList ++ name ++ ['(']) rest :=
    Text.joinedClear_of_last _ _ (by decide)
  have named : Text.JoinedClear patterns ("void ".toList ++ name) ['('] :=
    Text.joinedClear_of_first _ _ (by decide)
  have typed : Text.JoinedClear patterns "void ".toList name :=
    Text.joinedClear_of_last "void".toList name (c := ' ') (by decide)
  have header := begins.front opened
  have keyword : settings.expandChars "void ".toList = "void ".toList :=
    plain.expandChars_of_not_mem (by decide)
  have bracket : settings.expandChars ['('] = ['('] := plain.expandChars_of_not_mem (by decide)
  rw [plain.expandChars_append begins opened, plain.expandChars_append header named,
    plain.expandChars_append (header.front named) typed, keyword, bracket]

end Plain

/-- A template in which every mark begins a placeholder is filled in as if in a single pass; no mark is left,
parts that no placeholder lies across are filled in one by one, and a function keeps its beginning. -/
theorem expand_inOnePass {settings : Settings} (plain : settings.Plain) {template : String}
    (begins : Text.MarksBegin '$' patterns template.toList) :
    settings.expand template =
        String.ofList (Text.replaceEach settings.placeholders template.toList) ∧
      '$' ∉ (settings.expand template).toList ∧
      (∀ front back, template = front ++ back →
        Text.JoinedClear patterns front.toList back.toList →
          settings.expand template = settings.expand front ++ settings.expand back) ∧
      ∀ name rest, template = "void " ++ name ++ "(" ++ rest →
        settings.expand template = "void " ++ settings.expand name ++ "(" ++ settings.expand rest := by
  refine ⟨?_, ?_, ?_, ?_⟩
  · rw [expand, plain.expandChars_eq begins]
  · rw [expand, String.toList_ofList, plain.expandChars_eq begins]
    exact plain.marked.not_mem_replaceEach (plain.made begins)
  · rintro front back rfl clear
    rw [String.toList_append] at begins
    rw [expand, String.toList_append, plain.expandChars_append begins clear, String.ofList_append]
    rfl
  · rintro name rest rfl
    simp only [String.toList_append] at begins
    rw [← String.toList_inj]
    simp only [expand, String.toList_append, String.toList_ofList]
    exact plain.expandChars_header begins

theorem expand_header_inOnePass :
    let settings : Settings := { standard with precision := .half, contextArgument := "i" }
    let template := "void Normal_$precision($context $in, out $precision3 Out)"
    let front := "void Normal_$precision($context $in"
    let back := ", out $precision3 Out)"
    settings.Plain ∧ Text.MarksBegin '$' patterns template.toList ∧
      Text.JoinedClear patterns front.toList back.toList ∧
      settings.expand template =
        String.ofList (Text.replaceEach settings.placeholders template.toList) ∧
      '$' ∉ (settings.expand template).toList ∧
      settings.expand template = settings.expand front ++ settings.expand back ∧
      settings.expand template = "void " ++ settings.expand "Normal_$precision" ++ "(" ++
        settings.expand "$context $in, out $precision3 Out)" ∧
      settings.expand template = "void Normal_half(SurfaceInputs i, out half3 Out)" := by
  intro settings template front back
  have plain : settings.Plain := ⟨by decide, by decide⟩
  have begins : Text.MarksBegin '$' patterns template.toList := by decide +kernel
  have clear : Text.JoinedClear patterns front.toList back.toList := by decide +kernel
  obtain ⟨once, unmarked, parts, header⟩ := expand_inOnePass plain begins
  exact ⟨plain, begins, clear, once, unmarked, parts front back rfl clear,
    header "Normal_$precision" "$context $in, out $precision3 Out)" rfl, by decide +kernel⟩

/-- A mark that is brought in begins a placeholder for the replacements that follow. -/
example : ({ standard with contextType := "$in" } : Settings).expand "$context" = "IN" := by
  decide +kernel

end Settings
end NodeShader
