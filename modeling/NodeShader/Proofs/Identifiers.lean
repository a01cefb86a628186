import NodeShader.Proofs.Naming
import Mathlib.Computability.RegularExpressions

/-! Names that are identifiers. A regular expression says what an identifier is. Every name is turned into one,
which has the letters and digits of the name, and identifiers are left as they are. The function of a definition
gets such a name: it tells what identifier the name of the definition gives and which id its graph has, and no
more, and it is never the name that stands for a missing definition. -/
namespace NodeShader

namespace Text

/-- Matches a single character, any of these. -/
def oneOf (chars : List Char) : RegularExpression Char := (chars.map .char).sum

def letters : List Char := "ABCDEFGHIJKLMNOPQRSTUVWXYZabcdefghijklmnopqrstuvwxyz".toList

def digits : List Char := "0123456789".toList

/-- A letter or underscore, then any number of letters, digits and underscores. -/
def identifierPattern : RegularExpression Char :=
  oneOf ('_' :: letters) * (oneOf ('_' :: letters ++ digits)).star

def IsIdentifier (name : String) : Prop := name.toList ∈ identifierPattern.matches'

instance (name : String) : Decidable (IsIdentifier name) :=
  inferInstanceAs (Decidable (name.toList ∈ identifierPattern.matches'))

theorem mem_oneOf_iff {chars text : List Char} :
    text ∈ (oneOf chars).matches' ↔ ∃ c ∈ chars, text = [c] := by
  induction chars with
  | nil => simp [oneOf]
  | cons c chars ih =>
    have either : text ∈ (oneOf (c :: chars)).matches' ↔ text = [c] ∨ text ∈ (oneOf chars).matches' :=
      Language.mem_add _ _ _
    simp [either, ih]

theorem mem_star_oneOf_iff {chars text : List Char} :
    text ∈ (oneOf chars).star.matches' ↔ ∀ c ∈ text, c ∈ chars := by
  rw [RegularExpression.matches'_star, Language.mem_kstar]
  constructor
  · rintro ⟨pieces, rfl, matched⟩ c inside
    obtain ⟨piece, listed, inside⟩ := List.mem_flatten.1 inside
    obtain ⟨d, known, rfl⟩ := mem_oneOf_iff.1 (matched piece listed)
    rwa [List.mem_singleton.1 inside]
  · intro known
    refine ⟨text.map fun c => [c], (List.flatMap_singleton' text).symm, fun piece listed => ?_⟩
    obtain ⟨c, inside, rfl⟩ := List.mem_map.1 listed
    exact mem_oneOf_iff.2 ⟨c, known c inside, rfl⟩

theorem toNat_lt_of_isWordChar {c : Char} (word : isWordChar c = true) : c.toNat < 128 := by
  have upper (among : c.isUpper = true) : c.toNat ≤ 'Z'.toNat :=
    UInt32.le_iff_toNat_le.1 (of_decide_eq_true among).2
  have lower (among : c.isLower = true) : c.toNat ≤ 'z'.toNat :=
    UInt32.le_iff_toNat_le.1 (of_decide_eq_true (Bool.and_eq_true_iff.1 among).2)
  simp only [isWordChar, Char.isAlphanum, Bool.or_eq_true, decide_eq_true_eq] at word
  rcases word with (letter | digit) | rfl
  · rcases Bool.or_eq_true_iff.1 letter with among | among
    · exact Nat.lt_of_le_of_lt (upper among) (by decide)
    · exact Nat.lt_of_le_of_lt (lower among) (by decide)
  · exact Nat.lt_of_le_of_lt (Char.isDigit_iff_toNat.1 digit).2 (by decide)
  · decide

/-- All word characters are ASCII, so that what is asked about them can be tried out. -/
theorem forall_isWordChar {property : Char → Prop}
    (tried : ∀ code < 128, isWordChar (Char.ofNat code) = true → property (Char.ofNat code)) (c : Char)
    (word : isWordChar c = true) : property c := by
  have answer := tried c.toNat (toNat_lt_of_isWordChar word)
  rw [Char.ofNat_toNat] at answer
  exact answer word

theorem isWordChar_iff (c : Char) : isWordChar c = true ↔ c ∈ '_' :: letters ++ digits := by
  have known : ∀ c, isWordChar c = true → c ∈ '_' :: letters ++ digits :=
    forall_isWordChar (by decide +kernel)
  have spelled : ('_' :: letters ++ digits).all isWordChar = true := by decide +kernel
  exact ⟨known c, List.all_eq_true.1 spelled c⟩

theorem isWordChar_and_not_isDigit_iff (c : Char) :
    isWordChar c = true ∧ c.isDigit = false ↔ c ∈ '_' :: letters := by
  have known : ∀ c, isWordChar c = true → c.isDigit = false → c ∈ '_' :: letters :=
    forall_isWordChar (by decide +kernel)
  have others : ('_' :: letters).any Char.isDigit = false := by decide +kernel
  refine ⟨fun ⟨word, other⟩ => known c word other, fun spelled => ⟨?_, ?_⟩⟩
  · exact (isWordChar_iff c).2 (List.mem_append_left digits spelled)
  · exact Bool.eq_false_of_not_eq_true (List.any_eq_false.1 others c spelled)

theorem mem_identifierPattern_iff {text : List Char} : text ∈ identifierPattern.matches' ↔
    ∃ first rest, text = first :: rest ∧ first.isDigit = false ∧
      ∀ c ∈ first :: rest, isWordChar c = true := by
  rw [identifierPattern, RegularExpression.matches'_mul, Language.mem_mul]
  constructor
  · rintro ⟨front, begins, rest, goes, rfl⟩
    obtain ⟨first, opening, rfl⟩ := mem_oneOf_iff.1 begins
    obtain ⟨word, other⟩ := (isWordChar_and_not_isDigit_iff first).2 opening
    have words := mem_star_oneOf_iff.1 goes
    exact ⟨first, rest, rfl, other, List.forall_mem_cons.2
      ⟨word, fun c inside => (isWordChar_iff c).2 (words c inside)⟩⟩
  · rintro ⟨first, rest, rfl, other, words⟩
    obtain ⟨word, words⟩ := List.forall_mem_cons.1 words
    have opening := (isWordChar_and_not_isDigit_iff first).1 ⟨word, other⟩
    exact ⟨[first], mem_oneOf_iff.2 ⟨first, opening, rfl⟩, rest,
      mem_star_oneOf_iff.2 fun c inside => (isWordChar_iff c).1 (words c inside), rfl⟩

theorem append_mem_identifierPattern {front back : List Char} (begins : front ∈ identifierPattern.matches')
    (words : ∀ c ∈ back, isWordChar c = true) : front ++ back ∈ identifierPattern.matches' := by
  rw [mem_identifierPattern_iff] at begins ⊢
  obtain ⟨first, rest, rfl, other, before⟩ := begins
  exact ⟨first, rest ++ back, rfl, other, List.forall_mem_append.2 ⟨before, words⟩⟩

/-- The name with every character that identifiers do not have masked. -/
def masked (name : List Char) : List Char := name.map fun c => if isWordChar c then c else '_'

theorem isWordChar_of_mem_masked {name : List Char} : ∀ c ∈ masked name, isWordChar c = true := by
  intro c inside
  obtain ⟨d, _, rfl⟩ := List.mem_map.1 inside
  split
  · assumption
  · decide

theorem masked_of_forall {name : List Char} (words : ∀ c ∈ name, isWordChar c = true) :
    masked name = name := by
  calc masked name = name.map id := List.map_congr_left fun c inside => if_pos (words c inside)
    _ = name := List.map_id name

theorem filter_masked (name : List Char) :
    (masked name).filter Char.isAlphanum = name.filter Char.isAlphanum := by
  induction name with
  | nil => rfl
  | cons c name ih =>
    rw [masked, List.map_cons, List.filter_cons, List.filter_cons, ← masked, ih]
    by_cases known : isWordChar c = true
    · rw [if_pos known]
    · have other : c.isAlphanum = false := by
        simp only [isWordChar, Bool.or_eq_true, not_or, Bool.not_eq_true] at known
        exact known.1
      rw [if_neg known, other]
      rfl

theorem identifierChars_eq (name : List Char) : identifierChars name =
    if (masked name).head?.all Char.isDigit then '_' :: masked name else masked name := by
  rw [identifierChars, ← masked]
  cases masked name with
  | nil => rfl
  | cons first rest => rfl

theorem identifierChars_mem (name : List Char) : identifierChars name ∈ identifierPattern.matches' := by
  have words : ∀ c ∈ masked name, isWordChar c = true := isWordChar_of_mem_masked
  rw [mem_identifierPattern_iff, identifierChars_eq]
  -- The empty name is among those that get an underscore.
  cases begins : (masked name).head?.all Char.isDigit with
  | true =>
    rw [if_pos rfl]
    exact ⟨'_', masked name, rfl, by decide, List.forall_mem_cons.2 ⟨by decide, words⟩⟩
  | false =>
    rw [if_neg Bool.false_ne_true]
    cases same : masked name with
    | nil => simp [same] at begins
    | cons first rest =>
      rw [same] at begins words
      exact ⟨first, rest, rfl, begins, words⟩

theorem identifierChars_of_mem {name : List Char} (identifier : name ∈ identifierPattern.matches') :
    identifierChars name = name := by
  obtain ⟨first, rest, rfl, other, words⟩ := mem_identifierPattern_iff.1 identifier
  rw [identifierChars_eq, masked_of_forall words, List.head?_cons, Option.all_some, other]
  rfl

theorem filter_identifierChars (name : List Char) :
    (identifierChars name).filter Char.isAlphanum = name.filter Char.isAlphanum := by
  rw [← filter_masked name, identifierChars_eq]
  split
  · rfl
  · rfl

theorem isIdentifier_identifier (name : String) : IsIdentifier (identifier name) := by
  rw [IsIdentifier, identifier, String.toList_ofList]
  exact identifierChars_mem name.toList

theorem identifier_eq_iff (name : String) : identifier name = name ↔ IsIdentifier name := by
  constructor
  · intro same
    exact same ▸ isIdentifier_identifier name
  · intro identifies
    rw [identifier, identifierChars_of_mem identifies, String.ofList_toList]

/-- Letters and digits are never lost, added or moved. -/
theorem filter_identifier (name : String) :
    (identifier name).toList.filter Char.isAlphanum = name.toList.filter Char.isAlphanum := by
  rw [identifier, String.toList_ofList, filter_identifierChars]

end Text

theorem toList_functionName (definition : Definition) : (functionName (some definition)).toList =
    (Text.identifier definition.name).toList ++ '_' :: definition.graph.guid.digits := by
  simp [functionName, Guid.simple, String.toList_append]

theorem isIdentifier_functionName (definition : Definition) :
    Text.IsIdentifier (functionName (some definition)) := by
  have digit : ∀ place : Fin 16, Text.isWordChar place.val.digitChar = true := by decide
  rw [Text.IsIdentifier, toList_functionName]
  refine Text.append_mem_identifierPattern (Text.isIdentifier_identifier definition.name) ?_
  refine List.forall_mem_cons.2 ⟨by decide, fun c inside => ?_⟩
  obtain ⟨place, rfl⟩ := Guid.exists_digitChar_of_mem_digits inside
  exact digit place

theorem functionName_ne_none (definition : Definition) :
    functionName (some definition) ≠ functionName none := by
  intro same
  have joint : '_' ∈ (functionName (some definition)).toList := by
    rw [toList_functionName]
    simp
  rw [same] at joint
  exact absurd joint (by decide)

theorem functionName_eq_iff (definition other : Definition) :
    functionName (some definition) = functionName (some other) ↔
      Text.identifier definition.name = Text.identifier other.name ∧
        definition.graph.guid = other.graph.guid := by
  refine ⟨functionName_parts, fun ⟨name, id⟩ => ?_⟩
  rw [functionName, functionName, name, id]

/-- Names become identifiers, and those that are identifiers stay; the names of functions are identifiers, none
of them the one for a missing definition, and agree where both of their parts do and only there. -/
theorem functionName_identifies :
    (∀ name, Text.IsIdentifier (Text.identifier name) ∧
      Text.identifier (Text.identifier name) = Text.identifier name ∧
      (Text.identifier name = name ↔ Text.IsIdentifier name) ∧
      (Text.identifier name).toList.filter Char.isAlphanum = name.toList.filter Char.isAlphanum) ∧
    functionName none = "ERROR" ∧
    ∀ definition, Text.IsIdentifier (functionName (some definition)) ∧
      functionName (some definition) ≠ functionName none ∧
      ∀ other, functionName (some definition) = functionName (some other) ↔
        Text.identifier definition.name = Text.identifier other.name ∧
          definition.graph.guid = other.graph.guid := by
  refine ⟨fun name => ?_, rfl, fun definition => ?_⟩
  · have made := Text.isIdentifier_identifier name
    exact ⟨made, (Text.identifier_eq_iff (Text.identifier name)).2 made, Text.identifier_eq_iff name,
      Text.filter_identifier name⟩
  · exact ⟨isIdentifier_functionName definition, functionName_ne_none definition,
      functionName_eq_iff definition⟩

/-- Names that differ can give one identifier. -/
example : Text.identifier "Mix (v2)" = Text.identifier "Mix [v2]" := by decide +kernel

end NodeShader
