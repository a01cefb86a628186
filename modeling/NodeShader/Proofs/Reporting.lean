import NodeShader.Proofs.Rings
import Mathlib.Data.List.Nodup

/-! What validation reports. A wrapper is flagged exactly if it misses its definition, or unfolds to one
in which an active node is broken or misses its own; the search for faults finds this wherever it comes
to an end. There is one warning for each wrapper that misses its definition, and one for each definition
without an output node that wrappers of the graph refer to, however many of them do. -/
namespace NodeShader

/-- No two wrappers of the graph carry one id. -/
def ShaderGraph.WrappersDiffer (graph : ShaderGraph) : Prop :=
  ∀ first ∈ graph.nodes.entries, ∀ second ∈ graph.nodes.entries, first.2.wrapper?.isSome →
    second.2.wrapper?.isSome → first.2.id = second.2.id → first = second

theorem ShaderGraph.WrappersDiffer.of_filed {graph : ShaderGraph}
    (filed : ∀ entry ∈ graph.nodes.entries, entry.2.id = entry.1) : graph.WrappersDiffer := by
  intro first member second listed _ _ same
  rw [filed first member, filed second listed] at same
  exact List.inj_on_of_nodup_map graph.nodes.distinct member listed same

namespace View

/-- A wrapper that is bound to a handle and stands for nothing. -/
def Missing (view : View) (node : Node) : Prop :=
  ∃ wrapper, node.kind = .wrapper wrapper ∧ wrapper.handle ≠ none ∧ view.resolve wrapper = none

/-- A wrapper that misses its definition, or unfolds to one in which an active node is broken or misses
its own. -/
def Faulty (view : View) (node : Node) : Prop :=
  view.Missing node ∨ ∃ definition, view.Unfolds node definition ∧
    ∃ entry ∈ definition.graph.active, entry.2.hasError = true ∨ view.Missing entry.2

section Search
variable {view : View} {unmarked : List Serial} {node : Node} {definition : Live}

theorem Faulty.isSome (faulty : view.Faulty node) : node.wrapper?.isSome := by
  rcases faulty with ⟨wrapper, kind, _⟩ | ⟨definition, ⟨outer, resolved, _⟩, _⟩
  · rw [(node.wrapper?_eq_some_iff wrapper).2 kind]
    rfl
  · obtain ⟨wrapper, known, _⟩ := Option.bind_eq_some_iff.1 resolved
    rw [known]
    rfl

theorem Faulty.outside (resolved : node.wrapper?.bind view.resolve = some definition)
    {entry : NodeId × Node} (active : entry ∈ definition.graph.active)
    (faulty : view.Faulty entry.2) : view.Faulty node := by
  rcases faulty with missing | ⟨deeper, unfolds, blamed⟩
  · exact .inr ⟨definition, ⟨definition, resolved, .inl rfl⟩, entry, active, .inr missing⟩
  · exact .inr ⟨deeper, ⟨definition, resolved, .inr (reaches_of_unfolds active unfolds)⟩, blamed⟩

private theorem exists_of_anyM {α : Type} {test : α → Option Bool} {items : List α}
    (found : items.anyM test = some true) : ∃ item ∈ items, test item = some true := by
  induction items with
  | nil => simp at found
  | cons item rest ih =>
    rw [List.anyM_cons] at found
    obtain ⟨answer, here, later⟩ := Option.bind_eq_some_iff.1 found
    cases answer with
    | true => exact ⟨item, by simp, here⟩
    | false =>
      obtain ⟨other, member, hit⟩ := ih later
      exact ⟨other, by simp [member], hit⟩

/-- By induction along the search: what it finds at fault is at fault. -/
theorem faulty_of_fault (found : view.fault unmarked node = some true) : view.Faulty node := by
  induction unmarked, node using fault.induct view with
  | case1 unmarked node other => simp [fault, other] at found
  | case2 unmarked node wrapper kind unbound => simp [fault, kind, unbound] at found
  | case3 unmarked node wrapper kind bound missing =>
    exact .inl ⟨wrapper, (node.wrapper?_eq_some_iff wrapper).1 kind, bound, missing⟩
  | case4 unmarked node wrapper kind bound definition resolved inside ih =>
    rw [fault] at found
    simp only [kind, if_neg bound, resolved, dif_pos inside] at found
    have stands : node.wrapper?.bind view.resolve = some definition :=
      Option.bind_eq_some_iff.2 ⟨wrapper, kind, resolved⟩
    obtain ⟨entry, active, hit⟩ := exists_of_anyM found
    split at hit
    next broken => exact .inr ⟨definition, ⟨definition, stands, .inl rfl⟩, entry, active, .inl broken⟩
    next => exact (ih entry hit).outside stands active
  | case5 unmarked node wrapper kind bound definition resolved outside =>
    rw [fault] at found
    simp [kind, bound, resolved, outside] at found

theorem Intact.not_missing (intact : view.Intact node) : ¬ view.Missing node := by
  rintro ⟨wrapper, kind, bound, missing⟩
  have resolves := intact.resolves kind bound
  simp [missing] at resolves

theorem Intact.not_faulty (intact : view.Intact node) : ¬ view.Faulty node := by
  rintro (missing | ⟨definition, unfolds, entry, active, broken | missing⟩)
  · exact intact.not_missing missing
  · simp [(intact.unfolds unfolds entry active).1] at broken
  · exact (intact.unfolds unfolds entry active).2.not_missing missing

theorem isFaulty_iff (answered : view.fault view.serials node ≠ none) :
    view.isFaulty node = true ↔ view.Faulty node := by
  obtain ⟨found, answer⟩ := Option.ne_none_iff_exists'.1 answered
  cases found with
  | true => simpa [isFaulty, answer] using faulty_of_fault answer
  | false => simpa [isFaulty, answer] using Intact.not_faulty ⟨view.serials, answer⟩

end Search

/-- The warning about a wrapper that misses its definition. -/
def lacking (view : View) (node : Node) : Option Warning :=
  node.wrapper?.bind fun wrapper => wrapper.handle.bind fun handle =>
    if (view.resolve wrapper).isNone then some (.missingSubGraph node.name handle) else none

/-- Each definition without an output node is named once, unless its handle is among those that warnings
were given about. -/
structure Bare (view : View) (warned : List Handle) (nodes : List Node) (bare : List Live) : Prop where
  distinct : bare.Nodup
  iff : ∀ definition, definition ∈ bare ↔
    (∃ node ∈ nodes, node.wrapper?.bind view.resolve = some definition) ∧
      definition.graph.output? = none ∧ definition.handle ∉ warned

section Warnings
variable {view : View} {warned : List Handle} {node : Node} {nodes : List Node} {bare : List Live}

theorem Bare.skip (rest : view.Bare warned nodes bare)
    (passed : ∀ definition, node.wrapper?.bind view.resolve = some definition →
      definition.graph.output? = none → definition.handle ∈ warned) :
    view.Bare warned (node :: nodes) bare := by
  refine ⟨rest.distinct, fun definition => (rest.iff definition).trans ?_⟩
  constructor
  · rintro ⟨⟨other, member, resolved⟩, known⟩
    exact ⟨⟨other, by simp [member], resolved⟩, known⟩
  · rintro ⟨⟨other, member, resolved⟩, silent, fresh⟩
    rcases List.mem_cons.1 member with rfl | member
    · exact absurd (passed definition resolved silent) fresh
    · exact ⟨⟨other, member, resolved⟩, silent, fresh⟩

theorem Bare.warn {definition : Live} (rest : view.Bare (definition.handle :: warned) nodes bare)
    (resolved : node.wrapper?.bind view.resolve = some definition)
    (single : ∀ other ∈ nodes, ∀ found, other.wrapper?.bind view.resolve = some found →
      found.handle = definition.handle → found = definition)
    (silent : definition.graph.output? = none) (fresh : definition.handle ∉ warned) :
    view.Bare warned (node :: nodes) (definition :: bare) := by
  have absent : definition ∉ bare := fun listed => by
    simpa using ((rest.iff definition).1 listed).2.2
  refine ⟨List.nodup_cons.2 ⟨absent, rest.distinct⟩, fun other => ?_⟩
  rw [List.mem_cons, rest.iff]
  constructor
  · rintro (rfl | ⟨⟨inner, member, stands⟩, bare, unwarned⟩)
    · exact ⟨⟨node, by simp, resolved⟩, silent, fresh⟩
    · exact ⟨⟨inner, by simp [member], stands⟩, bare, fun known => unwarned (by simp [known])⟩
  · rintro ⟨⟨inner, member, stands⟩, bare, unwarned⟩
    rcases List.mem_cons.1 member with rfl | member
    · exact .inl (Option.some.inj (stands.symm.trans resolved))
    · by_cases same : other.handle = definition.handle
      · exact .inl (single inner member other stands same)
      · exact .inr ⟨⟨inner, member, stands⟩, bare, by simp [same, unwarned]⟩

theorem exists_bare_warnings (warned : List Handle)
    (placed : ∀ node ∈ nodes, ∀ definition, node.wrapper?.bind view.resolve = some definition →
      view.lookup definition.handle = some definition) :
    ∃ bare, view.Bare warned nodes bare ∧ (view.warnings warned nodes).Perm
      (nodes.filterMap view.lacking ++ bare.map fun definition => .noOutputNode definition.name) := by
  induction warned, nodes using warnings.induct view with
  | case1 warned => exact ⟨[], ⟨List.nodup_nil, by simp⟩, by simp [warnings]⟩
  | case2 warned node rest other ih =>
    obtain ⟨bare, known, same⟩ := ih fun inner member => placed inner (by simp [member])
    exact ⟨bare, known.skip (by simp [other]), by simpa [warnings, lacking, other] using same⟩
  | case3 warned node rest wrapper kind unbound ih =>
    obtain ⟨bare, known, same⟩ := ih fun inner member => placed inner (by simp [member])
    exact ⟨bare, known.skip (by simp [kind, resolve, unbound]),
      by simpa [warnings, lacking, kind, unbound] using same⟩
  | case4 warned node rest wrapper kind handle missing bound ih =>
    obtain ⟨bare, known, same⟩ := ih fun inner member => placed inner (by simp [member])
    exact ⟨bare, known.skip (by simp [kind, missing]),
      by simpa [warnings, lacking, kind, bound, missing] using same⟩
  | case5 warned node rest wrapper kind handle definition resolved bound test ih =>
    obtain ⟨bare, known, same⟩ := ih fun inner member => placed inner (by simp [member])
    have stands : node.wrapper?.bind view.resolve = some definition :=
      Option.bind_eq_some_iff.2 ⟨wrapper, kind, resolved⟩
    obtain ⟨silent, fresh⟩ : definition.graph.output? = none ∧ definition.handle ∉ warned := by
      simpa using test
    have single (other : Node) (member : other ∈ rest) (found : Live)
        (inner : other.wrapper?.bind view.resolve = some found)
        (equal : found.handle = definition.handle) : found = definition := by
      have stored := placed other (by simp [member]) found inner
      rw [equal, placed node (by simp) definition stands] at stored
      exact (Option.some.inj stored).symm
    have warns : view.warnings warned (node :: rest) =
        .noOutputNode definition.name :: view.warnings (definition.handle :: warned) rest := by
      rw [warnings]
      simp only [kind, bound, resolved, if_pos test]
    have found : view.lacking node = none := by simp [lacking, kind, bound, resolved]
    refine ⟨definition :: bare, known.warn stands single silent fresh, ?_⟩
    rw [warns, List.filterMap_cons_none found, List.map_cons]
    exact (same.cons _).trans List.perm_middle.symm
  | case6 warned node rest wrapper kind handle definition resolved bound test ih =>
    obtain ⟨bare, known, same⟩ := ih fun inner member => placed inner (by simp [member])
    have passes : view.warnings warned (node :: rest) = view.warnings warned rest := by
      rw [warnings]
      simp only [kind, bound, resolved, if_neg test]
    have found : view.lacking node = none := by simp [lacking, kind, bound, resolved]
    refine ⟨bare, known.skip fun other stands silent => ?_, ?_⟩
    · rw [kind] at stands
      cases resolved.symm.trans stands
      simpa [silent] using test
    · rw [passes, List.filterMap_cons_none found]
      exact same

end Warnings

/-- What a report says of a graph and what the graph is afterwards: the id of each faulty wrapper is
listed, in the order of nodes; the flags of wrappers tell the same and nothing else is changed; and the
warnings are about the wrappers that miss a definition and about the bare definitions that the graph
refers to. -/
structure Reported (view : View) (graph flagged : ShaderGraph) (report : Report) : Prop where
  listed : ∃ faulty : List (NodeId × Node), faulty.Sublist graph.nodes.entries ∧
    (∀ entry, entry ∈ faulty ↔ entry ∈ graph.nodes.entries ∧ view.Faulty entry.2) ∧
    report.flagged = faulty.map fun entry => entry.2.id
  marked : ∃ mark : Node → Bool,
    flagged = graph.mapNodes (fun _ node =>
      if node.wrapper?.isSome then { node with hasError := mark node } else node) ∧
    ∀ node ∈ graph.nodes.values, node.wrapper?.isSome → (mark node = true ↔ view.Faulty node)
  single : graph.WrappersDiffer → report.flagged.Nodup ∧ ∀ entry ∈ flagged.nodes.entries,
    entry.2.wrapper?.isSome → (entry.2.hasError = true ↔ entry.2.id ∈ report.flagged)
  warned : ∃ bare : List Live, bare.Nodup ∧
    (∀ definition, definition ∈ bare ↔
      view.Refers graph definition ∧ definition.graph.output? = none) ∧
    report.warnings.Perm (graph.nodes.values.filterMap view.lacking ++
      bare.map fun definition => .noOutputNode definition.name)

section Report
variable {view : View} {graph flagged : ShaderGraph} {report : Report}

theorem listed_report
    (answered : ∀ node ∈ graph.nodes.values, view.fault view.serials node ≠ none) :
    ∃ faulty : List (NodeId × Node), faulty.Sublist graph.nodes.entries ∧
      (∀ entry, entry ∈ faulty ↔ entry ∈ graph.nodes.entries ∧ view.Faulty entry.2) ∧
      (view.report graph).flagged = faulty.map fun entry => entry.2.id := by
  refine ⟨graph.nodes.entries.filter fun entry => view.isFaulty entry.2, List.filter_sublist, ?_, ?_⟩
  · intro entry
    rw [List.mem_filter]
    exact and_congr_right fun member => isFaulty_iff (answered _ (List.mem_map.2 ⟨entry, member, rfl⟩))
  · simp [View.report, Keyed.values, List.filter_map, Function.comp_def]

theorem single_of_listed {faulty : List (NodeId × Node)} {listed : List NodeId}
    (answered : ∀ node ∈ graph.nodes.values, view.fault view.serials node ≠ none)
    (differ : graph.WrappersDiffer) (sub : faulty.Sublist graph.nodes.entries)
    (iff : ∀ entry, entry ∈ faulty ↔ entry ∈ graph.nodes.entries ∧ view.Faulty entry.2)
    (same : listed = faulty.map fun entry => entry.2.id) :
    listed.Nodup ∧ ∀ entry ∈ (view.flag graph).nodes.entries, entry.2.wrapper?.isSome →
      (entry.2.hasError = true ↔ entry.2.id ∈ listed) := by
  subst same
  constructor
  · have distinct : faulty.Nodup := sub.nodup (.of_map _ graph.nodes.distinct)
    refine distinct.map_on fun first member second other equal => ?_
    obtain ⟨known, blamed⟩ := (iff first).1 member
    obtain ⟨otherKnown, otherBlamed⟩ := (iff second).1 other
    exact differ first known second otherKnown blamed.isSome otherBlamed.isSome equal
  · intro entry member wrapped
    obtain ⟨before, known, rfl⟩ := List.mem_map.1 member
    change (view.flagNode before.2).wrapper?.isSome at wrapped
    change (view.flagNode before.2).hasError = true ↔ (view.flagNode before.2).id ∈ _
    rw [flagNode_wrapper?] at wrapped
    have flag : (view.flagNode before.2).hasError = view.isFaulty before.2 := by
      simp [flagNode, wrapped]
    rw [flag, flagNode_id, isFaulty_iff (answered _ (List.mem_map.2 ⟨before, known, rfl⟩)), List.mem_map]
    constructor
    · exact fun faults => ⟨before, (iff before).2 ⟨known, faults⟩, rfl⟩
    · rintro ⟨other, listed, equal⟩
      obtain ⟨otherKnown, otherBlamed⟩ := (iff other).1 listed
      rwa [← differ other otherKnown before known otherBlamed.isSome wrapped equal]

theorem exists_stands_iff (current : view.Current graph) (definition : Live) :
    (∃ node ∈ graph.nodes.values, node.wrapper?.bind view.resolve = some definition) ↔
      view.Refers graph definition := by
  constructor
  · rintro ⟨node, member, stands⟩
    obtain ⟨wrapper, known, resolved⟩ := Option.bind_eq_some_iff.1 stands
    exact current.refers_of_resolve member ((node.wrapper?_eq_some_iff wrapper).1 known) resolved
  · rintro ⟨node, member, wrapper, handle, kind, bound, stored⟩
    refine ⟨node, member, ?_⟩
    rw [(node.wrapper?_eq_some_iff wrapper).2 kind, Option.bind_some,
      (current.here node member wrapper kind).resolve, bound, Option.bind_some, stored]

theorem warned_report (coherent : view.Coherent) (current : view.Current graph) :
    ∃ bare : List Live, bare.Nodup ∧
      (∀ definition, definition ∈ bare ↔
        view.Refers graph definition ∧ definition.graph.output? = none) ∧
      (view.report graph).warnings.Perm (graph.nodes.values.filterMap view.lacking ++
        bare.map fun definition => .noOutputNode definition.name) := by
  have placed (node : Node) (member : node ∈ graph.nodes.values) (definition : Live)
      (stands : node.wrapper?.bind view.resolve = some definition) :
      view.lookup definition.handle = some definition := by
    obtain ⟨handle, stored⟩ :=
      ((exists_stands_iff current definition).1 ⟨node, member, stands⟩).stored
    exact coherent.stored stored
  obtain ⟨bare, known, same⟩ := exists_bare_warnings [] placed
  refine ⟨bare, known.distinct, fun definition => ?_, same⟩
  rw [known.iff, exists_stands_iff current]
  simp

end Report

/-- Validation flags exactly the wrappers at fault and warns once about each finding. -/
theorem validate_reported {assets : Assets} (reached : assets.Reached) {graph flagged : ShaderGraph}
    {report : Report} (current : assets.view.Current graph)
    (ok : assets.view.validate graph = .ok (report, flagged)) :
    assets.view.Reported graph flagged report := by
  obtain ⟨rfl, rfl⟩ := Prod.mk.inj (eq_of_validate ok)
  have answered := answered_of_validate ok
  have listed := listed_report answered
  refine ⟨listed, ⟨assets.view.isFaulty, rfl, ?_⟩, fun differ => ?_,
    warned_report (coherent_of_reached reached) current⟩
  · exact fun node member _ => isFaulty_iff (answered node member)
  · obtain ⟨faulty, sub, iff, same⟩ := listed
    exact single_of_listed answered differ sub iff same

def placeholder (id : Guid) (handle : Option Handle) : Node :=
  Node.make ⟨id⟩ "Sub-graph" (.wrapper (.bound handle))

/-- One definition misses what its wrapper stands for, and one expands to it. -/
def lacunary : Assets :=
  Assets.empty.storeAll
    [⟨⟨1, 1⟩, "Lacking", wrapping 1 "Lacking" ⟨9, 9⟩⟩, ⟨⟨2, 2⟩, "Outer", wrapping 2 "Outer" ⟨1, 1⟩⟩,
      ⟨⟨3, 3⟩, "Sound", .subGraph ⟨3, 0⟩ "Sound" ⟨⟨3, 1⟩⟩⟩]

/-- Wrappers at fault, one of them switched off, stand next to a sound one and to one that is unbound. -/
def patchwork : ShaderGraph :=
  [{ placeholder ⟨4, 1⟩ (some ⟨2, 2⟩) with enabled := false }, placeholder ⟨4, 2⟩ (some ⟨3, 3⟩),
    placeholder ⟨4, 3⟩ (some ⟨8, 8⟩), { placeholder ⟨4, 4⟩ none with hasError := true },
    placeholder ⟨4, 5⟩ (some ⟨2, 2⟩)].foldl ShaderGraph.addNode (.root ⟨4, 0⟩ "Root")

theorem validate_patchwork_reported :
    lacunary.Reached ∧ lacunary.view.Current patchwork ∧ patchwork.WrappersDiffer ∧
      ∃ report flagged, lacunary.view.validate patchwork = .ok (report, flagged) ∧
        report.flagged = [⟨4, 1⟩, ⟨4, 3⟩, ⟨4, 5⟩] ∧
        report.warnings = [.noOutputNode "Outer", .missingSubGraph "Sub-graph" ⟨8, 8⟩] ∧
        lacunary.view.Reported patchwork flagged report := by
  have reached : lacunary.Reached := Assets.Reached.empty.storeAll _
  have current : lacunary.view.Current patchwork := by decide +kernel
  have answer : (lacunary.view.validate patchwork).map (·.1) = .ok
      ⟨[⟨4, 1⟩, ⟨4, 3⟩, ⟨4, 5⟩], [.noOutputNode "Outer", .missingSubGraph "Sub-graph" ⟨8, 8⟩]⟩ := by
    decide +kernel
  obtain ⟨⟨report, flagged⟩, ok, same⟩ := Outcome.map_eq_ok answer
  exact ⟨reached, current, .of_filed (by decide +kernel), report, flagged, ok,
    congrArg Report.flagged same, congrArg Report.warnings same, validate_reported reached current ok⟩

/-- Two wrappers that carry one id are filed under different ones, as can be in a graph that was read. -/
def twins : ShaderGraph :=
  { ShaderGraph.root ⟨4, 0⟩ "Root" with
    nodes := .ofList [(⟨4, 1⟩, placeholder ⟨4, 1⟩ (some ⟨8, 8⟩)),
      (⟨4, 2⟩, placeholder ⟨4, 1⟩ (some ⟨8, 8⟩))] }

theorem validate_twins_repeats :
    Assets.empty.Reached ∧ Assets.empty.view.Current twins ∧
      ∃ report flagged, Assets.empty.view.validate twins = .ok (report, flagged) ∧
        report.flagged = [⟨4, 1⟩, ⟨4, 1⟩] ∧ ¬ report.flagged.Nodup := by
  have current : Assets.empty.view.Current twins := by decide +kernel
  have answer : (Assets.empty.view.validate twins).map (·.1.flagged) = .ok [⟨4, 1⟩, ⟨4, 1⟩] := by
    decide +kernel
  obtain ⟨⟨report, flagged⟩, ok, same⟩ := Outcome.map_eq_ok answer
  exact ⟨.empty, current, report, flagged, ok, same, by rw [same]; decide⟩

end View
end NodeShader
