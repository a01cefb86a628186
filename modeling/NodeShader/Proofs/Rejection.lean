import NodeShader.Proofs.Memory

/-! Validation rejects a graph exactly when references below it form a ring or when it or a graph
below it cannot be put in order, and tells where. The search for faults that follows always comes to
an end, since it only runs below graphs without rings. -/
namespace NodeShader.View

private theorem anyM_ne_none {α : Type} {test : α → Option Bool} {items : List α}
    (answers : ∀ item ∈ items, test item ≠ none) : items.anyM test ≠ none := by
  induction items with
  | nil => simp [pure]
  | cons item rest ih =>
    obtain ⟨found, here⟩ := Option.ne_none_iff_exists'.1 (answers item (by simp))
    rw [List.anyM_cons, here]
    cases found with
    | true => simp
    | false => exact ih fun other member => answers other (by simp [member])

theorem serial_ne_of_apart {view : View} {graph : ShaderGraph} {definition inner : Live}
    (refers : view.Refers graph definition) (path : Reaches view.Refers definition.graph inner)
    (apart : ¬ Reaches view.Refers definition.graph definition) :
    inner.serial ≠ definition.serial := by
  intro same
  obtain ⟨_, stored⟩ := refers.stored
  obtain ⟨_, innerStored⟩ := stored_of_reaches path
  have equal : some inner = some definition := by
    rw [← serial_of_lookup innerStored, ← serial_of_lookup stored, same]
  exact apart (Option.some.inj equal ▸ path)

theorem fault_ne_none {view : View} {unmarked : List Serial} {graph : ShaderGraph} {node : Node}
    (current : view.Current graph) (safe : view.Safe graph)
    (unmet : ∀ definition, Reaches view.Refers graph definition → definition.serial ∈ unmarked)
    (member : node ∈ graph.nodes.values) : view.fault unmarked node ≠ none := by
  induction unmarked, node using fault.induct view generalizing graph with
  | case1 unmarked node other => simp [fault, other]
  | case2 unmarked node wrapper kind unbound => simp [fault, kind, unbound]
  | case3 unmarked node wrapper kind bound missing => simp [fault, kind, bound, missing]
  | case4 unmarked node wrapper kind bound definition resolved inside ih =>
    have refers := current.refers_of_resolve member
      ((node.wrapper?_eq_some_iff wrapper).1 kind) resolved
    rw [fault]
    simp only [kind, if_neg bound, resolved, dif_pos inside]
    apply anyM_ne_none
    intro entry active
    split
    next => simp
    next =>
      have apart := safe.apart definition (.direct refers)
      refine ih entry (current.refers refers) (safe.refers refers) ?_
        (Graph.mem_values_of_mem_active active)
      intro inner path
      exact mem_without.2 ⟨unmet inner (.head refers path), serial_ne_of_apart refers path apart⟩
  | case5 unmarked node wrapper kind bound definition resolved outside =>
    have refers := current.refers_of_resolve member
      ((node.wrapper?_eq_some_iff wrapper).1 kind) resolved
    exact absurd (unmet definition (.direct refers)) outside

theorem mem_serials_of_reaches {view : View} {graph : ShaderGraph} {definition : Live}
    (path : Reaches view.Refers graph definition) : definition.serial ∈ view.serials := by
  obtain ⟨_, stored⟩ := stored_of_reaches path
  exact mem_serials_of_lookup stored

theorem Safe.answered {view : View} {graph : ShaderGraph} (safe : view.Safe graph)
    (current : view.Current graph) :
    ∀ node ∈ graph.nodes.values, view.fault view.serials node ≠ none :=
  fun _ member => fault_ne_none current safe (fun _ path => mem_serials_of_reaches path) member

theorem validate_of_checkCycles {view : View} {graph : ShaderGraph} {checked : List Guid}
    (searched : view.checkCycles (graph.guid :: view.guids) [] [] graph = .ok checked)
    (answered : ∀ node ∈ graph.nodes.values, view.fault view.serials node ≠ none) :
    view.validate graph = .ok (view.report graph, view.flag graph) := by
  have passed : ¬ (graph.nodes.values.any fun node =>
      decide (view.fault view.serials node = none)) = true := by
    simpa only [List.any_eq_true, decide_eq_true_eq, not_exists, not_and] using answered
  simp [validate, searched, bind, Except.bind, passed, pure, Except.pure]

/-- Where the search for rings succeeds the search for faults finds an answer for every node. -/
theorem validate_eq {view : View} {graph : ShaderGraph} (consistent : view.Consistent)
    (current : view.Current graph) :
    view.validate graph = (view.checkCycles (graph.guid :: view.guids) [] [] graph).map
      fun _ => (view.report graph, view.flag graph) := by
  cases searched : view.checkCycles (graph.guid :: view.guids) [] [] graph with
  | error cause =>
    rw [validate, searched]
    rfl
  | ok checked =>
    have safe := safe_of_checkCycles consistent.alike searched
    exact validate_of_checkCycles searched (safe.answered current)

theorem validate_eq_ok {view : View} {graph : ShaderGraph} (distinct : view.Distinct)
    (current : view.Current graph) {answer : Report × ShaderGraph}
    (ok : view.validate graph = .ok answer) :
    view.Safe graph ∧ answer = (view.report graph, view.flag graph) := by
  rw [validate_eq distinct.consistent current] at ok
  obtain ⟨checked, searched, rfl⟩ := Outcome.map_eq_ok ok
  exact ⟨safe_of_checkCycles distinct.consistent.alike searched, rfl⟩

theorem validate_eq_error {view : View} {graph : ShaderGraph} (distinct : view.Distinct)
    (outside : view.Outside graph) (current : view.Current graph) {cause : ValidationError}
    (failed : view.validate graph = .error cause) : view.Explains graph cause := by
  rw [validate_eq distinct.consistent current] at failed
  exact checkCycles_eq_error distinct outside (Approach.start view graph)
    (Outcome.map_eq_error failed)

/-- A graph is rejected exactly when a definition met from it comes back to itself, or when it or a
graph met from it cannot be put in order. The cause tells of such a ring, name by name, or of a graph
with cyclic connections; the search never runs out. -/
theorem rejected_iff {view : View} {graph : ShaderGraph} (distinct : view.Distinct)
    (outside : view.Outside graph) (current : view.Current graph) :
    ((∃ cause, view.validate graph = .error cause) ↔
      (∃ definition, Reaches view.Refers graph definition ∧
        Reaches view.Refers definition.graph definition) ∨
      ∃ met, view.Within graph met ∧ met.topologicalOrder = none) ∧
    ∀ cause, view.validate graph = .error cause → view.Explains graph cause := by
  refine ⟨⟨?_, ?_⟩, fun cause failed => validate_eq_error distinct outside current failed⟩
  · rintro ⟨cause, failed⟩
    have found := validate_eq_error distinct outside current failed
    cases cause with
    | cyclicSubGraph chain =>
      obtain ⟨graphs, ring, _⟩ := found
      exact .inl ring.exists_reaches
    | graphCycle name =>
      obtain ⟨met, inside, _, unordered, _⟩ := found
      exact .inr ⟨met, inside, unordered⟩
    | endlessNesting => exact found.elim
  · intro blamed
    cases answer : view.validate graph with
    | error cause => exact ⟨cause, rfl⟩
    | ok result =>
      obtain ⟨safe, _⟩ := validate_eq_ok distinct current answer
      rcases blamed with ⟨definition, path, ring⟩ | ⟨met, inside, unordered⟩
      · exact absurd ring (safe.apart definition path)
      · have ordered : met.topologicalOrder.isSome := safe.within inside
        simp [unordered] at ordered

def wrapping (number : UInt64) (name : String) (handle : Handle) : ShaderGraph :=
  (ShaderGraph.root ⟨number, 0⟩ name).addNode
    (Node.make ⟨number, 1⟩ "Sub-graph" (.wrapper (.bound (some handle))))

def entwined : View :=
  (Assets.empty.storeAll
    [⟨⟨1, 1⟩, "Left", wrapping 1 "Left" ⟨2, 2⟩⟩, ⟨⟨2, 2⟩, "Right", wrapping 2 "Right" ⟨1, 1⟩⟩]).view

theorem rejected_entwined :
    let root := wrapping 3 "Root" ⟨2, 2⟩
    let cause := ValidationError.cyclicSubGraph ["Right", "Left", "Right"]
    entwined.Distinct ∧ entwined.Outside root ∧ entwined.Current root ∧
      entwined.validate root = .error cause ∧ entwined.Explains root cause := by
  intro root cause
  have distinct : entwined.Distinct := by decide +kernel
  have outside : entwined.Outside root := by decide +kernel
  have current : entwined.Current root := by decide +kernel
  have failed : entwined.validate root = .error cause := by decide +kernel
  exact ⟨distinct, outside, current, failed, (rejected_iff distinct outside current).2 cause failed⟩

end NodeShader.View
