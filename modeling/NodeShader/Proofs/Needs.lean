import NodeShader.Proofs.Registration

/-! What compiled code needs from the pipeline. An answer is taken apart into the single things that
it asks for; a record of answers then asks for exactly what some function node asks for, out of those
whose code is emitted, in the graph itself and in all definitions that it unfolds to. -/
namespace NodeShader

namespace Requirement

/-- Whether the space at a place of the mask is asked for; a flag stands for all places at once. -/
def asks (place : Nat) : Requirement → Bool
  | spaces needed => needed.bits.toNat.testBit place
  | flag needed => needed

def isMask : Requirement → Bool
  | spaces _ => true
  | flag _ => false

theorem asks_spaces_union (a b : Spaces) (place : Nat) :
    (spaces (a.union b)).asks place = ((spaces a).asks place || (spaces b).asks place) := by
  simp [asks, Spaces.union]

theorem asks_combine {a b : Requirement} (alike : a.isMask = b.isMask) (place : Nat) :
    (a.combine b).asks place = (a.asks place || b.asks place) := by
  cases a <;> cases b
  case spaces.spaces => exact asks_spaces_union _ _ place
  case flag.flag => rfl
  all_goals simp [isMask] at alike

theorem isMask_combine (a b : Requirement) : (a.combine b).isMask = a.isMask := by
  cases a <;> cases b <;> rfl

end Requirement

namespace Capability

theorem mem_all (capability : Capability) : capability ∈ all := by
  cases capability with
  | meshUv channel => cases channel <;> decide
  | _ => decide

theorem isMask_neutral (capability : Capability) :
    capability.neutral.isMask = capability.isMask := by
  cases capability <;> rfl

theorem asks_neutral (capability : Capability) (place : Nat) :
    capability.neutral.asks place = false := by
  cases capability <;> simp [neutral, isMask, Requirement.asks, Spaces.none]

end Capability

namespace Requirements

theorem isMask_query (needs : Requirements) (capability : Capability) :
    (needs.query capability).isMask = capability.isMask := by
  cases capability <;> rfl

theorem asks_query_none (capability : Capability) (place : Nat) :
    (none.query capability).asks place = false := by
  cases capability <;> simp [none, query, Requirement.asks, Spaces.none]

private theorem combined_from (records : List Requirements) (capability : Capability)
    (answer : Requirement) (alike : answer.isMask = capability.isMask) :
    let total := records.foldl (fun answer needs => answer.combine (needs.query capability)) answer
    total.isMask = capability.isMask ∧ ∀ place, total.asks place =
      (answer.asks place || records.any fun needs => (needs.query capability).asks place) := by
  induction records generalizing answer with
  | nil => exact ⟨alike, by simp⟩
  | cons needs rest ih =>
    obtain ⟨mask, total⟩ := ih (answer.combine (needs.query capability))
      (by rw [Requirement.isMask_combine, alike])
    refine ⟨mask, fun place => (total place).trans ?_⟩
    rw [Requirement.asks_combine (by rw [alike, isMask_query]), List.any_cons, Bool.or_assoc]

theorem isMask_combined (records : List Requirements) (capability : Capability) :
    (combined records capability).isMask = capability.isMask :=
  (combined_from records capability _ capability.isMask_neutral).1

theorem asks_combined (records : List Requirements) (capability : Capability) (place : Nat) :
    (combined records capability).asks place =
      records.any fun needs => (needs.query capability).asks place := by
  have total := (combined_from records capability _ capability.isMask_neutral).2 place
  rwa [Capability.asks_neutral, Bool.false_or] at total

theorem mem_sorted_iff (channels : List UvChannel) (channel : UvChannel) :
    channel ∈ UvChannel.sorted channels ↔ channel ∈ channels := by
  simp only [UvChannel.sorted, List.mem_flatMap, List.mem_filter]
  refine ⟨fun ⟨_, _, member, _⟩ => member, fun member => ⟨channel, ?_, member, by simp⟩⟩
  cases channel <;> decide

theorem record_meshUv (needs : Requirements) (channel : UvChannel) (answer : Requirement) :
    needs.record (.meshUv channel) answer =
      { needs with meshUv := (needs.record (.meshUv channel) answer).meshUv } := by
  by_cases added : (answer.asFlag && !needs.meshUv.contains channel) = true
  · simp only [record, if_pos added]
  · simp only [record, if_neg added]

theorem mem_meshUv_record (needs : Requirements) (channel other : UvChannel)
    (answer : Requirement) :
    other ∈ (needs.record (.meshUv channel) answer).meshUv ↔
      other ∈ needs.meshUv ∨ other = channel ∧ answer.asFlag = true := by
  by_cases added : (answer.asFlag && !needs.meshUv.contains channel) = true
  · simp only [record, if_pos added, mem_sorted_iff]
    simp_all
  · simp only [record, if_neg added]
    simp only [Bool.and_eq_true, Bool.not_eq_true', List.contains_eq_mem, decide_eq_false_iff_not,
      not_and, not_not] at added
    exact ⟨.inl, fun either => either.elim id fun ⟨same, asked⟩ => same ▸ added asked⟩

theorem query_record_of_ne (needs : Requirements) {recorded capability : Capability}
    (answer : Requirement) (apart : capability ≠ recorded) :
    (needs.record recorded answer).query capability = needs.query capability := by
  cases recorded with
  | meshUv channel =>
    rw [record_meshUv]
    cases capability with
    | meshUv other =>
      have different : other ≠ channel := fun same => apart (by rw [same])
      simp [query, mem_meshUv_record, different]
    | _ => rfl
  | _ => cases capability <;> first | rfl | exact absurd rfl apart

/-- Recording an answer adds what it asks for to this one question. -/
theorem asks_query_record (needs : Requirements) {capability : Capability} {answer : Requirement}
    (alike : answer.isMask = capability.isMask) (place : Nat) :
    ((needs.record capability answer).query capability).asks place =
      ((needs.query capability).asks place || answer.asks place) := by
  cases capability with
  | meshUv channel =>
    cases answer with
    | spaces => simp [Requirement.isMask, Capability.isMask] at alike
    | flag needed =>
      simp [query, Requirement.asks, mem_meshUv_record, Requirement.asFlag, Bool.decide_or]
  | normal | tangent | bitangent | position | viewDirection =>
    cases answer with
    | spaces needed => exact Requirement.asks_spaces_union _ needed place
    | flag => simp [Requirement.isMask, Capability.isMask] at alike
  | screenPosition | time | vertexColor =>
    cases answer with
    | spaces => simp [Requirement.isMask, Capability.isMask] at alike
    | flag needed => rfl

theorem asks_query_recordAll (answer : Capability → Requirement)
    (alike : ∀ capability, (answer capability).isMask = capability.isMask) (needs : Requirements)
    (capability : Capability) (place : Nat) :
    ((needs.recordAll answer).query capability).asks place =
      ((needs.query capability).asks place || (answer capability).asks place) := by
  have fold (questions : List Capability) (needs : Requirements) :
      ((questions.foldl (fun needs other => needs.record other (answer other)) needs).query
        capability).asks place = ((needs.query capability).asks place ||
          decide (capability ∈ questions) && (answer capability).asks place) := by
    induction questions generalizing needs with
    | nil => simp
    | cons question rest ih =>
      rw [List.foldl_cons, ih]
      by_cases same : capability = question
      · subst same
        rw [asks_query_record needs (alike capability)]
        cases (answer capability).asks place <;> simp
      · simp [query_record_of_ne needs (answer question) same, same]
  simpa [recordAll, capability.mem_all] using fold Capability.all needs

/-- A record made of several asks for what one of them asks for. -/
theorem asks_query_ofList (records : List Requirements) (capability : Capability) (place : Nat) :
    ((ofList records).query capability).asks place =
      records.any fun needs => (needs.query capability).asks place := by
  rw [ofList, asks_query_recordAll _ (isMask_combined records), asks_query_none, Bool.false_or,
    asks_combined]

end Requirements

theorem mem_declared_iff (events : List Event) (needs : Requirements) :
    needs ∈ declared events ↔ ∃ owner site node call, Event.meet owner site node ∈ events ∧
      node.kind = .function call ∧ call.requirements = needs := by
  constructor
  · intro member
    obtain ⟨event, inside, read⟩ := List.mem_filterMap.1 member
    cases event with
    | complete => contradiction
    | meet owner site node =>
      simp only at read
      split at read
      next call kind => exact ⟨owner, site, node, call, inside, kind, Option.some.inj read⟩
      next => contradiction
  · rintro ⟨owner, site, node, call, inside, kind, rfl⟩
    exact List.mem_filterMap.2 ⟨_, inside, by simp [kind]⟩

namespace View

/-- The nodes whose code is emitted and computes something: the sound nodes of the graph, and the
active nodes of all definitions that these unfold to. -/
def Counted (view : View) (graph : ShaderGraph) (node : Node) : Prop :=
  ∃ entry ∈ graph.sound, entry.2 = node ∨ ∃ definition, view.Unfolds entry.2 definition ∧
    ∃ inner ∈ definition.graph.active, inner.2 = node

theorem met_iff_counted {view : View} {graph : ShaderGraph} (coherent : view.Coherent)
    (current : view.Current graph)
    (answered : ∀ node ∈ graph.nodes.values, view.fault view.serials node ≠ none) (node : Node) :
    (∃ owner site, Event.meet owner site node ∈
        view.fullWalk (view.flag graph) (view.flag graph).sound) ↔
      view.Counted (view.flag graph) node := by
  constructor
  · rintro ⟨owner, site, met⟩
    rcases walk_traced _ met with
      ⟨_, entry, listed, same⟩ | ⟨entry, listed, definition, unfolds, _, inner, active, same, _⟩
    · exact ⟨entry, listed, .inl same⟩
    · exact ⟨entry, listed, .inr ⟨definition, unfolds, inner, active, same⟩⟩
  · obtain ⟨first, covered⟩ := fullWalk_insideFirst coherent current answered
    rintro ⟨entry, listed, rfl | ⟨definition, unfolds, inner, active, rfl⟩⟩
    · exact ⟨_, (covered entry listed).1⟩
    · have left := first.complete_of_unfolds (covered entry listed) unfolds
      exact ⟨_, (first.prepared left inner active).1⟩

theorem asks_requirements {view : View} {graph : ShaderGraph} (coherent : view.Coherent)
    (current : view.Current graph)
    (answered : ∀ node ∈ graph.nodes.values, view.fault view.serials node ≠ none)
    (capability : Capability) (place : Nat) :
    ((view.requirements (view.flag graph) (view.flag graph).sound).query capability).asks place ↔
      ∃ node call, view.Counted (view.flag graph) node ∧ node.kind = .function call ∧
        (call.requirements.query capability).asks place := by
  rw [requirements, Requirements.asks_query_ofList, List.any_eq_true]
  constructor
  · rintro ⟨needs, listed, asked⟩
    obtain ⟨owner, site, node, call, met, kind, rfl⟩ := (mem_declared_iff _ _).1 listed
    exact ⟨node, call, (met_iff_counted coherent current answered node).1 ⟨owner, site, met⟩, kind,
      asked⟩
  · rintro ⟨node, call, counted, kind, asked⟩
    obtain ⟨owner, site, met⟩ := (met_iff_counted coherent current answered node).2 counted
    exact ⟨_, (mem_declared_iff _ _).2 ⟨owner, site, node, call, met, kind, rfl⟩, asked⟩

end View

/-- The record of a compiled graph asks for what some counted function node asks for, and nothing
else; and where a sound node unfolds to a definition nothing inside it is broken or missing. -/
structure Compiled.Needs (view : View) (graph : ShaderGraph) (compiled : Compiled) : Prop where
  asked : ∀ capability place, (compiled.requirements.query capability).asks place = true ↔
    ∃ node call, view.Counted graph node ∧ node.kind = .function call ∧
      (call.requirements.query capability).asks place = true
  unbroken : ∀ entry ∈ graph.sound, ∀ definition, view.Unfolds entry.2 definition →
    ∀ inner ∈ definition.graph.active, inner.2.hasError = false ∧
      ∀ wrapper, inner.2.kind = .wrapper wrapper → wrapper.handle ≠ none →
        (view.resolve wrapper).isSome

/-- The requirements that come with a compiled graph are those of the function nodes whose code is
emitted, at every depth. -/
theorem compiled_needs {assets : Assets} (reached : assets.Reached) {settings : Settings}
    {graph flagged : ShaderGraph} {compiled : Compiled} (current : assets.view.Current graph)
    (ok : assets.view.compile settings graph = .ok (compiled, flagged)) :
    compiled.Needs assets.view flagged := by
  obtain ⟨report, validated, rfl⟩ := View.compile_eq_ok ok
  obtain rfl := View.eq_flag_of_validate validated
  have answered := View.answered_of_validate validated
  have coherent : assets.view.Coherent := fun handle definition => reached.handle_of_lookup
  refine ⟨View.asks_requirements coherent current answered, ?_⟩
  intro entry listed definition unfolds inner active
  obtain ⟨sound, intact⟩ :=
    (View.intact_of_mem_sound answered listed).unfolds unfolds inner active
  exact ⟨sound, fun wrapper kind bound => intact.resolves kind bound⟩

def calling (id : Guid) (needs : Requirements) : Node :=
  Node.make ⟨id⟩ "Call" (.function ⟨"call", "call", none, false, needs⟩)

def standingFor (id : Guid) (handle : Handle) : Node :=
  Node.make ⟨id⟩ "Sub-graph" (.wrapper (.bound (some handle)))

/-- A definition inside another one, and one that misses what its wrapper stands for. -/
def surveyed : Assets :=
  let inner := (ShaderGraph.root ⟨1, 0⟩ "Inner").addNode
    (calling ⟨1, 1⟩ { Requirements.none with normal := .world, meshUv := [.uv1] })
  let outer := (ShaderGraph.root ⟨2, 0⟩ "Outer").addNode (standingFor ⟨2, 1⟩ ⟨1, 1⟩)
  let broken := ((ShaderGraph.root ⟨3, 0⟩ "Broken").addNode
    (calling ⟨3, 1⟩ { Requirements.none with time := true })).addNode
    (standingFor ⟨3, 2⟩ ⟨9, 9⟩)
  Assets.empty.storeAll
    [⟨⟨1, 1⟩, "Inner", inner⟩, ⟨⟨2, 2⟩, "Outer", outer⟩, ⟨⟨3, 3⟩, "Broken", broken⟩]

theorem compiled_needs_surveyed :
    let graph := (((ShaderGraph.root ⟨4, 0⟩ "Root").addNode
      (calling ⟨4, 1⟩ { Requirements.none with vertexColor := true })).addNode
      (standingFor ⟨4, 2⟩ ⟨2, 2⟩)).addNode (standingFor ⟨4, 3⟩ ⟨3, 3⟩)
    let needs : Requirements :=
      { Requirements.none with normal := .world, meshUv := [.uv1], vertexColor := true }
    surveyed.Reached ∧ surveyed.view.Current graph ∧ ∃ compiled flagged,
      surveyed.view.compile .standard graph = .ok (compiled, flagged) ∧
        compiled.requirements = needs ∧ compiled.Needs surveyed.view flagged := by
  intro graph needs
  have reached : surveyed.Reached := Assets.Reached.empty.storeAll _
  have current : surveyed.view.Current graph := by decide +kernel
  have answer : (surveyed.view.compile .standard graph).map (·.1.requirements) = .ok needs := by
    decide +kernel
  obtain ⟨⟨compiled, flagged⟩, ok, same⟩ := Outcome.map_eq_ok answer
  exact ⟨reached, current, compiled, flagged, ok, same, compiled_needs reached current ok⟩

end NodeShader
