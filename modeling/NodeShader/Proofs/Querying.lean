import NodeShader.Proofs.Needs
import NodeShader.Proofs.Rings

/-! What a single wrapper requires. The query walks through what the wrapper stands for and turns back
where references lead round in a ring; it still gathers what is declared anywhere below, and this alone
decides the answer. -/
namespace NodeShader

namespace Requirement

theorem eq_of_asks {a b : Requirement} (alike : a.isMask = b.isMask)
    (same : ∀ place, a.asks place = b.asks place) : a = b := by
  cases a <;> cases b
  case spaces.spaces first second =>
    have bits : first.bits = second.bits := UInt8.toNat_inj.1 (Nat.eq_of_testBit_eq same)
    exact congrArg spaces (congrArg Spaces.mk bits)
  case flag.flag => exact congrArg flag (same 0)
  all_goals simp [isMask] at alike

/-- The union of what is declared: an answer of the kind that the capability calls for, which asks for
what some record asks for and for nothing else. -/
structure Gathers (total : Requirement) (capability : Capability)
    (declares : Requirements → Prop) : Prop where
  kind : total.isMask = capability.isMask
  asked : ∀ place, total.asks place = true ↔
    ∃ needs, declares needs ∧ (needs.query capability).asks place = true

theorem Gathers.eq {a b : Requirement} {capability : Capability} {declares : Requirements → Prop}
    (first : a.Gathers capability declares) (second : b.Gathers capability declares) : a = b :=
  eq_of_asks (first.kind.trans second.kind.symm) fun place =>
    Bool.eq_iff_iff.2 ((first.asked place).trans (second.asked place).symm)

end Requirement

theorem Requirements.gathers_combined (records : List Requirements) (capability : Capability) :
    (combined records capability).Gathers capability (· ∈ records) := by
  refine ⟨isMask_combined records capability, fun place => ?_⟩
  rw [asks_combined, List.any_eq_true]

namespace View
variable {view : View}

/-- An active function node inside a definition that the node unfolds to comes with the record. -/
def Declares (view : View) (node : Node) (needs : Requirements) : Prop :=
  ∃ definition, view.Unfolds node definition ∧ ∃ entry ∈ definition.graph.active,
    ∃ call, entry.2.kind = .function call ∧ call.requirements = needs

theorem enters_singleton_iff {entry : NodeId × Node} {definition : Live} :
    view.Enters (fun _ => true) [entry] definition ↔ view.Unfolds entry.2 definition := by
  constructor
  · intro enters
    obtain ⟨other, member, unfolds⟩ := enters.exists_unfolds
    exact List.mem_singleton.1 member ▸ unfolds
  · rintro ⟨outer, resolved, path⟩
    refine ⟨entry, by simp, outer, resolved, path.imp_right fun path => ?_⟩
    exact path.mono fun _ _ ⟨inner, active, stands⟩ => ⟨inner, active, rfl, stands⟩

/-- The walk for a wrapper finds what is declared below it; the wrapper itself declares nothing. -/
theorem mem_declared_fullWalk_iff (tidy : view.Tidy) (graph : ShaderGraph) {entry : NodeId × Node}
    (placed : view.Placed [entry]) {wrapper : Wrapper} (kind : entry.2.kind = .wrapper wrapper)
    (needs : Requirements) :
    needs ∈ declared (view.fullWalk graph [entry]) ↔ view.Declares entry.2 needs := by
  have met_iff (node : Node) :
      (∃ owner site, .meet owner site node ∈ view.fullWalk graph [entry]) ↔ _ :=
    exists_meet_mem_walk_iff tidy placed node
  rw [mem_declared_iff]
  constructor
  · rintro ⟨owner, site, node, call, met, calls, rfl⟩
    rcases (met_iff node).1 ⟨owner, site, met⟩ with
      ⟨other, listed, rfl⟩ | ⟨definition, enters, inner, active, rfl, _⟩
    · rw [List.mem_singleton.1 listed, kind] at calls
      contradiction
    · exact ⟨definition, enters_singleton_iff.1 enters, inner, active, call, calls, rfl⟩
  · rintro ⟨definition, unfolds, inner, active, call, calls, rfl⟩
    obtain ⟨owner, site, met⟩ := (met_iff inner.2).2
      (.inr ⟨definition, enters_singleton_iff.2 unfolds, inner, active, rfl, rfl⟩)
    exact ⟨owner, site, inner.2, call, met, calls, rfl⟩

theorem requirement_gathers (tidy : view.Tidy) (graph : ShaderGraph) {entry : NodeId × Node}
    (placed : view.Placed [entry]) {wrapper : Wrapper} (kind : entry.2.kind = .wrapper wrapper)
    (capability : Capability) :
    (view.requirement graph [entry] capability).Gathers capability (view.Declares entry.2) := by
  have union := Requirements.gathers_combined (declared (view.fullWalk graph [entry])) capability
  refine ⟨union.kind, fun place => ?_⟩
  simp only [← mem_declared_fullWalk_iff tidy graph placed kind]
  exact union.asked place

/-- The walk behind the answer ends with no more definitions nested than there are stored handles; the
answer is the union of what is declared below the wrapper, and neutral if it stands for nothing. -/
structure Queried (view : View) (graph : ShaderGraph) (entry : NodeId × Node) (wrapper : Wrapper)
    (capability : Capability) (answer : Requirement) : Prop where
  ends : ∃ events, view.nest (fun _ => true) view.stored.size [] none graph [entry] = some events ∧
    answer = Requirements.combined (declared events) capability
  gathers : ∀ total : Requirement,
    total.Gathers capability (view.Declares entry.2) ↔ total = answer
  neutral : wrapper.handle.bind view.lookup = none → answer = capability.neutral

/-- A wrapper requires what the active function nodes inside all definitions below it require, also where
definitions stand inside each other. -/
theorem requirement_queried {assets : Assets} (reached : assets.Reached)
    (settled : assets.view.Settled) {entry : NodeId × Node} {wrapper : Wrapper}
    (kind : entry.2.kind = .wrapper wrapper) (recalls : assets.view.Recalls wrapper)
    (graph : ShaderGraph) (capability : Capability) :
    assets.view.Queried graph entry wrapper capability
      (assets.view.requirement graph [entry] capability) := by
  have coherent := coherent_of_reached reached
  have tidy := settled.tidy coherent
  have placed : assets.view.Placed [entry] := by
    refine placed_of_recalls coherent fun other member wrapper' same => ?_
    rw [List.mem_singleton.1 member, kind] at same
    cases same
    exact recalls
  have total := requirement_gathers tidy graph placed kind capability
  refine ⟨⟨_, nest_size_eq_walk tidy placed, rfl⟩,
    fun other => ⟨fun gathers => gathers.eq total, ?_⟩, ?_⟩
  · rintro rfl
    exact total
  · intro missing
    have resolved : entry.2.wrapper?.bind assets.view.resolve = none := by
      rw [(entry.2.wrapper?_eq_some_iff wrapper).2 kind, Option.bind_some, recalls.resolve, missing]
    refine total.eq ⟨capability.isMask_neutral, fun place => ?_⟩
    rw [capability.asks_neutral]
    simp [Declares, Unfolds, resolved]

/-- Two definitions that stand inside each other; one of them has a function node that is switched
off. -/
def looping : Assets :=
  let left := ((ShaderGraph.root ⟨1, 0⟩ "Left").addNode
    (calling ⟨1, 1⟩ { Requirements.none with normal := .world })).addNode (standingFor ⟨1, 2⟩ ⟨2, 2⟩)
  let right := (((ShaderGraph.root ⟨2, 0⟩ "Right").addNode
    (calling ⟨2, 1⟩ { Requirements.none with normal := .object, time := true })).addNode
    (standingFor ⟨2, 2⟩ ⟨1, 1⟩)).addNode
    { calling ⟨2, 3⟩ { Requirements.none with normal := .tangent } with enabled := false }
  Assets.empty.storeAll [⟨⟨1, 1⟩, "Left", left⟩, ⟨⟨2, 2⟩, "Right", right⟩]

theorem requirement_looping_queried :
    let entry : NodeId × Node := (⟨3, 1⟩, standingFor ⟨3, 1⟩ ⟨1, 1⟩)
    let wrapper := Wrapper.bound (some ⟨1, 1⟩)
    let graph := (ShaderGraph.root ⟨3, 0⟩ "Root").addNode entry.2
    let answer := looping.view.requirement graph [entry] .normal
    looping.Reached ∧ looping.view.Settled ∧ entry.2.kind = .wrapper wrapper ∧
      looping.view.Recalls wrapper ∧ answer = .spaces (Spaces.object.union .world) ∧
      looping.view.Queried graph entry wrapper .normal answer := by
  intro entry wrapper graph answer
  have reached : looping.Reached := Assets.Reached.empty.storeAll _
  have settled : looping.view.Settled := by decide +kernel
  have recalls : looping.view.Recalls wrapper := by decide +kernel
  exact ⟨reached, settled, rfl, recalls, by decide +kernel,
    requirement_queried reached settled rfl recalls graph .normal⟩

end View
end NodeShader
