import NodeShader.Scene
import NodeShader.Proofs.Reflagging
import NodeShader.Proofs.Remembering
import NodeShader.Proofs.Settling

/-! Compilation done twice. What the first run leaves behind are flags, on the graph, and what wrappers
remember, there and in definitions. The second run reads both, and answers the same. -/
namespace NodeShader

theorem Assets.seen_settle (assets : Assets) (blind : Bool) (sites : List Site) :
    (assets.settle (assets.seen blind) sites).seen blind = (assets.seen blind).settled sites := by
  cases blind <;> rfl

theorem Node.forget_unflag (node : Node) : node.forget.unflag = node.unflag.forget := by
  rw [unflag, unflag, forget_wrapper?, Option.isSome_map]
  split <;> rfl

theorem ShaderGraph.forget_unflag (graph : ShaderGraph) :
    graph.forget.unflag = graph.unflag.forget := by
  show (graph.mapNodes fun _ => Node.forget).mapNodes (fun _ => Node.unflag) =
    (graph.mapNodes fun _ => Node.unflag).mapNodes fun _ => Node.forget
  rw [mapNodes_mapNodes, mapNodes_mapNodes]
  exact mapNodes_congr fun _ node _ => node.forget_unflag

namespace View
variable {view : View} {graph : ShaderGraph}

theorem validate_flag : view.validate (view.flag graph) = view.validate graph := by
  rw [← validate_unflag, unflag_flag, validate_unflag]

/-- A graph that was flagged compiles as it did before. -/
theorem compile_flag (settings : Settings) :
    view.compile settings (view.flag graph) = view.compile settings graph := by
  rw [compile, compile, compileInto, compileInto, validate_flag]

theorem flagged_of_compile {settings : Settings} {compiled : Compiled} {flagged : ShaderGraph}
    (ok : view.compile settings graph = .ok (compiled, flagged)) : flagged = view.flag graph := by
  obtain ⟨answer, into, last⟩ := Outcome.bind_eq_ok ok
  obtain ⟨validated, checked, rest⟩ := Outcome.bind_eq_ok into
  cases rest
  cases last
  exact eq_flag_of_validate checked

theorem forget_retouch_settling (view : View) (graph : ShaderGraph) :
    (graph.retouch (.settling view)).forget = graph.forget := by
  refine (ShaderGraph.mapNodes_mapNodes _ (fun _ => Node.forget) graph).trans ?_
  exact ShaderGraph.mapNodes_congr fun _ node _ => view.forget_settleNode node

end View

namespace Scene
variable {blind : Bool} {scene other : Scene}

/-- The two differ in nothing but which of their wrappers were resolved so far. -/
structure Converges (blind : Bool) (scene other : Scene) : Prop where
  view : (other.assets.seen blind).retouch (.settling (other.assets.seen blind)) =
    (scene.assets.seen blind).retouch (.settling (scene.assets.seen blind))
  graph : other.graph.retouch (.settling (other.assets.seen blind)) =
    scene.graph.retouch (.settling (scene.assets.seen blind))

/-- Something was asked, so that wrappers at some sites were resolved. -/
def Asked (blind : Bool) (scene later : Scene) : Prop :=
  ∃ sites, later = scene.settle (scene.assets.seen blind) sites

namespace Converges

theorem refl (blind : Bool) (scene : Scene) : scene.Converges blind scene := ⟨rfl, rfl⟩

theorem trans {later : Scene} (first : scene.Converges blind other)
    (second : other.Converges blind later) : scene.Converges blind later :=
  ⟨second.view.trans first.view, second.graph.trans first.graph⟩

theorem settle (blind : Bool) (scene : Scene) (sites : List Site) :
    scene.Converges blind (scene.settle (scene.assets.seen blind) sites) := by
  have seen : (scene.settle (scene.assets.seen blind) sites).assets.seen blind =
      (scene.assets.seen blind).settled sites := scene.assets.seen_settle blind sites
  refine ⟨?_, ?_⟩
  · rw [seen, View.retouch_settled]
  · rw [seen, View.settling_settled]
    exact View.retouch_settleGraph sites none scene.graph

theorem of_asked (asked : Relation.ReflTransGen (Asked blind) scene other) :
    scene.Converges blind other := by
  induction asked with
  | refl => exact refl blind scene
  | tail _ last ih =>
    obtain ⟨sites, rfl⟩ := last
    exact ih.trans (settle blind _ sites)

/-- They compile to the same, and then again to graphs that do not differ in more. -/
theorem compile (converges : scene.Converges blind other) {settings : Settings} {compiled : Compiled}
    {flagged : ShaderGraph}
    (ok : (scene.assets.seen blind).compile settings scene.graph = .ok (compiled, flagged)) :
    ∃ later, (other.assets.seen blind).compile settings other.graph = .ok (compiled, later) ∧
      later.forget = flagged.forget := by
  have resolved (scene : Scene) :
      ((scene.assets.seen blind).retouch (.settling (scene.assets.seen blind))).compile settings
          (scene.graph.retouch (.settling (scene.assets.seen blind))) =
        ((scene.assets.seen blind).compile settings scene.graph).map fun answer =>
          (answer.1, answer.2.retouch (.settling (scene.assets.seen blind))) :=
    View.overlooks_settling.compile (fun _ _ => trivial) (fun _ _ => trivial) settings
  have there := resolved other
  rw [converges.view, converges.graph, resolved scene, ok] at there
  obtain ⟨⟨made, later⟩, run, same⟩ := Outcome.map_eq_ok there.symm
  obtain ⟨rfl, alike⟩ := Prod.mk.inj same
  refine ⟨later, run, ?_⟩
  rw [← View.forget_retouch_settling, alike, View.forget_retouch_settling]

end Converges

/-- What a run leaves is the graph with its flags set anew, where more is remembered than before. -/
theorem exists_of_compile {settings : Settings} {view : View} {after : Scene} {compiled : Compiled}
    (ok : scene.compile view settings = (.ok compiled, after)) :
    view.compile settings scene.graph = .ok (compiled, view.flag scene.graph) ∧
      ∃ sites, after = (scene.withGraph (view.flag scene.graph)).settle view sites := by
  rw [compile_eq] at ok
  split at ok
  next => simp at ok
  next made flagged run =>
    obtain ⟨same, rfl⟩ := Prod.mk.inj ok
    cases same
    cases View.flagged_of_compile run
    exact ⟨run, _, rfl⟩

/-- Compilation changes a graph in nothing but flags on its wrappers and in what they remember. The
graph it leaves compiles to the same, also when it and the definitions have been asked about other
things, and no flag changes any more. -/
theorem compile_again (blind : Bool) (settings : Settings) {scene after between : Scene}
    {compiled : Compiled}
    (ok : scene.compile (scene.assets.seen blind) settings = (.ok compiled, after))
    (asked : Relation.ReflTransGen (Asked blind) after between) :
    after.graph.forget.unflag = scene.graph.forget.unflag ∧
      ∃ last, between.compile (between.assets.seen blind) settings = (.ok compiled, last) ∧
        last.graph.forget = after.graph.forget := by
  obtain ⟨run, sites, rfl⟩ := exists_of_compile ok
  set view := scene.assets.seen blind with seen
  set flagged := scene.withGraph (view.flag scene.graph) with given
  have left : (flagged.settle view sites).graph.forget = (view.flag scene.graph).forget :=
    view.forget_settleGraph sites none _
  refine ⟨?_, ?_⟩
  · rw [left, ShaderGraph.forget_unflag, View.unflag_flag, ShaderGraph.forget_unflag]
  · have converges : flagged.Converges blind between :=
      (Converges.settle blind flagged sites).trans (.of_asked asked)
    have again : view.compile settings flagged.graph = .ok (compiled, view.flag scene.graph) :=
      (view.compile_flag settings).trans run
    obtain ⟨later, compiles, same⟩ := converges.compile again
    rw [compile_eq, compiles]
    refine ⟨_, rfl, ?_⟩
    exact (View.forget_settleGraph _ _ none later).trans (same.trans left.symm)

/-- A graph with flags out of date, on a wrapper of a definition and on one without. -/
def flaggedBefore : Scene where
  graph := (((ShaderGraph.root ⟨3, 0⟩ "Root").addNode (View.left 3 ⟨1, 1⟩ true)).addNode
    (View.left 4 ⟨9, 9⟩ false))
  assets := Assets.empty.storeAll [⟨⟨1, 1⟩, "Noise", .root ⟨1, 0⟩ "Noise"⟩]

/-- Both flags change, and one wrapper remembers a definition; then nothing does any more. -/
theorem flaggedBefore_again :
    let flags (scene : Scene) := scene.graph.nodes.values.map Node.hasError
    let memory (scene : Scene) := scene.graph.nodes.values.map fun node =>
      node.wrapper?.bind Wrapper.cached
    let first := flaggedBefore.compile flaggedBefore.assets.view .standard
    let between := first.2.settle first.2.assets.view [⟨none, ⟨⟨4, 1⟩⟩⟩]
    (flags flaggedBefore, memory flaggedBefore) = ([true, false], [none, none]) ∧
      (flags first.2, memory first.2) = ([false, true], [some 0, none]) ∧
      first.2.graph.forget.unflag = flaggedBefore.graph.forget.unflag ∧
      ∃ compiled last, first.1 = .ok compiled ∧ compiled.report.flagged = [⟨⟨4, 1⟩⟩] ∧
        between.compile between.assets.view .standard = (.ok compiled, last) ∧
        last.graph.forget = first.2.graph.forget := by
  intro flags memory first between
  have passed : first.1.map (·.report.flagged) = .ok [⟨⟨4, 1⟩⟩] := by decide +kernel
  obtain ⟨compiled, answer, reported⟩ := Outcome.map_eq_ok passed
  have ok : flaggedBefore.compile (flaggedBefore.assets.seen false) .standard =
    (.ok compiled, first.2) := Prod.ext answer rfl
  obtain ⟨kept, last, again, same⟩ := compile_again false .standard ok (.single ⟨_, rfl⟩)
  exact ⟨by decide +kernel, by decide +kernel, kept, compiled, last, answer, reported, again, same⟩

end Scene
end NodeShader
