import NodeShader.Proofs.Order

/-! The question that guards every new connection: whether a node already depends on another one.
The backward walk comes to an end, in whatever order it takes the sources of a node, and answers it
exactly; and so a connection made after a negative answer closes no cycle. -/
namespace NodeShader.Graph
open Relation

/-- A way to the goal on which every node that is left stands among the open ones. -/
inductive Leads (graph : Graph) (unseen : List NodeId) (goal : NodeId) : NodeId → Prop where
  | here : Leads graph unseen goal goal
  | step {current source : NodeId} (opened : current ∈ unseen) (reads : graph.Reads current source)
      (rest : Leads graph unseen goal source) : Leads graph unseen goal current

/-- A way that passes a node can be cut behind its last visit there. -/
theorem Leads.without {graph : Graph} {unseen : List NodeId} {goal start : NodeId}
    (way : Leads graph unseen goal start) (current : NodeId) :
    Leads graph (without unseen current) goal start ∨
      ∃ source, graph.Reads current source ∧ Leads graph (without unseen current) goal source := by
  induction way with
  | here => exact .inl .here
  | @step passed source opened reads _ ih =>
    rcases ih with rest | later
    · by_cases same : passed = current
      · exact .inr ⟨source, same ▸ reads, rest⟩
      · exact .inl (.step (mem_without.2 ⟨opened, same⟩) reads rest)
    · exact .inr later

theorem leads_of_path {graph : Graph} {start goal : NodeId}
    (path : ReflTransGen graph.Reads start goal) : Leads graph graph.mentioned goal start := by
  induction path using ReflTransGen.head_induction_on with
  | refl => exact .here
  | head reads _ ih => exact .step (mentioned_of_reads reads).1 reads ih

/-- Each mentioned node was seen or is still open, and none is both. -/
structure Splits (graph : Graph) (unseen seen : List NodeId) : Prop where
  apart : ∀ id ∈ unseen, id ∉ seen
  whole : ∀ id ∈ graph.mentioned, id ∈ seen ∨ id ∈ unseen

namespace Splits
variable {graph : Graph} {unseen seen : List NodeId} {current : NodeId}

theorem start (graph : Graph) : graph.Splits graph.mentioned [] :=
  ⟨fun _ _ => List.not_mem_nil, fun _ => .inr⟩

theorem opened (splits : graph.Splits unseen seen) :
    graph.Splits (without unseen current) (current :: seen) where
  apart id still known := by
    obtain ⟨inside, other⟩ := mem_without.1 still
    exact splits.apart id inside ((List.mem_cons.1 known).resolve_left other)
  whole id mentioned := by
    by_cases same : id = current
    · exact .inl (same ▸ List.mem_cons_self)
    · exact (splits.whole id mentioned).imp (List.mem_cons_of_mem _) fun inside =>
        mem_without.2 ⟨inside, same⟩

/-- A node that is neither is not mentioned, and nothing changes when it is opened. -/
theorem passed (splits : graph.Splits unseen seen) (closed : current ∉ unseen)
    (fresh : current ∉ seen) :
    graph.sources current = [] ∧ graph.Splits unseen (current :: seen) := by
  have unknown : current ∉ graph.mentioned := fun mentioned =>
    (splits.whole current mentioned).elim fresh closed
  have same : without unseen current = unseen :=
    List.filter_eq_self.2 fun id inside => decide_eq_true fun here : id = current =>
      closed (here ▸ inside)
  exact ⟨List.eq_nil_iff_forall_not_mem.2 fun _ reads => unknown (mentioned_of_reads reads).1,
    same ▸ splits.opened⟩

end Splits

/-- The walk as it goes, with no bound: the nodes that it has opened, those on its stack, and its
answer. The sources of a node are put on the stack in some order. -/
inductive Walk (graph : Graph) (arrange : List NodeId → List NodeId) (goal : NodeId) :
    List NodeId → List NodeId → Bool → Prop where
  | lost {seen : List NodeId} : Walk graph arrange goal seen [] false
  | found {seen rest : List NodeId} : Walk graph arrange goal seen (goal :: rest) true
  | again {seen rest : List NodeId} {current : NodeId} {answer : Bool} (different : current ≠ goal)
      (met : current ∈ seen) (later : Walk graph arrange goal seen rest answer) :
      Walk graph arrange goal seen (current :: rest) answer
  | opens {seen rest : List NodeId} {current : NodeId} {answer : Bool} (different : current ≠ goal)
      (fresh : current ∉ seen)
      (later : Walk graph arrange goal (current :: seen) (arrange (graph.sources current) ++ rest)
        answer) :
      Walk graph arrange goal seen (current :: rest) answer

namespace Walk
variable {graph : Graph} {arrange : List NodeId → List NodeId} {goal : NodeId}
  {seen stack : List NodeId} {answer : Bool} (fair : ∀ ids, (arrange ids).Perm ids)
include fair

theorem path (walk : graph.Walk arrange goal seen stack answer) (found : answer = true) :
    ∃ start ∈ stack, ReflTransGen graph.Reads start goal := by
  induction walk with
  | lost => contradiction
  | found => exact ⟨goal, by simp, .refl⟩
  | again _ _ _ ih =>
    obtain ⟨start, inside, path⟩ := ih found
    exact ⟨start, List.mem_cons_of_mem _ inside, path⟩
  | @opens _ rest current _ _ _ _ ih =>
    obtain ⟨start, member, path⟩ := ih found
    rcases List.mem_append.1 member with source | inside
    · exact ⟨current, by simp, .head ((fair _).mem_iff.1 source) path⟩
    · exact ⟨start, List.mem_cons_of_mem _ inside, path⟩

theorem answer_of_leads (walk : graph.Walk arrange goal seen stack answer) {unseen : List NodeId}
    (splits : graph.Splits unseen seen) {start : NodeId} (member : start ∈ stack)
    (way : Leads graph unseen goal start) : answer = true := by
  induction walk generalizing unseen start with
  | lost => simp at member
  | found => rfl
  | again different met _ ih =>
    rcases List.mem_cons.1 member with rfl | inside
    · cases way with
      | here => exact absurd rfl different
      | step opened => exact absurd met (splits.apart _ opened)
    · exact ih splits inside way
  | @opens seen rest current _ different _ _ ih =>
    have onward {source : NodeId} (reads : graph.Reads current source) :
        source ∈ arrange (graph.sources current) ++ rest :=
      List.mem_append_left _ ((fair _).mem_iff.2 reads)
    rcases List.mem_cons.1 member with rfl | inside
    · cases way with
      | here => exact absurd rfl different
      | step _ reads way =>
        -- The walk does not open the start again, so the way is cut behind its last visit there.
        rcases way.without start with shorter | ⟨other, reads, shorter⟩
        · exact ih splits.opened (onward reads) shorter
        · exact ih splits.opened (onward reads) shorter
    · rcases way.without current with shorter | ⟨source, reads, shorter⟩
      · exact ih splits.opened (List.mem_append_right _ inside) shorter
      · exact ih splits.opened (onward reads) shorter

theorem answer_iff {node : NodeId} (walk : graph.Walk arrange goal [] [node] answer) :
    answer = true ↔ ReflTransGen graph.Reads node goal := by
  constructor
  · intro found
    obtain ⟨start, member, path⟩ := walk.path fair found
    exact List.mem_singleton.1 member ▸ path
  · intro path
    exact walk.answer_of_leads fair (.start graph) (List.mem_singleton.2 rfl) (leads_of_path path)

/-- The walk ends: it opens a node once, and only those that are mentioned have sources. -/
theorem exists_answer {unseen seen : List NodeId} (splits : graph.Splits unseen seen)
    (stack : List NodeId) : ∃ answer, graph.Walk arrange goal seen stack answer := by
  match stack with
  | [] => exact ⟨false, .lost⟩
  | current :: rest =>
    by_cases same : current = goal
    · exact ⟨true, same ▸ .found⟩
    by_cases met : current ∈ seen
    · obtain ⟨answer, later⟩ := exists_answer splits rest
      exact ⟨answer, .again same met later⟩
    by_cases opened : current ∈ unseen
    · have fewer := length_without_lt opened
      have after : graph.Splits (without unseen current) (current :: seen) := splits.opened
      obtain ⟨answer, later⟩ := exists_answer after (arrange (graph.sources current) ++ rest)
      exact ⟨answer, .opens same met later⟩
    · obtain ⟨none, splits⟩ := splits.passed opened met
      have nothing : arrange (graph.sources current) = [] := by
        rw [none, ← List.perm_nil]
        exact fair []
      obtain ⟨answer, later⟩ := exists_answer splits rest
      exact ⟨answer, .opens same met (by rwa [nothing])⟩
termination_by (unseen.length, stack.length)

end Walk

/-- What is computed is the walk that takes the sources as they come. -/
theorem walk_reaches (graph : Graph) (unseen stack : List NodeId) (goal : NodeId) {seen : List NodeId}
    (splits : graph.Splits unseen seen) :
    graph.Walk id goal seen stack (graph.reaches unseen stack goal) := by
  induction unseen, stack using reaches.induct graph goal generalizing seen with
  | case1 unseen =>
    rw [reaches]
    exact .lost
  | case2 unseen rest =>
    rw [reaches, if_pos rfl]
    exact .found
  | case3 unseen current rest different opened ih =>
    rw [reaches, if_neg different, dif_pos opened]
    exact .opens different (splits.apart current opened) (ih splits.opened)
  | case4 unseen current rest different closed ih =>
    rw [reaches, if_neg different, dif_neg closed]
    by_cases met : current ∈ seen
    · exact .again different met (ih splits)
    · obtain ⟨none, splits⟩ := splits.passed closed met
      exact .opens different met (by simpa [none] using ih splits)

/-- The walk backwards finds exactly what the node depends on. -/
theorem dependsOn_iff (graph : Graph) (node dependency : NodeId) :
    graph.dependsOn node dependency = true ↔ ReflTransGen graph.Reads node dependency := by
  have walk : graph.Walk id dependency [] [node] (graph.dependsOn node dependency) :=
    graph.walk_reaches graph.mentioned [node] dependency (.start graph)
  exact walk.answer_iff List.Perm.refl

/-- Every walk ends, and with this answer. -/
theorem walk_iff (graph : Graph) {arrange : List NodeId → List NodeId}
    (fair : ∀ ids, (arrange ids).Perm ids) (node dependency : NodeId) (answer : Bool) :
    graph.Walk arrange dependency [] [node] answer ↔ answer = graph.dependsOn node dependency := by
  have same {other : Bool} (walk : graph.Walk arrange dependency [] [node] other) :
      other = graph.dependsOn node dependency := by
    rw [Bool.eq_iff_iff, walk.answer_iff fair, dependsOn_iff]
  refine ⟨same, ?_⟩
  rintro rfl
  obtain ⟨other, walk⟩ := Walk.exists_answer fair (.start graph) [node]
  exact same walk ▸ walk

end NodeShader.Graph
