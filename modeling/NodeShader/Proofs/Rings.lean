import NodeShader.Proofs.Expansion
import Mathlib.Logic.Relation

/-! Walks where references may form rings. A walk never enters a definition inside itself, and so may
turn back before all below a definition was met. Nothing is lost by this: a path of wrappers that comes
back to where it began can be cut there, and what is left of it was open when its place was entered
first. The same walk can be told by a stack of the handles being expanded, which never grows beyond the
number of stored ones. -/
namespace NodeShader.View
open Relation

variable {view : View} {chosen : Node → Bool} {graph : ShaderGraph} {nodes : List (NodeId × Node)}
  {opened : List Handle} {owner : Option Serial} {definition : Live}

/-- What the nodes stand for is what is stored under its handle. -/
def Placed (view : View) (nodes : List (NodeId × Node)) : Prop :=
  ∀ entry ∈ nodes, ∀ definition, entry.2.wrapper?.bind view.resolve = some definition →
    view.lookup definition.handle = some definition

/-- One definition is entered from another one under a handle that is open. -/
def Admits (view : View) (chosen : Node → Bool) (opened : List Handle) (outer inner : Live) : Prop :=
  inner.handle ∈ opened ∧ view.Leads chosen outer.graph inner

/-- What a path leads to is the place where it began, or it is led to without a return to this place. -/
theorem start_or_apart {start : Live}
    (alone : ∀ met, ReflTransGen (view.Admits chosen opened) start met → met.handle = start.handle →
      met = start)
    (path : ReflTransGen (view.Admits chosen opened) start definition) :
    definition = start ∨ ∃ next, view.Admits chosen (without opened start.handle) start next ∧
      ReflTransGen (view.Admits chosen (without opened start.handle)) next definition := by
  induction path with
  | refl => exact .inl rfl
  | @tail between last earlier step ih =>
    by_cases back : last.handle = start.handle
    · exact .inl (alone last (earlier.tail step) back)
    · have onward : view.Admits chosen (without opened start.handle) between last :=
        ⟨mem_without.2 ⟨step.1, back⟩, step.2⟩
      rcases ih with rfl | ⟨next, first, rest⟩
      · exact .inr ⟨last, onward, .refl⟩
      · exact .inr ⟨next, first, rest.tail onward⟩

theorem placed_of_recalls (coherent : view.Coherent) (recalls : ∀ entry ∈ nodes, ∀ wrapper,
    entry.2.kind = .wrapper wrapper → view.Recalls wrapper) : view.Placed nodes := by
  intro entry member definition resolved
  obtain ⟨wrapper, kind, resolved⟩ := Option.bind_eq_some_iff.1 resolved
  rw [(recalls entry member wrapper ((entry.2.wrapper?_eq_some_iff wrapper).1 kind)).resolve] at resolved
  obtain ⟨handle, _, stored⟩ := Option.bind_eq_some_iff.1 resolved
  exact coherent.stored stored

theorem Current.placed (current : view.Current graph) (coherent : view.Coherent)
    (known : ∀ entry ∈ nodes, entry.2 ∈ graph.nodes.values) : view.Placed nodes :=
  placed_of_recalls coherent fun entry member => current.here entry.2 (known entry member)

/-- In no stored definition does a wrapper remember anything outdated. -/
def Settled (view : View) : Prop :=
  ∀ handle definition, view.lookup handle = some definition → view.Current definition.graph

instance (view : View) : Decidable view.Settled :=
  inferInstanceAs (Decidable (∀ handle definition, view.lookup handle = some definition →
    view.Current definition.graph))

theorem Current.settled (current : view.Current graph) : view.Settled :=
  fun _ _ stored => current.of_lookup stored

/-- Whatever active wrappers of stored definitions stand for is placed. -/
def Tidy (view : View) : Prop :=
  ∀ handle definition, view.lookup handle = some definition → view.Placed definition.graph.active

theorem Settled.tidy (settled : view.Settled) (coherent : view.Coherent) : view.Tidy :=
  fun handle definition stored => (settled handle definition stored).placed coherent
    fun _ active => Graph.mem_values_of_mem_active active

theorem Tidy.lookup_of_path (tidy : view.Tidy) {start : Live}
    (stored : view.lookup start.handle = some start)
    (path : ReflTransGen (view.Admits chosen opened) start definition) :
    view.lookup definition.handle = some definition := by
  induction path with
  | refl => exact stored
  | tail _ step ih =>
    obtain ⟨_, entry, active, _, resolved⟩ := step
    exact tidy _ _ ih entry active _ resolved

theorem meet_mem_walk {entry : NodeId × Node} (member : entry ∈ nodes) :
    .meet graph ⟨owner, entry.1⟩ entry.2 ∈ view.walk chosen opened owner graph nodes := by
  rw [walk]
  exact List.mem_flatMap.2 ⟨entry, member, List.mem_cons_self⟩

theorem walk_inside_subset {entry : NodeId × Node} (member : entry ∈ nodes)
    (resolved : entry.2.wrapper?.bind view.resolve = some definition)
    (inside : definition.handle ∈ opened) :
    view.walk chosen (without opened definition.handle) (some definition.serial) definition.graph
        (definition.graph.active.filter fun inner => chosen inner.2) ++ [.complete definition] ⊆
      view.walk chosen opened owner graph nodes := by
  intro event found
  rw [walk]
  refine List.mem_flatMap.2 ⟨entry, member, List.mem_cons_of_mem _ ?_⟩
  simp only [resolved, dif_pos inside]
  exact found

/-- By induction on the handles that are open: a path that comes back to where it began is cut there, and
what is left of it is open to the walk inside. -/
theorem walk_covers (tidy : view.Tidy) (placed : view.Placed nodes) {entry : NodeId × Node}
    (member : entry ∈ nodes) {start : Live}
    (resolved : entry.2.wrapper?.bind view.resolve = some start) (inside : start.handle ∈ opened)
    (path : ReflTransGen (view.Admits chosen opened) start definition) :
    .complete definition ∈ view.walk chosen opened owner graph nodes ∧
      ∀ inner ∈ definition.graph.active, chosen inner.2 = true → ∃ site,
        .meet definition.graph site inner.2 ∈ view.walk chosen opened owner graph nodes := by
  induction opened, owner, graph, nodes using walk.induct chosen generalizing entry start definition with
  | case1 opened owner graph nodes ih =>
    have stored := placed entry member start resolved
    have within : view.walk chosen (without opened start.handle) (some start.serial) start.graph
        (start.graph.active.filter fun inner => chosen inner.2) ++ [.complete start] ⊆
          view.walk chosen opened owner graph nodes := walk_inside_subset member resolved inside
    have alone (met : Live) (path : ReflTransGen (view.Admits chosen opened) start met)
        (back : met.handle = start.handle) : met = start := by
      have known := tidy.lookup_of_path stored path
      rw [back, stored] at known
      exact (Option.some.inj known).symm
    rcases start_or_apart alone path with rfl | ⟨next, ⟨stillOpen, leads⟩, rest⟩
    · refine ⟨within (by simp), fun inner active taken => ?_⟩
      exact ⟨_, within (List.mem_append_left _ (meet_mem_walk (List.mem_filter.2 ⟨active, taken⟩)))⟩
    · obtain ⟨inner, listed, stands⟩ := leads_iff.1 leads
      obtain ⟨left, met⟩ := ih start inside
        (fun inner listed => tidy _ _ stored inner (List.mem_filter.1 listed).1) listed stands stillOpen rest
      refine ⟨within (List.mem_append_left _ left), fun inner active taken => ?_⟩
      obtain ⟨site, found⟩ := met inner active taken
      exact ⟨site, within (List.mem_append_left _ found)⟩

theorem path_of_reaches (tidy : view.Tidy) {start : Live}
    (stored : view.lookup start.handle = some start)
    (path : Reaches (view.Leads chosen) start.graph definition) :
    ReflTransGen (view.Admits chosen view.handles) start definition := by
  have admits {outer inner : Live} (stored : view.lookup outer.handle = some outer)
      (leads : view.Leads chosen outer.graph inner) : view.Admits chosen view.handles outer inner := by
    refine ⟨?_, leads⟩
    obtain ⟨entry, active, _, resolved⟩ := leads
    have known := tidy _ _ stored entry active _ resolved
    exact List.mem_map.2 ⟨inner, mem_live_of_lookup known, rfl⟩
  induction path with
  | direct leads => exact .single (admits stored leads)
  | further _ leads ih => exact ih.tail (admits (tidy.lookup_of_path stored ih) leads)

/-- A walk to which all handles are open enters every definition that chosen wrappers lead to. -/
theorem mem_walk_of_enters (tidy : view.Tidy) (placed : view.Placed nodes)
    (enters : view.Enters chosen nodes definition) :
    .complete definition ∈ view.walk chosen view.handles owner graph nodes ∧
      ∀ inner ∈ definition.graph.active, chosen inner.2 = true → ∃ site,
        .meet definition.graph site inner.2 ∈ view.walk chosen view.handles owner graph nodes := by
  obtain ⟨entry, member, outer, resolved, path⟩ := enters
  have stored := placed entry member outer resolved
  refine walk_covers tidy placed member resolved
    (List.mem_map.2 ⟨outer, mem_live_of_lookup stored, rfl⟩) ?_
  rcases path with rfl | path
  · exact .refl
  · exact path_of_reaches tidy stored path

/-- The nodes that a walk meets and the definitions that it leaves are all that chosen wrappers lead to,
whether or not references form rings. -/
theorem complete_mem_walk_iff (tidy : view.Tidy) (placed : view.Placed nodes) :
    .complete definition ∈ view.walk chosen view.handles owner graph nodes ↔
      view.Enters chosen nodes definition :=
  ⟨fun left => walk_finds _ left, fun enters => (mem_walk_of_enters tidy placed enters).1⟩

theorem exists_meet_mem_walk_iff (tidy : view.Tidy) (placed : view.Placed nodes) (node : Node) :
    (∃ met site, .meet met site node ∈ view.walk chosen view.handles owner graph nodes) ↔
      (∃ entry ∈ nodes, entry.2 = node) ∨ ∃ definition, view.Enters chosen nodes definition ∧
        ∃ inner ∈ definition.graph.active, inner.2 = node ∧ chosen node = true := by
  constructor
  · rintro ⟨met, site, member⟩
    rcases walk_finds _ member with ⟨_, here⟩ | ⟨definition, enters, _, found⟩
    · exact .inl here
    · exact .inr ⟨definition, enters, found⟩
  · rintro (⟨entry, member, rfl⟩ | ⟨definition, enters, inner, active, rfl, taken⟩)
    · exact ⟨_, _, meet_mem_walk member⟩
    · exact ⟨_, (mem_walk_of_enters tidy placed enters).2 inner active taken⟩

/-- What is met inside the definition of a node, if this is not being expanded already. -/
def enter (view : View) (expand : Live → Option (List Event)) (expanding : List Handle) (node : Node) :
    Option (List Event) :=
  match node.wrapper?.bind view.resolve with
  | none => some []
  | some definition =>
    if definition.handle ∈ expanding then some []
    else (expand definition).map (· ++ [.complete definition])

def pass (view : View) (expand : Live → Option (List Event)) (expanding : List Handle)
    (owner : Option Serial) (graph : ShaderGraph) : List (NodeId × Node) → Option (List Event)
  | [] => some []
  | entry :: rest => do
    let inside ← view.enter expand expanding entry.2
    let behind ← view.pass expand expanding owner graph rest
    return .meet graph ⟨owner, entry.1⟩ entry.2 :: inside ++ behind

/-- The walk that keeps a stack of the handles being expanded. It is given up where definitions are
nested deeper than it is allowed. -/
def nest (view : View) (chosen : Node → Bool) : (depth : Nat) → (expanding : List Handle) →
    (owner : Option Serial) → (graph : ShaderGraph) → List (NodeId × Node) → Option (List Event)
  | 0, expanding, owner, graph, nodes => view.pass (fun _ => none) expanding owner graph nodes
  | depth + 1, expanding, owner, graph, nodes =>
    view.pass (fun definition =>
      view.nest chosen depth (definition.handle :: expanding) (some definition.serial) definition.graph
        (definition.graph.active.filter fun inner => chosen inner.2)) expanding owner graph nodes

theorem pass_eq_flatMap {expand : Live → Option (List Event)} {expanding : List Handle}
    {inside : NodeId × Node → List Event}
    (each : ∀ entry ∈ nodes, view.enter expand expanding entry.2 = some (inside entry)) :
    view.pass expand expanding owner graph nodes =
      some (nodes.flatMap fun entry => .meet graph ⟨owner, entry.1⟩ entry.2 :: inside entry) := by
  induction nodes with
  | nil => rfl
  | cons entry rest ih =>
    have here := each entry (by simp)
    have later := ih fun other member => each other (by simp [member])
    simp [pass, here, later]

/-- It comes to the same whether a definition is not on the stack or its handle is open. -/
theorem pass_eq_walk {expand : Live → Option (List Event)} {expanding : List Handle}
    (closed : ∀ entry ∈ nodes, ∀ definition, entry.2.wrapper?.bind view.resolve = some definition →
      (definition.handle ∈ opened ↔ definition.handle ∉ expanding))
    (expands : ∀ entry ∈ nodes, ∀ definition, entry.2.wrapper?.bind view.resolve = some definition →
      definition.handle ∉ expanding → expand definition =
        some (view.walk chosen (without opened definition.handle) (some definition.serial)
          definition.graph (definition.graph.active.filter fun inner => chosen inner.2))) :
    view.pass expand expanding owner graph nodes =
      some (view.walk chosen opened owner graph nodes) := by
  rw [walk]
  refine pass_eq_flatMap fun entry member => ?_
  unfold enter
  cases resolved : entry.2.wrapper?.bind view.resolve with
  | none => rfl
  | some definition =>
    have inside := closed entry member definition resolved
    by_cases onStack : definition.handle ∈ expanding
    · simp [onStack, mt inside.1 (not_not.2 onStack)]
    · simp [onStack, inside.2 onStack, expands entry member definition resolved onStack]

/-- By induction on the handles that are open. Those that are stored and not on the stack bound the depth,
and with each definition that is entered they become fewer. -/
theorem nest_eq_walk (tidy : view.Tidy) (placed : view.Placed nodes) {depth : Nat}
    {expanding : List Handle} (left : List Handle)
    (closed : ∀ definition, view.lookup definition.handle = some definition →
      (definition.handle ∈ opened ↔ definition.handle ∉ expanding))
    (unmet : ∀ handle ∈ view.stored.keys, handle ∉ expanding → handle ∈ left)
    (room : left.length ≤ depth) :
    view.nest chosen depth expanding owner graph nodes =
      some (view.walk chosen opened owner graph nodes) := by
  induction opened, owner, graph, nodes using walk.induct chosen generalizing depth expanding left with
  | case1 opened owner graph nodes ih =>
    have open_iff : ∀ entry ∈ nodes, ∀ definition,
        entry.2.wrapper?.bind view.resolve = some definition →
          (definition.handle ∈ opened ↔ definition.handle ∉ expanding) :=
      fun entry member definition resolved => closed definition (placed entry member definition resolved)
    have remains {definition : Live} (stored : view.lookup definition.handle = some definition)
        (free : definition.handle ∉ expanding) : definition.handle ∈ left := by
      obtain ⟨serial, known, _⟩ := Option.bind_eq_some_iff.1 stored
      exact unmet _ ((view.stored.mem_keys_iff _).2 ⟨serial, known⟩) free
    cases depth with
    | zero =>
      refine pass_eq_walk open_iff fun entry member definition resolved free => ?_
      have inside := remains (placed entry member definition resolved) free
      rw [List.eq_nil_of_length_eq_zero (Nat.le_zero.1 room)] at inside
      contradiction
    | succ depth =>
      refine pass_eq_walk open_iff fun entry member definition resolved free => ?_
      have stored := placed entry member definition resolved
      have fewer := length_without_lt (remains stored free)
      refine ih definition ((open_iff entry member definition resolved).2 free)
        (fun inner listed => tidy _ _ stored inner (List.mem_filter.1 listed).1)
        (without left definition.handle) ?_ ?_ (by omega)
      · intro inner known
        rw [mem_without, closed inner known, List.mem_cons, not_or, and_comm]
      · intro handle known apart
        rw [List.mem_cons, not_or] at apart
        exact mem_without.2 ⟨unmet handle known apart.2, apart.1⟩

/-- The walk comes to its end with no more definitions nested than there are stored handles. -/
theorem nest_size_eq_walk (tidy : view.Tidy) (placed : view.Placed nodes) :
    view.nest chosen view.stored.size [] owner graph nodes =
      some (view.walk chosen view.handles owner graph nodes) := by
  refine nest_eq_walk tidy placed view.stored.keys ?_ (fun _ known _ => known) ?_
  · intro definition stored
    have listed : definition.handle ∈ view.handles :=
      List.mem_map.2 ⟨definition, mem_live_of_lookup stored, rfl⟩
    simp [listed]
  · exact (List.length_map _).le

end NodeShader.View
