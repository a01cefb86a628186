import NodeShader.Proofs.Flagging

/-! The search for faults, one look at a time. Searching a node is to look at the nodes of the definition
that it stands for, and the search that was told what is being expanded already gives no other answer than
one that starts anew for each of them: where a definition turned up inside itself neither would end. -/
namespace NodeShader.View

def judge (test : Node → Option Bool) (entry : NodeId × Node) : Option Bool :=
  if entry.2.hasError then some true else test entry.2

/-- Looks at a node, with a test for the unflagged nodes of the definition that it stands for. -/
def look (view : View) (test : Node → Option Bool) (node : Node) : Option Bool :=
  match node.wrapper? with
  | none => some false
  | some wrapper =>
    if wrapper.handle = none then some false
    else match view.resolve wrapper with
      | none => some true
      | some definition => definition.graph.active.anyM (judge test)

/-- Searches to a depth, without a record of what is being expanded. -/
def seek (view : View) : Nat → Node → Option Bool
  | 0, _ => none
  | depth + 1, node => view.look (view.seek depth) node

/-- Of two lists that look the same the second one is answered like the first, if its items are. -/
theorem anyM_eq_some_of_map {α β : Type} {items others : List α} {seen : α → β}
    (same : items.map seen = others.map seen) {test other : α → Option Bool}
    (sure : ∀ item ∈ items, ∀ twin ∈ others, seen item = seen twin → ∀ answer,
      test item = some answer → other twin = some answer)
    {answer : Bool} (found : items.anyM test = some answer) : others.anyM other = some answer := by
  induction items generalizing others with
  | nil =>
    rw [List.map_nil] at same
    rwa [List.map_eq_nil_iff.1 same.symm]
  | cons item rest ih =>
    cases others with
    | nil => simp at same
    | cons twin later =>
      obtain ⟨first, behind⟩ := List.cons.inj same
      rw [List.anyM_cons] at found ⊢
      obtain ⟨here, tested, after⟩ := Option.bind_eq_some_iff.1 found
      rw [sure item (by simp) twin (by simp) first here tested]
      cases here with
      | true => exact after
      | false =>
        exact ih behind (fun item member twin known =>
          sure item (by simp [member]) twin (by simp [known])) after

theorem anyM_eq_some_of_imp {α : Type} {items : List α} {test other : α → Option Bool}
    (sure : ∀ item ∈ items, ∀ answer, test item = some answer → other item = some answer)
    {answer : Bool} (found : items.anyM test = some answer) : items.anyM other = some answer := by
  refine @anyM_eq_some_of_map _ _ items items id rfl _ _ ?_ _ found
  rintro item member _ _ rfl
  exact sure item member

variable {view : View} {node : Node} {definition : Live}

theorem judge_imp {test other : Node → Option Bool} {entry : NodeId × Node}
    (sure : ∀ answer, test entry.2 = some answer → other entry.2 = some answer) {answer : Bool}
    (found : judge test entry = some answer) : judge other entry = some answer := by
  unfold judge at found ⊢
  split at found
  next flagged => rwa [if_pos flagged]
  next unflagged =>
    rw [if_neg unflagged]
    exact sure answer found

theorem look_of_resolved (test : Node → Option Bool)
    (resolved : node.wrapper?.bind view.resolve = some definition) :
    view.look test node = definition.graph.active.anyM (judge test) := by
  obtain ⟨wrapper, kind, resolved⟩ := Option.bind_eq_some_iff.1 resolved
  have bound : wrapper.handle ≠ none := fun unbound => by simp [resolve, unbound] at resolved
  simp only [look, kind, if_neg bound, resolved]

/-- A node that stands for nothing is at fault if it should. -/
theorem look_of_unresolved (test : Node → Option Bool)
    (missing : node.wrapper?.bind view.resolve = none) :
    view.look test node = some (node.wrapper?.bind Wrapper.handle).isSome := by
  unfold look
  cases kind : node.wrapper? with
  | none => rfl
  | some wrapper =>
    rw [kind, Option.bind_some] at missing
    cases bound : wrapper.handle <;> simp [missing, bound]

theorem fault_of_resolved {unmarked : List Serial}
    (resolved : node.wrapper?.bind view.resolve = some definition) :
    view.fault unmarked node = if definition.serial ∈ unmarked then
      definition.graph.active.anyM (judge (view.fault (without unmarked definition.serial)))
    else none := by
  obtain ⟨wrapper, kind, resolved⟩ := Option.bind_eq_some_iff.1 resolved
  have bound : wrapper.handle ≠ none := fun unbound => by simp [resolve, unbound] at resolved
  rw [fault]
  simp only [kind, if_neg bound, resolved]
  split <;> rfl

theorem fault_of_unresolved (unmarked : List Serial)
    (missing : node.wrapper?.bind view.resolve = none) :
    view.fault unmarked node = some (node.wrapper?.bind Wrapper.handle).isSome := by
  rw [← look_of_unresolved (fun _ => none) missing, fault, look]
  cases kind : node.wrapper? with
  | none => rfl
  | some wrapper =>
    rw [kind, Option.bind_some] at missing
    simp only [missing]

theorem look_imp {test other : Node → Option Bool}
    (sure : ∀ inner answer, test inner = some answer → other inner = some answer) {answer : Bool}
    (found : view.look test node = some answer) : view.look other node = some answer := by
  cases resolved : node.wrapper?.bind view.resolve with
  | none => rwa [look_of_unresolved _ resolved] at found ⊢
  | some definition =>
    rw [look_of_resolved _ resolved] at found ⊢
    exact anyM_eq_some_of_imp (fun entry _ _ => judge_imp (sure entry.2)) found

theorem seek_mono {depth deeper : Nat} (within : depth ≤ deeper) {answer : Bool}
    (found : view.seek depth node = some answer) : view.seek deeper node = some answer := by
  induction depth generalizing deeper node answer with
  | zero => contradiction
  | succ depth ih =>
    obtain ⟨further, rfl⟩ : ∃ further, deeper = further + 1 := ⟨deeper - 1, by omega⟩
    exact look_imp (fun _ _ => ih (Nat.le_of_succ_le_succ within)) found

theorem seek_eq_none_of_le {depth deeper : Nat} (within : depth ≤ deeper)
    (endless : view.seek deeper node = none) : view.seek depth node = none := by
  by_contra ends
  obtain ⟨answer, found⟩ := Option.ne_none_iff_exists'.1 ends
  rw [seek_mono within found] at endless
  contradiction

theorem seek_congr {other : Node} (resolved : node.wrapper?.bind view.resolve = some definition)
    (same : other.wrapper?.bind view.resolve = some definition) (depth : Nat) :
    view.seek depth other = view.seek depth node := by
  cases depth with
  | zero => rfl
  | succ depth => rw [seek, seek, look_of_resolved _ resolved, look_of_resolved _ same]

/-- A search that keeps a record is never deeper than there is left to mark. -/
theorem seek_of_fault {unmarked : List Serial} {answer : Bool}
    (found : view.fault unmarked node = some answer) :
    view.seek (unmarked.length + 1) node = some answer := by
  induction size : unmarked.length using Nat.strong_induction_on generalizing unmarked node answer with
  | _ count ih =>
    cases resolved : node.wrapper?.bind view.resolve with
    | none => rwa [seek, look_of_unresolved _ resolved, ← fault_of_unresolved unmarked resolved]
    | some definition =>
      rw [fault_of_resolved resolved] at found
      split at found
      next inside =>
        rw [seek, look_of_resolved _ resolved]
        have fewer : (without unmarked definition.serial).length < count :=
          size ▸ length_without_lt inside
        refine anyM_eq_some_of_imp (fun entry _ _ => judge_imp fun answer inner => ?_) found
        exact seek_mono fewer (ih _ fewer inner rfl)
      next => contradiction

theorem definition?_of_stands (resolved : node.wrapper?.bind view.resolve = some definition) :
    view.definition? definition.serial = some definition := by
  obtain ⟨wrapper, _, resolved⟩ := Option.bind_eq_some_iff.1 resolved
  exact definition?_of_resolve resolved

theorem mem_live_of_stands (resolved : node.wrapper?.bind view.resolve = some definition) :
    definition ∈ view.live := List.mem_of_find?_eq_some (definition?_of_stands resolved)

/-- A search that comes to an end does so with a record too, if what is marked in it does not: then no
definition is met inside itself, as a search to no depth finds the end of one. -/
theorem fault_of_seek {depth : Nat} {unmarked : List Serial}
    (endless : ∀ other outer, other.wrapper?.bind view.resolve = some outer →
      outer.serial ∉ unmarked → view.seek depth other = none) {answer : Bool}
    (found : view.seek depth node = some answer) : view.fault unmarked node = some answer := by
  induction depth using Nat.strong_induction_on generalizing unmarked node answer with
  | _ depth ih =>
    -- The least depth at which the search ends is the one to go by.
    by_cases least : ∀ less < depth, view.seek less node = none
    · obtain ⟨depth, rfl⟩ : ∃ less, depth = less + 1 := by
        cases depth with
        | zero => contradiction
        | succ depth => exact ⟨depth, rfl⟩
      cases resolved : node.wrapper?.bind view.resolve with
      | none =>
        rw [seek, look_of_unresolved _ resolved] at found
        rwa [fault_of_unresolved unmarked resolved]
      | some definition =>
        have inside : definition.serial ∈ unmarked := by
          by_contra outside
          simp [endless node definition resolved outside] at found
        rw [seek, look_of_resolved _ resolved] at found
        rw [fault_of_resolved resolved, if_pos inside]
        refine anyM_eq_some_of_imp (fun entry _ _ => judge_imp fun answer inner => ?_) found
        refine ih depth (Nat.lt_succ_self depth) ?_ inner
        intro other outer stands outside
        by_cases same : outer.serial = definition.serial
        · have known := definition?_of_stands stands
          rw [same, definition?_of_stands resolved] at known
          cases known
          rw [seek_congr resolved stands]
          exact least depth (Nat.lt_succ_self depth)
        · have unmet : outer.serial ∉ unmarked := fun member =>
            outside (mem_without.2 ⟨member, same⟩)
          exact seek_eq_none_of_le (Nat.le_succ depth) (endless other outer stands unmet)
    · simp only [not_forall] at least
      obtain ⟨less, shallower, ends⟩ := least
      obtain ⟨earlier, sought⟩ := Option.ne_none_iff_exists'.1 ends
      have same : view.seek depth node = some earlier := seek_mono shallower.le sought
      cases same.symm.trans found
      exact ih less shallower (fun other outer stands outside =>
        seek_eq_none_of_le shallower.le (endless other outer stands outside)) sought

theorem fault_serials_of_seek {depth : Nat} {answer : Bool}
    (found : view.seek depth node = some answer) :
    view.fault view.serials node = some answer := by
  refine fault_of_seek ?_ found
  intro other outer stands outside
  exact absurd (List.mem_map.2 ⟨outer, mem_live_of_stands stands, rfl⟩) outside

/-- The answers of searches that start anew fit together as one look. -/
theorem fault_of_look {answer : Bool}
    (found : view.look (view.fault view.serials) node = some answer) :
    view.fault view.serials node = some answer := by
  have sought : view.seek (view.serials.length + 2) node = some answer :=
    look_imp (fun _ _ => seek_of_fault) found
  exact fault_serials_of_seek sought

end NodeShader.View
