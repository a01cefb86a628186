/-! Computations that may fail, taken apart: what a success or a failure of the whole says about the
parts. -/
namespace NodeShader.Outcome
variable {ε σ α β : Type}

theorem bind_eq_ok {first : Except ε α} {next : α → Except ε β} {result : β}
    (ok : first >>= next = .ok result) : ∃ value, first = .ok value ∧ next value = .ok result := by
  cases first with
  | error cause => cases ok
  | ok value => exact ⟨value, rfl, ok⟩

theorem bind_eq_error {first : Except ε α} {next : α → Except ε β} {cause : ε}
    (failed : first >>= next = .error cause) :
    first = .error cause ∨ ∃ value, first = .ok value ∧ next value = .error cause := by
  cases first with
  | error other => exact .inl (congrArg Except.error (Except.error.inj failed))
  | ok value => exact .inr ⟨value, rfl, failed⟩

theorem map_eq_ok {first : Except ε α} {change : α → β} {result : β}
    (ok : first.map change = .ok result) : ∃ value, first = .ok value ∧ change value = result := by
  cases first with
  | error cause => cases ok
  | ok value => exact ⟨value, rfl, Except.ok.inj ok⟩

theorem map_eq_error {first : Except ε α} {change : α → β} {cause : ε}
    (failed : first.map change = .error cause) : first = .error cause := by
  cases first with
  | error other => exact congrArg Except.error (Except.error.inj failed)
  | ok value => cases failed

theorem passed_of_eq_ok {refused : Prop} [Decidable refused] {cause : ε}
    {next : PUnit → Except ε α} {result : α}
    (ok : (if refused then throw cause >>= next else next ⟨⟩) = .ok result) :
    ¬ refused ∧ next ⟨⟩ = .ok result := by
  split at ok
  next => cases ok
  next passed => exact ⟨passed, ok⟩

theorem exists_eq_ok {computed : Except ε α} (succeeds : computed.toBool = true) :
    ∃ result, computed = .ok result := by
  cases computed with
  | error cause => simp [Except.toBool] at succeeds
  | ok result => exact ⟨result, rfl⟩

/-- What every step keeps holds at the end, and what every step reaches is reached for every
item. -/
theorem foldlM_eq_ok (Holds : σ → Prop) (Reached : α → Prop) {step : σ → α → Except ε σ}
    {items : List α} {start finish : σ}
    (steps : ∀ state item next, item ∈ items → Holds state → step state item = .ok next →
      Holds next ∧ Reached item)
    (holds : Holds start) (ok : items.foldlM step start = .ok finish) :
    Holds finish ∧ ∀ item ∈ items, Reached item := by
  induction items generalizing start with
  | nil =>
    cases ok
    exact ⟨holds, by simp⟩
  | cons item rest ih =>
    rw [List.foldlM_cons] at ok
    obtain ⟨next, here, later⟩ := bind_eq_ok ok
    obtain ⟨holds, reached⟩ := steps start item next (by simp) holds here
    obtain ⟨finished, others⟩ := ih (fun state other next member =>
      steps state other next (by simp [member])) holds later
    refine ⟨finished, ?_⟩
    intro other member
    rcases List.mem_cons.1 member with rfl | behind
    · exact reached
    · exact others other behind

theorem exists_foldlM_eq_ok {step : σ → α → Except ε σ} {items : List α}
    (steps : ∀ state, ∀ item ∈ items, ∃ next, step state item = .ok next) (start : σ) :
    ∃ finish, items.foldlM step start = .ok finish := by
  induction items generalizing start with
  | nil => exact ⟨start, rfl⟩
  | cons item rest ih =>
    obtain ⟨next, here⟩ := steps start item (by simp)
    obtain ⟨finish, later⟩ := ih (fun state other member => steps state other (by simp [member])) next
    exact ⟨finish, by rw [List.foldlM_cons, here]; exact later⟩

theorem foldlM_eq_error {step : σ → α → Except ε σ} {items : List α} {start : σ} {cause : ε}
    (failed : items.foldlM step start = .error cause) :
    ∃ item ∈ items, ∃ state, step state item = .error cause := by
  induction items generalizing start with
  | nil => cases failed
  | cons item rest ih =>
    rw [List.foldlM_cons] at failed
    rcases bind_eq_error failed with here | ⟨next, _, later⟩
    · exact ⟨item, by simp, start, here⟩
    · obtain ⟨other, member, found⟩ := ih later
      exact ⟨other, by simp [member], found⟩

end NodeShader.Outcome
