import NodeShader.Guid

/-! The hexadecimal digits of an id: always 32 of them, and no two ids have the same. The first eight of
them are its short form. -/
namespace NodeShader.Guid

theorem length_hexDigits (count n : Nat) : (hexDigits count n).length = count := by
  induction count generalizing n with
  | zero => rfl
  | succ count ih => simp [hexDigits, ih]

private theorem digitChar_inj {m n : Nat} (small : m < 16) (other : n < 16)
    (same : m.digitChar = n.digitChar) : m = n := by
  have all : ∀ m : Fin 16, ∀ n : Fin 16, m.val.digitChar = n.val.digitChar → m = n := by decide
  exact congrArg Fin.val (all ⟨m, small⟩ ⟨n, other⟩ same)

theorem mod_eq_of_hexDigits_eq {count m n : Nat} (same : hexDigits count m = hexDigits count n) :
    m % Nat.pow 16 count = n % Nat.pow 16 count := by
  induction count generalizing m n with
  | zero => exact (Nat.mod_one m).trans (Nat.mod_one n).symm
  | succ count ih =>
    obtain ⟨front, last⟩ := List.append_inj' same rfl
    have lower : m % 16 = n % 16 :=
      digitChar_inj (Nat.mod_lt m (by decide)) (Nat.mod_lt n (by decide)) (List.cons.inj last).1
    have upper := ih front
    have next : Nat.pow 16 (count + 1) = 16 * Nat.pow 16 count := Nat.pow_succ'
    rw [next, Nat.mod_mul, Nat.mod_mul, lower, upper]

theorem hexDigits_inj {m n : UInt64}
    (same : hexDigits 16 m.toNat = hexDigits 16 n.toNat) : m = n := by
  have below (x : UInt64) : x.toNat < Nat.pow 16 16 := Nat.lt_of_lt_of_eq x.toNat_lt (by decide)
  have shown := mod_eq_of_hexDigits_eq same
  rw [Nat.mod_eq_of_lt (below m), Nat.mod_eq_of_lt (below n)] at shown
  exact UInt64.toNat_inj.1 shown

theorem digits_inj {id other : Guid} (same : id.digits = other.digits) : id = other := by
  obtain ⟨high, low⟩ := List.append_inj same (by simp [length_hexDigits])
  cases id
  cases other
  rw [Guid.mk.injEq]
  exact ⟨hexDigits_inj high, hexDigits_inj low⟩

/-- What ends in the digits of an id tells which id it is. -/
theorem eq_of_append_simple {start begin : String} {id other : Guid}
    (same : start ++ id.simple = begin ++ other.simple) : id = other := by
  have chars := congrArg String.toList same
  simp only [String.toList_append, simple, String.toList_ofList] at chars
  exact digits_inj (List.append_inj_right' chars (by simp [digits, length_hexDigits]))

theorem length_short (id : Guid) : id.short.toList.length = 8 := by
  simp [short, digits, length_hexDigits]

theorem exists_digitChar_of_mem_hexDigits {count n : Nat} {c : Char} (inside : c ∈ hexDigits count n) :
    ∃ place : Fin 16, c = place.val.digitChar := by
  induction count generalizing n with
  | zero => simp [hexDigits] at inside
  | succ count ih =>
    rcases List.mem_append.1 inside with front | last
    · exact ih front
    · exact ⟨⟨n % 16, Nat.mod_lt n (by decide)⟩, List.mem_singleton.1 last⟩

theorem exists_digitChar_of_mem_digits {id : Guid} {c : Char} (inside : c ∈ id.digits) :
    ∃ place : Fin 16, c = place.val.digitChar := by
  rcases List.mem_append.1 inside with high | low
  · exact exists_digitChar_of_mem_hexDigits high
  · exact exists_digitChar_of_mem_hexDigits low

theorem not_mem_short (id : Guid) : '_' ∉ id.short.toList := by
  intro inside
  rw [short, String.toList_ofList] at inside
  obtain ⟨place, same⟩ := exists_digitChar_of_mem_digits (List.mem_of_mem_take inside)
  have digit : ∀ place : Fin 16, '_' ≠ place.val.digitChar := by decide
  exact digit place same

end NodeShader.Guid
