import DatasetPicker.Header.Palette

/-!
# Shades

The results are spread over a scale of colours: the first takes the first colour, the last takes
the last, and what lies between is rounded down. Where there are at least as many colours as results
no two results share a colour, and where there are at most as many no colour is left out. All this
rests on one product, which must fit into a machine word. No position is ever outside the scale.
-/

namespace DatasetPicker.Palette

/-- The steps from the first to the last of some results; at least one, so that they divide. -/
def steps (count : Nat) : Nat := max (count - 1) 1

/-- There is a step. -/
theorem steps_pos (count : Nat) : 0 < steps count := by
  rw [steps]
  omega

/-- An index among the results is not beyond the last step. -/
theorem le_steps {index count : Nat} (within : index < count) : index ≤ steps count := by
  rw [steps]
  omega

/-- The product for the last result on a scale fits into a machine word. -/
def Fits (size count : Nat) : Prop := (count - 1) * (size - 1) < UInt64.size

variable {size count index : Nat}

/-- If the product for the last result fits, then so do those for the others. -/
theorem Fits.product (fits : Fits size count) (within : index < count) :
    index * (size - 1) < UInt64.size :=
  Nat.lt_of_le_of_lt (Nat.mul_le_mul_right _ (Nat.le_sub_one_of_lt within)) fits

/-- Among the results, the position is a quotient rounded down. -/
theorem shadeIndex_eq (fits : Fits size count) (within : index < count) :
    shadeIndex size index count = index * (size - 1) / steps count := by
  change min index (steps count) * (size - 1) % UInt64.size / steps count = _
  rw [Nat.min_eq_left (le_steps within), Nat.mod_eq_of_lt (fits.product within)]

/-- No position is beyond the end of the scale, whatever the index. -/
theorem shadeIndex_le (size index count : Nat) : shadeIndex size index count ≤ size - 1 := by
  change min index (steps count) * (size - 1) % UInt64.size / steps count ≤ size - 1
  refine Nat.div_le_of_le_mul (Nat.le_trans (Nat.mod_le _ _) ?_)
  exact Nat.mul_le_mul_right _ (Nat.min_le_right _ _)

/-- The first result takes the first position. -/
theorem shadeIndex_first (size count : Nat) : shadeIndex size 0 count = 0 := by
  simp [shadeIndex]

/-- A later result does not take an earlier position. -/
theorem shadeIndex_mono (fits : Fits size count) {earlier later : Nat} (ordered : earlier ≤ later)
    (within : later < count) :
    shadeIndex size earlier count ≤ shadeIndex size later count := by
  rw [shadeIndex_eq fits (Nat.lt_of_le_of_lt ordered within), shadeIndex_eq fits within]
  exact Nat.div_le_div_right (Nat.mul_le_mul_right _ ordered)

/-- The last of several results takes the last position. -/
theorem shadeIndex_last (fits : Fits size count) (several : 2 ≤ count) :
    shadeIndex size (count - 1) count = size - 1 := by
  have last : count - 1 = steps count := by
    rw [steps]
    omega
  rw [shadeIndex_eq fits (by omega), last, Nat.mul_div_cancel_left _ (steps_pos count)]

/-- On a scale of several colours, no other result takes the last position. -/
theorem eq_last_of_shadeIndex (fits : Fits size count) (several : 2 ≤ size) (within : index < count)
    (last : shadeIndex size index count = size - 1) : index = count - 1 := by
  rw [shadeIndex_eq fits within, Nat.div_eq_iff (steps_pos count)] at last
  have reached : steps count ≤ index := by
    refine Nat.le_of_mul_le_mul_right ?_ (Nat.sub_pos_of_lt several)
    rw [Nat.mul_comm]
    exact last.1
  rw [steps] at reached
  omega

/-- Where there are at least as many colours as results, a later result takes a later position. -/
theorem shadeIndex_strict (fits : Fits size count) (enough : count ≤ size) {earlier later : Nat}
    (ordered : earlier < later) (within : later < count) :
    shadeIndex size earlier count < shadeIndex size later count := by
  have few : steps count ≤ size - 1 := by
    rw [steps]
    omega
  rw [shadeIndex_eq fits (Nat.lt_trans ordered within), shadeIndex_eq fits within,
    Nat.lt_iff_add_one_le, Nat.le_div_iff_mul_le (steps_pos count)]
  calc (earlier * (size - 1) / steps count + 1) * steps count
    _ = earlier * (size - 1) / steps count * steps count + steps count := Nat.succ_mul _ _
    _ ≤ earlier * (size - 1) + (size - 1) := Nat.add_le_add (Nat.div_mul_le_self _ _) few
    _ = (earlier + 1) * (size - 1) := (Nat.succ_mul _ _).symm
    _ ≤ later * (size - 1) := Nat.mul_le_mul_right _ ordered

/-- Where there are at least as many colours as results, no two results take the same position. -/
theorem shadeIndex_injective (fits : Fits size count) (enough : count ≤ size) {one other : Nat}
    (among : one < count) (also : other < count)
    (same : shadeIndex size one count = shadeIndex size other count) : one = other := by
  -- Of two different indices one is earlier, and takes an earlier position.
  obtain before | equal | after := Nat.lt_trichotomy one other
  · exact absurd same (Nat.ne_of_lt (shadeIndex_strict fits enough before also))
  · exact equal
  · exact absurd same.symm (Nat.ne_of_lt (shadeIndex_strict fits enough after among))

/-- The first multiple of a part that reaches an amount exceeds it by less than the part. -/
theorem exists_multiple (amount : Nat) {part : Nat} (positive : 0 < part) :
    ∃ times, amount ≤ times * part ∧ times * part < amount + part := by
  refine ⟨(amount + part - 1) / part, ?_, ?_⟩
  · have reached := Nat.lt_mul_div_succ (amount + part - 1) positive
    rw [Nat.mul_succ, Nat.mul_comm] at reached
    omega
  · have within := Nat.div_mul_le_self (amount + part - 1) part
    omega

/-- Where there are at most as many colours as results, each position is taken. -/
theorem exists_shadeIndex (fits : Fits size count) (positive : 0 < count) (enough : size ≤ count)
    {place : Nat} (within : place < size) :
    ∃ index < count, shadeIndex size index count = place := by
  by_cases single : size - 1 = 0
  · exact ⟨0, positive, by rw [shadeIndex_first]; omega⟩
  · -- The first index whose share of the scale reaches the place; the share of one step is at most
    -- one place, so it does not go past it.
    obtain ⟨index, reached, first⟩ :=
      exists_multiple (place * steps count) (Nat.pos_of_ne_zero single)
    have last : steps count = count - 1 := by
      rw [steps]
      omega
    have inside : place * steps count ≤ steps count * (size - 1) := by
      rw [Nat.mul_comm]
      exact Nat.mul_le_mul_left _ (by omega)
    have listed : index < steps count + 1 := by
      have bound : index * (size - 1) < (steps count + 1) * (size - 1) := by
        rw [Nat.succ_mul]
        omega
      exact Nat.lt_of_mul_lt_mul_right bound
    refine ⟨index, by omega, ?_⟩
    rw [shadeIndex_eq fits (by omega)]
    refine Nat.div_eq_of_lt_le reached ?_
    rw [Nat.succ_mul]
    omega

/-- The results are spread over a scale that has colours. Whatever the index, a colour of the scale
is taken, and the first result takes the first. If the product for the last result fits into a
machine word, each result is at its share of the scale rounded down; a later one takes no earlier
colour, and the last of several takes the last colour, on a scale of several colours alone. With at
least as many colours as results no two take the same, and with at most as many each colour is
taken. -/
theorem shade_spreads (palette : Palette) (count : Nat) (coloured : palette.scale ≠ [])
    (positive : 0 < count) :
    let size := palette.scale.length
    let position (index : Nat) := shadeIndex size index count
    (∀ index, position index ≤ size - 1 ∧
        palette.scale[position index]? = some (palette.shade index count)) ∧
      0 < max (count - 1) 1 ∧
      position 0 = 0 ∧
      ((count - 1) * (size - 1) < UInt64.size →
        (∀ index < count, position index = index * (size - 1) / max (count - 1) 1) ∧
        (∀ earlier later, earlier ≤ later → later < count → position earlier ≤ position later) ∧
        (2 ≤ count → position (count - 1) = size - 1) ∧
        (2 ≤ size → ∀ index < count, position index = size - 1 → index = count - 1) ∧
        (count ≤ size →
          ∀ one < count, ∀ other < count, position one = position other → one = other) ∧
        (size ≤ count → ∀ place < size, ∃ index < count, position index = place)) := by
  intro size position
  have some_colour : 0 < size := List.length_pos_iff.mpr coloured
  refine ⟨?_, steps_pos count, shadeIndex_first size count, ?_⟩
  · intro index
    have inside : position index ≤ size - 1 := shadeIndex_le size index count
    have listed : position index < palette.scale.length := by omega
    refine ⟨inside, ?_⟩
    change _ = some ((palette.scale[position index]?).getD .darkGrey)
    rw [List.getElem?_eq_getElem listed, Option.getD_some]
  · intro fits
    exact ⟨fun index => shadeIndex_eq fits, fun earlier later => shadeIndex_mono fits,
      shadeIndex_last fits, fun several index => eq_last_of_shadeIndex fits several,
      fun enough one among other => shadeIndex_injective fits enough among,
      fun enough place => exists_shadeIndex fits positive enough⟩

/-- Five results on a scale of three colours: the second one still takes the first colour, and no
colour is left out. -/
theorem shade_spreads_five :
    let palette : Palette := { scale := [.red, .cyan, .darkGrey] }
    palette.scale ≠ [] ∧ shadeIndex 3 1 5 = 0 ∧ palette.scale[0]? = some (palette.shade 1 5) ∧
      shadeIndex 3 4 5 = 2 ∧ ∀ place < 3, ∃ index < 5, shadeIndex 3 index 5 = place := by
  intro palette
  have coloured : palette.scale ≠ [] := by decide
  obtain ⟨taken, -, -, spread⟩ := shade_spreads palette 5 coloured (by decide)
  obtain ⟨-, -, last, -, -, all⟩ := spread (by decide)
  have second : palette.scale[shadeIndex 3 1 5]? = some (palette.shade 1 5) := (taken 1).2
  have first : shadeIndex 3 1 5 = 0 := by decide
  rw [first] at second
  exact ⟨coloured, first, second, last (by decide), all (by decide)⟩

/-- The spread is not even: of eight results on two colours only the last takes the second one. And
the last of several results need not take the last colour: for this many results on three colours
the product wraps around, and it takes the first one. -/
theorem shade_uneven :
    (List.range 8).map (({ scale := [.red, .cyan] } : Palette).shade · 8) =
        List.replicate 7 .red ++ [.cyan] ∧
      ¬ ∀ (palette : Palette) (count : Nat), palette.scale ≠ [] → 2 ≤ count →
        shadeIndex palette.scale.length (count - 1) count = palette.scale.length - 1 := by
  refine ⟨by decide, ?_⟩
  intro last
  have wrapped := last { scale := [.red, .cyan, .darkGrey] } (2 ^ 63 + 2) (by decide) (by decide)
  exact absurd wrapped (by decide)

end DatasetPicker.Palette
