import DatasetPicker.Config.Rgb

/-!
# Written colours

A colour is written as a `#` and three or six hexadecimal digits, with blanks around them.
Every such text is read as its colour. The reader takes no other text, except that in the long
form a plus sign may stand for the first digit of a channel; what it refuses it gives back as it
was.
-/

namespace DatasetPicker

/-! ## Blanks -/

namespace Text

/-- The characters are the core with blanks around it. -/
def Surrounds (chars core : List Char) : Prop :=
  ∃ before after, chars = before ++ core ++ after ∧
    (∀ char ∈ before, isBlank char = true) ∧ ∀ char ∈ after, isBlank char = true

/-- Trimming drops blanks around what is left. -/
theorem surrounds_trim (chars : List Char) : Surrounds chars (trim chars) := by
  have rest : trim chars ++ ((chars.dropWhile isBlank).reverse.takeWhile isBlank).reverse =
      chars.dropWhile isBlank := by
    rw [trim, ← List.reverse_append, List.takeWhile_append_dropWhile, List.reverse_reverse]
  refine ⟨chars.takeWhile isBlank,
    ((chars.dropWhile isBlank).reverse.takeWhile isBlank).reverse, ?_, ?_, ?_⟩
  · rw [List.append_assoc, rest, List.takeWhile_append_dropWhile]
  · exact List.all_eq_true.mp List.all_takeWhile
  · intro char among
    exact List.all_eq_true.mp List.all_takeWhile char (List.mem_reverse.mp among)

/-- Blanks are dropped up to the first character that is none. -/
theorem dropWhile_blanks (blanks rest : List Char)
    (blank : ∀ char ∈ blanks, isBlank char = true)
    (solid : ∀ char ∈ rest.head?, isBlank char = false) :
    (blanks ++ rest).dropWhile isBlank = rest := by
  rw [List.dropWhile_append_of_pos blank]
  cases rest with
  | nil => rfl
  | cons first rest => exact List.dropWhile_cons_of_neg (by simp [solid first rfl])

/-- Trimming leaves a core that has no blank. -/
theorem Surrounds.trim {chars core : List Char} (surrounds : Surrounds chars core)
    (some : core ≠ []) (solid : ∀ char ∈ core, isBlank char = false) :
    Text.trim chars = core := by
  obtain ⟨before, after, rfl, blankBefore, blankAfter⟩ := surrounds
  have front : (before ++ (core ++ after)).dropWhile isBlank = core ++ after := by
    apply dropWhile_blanks before _ blankBefore
    intro char first
    obtain ⟨head, rest, rfl⟩ := List.exists_cons_of_ne_nil some
    exact solid char (List.mem_of_mem_head? first)
  have back : (after.reverse ++ core.reverse).dropWhile isBlank = core.reverse := by
    apply dropWhile_blanks
    · intro char among
      exact blankAfter char (List.mem_reverse.mp among)
    · intro char first
      exact solid char (List.mem_reverse.mp (List.mem_of_mem_head? first))
  rw [Text.trim, List.append_assoc, front, List.reverse_append, back, List.reverse_reverse]

end Text

namespace Config.Rgb

/-! ## Digits -/

/-- The hexadecimal digits in the order of their values, with small letters. -/
def smallDigits : List Char := "0123456789abcdef".toList

/-- The hexadecimal digits in the order of their values, with capital letters. -/
def capitalDigits : List Char := "0123456789ABCDEF".toList

/-- The character is the hexadecimal digit of the value. -/
def IsDigit (char : Char) (value : Nat) : Prop :=
  smallDigits[value]? = some char ∨ capitalDigits[value]? = some char

instance (char : Char) (value : Nat) : Decidable (IsDigit char value) :=
  inferInstanceAs (Decidable (_ ∨ _))

/-- There are sixteen values, and twenty-two digits for them. -/
theorem IsDigit.listed {char : Char} {value : Nat} (digit : IsDigit char value) :
    value < 16 ∧ char ∈ smallDigits ++ capitalDigits := by
  obtain small | capital := digit
  · obtain ⟨inside, -⟩ := List.getElem?_eq_some_iff.mp small
    exact ⟨inside, List.mem_append_left _ (List.mem_of_getElem? small)⟩
  · obtain ⟨inside, -⟩ := List.getElem?_eq_some_iff.mp capital
    exact ⟨inside, List.mem_append_right _ (List.mem_of_getElem? capital)⟩

/-- A digit is neither blank nor a plus sign. -/
theorem IsDigit.solid {char : Char} {value : Nat} (digit : IsDigit char value) :
    Text.isBlank char = false ∧ char ≠ '+' := by
  have all : (smallDigits ++ capitalDigits).all fun char =>
      decide (Text.isBlank char = false ∧ char ≠ '+') := by
    decide
  exact of_decide_eq_true (List.all_eq_true.mp all char digit.listed.2)

/-- No digit comes behind the small letter f. -/
theorem hexDigit?_bounded {char : Char} {value : Nat}
    (read : Json.hexDigit? char = some value) : char.toNat ≤ 'f'.toNat := by
  have ordered {bound : Char} (below : char ≤ bound) : char.toNat ≤ bound.toNat := below
  unfold Json.hexDigit? at read
  split at read
  · rename_i digit
    exact Nat.le_trans (ordered digit.2) (by decide)
  · split at read
    · rename_i letter
      exact ordered letter.2
    · split at read
      · rename_i letter
        exact Nat.le_trans (ordered letter.2) (by decide)
      · contradiction

/-- The digits are read as their values, and nothing else is read. -/
theorem hexDigit?_eq_some_iff (char : Char) (value : Nat) :
    Json.hexDigit? char = some value ↔ IsDigit char value := by
  constructor
  · intro read
    -- What is read lies below a bound, so that it can be looked for there.
    have all : ∀ point < 'f'.toNat + 1,
        ∀ value ∈ (Json.hexDigit? (Char.ofNat point)).toList,
          IsDigit (Char.ofNat point) value := by
      decide +kernel
    have found := all char.toNat (Nat.lt_succ_of_le (hexDigit?_bounded read)) value
    rw [Char.ofNat_toNat, read] at found
    exact found (List.mem_singleton_self value)
  · intro digit
    -- The digits are gone through as a list. As a type the characters are too many.
    have all : ∀ value < 16, (smallDigits ++ capitalDigits).all fun char =>
        decide (IsDigit char value → Json.hexDigit? char = some value) := by
      decide +kernel
    obtain ⟨bound, listed⟩ := digit.listed
    exact of_decide_eq_true (List.all_eq_true.mp (all value bound) char listed) digit

/-! ## Channels -/

/-- Two digits are written for the value. -/
def TwoDigits (first second : Char) (value : Nat) : Prop :=
  ∃ high low, IsDigit first high ∧ IsDigit second low ∧ value = high * 16 + low

/-- Two digits are written for the value, or its one digit behind a plus sign. -/
def SignedDigits (first second : Char) (value : Nat) : Prop :=
  TwoDigits first second value ∨ first = '+' ∧ IsDigit second value

/-- Two digits have no plus sign among them. -/
theorem TwoDigits.unsigned {first second : Char} {value : Nat}
    (digits : TwoDigits first second value) : first ≠ '+' ∧ second ≠ '+' := by
  obtain ⟨high, low, isHigh, isLow, -⟩ := digits
  exact ⟨isHigh.solid.2, isLow.solid.2⟩

/-- Where there is no plus sign, there are two digits. -/
theorem SignedDigits.twoDigits {first second : Char} {value : Nat}
    (digits : SignedDigits first second value) (unsigned : first ≠ '+') :
    TwoDigits first second value := by
  obtain plain | ⟨sign, -⟩ := digits
  · exact plain
  · contradiction

/-- The digits of a channel are not blank, and neither is the sign. -/
theorem SignedDigits.solid {first second : Char} {value : Nat}
    (digits : SignedDigits first second value) :
    Text.isBlank first = false ∧ Text.isBlank second = false := by
  obtain ⟨high, low, isHigh, isLow, -⟩ | ⟨rfl, isLow⟩ := digits
  · exact ⟨isHigh.solid.1, isLow.solid.1⟩
  · exact ⟨by decide, isLow.solid.1⟩

/-- A channel has eight bits. -/
theorem SignedDigits.bounded {first second : Char} {value : Nat}
    (digits : SignedDigits first second value) : value < 256 := by
  obtain ⟨high, low, isHigh, isLow, rfl⟩ | ⟨-, isLow⟩ := digits
  · have highBound := isHigh.listed.1
    have lowBound := isLow.listed.1
    omega
  · exact Nat.lt_trans isLow.listed.1 (by decide)

/-- Without a sign both characters are read as digits. -/
theorem channel?_unsigned (first second : Char) (unsigned : first ≠ '+') :
    channel? [first, second] =
      (Json.hexDigit? first).bind fun high =>
        (Json.hexDigit? second).map fun low => high * 16 + low := by
  rw [channel?]
  · simp only [Option.map_eq_bind, Function.comp_def]
    rfl
  · exact unsigned

/-- Two characters are read as the value they are written for. -/
theorem channel?_two_iff (first second : Char) (value : Nat) :
    channel? [first, second] = some value ↔ SignedDigits first second value := by
  by_cases sign : first = '+'
  · subst sign
    have behind : channel? ['+', second] = Json.hexDigit? second := rfl
    rw [behind, hexDigit?_eq_some_iff]
    constructor
    · exact fun digit => .inr ⟨rfl, digit⟩
    · rintro (plain | ⟨-, digit⟩)
      · exact absurd rfl plain.unsigned.1
      · exact digit
  · rw [channel?_unsigned first second sign, Option.bind_eq_some_iff]
    constructor
    · rintro ⟨high, readHigh, read⟩
      obtain ⟨low, readLow, rfl⟩ := Option.map_eq_some_iff.mp read
      exact .inl ⟨high, low, (hexDigit?_eq_some_iff _ _).mp readHigh,
        (hexDigit?_eq_some_iff _ _).mp readLow, rfl⟩
    · intro digits
      obtain ⟨high, low, isHigh, isLow, rfl⟩ := digits.twoDigits sign
      refine ⟨high, (hexDigit?_eq_some_iff _ _).mpr isHigh, ?_⟩
      rw [(hexDigit?_eq_some_iff _ _).mpr isLow, Option.map_some]

/-- One digit is written for the value that it has when it is doubled. -/
def OneDigit (char : Char) (value : Nat) : Prop :=
  ∃ digit, IsDigit char digit ∧ value = digit * 17

/-- One digit is written as two for the same value. -/
theorem oneDigit_iff (char : Char) (value : Nat) :
    OneDigit char value ↔ TwoDigits char char value := by
  constructor
  · rintro ⟨digit, isDigit, rfl⟩
    exact ⟨digit, digit, isDigit, isDigit, by omega⟩
  · rintro ⟨high, low, isHigh, isLow, rfl⟩
    have readHigh := (hexDigit?_eq_some_iff char high).mpr isHigh
    obtain rfl : high = low :=
      Option.some.inj (readHigh.symm.trans ((hexDigit?_eq_some_iff char low).mpr isLow))
    exact ⟨high, isHigh, by omega⟩

/-- One character is read as the value that it is written for, divided by that of its double. -/
theorem channel?_one_iff (char : Char) (value : Nat) :
    (channel? [char]).map (· * 17) = some value ↔ OneDigit char value := by
  rw [Option.map_eq_some_iff]
  constructor
  · rintro ⟨digit, read, rfl⟩
    exact ⟨digit, (hexDigit?_eq_some_iff char digit).mp read, rfl⟩
  · rintro ⟨digit, isDigit, rfl⟩
    exact ⟨digit, (hexDigit?_eq_some_iff char digit).mpr isDigit, rfl⟩

/-! ## Colours -/

/-- How a colour is written, where two characters of the long form are written for a channel
as `pair` tells. -/
inductive Spells (pair : Char → Char → Nat → Prop) (colour : Rgb) : List Char → Prop where
  | long {r1 r2 g1 g2 b1 b2 : Char} (red : pair r1 r2 colour.red.toNat)
      (green : pair g1 g2 colour.green.toNat) (blue : pair b1 b2 colour.blue.toNat) :
      Spells pair colour ['#', r1, r2, g1, g2, b1, b2]
  | short {r g b : Char} (red : OneDigit r colour.red.toNat)
      (green : OneDigit g colour.green.toNat) (blue : OneDigit b colour.blue.toNat) :
      Spells pair colour ['#', r, g, b]

/-- A colour is put together from channels of eight bits each. -/
theorem assembled_iff (red green blue : Option Nat) (colour : Rgb)
    (redBound : ∀ value, red = some value → value < 256)
    (greenBound : ∀ value, green = some value → value < 256)
    (blueBound : ∀ value, blue = some value → value < 256) :
    (red.bind fun r => green.bind fun g => blue.map fun b =>
        Rgb.mk (.ofNat r) (.ofNat g) (.ofNat b)) = some colour ↔
      red = some colour.red.toNat ∧ green = some colour.green.toNat ∧
        blue = some colour.blue.toNat := by
  constructor
  · intro made
    obtain ⟨r, isRed, made⟩ := Option.bind_eq_some_iff.mp made
    obtain ⟨g, isGreen, made⟩ := Option.bind_eq_some_iff.mp made
    obtain ⟨b, isBlue, rfl⟩ := Option.map_eq_some_iff.mp made
    have kept {channel : Option Nat} {value : Nat} (found : channel = some value)
        (bound : value < 256) : channel = some (UInt8.ofNat value).toNat :=
      found.trans (congrArg some (UInt8.toNat_ofNat_of_lt' bound).symm)
    exact ⟨kept isRed (redBound r isRed), kept isGreen (greenBound g isGreen),
      kept isBlue (blueBound b isBlue)⟩
  · rintro ⟨rfl, rfl, rfl⟩
    simp only [Option.bind_some, Option.map_some, UInt8.ofNat_toNat]

/-- Six characters are read as the colour that they are written for. -/
theorem ofDigits?_six_iff (r1 r2 g1 g2 b1 b2 : Char) (colour : Rgb) :
    ofDigits? [r1, r2, g1, g2, b1, b2] = some colour ↔
      SignedDigits r1 r2 colour.red.toNat ∧ SignedDigits g1 g2 colour.green.toNat ∧
        SignedDigits b1 b2 colour.blue.toNat := by
  have bounded (first second : Char) (value : Nat)
      (read : channel? [first, second] = some value) : value < 256 :=
    ((channel?_two_iff first second value).mp read).bounded
  rw [← channel?_two_iff, ← channel?_two_iff, ← channel?_two_iff,
    ← assembled_iff _ _ _ colour (bounded r1 r2) (bounded g1 g2) (bounded b1 b2)]
  simp only [ofDigits?, Option.map_eq_bind]
  rfl

/-- Three characters are read as the colour that they are written for. -/
theorem ofDigits?_three_iff (r g b : Char) (colour : Rgb) :
    ofDigits? [r, g, b] = some colour ↔
      OneDigit r colour.red.toNat ∧ OneDigit g colour.green.toNat ∧
        OneDigit b colour.blue.toNat := by
  have bounded (char : Char) (value : Nat)
      (read : (channel? [char]).map (· * 17) = some value) : value < 256 := by
    obtain ⟨digit, isDigit, rfl⟩ := (channel?_one_iff char value).mp read
    have bound := isDigit.listed.1
    omega
  rw [← channel?_one_iff, ← channel?_one_iff, ← channel?_one_iff,
    ← assembled_iff _ _ _ colour (bounded r) (bounded g) (bounded b)]
  simp only [ofDigits?, Option.map_eq_bind, Option.bind_assoc]
  rfl

/-- Behind the sign, the digits that are written for a colour are read as it. -/
theorem ofDigits?_eq_some_iff (digits : List Char) (colour : Rgb) :
    ofDigits? digits = some colour ↔ Spells SignedDigits colour ('#' :: digits) := by
  constructor
  · intro read
    match digits with
    | [r1, r2, g1, g2, b1, b2] =>
      obtain ⟨red, green, blue⟩ := (ofDigits?_six_iff r1 r2 g1 g2 b1 b2 colour).mp read
      exact .long red green blue
    | [r, g, b] =>
      obtain ⟨red, green, blue⟩ := (ofDigits?_three_iff r g b colour).mp read
      exact .short red green blue
    | [] | [_] | [_, _] | [_, _, _, _] | [_, _, _, _, _] | _ :: _ :: _ :: _ :: _ :: _ :: _ :: _ =>
      contradiction
  · rintro (⟨red, green, blue⟩ | ⟨red, green, blue⟩)
    · exact (ofDigits?_six_iff _ _ _ _ _ _ colour).mpr ⟨red, green, blue⟩
    · exact (ofDigits?_three_iff _ _ _ colour).mpr ⟨red, green, blue⟩

/-- What holds of the mark and of all digits holds of every character of a written colour. -/
theorem Spells.forall_mem {pair : Char → Char → Nat → Prop} {colour : Rgb} {chars : List Char}
    {holds : Char → Prop} (spells : Spells pair colour chars) (mark : holds '#')
    (two : ∀ first second value, pair first second value → holds first ∧ holds second)
    (one : ∀ char value, IsDigit char value → holds char) : ∀ char ∈ chars, holds char := by
  cases spells with
  | long red green blue =>
    obtain ⟨red1, red2⟩ := two _ _ _ red
    obtain ⟨green1, green2⟩ := two _ _ _ green
    obtain ⟨blue1, blue2⟩ := two _ _ _ blue
    simp only [List.mem_cons, List.not_mem_nil, or_false]
    rintro char (rfl | rfl | rfl | rfl | rfl | rfl | rfl) <;> assumption
  | short red green blue =>
    obtain ⟨_, isRed, -⟩ := red
    obtain ⟨_, isGreen, -⟩ := green
    obtain ⟨_, isBlue, -⟩ := blue
    simp only [List.mem_cons, List.not_mem_nil, or_false]
    rintro char (rfl | rfl | rfl | rfl)
    · exact mark
    · exact one _ _ isRed
    · exact one _ _ isGreen
    · exact one _ _ isBlue

/-- A colour may be written in another way if its long form may. -/
theorem Spells.mono {pair other : Char → Char → Nat → Prop} {colour : Rgb} {chars : List Char}
    (spells : Spells pair colour chars)
    (also : ∀ first second value, first ∈ chars → pair first second value →
      other first second value) : Spells other colour chars := by
  cases spells with
  | long red green blue =>
    exact .long (also _ _ _ (by simp) red) (also _ _ _ (by simp) green) (also _ _ _ (by simp) blue)
  | short red green blue => exact .short red green blue

/-- The text is written for the colour, with blanks around it. -/
def Spelled (pair : Char → Char → Nat → Prop) (text : String) (colour : Rgb) : Prop :=
  ∃ chars, Text.Surrounds text.toList chars ∧ Spells pair colour chars

variable (text : String) (colour : Rgb)

/-- The colour of a text is the one it is written for, if a plus sign may stand for the first of
two digits. -/
theorem ofText?_eq_some_iff : ofText? text = some colour ↔ Spelled SignedDigits text colour := by
  constructor
  · intro read
    refine ⟨Text.trim text.toList, Text.surrounds_trim text.toList, ?_⟩
    unfold ofText? at read
    split at read
    · rename_i digits trimmed
      rw [trimmed]
      exact (ofDigits?_eq_some_iff digits colour).mp read
    · contradiction
  · rintro ⟨chars, surrounds, spells⟩
    have solid : ∀ char ∈ chars, Text.isBlank char = false :=
      spells.forall_mem (by decide) (fun _ _ _ => SignedDigits.solid) fun _ _ digit => digit.solid.1
    obtain ⟨digits, rfl⟩ : ∃ digits, chars = '#' :: digits := by
      cases spells <;> exact ⟨_, rfl⟩
    rw [ofText?, surrounds.trim (List.cons_ne_nil _ _) solid]
    exact (ofDigits?_eq_some_iff digits colour).mpr spells

/-- Where two digits are written for each channel of the long form, there is no plus sign. -/
theorem Spelled.unsigned {text : String} {colour : Rgb} (spelled : Spelled TwoDigits text colour) :
    '+' ∉ text.toList := by
  obtain ⟨chars, ⟨before, after, whole, blankBefore, blankAfter⟩, spells⟩ := spelled
  have inside : ∀ char ∈ chars, char ≠ '+' :=
    spells.forall_mem (by decide) (fun _ _ _ => TwoDigits.unsigned) fun _ _ digit => digit.solid.2
  have outside (blanks : List Char) (blank : ∀ char ∈ blanks, Text.isBlank char = true) :
      '+' ∉ blanks := by
    intro among
    have refuted : Text.isBlank '+' = false := by decide
    rw [blank '+' among] at refuted
    contradiction
  rw [whole, List.mem_append, List.mem_append]
  rintro ((among | among) | among)
  · exact outside before blankBefore among
  · exact inside '+' among rfl
  · exact outside after blankAfter among

/-- A text that is written with two digits is one without a plus sign among those that are
read. -/
theorem spelled_twoDigits_iff :
    Spelled TwoDigits text colour ↔ Spelled SignedDigits text colour ∧ '+' ∉ text.toList := by
  constructor
  · intro spelled
    refine ⟨?_, spelled.unsigned⟩
    obtain ⟨chars, surrounds, spells⟩ := spelled
    exact ⟨chars, surrounds, spells.mono fun _ _ _ _ digits => .inl digits⟩
  · rintro ⟨⟨chars, surrounds, spells⟩, unsigned⟩
    refine ⟨chars, surrounds, spells.mono ?_⟩
    intro first second value among digits
    obtain ⟨before, after, whole, -⟩ := surrounds
    apply digits.twoDigits
    rintro rfl
    apply unsigned
    rw [whole]
    exact List.mem_append_left _ (List.mem_append_right _ among)

/-- The short form is written for the same colour as the long form with each digit doubled. -/
theorem spells_doubled_iff (r g b : Char) :
    Spells TwoDigits colour ['#', r, g, b] ↔
      Spells TwoDigits colour ['#', r, r, g, g, b, b] := by
  constructor
  · rintro (_ | ⟨red, green, blue⟩)
    exact .long ((oneDigit_iff _ _).mp red) ((oneDigit_iff _ _).mp green)
      ((oneDigit_iff _ _).mp blue)
  · rintro (⟨red, green, blue⟩ | _)
    exact .short ((oneDigit_iff _ _).mpr red) ((oneDigit_iff _ _).mpr green)
      ((oneDigit_iff _ _).mpr blue)

/-- A text without blanks is written for what its characters are written for. -/
theorem spelled_ofList {pair : Char → Char → Nat → Prop} {chars : List Char}
    (spells : Spells pair colour chars) : Spelled pair (String.ofList chars) colour := by
  refine ⟨chars, ⟨[], [], ?_, List.forall_mem_nil _, List.forall_mem_nil _⟩, spells⟩
  rw [String.toList_ofList, List.nil_append, List.append_nil]

/-- A text is read if it has a colour, and is given back if it has none. -/
theorem read_cases :
    (read text = .ok colour ↔ ofText? text = some colour) ∧
      ∀ failure, read text = .error failure ↔
        failure = .invalidColour text ∧ ofText? text = none := by
  unfold read
  cases ofText? text with
  | none => simp [eq_comm]
  | some other => simp

/-- The texts that are written with three or six digits for a colour are those that are read as
it and have no plus sign. All that is read is written with digits, in the long form perhaps with
plus signs for the first digits of channels. Every other text is refused and given back as it
is. The short form is read as the same colour as the long form with each digit doubled. -/
theorem read_written (text : String) (colour : Rgb) :
    (Spelled TwoDigits text colour ↔ read text = .ok colour ∧ '+' ∉ text.toList) ∧
      (Spelled SignedDigits text colour ↔ read text = .ok colour) ∧
      (∀ failure, read text = .error failure ↔
        failure = .invalidColour text ∧ ∀ other, ¬ Spelled SignedDigits text other) ∧
      ∀ r g b, Spells TwoDigits colour ['#', r, g, b] →
        read (String.ofList ['#', r, g, b]) = .ok colour ∧
          read (String.ofList ['#', r, r, g, g, b, b]) = .ok colour := by
  have readable (text : String) (colour : Rgb) :
      Spelled SignedDigits text colour ↔ read text = .ok colour := by
    rw [(read_cases text colour).1, ofText?_eq_some_iff]
  refine ⟨?_, readable text colour, ?_, ?_⟩
  · rw [spelled_twoDigits_iff, readable]
  · intro failure
    rw [(read_cases text colour).2 failure, Option.eq_none_iff_forall_ne_some]
    simp only [ne_eq, ofText?_eq_some_iff]
  · intro r g b short
    have long := (spells_doubled_iff colour r g b).mp short
    have lenient {chars : List Char} (spells : Spells TwoDigits colour chars) :
        read (String.ofList chars) = .ok colour :=
      (readable _ _).mp
        (spelled_ofList colour (spells.mono fun _ _ _ _ digits => .inl digits))
    exact ⟨lenient short, lenient long⟩

/-- A short text is read, and so is the long one for the same colour. -/
theorem read_written_short : Spells TwoDigits ⟨0, 255, 136⟩ ['#', '0', 'f', '8'] ∧
    read "#0f8" = .ok ⟨0, 255, 136⟩ ∧ read "#00ff88" = .ok ⟨0, 255, 136⟩ := by
  have spells : Spells TwoDigits ⟨0, 255, 136⟩ ['#', '0', 'f', '8'] :=
    .short ⟨0, by decide, rfl⟩ ⟨15, by decide, rfl⟩ ⟨8, by decide, rfl⟩
  obtain ⟨-, -, -, doubled⟩ := read_written "#0f8" ⟨0, 255, 136⟩
  exact ⟨spells, doubled _ _ _ spells⟩

/-- Plus signs for the first digits of all channels are taken for a colour, although no colour
is written so. -/
theorem read_signed : read "#+f+f+f" = .ok ⟨15, 15, 15⟩ ∧
    ∀ colour, ¬ Spelled TwoDigits "#+f+f+f" colour := by
  refine ⟨(read_cases _ _).1.mpr (by decide +kernel), ?_⟩
  intro colour spelled
  have signed : '+' ∈ "#+f+f+f".toList := by decide
  exact spelled.unsigned signed

end Config.Rgb

end DatasetPicker
