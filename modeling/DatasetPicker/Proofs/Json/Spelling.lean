import DatasetPicker.Proofs.Json.Written

/-!
# Spelled strings and numbers

The grammar of strings and numbers: of a string every piece is a character that stands for
itself or an escape, and a number is a row of digits without a zero in front, perhaps with a
fraction and an exponent. A reader takes just such texts, and it takes the whole number where
none goes on.
-/

namespace DatasetPicker.Json

/-! ## Strings -/

/-- The ways to spell a piece of a string. -/
inductive PieceText : Piece → List Char → Prop where
  | char {char : Char} (quote : char ≠ '"') (backslash : char ≠ '\\')
      (high : ¬ char.toNat < 0x20) : PieceText (.char char) [char]
  | letter {letter char : Char} (named : escaped? letter = some char) :
      PieceText (.char char) ['\\', letter]
  | unit {a b c d : Char} {value : Nat} (digits : hexUnit? a b c d = some value) :
      PieceText (.unit value) ['\\', 'u', a, b, c, d]

/-- A spelled piece is read as this piece. -/
theorem PieceText.read {piece : Piece} {text : List Char} (spelled : PieceText piece text)
    (rest : List Char) :
    pieces? (text ++ rest) =
      (pieces? rest).map fun (pieces, left) => (piece :: pieces, left) := by
  cases spelled with
  | @char char quote backslash high =>
    change pieces? (char :: rest) = _
    rw [pieces?, if_neg (not_or.mpr ⟨backslash, high⟩)]
    · cases pieces? rest <;> rfl
    · exact quote
    · exact fun _ _ _ _ _ same _ => backslash same
    · exact fun _ _ same _ => backslash same
  | @letter letter char named =>
    change pieces? ('\\' :: letter :: rest) = _
    rw [pieces?, named]
    · cases pieces? rest <;> rfl
    · -- An escape by number is spelled with `u`, which names no escape.
      rintro a b c d tail rfl rfl
      contradiction
  | @unit a b c d value digits =>
    change pieces? ('\\' :: 'u' :: a :: b :: c :: d :: rest) = _
    rw [pieces?, digits]
    cases pieces? rest <;> rfl

/-- Pieces are read from just the texts in which each of them is spelled before the quote. -/
theorem pieces?_eq_some_iff {chars rest : List Char} {pieces : List Piece} :
    pieces? chars = some (pieces, rest) ↔
      ∃ parts, List.Forall₂ PieceText pieces parts ∧ chars = parts.flatten ++ '"' :: rest := by
  constructor
  · intro read
    fun_induction pieces? chars generalizing pieces with
    | case1 => contradiction
    | case2 tail =>
      cases read
      exact ⟨[], .nil, rfl⟩
    | case3 a b c d tail ih =>
      obtain ⟨value, digits, read⟩ := Option.bind_eq_some_iff.mp read
      obtain ⟨⟨others, left⟩, onward, read⟩ := Option.bind_eq_some_iff.mp read
      cases read
      obtain ⟨parts, spelled, rfl⟩ := ih onward
      exact ⟨_, .cons (.unit digits) spelled, rfl⟩
    | case4 letter tail other ih =>
      obtain ⟨char, named, read⟩ := Option.bind_eq_some_iff.mp read
      obtain ⟨⟨others, left⟩, onward, read⟩ := Option.bind_eq_some_iff.mp read
      cases read
      obtain ⟨parts, spelled, rfl⟩ := ih onward
      exact ⟨_, .cons (.letter named) spelled, rfl⟩
    | case5 char tail => contradiction
    | case6 char tail quote unicode letter plain ih =>
      obtain ⟨⟨others, left⟩, onward, read⟩ := Option.bind_eq_some_iff.mp read
      cases read
      obtain ⟨parts, spelled, rfl⟩ := ih onward
      obtain ⟨backslash, high⟩ := not_or.mp plain
      exact ⟨_, .cons (.char quote backslash high) spelled, rfl⟩
  · rintro ⟨parts, spelled, rfl⟩
    induction spelled with
    | nil => rfl
    | cons piece _ ih => rw [List.flatten_cons, List.append_assoc, piece.read, ih, Option.map_some]

/-- The text of a string behind its opening quote. -/
def StringText (content : Content) (text : List Char) : Prop :=
  ∃ pieces parts, List.Forall₂ PieceText pieces parts ∧
    content = (spell? pieces).map String.ofList ∧ text = parts.flatten ++ ['"']

/-- A string is read from just the texts that spell it. -/
theorem string?_eq_some_iff {chars rest : List Char} {content : Content} :
    string? chars = some (content, rest) ↔
      ∃ text, StringText content text ∧ chars = text ++ rest := by
  constructor
  · intro read
    obtain ⟨⟨pieces, left⟩, pieced, same⟩ := Option.map_eq_some_iff.mp read
    cases same
    obtain ⟨parts, spelled, rfl⟩ := pieces?_eq_some_iff.mp pieced
    exact ⟨_, ⟨pieces, parts, spelled, rfl, rfl⟩, by simp⟩
  · rintro ⟨text, ⟨pieces, parts, spelled, rfl, rfl⟩, rfl⟩
    have pieced : pieces? (parts.flatten ++ ['"'] ++ rest) = some (pieces, rest) :=
      pieces?_eq_some_iff.mpr ⟨parts, spelled, by simp⟩
    rw [string?, pieced]
    rfl

/-! ## Numbers -/

/-- A row of digits. -/
structure Digits (text : List Char) : Prop where
  nonempty : text ≠ []
  numeric : ∀ char ∈ text, isDigit char = true

/-- The ways to spell the digits of a fraction. -/
inductive FractionText : List Char → List Char → Prop where
  | absent : FractionText [] []
  | point {digits : List Char} (row : Digits digits) : FractionText digits ('.' :: digits)

/-- The ways to spell the sign of an exponent. -/
inductive SignText : Bool → List Char → Prop where
  | absent : SignText false []
  | plus : SignText false ['+']
  | minus : SignText true ['-']

/-- The ways to spell an exponent. -/
inductive ExponentText : Option Exponent → List Char → Prop where
  | absent : ExponentText none []
  | marked {mark : Char} {negative : Bool} {sign digits : List Char}
      (marks : mark = 'e' ∨ mark = 'E') (signed : SignText negative sign) (row : Digits digits) :
      ExponentText (some ⟨negative, digits⟩) (mark :: (sign ++ digits))

/-- The ways to spell a number behind its sign. A zero stands alone before the point. -/
structure NumeralText (numeral : Numeral) (text : List Char) : Prop where
  row : Digits numeral.whole
  zero : numeral.whole.head? = some '0' → numeral.whole = ['0']
  parts : ∃ fraction exponent, FractionText numeral.fraction fraction ∧
    ExponentText numeral.exponent exponent ∧ text = numeral.whole ++ (fraction ++ exponent)

/-- No digit is at the head of a text. -/
def Undigited (rest : List Char) : Prop := ∀ sign ∈ rest.head?, isDigit sign = false

/-- No number goes on at the head of a text. -/
def Ended (rest : List Char) : Prop :=
  ∀ sign ∈ rest.head?, isDigit sign = false ∧ sign ≠ '.' ∧ sign ≠ 'e' ∧ sign ≠ 'E'

variable {chars rest : List Char}

/-- Where no number goes on there is no digit. -/
theorem Ended.undigited (ended : Ended rest) : Undigited rest :=
  fun sign first => (ended sign first).1

/-- A row of digits is read up to the first sign that is none. -/
theorem Digits.read {digits : List Char} (row : Digits digits) (ends : Undigited rest) :
    digits? (digits ++ rest) = some (digits, rest) :=
  digits?_eq_some_iff.mpr ⟨rfl, row.nonempty, row.numeric, ends⟩

/-- What is read is a row of digits. -/
theorem exists_digits {digits : List Char} (read : digits? chars = some (digits, rest)) :
    Digits digits ∧ chars = digits ++ rest := by
  obtain ⟨whole, nonempty, numeric, -⟩ := digits?_eq_some_iff.mp read
  exact ⟨⟨nonempty, numeric⟩, whole⟩

/-- The digits before the point are read. -/
theorem Digits.read_whole {digits : List Char} (row : Digits digits)
    (zero : digits.head? = some '0' → digits = ['0']) (ends : Undigited rest) :
    whole? (digits ++ rest) = some (digits, rest) := by
  simp only [whole?, row.read ends, Option.bind_eq_bind, Option.bind_some]
  split
  · cases zero rfl
  · rfl

/-- What is read before the point is a row of digits, and a zero stands alone. -/
theorem exists_whole {digits : List Char} (read : whole? chars = some (digits, rest)) :
    Digits digits ∧ (digits.head? = some '0' → digits = ['0']) ∧ chars = digits ++ rest := by
  obtain ⟨⟨found, left⟩, numeric, read⟩ := Option.bind_eq_some_iff.mp read
  obtain ⟨row, whole⟩ := exists_digits numeric
  simp only at read
  split at read
  · contradiction
  · rename_i alone
    cases read
    refine ⟨row, ?_, whole⟩
    intro zero
    obtain ⟨digit, tail, rfl⟩ := List.exists_cons_of_ne_nil row.nonempty
    cases zero
    cases tail with
    | nil => rfl
    | cons second others => exact absurd rfl (alone second others)

/-- The digits of a fraction are read. -/
theorem FractionText.read {fraction text : List Char} (spelled : FractionText fraction text)
    (undigited : Undigited rest) (pointless : rest.head? ≠ some '.') :
    fraction? (text ++ rest) = some (fraction, rest) := by
  cases spelled with
  | absent =>
    rw [List.nil_append, fraction?]
    rintro tail rfl
    exact pointless rfl
  | point row => exact row.read undigited

/-- What is read behind a point spells a fraction. -/
theorem exists_fractionText {fraction : List Char}
    (read : fraction? chars = some (fraction, rest)) :
    ∃ text, FractionText fraction text ∧ chars = text ++ rest := by
  unfold fraction? at read
  split at read
  · obtain ⟨row, rfl⟩ := exists_digits read
    exact ⟨_, .point row, rfl⟩
  · cases read
    exact ⟨[], .absent, rfl⟩

/-- The sign of an exponent is read before a digit. -/
theorem SignText.read {negative : Bool} {text digits : List Char}
    (spelled : SignText negative text) (row : Digits digits) :
    exponentSign (text ++ (digits ++ rest)) = (negative, digits ++ rest) := by
  cases spelled with
  | plus => rfl
  | minus => rfl
  | absent =>
    obtain ⟨nonempty, numeric⟩ := row
    obtain ⟨digit, tail, rfl⟩ := List.exists_cons_of_ne_nil nonempty
    have first := numeric digit List.mem_cons_self
    rw [List.nil_append, List.cons_append, exponentSign]
    · rintro tail same
      rw [(List.cons.inj same).1] at first
      contradiction
    · rintro tail same
      rw [(List.cons.inj same).1] at first
      contradiction

/-- What is read before an exponent spells its sign. -/
theorem exists_signText (chars : List Char) :
    ∃ text, SignText (exponentSign chars).1 text ∧ chars = text ++ (exponentSign chars).2 := by
  unfold exponentSign
  split
  · exact ⟨_, .minus, rfl⟩
  · exact ⟨_, .plus, rfl⟩
  · exact ⟨_, .absent, rfl⟩

/-- An exponent is read. -/
theorem ExponentText.read {exponent : Option Exponent} {text : List Char}
    (spelled : ExponentText exponent text) (ended : Ended rest) :
    exponent? (text ++ rest) = some (exponent, rest) := by
  cases spelled with
  | absent =>
    rw [List.nil_append, exponent?]
    · rintro tail rfl
      exact (ended 'e' rfl).2.2.1 rfl
    · rintro tail rfl
      exact (ended 'E' rfl).2.2.2 rfl
  | @marked mark negative sign digits marks signed row =>
    have behind : (digits? (exponentSign (sign ++ (digits ++ rest))).2).map
        (fun found => (some (⟨(exponentSign (sign ++ (digits ++ rest))).1, found.1⟩ : Exponent),
          found.2)) = some (some ⟨negative, digits⟩, rest) := by
      rw [signed.read row, row.read ended.undigited]
      rfl
    rw [List.cons_append, List.append_assoc]
    obtain rfl | rfl := marks <;> exact behind

/-- What is read behind a mark spells an exponent. -/
theorem exists_exponentText {exponent : Option Exponent}
    (read : exponent? chars = some (exponent, rest)) :
    ∃ text, ExponentText exponent text ∧ chars = text ++ rest := by
  have marked {mark : Char} {tail : List Char} (marks : mark = 'e' ∨ mark = 'E')
      (behind : (digits? (exponentSign tail).2).map
        (fun found => (some (⟨(exponentSign tail).1, found.1⟩ : Exponent), found.2)) =
          some (exponent, rest)) :
      ∃ text, ExponentText exponent text ∧ mark :: tail = text ++ rest := by
    obtain ⟨⟨digits, left⟩, numeric, same⟩ := Option.map_eq_some_iff.mp behind
    cases same
    obtain ⟨row, digital⟩ := exists_digits numeric
    obtain ⟨sign, signed, whole⟩ := exists_signText tail
    refine ⟨_, .marked marks signed row, ?_⟩
    rw [List.cons_append, List.append_assoc, ← digital, ← whole]
  unfold exponent? at read
  split at read
  · exact marked (.inl rfl) read
  · exact marked (.inr rfl) read
  · cases read
    exact ⟨[], .absent, rfl⟩

/-- Neither a digit nor a point is at the head of an exponent before a text where no number goes
on. -/
theorem ExponentText.head {exponent : Option Exponent} {text : List Char}
    (spelled : ExponentText exponent text) (ended : Ended rest) :
    Undigited (text ++ rest) ∧ (text ++ rest).head? ≠ some '.' := by
  cases spelled with
  | absent => exact ⟨ended.undigited, fun first => (ended '.' first).2.1 rfl⟩
  | marked marks signed row =>
    obtain rfl | rfl := marks
    all_goals
      refine ⟨?_, nofun⟩
      rintro sign ⟨⟩
      rfl

/-- A spelled number is read where none goes on behind it. -/
theorem NumeralText.read {numeral : Numeral} {text : List Char}
    (spelled : NumeralText numeral text) (ended : Ended rest) :
    numeral? numeral.negative (text ++ rest) = some (numeral, rest) := by
  obtain ⟨negative, whole, digits, power⟩ := numeral
  obtain ⟨row, zero, fraction, exponent, fractional, exponential, rfl⟩ := spelled
  obtain ⟨undigited, pointless⟩ := exponential.head ended
  have behind : Undigited (fraction ++ (exponent ++ rest)) := by
    cases fractional with
    | absent => exact undigited
    | point _ =>
      rintro sign ⟨⟩
      rfl
  simp only [List.append_assoc, numeral?, row.read_whole zero behind,
    fractional.read undigited pointless, exponential.read ended, Option.bind_eq_bind,
    Option.bind_some]
  rfl

/-- A spelled number begins with a digit. -/
theorem NumeralText.begins {numeral : Numeral} {text : List Char}
    (spelled : NumeralText numeral text) :
    ∃ digit tail, text = digit :: tail ∧ isDigit digit = true := by
  obtain ⟨⟨nonempty, numeric⟩, -, fraction, exponent, -, -, rfl⟩ := spelled
  obtain ⟨digit, others, whole⟩ := List.exists_cons_of_ne_nil nonempty
  refine ⟨digit, others ++ (fraction ++ exponent), ?_, numeric digit ?_⟩
  · rw [whole, List.cons_append]
  · rw [whole]
    exact List.mem_cons_self

/-- What is read as a number spells it. -/
theorem exists_numeralText {negative : Bool} {numeral : Numeral}
    (read : numeral? negative chars = some (numeral, rest)) :
    numeral.negative = negative ∧ ∃ text, NumeralText numeral text ∧ chars = text ++ rest := by
  obtain ⟨⟨whole, left⟩, wholes, read⟩ := Option.bind_eq_some_iff.mp read
  obtain ⟨⟨fraction, left⟩, fractions, read⟩ := Option.bind_eq_some_iff.mp read
  obtain ⟨⟨exponent, left⟩, exponents, read⟩ := Option.bind_eq_some_iff.mp read
  cases read
  obtain ⟨row, zero, rfl⟩ := exists_whole wholes
  obtain ⟨fractionText, fractional, rfl⟩ := exists_fractionText fractions
  obtain ⟨exponentText, exponential, rfl⟩ := exists_exponentText exponents
  refine ⟨rfl, _, ⟨row, zero, _, _, fractional, exponential, rfl⟩, ?_⟩
  simp only [List.append_assoc]

end DatasetPicker.Json
