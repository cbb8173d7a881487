import DatasetPicker.Json.Reader
import DatasetPicker.Json.Writer
import Mathlib.Data.List.Forall2

/-!
# Strings read back

A written character is an escape or stands for itself, and it is read as one piece. The pieces
of a written string spell its text again, and what follows the closing quote is left. No escape
holds a break of a line, so a written string stands on one line.
-/

namespace DatasetPicker.Json

/-! ## Characters -/

/-- The ways to write a character: an escape of one letter, the number of a control, or the
character itself. -/
inductive Escaped (char : Char) : List Char → Prop where
  | letter (letter : Char) (named : escaped? letter = some char) : Escaped char ['\\', letter]
  | control (low : char.toNat < 0x20) :
      Escaped char
        ['\\', 'u', '0', '0', hexDigit (char.toNat / 16), hexDigit (char.toNat % 16)]
  | itself (quote : char ≠ '"') (backslash : char ≠ '\\') (high : ¬ char.toNat < 0x20) :
      Escaped char [char]

/-- A character is written in one of these ways. -/
theorem escape_escaped (char : Char) : Escaped char (escape char) := by
  by_cases short : char ∈ ['"', '\\', '\x08', '\t', '\n', '\x0c', '\r']
  · simp only [List.mem_cons, List.not_mem_nil, or_false] at short
    obtain rfl | rfl | rfl | rfl | rfl | rfl | rfl := short <;> exact .letter _ rfl
  · simp only [List.mem_cons, List.not_mem_nil, or_false, not_or] at short
    obtain ⟨quote, backslash, back, tab, line, page, carriage⟩ := short
    unfold escape
    rw [if_neg quote, if_neg backslash, if_neg back, if_neg tab, if_neg line, if_neg page,
      if_neg carriage]
    by_cases low : char.toNat < 0x20
    · rw [if_pos low]
      exact .control low
    · rw [if_neg low]
      exact .itself quote backslash low

/-- The four hexadecimal digits of a control are its number. -/
theorem hexUnit?_control : ∀ value < 0x20,
    hexUnit? '0' '0' (hexDigit (value / 16)) (hexDigit (value % 16)) = some value := by
  decide

/-- The piece spells the character: it is the character, or the number of a control. -/
inductive Spells : Piece → Char → Prop where
  | char (char : Char) : Spells (.char char) char
  | control (char : Char) (low : char.toNat < 0x20) : Spells (.unit char.toNat) char

/-- However a character is written, it is read as a piece that spells it. -/
theorem Escaped.exists_spells {char : Char} {written : List Char}
    (escaped : Escaped char written) :
    ∃ piece, Spells piece char ∧ ∀ rest, pieces? (written ++ rest) =
      (pieces? rest).map fun (pieces, rest) => (piece :: pieces, rest) := by
  cases escaped with
  | letter letter named =>
    refine ⟨.char char, .char char, ?_⟩
    intro rest
    change pieces? ('\\' :: letter :: rest) = _
    rw [pieces?, named]
    · cases pieces? rest <;> rfl
    · rintro a b c d tail rfl rfl
      contradiction
  | control low =>
    refine ⟨.unit char.toNat, .control char low, ?_⟩
    intro rest
    change pieces? ('\\' :: 'u' :: '0' :: '0' :: _ :: _ :: rest) = _
    rw [pieces?, hexUnit?_control char.toNat low]
    cases pieces? rest <;> rfl
  | itself quote backslash high =>
    refine ⟨.char char, .char char, ?_⟩
    intro rest
    change pieces? (char :: rest) = _
    rw [pieces?, if_neg (not_or.mpr ⟨backslash, high⟩)]
    · cases pieces? rest <;> rfl
    · exact quote
    · exact fun _ _ _ _ _ same _ => backslash same
    · exact fun _ _ same _ => backslash same

/-- However a character is written, it does not break the line. -/
theorem Escaped.unbroken {char : Char} {written : List Char} (escaped : Escaped char written) :
    '\n' ∉ written := by
  cases escaped with
  | letter letter named =>
    have named : letter ≠ '\n' := by
      rintro rfl
      contradiction
    simp [named.symm]
  | control low =>
    have digits : ∀ value < 0x20,
        '\n' ∉ ['\\', 'u', '0', '0', hexDigit (value / 16), hexDigit (value % 16)] := by
      decide
    exact digits char.toNat low
  | itself quote backslash high =>
    have other : char ≠ '\n' := by
      rintro rfl
      exact high (by decide)
    simp [other.symm]

/-! ## Texts -/

/-- A control at the head spells itself, whatever unit may follow. -/
theorem spell?_control (char : Char) (low : char.toNat < 0x20) (pieces : List Piece) :
    spell? (.unit char.toNat :: pieces) = (spell? pieces).map (char :: ·) := by
  have lone : isHigh char.toNat = false ∧ isLow char.toNat = false := by
    simp only [isHigh, isLow, Bool.and_eq_false_iff, decide_eq_false_iff_not]
    omega
  have same : Char.ofNat char.toNat = char := Char.ofNat_toNat char
  cases pieces with
  | nil => simp [spell?, lone, same]
  | cons piece rest => cases piece <;> simp [spell?, lone, same]

/-- Pieces that spell the characters of a text spell the text. -/
theorem spell?_spells {pieces : List Piece} {chars : List Char}
    (spells : List.Forall₂ Spells pieces chars) : spell? pieces = some chars := by
  induction spells with
  | nil => rfl
  | cons spell _ ih =>
    cases spell with
    | char => rw [spell?, ih, Option.map_some]
    | control _ low => rw [spell?_control _ low, ih, Option.map_some]

/-- A written text is read up to its closing quote as pieces that spell it. -/
theorem pieces?_escapes (chars : List Char) :
    ∃ pieces, List.Forall₂ Spells pieces chars ∧
      ∀ rest, pieces? (chars.flatMap escape ++ '"' :: rest) = some (pieces, rest) := by
  induction chars with
  | nil => exact ⟨[], .nil, fun rest => rfl⟩
  | cons char chars ih =>
    obtain ⟨piece, spells, reads⟩ := (escape_escaped char).exists_spells
    obtain ⟨pieces, spell, readsOn⟩ := ih
    refine ⟨piece :: pieces, .cons spells spell, ?_⟩
    intro rest
    rw [List.flatMap_cons, List.append_assoc, reads, readsOn, Option.map_some]

/-- Behind its opening quote, a written string is read as its text, and the rest is left. -/
theorem string?_writeString (content : String) :
    ∃ body, writeString content = '"' :: body ∧
      ∀ rest, string? (body ++ rest) = some (some content, rest) := by
  refine ⟨content.toList.flatMap escape ++ ['"'], rfl, ?_⟩
  intro rest
  obtain ⟨pieces, spells, reads⟩ := pieces?_escapes content.toList
  rw [List.append_assoc]
  change string? (_ ++ '"' :: rest) = _
  rw [string?, reads, Option.map_some]
  simp only [spell?_spells spells, Option.map_some, String.ofList_toList]

/-- A written string does not break the line. -/
theorem writeString_unbroken (content : String) : '\n' ∉ writeString content := by
  intro broken
  simp only [writeString, List.cons_append, List.mem_cons, List.mem_append, List.mem_flatMap,
    List.not_mem_nil, or_false] at broken
  obtain opened | ⟨char, -, inside⟩ | closed := broken
  · contradiction
  · exact (escape_escaped char).unbroken inside
  · contradiction

end DatasetPicker.Json
