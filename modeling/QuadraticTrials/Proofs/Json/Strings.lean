import Mathlib
import QuadraticTrials.Json.Value

/-!
Strings read back. Whatever characters a string has, its quoted text is read to it.
-/

namespace QuadraticTrials

namespace Tree

open Json

-----------------------------------------------------------------------------------------
-- Escapes
-----------------------------------------------------------------------------------------

/-- How a character is written: behind a backslash, as a unit, or as it is. -/
inductive Escapes (c : Char) : List Char → Prop
  | letter {letter : Char} (plain : letter ≠ 'u') (known : escaped? letter = some c)
    : Escapes c ['\\', letter]
  | unit (control : c.toNat < 0x20)
    : Escapes c ['\\', 'u', '0', '0', hexChar (c.toNat / 16), hexChar c.toNat]
  | plain (visible : ¬c.toNat < 0x20) (unquoted : c ≠ '"') (unescaped : c ≠ '\\') : Escapes c [c]

/-- Every character is written in one of these ways, by cases on the letters that have an escape. -/
theorem escapes_escape (c : Char) : Escapes c (escape c) := by
  unfold escape
  split
  case h_8 quote backslash _ _ _ _ _ =>
    by_cases control : c.toNat < 0x20
    · rw [if_pos control]
      exact .unit control
    · rw [if_neg control]
      exact .plain control quote backslash
  all_goals exact .letter (by decide) rfl

-----------------------------------------------------------------------------------------
-- Pieces
-----------------------------------------------------------------------------------------

/-- The pieces that stand for a character. -/
inductive PieceOf (c : Char) : Piece → Prop
  | char : PieceOf c (.char c)
  | unit (control : c.toNat < 0x20) : PieceOf c (.unit c.toNat)

/-- The unit that a control character is written as, by trying them all. -/
theorem hexUnit?_hexChar {n : Nat} (control : n < 0x20)
    : hexUnit? '0' '0' (hexChar (n / 16)) (hexChar n) = some n := by
  decide +revert

/-- A written character is read to one piece that stands for it, by cases on how it is written. -/
theorem readPieces_escapes {c : Char} {written : List Char} (escapes : Escapes c written)
    : ∃ piece,
        PieceOf c piece
          ∧ ∀ rest,
              readPieces (written ++ rest)
                = (readPieces rest).map fun (pieces, rest) => (piece :: pieces, rest) := by
  cases escapes with
  | @letter letter plain known =>
      refine ⟨.char c, .char, fun rest => ?_⟩
      rw [List.cons_append, List.cons_append, List.nil_append, readPieces, known]
      case x_1 => exact fun _ _ _ _ _ same => absurd same plain
      cases readPieces rest <;> rfl
  | unit control =>
      refine ⟨.unit c.toNat, .unit control, fun rest => ?_⟩
      simp only [List.cons_append, List.nil_append, readPieces, hexUnit?_hexChar control]
      cases readPieces rest <;> rfl
  | plain visible unquoted unescaped =>
      refine ⟨.char c, .char, fun rest => ?_⟩
      simp [readPieces, visible, unescaped]

/-- A unit below the surrogates is a character of its own, by cases on what follows. -/
theorem joinPieces_unit {n : Nat} (below : n < 0xD800) (pieces : List Piece)
    : joinPieces (.unit n :: pieces) = (joinPieces pieces).map (Char.ofNat n :: ·) := by
  have leading : isLeading n = false := by simp [isLeading, below]
  have trailing : isTrailing n = false := by
    simp only [isTrailing, Bool.and_eq_false_iff, decide_eq_false_iff_not]
    omega
  cases pieces with
  | nil => simp [joinPieces, leading, trailing]
  | cons piece pieces => cases piece <;> simp [joinPieces, leading, trailing]

/-- Pieces that stand for characters are joined to them, since no control character is half of a
surrogate pair.
-/
theorem joinPieces_of_forall₂ {cs : List Char} {pieces : List Piece}
    (stand : List.Forall₂ PieceOf cs pieces)
    : joinPieces pieces = some cs := by
  induction stand with
  | nil => rfl
  | @cons c piece cs pieces first _ ih =>
      cases first with
      | char => simp [joinPieces, ih]
      | unit control =>
          rw [joinPieces_unit (control.trans (by decide)), ih, Option.map_some, Char.ofNat_toNat]

-----------------------------------------------------------------------------------------
-- Strings
-----------------------------------------------------------------------------------------

/-- The written characters of a string are read up to its closing quote, by induction on them. -/
theorem readPieces_flatMap_escape (cs : List Char) (rest : List Char)
    : ∃ pieces,
        List.Forall₂ PieceOf cs pieces
          ∧ readPieces (cs.flatMap escape ++ '"' :: rest) = some (pieces, rest) := by
  induction cs with
  | nil => exact ⟨[], .nil, rfl⟩
  | cons c cs ih =>
      obtain ⟨pieces, stand, read⟩ := ih
      obtain ⟨piece, first, reads⟩ := readPieces_escapes (escapes_escape c)
      refine ⟨piece :: pieces, .cons first stand, ?_⟩
      rw [List.flatMap_cons, List.append_assoc, reads, read]
      rfl

/-- A quoted string is read to the string after its opening quote. -/
theorem readText_flatMap_escape (s : String) (rest : List Char)
    : readText (s.toList.flatMap escape ++ '"' :: rest) = some (some s, rest) := by
  obtain ⟨pieces, stand, read⟩ := readPieces_flatMap_escape s.toList rest
  simp only [readText, read, Option.map_some, joinPieces_of_forall₂ stand, String.ofList_toList]

end Tree

end QuadraticTrials
