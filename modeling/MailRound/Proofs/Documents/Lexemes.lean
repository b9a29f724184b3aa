import MailRound.Json.Print
import MailRound.Proofs.Documents.Grammar
import MailRound.Proofs.Documents.Values

namespace MailRound.Json

theorem isDigit_toDigits {n : Nat} {c : Char} (among : c ∈ Nat.toDigits 10 n) : isDigit c = true :=
  Nat.isDigit_of_mem_toDigits (by decide) (by decide) among

theorem takeSignificand_of_lt {acc : Nat} {ds : List Char}
    (fits : Nat.ofDigitChars 10 ds acc < wordBound) :
    takeSignificand acc ds = (Nat.ofDigitChars 10 ds acc, ds.length, 0) := by
  induction ds generalizing acc with
  | nil => simp [takeSignificand]
  | cons c cs ih =>
    have same : acc * 10 + (c.toNat - 48) = 10 * acc + (c.toNat - '0'.toNat) := by
      rw [Nat.mul_comm]
      rfl
    rw [Nat.ofDigitChars_cons] at fits ⊢
    have less : 10 * acc + (c.toNat - '0'.toNat) < wordBound := by
      have grows : Nat.ofDigitChars 10 cs (10 * acc + (c.toNat - '0'.toNat)) = _ :=
        Nat.ofDigitChars_eq_ofDigitChars_zero
      have power : 0 < 10 ^ cs.length := Nat.pow_pos (by decide)
      have := Nat.le_mul_of_pos_left (10 * acc + (c.toNat - '0'.toNat)) power
      omega
    rw [takeSignificand, same, if_pos less, ih fits]
    rfl

theorem takeSignificand_toDigits {n : Nat} (fits : n < wordBound) :
    takeSignificand 0 (Nat.toDigits 10 n) = (n, (Nat.toDigits 10 n).length, 0) := by
  have same : Nat.ofDigitChars 10 (Nat.toDigits 10 n) 0 = n :=
    Nat.ofDigitChars_toDigits (by decide) (by decide)
  rw [takeSignificand_of_lt (by rwa [same]), same]

theorem head?_toDigits_ne_zero {n : Nat} (pos : 0 < n) :
    (Nat.toDigits 10 n).head? ≠ some '0' := by
  induction n using Nat.strongRecOn with
  | ind n ih =>
    rw [Nat.toDigits_eq_if (by decide)]
    split
    · simp
      omega
    · have before := ih (n / 10) (by omega) (by omega)
      cases ds : Nat.toDigits 10 (n / 10) with
      | nil => exact absurd ds Nat.toDigits_ne_nil
      | cons d ds' => simpa [ds] using before

theorem wholeDigits_toDigits (n : Nat) : WholeDigits (Nat.toDigits 10 n) where
  nonempty := Nat.toDigits_ne_nil
  all _ among := isDigit_toDigits among
  lean zero := by
    obtain rfl | pos := Nat.eq_zero_or_pos n
    · exact Nat.toDigits_zero 10
    · exact absurd zero (head?_toDigits_ne_zero pos)

/-- The value of digits that are a number of a word. -/
theorem value_toDigits {n : Nat} (fits : n < wordBound) :
    (Numeral.mk false (Nat.toDigits 10 n) none none).value = .ok (.int n) := by
  unfold Numeral.value
  rw [takeSignificand_toDigits fits]
  rfl

theorem value_toDigits_negative {n : Nat} (pos : 0 < n) (fits : n ≤ Text.limit63) :
    (Numeral.mk true (Nat.toDigits 10 n) none none).value = .ok (.int (-n)) := by
  have within : n < wordBound := Nat.lt_of_le_of_lt fits (by decide)
  have small : ¬(n = 0 ∨ Text.limit63 < n) := by omega
  unfold Numeral.value
  rw [takeSignificand_toDigits within]
  simp [small]

theorem spells_int {n : Int} (wide : Wide n) :
    Spells (.value (toNode (.int n))) (Text.decimalInt n).toList := by
  obtain ⟨low, high⟩ := wide
  have unsigned (negative : Bool) : SpellsUnsigned negative
      ⟨negative, Nat.toDigits 10 n.natAbs, none, none⟩ (Text.decimal n.natAbs).toList := by
    simpa [Text.decimal] using
      @SpellsUnsigned.mk negative _ _ _ _ _ (wholeDigits_toDigits n.natAbs) .none .none
  unfold Text.decimalInt toNode
  split_ifs with negative
  · have value := value_toDigits_negative (n := n.natAbs) (by omega) (by omega)
    rw [show (-(n.natAbs : Int)) = n by omega] at value
    rw [String.toList_append, ← value]
    exact .number (.negative (unsigned true))
  · have value := value_toDigits (n := n.natAbs) (by unfold wordBound; omega)
    rw [show (n.natAbs : Int) = n by omega] at value
    rw [← value]
    exact .number (.positive (unsigned false))

def Stands (c : Char) (piece : StringPiece) : Prop :=
  piece = .char c ∨ piece = .unit c.toNat ∧ c.toNat < 0x20

theorem hexUnit?_hexPadded (n : Fin 32) : (match hexPadded n with
    | [a, b, c, d] => hexUnit? a b c d
    | _ => none) = some n.val := by
  revert n
  decide

theorem spellsPiece_escapeChar (c : Char) :
    ∃ piece, Stands c piece ∧ SpellsPiece piece (escapeChar c) := by
  have simple {e d : Char} (same : c = d) (known : simpleEscape? e = some d) :
      ∃ piece, Stands c piece ∧ SpellsPiece piece ['\\', e] :=
    ⟨_, .inl rfl, same ▸ .escaped known⟩
  unfold escapeChar
  split_ifs with quote back line turn tab backspace feed control
  · exact simple quote rfl
  · exact simple back rfl
  · exact simple line rfl
  · exact simple turn rfl
  · exact simple tab rfl
  · exact simple backspace rfl
  · exact simple feed rfl
  · have unit := hexUnit?_hexPadded ⟨c.toNat, control⟩
    dsimp only at unit
    split at unit
    · rename_i x y z w padded
      rw [padded]
      exact ⟨_, .inr ⟨rfl, control⟩, .unit unit⟩
    · cases unit
  · exact ⟨_, .inl rfl, .plain (Nat.not_lt.1 control) quote back⟩

/-- A piece of a string that ends well is decoded by itself: there are no halves of pairs. -/
theorem decodePieces_cons {c : Char} {piece : StringPiece} {last : StringEnd}
    (stands : Stands c piece) (well : last.fault = none) (ps : List StringPiece) :
    decodePieces last (piece :: ps) = (decodePieces last ps).map (c :: ·) := by
  obtain rfl | ⟨rfl, control⟩ := stands
  · rfl
  · have low : ¬(0xDC00 ≤ c.toNat ∧ c.toNat ≤ 0xDFFF) := by omega
    have high : ¬(0xD800 ≤ c.toNat ∧ c.toNat ≤ 0xDBFF) := by omega
    cases ps with
    | nil => simp [decodePieces, low, high, well, Except.map, Char.ofNat_toNat]
    | cons next ps =>
      cases next with
      | char d =>
        simp only [decodePieces, low, high, if_false, Char.ofNat_toNat]
        cases decodePieces last ps <;> rfl
      | unit m => simp only [decodePieces, low, high, if_false, Char.ofNat_toNat]

theorem spellsPieces_written (cs : List Char) : ∃ ps, SpellsPieces ps (cs.flatMap escapeChar) ∧
    decodePieces (.closed []) ps = .ok cs := by
  induction cs with
  | nil => exact ⟨[], .nil, rfl⟩
  | cons c cs ih =>
    obtain ⟨ps, spelled, decoded⟩ := ih
    obtain ⟨piece, stands, first⟩ := spellsPiece_escapeChar c
    refine ⟨piece :: ps, .cons first spelled, ?_⟩
    rw [decodePieces_cons stands rfl, decoded]
    rfl

theorem toList_printText (s : String) :
    (printText s).toList = '"' :: (s.toList.flatMap escapeChar ++ ['"']) := by
  simp [printText]

theorem spellsString_printText (s : String) :
    SpellsString ⟨.ok s, none⟩ (printText s).toList := by
  obtain ⟨ps, spelled, decoded⟩ := spellsPieces_written s.toList
  have token : Quoted.ofPieces ps = ⟨.ok s, none⟩ := by
    simp [Quoted.ofPieces, decoded, Except.map]
  rw [toList_printText, ← token]
  exact .mk spelled

end MailRound.Json
