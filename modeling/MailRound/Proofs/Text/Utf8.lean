import MailRound.Text.Utf8
import Mathlib.Tactic.ByContra
import Mathlib.Tactic.SplitIfs

namespace MailRound.Text.Utf8

variable {low high code k : Nat} {b : UInt8} {bs : Bytes} {cs : List Char}

theorem pieces_cons (st : State) (b : UInt8) (bs : Bytes) :
    pieces st (b :: bs) = (step st b).1 ++ pieces (step st b).2 bs := rfl

theorem pieces_last (bs : Bytes) (least : low ≤ b.toNat) (most : b.toNat ≤ high) :
    pieces ⟨1, low, high, code⟩ (b :: bs) =
      .char (Char.ofNat (code * 0x40 + b.toNat % 0x40)) :: pieces .start bs := by
  simp [pieces_cons, step, least, most]

theorem pieces_more (bs : Bytes) (least : low ≤ b.toNat) (most : b.toNat ≤ high) :
    pieces ⟨k + 2, low, high, code⟩ (b :: bs) =
      pieces ⟨k + 1, 0x80, 0xBF, code * 0x40 + b.toNat % 0x40⟩ bs := by
  simp [pieces_cons, step, least, most]

/-- Where a byte is owed, a text goes on with one in the range. -/
theorem exists_of_collect_owed (read : collect? (pieces ⟨k + 1, low, high, code⟩ bs) = some cs) :
    ∃ b rest, bs = b :: rest ∧ low ≤ b.toNat ∧ b.toNat ≤ high := by
  cases bs with
  | nil => simp [pieces, collect?] at read
  | cons b rest =>
    refine ⟨b, rest, rfl, ?_⟩
    by_contra outside
    simp [pieces_cons, step, outside, collect?] at read

theorem exists_of_collect_char {c : Char} {ps : List Piece}
    (read : collect? (.char c :: ps) = some cs) : ∃ ds, cs = c :: ds ∧ collect? ps = some ds := by
  obtain ⟨ds, others, rfl⟩ := Option.map_eq_some_iff.1 read
  exact ⟨ds, rfl, others⟩

theorem exists_of_collect_last (read : collect? (pieces ⟨1, low, high, code⟩ bs) = some cs) :
    ∃ b rest ds, bs = b :: rest ∧ (low ≤ b.toNat ∧ b.toNat ≤ high) ∧
      cs = Char.ofNat (code * 0x40 + b.toNat % 0x40) :: ds ∧
      collect? (pieces .start rest) = some ds := by
  obtain ⟨b, rest, rfl, least, most⟩ := exists_of_collect_owed read
  rw [pieces_last rest least most] at read
  obtain ⟨ds, rfl, others⟩ := exists_of_collect_char read
  exact ⟨b, rest, ds, rfl, ⟨least, most⟩, rfl, others⟩

theorem exists_of_collect_more
    (read : collect? (pieces ⟨k + 2, low, high, code⟩ bs) = some cs) :
    ∃ b rest, bs = b :: rest ∧ (low ≤ b.toNat ∧ b.toNat ≤ high) ∧
      collect? (pieces ⟨k + 1, 0x80, 0xBF, code * 0x40 + b.toNat % 0x40⟩ rest) = some cs := by
  obtain ⟨b, rest, rfl, least, most⟩ := exists_of_collect_owed read
  rw [pieces_more rest least most] at read
  exact ⟨b, rest, rfl, ⟨least, most⟩, read⟩

theorem first_one (h : b.toNat < 0x80) : first b = ([.char (Char.ofNat b.toNat)], .start) := by
  simp [first, h]

theorem first_two (h : 0xC2 ≤ b.toNat ∧ b.toNat ≤ 0xDF) :
    first b = ([], ⟨1, 0x80, 0xBF, b.toNat % 0x20⟩) := by
  simp only [first]
  rw [if_neg (by omega), if_pos h]

/-- The second byte of a character of three keeps the shorter ones and the surrogates out. -/
theorem first_three (h : 0xE0 ≤ b.toNat ∧ b.toNat ≤ 0xEF) :
    first b = ([], ⟨2, if b.toNat = 0xE0 then 0xA0 else 0x80,
      if b.toNat = 0xED then 0x9F else 0xBF, b.toNat % 0x10⟩) := by
  simp only [first]
  rw [if_neg (by omega), if_neg (by omega)]
  split_ifs with least most <;> first | omega | simp [*]

/-- The second byte of a character of four keeps the shorter ones out, and what lies beyond Unicode.
-/
theorem first_four (h : 0xF0 ≤ b.toNat ∧ b.toNat ≤ 0xF4) :
    first b = ([], ⟨3, if b.toNat = 0xF0 then 0x90 else 0x80,
      if b.toNat = 0xF4 then 0x8F else 0xBF, b.toNat % 8⟩) := by
  simp only [first]
  rw [if_neg (by omega), if_neg (by omega), if_neg (by omega), if_neg (by omega), if_neg (by omega)]
  split_ifs with least most <;> first | omega | simp [*]

theorem first_broken (h : 0x80 ≤ b.toNat ∧ b.toNat < 0xC2 ∨ 0xF4 < b.toNat) :
    first b = ([.broken], .start) := by
  simp only [first]
  split_ifs <;> first | omega | rfl

theorem pieces_start (b : UInt8) (bs : Bytes) :
    pieces .start (b :: bs) = (first b).1 ++ pieces (first b).2 bs := rfl

theorem pieces_utf8EncodeChar (c : Char) (bs : Bytes) :
    pieces .start (String.utf8EncodeChar c ++ bs) = .char c :: pieces .start bs := by
  have back : Char.ofNat c.val.toNat = c := Char.ofNat_toNat c
  have valid := c.valid
  simp only [UInt32.isValidChar, Nat.isValidChar] at valid
  unfold String.utf8EncodeChar
  generalize c.val.toNat = v at back valid
  dsimp only
  split_ifs with one two three
  · have lead := UInt8.toNat_ofNat_of_lt' (show v < 256 by omega)
    rw [List.cons_append, pieces_start, first_one (by omega), lead, back]
    rfl
  · have lead := UInt8.toNat_ofNat_of_lt' (show v / 64 % 0x20 + 0xc0 < 256 by omega)
    have last := UInt8.toNat_ofNat_of_lt' (show v % 0x40 + 0x80 < 256 by omega)
    -- The marks of the bytes fall off, and the bits that are left are those of the character.
    have made : (v / 64 % 0x20 + 0xc0) % 0x20 * 0x40 + (v % 0x40 + 0x80) % 0x40 = v := by omega
    rw [List.cons_append, List.cons_append, pieces_start, first_two (by omega), List.nil_append,
      pieces_last _ (by omega) (by omega), lead, last, made, back]
    rfl
  · have lead := UInt8.toNat_ofNat_of_lt' (show v / 4096 % 0x10 + 0xe0 < 256 by omega)
    have next := UInt8.toNat_ofNat_of_lt' (show v / 64 % 0x40 + 0x80 < 256 by omega)
    have last := UInt8.toNat_ofNat_of_lt' (show v % 0x40 + 0x80 < 256 by omega)
    have made : ((v / 4096 % 0x10 + 0xe0) % 0x10 * 0x40 + (v / 64 % 0x40 + 0x80) % 0x40) * 0x40 +
        (v % 0x40 + 0x80) % 0x40 = v := by omega
    rw [List.cons_append, List.cons_append, List.cons_append, pieces_start, first_three (by omega),
      List.nil_append, pieces_more _ (by split_ifs <;> omega) (by split_ifs <;> omega),
      pieces_last _ (by omega) (by omega), lead, next, last, made, back]
    rfl
  · have lead := UInt8.toNat_ofNat_of_lt' (show v / 262144 % 0x08 + 0xf0 < 256 by omega)
    have second := UInt8.toNat_ofNat_of_lt' (show v / 4096 % 0x40 + 0x80 < 256 by omega)
    have third := UInt8.toNat_ofNat_of_lt' (show v / 64 % 0x40 + 0x80 < 256 by omega)
    have last := UInt8.toNat_ofNat_of_lt' (show v % 0x40 + 0x80 < 256 by omega)
    have made : (((v / 262144 % 0x08 + 0xf0) % 8 * 0x40 + (v / 4096 % 0x40 + 0x80) % 0x40) * 0x40 +
        (v / 64 % 0x40 + 0x80) % 0x40) * 0x40 + (v % 0x40 + 0x80) % 0x40 = v := by omega
    rw [List.cons_append, List.cons_append, List.cons_append, List.cons_append, pieces_start,
      first_four (by omega), List.nil_append,
      pieces_more _ (by split_ifs <;> omega) (by split_ifs <;> omega),
      pieces_more _ (by omega) (by omega), pieces_last _ (by omega) (by omega), lead, second, third,
      last, made, back]
    rfl

theorem val_ofNat {n : Nat} (valid : n.isValidChar) : (Char.ofNat n).val.toNat = n := by
  rw [Char.ofNat, dif_pos valid]
  rfl

theorem ofNat_eq {n : Nat} (h : n = b.toNat) : UInt8.ofNat n = b := by
  rw [h, UInt8.ofNat_toNat]

def Begins (bs : Bytes) (cs : List Char) : Prop :=
  ∃ c rest ds, bs = String.utf8EncodeChar c ++ rest ∧ cs = c :: ds ∧
    collect? (pieces .start rest) = some ds

theorem begins_one (one : b.toNat < 0x80)
    (read : collect? (pieces .start (b :: bs)) = some cs) : Begins (b :: bs) cs := by
  rw [pieces_start, first_one one] at read
  obtain ⟨ds, rfl, others⟩ := exists_of_collect_char read
  refine ⟨_, bs, ds, ?_, rfl, others⟩
  have val : (Char.ofNat b.toNat).val.toNat = b.toNat := val_ofNat (.inl (by omega))
  unfold String.utf8EncodeChar
  rw [val, if_pos (by omega), ofNat_eq rfl]
  rfl

theorem begins_two (two : 0xC2 ≤ b.toNat ∧ b.toNat ≤ 0xDF)
    (read : collect? (pieces .start (b :: bs)) = some cs) : Begins (b :: bs) cs := by
  rw [pieces_start, first_two two] at read
  obtain ⟨x, rest, ds, rfl, range, rfl, others⟩ := exists_of_collect_last read
  refine ⟨_, rest, ds, ?_, rfl, others⟩
  have val := val_ofNat (n := b.toNat % 0x20 * 0x40 + x.toNat % 0x40) (.inl (by omega))
  unfold String.utf8EncodeChar
  rw [val, if_neg (by omega), if_pos (by omega), ofNat_eq (b := b) (by omega),
    ofNat_eq (b := x) (by omega)]
  rfl

theorem begins_three (three : 0xE0 ≤ b.toNat ∧ b.toNat ≤ 0xEF)
    (read : collect? (pieces .start (b :: bs)) = some cs) : Begins (b :: bs) cs := by
  rw [pieces_start, first_three three] at read
  obtain ⟨x, _, rfl, second, read⟩ := exists_of_collect_more read
  obtain ⟨y, rest, ds, rfl, range, rfl, others⟩ := exists_of_collect_last read
  refine ⟨_, rest, ds, ?_, rfl, others⟩
  -- The range of the second byte keeps out what fits in two bytes.
  have least : 0x7ff < (b.toNat % 0x10 * 0x40 + x.toNat % 0x40) * 0x40 + y.toNat % 0x40 := by
    split_ifs at second <;> omega
  have continues : 0x80 ≤ x.toNat ∧ x.toNat ≤ 0xBF := by split_ifs at second <;> omega
  have val := val_ofNat (n := (b.toNat % 0x10 * 0x40 + x.toNat % 0x40) * 0x40 + y.toNat % 0x40)
    (by unfold Nat.isValidChar; split_ifs at second <;> omega)
  unfold String.utf8EncodeChar
  rw [val, if_neg (by omega), if_neg (by omega), if_pos (by omega), ofNat_eq (b := b) (by omega),
    ofNat_eq (b := x) (by omega), ofNat_eq (b := y) (by omega)]
  rfl

theorem begins_four (four : 0xF0 ≤ b.toNat ∧ b.toNat ≤ 0xF4)
    (read : collect? (pieces .start (b :: bs)) = some cs) : Begins (b :: bs) cs := by
  rw [pieces_start, first_four four] at read
  obtain ⟨x, _, rfl, second, read⟩ := exists_of_collect_more read
  obtain ⟨y, _, rfl, third, read⟩ := exists_of_collect_more read
  obtain ⟨z, rest, ds, rfl, range, rfl, others⟩ := exists_of_collect_last read
  refine ⟨_, rest, ds, ?_, rfl, others⟩
  have bounds : 0xffff < ((b.toNat % 8 * 0x40 + x.toNat % 0x40) * 0x40 + y.toNat % 0x40) * 0x40 +
      z.toNat % 0x40 ∧ ((b.toNat % 8 * 0x40 + x.toNat % 0x40) * 0x40 + y.toNat % 0x40) * 0x40 +
      z.toNat % 0x40 < 0x110000 := by split_ifs at second <;> omega
  have continues : 0x80 ≤ x.toNat ∧ x.toNat ≤ 0xBF := by split_ifs at second <;> omega
  have val := val_ofNat (n := ((b.toNat % 8 * 0x40 + x.toNat % 0x40) * 0x40 +
    y.toNat % 0x40) * 0x40 + z.toNat % 0x40) (.inr (by omega))
  unfold String.utf8EncodeChar
  rw [val, if_neg (by omega), if_neg (by omega), if_neg (by omega), ofNat_eq (b := b) (by omega),
    ofNat_eq (b := x) (by omega), ofNat_eq (b := y) (by omega), ofNat_eq (b := z) (by omega)]
  rfl

theorem begins_of_collect (read : collect? (pieces .start (b :: bs)) = some cs) :
    Begins (b :: bs) cs := by
  by_cases one : b.toNat < 0x80
  · exact begins_one one read
  by_cases two : 0xC2 ≤ b.toNat ∧ b.toNat ≤ 0xDF
  · exact begins_two two read
  by_cases three : 0xE0 ≤ b.toNat ∧ b.toNat ≤ 0xEF
  · exact begins_three three read
  by_cases four : 0xF0 ≤ b.toNat ∧ b.toNat ≤ 0xF4
  · exact begins_four four read
  · rw [pieces_start, first_broken (by omega)] at read
    cases read

theorem pieces_encode (cs : List Char) :
    pieces .start (cs.flatMap String.utf8EncodeChar) = cs.map .char := by
  induction cs with
  | nil => rfl
  | cons c cs ih => rw [List.flatMap_cons, pieces_utf8EncodeChar, ih, List.map_cons]

theorem decodeLossy_encode (cs : List Char) :
    decodeLossy (cs.flatMap String.utf8EncodeChar) = String.ofList cs := by
  rw [decodeLossy, pieces_encode, List.map_map]
  exact congrArg String.ofList (List.map_id cs)

theorem collect_pieces_encode (cs : List Char) :
    collect? (pieces .start (cs.flatMap String.utf8EncodeChar)) = some cs := by
  rw [pieces_encode]
  induction cs with
  | nil => rfl
  | cons c cs ih => rw [List.map_cons, collect?, ih]; rfl

theorem eq_of_collect_pieces (read : collect? (pieces .start bs) = some cs) :
    bs = cs.flatMap String.utf8EncodeChar := by
  -- By induction on the text, since each character takes its own number of bytes.
  induction cs generalizing bs with
  | nil =>
    cases bs with
    | nil => rfl
    | cons b bs =>
      obtain ⟨c, rest, ds, -, other, -⟩ := begins_of_collect read
      cases other
  | cons c cs ih =>
    cases bs with
    | nil => cases read
    | cons b bs =>
      obtain ⟨d, rest, ds, split, same, others⟩ := begins_of_collect read
      obtain ⟨rfl, rfl⟩ := List.cons.inj same
      rw [split, List.flatMap_cons, ih others]

/-- Bytes are a text exactly if they are its encoding. -/
theorem decode?_eq_some_iff {s : String} : decode? bs = some s ↔ bs = encode s := by
  rw [decode?, Option.map_eq_some_iff]
  constructor
  · rintro ⟨cs, read, rfl⟩
    rw [encode, String.toList_ofList]
    exact eq_of_collect_pieces read
  · rintro rfl
    exact ⟨_, collect_pieces_encode _, String.ofList_toList⟩

end MailRound.Text.Utf8
