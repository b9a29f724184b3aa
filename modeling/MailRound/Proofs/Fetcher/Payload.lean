import MailRound.Fetcher.Query
import MailRound.Proofs.Text.Sextets
import Mathlib.Data.List.Forall2
import Mathlib.Data.List.TakeWhile

namespace MailRound

namespace Text.Base64

def symbols : List Char :=
  "ABCDEFGHIJKLMNOPQRSTUVWXYZabcdefghijklmnopqrstuvwxyz0123456789-_".toList

abbrev Symbolizes (cs : List Char) (vs : List Nat) : Prop :=
  List.Forall₂ (fun c v => symbols[v]? = some c) cs vs

/-- A text that spells some bytes without padding: symbols for the groups that have the bits of the
bytes, the last group filled up with zero bits. -/
def Spells (cs : List Char) (bs : Bytes) : Prop :=
  ∃ vs, Regroups vs bs ∧ Symbolizes cs vs

theorem symbol_eq : ∀ v < 64, symbols[v]? = some (urlSafe.symbol v) := by decide +kernel

theorem symbol_value : ∀ v < 64, (urlSafe.symbol v).toNat < 128 ∧
    urlSafe.value? (urlSafe.symbol v).toUInt8 = some v := by decide +kernel

theorem value_symbols : ∀ n < 128, ∀ v ∈ urlSafe.value? (UInt8.ofNat n),
    symbols[v]? = some (Char.ofNat n) := by decide +kernel

theorem value?_high : ∀ n < 256, 128 ≤ n → urlSafe.value? (UInt8.ofNat n) = none := by
  decide +kernel

theorem lt_of_symbol {v : Nat} {c : Char} (h : symbols[v]? = some c) : v < 64 :=
  (List.getElem?_eq_some_iff.1 h).1

theorem value_of_symbol {v : Nat} {c : Char} (h : symbols[v]? = some c) :
    c.toNat < 128 ∧ urlSafe.value? c.toUInt8 = some v := by
  obtain rfl := Option.some.inj ((symbol_eq v (lt_of_symbol h)).symm.trans h)
  exact symbol_value v (lt_of_symbol h)

@[simp] theorem symbolizes_nil_left {vs : List Nat} : Symbolizes [] vs ↔ vs = [] :=
  List.forall₂_nil_left_iff

theorem symbolizes_cons_left {c : Char} {cs : List Char} {vs : List Nat} : Symbolizes (c :: cs) vs ↔
    ∃ u us, symbols[u]? = some c ∧ Symbolizes cs us ∧ vs = u :: us :=
  List.forall₂_cons_left_iff

theorem symbolizes_cons_right {v : Nat} {cs : List Char} {vs : List Nat} :
    Symbolizes cs (v :: vs) ↔ ∃ d ds, symbols[v]? = some d ∧ Symbolizes ds vs ∧ cs = d :: ds :=
  List.forall₂_cons_right_iff

theorem Symbolizes.lt {cs : List Char} {vs : List Nat} (h : Symbolizes cs vs) :
    ∀ v ∈ vs, v < 64 := by
  induction h with
  | nil => simp
  | cons first _ ih => exact List.forall_mem_cons.2 ⟨lt_of_symbol first, ih⟩

theorem Symbolizes.mem_symbols {cs : List Char} {vs : List Nat} (h : Symbolizes cs vs) :
    ∀ c ∈ cs, c ∈ symbols := by
  induction h with
  | nil => simp
  | cons first _ ih => exact List.forall_mem_cons.2 ⟨List.mem_of_getElem? first, ih⟩

/-- A character is the symbol of a value exactly if its one byte is. -/
theorem symbol_iff {c : Char} (ascii : c.toNat < 128) (v : Nat) :
    symbols[v]? = some c ↔ urlSafe.value? c.toUInt8 = some v := by
  constructor
  · intro h
    exact (value_of_symbol h).2
  · intro h
    have back := value_symbols c.toNat ascii v h
    rwa [Char.ofNat_toNat] at back

theorem utf8EncodeChar_of_lt {c : Char} (ascii : c.toNat < 128) :
    String.utf8EncodeChar c = [c.toUInt8] := by
  have size : c.utf8Size = 1 := by
    rw [Char.utf8Size_eq_one_iff, UInt32.le_iff_toNat_le]
    exact Nat.le_of_lt_succ ascii
  rw [String.utf8EncodeChar_eq_singleton size, Char.toUInt8_val]

theorem utf8EncodeChar_of_le {c : Char} (high : 128 ≤ c.toNat) :
    ∃ b bs, String.utf8EncodeChar c = b :: bs ∧ urlSafe.value? b = none := by
  have more : ¬c.val.toNat ≤ 127 := Nat.not_le.2 high
  simp only [String.utf8EncodeChar, if_neg more]
  split_ifs
  · exact ⟨_, _, rfl, value?_high _ (by omega) (by omega)⟩
  · exact ⟨_, _, rfl, value?_high _ (by omega) (by omega)⟩
  · exact ⟨_, _, rfl, value?_high _ (by omega) (by omega)⟩

/-- The values that are read from a text are those of its symbols, and it has nothing else in it. -/
theorem values_utf8 {cs : List Char} {vs : List Nat} (i : Nat) :
    values urlSafe i (cs.flatMap String.utf8EncodeChar) = .ok vs ↔ Symbolizes cs vs := by
  induction cs generalizing i vs with
  | nil => rw [List.flatMap_nil, symbolizes_nil_left, values, Except.ok.injEq, eq_comm]
  | cons c cs ih =>
    rw [List.flatMap_cons, symbolizes_cons_left]
    by_cases ascii : c.toNat < 128
    · rw [utf8EncodeChar_of_lt ascii, List.singleton_append, values]
      cases value : urlSafe.value? c.toUInt8 with
      | none => simp [symbol_iff ascii, value]
      | some v =>
        simp only [symbol_iff ascii, value, Option.some.injEq, ← ih (i + 1)]
        cases values urlSafe (i + 1) (cs.flatMap String.utf8EncodeChar) with
        | error fault => simp [Except.map]
        | ok us => simp [Except.map, eq_comm]
    · obtain ⟨b, bs, encoded, none⟩ := utf8EncodeChar_of_le (Nat.not_lt.1 ascii)
      have foreign (v : Nat) : symbols[v]? ≠ some c := fun h =>
        ascii (value_of_symbol h).1
      simp [encoded, values, none, foreign]

theorem isSome_of_values {a : Alphabet} {i : Nat} {input : Bytes} {vs : List Nat}
    (read : values a i input = .ok vs) : ∀ b ∈ input, (a.value? b).isSome := by
  induction input generalizing i vs with
  | nil => simp
  | cons b bs ih =>
    rw [values] at read
    split at read
    · cases read
    · rename_i v value
      cases rest : values a (i + 1) bs with
      | error fault => simp [rest, Except.map] at read
      | ok us => exact List.forall_mem_cons.2 ⟨by simp [value], ih rest⟩

/-- The place of a stray symbol at the end is only a matter of which fault is reported. -/
theorem decode_eq_ok_iff {a : Alphabet} {input bs : Bytes} : decode a input = .ok bs ↔
    ∃ vs, values a 0 input = .ok vs ∧ ofSextets vs = .ok bs := by
  unfold decode
  dsimp only
  split
  · rename_i b stray
    obtain ⟨last, odd⟩ := Option.filter_eq_some_iff.1 stray
    have foreign : (a.value? b).isNone := by
      simp only [Bool.and_eq_true] at odd
      exact odd.1.2
    constructor
    · intro made
      cases made
    · rintro ⟨vs, read, -⟩
      have known := isSome_of_values read b (List.mem_of_getLast? last)
      rw [Option.isNone_iff_eq_none.1 foreign] at known
      cases known
  · cases values a 0 input with
    | error fault => simp
    | ok vs =>
      simp only [Except.ok.injEq, exists_eq_left']
      cases ofSextets vs with
      | ok made => simp
      | error leftover => cases leftover <;> simp

theorem spells_iff {cs : List Char} {bs : Bytes} : Spells cs bs ↔ Symbolizes cs (sextets bs) := by
  constructor
  · rintro ⟨vs, regroups, written⟩
    rwa [← (regroups_iff written.lt).1 regroups]
  · intro written
    exact ⟨_, sextets_regroups bs, written⟩

/-- Bytes are spelled in one way, and are encoded that way. -/
theorem spells_iff_eq_encode {cs : List Char} {bs : Bytes} :
    Spells cs bs ↔ cs = (encode urlSafe bs).toList := by
  have small := sextets_lt bs
  rw [spells_iff, encode, String.toList_ofList]
  generalize sextets bs = vs at small
  induction vs generalizing cs with
  | nil => simp
  | cons v vs ih =>
    rw [List.forall_mem_cons] at small
    simp only [symbolizes_cons_right, symbol_eq v small.1, ih small.2, Option.some.injEq,
      List.map_cons]
    constructor
    · rintro ⟨c, us, rfl, rfl, rfl⟩
      rfl
    · rintro rfl
      exact ⟨_, _, rfl, rfl, rfl⟩

theorem decode_utf8 {cs : List Char} {bs : Bytes} :
    decode urlSafe (cs.flatMap String.utf8EncodeChar) = .ok bs ↔ Spells cs bs := by
  simp only [decode_eq_ok_iff, values_utf8]
  constructor
  · rintro ⟨vs, written, made⟩
    exact ⟨vs, (ofSextets_eq_ok_iff written.lt).1 made, written⟩
  · rintro ⟨vs, regroups, written⟩
    exact ⟨vs, written, (ofSextets_eq_ok_iff written.lt).2 regroups⟩

theorem Spells.unpadded {cs : List Char} {bs : Bytes} (spells : Spells cs bs) : '=' ∉ cs := by
  intro among
  have symbol := (spells_iff.1 spells).mem_symbols _ among
  exact absurd symbol (by decide +kernel)

end Text.Base64

theorem exists_padding (cs : List Char) :
    ∃ pad, cs = dropPadding cs ++ List.replicate pad '=' := by
  refine ⟨(cs.reverse.takeWhile (· == '=')).length, ?_⟩
  have all : cs.reverse.takeWhile (· == '=') =
      List.replicate (cs.reverse.takeWhile (· == '=')).length '=' := by
    apply List.eq_replicate_of_mem
    intro c among
    simpa using List.mem_takeWhile_imp among
  rw [← List.reverse_inj, dropPadding, List.reverse_append, List.reverse_reverse,
    List.reverse_replicate, ← all, List.takeWhile_append_dropWhile]

theorem dropPadding_padded {text : List Char} (unpadded : '=' ∉ text) (pad : Nat) :
    dropPadding (text ++ List.replicate pad '=') = text := by
  have stays : text.reverse.dropWhile (· == '=') = text.reverse := by
    cases last : text.reverse with
    | nil => rfl
    | cons c cs =>
      have among : c ∈ text := List.mem_reverse.1 (last ▸ List.mem_cons_self)
      have other : c ≠ '=' := fun same => unpadded (same ▸ among)
      simp [other]
  rw [dropPadding, List.reverse_append, List.reverse_replicate,
    List.dropWhile_append_of_pos (by simp), stays, List.reverse_reverse]

/-- A raw message is read exactly if it is the spelling of bytes in 64 symbols, as many padding
symbols behind it as one likes, and then it is read as these bytes; anything else is a fault of the
message. Each list of bytes has one such spelling, which is how it is encoded. -/
theorem raw_message_is_spelled (raw : String) :
    (∀ bs, decodeRaw raw = .ok bs ↔
      ∃ text pad, raw.toList = text ++ List.replicate pad '=' ∧ Text.Base64.Spells text bs) ∧
    ((∃ bs, decodeRaw raw = .ok bs) ∨ ∃ detail, decodeRaw raw = .error (.processing detail)) ∧
    ∀ bs text, Text.Base64.Spells text bs ↔
      text = (Text.Base64.encode Text.Base64.urlSafe bs).toList := by
  refine ⟨fun bs => ?read, ?fault, fun bs text => Text.Base64.spells_iff_eq_encode⟩
  case read =>
    have decoded : decodeRaw raw = .ok bs ↔ Text.Base64.Spells (dropPadding raw.toList) bs := by
      rw [← Text.Base64.decode_utf8, decodeRaw, Text.Utf8.encode, String.toList_ofList]
      split <;> simp_all
    rw [decoded]
    constructor
    · intro spells
      obtain ⟨pad, padded⟩ := exists_padding raw.toList
      exact ⟨_, pad, padded, spells⟩
    · rintro ⟨text, pad, padded, spells⟩
      rwa [padded, dropPadding_padded spells.unpadded]
  case fault =>
    unfold decodeRaw
    dsimp only
    split
    · exact .inl ⟨_, rfl⟩
    · exact .inr ⟨_, rfl⟩

end MailRound
