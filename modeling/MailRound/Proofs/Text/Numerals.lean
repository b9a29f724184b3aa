import MailRound.Text.Blank
import MailRound.Text.Numeral
import Mathlib.Algebra.Group.Nat.Defs
import Mathlib.Data.List.TakeWhile

namespace MailRound.Text

variable {bound n : Nat} {cs ds es : List Char} {s : String}

abbrev ofDigits (ds : List Char) : Nat := Nat.ofDigitChars 10 ds 0

/-- Digits that say `n`, with or without a plus sign before them. -/
inductive Unsigned : List Char → Nat → Prop where
  | plain {ds : List Char} (there : ds ≠ []) (digits : ∀ d ∈ ds, d.isDigit = true) :
    Unsigned ds (ofDigits ds)
  | signed {ds : List Char} (there : ds ≠ []) (digits : ∀ d ∈ ds, d.isDigit = true) :
    Unsigned ('+' :: ds) (ofDigits ds)

/-- A text that says `n`, with white space on both sides or without. -/
def Denotes (s : String) (n : Nat) : Prop :=
  ∃ left cs right, s.toList = left ++ cs ++ right ∧ (∀ c ∈ left, isBlank c = true) ∧
    (∀ c ∈ right, isBlank c = true) ∧ Unsigned cs n

theorem digitValue?_eq_some_iff {c : Char} {d : Nat} :
    digitValue? c = some d ↔ c.isDigit = true ∧ d = c.toNat - 48 := by
  have digit : ('0' ≤ c ∧ c ≤ '9') ↔ c.isDigit = true := by
    simp only [Char.isDigit, Bool.and_eq_true, decide_eq_true_eq]
    rfl
  unfold digitValue?
  split_ifs with range
  · rw [Option.some.injEq, eq_comm, ← digit]
    exact ⟨fun same => ⟨range, same⟩, And.right⟩
  · simp [← digit, range]

theorem digitValue?_eq_none_iff {c : Char} : digitValue? c = none ↔ c.isDigit = false := by
  rw [← Option.not_isSome_iff_eq_none, Option.isSome_iff_exists, ← Bool.not_eq_true]
  simp [digitValue?_eq_some_iff]

theorem toNat_of_isDigit {c : Char} (digit : c.isDigit = true) : 48 ≤ c.toNat ∧ c.toNat ≤ 57 := by
  simp only [Char.isDigit, Bool.and_eq_true, decide_eq_true_eq, UInt32.le_iff_toNat_le] at digit
  exact digit

theorem ofDigits_cons (c : Char) (cs : List Char) :
    ofDigits (c :: cs) = 10 ^ cs.length * (c.toNat - 48) + ofDigits cs := by
  rw [ofDigits, Nat.ofDigitChars_cons, Nat.ofDigitChars_eq_ofDigitChars_zero, Nat.mul_zero,
    Nat.zero_add]
  rfl

theorem ofDigits_lt (digits : ∀ d ∈ ds, d.isDigit = true) : ofDigits ds < 10 ^ ds.length := by
  induction ds with
  | nil => simp
  | cons c cs ih =>
    rw [List.forall_mem_cons] at digits
    have first := toNat_of_isDigit digits.1
    have rest := ih digits.2
    rw [ofDigits_cons, List.length_cons, Nat.pow_succ]
    calc 10 ^ cs.length * (c.toNat - 48) + ofDigits cs
        < 10 ^ cs.length * (c.toNat - 48 + 1) := by rw [Nat.mul_succ]; omega
      _ ≤ 10 ^ cs.length * 10 := Nat.mul_le_mul_left _ (by omega)

theorem ofDigits_inj (left : ∀ d ∈ ds, d.isDigit = true) (right : ∀ e ∈ es, e.isDigit = true)
    (length : ds.length = es.length) (same : ofDigits ds = ofDigits es) : ds = es := by
  induction ds generalizing es with
  | nil => exact (List.length_eq_zero_iff.1 length.symm).symm
  | cons c cs ih =>
    cases es with
    | nil => cases length
    | cons e es =>
      rw [List.forall_mem_cons] at left right
      have length : cs.length = es.length := Nat.succ.inj length
      have power : 0 < 10 ^ es.length := Nat.pow_pos (by decide)
      have low := ofDigits_lt left.2
      have low' := ofDigits_lt right.2
      rw [length] at low
      rw [ofDigits_cons, ofDigits_cons, length] at same
      have first : c.toNat - 48 = e.toNat - 48 := by
        have quotient := congrArg (· / 10 ^ es.length) same
        rwa [Nat.mul_add_div power, Nat.mul_add_div power, Nat.div_eq_of_lt low,
          Nat.div_eq_of_lt low'] at quotient
      have bounds := toNat_of_isDigit left.1
      have bounds' := toNat_of_isDigit right.1
      have begun : c = e := Char.toNat_inj.1 (by omega)
      rw [first] at same
      rw [begun, ih left.2 right.2 length (Nat.add_left_cancel same)]

theorem ofDigits_replicate_toDigits (zeros n : Nat) :
    ofDigits (List.replicate zeros '0' ++ Nat.toDigits 10 n) = n := by
  rw [ofDigits, Nat.ofDigitChars_append, Nat.ofDigitChars_replicate_zero, Nat.mul_zero,
    Nat.ofDigitChars_toDigits (by decide) (by decide)]

theorem isDigit_of_mem_replicate_toDigits {zeros : Nat} {d : Char}
    (among : d ∈ List.replicate zeros '0' ++ Nat.toDigits 10 n) : d.isDigit = true := by
  obtain zero | digit := List.mem_append.1 among
  · rw [List.eq_of_mem_replicate zero]
    rfl
  · exact Nat.isDigit_of_mem_toDigits (by decide) (by decide) digit

theorem padded_ofDigits (there : ds ≠ []) (digits : ∀ d ∈ ds, d.isDigit = true) :
    padded ds.length (ofDigits ds) = String.ofList ds := by
  have short : (Nat.toDigits 10 (ofDigits ds)).length ≤ ds.length := by
    rw [Nat.length_toDigits_le_iff (by decide) (List.length_pos_iff.2 there)]
    exact ofDigits_lt digits
  rw [padded, String.ofList_inj]
  apply ofDigits_inj (fun d => isDigit_of_mem_replicate_toDigits) digits
  · rw [List.length_append, List.length_replicate]
    omega
  · exact ofDigits_replicate_toDigits _ _

theorem le_ofDigitChars (acc : Nat) (ds : List Char) : acc ≤ Nat.ofDigitChars 10 ds acc := by
  have power : 0 < 10 ^ ds.length := Nat.pow_pos (by decide)
  have grows := Nat.le_mul_of_pos_left acc power
  rw [Nat.ofDigitChars_eq_ofDigitChars_zero]
  omega

/-- The bound is checked at every digit, which comes to the same as to check the number. -/
theorem readDigits_eq_ok_iff {acc : Nat} (checked : ds ≠ [] ∨ acc < bound) :
    readDigits bound acc ds = .ok n ↔
      (∀ d ∈ ds, d.isDigit = true) ∧ Nat.ofDigitChars 10 ds acc = n ∧ n < bound := by
  induction ds generalizing acc with
  | nil =>
    obtain none | less := checked
    · cases none rfl
    · simp only [readDigits, Except.ok.injEq, List.not_mem_nil, false_implies, implies_true,
        Nat.ofDigitChars_nil, true_and]
      exact ⟨fun same => ⟨same, same ▸ less⟩, And.left⟩
  | cons c cs ih =>
    rw [readDigits, List.forall_mem_cons, Nat.ofDigitChars_cons]
    cases value : digitValue? c with
    | none =>
      have foreign := digitValue?_eq_none_iff.1 value
      simp [foreign]
    | some d =>
      obtain ⟨digit, rfl⟩ := digitValue?_eq_some_iff.1 value
      have same : 10 * acc + (c.toNat - '0'.toNat) = acc * 10 + (c.toNat - 48) := by
        rw [Nat.mul_comm]
        rfl
      dsimp only
      rw [same]
      split_ifs with less
      · rw [ih (.inr less)]
        simp [digit]
      · have grows := le_ofDigitChars (acc * 10 + (c.toNat - 48)) cs
        simp only [false_iff]
        omega

theorem unsigned_signed_iff : Unsigned ('+' :: ds) n ↔
    ds ≠ [] ∧ (∀ d ∈ ds, d.isDigit = true) ∧ ofDigits ds = n := by
  constructor
  · rintro (⟨-, digits⟩ | ⟨there, digits⟩)
    · cases digits '+' List.mem_cons_self
    · exact ⟨there, digits, rfl⟩
  · rintro ⟨there, digits, rfl⟩
    exact .signed there digits

theorem unsigned_plain_iff (plain : ds.head? ≠ some '+') : Unsigned ds n ↔
    ds ≠ [] ∧ (∀ d ∈ ds, d.isDigit = true) ∧ ofDigits ds = n := by
  constructor
  · rintro (⟨there, digits⟩ | -)
    · exact ⟨there, digits, rfl⟩
    · cases plain rfl
  · rintro ⟨there, digits, rfl⟩
    exact .plain there digits

theorem readUnsigned_eq_ok_iff :
    readUnsigned bound cs = .ok n ↔ Unsigned cs n ∧ n < bound := by
  unfold readUnsigned
  split
  · rw [unsigned_plain_iff (by simp)]
    simp
  · rw [unsigned_signed_iff]
    simp
  · rename_i ds sole
    have there : ds ≠ [] := fun none => sole (none ▸ rfl)
    rw [readDigits_eq_ok_iff (.inl there), unsigned_signed_iff]
    simp only [ne_eq, there, not_false_eq_true, true_and, and_assoc]
  · rename_i empty _ signed
    have plain : cs.head? ≠ some '+' := by
      cases cs with
      | nil => simp
      | cons c cs =>
        rintro first
        cases first
        exact signed cs rfl
    have there : cs ≠ [] := empty
    rw [readDigits_eq_ok_iff (.inl there), unsigned_plain_iff plain]
    simp only [ne_eq, there, not_false_eq_true, true_and, and_assoc]

theorem isBlank_of_isDigit {c : Char} (digit : c.isDigit = true) : isBlank c = false := by
  have range := toNat_of_isDigit digit
  simp [isBlank]
  omega

theorem Unsigned.sharp (unsigned : Unsigned cs n) : ∀ c ∈ cs, isBlank c = false := by
  cases unsigned with
  | plain _ digits => exact fun c among => isBlank_of_isDigit (digits c among)
  | signed _ digits =>
    exact List.forall_mem_cons.2 ⟨rfl, fun c among => isBlank_of_isDigit (digits c among)⟩

theorem Unsigned.ne_nil (unsigned : Unsigned cs n) : cs ≠ [] := by
  cases unsigned with
  | plain there => exact there
  | signed => simp

theorem Unsigned.unique {m : Nat} (one : Unsigned cs n) (other : Unsigned cs m) : n = m := by
  cases one with
  | plain there digits =>
    cases other with
    | plain => rfl
    | signed => cases digits '+' List.mem_cons_self
  | signed there digits =>
    cases other with
    | plain _ digits => cases digits '+' List.mem_cons_self
    | signed => rfl

theorem trim_split (s : String) : ∃ left right,
    s.toList = left ++ (trim s).toList ++ right ∧ (∀ c ∈ left, isBlank c = true) ∧
      ∀ c ∈ right, isBlank c = true := by
  refine ⟨s.toList.takeWhile isBlank, ((trimStart s.toList).reverse.takeWhile isBlank).reverse,
    ?_, fun c => List.mem_takeWhile_imp, ?_⟩
  · rw [trim, String.toList_ofList, trimEnd, List.append_assoc, ← List.reverse_append,
      List.takeWhile_append_dropWhile, List.reverse_reverse, trimStart,
      List.takeWhile_append_dropWhile]
  · intro c among
    exact List.mem_takeWhile_imp (List.mem_reverse.1 among)

theorem dropWhile_blank {left rest : List Char} (blank : ∀ c ∈ left, isBlank c = true)
    (there : cs ≠ []) (sharp : ∀ c ∈ cs, isBlank c = false) :
    (left ++ (cs ++ rest)).dropWhile isBlank = cs ++ rest := by
  rw [List.dropWhile_append_of_pos blank]
  cases cs with
  | nil => cases there rfl
  | cons c cs => simp [sharp c List.mem_cons_self]

theorem trim_of_sharp {left right : List Char} (same : s.toList = left ++ cs ++ right)
    (before : ∀ c ∈ left, isBlank c = true) (behind : ∀ c ∈ right, isBlank c = true)
    (there : cs ≠ []) (sharp : ∀ c ∈ cs, isBlank c = false) : (trim s).toList = cs := by
  have started : trimStart s.toList = cs ++ right := by
    rw [trimStart, same, List.append_assoc, dropWhile_blank before there sharp]
  have ended : (right.reverse ++ cs.reverse).dropWhile isBlank = cs.reverse := by
    have kept := @dropWhile_blank cs.reverse right.reverse [] (by simpa using behind)
      (by simpa using there) (by simpa using sharp)
    rwa [List.append_nil] at kept
  rw [trim, String.toList_ofList, started, trimEnd, List.reverse_append, ended,
    List.reverse_reverse]

/-- White space around a number is dropped, and nothing of the number. -/
theorem denotes_iff_unsigned_trim : Denotes s n ↔ Unsigned (trim s).toList n := by
  constructor
  · rintro ⟨left, cs, right, same, before, behind, unsigned⟩
    rwa [trim_of_sharp same before behind unsigned.ne_nil unsigned.sharp]
  · intro unsigned
    obtain ⟨left, right, same, before, behind⟩ := trim_split s
    exact ⟨left, _, right, same, before, behind, unsigned⟩

theorem Denotes.unique {m : Nat} (one : Denotes s n) (other : Denotes s m) : n = m :=
  (denotes_iff_unsigned_trim.1 one).unique (denotes_iff_unsigned_trim.1 other)

/-- A way to write `n`: its digits behind so many zeros, perhaps a plus sign before these, and
something around. -/
def spelling (left : String) (plus : Bool) (zeros n : Nat) (right : String) : String :=
  left ++ ((if plus then "+" else "") ++ String.ofList (List.replicate zeros '0') ++ decimal n) ++
    right

theorem toList_spelling (left : String) (plus : Bool) (zeros n : Nat) (right : String) :
    (spelling left plus zeros n right).toList = left.toList ++ ((if plus then ['+'] else []) ++
      (List.replicate zeros '0' ++ Nat.toDigits 10 n)) ++ right.toList := by
  cases plus <;> simp [spelling, decimal]

theorem unsigned_iff_replicate_toDigits : Unsigned cs n ↔ ∃ (plus : Bool) (zeros : Nat), cs =
    (if plus then ['+'] else []) ++ (List.replicate zeros '0' ++ Nat.toDigits 10 n) := by
  constructor
  · rintro (⟨there, digits⟩ | ⟨there, digits⟩)
    · exact ⟨false, _, (String.ofList_inj.1 (padded_ofDigits there digits)).symm⟩
    · exact ⟨true, _, congrArg (List.cons '+')
        (String.ofList_inj.1 (padded_ofDigits there digits)).symm⟩
  · rintro ⟨plus, zeros, rfl⟩
    have there : List.replicate zeros '0' ++ Nat.toDigits 10 n ≠ [] := by
      simp [Nat.toDigits_ne_nil]
    have digits := fun d => @isDigit_of_mem_replicate_toDigits n zeros d
    have plain := Unsigned.plain there digits
    have signed := Unsigned.signed there digits
    rw [ofDigits_replicate_toDigits] at plain signed
    cases plus with
    | false => exact plain
    | true => exact signed

theorem denotes_iff_spelling : Denotes s n ↔ ∃ left plus zeros right,
    IsBlankText left ∧ IsBlankText right ∧ s = spelling left plus zeros n right := by
  constructor
  · rintro ⟨left, cs, right, same, before, behind, unsigned⟩
    obtain ⟨plus, zeros, rfl⟩ := unsigned_iff_replicate_toDigits.1 unsigned
    refine ⟨String.ofList left, plus, zeros, String.ofList right, ?_, ?_, ?_⟩
    · simpa [IsBlankText] using before
    · simpa [IsBlankText] using behind
    · rw [← String.toList_inj, toList_spelling, same, String.toList_ofList, String.toList_ofList]
  · rintro ⟨left, plus, zeros, right, before, behind, rfl⟩
    exact ⟨left.toList, _, right.toList, toList_spelling left plus zeros n right, before, behind,
      unsigned_iff_replicate_toDigits.2 ⟨plus, zeros, rfl⟩⟩

end MailRound.Text
