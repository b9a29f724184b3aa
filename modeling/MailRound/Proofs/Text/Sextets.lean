import MailRound.Text.Base64
import Mathlib.Tactic.Ring

namespace MailRound.Text.Base64

/-- The lowest `w` bits of a number, the highest of them first. -/
def bits : Nat → Nat → List Bool
  | 0, _ => []
  | w + 1, n => bits w (n / 2) ++ [decide (n % 2 = 1)]

@[simp] theorem length_bits (w n : Nat) : (bits w n).length = w := by
  induction w generalizing n with
  | zero => rfl
  | succ w ih => simp [bits, ih]

theorem bits_zero (w : Nat) : bits w 0 = List.replicate w false := by
  induction w with
  | zero => rfl
  | succ w ih => simp [bits, ih, List.replicate_succ']

theorem bits_mul_add (v w a : Nat) {b : Nat} (h : b < 2 ^ w) :
    bits (v + w) (a * 2 ^ w + b) = bits v a ++ bits w b := by
  induction w generalizing b with
  | zero =>
    have zero : b = 0 := by omega
    simp [zero, bits]
  | succ w ih =>
    have double : a * 2 ^ (w + 1) = 2 * (a * 2 ^ w) := by rw [Nat.pow_succ]; ring
    have half : (a * 2 ^ (w + 1) + b) / 2 = a * 2 ^ w + b / 2 := by omega
    have last : (a * 2 ^ (w + 1) + b) % 2 = b % 2 := by omega
    rw [← Nat.add_assoc, bits, half, last, ih (by rw [Nat.pow_succ] at h; omega), bits,
      List.append_assoc]

theorem bits_split (v w n : Nat) : bits (v + w) n = bits v (n / 2 ^ w) ++ bits w (n % 2 ^ w) := by
  rw [← bits_mul_add v w (n / 2 ^ w) (Nat.mod_lt n (Nat.two_pow_pos w)), Nat.div_add_mod' n (2 ^ w)]

theorem bits_injective {w m n : Nat} (hm : m < 2 ^ w) (hn : n < 2 ^ w)
    (same : bits w m = bits w n) : m = n := by
  induction w generalizing m n with
  | zero => omega
  | succ w ih =>
    obtain ⟨front, last⟩ :=
      List.append_inj' (show bits w (m / 2) ++ _ = bits w (n / 2) ++ _ from same) rfl
    have half := ih (by rw [Nat.pow_succ] at hm; omega) (by rw [Nat.pow_succ] at hn; omega) front
    simp only [List.cons.injEq, decide_eq_decide, and_true] at last
    omega

theorem flatMap_bits_injective {w : Nat} (pos : 0 < w) {vs us : List Nat}
    (hv : ∀ v ∈ vs, v < 2 ^ w) (hu : ∀ u ∈ us, u < 2 ^ w)
    (same : vs.flatMap (bits w) = us.flatMap (bits w)) : vs = us := by
  induction vs generalizing us with
  | nil =>
    cases us with
    | nil => rfl
    | cons u us =>
      have none := congrArg List.length same
      simp at none
      omega
  | cons v vs ih =>
    cases us with
    | nil =>
      have none := congrArg List.length same
      simp at none
      omega
    | cons u us =>
      rw [List.forall_mem_cons] at hv hu
      obtain ⟨first, rest⟩ := List.append_inj same (by simp)
      rw [bits_injective hv.1 hu.1 first, ih hv.2 hu.2 rest]

/-- The groups have the bits of the bytes, and behind them fewer than six zero bits. -/
def Regroups (vs : List Nat) (bs : Bytes) : Prop :=
  ∃ fill < 6, vs.flatMap (bits 6) =
    (bs.flatMap fun b => bits 8 b.toNat) ++ List.replicate fill false

theorem sextets_lt (bs : Bytes) : ∀ v ∈ sextets bs, v < 64 := by
  fun_induction sextets bs with
  | case1 => simp
  | case2 x =>
    have := x.toNat_lt
    simp only [List.forall_mem_cons]
    exact ⟨by omega, by omega, by simp⟩
  | case3 x y =>
    have := x.toNat_lt
    have := y.toNat_lt
    simp only [List.forall_mem_cons]
    exact ⟨by omega, by omega, by omega, by simp⟩
  | case4 x y z rest ih =>
    have := x.toNat_lt
    have := y.toNat_lt
    have := z.toNat_lt
    simp only [List.forall_mem_cons]
    exact ⟨by omega, by omega, by omega, by omega, ih⟩

theorem sextets_regroups (bs : Bytes) : Regroups (sextets bs) bs := by
  have six (x : UInt8) : bits 8 x.toNat = bits 6 (x.toNat / 4) ++ bits 2 (x.toNat % 4) :=
    bits_split 6 2 _
  have four (x : UInt8) : bits 8 x.toNat = bits 4 (x.toNat / 16) ++ bits 4 (x.toNat % 16) :=
    bits_split 4 4 _
  have two (x : UInt8) : bits 8 x.toNat = bits 2 (x.toNat / 64) ++ bits 6 (x.toNat % 64) :=
    bits_split 2 6 _
  have join24 (a b : Nat) (h : b < 16) : bits 6 (a * 16 + b) = bits 2 a ++ bits 4 b :=
    bits_mul_add 2 4 a h
  have join42 (a b : Nat) (h : b < 4) : bits 6 (a * 4 + b) = bits 4 a ++ bits 2 b :=
    bits_mul_add 4 2 a h
  fun_induction sextets bs with
  | case1 => exact ⟨0, by omega, rfl⟩
  | case2 x =>
    refine ⟨4, by omega, ?_⟩
    have fill := join24 (x.toNat % 4) 0 (by omega)
    simp only [List.flatMap_cons, List.flatMap_nil, ← bits_zero, six x]
    rw [Nat.add_zero] at fill
    simp [fill]
  | case3 x y =>
    refine ⟨2, by omega, ?_⟩
    have fill := join42 (y.toNat % 16) 0 (by omega)
    have middle := join24 (x.toNat % 4) (y.toNat / 16) (by have := y.toNat_lt; omega)
    rw [Nat.add_zero] at fill
    simp only [List.flatMap_cons, List.flatMap_nil, ← bits_zero, six x, four y]
    simp [fill, middle]
  | case4 x y z rest ih =>
    obtain ⟨fill, less, same⟩ := ih
    refine ⟨fill, less, ?_⟩
    have second := join24 (x.toNat % 4) (y.toNat / 16) (by have := y.toNat_lt; omega)
    have third := join42 (y.toNat % 16) (z.toNat / 64) (by have := z.toNat_lt; omega)
    simp only [List.flatMap_cons, same, six x, four y, two z, second, third, List.append_assoc]

/-- How many zero bits are needed is told by the number of bytes. -/
theorem Regroups.unique {vs us : List Nat} {bs : Bytes} (hv : ∀ v ∈ vs, v < 64)
    (hu : ∀ u ∈ us, u < 64) (left : Regroups vs bs) (right : Regroups us bs) : vs = us := by
  obtain ⟨m, hm, left⟩ := left
  obtain ⟨n, hn, right⟩ := right
  have fills : m = n := by
    have l := congrArg List.length left
    have r := congrArg List.length right
    simp [List.length_flatMap, List.map_const'] at l r
    omega
  apply flatMap_bits_injective (w := 6) (by omega) hv hu
  rw [left, right, fills]

theorem regroups_iff {vs : List Nat} {bs : Bytes} (small : ∀ v ∈ vs, v < 64) :
    Regroups vs bs ↔ vs = sextets bs :=
  ⟨fun regroups => regroups.unique small (sextets_lt bs) (sextets_regroups bs),
    fun same => same ▸ sextets_regroups bs⟩

theorem toNat_byte {n : Nat} (h : n < 256) : (byte n).toNat = n :=
  UInt8.toNat_ofNat_of_lt' h

theorem byte_toNat (x : UInt8) {n : Nat} (h : n = x.toNat) : byte n = x := by
  rw [h]
  exact UInt8.ofNat_toNat

theorem ofSextets_sextets (bs : Bytes) : ofSextets (sextets bs) = .ok bs := by
  fun_induction sextets bs with
  | case1 => rfl
  | case2 x =>
    have zero : x.toNat % 4 * 16 % 16 = 0 := by omega
    simp only [ofSextets, zero, if_true]
    rw [byte_toNat x (by omega)]
  | case3 x y =>
    have zero : y.toNat % 16 * 4 % 4 = 0 := by omega
    have := y.toNat_lt
    simp only [ofSextets, zero, if_true]
    rw [byte_toNat x (by omega), byte_toNat y (by omega)]
  | case4 x y z rest ih =>
    have := y.toNat_lt
    have := z.toNat_lt
    simp only [ofSextets, ih]
    rw [byte_toNat x (by omega), byte_toNat y (by omega), byte_toNat z (by omega)]

theorem eq_sextets_of_ofSextets {vs : List Nat} {bs : Bytes} (small : ∀ v ∈ vs, v < 64)
    (made : ofSextets vs = .ok bs) : vs = sextets bs := by
  fun_induction ofSextets vs generalizing bs with
  | case1 =>
    obtain rfl := Except.ok.inj made
    rfl
  | case2 => cases made
  | case3 v w zero =>
    obtain rfl := Except.ok.inj made
    simp only [List.forall_mem_cons] at small
    obtain ⟨hv, hw, -⟩ := small
    simp only [sextets, toNat_byte (show v * 4 + w / 16 < 256 by omega), List.cons.injEq, and_true]
    omega
  | case4 => cases made
  | case5 v w x zero =>
    obtain rfl := Except.ok.inj made
    simp only [List.forall_mem_cons] at small
    obtain ⟨hv, hw, hx, -⟩ := small
    simp only [sextets, toNat_byte (show v * 4 + w / 16 < 256 by omega),
      toNat_byte (show w % 16 * 16 + x / 4 < 256 by omega), List.cons.injEq, and_true]
    omega
  | case6 => cases made
  | case7 v w x y rest bs' inner ih =>
    obtain rfl := Except.ok.inj made
    simp only [List.forall_mem_cons] at small
    obtain ⟨hv, hw, hx, hy, small⟩ := small
    simp only [sextets, toNat_byte (show v * 4 + w / 16 < 256 by omega),
      toNat_byte (show w % 16 * 16 + x / 4 < 256 by omega),
      toNat_byte (show x % 4 * 64 + y < 256 by omega), List.cons.injEq]
    exact ⟨by omega, by omega, by omega, by omega, ih small inner⟩
  | case8 => cases made

/-- Bytes are made of the groups that regroup them, and of no others. -/
theorem ofSextets_eq_ok_iff {vs : List Nat} {bs : Bytes} (small : ∀ v ∈ vs, v < 64) :
    ofSextets vs = .ok bs ↔ Regroups vs bs := by
  rw [regroups_iff small]
  constructor
  · exact eq_sextets_of_ofSextets small
  · rintro rfl
    exact ofSextets_sextets bs

end MailRound.Text.Base64
