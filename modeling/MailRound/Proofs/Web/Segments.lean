import MailRound.Proofs.Web.Names
import MailRound.Web.Path

namespace MailRound.Web.Path

/-- A character that stands for itself wherever it is in an address. -/
def Unreserved (c : Char) : Prop := c.isAlphanum = true ∨ c ∈ ['-', '.', '_', '~']

instance (c : Char) : Decidable (Unreserved c) := inferInstanceAs (Decidable (_ ∨ _))

/-- What follows for an unreserved character from the tables of an address reader. -/
structure Bare (c : Char) : Prop where
  safe : safeIn specials c = true
  apart : c ∉ ['/', '\\', '?', '#']
  percent : c.toLower ≠ '%'
  dot : c.toLower = '.' → c = '.'

instance (c : Char) : Decidable (Bare c) :=
  decidable_of_iff (safeIn specials c = true ∧ c ∉ ['/', '\\', '?', '#'] ∧ c.toLower ≠ '%' ∧
    (c.toLower = '.' → c = '.'))
    ⟨fun ⟨safe, apart, percent, dot⟩ => ⟨safe, apart, percent, dot⟩,
      fun ⟨safe, apart, percent, dot⟩ => ⟨safe, apart, percent, dot⟩⟩

theorem Unreserved.ascii {c : Char} (h : Unreserved c) : c.toNat < 128 := by
  have below {high : Char} (within : c.val ≤ high.val) (ascii : high.toNat < 128) : c.toNat < 128 :=
    Nat.lt_of_le_of_lt (UInt32.le_iff_toNat_le.1 within) ascii
  obtain alphanumeric | mark := h
  · obtain letter | digit := Bool.or_eq_true_iff.1 alphanumeric
    · obtain upper | lower := Bool.or_eq_true_iff.1 letter
      · exact below (of_decide_eq_true upper).2 (by decide)
      · exact below (of_decide_eq_true (Bool.and_eq_true_iff.1 lower).2) (by decide)
    · exact below (of_decide_eq_true (Bool.and_eq_true_iff.1 digit).2) (by decide)
  · have low : ∀ d ∈ ['-', '.', '_', '~'], d.toNat < 128 := forall_of_all (by decide)
    exact low c mark

theorem Unreserved.bare {c : Char} (h : Unreserved c) : Bare c := by
  have table : ∀ n : Fin 128, Unreserved (Char.ofNat n) → Bare (Char.ofNat n) := by decide +kernel
  simpa using table ⟨c.toNat, h.ascii⟩ (by simpa using h)

/-- A segment that stays as it is: no character of it is written otherwise, and it does not lead
elsewhere. -/
structure Segment (cs : List Char) : Prop where
  unreserved : ∀ c ∈ cs, Unreserved c
  here : cs ≠ ['.']
  up : cs ≠ ['.', '.']

instance (cs : List Char) : Decidable (Segment cs) :=
  decidable_of_iff (cs.all (fun c => decide (Unreserved c)) = true ∧ cs ≠ ['.'] ∧ cs ≠ ['.', '.'])
    ⟨fun ⟨all, here, up⟩ => ⟨forall_of_all all, here, up⟩,
      fun ⟨unreserved, here, up⟩ => ⟨List.all_eq_true.2 fun c among =>
        decide_eq_true (unreserved c among), here, up⟩⟩

namespace Segment

variable {cs : List Char}

theorem no_percent (h : Segment cs) : '%' ∉ cs.map Char.toLower := by
  intro among
  obtain ⟨c, within, percent⟩ := List.mem_map.1 among
  exact (h.unreserved c within).bare.percent percent

theorem eq_dots (h : Segment cs) {n : Nat} (dots : cs.map Char.toLower = List.replicate n '.') :
    cs = List.replicate n '.' := by
  refine List.eq_replicate_iff.2 ⟨by simpa using congrArg List.length dots, fun c among => ?_⟩
  exact (h.unreserved c among).bare.dot
    (List.eq_of_mem_replicate (dots ▸ List.mem_map_of_mem among))

theorem isDot_eq_false (h : Segment cs) : isDot cs = false := by
  have percent := h.no_percent
  rw [isDot, ← Bool.not_eq_true, List.contains_iff_mem]
  intro among
  obtain same | same : String.ofList (cs.map Char.toLower) = "." ∨
      String.ofList (cs.map Char.toLower) = "%2e" := by simpa using among
  · exact h.here (h.eq_dots (n := 1) (String.ofList_inj.1 same))
  · rw [String.ofList_inj.1 same] at percent
    exact percent (by decide)

theorem isDoubleDot_eq_false (h : Segment cs) : isDoubleDot cs = false := by
  have percent := h.no_percent
  rw [isDoubleDot, ← Bool.not_eq_true, List.contains_iff_mem]
  intro among
  obtain same | same | same | same : String.ofList (cs.map Char.toLower) = ".." ∨
      String.ofList (cs.map Char.toLower) = ".%2e" ∨
      String.ofList (cs.map Char.toLower) = "%2e." ∨
      String.ofList (cs.map Char.toLower) = "%2e%2e" := by simpa using among
  · exact h.up (h.eq_dots (n := 2) (String.ofList_inj.1 same))
  all_goals
    rw [String.ofList_inj.1 same] at percent
    exact percent (by decide)

theorem percentEncode_eq_self (h : Segment cs) : percentEncode (safeIn specials) cs = cs := by
  have kept : cs.map (fun c => if safeIn specials c then [c] else percentChar c) =
      cs.map fun c => [c] :=
    List.map_congr_left fun c among => if_pos (h.unreserved c among).bare.safe
  rw [percentEncode, List.flatMap_def, kept, ← List.flatMap_def, List.flatMap_singleton']

end Segment

/-- Along segments that stay as they are there is no way up. -/
theorem walk_eq_self {segments : List (List Char)} (proper : ∀ s ∈ segments, Segment s)
    (up : List (List Char)) : walk up segments = up.reverse ++ segments := by
  fun_induction walk up segments with
  | case1 up => exact (List.append_nil _).symm
  | case2 up s dots =>
    exact absurd dots (by simp [(proper s List.mem_cons_self).isDoubleDot_eq_false])
  | case3 up s _ dot => exact absurd dot (by simp [(proper s List.mem_cons_self).isDot_eq_false])
  | case4 up s => exact List.reverse_cons
  | case5 up s rest _ dots =>
    exact absurd dots (by simp [(proper s List.mem_cons_self).isDoubleDot_eq_false])
  | case6 up s rest _ _ dot =>
    exact absurd dot (by simp [(proper s List.mem_cons_self).isDot_eq_false])
  | case7 up s rest _ _ _ ih =>
    rw [ih (List.forall_mem_cons.1 proper).2, List.reverse_cons, List.append_assoc]
    rfl

theorem read_eq_self {cs : List Char} (proper : ∀ s ∈ Domain.splitOn '/' cs, Segment s) :
    read cs = String.ofList ('/' :: cs) := by
  have kept : segments cs = Domain.splitOn '/' cs :=
    (List.map_congr_left fun s among => (proper s among).percentEncode_eq_self).trans
      (List.map_id' _)
  rw [read, kept, walk_eq_self proper, List.reverse_nil, List.nil_append, text, Domain.splitOn_eq,
    List.intercalate_splitOn]

end MailRound.Web.Path
