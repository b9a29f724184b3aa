import MailRound.Mime.Transfer

namespace MailRound.Mime

/-- What stands before the first place where `mark` occurs, and what follows it. -/
def splitAt? (mark : Bytes) : Bytes → Option (Bytes × Bytes)
  | [] => if mark.isEmpty then some ([], []) else none
  | b :: bs =>
    if mark.isPrefixOf (b :: bs) then some ([], (b :: bs).drop mark.length)
    else (splitAt? mark bs).map fun (before, after) => (b :: before, after)

theorem length_of_splitAt? {mark bs before after : Bytes}
    (h : splitAt? mark bs = some (before, after)) : after.length ≤ bs.length := by
  induction bs generalizing before after with
  | nil =>
    simp only [splitAt?] at h
    split at h <;> simp_all
  | cons b bs ih =>
    simp only [splitAt?] at h
    split at h
    · cases h
      simp only [List.length_drop]
      omega
    · obtain ⟨⟨x, y⟩, hx, he⟩ := Option.map_eq_some_iff.1 h
      cases he
      exact Nat.le_succ_of_le (ih hx)

/-- The part of `bs` before its last line end, nothing if it has none. -/
def beforeLastLineEnd (bs : Bytes) : Bytes :=
  match bs.reverse.dropWhile (· ≠ 10) with
  | 10 :: 13 :: rest => rest.reverse
  | 10 :: rest => rest.reverse
  | _ => []

def skipLineEnd : Bytes → Bytes
  | [] => []
  | b :: bs => if b = 10 then bs else if b = 13 ∨ b = 32 ∨ b = 9 then skipLineEnd bs else b :: bs

theorem length_skipLineEnd (bs : Bytes) : (skipLineEnd bs).length ≤ bs.length := by
  induction bs with
  | nil => simp [skipLineEnd]
  | cons b bs ih =>
    simp only [skipLineEnd]
    split
    · simp
    · split
      · simp only [List.length_cons]; omega
      · simp

/-- Two dashes and the boundary divide the parts of a multipart body, wherever they stand. -/
def delimiter (boundary : Bytes) : Bytes := 45 :: 45 :: boundary

end MailRound.Mime
