import MailRound.Fetcher.Query
import Mathlib.Data.List.Sort
import Mathlib.Tactic.Common

namespace MailRound

variable {uids others : List Nat} {limit : Option Nat}

theorem newestUids_none_sorted (uids : List Nat) : (newestUids uids none).Pairwise (· ≤ ·) := by
  have sorted : (newestUids uids none).Pairwise fun a b => decide (a ≤ b) = true :=
    List.pairwise_mergeSort (by simpa using fun a b c => Nat.le_trans)
      (by simpa using Nat.le_total) uids
  simpa using sorted

theorem newestUids_none_perm (uids : List Nat) : (newestUids uids none).Perm uids :=
  List.mergeSort_perm uids _

theorem newestUids_eq_drop (uids : List Nat) (limit : Option Nat) : newestUids uids limit =
    (newestUids uids none).drop (uids.length - limit.getD uids.length) := by
  cases limit with
  | none => simp
  | some n => simp [newestUids]

/-- Numbers in growing order are known by how often each occurs. -/
theorem eq_of_sorted_of_perm (left : uids.Pairwise (· ≤ ·)) (right : others.Pairwise (· ≤ ·))
    (perm : uids.Perm others) : uids = others :=
  perm.eq_of_pairwise (fun _ _ _ _ => Nat.le_antisymm) left right

theorem newestUids_of_perm (perm : others.Perm uids) (limit : Option Nat) :
    newestUids others limit = newestUids uids limit := by
  have same : newestUids others none = newestUids uids none := by
    apply eq_of_sorted_of_perm (newestUids_none_sorted others) (newestUids_none_sorted uids)
    exact (newestUids_none_perm others).trans (perm.trans (newestUids_none_perm uids).symm)
  rw [newestUids_eq_drop, newestUids_eq_drop uids, same, perm.length_eq]

theorem newestUids_none_of_sorted (sorted : uids.Pairwise (· ≤ ·)) :
    newestUids uids none = uids :=
  eq_of_sorted_of_perm (newestUids_none_sorted uids) sorted (newestUids_none_perm uids)

theorem newestUids_sorted (uids : List Nat) (limit : Option Nat) :
    (newestUids uids limit).Pairwise (· ≤ ·) := by
  rw [newestUids_eq_drop]
  exact (newestUids_none_sorted uids).sublist (List.drop_sublist _ _)

theorem length_newestUids (uids : List Nat) (limit : Option Nat) :
    (newestUids uids limit).length = min uids.length (limit.getD uids.length) := by
  rw [newestUids_eq_drop, List.length_drop, (newestUids_none_perm uids).length_eq]
  omega

theorem exists_dropped (uids : List Nat) (limit : Option Nat) : ∃ dropped : List Nat,
    (dropped ++ newestUids uids limit).Perm uids ∧
      ∀ d ∈ dropped, ∀ k ∈ newestUids uids limit, d ≤ k := by
  refine ⟨(newestUids uids none).take (uids.length - limit.getD uids.length), ?_⟩
  have sorted := newestUids_none_sorted uids
  rw [newestUids_eq_drop uids limit, List.take_append_drop]
  refine ⟨newestUids_none_perm uids, ?_⟩
  rw [← List.take_append_drop (uids.length - limit.getD uids.length) (newestUids uids none),
    List.pairwise_append] at sorted
  exact sorted.2.2

theorem newestUids_suffix {small large : Option Nat} (less : ∀ n ∈ large, ∃ m ∈ small, m ≤ n) :
    newestUids uids small <:+ newestUids uids large := by
  have dropped : uids.length - large.getD uids.length ≤ uids.length - small.getD uids.length := by
    cases large with
    | none => simp
    | some n =>
      rcases less n rfl with ⟨m, rfl, less⟩
      simp only [Option.getD_some]
      omega
  rw [newestUids_eq_drop uids small, newestUids_eq_drop uids large]
  exact List.drop_suffix_drop_left _ dropped

theorem newestUids_idem (uids : List Nat) (limit : Option Nat) :
    newestUids (newestUids uids limit) limit = newestUids uids limit := by
  rw [newestUids_eq_drop (newestUids uids limit), length_newestUids,
    newestUids_none_of_sorted (newestUids_sorted uids limit)]
  cases limit with
  | none => simp
  | some n =>
    have all : min uids.length n - n = 0 := by omega
    simp [all]

/-- Of the numbers that were found, in any order and with repetitions, the greatest are kept and stand
in growing order: as many as are asked for, or all if there are no more. None that is passed over is
greater than one that is kept, so that only how often each number was found matters. -/
theorem newest_are_kept (uids : List Nat) (limit : Option Nat) :
    (newestUids uids limit).Pairwise (· ≤ ·) ∧
    (newestUids uids limit).length = (match limit with
      | none => uids.length
      | some n => min uids.length n) ∧
    (∃ dropped : List Nat, (dropped ++ newestUids uids limit).Perm uids ∧
      ∀ d ∈ dropped, ∀ k ∈ newestUids uids limit, d ≤ k) ∧
    (∀ others : List Nat, others.Perm uids → newestUids others limit = newestUids uids limit) ∧
    (∀ larger : Option Nat, (∀ n ∈ larger, ∃ m ∈ limit, m ≤ n) →
      newestUids uids limit <:+ newestUids uids larger) ∧
    newestUids (newestUids uids limit) limit = newestUids uids limit := by
  refine ⟨newestUids_sorted uids limit, ?length, exists_dropped uids limit,
    fun others perm => newestUids_of_perm perm limit, fun larger less => newestUids_suffix less,
    newestUids_idem uids limit⟩
  rw [length_newestUids]
  cases limit <;> simp

/-- The number at the cut is there twice, and one of the two is passed over. -/
theorem newest_are_kept_repeated :
    [9, 5, 1, 5].Perm [5, 1, 5, 9] ∧
    newestUids [9, 5, 1, 5] (some 2) = newestUids [5, 1, 5, 9] (some 2) ∧
    newestUids [5, 1, 5, 9] (some 2) = [5, 9] ∧
    newestUids [5, 1, 5, 9] (some 2) <:+ newestUids [5, 1, 5, 9] (some 3) := by
  obtain ⟨-, -, -, same, suffix, -⟩ := newest_are_kept [5, 1, 5, 9] (some 2)
  have perm : [9, 5, 1, 5].Perm [5, 1, 5, 9] := by decide
  have all : newestUids [5, 1, 5, 9] none = [1, 5, 5, 9] :=
    eq_of_sorted_of_perm (newestUids_none_sorted _) (by decide)
      ((newestUids_none_perm _).trans (by decide))
  refine ⟨perm, same _ perm, ?kept, suffix (some 3) ?fewer⟩
  case kept =>
    rw [newestUids_eq_drop, all]
    rfl
  case fewer =>
    intro n three
    obtain rfl := Option.some.inj three
    exact ⟨2, rfl, by decide⟩

end MailRound
