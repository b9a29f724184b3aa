import MailRound.Json.Scan
import MailRound.Proofs.Documents.Values

namespace MailRound.Json

theorem takeSignificand_lt {acc : Nat} (fits : acc < wordBound) (ds : List Char) :
    (takeSignificand acc ds).1 < wordBound := by
  induction ds generalizing acc with
  | nil => exact fits
  | cons c cs ih =>
    rw [takeSignificand]
    split_ifs with next
    · exact ih next
    · exact fits

theorem Numeral.value_wide {n : Numeral} {k : Int} (whole : n.value = .ok (.int k)) : Wide k := by
  have fits := takeSignificand_lt (show 0 < wordBound by decide) n.whole
  unfold Numeral.value at whole
  generalize takeSignificand 0 n.whole = taken at fits whole
  obtain ⟨s, digits, left⟩ := taken
  dsimp only at fits whole
  split at whole
  · split_ifs at whole with all negative large
    · split at whole <;> cases whole
    · cases whole
      unfold Wide
      omega
    · cases whole
      exact ⟨by omega, by exact_mod_cast fits⟩
    · split at whole <;> cases whole
  -- With a fraction or an exponent the value is never whole.
  · split at whole <;> cases whole
  · split at whole <;> cases whole

theorem Numeral.ranged (n : Numeral) : (Node.number n.value).Ranged := by
  cases whole : n.value with
  | error fault => trivial
  | ok number => cases number with
    | int k => exact value_wide whole
    | float bits => trivial

theorem scanExponent_ranged (negative : Bool) (whole : List Char) (fraction : Option (List Char))
    (cs : List Char) : (Node.number (scanExponent negative whole fraction cs).1).Ranged := by
  unfold scanExponent
  split
  · split_ifs
    · dsimp only
      split_ifs
      · trivial
      · exact Numeral.ranged _
    · exact Numeral.ranged _
  · exact Numeral.ranged _

theorem scanNumber_ranged (negative : Bool) (cs : List Char) :
    (Node.number (scanNumber negative cs).1).Ranged := by
  have after (whole rest : List Char) :
      (Node.number (scanNumber.after negative whole rest).1).Ranged := by
    unfold scanNumber.after
    split
    · dsimp only
      split_ifs
      · trivial
      · exact scanExponent_ranged _ _ _ _
    · exact scanExponent_ranged _ _ _ _
  unfold scanNumber
  split
  · split_ifs
    · trivial
    · exact after _ _
  · split_ifs
    · exact after _ _
    · trivial
  · trivial

theorem numberNode_ranged (negative : Bool) (cs : List Char) :
    (numberNode negative cs).1.Ranged := by
  have number := scanNumber_ranged negative cs
  unfold numberNode
  split
  · rename_i same
    rw [same] at number
    exact number
  · trivial
  · trivial

theorem scanWord_ranged {node : Node} (ranged : node.Ranged) (word cs : List Char) :
    (scanWord word node cs).1.Ranged := by
  induction word generalizing cs with
  | nil => exact ranged
  | cons w ws ih =>
    cases cs with
    | nil =>
      rw [scanWord]
      trivial
    | cons c rest =>
      rw [scanWord]
      split_ifs
      · exact ih rest
      · trivial

/-- The scan keeps to such numbers with so much fuel, whatever it has already found of them. -/
structure ScansRanged (fuel : Nat) : Prop where
  value : ∀ cs, (scanValue fuel cs).1.Ranged
  items : ∀ first items cs, RangedNodes items → (scanItems fuel first items cs).1.Ranged
  item : ∀ items cs, RangedNodes items → (scanItem fuel items cs).1.Ranged
  members : ∀ first members cs, RangedMembers members →
    (scanMembers fuel first members cs).1.Ranged
  member : ∀ members cs, RangedMembers members → (scanMember fuel members cs).1.Ranged

theorem ranged_array {items : List Node} (ranged : RangedNodes items) (close : Option Fault) :
    (Node.array items.reverse close).Ranged :=
  rangedNodes_iff.2 fun n among => rangedNodes_iff.1 ranged n (List.mem_reverse.1 among)

theorem ranged_object {members : List (Quoted × Node)} (ranged : RangedMembers members)
    (close : Option Fault) : (Node.object members.reverse close).Ranged :=
  rangedMembers_iff.2 fun n among => rangedMembers_iff.1 ranged n (List.mem_reverse.1 among)

theorem scansRanged_zero : ScansRanged 0 where
  value _ := trivial
  items _ _ _ ranged := ranged_array ranged _
  item _ _ ranged := ranged_array ranged _
  members _ _ _ ranged := ranged_object ranged _
  member _ _ ranged := ranged_object ranged _

theorem scansRanged_succ {fuel : Nat} (ih : ScansRanged fuel) : ScansRanged (fuel + 1) where
  value cs := by
    unfold scanValue
    split
    · trivial
    · exact scanWord_ranged (show Node.null.Ranged from trivial) _ _
    · exact scanWord_ranged (show (Node.bool true).Ranged from trivial) _ _
    · exact scanWord_ranged (show (Node.bool false).Ranged from trivial) _ _
    · trivial
    · exact ih.items _ _ _ trivial
    · exact ih.members _ _ _ trivial
    · exact numberNode_ranged _ _
    · split_ifs
      · exact numberNode_ranged _ _
      · trivial
  items first items cs ranged := by
    unfold scanItems
    split
    · exact ranged_array ranged _
    · exact ranged_array ranged _
    · split_ifs
      · exact ih.item _ _ ranged
      · split
        · exact ranged_array ranged _
        · exact ranged_array ranged _
        · exact ih.item _ _ ranged
      · exact ranged_array ranged _
  item items cs ranged := by
    have value := ih.value cs
    unfold scanItem
    split <;> rename_i same <;> rw [same] at value
    · exact ih.items _ _ _ ⟨value, ranged⟩
    · exact ranged_array (show RangedNodes (_ :: items) from ⟨value, ranged⟩) _
  members first members cs ranged := by
    unfold scanMembers
    split
    · exact ranged_object ranged _
    · exact ranged_object ranged _
    · split_ifs
      · exact ih.member _ _ ranged
      · exact ranged_object ranged _
      · split
        · exact ranged_object ranged _
        · exact ih.member _ _ ranged
        · exact ranged_object ranged _
        · exact ranged_object ranged _
      · exact ranged_object ranged _
  member members cs ranged := by
    have broken (key : Quoted) (fault : Fault) :
        RangedMembers ((key, .broken fault) :: members) := ⟨trivial, ranged⟩
    unfold scanMember
    split
    · exact ranged_object (broken _ _) _
    · split
      · rename_i text _
        have value := ih.value text
        split <;> rename_i same <;> rw [same] at value
        · exact ih.members _ _ _ ⟨value, ranged⟩
        · exact ranged_object (show RangedMembers ((_, _) :: members) from ⟨value, ranged⟩) _
      · exact ranged_object (broken _ _) _
      · exact ranged_object (broken _ _) _

theorem scansRanged (fuel : Nat) : ScansRanged fuel := by
  induction fuel with
  | zero => exact scansRanged_zero
  | succ fuel ih => exact scansRanged_succ ih

theorem scan_ranged (text : String) : (Document.scan text).root.Ranged := by
  have value := (scansRanged (3 * text.toList.length + 3)).value text.toList
  unfold Document.scan
  dsimp only
  split <;> simp_all

end MailRound.Json
