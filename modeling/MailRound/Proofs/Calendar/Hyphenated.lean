import MailRound.Calendar.Reading
import MailRound.Proofs.Text.Numerals

namespace MailRound.Calendar

variable {ds rest ys ms : List Char} {acc low high year month day : Nat} {text : String}

/-- The calendar has the day. February has a day more in every fourth year, but of the years that
end a century only in every fourth one. -/
def Exists (year month day : Nat) : Prop :=
  1 ≤ day ∧ (month ∈ [1, 3, 5, 7, 8, 10, 12] ∧ day ≤ 31 ∨ month ∈ [4, 6, 9, 11] ∧ day ≤ 30 ∨
    month = 2 ∧ (day ≤ 28 ∨ day = 29 ∧ 4 ∣ year ∧ (100 ∣ year → 400 ∣ year)))

instance : Decidable (Exists year month day) :=
  inferInstanceAs (Decidable (_ ∧ _))

theorem Exists.days (exist : Exists year month day) : 1 ≤ day ∧ day ≤ 31 := by
  obtain ⟨least, ⟨-, most⟩ | ⟨-, most⟩ | ⟨-, most⟩⟩ := exist
  · omega
  · omega
  · omega

end MailRound.Calendar
