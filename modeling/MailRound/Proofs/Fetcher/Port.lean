import MailRound.Fetcher.Settings
import MailRound.Proofs.Documents.Members
import MailRound.Proofs.Text.Numerals

namespace MailRound

namespace FetcherSettings

variable {s : FetcherSettings} {key t : String} {n : Nat}

/-- The settings with a value under a key, whatever was there. -/
def having (s : FetcherSettings) (key : String) (value : Json) : FetcherSettings :=
  { s with members := s.members.insert key value }

theorem get?_having (s : FetcherSettings) (key : String) (value : Json) :
    (s.having key value).members.get? key = some value := by
  rw [having, Json.Members.get?_insert, if_pos rfl]

theorem portOr_number (given : s.members.get? key = some (.ofNat n)) (default : Nat) :
    s.portOr key default = if n ≤ 65535 then .ok n else .error (s.invalid key) := by
  unfold portOr
  rw [given]
  by_cases fits : n ≤ 65535
  · have within : (0 : Int) ≤ n ∧ (n : Int) < 65536 := by omega
    rw [if_pos fits]
    exact if_pos within
  · have beyond : ¬((0 : Int) ≤ n ∧ (n : Int) < 65536) := by omega
    rw [if_neg fits]
    exact if_neg beyond

/-- A text is read for the number that it says, if that is one of a port. -/
theorem portOr_text (given : s.members.get? key = some (.str t)) (default : Nat) :
    (∃ n < 65536, Text.Denotes t n ∧ s.portOr key default = .ok n) ∨
      (∀ n < 65536, ¬Text.Denotes t n) ∧ s.portOr key default = .error (s.invalid key) := by
  simp only [Text.denotes_iff_unsigned_trim]
  unfold portOr
  rw [given]
  cases read : Text.readUnsigned 65536 (Text.trim t).toList with
  | ok n =>
    obtain ⟨unsigned, less⟩ := Text.readUnsigned_eq_ok_iff.1 read
    exact .inl ⟨n, less, unsigned, by simp only [read]⟩
  | error fault =>
    refine .inr ⟨fun n fits unsigned => ?_, by simp only [read]⟩
    rw [Text.readUnsigned_eq_ok_iff.2 ⟨unsigned, fits⟩] at read
    cases read

theorem portOr_of_denotes (given : s.members.get? key = some (.str t)) (meant : Text.Denotes t n)
    (default : Nat) :
    s.portOr key default = if n ≤ 65535 then .ok n else .error (s.invalid key) := by
  obtain ⟨m, fits, means, read⟩ | ⟨none, refused⟩ := portOr_text given default
  · obtain rfl := means.unique meant
    rw [read, if_pos (Nat.le_of_lt_succ fits)]
  · rw [refused, if_neg fun fits => none n (Nat.lt_succ_of_le fits) meant]

end FetcherSettings

/-- A port may be written as a number or as a text with the same meaning: the digits of the number
behind any zeros, perhaps a plus sign before them, and any white space around. Both give the port if
the number is one, else both are refused in the name of the key, and so is every text that is not an
optional plus sign and some digits once the white space is off, whatever else is in the settings. -/
theorem port_means_its_number (s : FetcherSettings) (key : String) (default : Nat) :
    (∀ n left plus zeros right, Text.IsBlankText left → Text.IsBlankText right →
      (s.having key (.str (Text.spelling left plus zeros n right))).portOr key default =
        (s.having key (.ofNat n)).portOr key default ∧
      (s.having key (.ofNat n)).portOr key default =
        if n ≤ 65535 then .ok n
        else .error (.config (s.provider.tag ++ " fetcher: invalid config." ++ key))) ∧
    ∀ t, (∀ n, ¬Text.Unsigned (Text.trim t).toList n) →
      (s.having key (.str t)).portOr key default =
        .error (.config (s.provider.tag ++ " fetcher: invalid config." ++ key)) := by
  constructor
  · intro n left plus zeros right before behind
    have meant : Text.Denotes (Text.spelling left plus zeros n right) n :=
      Text.denotes_iff_spelling.2 ⟨left, plus, zeros, right, before, behind, rfl⟩
    have number := FetcherSettings.portOr_number (s.get?_having key (.ofNat n)) default
    have text := FetcherSettings.portOr_of_denotes (s.get?_having key (.str _)) meant default
    exact ⟨text.trans number.symm, number⟩
  · intro t unsaid
    obtain ⟨n, -, denotes, -⟩ | ⟨-, refused⟩ :=
      FetcherSettings.portOr_text (s.get?_having key (.str t)) default
    · exact absurd (Text.denotes_iff_unsigned_trim.1 denotes) (unsaid n)
    · exact refused

theorem port_means_its_number_mixed :
    let s : FetcherSettings := ⟨.imap, [("port", .bool true), ("server", .str "mail")]⟩
    (s.having "port" (.str " +000993\t")).portOr "port" 143 = .ok 993 ∧
      (s.having "port" (.str "65536")).portOr "port" 143 =
        .error (.config "imap fetcher: invalid config.port") ∧
      (s.having "port" (.str " 99 3 ")).portOr "port" 143 =
        .error (.config "imap fetcher: invalid config.port") := by
  intro s
  obtain ⟨spelled, unsaid⟩ := port_means_its_number s "port" 143
  have blank : ∀ t : String, t.toList.all Text.isBlank = true → Text.IsBlankText t :=
    fun _ => List.all_eq_true.1
  obtain ⟨alike, port⟩ := spelled 993 " " true 3 "\t" (blank _ (by decide)) (blank _ (by decide))
  obtain ⟨alike', large⟩ := spelled 65536 "" false 0 "" (blank _ (by decide)) (blank _ (by decide))
  refine ⟨alike.trans port, alike'.trans large, unsaid " 99 3 " fun n unsigned => ?_⟩
  exact absurd (unsigned.sharp ' ' (by decide)) (by decide)

end MailRound
