import MailRound.Proofs.Documents.Fields
import MailRound.Proofs.Documents.Scanned
import MailRound.Proofs.Documents.Stored

namespace MailRound

open Json Json.Record

theorem nat32_read {d n : Nat} {node : Node} (read : Reader.nat32 d node = .ok n) :
    n < Text.limit32 :=
  Reader.unsigned_read read

theorem nat64_read {d n : Nat} {node : Node} (read : Reader.nat64 d node = .ok n) :
    n < Text.limit64 :=
  Reader.unsigned_read read

theorem PollingOverride.proper_of_read {d : Nat} {node : Node} {o : PollingOverride}
    (ranged : node.Ranged) (read : PollingOverride.reader (d + 1) node = .ok o) : o.Proper := by
  have draws := reader_draws ranged read
  obtain ⟨_, emails, draws₂, ofEmails, rfl⟩ := draws.app
  obtain ⟨_, interval, draws₁, ofInterval, rfl⟩ := draws₂.app
  obtain ⟨count, ofCount, rfl⟩ := draws₁.map
  refine ⟨fun n among => ?_, fun n among => ?_, fun n among => ?_⟩
  · obtain ⟨_, -, number⟩ := ofCount.optional n among
    exact nat32_read number
  · obtain ⟨_, -, number⟩ := ofInterval.optional n among
    exact nat64_read number
  · obtain ⟨_, -, number⟩ := ofEmails.optional n among
    exact nat32_read number

namespace Criteria

variable {d : Nat} {node : Node} {c : Criteria}

theorem reader_parts (read : Criteria.reader d node = .ok c) : ∃ e ms, d = e + 1 ∧
    node = .object ms none ∧ (∀ n ∈ c.maxEmails, n < Text.limit32) ∧
    valueMembers e (foreignMembers record.slots ms) [] = .ok c.extra := by
  obtain ⟨e, ms, f, extra, rfl, rfl, built, rest, rfl⟩ := openReader_parts read
  have draws : Draws (fun _ => True) record e f :=
    draws_objectSource (fun _ _ => trivial) built
  obtain ⟨_, limit, draws₁, ofLimit, rfl⟩ := draws.app
  obtain ⟨mark, -, rfl⟩ := draws₁.map
  refine ⟨e, ms, rfl, rfl, fun n among => ?_, rest⟩
  obtain ⟨_, -, number⟩ := ofLimit.optional n among
  exact nat32_read number

/-- Criteria that are read leave nothing under a name of their own to the provider. -/
theorem apart_of_read (read : Criteria.reader d node = .ok c) : c.Apart := by
  obtain ⟨e, ms, rfl, rfl, -, rest⟩ := reader_parts read
  have foreign := fun m among => findSlot?_record.1 (foreign_keys rest m among)
  exact ⟨Members.get?_eq_none.2 fun m among => (foreign m among).1.symm,
    Members.get?_eq_none.2 fun m among => (foreign m among).2.symm⟩

theorem proper_of_read (ranged : node.Ranged) (read : Criteria.reader d node = .ok c) :
    c.Proper ∧ c.toJson.depth ≤ d := by
  have apart := apart_of_read read
  obtain ⟨e, ms, rfl, rfl, limit, rest⟩ := reader_parts read
  have readable := readable_obj.2 <|
    valueMembers_readable (foreignMembers_ranged ranged) readableMembers_nil rest
  have proper : c.Proper := ⟨limit, readable.toProper⟩
  refine ⟨proper, ?_⟩
  rw [toJson_eq, depth_object_le (distinct proper apart)]
  refine ⟨e, rfl, fun m among => ?_⟩
  obtain own | free := List.mem_append.1 among
  · exact (own_depth m own).le.trans (Nat.zero_le e)
  · exact ((readable_obj.1 readable).2 m free).deep

end Criteria

namespace Account

theorem proper_of_read {d : Nat} {node : Node} {a : Account} (ranged : node.Ranged)
    (read : Account.reader (d + 2) node = .ok a) :
    a.Proper ∧ a.criteria.Apart ∧ a.toJson.depth ≤ d + 2 := by
  have draws := reader_draws ranged read
  obtain ⟨_, polling, draws₆, ofPolling, rfl⟩ := draws.app
  obtain ⟨_, criteria, draws₅, ofCriteria, rfl⟩ := draws₆.app
  obtain ⟨_, config, draws₄, ofConfig, rfl⟩ := draws₅.app
  obtain ⟨_, email, draws₃, -, rfl⟩ := draws₄.app
  obtain ⟨_, enabled, draws₂, -, rfl⟩ := draws₃.app
  obtain ⟨_, tag, draws₁, -, rfl⟩ := draws₂.app
  obtain ⟨id, -, rfl⟩ := draws₁.map
  have readable : (Json.obj config).Readable (d + 1) := readable_obj.2 <| by
    obtain rfl | ⟨n, ranged, members⟩ := ofConfig.withDefault
    · exact readableMembers_nil
    · exact Reader.members_read ranged members
  have criteria' : criteria.Proper ∧ criteria.Apart ∧ criteria.toJson.depth ≤ d + 1 := by
    obtain rfl | ⟨n, ranged, own⟩ := ofCriteria.withDefault
    · exact ⟨Criteria.default_proper, Criteria.default_apart,
        Criteria.default_depth.le.trans (Nat.le_add_left 1 d)⟩
    · obtain ⟨proper, deep⟩ := Criteria.proper_of_read ranged own
      exact ⟨proper, Criteria.apart_of_read own, deep⟩
  have polling' : ∀ o ∈ polling, o.Proper := by
    intro o among
    obtain ⟨n, ranged, own⟩ := ofPolling.optional o among
    exact PollingOverride.proper_of_read ranged own
  exact ⟨⟨readable.toProper, criteria'.1, polling'⟩, criteria'.2.1,
    depth_toJson_le.2 ⟨readable.deep, criteria'.2.2⟩⟩

end Account

namespace Roster

theorem proper_of_read {d : Nat} {node : Node} {r : Roster} (ranged : node.Ranged)
    (read : Roster.reader (d + 4) node = .ok r) :
    r.Proper ∧ r.Apart ∧ r.toJson.depth ≤ d + 4 := by
  have draws := reader_draws ranged read
  obtain ⟨accounts, ofAccounts, rfl⟩ := draws.map
  have each : ∀ a ∈ accounts, a.Proper ∧ a.criteria.Apart ∧ a.toJson.depth ≤ d + 2 := by
    obtain rfl | ⟨n, ranged, list⟩ := ofAccounts.withDefault
    · simp
    · intro a among
      obtain ⟨m, ranged, own⟩ := Reader.list_read ranged list a among
      exact Account.proper_of_read ranged own
  exact ⟨fun a among => (each a among).1, fun a among => (each a among).2.1,
    depth_toJson_le.2 fun a among => (each a among).2.2⟩

end Roster

namespace Json

theorem readText_print {r : Reader α} {j : Json} {a : α} (printable : j.Printable)
    (read : r depthLimit (toNode j) = .ok a) : readText r j.print = .ok a := by
  simp [readText, scan_print printable, Document.read, read]

theorem root_of_readText {r : Reader α} {text : String} {a : α} (read : readText r text = .ok a) :
    r depthLimit (Document.scan text).root = .ok a := by
  unfold readText Document.read at read
  split at read
  · cases read
  · split at read
    · cases read
    · rename_i value _ _
      exact Except.ok.inj read ▸ value

end Json

theorem Roster.ofText_eq_ok {text : String} {r : Roster} {log : List Log.Event} :
    Roster.ofText text = .ok (r, log) ↔
      readText Roster.reader text = .ok r ∧ r.validate = .ok log := by
  constructor
  · intro accepted
    unfold Roster.ofText at accepted
    split at accepted
    · cases accepted
    · rename_i s read
      cases valid : s.validate with
      | error fault => simp [valid, Except.map] at accepted
      | ok events =>
        simp only [valid, Except.map, Except.ok.injEq, Prod.mk.injEq] at accepted
        obtain ⟨rfl, rfl⟩ := accepted
        exact ⟨read, valid⟩
  · rintro ⟨read, valid⟩
    simp [Roster.ofText, read, valid, Except.map]

/-- Reading undoes writing, for every record that is kept as a document; of a date it is asked that
its text can be read. Criteria that are read leave no name of their own to the provider, so that an
account document, once accepted, is written as one that is accepted again and says the same. -/
theorem reading_undoes_writing :
    (∀ p : Polling, p.Proper → readText Polling.reader p.toJson.print = .ok p) ∧
    (∀ o : PollingOverride, o.Proper → readText PollingOverride.reader o.toJson.print = .ok o) ∧
    (∀ c : Criteria, c.Proper → c.Apart → c.Floatless → c.toJson.depth ≤ depthLimit →
      readText Criteria.reader c.toJson.print = .ok c) ∧
    (∀ a : Account, a.Proper → a.criteria.Apart → a.Floatless → a.toJson.depth ≤ depthLimit →
      readText Account.reader a.toJson.print = .ok a) ∧
    (∀ r : Roster, r.Proper → r.Apart → r.Floatless → r.toJson.depth ≤ depthLimit →
      readText Roster.reader r.toJson.print = .ok r) ∧
    (∀ a : Attachment, readText Attachment.reader a.toJson.print = .ok a) ∧
    (∀ m : Message, m.Proper → readText Message.reader m.toJson.print = .ok m) ∧
    (∀ s : QueueStats, s.Proper → readText QueueStats.reader s.toJson.print = .ok s) ∧
    (∀ d node (c : Criteria), Criteria.reader d node = .ok c → c.Apart) ∧
    (∀ text (r : Roster) log, Roster.ofText text = .ok (r, log) → r.Floatless →
      Roster.ofText r.toJson.print = .ok (r, log)) := by
  refine ⟨fun p proper => ?polling, fun o proper => ?override,
    fun c proper apart floatless deep => ?criteria,
    fun a proper apart floatless deep => ?account,
    fun r proper apart floatless deep => ?roster, fun a => ?attachment,
    fun m proper => ?message, fun s proper => ?stats, fun d node c read => ?apart,
    fun text r log accepted floatless => ?again⟩
  case polling => exact readText_print (p.printable proper) (p.reader_toJson proper 126)
  case override => exact readText_print (o.printable proper) (o.reader_toJson proper 126)
  case criteria =>
    exact readText_print (c.printable proper floatless) (c.reader_toJson proper apart deep)
  case account =>
    exact readText_print (a.printable proper floatless) (a.reader_toJson proper apart deep)
  case roster =>
    exact readText_print (r.printable proper floatless) (r.reader_toJson proper apart deep)
  case attachment => exact readText_print a.printable (a.reader_toJson 125)
  case message => exact readText_print m.printable (m.reader_toJson proper 123)
  case stats => exact readText_print (s.printable proper) (s.reader_toJson proper 126)
  case apart => exact Criteria.apart_of_read read
  case again =>
    obtain ⟨read, valid⟩ := Roster.ofText_eq_ok.1 accepted
    obtain ⟨proper, apart, deep⟩ := Roster.proper_of_read (scan_ranged text) (root_of_readText read)
    refine Roster.ofText_eq_ok.2 ⟨?_, valid⟩
    exact readText_print (r.printable proper floatless) (r.reader_toJson proper apart deep)

def Account.sample : Account :=
  ⟨"one", "imap", true, none, [("port", .int 993), ("server", .str "imap.example.com")],
    ⟨true, some 5, [("folder", .str "INBOX"), ("since", .null)]⟩, some ⟨some 3, none, none⟩⟩

theorem Account.sample_proper : Account.sample.Proper where
  config := by
    refine ⟨⟨?_, trivial, trivial, trivial⟩, ⟨by decide, by decide⟩, trivial, trivial⟩
    rw [Members.Sorted]
    decide +kernel
  criteria := by
    refine ⟨?_, ⟨?_, trivial, trivial, trivial⟩, trivial, trivial, trivial⟩
    · simp [sample, Text.limit32]
    · rw [Members.Sorted]
      decide +kernel
  polling := by
    rintro o same
    obtain rfl := Option.some.inj same
    exact ⟨by simp [Text.limit32], by simp, by simp⟩

theorem Account.sample_floatless : Account.sample.Floatless :=
  ⟨⟨trivial, trivial, trivial⟩, trivial, trivial, trivial⟩

def Message.sample : Message := { Message.new "1" .imap with receivedDate := some ⟨1700000000, 0⟩ }

theorem Message.sample_proper : Message.sample.Proper := by
  rintro t same
  obtain rfl := Option.some.inj same
  rfl

/-- A document may state an account by the places of its fields; it is written with their names. -/
theorem reading_undoes_writing_sample :
    readText Account.reader Account.sample.toJson.print = .ok Account.sample ∧
    readText Message.reader Message.sample.toJson.print = .ok Message.sample ∧
    ∃ r log, Roster.ofText "\x7b\"accounts\":[[\"one\",\"imap\"]]\x7d" = .ok (r, log) ∧
      r.accounts.map (·.id) = ["one"] ∧ Roster.ofText r.toJson.print = .ok (r, log) := by
  obtain ⟨-, -, -, account, -, -, message, -, -, again⟩ := reading_undoes_writing
  have seen : (Roster.ofText "\x7b\"accounts\":[[\"one\",\"imap\"]]\x7d").toOption.map (fun p =>
      p.1.accounts.map fun a => (a.id, a.config.isEmpty, a.criteria.extra.isEmpty)) =
        some [("one", true, true)] := by decide +kernel
  refine ⟨account _ Account.sample_proper ⟨rfl, rfl⟩ Account.sample_floatless (by decide +kernel),
    message _ Message.sample_proper, ?_⟩
  cases accepted : Roster.ofText "\x7b\"accounts\":[[\"one\",\"imap\"]]\x7d" with
  | error fault => simp [accepted, Except.toOption] at seen
  | ok p =>
    obtain ⟨⟨accounts⟩, log⟩ := p
    rw [accepted] at seen
    obtain ⟨a, rfl, same⟩ := List.map_eq_singleton_iff.1 (Option.some.inj seen)
    simp only [Prod.mk.injEq, List.isEmpty_iff] at same
    obtain ⟨id, config, extra⟩ := same
    refine ⟨⟨[a]⟩, log, rfl, by simp [id], again _ _ _ accepted ?_⟩
    refine List.forall_mem_singleton.2 ⟨?_, ?_⟩
    · rw [config]
      trivial
    · rw [Criteria.Floatless, extra]
      trivial

end MailRound
