import MailRound.Account.Roster
import MailRound.Mail.Queue
import MailRound.Proofs.Documents.Printed
import MailRound.Proofs.Documents.Records

namespace MailRound

open Json Json.Record

section Readers

variable (d : Nat)

theorem nat32_toNode {n : Nat} (fits : n < Text.limit32) :
    Reader.nat32 d (toNode (.ofNat n)) = .ok n :=
  Reader.unsigned_toNode _ d fits

theorem nat64_toNode {n : Nat} (fits : n < Text.limit64) :
    Reader.nat64 d (toNode (.ofNat n)) = .ok n :=
  Reader.unsigned_toNode _ d fits

theorem byte_toNode (b : UInt8) : Reader.byte d (toNode (.ofNat b.toNat)) = .ok b := by
  have fits : b.toNat < 256 := b.toNat_lt
  simp [Reader.byte, Reader.unsigned_toNode "u8" d fits, Except.map]

theorem optionalText_toNode (s : Option String) :
    Reader.option Reader.text d (toNode (.ofText s)) = .ok s :=
  Reader.option_toNode (fun _ _ => rfl) fun _ _ => by simp [toNode]

theorem texts_toNode (ss : List String) :
    Message.texts (d + 1) (toNode (.ofList .str ss)) = .ok ss :=
  Reader.list_toNode fun _ _ => rfl

theorem Provider.reader_toJson (p : Provider) : Provider.reader d (toNode p.toJson) = .ok p := by
  cases p <;> rfl

end Readers

theorem printable_ofNat {n : Nat} (fits : n < Text.limit64) : (Json.ofNat n).Printable :=
  ⟨trivial, by omega, by exact_mod_cast fits⟩

theorem printable_ofOption {f : α → Json} {o : Option α} (each : ∀ a ∈ o, (f a).Printable) :
    (ofOption f o).Printable := by
  cases o with
  | none => exact ⟨trivial, trivial⟩
  | some a => exact each a rfl

theorem printable_str (s : String) : (Json.str s).Printable := ⟨trivial, trivial⟩

theorem printable_ofText (s : Option String) : (ofText s).Printable :=
  printable_ofOption fun _ _ => printable_str _

theorem printable_texts (ss : List String) : (ofList .str ss).Printable :=
  printable_ofList fun _ _ => printable_str _

theorem printable_fields {fields : Members} (each : fields.Forall fun m => m.2.Printable) :
    (object fields).Printable :=
  printable_object (List.forall_iff_forall_mem.1 each)

/-- The numbers fit in 32 and in 64 bits. -/
structure Polling.Proper (p : Polling) : Prop where
  maxPollCount : p.maxPollCount < Text.limit32
  pollInterval : p.pollInterval < Text.limit64
  maxEmailsPerPoll : p.maxEmailsPerPoll < Text.limit32

theorem lt_limit64 {n : Nat} (fits : n < Text.limit32) : n < Text.limit64 :=
  fits.trans (by decide)

theorem Polling.printable {p : Polling} (proper : p.Proper) : p.toJson.Printable :=
  printable_fields ⟨printable_ofNat (lt_limit64 proper.maxPollCount),
    printable_ofNat proper.pollInterval, printable_ofNat (lt_limit64 proper.maxEmailsPerPoll)⟩

theorem Polling.reader_toJson {p : Polling} (proper : p.Proper) (d : Nat) :
    Polling.reader (d + 1) (toNode p.toJson) = .ok p := by
  obtain ⟨count, interval, emails⟩ := p
  refine reader_object "PollingConfig" (by simp) (.app (.app (.map _ ?_) ?_) ?_)
  · exact restores_required rfl (nat32_toNode d proper.maxPollCount)
  · exact restores_required rfl (nat64_toNode d proper.pollInterval)
  · exact restores_required rfl (nat32_toNode d proper.maxEmailsPerPoll)

structure PollingOverride.Proper (o : PollingOverride) : Prop where
  maxPollCount : ∀ n ∈ o.maxPollCount, n < Text.limit32
  pollInterval : ∀ n ∈ o.pollInterval, n < Text.limit64
  maxEmailsPerPoll : ∀ n ∈ o.maxEmailsPerPoll, n < Text.limit32

theorem PollingOverride.printable {o : PollingOverride} (proper : o.Proper) :
    o.toJson.Printable :=
  printable_fields
    ⟨printable_ofOption fun n among => printable_ofNat (lt_limit64 (proper.maxPollCount n among)),
      printable_ofOption fun n among => printable_ofNat (proper.pollInterval n among),
      printable_ofOption fun n among =>
        printable_ofNat (lt_limit64 (proper.maxEmailsPerPoll n among))⟩

theorem PollingOverride.reader_toJson {o : PollingOverride} (proper : o.Proper) (d : Nat) :
    PollingOverride.reader (d + 1) (toNode o.toJson) = .ok o := by
  obtain ⟨count, interval, emails⟩ := o
  refine reader_object "PollingOverride" (by simp) (.app (.app (.map _ ?_) ?_) ?_)
  · exact restores_withDefault rfl (Reader.option_toNode
      (fun n among => nat32_toNode d (proper.maxPollCount n among)) (by simp [toNode, ofNat]))
  · exact restores_withDefault rfl (Reader.option_toNode
      (fun n among => nat64_toNode d (proper.pollInterval n among)) (by simp [toNode, ofNat]))
  · exact restores_withDefault rfl (Reader.option_toNode
      (fun n among => nat32_toNode d (proper.maxEmailsPerPoll n among)) (by simp [toNode, ofNat]))

/-- A point in time whose text can be read. -/
def Calendar.Instant.Legible (t : Calendar.Instant) : Prop := Calendar.Instant.read t.text = .ok t

theorem optionalInstant_toNode {t : Option Calendar.Instant} (d : Nat)
    (legible : ∀ i ∈ t, i.Legible) : Reader.option Calendar.Instant.reader d
      (toNode (.ofOption Calendar.Instant.toJson t)) = .ok t := by
  refine Reader.option_toNode (fun i among => ?_) (by simp [Calendar.Instant.toJson, toNode])
  have text : Calendar.Instant.read i.text = .ok i := legible i among
  simp [Calendar.Instant.reader, Calendar.Instant.toJson, toNode, text]

theorem Attachment.reader_toJson (a : Attachment) (d : Nat) :
    Attachment.reader (d + 2) (toNode a.toJson) = .ok a := by
  obtain ⟨filename, contentType, content⟩ := a
  refine reader_object "Attachment" (by simp) (.app (.app (.map _ ?_) ?_) ?_)
  · exact restores_required rfl rfl
  · exact restores_required rfl rfl
  · exact restores_required rfl (Reader.list_toNode fun b _ => byte_toNode d b)

theorem Attachment.printable (a : Attachment) : a.toJson.Printable :=
  printable_fields ⟨printable_str _, printable_str _,
    printable_ofList fun b _ => printable_ofNat (b.toNat_lt.trans (by decide))⟩

def Message.Proper (m : Message) : Prop := ∀ t ∈ m.receivedDate, t.Legible

theorem Message.printable (m : Message) : m.toJson.Printable :=
  printable_fields ⟨printable_str _, printable_ofText _, printable_ofText _, printable_ofText _,
    printable_texts _, printable_texts _, printable_texts _, printable_ofText _,
    printable_ofText _, printable_ofOption fun _ _ => printable_str _,
    printable_ofList fun a _ => a.printable, printable_str _, printable_ofText _⟩

theorem Message.reader_toJson {m : Message} (proper : m.Proper) (d : Nat) :
    Message.reader (d + 4) (toNode m.toJson) = .ok m := by
  obtain ⟨id, messageId, subject, sender, to', cc, bcc, plain, html, date, attachments, provider,
    account⟩ := m
  refine reader_object "EmailMessage" (by simp) (.app (.app (.app (.app (.app (.app (.app (.app
    (.app (.app (.app (.app (.map _ ?_) ?_) ?_) ?_) ?_) ?_) ?_) ?_) ?_) ?_) ?_) ?_) ?_)
  · exact restores_required rfl rfl
  · exact restores_nullable rfl (optionalText_toNode _ messageId)
  · exact restores_nullable rfl (optionalText_toNode _ subject)
  · exact restores_nullable rfl (optionalText_toNode _ sender)
  · exact restores_withDefault rfl (texts_toNode _ to')
  · exact restores_withDefault rfl (texts_toNode _ cc)
  · exact restores_withDefault rfl (texts_toNode _ bcc)
  · exact restores_nullable rfl (optionalText_toNode _ plain)
  · exact restores_nullable rfl (optionalText_toNode _ html)
  · exact restores_nullable rfl (optionalInstant_toNode _ proper)
  · exact restores_withDefault rfl (Reader.list_toNode fun a _ => a.reader_toJson d)
  · exact restores_required rfl (provider.reader_toJson _)
  · exact restores_nullable rfl (optionalText_toNode _ account)

structure QueueStats.Proper (s : QueueStats) : Prop where
  totalMessages : s.totalMessages < Text.limit64
  lastMessageTime : ∀ t ∈ s.lastMessageTime, t.Legible

theorem QueueStats.printable {s : QueueStats} (proper : s.Proper) : s.toJson.Printable :=
  printable_fields ⟨printable_ofNat proper.totalMessages,
    printable_ofOption fun _ _ => printable_str _⟩

theorem QueueStats.reader_toJson {s : QueueStats} (proper : s.Proper) (d : Nat) :
    QueueStats.reader (d + 1) (toNode s.toJson) = .ok s := by
  obtain ⟨total, last⟩ := s
  refine reader_object "QueueStats" (by simp) (.app (.map _ ?_) ?_)
  · exact restores_required rfl (nat64_toNode d proper.totalMessages)
  · exact restores_nullable rfl (optionalInstant_toNode d proper.lastMessageTime)

namespace Criteria

structure Proper (c : Criteria) : Prop where
  limit : ∀ n ∈ c.maxEmails, n < Text.limit32
  extra : (Json.obj c.extra).Proper

/-- Among the criteria of the provider is none of the two that all providers have. -/
def Apart (c : Criteria) : Prop :=
  c.extra.get? "mark_as_read_after_fetch" = none ∧ c.extra.get? "max_emails" = none

def Floatless (c : Criteria) : Prop := (Json.obj c.extra).Floatless

def own (c : Criteria) : Members :=
  ("mark_as_read_after_fetch", .bool c.markAsRead) :: match c.maxEmails with
    | none => []
    | some n => [("max_emails", .ofNat n)]

theorem toJson_eq (c : Criteria) : c.toJson = object (c.own ++ c.extra) := rfl

theorem findSlot?_record {name : String} : findSlot? record.slots name = none ↔
    "mark_as_read_after_fetch" ≠ name ∧ "max_emails" ≠ name := by
  simp [findSlot?, record, Record.app, Record.map, withDefault, Record.optional, slot]

variable {c : Criteria}

theorem Apart.unknown (apart : c.Apart) : ∀ m ∈ c.extra, findSlot? record.slots m.1 = none := by
  obtain ⟨mark, limit⟩ := apart
  exact fun m among => findSlot?_record.2
    ⟨(Members.get?_eq_none.1 mark m among).symm, (Members.get?_eq_none.1 limit m among).symm⟩

theorem own_known : ∀ m ∈ c.own, findSlot? record.slots m.1 ≠ none := by
  cases limit : c.maxEmails <;> simp [own, limit, findSlot?_record]

theorem own_depth : ∀ m ∈ c.own, m.2.depth = 0 := by
  cases limit : c.maxEmails <;> simp [own, limit, depth, ofNat]

theorem distinct (proper : c.Proper) (apart : c.Apart) :
    ((c.own ++ c.extra).map Prod.fst).Nodup := by
  rw [List.map_append, List.nodup_append']
  refine ⟨?_, Members.Sorted.nodup proper.extra.canonical.1, fun name own' extra => ?_⟩
  · cases limit : c.maxEmails <;> simp [own, limit]
  · obtain ⟨m, known, rfl⟩ := List.mem_map.1 own'
    obtain ⟨n, free, same⟩ := List.mem_map.1 extra
    exact own_known m known (same ▸ apart.unknown n free)

theorem own_printable (proper : c.Proper) : ∀ m ∈ c.own, m.2.Printable := by
  refine List.forall_mem_cons.2 ⟨⟨trivial, trivial⟩, ?_⟩
  cases limit : c.maxEmails with
  | none => exact List.forall_mem_nil _
  | some n =>
    exact List.forall_mem_singleton.2 (printable_ofNat (lt_limit64 (proper.limit n limit)))

theorem default_proper : Criteria.default.Proper :=
  ⟨by simp [Criteria.default], ⟨List.Pairwise.nil, trivial⟩, trivial⟩

theorem default_apart : Criteria.default.Apart := ⟨rfl, rfl⟩

theorem default_depth : Criteria.default.toJson.depth = 1 := rfl

theorem printable (proper : c.Proper) (floatless : c.Floatless) : c.toJson.Printable := by
  have extra := printable_obj.1 ⟨floatless, proper.extra.ranged⟩
  rw [toJson_eq]
  exact printable_object fun m among =>
    (List.mem_append.1 among).elim (own_printable proper m) (extra m)

theorem reader_toJson (proper : c.Proper) (apart : c.Apart) {d : Nat} (deep : c.toJson.depth ≤ d) :
    Criteria.reader d (toNode c.toJson) = .ok c := by
  have distinct := distinct proper apart
  rw [toJson_eq] at deep ⊢
  obtain ⟨d, rfl, inside⟩ := (depth_object_le distinct).1 deep
  have readable : ReadableMembers d c.extra := readable_obj.1
    ⟨proper.extra, depth_obj_le.2 ⟨d, rfl, fun m among => inside m (List.mem_append_right _ among)⟩⟩
  have restores : record.Restores d (c.own ++ c.extra) (Criteria.mk c.markAsRead c.maxEmails) := by
    refine .app (.map _ (restores_withDefault rfl rfl)) ?_
    cases limit : c.maxEmails with
    | none => exact restores_default (by simp [own, limit, Members.get?, apart.2])
    | some n =>
      have found : Members.get? (c.own ++ c.extra) "max_emails" = some (.ofNat n) := by
        simp [own, limit, Members.get?]
      refine restores_withDefault found ?_
      exact Reader.option_toNode (f := Json.ofNat) (o := some n)
        (fun m among => nat32_toNode d (proper.limit m (limit.trans among))) (by simp [toNode, ofNat])
  exact openReader_object "FetchCriteria" distinct restores readable own_known apart.unknown

end Criteria

theorem PollingOverride.depth_toJson (o : PollingOverride) : o.toJson.depth ≤ 1 := by
  have number (n : Option Nat) : (ofOption .ofNat n).depth = 0 := by cases n <;> rfl
  exact (depth_object_le (by simp)).2 ⟨0, rfl, by simp [number]⟩

namespace Account

structure Proper (a : Account) : Prop where
  config : (Json.obj a.config).Proper
  criteria : a.criteria.Proper
  polling : ∀ o ∈ a.polling, o.Proper

structure Floatless (a : Account) : Prop where
  config : (Json.obj a.config).Floatless
  criteria : a.criteria.Floatless

variable {a : Account}

theorem printable (proper : a.Proper) (floatless : a.Floatless) : a.toJson.Printable :=
  printable_fields ⟨printable_str _, printable_str _, ⟨trivial, trivial⟩, printable_ofText _,
    ⟨floatless.config, proper.config.ranged⟩,
    Criteria.printable proper.criteria floatless.criteria,
    printable_ofOption fun o among => o.printable (proper.polling o among)⟩

theorem depth_toJson_le {d : Nat} : a.toJson.depth ≤ d + 2 ↔
    (Json.obj a.config).depth ≤ d + 1 ∧ a.criteria.toJson.depth ≤ d + 1 := by
  have text (s : Option String) : (ofText s).depth = 0 := by cases s <;> rfl
  have polling : (ofOption PollingOverride.toJson a.polling).depth ≤ d + 1 := by
    cases a.polling with
    | none => exact Nat.zero_le _
    | some o => exact o.depth_toJson.trans (Nat.le_add_left 1 d)
  rw [toJson, depth_object_le (by simp)]
  simp [text, polling, depth]

theorem reader_toJson (proper : a.Proper) (apart : a.criteria.Apart) {d : Nat}
    (deep : a.toJson.depth ≤ d + 2) : Account.reader (d + 2) (toNode a.toJson) = .ok a := by
  obtain ⟨config, criteria⟩ := depth_toJson_le.1 deep
  obtain ⟨id, tag, enabled, email, config, criteria, polling⟩ := a
  refine reader_object "AccountConfig" (by simp) (.app (.app (.app (.app (.app (.app (.map _
    ?_) ?_) ?_) ?_) ?_) ?_) ?_)
  · exact restores_withDefault rfl rfl
  · exact restores_required rfl rfl
  · exact restores_withDefault rfl rfl
  · exact restores_withDefault rfl (optionalText_toNode _ email)
  · exact restores_withDefault rfl (Reader.members_toNode ⟨proper.config, ‹_›⟩)
  · exact restores_withDefault rfl (Criteria.reader_toJson proper.criteria apart ‹_›)
  · exact restores_withDefault rfl (Reader.option_toNode
      (fun o among => o.reader_toJson (proper.polling o among) d)
      (by simp [PollingOverride.toJson, object, toNode]))

end Account

namespace Roster

def Proper (r : Roster) : Prop := ∀ a ∈ r.accounts, a.Proper

def Apart (r : Roster) : Prop := ∀ a ∈ r.accounts, a.criteria.Apart

def Floatless (r : Roster) : Prop := ∀ a ∈ r.accounts, a.Floatless

variable {r : Roster}

theorem printable (proper : r.Proper) (floatless : r.Floatless) : r.toJson.Printable :=
  printable_object <| List.forall_mem_singleton.2 <|
    printable_ofList fun a among => a.printable (proper a among) (floatless a among)

theorem depth_toJson_le {d : Nat} :
    r.toJson.depth ≤ d + 2 ↔ ∀ a ∈ r.accounts, a.toJson.depth ≤ d := by
  rw [toJson, depth_object_le (by simp)]
  simp [depth_ofList_le]

theorem reader_toJson (proper : r.Proper) (apart : r.Apart) {d : Nat}
    (deep : r.toJson.depth ≤ d + 4) : Roster.reader (d + 4) (toNode r.toJson) = .ok r := by
  have deep := depth_toJson_le.1 deep
  refine reader_object "PollerConfig" (by simp) (.map _ (restores_withDefault rfl ?_))
  exact Reader.list_toNode fun a among =>
    Account.reader_toJson (proper a among) (apart a among) (deep a among)

end Roster

end MailRound
