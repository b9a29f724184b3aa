import MailRound.Proofs.Documents.Reread
import MailRound.Proofs.Documents.Steady

namespace MailRound

open Json Json.Record

namespace PollingOverride

def shape : Shape :=
  .record [("max_poll_count", .free), ("poll_interval", .free), ("max_emails_per_poll", .free)]

theorem steady : Steady shape reader :=
  reader_steady "PollingOverride" rfl (by decide) <|
    .app (.app (.map (optional_steady (Reader.unsigned_steady _ _)) _)
      (optional_steady (Reader.unsigned_steady _ _))) (optional_steady (Reader.unsigned_steady _ _))

end PollingOverride

theorem Criteria.steady : Steady .free Criteria.reader :=
  openReader_steady "FetchCriteria" <|
    .app (.map (withDefault_steady Reader.bool_steady) _)
      (optional_steady (Reader.unsigned_steady _ _))

namespace Account

def shape : Shape :=
  .record [("id", .free), ("type", .free), ("enabled", .free), ("email_address", .free),
    ("config", .free), ("fetch_criteria", .free), ("polling_config", PollingOverride.shape)]

theorem steady : Steady shape reader := by
  refine reader_steady "AccountConfig" rfl (by decide)
    (.app (.app (.app (.app (.app (.app (.map ?_ _) ?_) ?_) ?_) ?_) ?_) ?_)
  · exact withDefault_steady Reader.text_steady
  · exact required_steady Reader.text_steady
  · exact withDefault_steady Reader.bool_steady
  · exact optional_steady Reader.text_steady
  · exact withDefault_steady Reader.members_steady
  · exact withDefault_steady Criteria.steady
  · exact optional_steady PollingOverride.steady

end Account

namespace Roster

def shape : Shape := .record [("accounts", .list Account.shape)]

theorem steady : Steady shape reader :=
  reader_steady "PollerConfig" rfl (by decide) <|
    .map (withDefault_steady (Reader.list_steady Account.steady)) _

end Roster

namespace Json

theorem Node.Distinct.field {r : Record α} {name : String} {node n : Node}
    (distinct : node.Distinct) (found : r.field? name node = some n) : n.Distinct := by
  cases node with
  | object ms close =>
    obtain ⟨m, there, rfl⟩ := mem_of_lookup found
    exact distinctMembers_iff.1 distinct.2 m there
  | array ns close => exact distinctNodes_iff.1 distinct n (mem_of_placeOf found)
  | _ => cases found

end Json

namespace Criteria

def ownFields : List String := ["mark_as_read_after_fetch", "max_emails"]

/-- Of some members the criteria keep all that are no fields of their own, with their values, and
nothing else. -/
structure Keeps (c : Criteria) (ms : List (Quoted × Node)) : Prop where
  each : ∀ m ∈ ms, ∀ k, m.1.text = .ok k → k ∉ ownFields →
    ∃ j, m.2.value depthLimit = .ok j ∧ c.extra.get? k = some j
  only : ∀ k j, c.extra.get? k = some j →
    k ∉ ownFields ∧ ∃ m ∈ ms, m.1.text = .ok k ∧ m.2.value depthLimit = .ok j

theorem findSlot?_eq_none_iff {name : String} :
    findSlot? record.slots name = none ↔ name ∉ ownFields :=
  findSlot?_eq_none

theorem keeps_of_read {d : Nat} {ms : List (Quoted × Node)} {c : Criteria}
    (distinct : (keys ms).Nodup) (le : d ≤ depthLimit)
    (read : Criteria.reader d (.object ms none) = .ok c) : c.Keeps ms := by
  obtain ⟨e, ms', rfl, same, -, rest⟩ := reader_parts read
  obtain rfl := (Node.object.inj same).1
  have once : (keys (foreignMembers record.slots ms)).Nodup :=
    distinct.sublist (List.filter_sublist.filterMap _)
  have value {n : Node} {j : Json} (read : n.value e = .ok j) : n.value depthLimit = .ok j :=
    value_mono ((Nat.le_succ e).trans le) read
  obtain ⟨each, only⟩ := valueMembers_get? once rest
  refine ⟨fun m among k name other => ?_, fun k j found => ?_⟩
  · obtain ⟨k', j, ⟨name', read⟩, found⟩ :=
      each m (mem_foreignMembers.2 ⟨among, k, name, findSlot?_eq_none_iff.2 other⟩)
    obtain rfl : k = k' := Except.ok.inj (name.symm.trans name')
    exact ⟨j, value read, found⟩
  · obtain ⟨m, there, name, read⟩ := only k j found
    obtain ⟨among, k', name', free⟩ := mem_foreignMembers.1 there
    obtain rfl : k = k' := Except.ok.inj (name.symm.trans name')
    exact ⟨findSlot?_eq_none_iff.1 free, m, among, name, value read⟩

end Criteria

def Account.Keeps (node : Node) (a : Account) : Prop :=
  ∀ ms, Account.record.field? "fetch_criteria" node = some (.object ms none) → a.criteria.Keeps ms

theorem Account.keeps_of_read {d : Nat} {node : Node} {a : Account} (distinct : node.Distinct)
    (le : d ≤ depthLimit) (read : Account.reader (d + 1) node = .ok a) : Account.Keeps node a := by
  intro ms found
  obtain ⟨src, rfl, fields, built⟩ := reader_built read
  obtain ⟨_, polling, built₆, -, rfl⟩ := built_app built
  obtain ⟨_, criteria, built₅, ofCriteria, rfl⟩ := built_app built₆
  obtain ⟨_, config, built₄, -, rfl⟩ := built_app built₅
  obtain ⟨_, email, built₃, -, rfl⟩ := built_app built₄
  obtain ⟨_, enabled, built₂, -, rfl⟩ := built_app built₃
  obtain ⟨_, tag, built₁, -, rfl⟩ := built_app built₂
  obtain ⟨id, -, rfl⟩ := built_map built₁
  have own := built_withDefault ofCriteria ((fields _).trans found)
  exact Criteria.keeps_of_read (distinct.field found).1 le own

theorem Roster.keeps_of_read {d : Nat} {node : Node} {nodes : List Node} {r : Roster}
    (distinct : node.Distinct) (le : d ≤ depthLimit) (read : Roster.reader (d + 3) node = .ok r)
    (found : Roster.record.field? "accounts" node = some (.array nodes none)) :
    List.Forall₂ Account.Keeps nodes r.accounts := by
  obtain ⟨src, at', fields, built⟩ := reader_built read
  obtain ⟨accounts, ofAccounts, rfl⟩ := built_map built
  have list := built_withDefault ofAccounts ((fields _).trans found)
  rw [at', Reader.list_array] at list
  have each := (List.forall₂_and_left _ _).2
    ⟨distinctNodes_iff.1 (distinct.field found), Reader.items_each list⟩
  exact each.imp fun n a both => Account.keeps_of_read both.1 le both.2

/-- It does not matter how an account document is arranged: with the members of its objects in
another order, or with members of any value that its records do not know, it is accepted all the
same and says the same. Only fetch criteria keep whatever they do not know. -/
theorem arrangement_does_not_matter {text text' : String} {doc doc' : Node}
    (spelling : Spelling doc text) (spelling' : Spelling doc' text') (distinct : doc.Distinct)
    (rearranged : Rearranged Roster.shape doc doc') :
    (∀ out, Roster.ofText text = .ok out ↔ Roster.ofText text' = .ok out) ∧
    ∀ r log, Roster.ofText text = .ok (r, log) → ∀ nodes,
      Roster.record.field? "accounts" doc = some (.array nodes none) →
        List.Forall₂ Account.Keeps nodes r.accounts := by
  have read {n : Node} {text : String} (spelling : Spelling n text) (r : Roster) :
      readText Roster.reader text = .ok r ↔ Roster.reader depthLimit n = .ok r := by
    rw [readText, scan_spelled spelling, Document.read]
    cases Roster.reader depthLimit n <;> simp
  have agree : Agree (Roster.reader depthLimit doc) (Roster.reader depthLimit doc') :=
    Roster.steady depthLimit doc doc' ⟨distinct, spelling.skips, spelling'.skips, rearranged⟩
  constructor
  · rintro ⟨r, log⟩
    rw [Roster.ofText_eq_ok, Roster.ofText_eq_ok, read spelling, read spelling', agree r]
  · intro r log accepted nodes found
    have own := (read spelling r).1 (Roster.ofText_eq_ok.1 accepted).1
    exact Roster.keeps_of_read (d := 124) distinct (by decide) own found

namespace Json

def Change.stated (key : String) (old new : Json) : Change :=
  ⟨⟨.ok key, none⟩, toNode old, toNode new⟩

theorem rearranged_reversed {s : Shape} (changes : List Change) (added : List (Quoted × Node))
    (each : ∀ c ∈ changes, Rearranged (s.member c.key) c.old c.new)
    (foreign : ∀ m ∈ added, s.Admits m.1) :
    Rearranged s (.object (changes.map Change.before) none)
      (.object (changes.map Change.after ++ added).reverse none) :=
  .object changes added each foreign (List.reverse_perm _)

theorem rearranged_single {s : Shape} {n n' : Node} (only : Rearranged (s.item 0) n n') :
    Rearranged s (.array [n] none) (.array [n'] none) := by
  apply Rearranged.array [(n, n')]
  intro i p at'
  cases i with
  | zero => exact Option.some.inj at' ▸ only
  | succ i => simp at at'

end Json

namespace Roster

def sampleCriteria : Json := .obj [("folder", .str "INBOX"), ("max_emails", .int 5)]

def sampleCriteria' : Json := .obj [("max_emails", .int 5), ("folder", .str "INBOX")]

def samplePolling : Json := .obj [("poll_interval", .int 5)]

def samplePolling' : Json := .obj [("note", .arr []), ("poll_interval", .int 5)]

def sample : Json :=
  .obj [("accounts", .arr [.obj [("id", .str "one"), ("type", .str "imap"),
    ("fetch_criteria", sampleCriteria), ("polling_config", samplePolling)]])]

/-- The same document from back to front, with something unknown in each of its records. -/
def sample' : Json :=
  .obj [("version", .int 2), ("accounts", .arr [.obj [("colour", .obj [("id", .null)]),
    ("polling_config", samplePolling'), ("fetch_criteria", sampleCriteria'),
    ("type", .str "imap"), ("id", .str "one")]])]

theorem sample_printable : sample.Printable ∧ sample'.Printable := by
  have wide : Wide 5 ∧ Wide 2 := ⟨⟨by decide, by decide⟩, by decide, by decide⟩
  constructor <;> constructor <;>
    simp [sample, sample', samplePolling, samplePolling', sampleCriteria, sampleCriteria',
      Json.Floatless, Json.Ranged, Scalars, ScalarItems, ScalarMembers, wide]

theorem sample_distinct : (toNode sample).Distinct := by
  simp [sample, samplePolling, sampleCriteria, toNode, toNodes, toMemberNodes, Node.Distinct,
    DistinctNodes, DistinctMembers, keys, Except.toOption]

theorem sample_rearranged : Rearranged shape (toNode sample) (toNode sample') := by
  have criteria : Rearranged .free (toNode sampleCriteria) (toNode sampleCriteria') :=
    rearranged_reversed [.stated "folder" (.str "INBOX") (.str "INBOX"),
      .stated "max_emails" (.int 5) (.int 5)] []
      (by simp [Change.stated, Rearranged.same]) (by simp)
  have polling : Rearranged PollingOverride.shape (toNode samplePolling) (toNode samplePolling') :=
    rearranged_reversed [.stated "poll_interval" (.int 5) (.int 5)]
      [(⟨.ok "note", none⟩, toNode (.arr []))] (by simp [Change.stated, Rearranged.same])
      (by simp [PollingOverride.shape, Shape.Admits])
  have account := rearranged_reversed (s := Account.shape)
    [.stated "id" (.str "one") (.str "one"), .stated "type" (.str "imap") (.str "imap"),
      .stated "fetch_criteria" sampleCriteria sampleCriteria',
      .stated "polling_config" samplePolling samplePolling']
    [(⟨.ok "colour", none⟩, toNode (.obj [("id", .null)]))]
    (by simpa [Change.stated, Rearranged.same] using ⟨criteria, polling⟩)
    (by simp [Account.shape, Shape.Admits])
  have accounts := rearranged_single (s := .list Account.shape) account
  exact rearranged_reversed [⟨⟨.ok "accounts", none⟩, _, _⟩]
    [(⟨.ok "version", none⟩, toNode (.int 2))] (List.forall_mem_singleton.2 accounts)
    (by simp [shape, Shape.Admits])

end Roster

theorem arrangement_does_not_matter_sample :
    Roster.sample.print ≠ Roster.sample'.print ∧
    ((Roster.ofText Roster.sample'.print).toOption.map fun p => p.1.accounts.map fun a =>
      (a.id, a.polling.bind (·.pollInterval), a.criteria.extra.map Prod.fst)) =
        some [("one", some 5, ["folder"])] ∧
    ∀ out, Roster.ofText Roster.sample.print = .ok out ↔
      Roster.ofText Roster.sample'.print = .ok out := by
  obtain ⟨printable, printable'⟩ := Roster.sample_printable
  refine ⟨by decide +kernel, by decide +kernel, ?_⟩
  exact (arrangement_does_not_matter (spells_print _ printable).bare (spells_print _ printable').bare
    Roster.sample_distinct Roster.sample_rearranged).1

end MailRound
