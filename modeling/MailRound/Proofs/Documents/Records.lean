import MailRound.Json.Record
import MailRound.Proofs.Documents.Values

namespace MailRound.Json

namespace Reader

theorem unsigned_toNode {bound n : Nat} (name : String) (d : Nat) (fits : n < bound) :
    unsigned name bound d (toNode (.ofNat n)) = .ok n := by
  have within : (0 : Int) ≤ n ∧ (n : Int) < bound := ⟨Int.natCast_nonneg n, Int.ofNat_lt.2 fits⟩
  simp [toNode, ofNat, unsigned, within]

theorem option_toNode {r : Reader α} {f : α → Json} {d : Nat} {o : Option α}
    (read : ∀ a ∈ o, r d (toNode (f a)) = .ok a) (some' : ∀ a ∈ o, toNode (f a) ≠ .null) :
    option r d (toNode (.ofOption f o)) = .ok o := by
  cases o with
  | none => rfl
  | some a =>
    have value := read a rfl
    have other := some' a rfl
    unfold ofOption option
    split
    · contradiction
    · rw [value]
      rfl

theorem items_toNodes {r : Reader α} {f : α → Json} {d : Nat} {as : List α}
    (read : ∀ a ∈ as, r d (toNode (f a)) = .ok a) : items r d (toNodes (as.map f)) = .ok as := by
  induction as with
  | nil => rfl
  | cons a as ih =>
    obtain ⟨first, rest⟩ := List.forall_mem_cons.1 read
    simp [toNodes, items, first, ih rest]

theorem list_toNode {r : Reader α} {f : α → Json} {d : Nat} {as : List α}
    (read : ∀ a ∈ as, r d (toNode (f a)) = .ok a) :
    list r (d + 1) (toNode (.ofList f as)) = .ok as := by
  simp [Json.ofList, toNode, list, items_toNodes read]

theorem members_toNode {d : Nat} {ms : Members} (readable : (Json.obj ms).Readable d) :
    members d (toNode (.obj ms)) = .ok ms := by
  obtain ⟨d, rfl, -⟩ := depth_obj_le.1 readable.deep
  obtain ⟨⟨⟨sorted, canonical⟩, -⟩, deep⟩ := readable
  have inside := valueMembers_toMemberNodes [] canonical (Nat.le_of_succ_le_succ deep) sorted
  rw [List.nil_append] at inside
  simp [toNode, members, inside]

end Reader

namespace Record

structure States (src : Source) (d : Nat) (ms : Members) : Prop where
  depth : src.depth = d
  sparse : src.sparse = true
  get? : ∀ name, src.get? name = (ms.get? name).map toNode

/-- The fields of the object pass the checks of the record, and give a value. -/
structure Restores (r : Record α) (d : Nat) (ms : Members) (a : α) : Prop where
  checks : ∀ s ∈ r.slots, ∀ j, ms.get? s.name = some j → s.check d (toNode j) = .ok ()
  builds : ∀ place src, States src d ms → r.build place src = .ok a

variable {d : Nat} {ms : Members} {name : String} {j : Json}

theorem slot_check {r : Reader α} {a : α} (found : ms.get? name = some j)
    (read : r d (toNode j) = .ok a) :
    ∀ s ∈ [slot name r], ∀ j, ms.get? s.name = some j → s.check d (toNode j) = .ok () := by
  intro s only j' found'
  obtain rfl := List.mem_singleton.1 only
  obtain rfl := Option.some.inj (found.symm.trans found')
  simp [slot, read, Except.map]

theorem restores_required {r : Reader α} {a : α} (found : ms.get? name = some j)
    (read : r d (toNode j) = .ok a) : (required name r).Restores d ms a where
  checks := slot_check found read
  builds place src states := by
    simp [required, states.get?, found, states.depth, read]

theorem restores_nullable {r : Reader α} {o : Option α} (found : ms.get? name = some j)
    (read : Reader.option r d (toNode j) = .ok o) : (nullable name r).Restores d ms o where
  checks := slot_check found read
  builds place src states := by
    simp [nullable, states.get?, found, states.depth, read]

theorem restores_withDefault {r : Reader α} {a b : α} (found : ms.get? name = some j)
    (read : r d (toNode j) = .ok a) : (withDefault name r b).Restores d ms a where
  checks := slot_check found read
  builds place src states := by
    simp [withDefault, states.get?, found, states.depth, read]

theorem restores_default {r : Reader α} {b : α} (absent : ms.get? name = none) :
    (withDefault name r b).Restores d ms b where
  checks s only j found := by
    obtain rfl := List.mem_singleton.1 only
    exact absurd (absent.symm.trans found) (by simp)
  builds place src states := by simp [withDefault, states.get?, absent]

theorem Restores.map {r : Record α} {a : α} (f : α → β) (restores : r.Restores d ms a) :
    (r.map f).Restores d ms (f a) where
  checks := restores.checks
  builds place src states := by simp [Record.map, restores.builds place src states, Except.map]

theorem Restores.app {f : Record (α → β)} {r : Record α} {g : α → β} {a : α}
    (left : f.Restores d ms g) (right : r.Restores d ms a) : (f.app r).Restores d ms (g a) where
  checks s among j found := by
    obtain first | later := List.mem_append.1 among
    · exact left.checks s first j found
    · exact right.checks s later j found
  builds place src states := by
    simp [Record.app, left.builds place src states, right.builds _ src states]

theorem Restores.congr {r : Record α} {a : α} {ns : Members}
    (same : ∀ name, ns.get? name = ms.get? name) (restores : r.Restores d ms a) :
    r.Restores d ns a where
  checks s among j found := restores.checks s among j (same s.name ▸ found)
  builds place src states := restores.builds place src
    ⟨states.depth, states.sparse, fun name => (states.get? name).trans (by rw [same])⟩

theorem lookup_toMemberNodes (name : String) (ms : Members) :
    lookup name (toMemberNodes ms) = (ms.get? name).map toNode := by
  induction ms with
  | nil => rfl
  | cons m ms ih =>
    by_cases wanted : m.1 = name <;> simp [toMemberNodes, lookup, Members.get?, wanted, ih]

theorem states_objectSource (d : Nat) (ms : Members) :
    States (objectSource d (toMemberNodes ms)) d ms :=
  ⟨rfl, rfl, fun name => lookup_toMemberNodes name ms⟩

theorem checkMembers_toMemberNodes {foreign : Node → Except Fault Unit} {slots : List Slot}
    {seen : List String} (distinct : (ms.map Prod.fst).Nodup)
    (fresh : ∀ m ∈ ms, m.1 ∉ seen)
    (known : ∀ m ∈ ms, ∀ s ∈ slots, s.name = m.1 → s.check d (toNode m.2) = .ok ())
    (unknown : ∀ m ∈ ms, findSlot? slots m.1 = none → foreign (toNode m.2) = .ok ()) :
    checkMembers foreign slots d seen (toMemberNodes ms) = .ok () := by
  induction ms generalizing seen with
  | nil => rfl
  | cons m ms ih =>
    obtain ⟨k, j⟩ := m
    obtain ⟨once, distinct⟩ := List.nodup_cons.1 distinct
    obtain ⟨new, fresh⟩ := List.forall_mem_cons.1 fresh
    obtain ⟨known, known'⟩ := List.forall_mem_cons.1 known
    obtain ⟨unknown, unknown'⟩ := List.forall_mem_cons.1 unknown
    rw [toMemberNodes, checkMembers]
    dsimp only
    cases slot : findSlot? slots k with
    | none =>
      simp only [unknown slot]
      exact ih distinct fresh known' unknown'
    | some s =>
      have there := List.mem_of_find?_eq_some slot
      have named : s.name = k := by simpa using List.find?_some slot
      simp only [if_neg new, known s there named]
      refine ih distinct (fun m among => ?_) known' unknown'
      rw [List.mem_cons, not_or]
      exact ⟨fun same => once (List.mem_map.2 ⟨m, among, same⟩), fresh m among⟩

/-- A record is read from the object of its fields. -/
theorem reader_object {r : Record α} {a : α} {fields : Members} (title : String)
    (distinct : (fields.map Prod.fst).Nodup) (restores : r.Restores d fields a) :
    r.reader title (d + 1) (toNode (object fields)) = .ok a := by
  have sorted := Members.ofList_sorted fields
  have restores := restores.congr (Members.get?_ofList distinct)
  have checked : checkMembers Node.skip r.slots d [] (toMemberNodes (Members.ofList fields)) =
      .ok () := by
    refine checkMembers_toMemberNodes sorted.nodup (by simp) (fun m among s there named => ?_)
      (fun m _ _ => skip_toNode m.2)
    exact restores.checks s there m.2 (named ▸ Members.get?_of_mem sorted.nodup among)
  simp only [object, toNode, reader, readObject, checked]
  exact restores.builds 0 _ (states_objectSource d _)

theorem foreignMembers_toMemberNodes (slots : List Slot) (ms : Members) :
    foreignMembers slots (toMemberNodes ms) =
      toMemberNodes (ms.filter fun m => (findSlot? slots m.1).isNone) := by
  induction ms with
  | nil => rfl
  | cons m ms ih =>
    unfold foreignMembers at ih
    cases kept : (findSlot? slots m.1).isNone <;>
      simp [foreignMembers, toMemberNodes, kept, ih]

theorem openReader_object {r : Record (Members → α)} {f : Members → α} {fields extra : Members}
    (title : String) (distinct : ((fields ++ extra).map Prod.fst).Nodup)
    (restores : r.Restores d (fields ++ extra) f) (readable : ReadableMembers d extra)
    (known : ∀ m ∈ fields, findSlot? r.slots m.1 ≠ none)
    (unknown : ∀ m ∈ extra, findSlot? r.slots m.1 = none) :
    r.openReader title (d + 1) (toNode (object (fields ++ extra))) = .ok (f extra) := by
  have sorted := Members.ofList_sorted (fields ++ extra)
  have restores := restores.congr (Members.get?_ofList distinct)
  obtain ⟨⟨⟨-, canonical⟩, -⟩, deep⟩ := readable_obj.2 readable
  have checked : checkMembers (fun node => (node.value d).map fun _ => ()) r.slots d []
      (toMemberNodes (Members.ofList (fields ++ extra))) = .ok () := by
    refine checkMembers_toMemberNodes sorted.nodup (by simp) (fun m among s there named => ?_)
      (fun m among free => ?_)
    · exact restores.checks s there m.2 (named ▸ Members.get?_of_mem sorted.nodup among)
    · have own := (List.mem_append.1 (Members.mem_ofList among)).resolve_left
        fun among => known m among free
      have value := readable.2 m own
      simp [value_toNode value.canonical value.deep, Except.map]
  have kept : List.filter (fun m => (findSlot? r.slots m.1).isNone)
      (Members.ofList (fields ++ extra)) = extra := by
    refine Members.Sorted.ext (sorted.sublist (List.filter_sublist.map _)) readable.1 fun name => ?_
    rw [Members.get?_filter fun k => (findSlot? r.slots k).isNone, Members.get?_ofList distinct,
      Members.get?_append]
    by_cases free : findSlot? r.slots name = none
    · have absent : Members.get? fields name = none :=
        Members.get?_eq_none.2 fun m among same => known m among (same ▸ free)
      simp [free, absent]
    · have absent : Members.get? extra name = none :=
        Members.get?_eq_none.2 fun m among same => free (same ▸ unknown m among)
      simp [free, absent]
  have rest := valueMembers_toMemberNodes [] canonical (Nat.le_of_succ_le_succ deep) readable.1
  rw [List.nil_append] at rest
  simp only [object, toNode, openReader, checked, foreignMembers_toMemberNodes, kept, rest]
  rw [restores.builds 0 _ (states_objectSource d _)]
  rfl

end Record

end MailRound.Json
