import MailRound.Proofs.Documents.Fields
import Mathlib.Data.List.Perm.Basic

namespace MailRound.Json

/-- What is known of a document before it is read: where its records are, and what their fields are
called. -/
inductive Shape where
  | free
  | list (item : Shape)
  | record (fields : List (String × Shape))

namespace Shape

def field (fields : List (String × Shape)) (name : String) : Shape :=
  (fields.lookup name).getD .free

def item : Shape → Nat → Shape
  | .list s, _ => s
  | .record fields, i => (fields[i]?.map Prod.snd).getD .free
  | .free, _ => .free

def member : Shape → Quoted → Shape
  | .record fields, key => match key.text with
    | .ok k => field fields k
    | .error _ => .free
  | _, _ => .free

/-- Only to a record may a member be added, under a key that is no field of it. -/
def Admits : Shape → Quoted → Prop
  | .record fields, key => ∃ k, key.text = .ok k ∧ k ∉ fields.map Prod.fst
  | _, _ => False

end Shape

structure Change where
  key : Quoted
  old : Node
  new : Node

namespace Change

def before (c : Change) : Quoted × Node := (c.key, c.old)

def after (c : Change) : Quoted × Node := (c.key, c.new)

end Change

/-- The second document has the members of each object in any order, and in records any members
more that are no fields of them. -/
inductive Rearranged : Shape → Node → Node → Prop
  | same (s : Shape) (n : Node) : Rearranged s n n
  | array {s : Shape} (pairs : List (Node × Node))
    (each : ∀ i p, pairs[i]? = some p → Rearranged (s.item i) p.1 p.2) :
    Rearranged s (.array (pairs.map Prod.fst) none) (.array (pairs.map Prod.snd) none)
  | object {s : Shape} (changes : List Change) (added : List (Quoted × Node))
    {ms : List (Quoted × Node)}
    (each : ∀ c ∈ changes, Rearranged (s.member c.key) c.old c.new)
    (foreign : ∀ m ∈ added, s.Admits m.1)
    (order : ms.Perm (changes.map Change.after ++ added)) :
    Rearranged s (.object (changes.map Change.before) none) (.object ms none)

def keys (ms : List (Quoted × Node)) : List String := ms.filterMap fun m => m.1.text.toOption

mutual

/-- No object inside has a key twice. -/
def Node.Distinct : Node → Prop
  | .array items _ => DistinctNodes items
  | .object ms _ => (keys ms).Nodup ∧ DistinctMembers ms
  | _ => True

def DistinctNodes : List Node → Prop
  | [] => True
  | n :: ns => n.Distinct ∧ DistinctNodes ns

def DistinctMembers : List (Quoted × Node) → Prop
  | [] => True
  | (_, n) :: ms => n.Distinct ∧ DistinctMembers ms

end

theorem distinctNodes_iff {ns : List Node} : DistinctNodes ns ↔ ∀ n ∈ ns, n.Distinct := by
  induction ns with
  | nil => simp [DistinctNodes]
  | cons n ns ih => simp [DistinctNodes, ih]

theorem distinctMembers_iff {ms : List (Quoted × Node)} :
    DistinctMembers ms ↔ ∀ m ∈ ms, m.2.Distinct := by
  induction ms with
  | nil => simp [DistinctMembers]
  | cons m ms ih => simp [DistinctMembers, ih]

/-- Both give the same, or both are faults. -/
def Agree (x y : Except Fault α) : Prop := ∀ a, x = .ok a ↔ y = .ok a

namespace Agree

variable {x y : Except Fault α}

theorem refl (x : Except Fault α) : Agree x x := fun _ => .rfl

theorem faults (e f : Fault) : Agree (.error e : Except Fault α) (.error f) :=
  fun _ => ⟨nofun, nofun⟩

theorem cases (agree : Agree x y) :
    (∃ e f, x = .error e ∧ y = .error f) ∨ ∃ a, x = .ok a ∧ y = .ok a := by
  cases left : x with
  | ok a => exact .inr ⟨a, rfl, (agree a).1 left⟩
  | error e =>
    cases right : y with
    | ok a => exact absurd ((agree a).2 right) (by simp [left])
    | error f => exact .inl ⟨e, f, rfl, rfl⟩

theorem of_ne_ok (left : ∀ a, x ≠ .ok a) (right : ∀ a, y ≠ .ok a) : Agree x y :=
  fun a => ⟨fun h => absurd h (left a), fun h => absurd h (right a)⟩

theorem bind {f g : α → Except Fault β} (agree : Agree x y) (next : ∀ a, Agree (f a) (g a)) :
    Agree (x.bind f) (y.bind g) := by
  obtain ⟨e, e', rfl, rfl⟩ | ⟨a, rfl, rfl⟩ := agree.cases
  · exact faults e e'
  · exact next a

theorem map (agree : Agree x y) (f : α → β) : Agree (x.map f) (y.map f) := by
  obtain ⟨e, e', rfl, rfl⟩ | ⟨a, rfl, rfl⟩ := agree.cases
  · exact faults e e'
  · exact refl _

end Agree

theorem valueItems_eq_items (d : Nat) (ns : List Node) :
    valueItems d ns = Reader.items Node.value d ns := by
  induction ns with
  | nil => rfl
  | cons n ns ih =>
    rw [valueItems, Reader.items_cons, ih]
    cases n.value d with
    | error e => rfl
    | ok v => cases Reader.items Node.value d ns <;> rfl

theorem items_agree {r : Reader α} {d : Nat} {pairs : List (Node × Node)}
    (each : ∀ p ∈ pairs, Agree (r d p.1) (r d p.2)) :
    Agree (Reader.items r d (pairs.map Prod.fst)) (Reader.items r d (pairs.map Prod.snd)) := by
  induction pairs with
  | nil => exact .refl _
  | cons p pairs ih =>
    obtain ⟨first, rest⟩ := List.forall_mem_cons.1 each
    rw [List.map_cons, List.map_cons, Reader.items_cons, Reader.items_cons]
    exact first.bind fun a => (ih rest).map (a :: ·)

theorem Node.value_array (d : Nat) (ns : List Node) :
    (Node.array ns none).value (d + 1) = (Reader.items Node.value d ns).map .arr := by
  rw [Node.value, valueItems_eq_items]
  cases Reader.items Node.value d ns <;> rfl

theorem Node.value_object (d : Nat) (ms : List (Quoted × Node)) :
    (Node.object ms none).value (d + 1) = (valueMembers d ms []).map .obj := by
  rw [Node.value]
  cases valueMembers d ms [] <;> rfl

def Entry (d : Nat) (m : Quoted × Node) (e : String × Json) : Prop :=
  m.1.text = .ok e.1 ∧ m.2.value d = .ok e.2

theorem valueMembers_eq_ok {d : Nat} {ms : List (Quoted × Node)} {acc out : Members} :
    valueMembers d ms acc = .ok out ↔ ∃ es, List.Forall₂ (Entry d) ms es ∧
      es.foldl (fun acc e => acc.insert e.1 e.2) acc = out := by
  induction ms generalizing acc with
  | nil => simp [valueMembers]
  | cons m ms ih =>
    obtain ⟨key, n⟩ := m
    unfold valueMembers
    cases name : key.text with
    | error e => simp [Entry, name, List.forall₂_cons_left_iff]
    | ok k =>
      cases value : n.value d with
      | error e => simp [Entry, name, value, List.forall₂_cons_left_iff]
      | ok v =>
        dsimp only
        rw [ih]
        constructor
        · rintro ⟨es, entries, folded⟩
          exact ⟨(k, v) :: es, .cons ⟨name, value⟩ entries, folded⟩
        · rintro ⟨_, all, folded⟩
          obtain ⟨e, es, ⟨name', value'⟩, entries, rfl⟩ := List.forall₂_cons_left_iff.1 all
          obtain rfl := Except.ok.inj (name.symm.trans name')
          obtain rfl := Except.ok.inj (value.symm.trans value')
          exact ⟨es, entries, folded⟩

theorem keys_of_entries {d : Nat} {ms : List (Quoted × Node)} {es : Members}
    (entries : List.Forall₂ (Entry d) ms es) : keys ms = es.map Prod.fst := by
  induction entries with
  | nil => rfl
  | cons entry _ ih =>
    rw [List.map_cons, ← ih]
    simp [keys, entry.1, Except.toOption]

theorem ofList_perm {es es' : Members} (order : es.Perm es') (distinct : (es.map Prod.fst).Nodup) :
    Members.ofList es = Members.ofList es' := by
  have distinct' : (es'.map Prod.fst).Nodup := (order.map Prod.fst).nodup_iff.1 distinct
  apply (Members.ofList_sorted es).ext (Members.ofList_sorted es')
  intro name
  rw [Members.get?_ofList distinct, Members.get?_ofList distinct']
  ext j
  rw [Members.get?_eq_some distinct, Members.get?_eq_some distinct', order.mem_iff]

/-- What is read from members with different keys has each of them, and no others. -/
theorem valueMembers_get? {d : Nat} {ms : List (Quoted × Node)} {out : Members}
    (distinct : (keys ms).Nodup) (read : valueMembers d ms [] = .ok out) :
    (∀ m ∈ ms, ∃ k j, Entry d m (k, j) ∧ out.get? k = some j) ∧
      ∀ k j, out.get? k = some j → ∃ m ∈ ms, Entry d m (k, j) := by
  obtain ⟨es, entries, rfl⟩ := valueMembers_eq_ok.1 read
  rw [keys_of_entries entries] at distinct
  have found (k : String) (j : Json) : (Members.ofList es).get? k = some j ↔ (k, j) ∈ es := by
    rw [Members.get?_ofList distinct, Members.get?_eq_some distinct]
  refine ⟨fun m among => ?_, fun k j there => ?_⟩
  · obtain ⟨⟨k, j⟩, there, entry⟩ := (exists_of_forall₂ entries).1 m among
    exact ⟨k, j, entry, (found k j).2 there⟩
  · exact (exists_of_forall₂ entries).2 (k, j) ((found k j).1 there)

theorem keys_perm {ms ms' : List (Quoted × Node)} (order : ms.Perm ms') :
    (keys ms).Perm (keys ms') :=
  order.filterMap _

theorem valueMembers_perm {d : Nat} {ms ms' : List (Quoted × Node)} (order : ms.Perm ms')
    (distinct : (keys ms).Nodup) : Agree (valueMembers d ms []) (valueMembers d ms' []) := by
  have half {ms ms' : List (Quoted × Node)} {out : Members} (order : ms.Perm ms')
      (distinct : (keys ms).Nodup) (read : valueMembers d ms [] = .ok out) :
      valueMembers d ms' [] = .ok out := by
    obtain ⟨es, entries, folded⟩ := valueMembers_eq_ok.1 read
    obtain ⟨es', entries', order'⟩ := List.perm_comp_forall₂ order.symm entries
    rw [keys_of_entries entries] at distinct
    exact valueMembers_eq_ok.2 ⟨es', entries', (ofList_perm order'.symm distinct).symm.trans folded⟩
  exact fun out => ⟨half order distinct, half order.symm ((keys_perm order).nodup_iff.1 distinct)⟩

theorem entries_changes {d : Nat} {changes : List Change} {es : Members}
    (each : ∀ c ∈ changes, Agree (c.old.value d) (c.new.value d)) :
    List.Forall₂ (Entry d) (changes.map Change.before) es ↔
      List.Forall₂ (Entry d) (changes.map Change.after) es := by
  induction changes generalizing es with
  | nil => exact .rfl
  | cons c changes ih =>
    obtain ⟨first, rest⟩ := List.forall_mem_cons.1 each
    cases es with
    | nil => simp
    | cons e es =>
      have entry : Entry d c.before e ↔ Entry d c.after e := and_congr_right fun _ => first e.2
      rw [List.map_cons, List.map_cons, List.forall₂_cons, List.forall₂_cons, entry, ih rest]

theorem valueMembers_changes {d : Nat} {changes : List Change}
    (each : ∀ c ∈ changes, Agree (c.old.value d) (c.new.value d)) :
    Agree (valueMembers d (changes.map Change.before) [])
      (valueMembers d (changes.map Change.after) []) := by
  intro out
  simp only [valueMembers_eq_ok, entries_changes each]

theorem keys_before (changes : List Change) :
    keys (changes.map Change.before) = keys (changes.map Change.after) := by
  simp [keys, List.filterMap_map, Change.before, Change.after, Function.comp_def]

theorem valueMembers_rearranged {d : Nat} {changes : List Change} {ms : List (Quoted × Node)}
    (order : ms.Perm (changes.map Change.after)) (distinct : (keys (changes.map Change.before)).Nodup)
    (each : ∀ c ∈ changes, Agree (c.old.value d) (c.new.value d)) :
    Agree (valueMembers d (changes.map Change.before) []) (valueMembers d ms []) := fun out =>
  (valueMembers_changes each out).trans
    (valueMembers_perm order.symm (keys_before changes ▸ distinct) out)

theorem eq_nil_of_not_admits {added : List (Quoted × Node)}
    (foreign : ∀ m ∈ added, Shape.free.Admits m.1) : added = [] :=
  List.eq_nil_iff_forall_not_mem.2 foreign

/-- A free value is the same however its members are arranged. -/
theorem Rearranged.value_agree {s : Shape} {n n' : Node} (rearranged : Rearranged s n n')
    (free : s = .free) (distinct : n.Distinct) (d : Nat) : Agree (n.value d) (n'.value d) := by
  induction rearranged generalizing d with
  | same => exact .refl _
  | array pairs each ih =>
    subst free
    cases d with
    | zero => exact .refl _
    | succ d =>
      rw [Node.value_array, Node.value_array]
      apply Agree.map
      apply items_agree
      intro p among
      obtain ⟨i, at'⟩ := List.getElem?_of_mem among
      exact ih i p at' rfl (distinctNodes_iff.1 distinct p.1 (List.mem_map_of_mem among)) d
  | object changes added each foreign order ih =>
    subst free
    obtain rfl := eq_nil_of_not_admits foreign
    rw [List.append_nil] at order
    cases d with
    | zero => exact .refl _
    | succ d =>
      rw [Node.value_object, Node.value_object]
      apply Agree.map
      apply valueMembers_rearranged order distinct.1
      intro c among
      exact ih c among rfl (distinctMembers_iff.1 distinct.2 c.before (List.mem_map_of_mem among)) d

end MailRound.Json
