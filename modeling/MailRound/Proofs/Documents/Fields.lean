import MailRound.Json.Record
import MailRound.Proofs.Documents.Values
import Mathlib.Data.List.Forall2

namespace MailRound.Json

theorem Node.mismatch_ne_ok {expected : String} {node : Node} {a : α} :
    node.mismatch expected ≠ .ok a := by
  unfold Node.mismatch
  split <;> simp

theorem valueMembers_keys {p : String → Prop} {d : Nat} {ns : List (Quoted × Node)}
    {acc ms : Members} (read : valueMembers d ns acc = .ok ms) (before : ∀ m ∈ acc, p m.1)
    (keys : ∀ n ∈ ns, ∀ k, n.1.text = .ok k → p k) : ∀ m ∈ ms, p m.1 := by
  induction ns generalizing acc with
  | nil =>
    obtain rfl := Except.ok.inj read
    exact before
  | cons n ns ih =>
    obtain ⟨key, node⟩ := n
    obtain ⟨first, rest⟩ := List.forall_mem_cons.1 keys
    unfold valueMembers at read
    split at read
    · cases read
    · rename_i k name
      split at read
      · cases read
      · refine ih read (fun m among => ?_) rest
        obtain rfl | old := Members.mem_insert among
        · exact first k name
        · exact before m old

theorem exists_of_forall₂ {R : α → β → Prop} {as : List α} {bs : List β}
    (together : List.Forall₂ R as bs) :
    (∀ a ∈ as, ∃ b ∈ bs, R a b) ∧ ∀ b ∈ bs, ∃ a ∈ as, R a b := by
  induction together with
  | nil => simp
  | cons first _ ih =>
    constructor
    · refine List.forall_mem_cons.2 ⟨⟨_, List.mem_cons_self, first⟩, fun a among => ?_⟩
      exact (ih.1 a among).imp fun b found => ⟨List.mem_cons_of_mem _ found.1, found.2⟩
    · refine List.forall_mem_cons.2 ⟨⟨_, List.mem_cons_self, first⟩, fun b among => ?_⟩
      exact (ih.2 b among).imp fun a found => ⟨List.mem_cons_of_mem _ found.1, found.2⟩

namespace Reader

theorem unsigned_read {name : String} {bound d n : Nat} {node : Node}
    (read : unsigned name bound d node = .ok n) : n < bound := by
  unfold unsigned at read
  split at read
  · split_ifs at read with within
    cases read
    omega
  · exact absurd read Node.mismatch_ne_ok

theorem option_read {r : Reader α} {d : Nat} {node : Node} {o : Option α}
    (read : option r d node = .ok o) : ∀ a ∈ o, r d node = .ok a := by
  unfold option at read
  split at read
  · cases read
    simp
  · cases value : r _ _ with
    | error fault => simp [value, Except.map] at read
    | ok a =>
      rw [value] at read
      cases read
      exact fun b among => congrArg Except.ok (Option.some.inj among)

theorem items_cons (r : Reader α) (d : Nat) (n : Node) (ns : List Node) :
    items r d (n :: ns) = (r d n).bind fun a => (items r d ns).map (a :: ·) := by
  rw [items]
  cases r d n with
  | error e => rfl
  | ok a => cases items r d ns <;> rfl

theorem items_each {r : Reader α} {d : Nat} {ns : List Node} {as : List α}
    (read : items r d ns = .ok as) : List.Forall₂ (fun n a => r d n = .ok a) ns as := by
  induction ns generalizing as with
  | nil =>
    obtain rfl := Except.ok.inj read
    exact .nil
  | cons n ns ih =>
    rw [items_cons] at read
    cases first : r d n with
    | error fault => simp [first, Except.bind] at read
    | ok a =>
      cases rest : items r d ns with
      | error fault => simp [first, rest, Except.bind, Except.map] at read
      | ok as' =>
        obtain rfl : a :: as' = as := by simpa [first, rest, Except.bind, Except.map] using read
        exact .cons first (ih rest)

theorem items_read {r : Reader α} {d : Nat} {ns : List Node} {as : List α}
    (read : items r d ns = .ok as) : ∀ a ∈ as, ∃ n ∈ ns, r d n = .ok a :=
  (exists_of_forall₂ (items_each read)).2

theorem list_read {r : Reader α} {d : Nat} {node : Node} {as : List α} (ranged : node.Ranged)
    (read : list r (d + 1) node = .ok as) : ∀ a ∈ as, ∃ n, n.Ranged ∧ r d n = .ok a := by
  unfold list at read
  split at read
  · rename_i ns close
    dsimp only at read
    split at read
    · cases read
    · rename_i inside
      split at read
      · cases read
      · cases read
        intro a among
        obtain ⟨n, there, value⟩ := items_read inside a among
        exact ⟨n, rangedNodes_iff.1 ranged n there, value⟩
  · exact absurd read Node.mismatch_ne_ok

theorem members_read {d : Nat} {node : Node} {ms : Members} (ranged : node.Ranged)
    (read : members (d + 1) node = .ok ms) : ReadableMembers d ms := by
  unfold members at read
  split at read
  · dsimp only at read
    split at read
    · cases read
    · rename_i inside
      split at read
      · cases read
      · cases read
        exact valueMembers_readable ranged readableMembers_nil inside
  · exact absurd read Node.mismatch_ne_ok

end Reader

namespace Record

theorem build_app (f : Record (α → β)) (r : Record α) (place : Nat) (src : Source) :
    (f.app r).build place src =
      (f.build place src).bind fun g => (r.build (place + f.slots.length) src).map g := by
  dsimp only [app]
  cases f.build place src with
  | error e => rfl
  | ok g => cases r.build (place + f.slots.length) src <;> rfl

section Built

variable {place : Nat} {src : Source}

theorem built_map {r : Record α} {f : α → β} {b : β} (built : (r.map f).build place src = .ok b) :
    ∃ a, r.build place src = .ok a ∧ f a = b := by
  dsimp only [Record.map] at built
  cases value : r.build place src with
  | error fault => simp [value, Except.map] at built
  | ok a => exact ⟨a, rfl, Except.ok.inj (value ▸ built)⟩

theorem built_app {f : Record (α → β)} {r : Record α} {b : β}
    (built : (f.app r).build place src = .ok b) : ∃ g a, f.build place src = .ok g ∧
      r.build (place + f.slots.length) src = .ok a ∧ g a = b := by
  rw [build_app] at built
  cases left : f.build place src with
  | error fault => simp [left, Except.bind] at built
  | ok g =>
    rw [left] at built
    cases right : r.build (place + f.slots.length) src with
    | error fault => simp [right, Except.bind, Except.map] at built
    | ok a => exact ⟨g, a, rfl, rfl, by simpa [right, Except.bind, Except.map] using built⟩

theorem built_withDefault {name : String} {r : Reader α} {a b : α} {n : Node}
    (built : (withDefault name r b).build place src = .ok a) (found : src.get? name = some n) :
    r src.depth n = .ok a := by
  simpa only [withDefault, found] using built

end Built

/-- The record gives a value for fields with a property. -/
def Draws (p : Node → Prop) (r : Record α) (d : Nat) (a : α) : Prop :=
  ∃ place src, src.depth = d ∧ (∀ name n, src.get? name = some n → p n) ∧
    r.build place src = .ok a

section Draws

variable {p : Node → Prop} {d : Nat} {name : String}

theorem Draws.required {r : Reader α} {a : α} (draws : Draws p (required name r) d a) :
    ∃ n, p n ∧ r d n = .ok a := by
  obtain ⟨place, src, rfl, each, built⟩ := draws
  unfold Record.required at built
  dsimp only at built
  split at built
  · exact ⟨_, each _ _ ‹_›, built⟩
  · cases built

theorem Draws.withDefault {r : Reader α} {a b : α} (draws : Draws p (withDefault name r b) d a) :
    a = b ∨ ∃ n, p n ∧ r d n = .ok a := by
  obtain ⟨place, src, rfl, each, built⟩ := draws
  cases found : src.get? name with
  | some n => exact .inr ⟨n, each name n found, built_withDefault built found⟩
  | none =>
    simp only [Record.withDefault, found] at built
    exact .inl (Except.ok.inj built).symm

theorem Draws.optional {r : Reader α} {o : Option α} (draws : Draws p (optional name r) d o) :
    ∀ a ∈ o, ∃ n, p n ∧ r d n = .ok a := by
  obtain rfl | ⟨n, holds, read⟩ := draws.withDefault
  · simp
  · exact fun a among => ⟨n, holds, Reader.option_read read a among⟩

theorem Draws.map {r : Record α} {f : α → β} {b : β} (draws : Draws p (r.map f) d b) :
    ∃ a, Draws p r d a ∧ f a = b := by
  obtain ⟨place, src, at', each, built⟩ := draws
  obtain ⟨a, built, same⟩ := built_map built
  exact ⟨a, ⟨place, src, at', each, built⟩, same⟩

theorem Draws.app {f : Record (α → β)} {r : Record α} {b : β} (draws : Draws p (f.app r) d b) :
    ∃ g a, Draws p f d g ∧ Draws p r d a ∧ g a = b := by
  obtain ⟨place, src, at', each, built⟩ := draws
  obtain ⟨g, a, left, right, same⟩ := built_app built
  exact ⟨g, a, ⟨place, src, at', each, left⟩, ⟨_, src, at', each, right⟩, same⟩

end Draws

theorem mem_of_lookup {name : String} {ms : List (Quoted × Node)} {n : Node}
    (found : lookup name ms = some n) : ∃ m ∈ ms, m.2 = n := by
  induction ms with
  | nil => cases found
  | cons m ms ih =>
    obtain ⟨key, node⟩ := m
    have later (found : lookup name ms = some n) : ∃ m ∈ (key, node) :: ms, m.2 = n :=
      (ih found).imp fun m there => ⟨List.mem_cons_of_mem _ there.1, there.2⟩
    unfold lookup at found
    split at found
    · split_ifs at found
      · exact ⟨_, List.mem_cons_self, Option.some.inj found⟩
      · exact later found
    · exact later found

theorem mem_of_placeOf {name : String} {slots : List Slot} {ns : List Node} {n : Node}
    (found : placeOf name slots ns = some n) : n ∈ ns := by
  induction slots generalizing ns with
  | nil => cases found
  | cons s ss ih =>
    cases ns with
    | nil => cases found
    | cons node ns =>
      unfold placeOf at found
      split_ifs at found
      · exact Option.some.inj found ▸ List.mem_cons_self
      · exact List.mem_cons_of_mem _ (ih found)

theorem draws_objectSource {p : Node → Prop} {r : Record α} {d : Nat} {a : α}
    {ms : List (Quoted × Node)} (each : ∀ m ∈ ms, p m.2)
    (built : r.build 0 (objectSource d ms) = .ok a) : Draws p r d a := by
  refine ⟨0, _, rfl, fun name n found => ?_, built⟩
  obtain ⟨m, there, rfl⟩ := mem_of_lookup found
  exact each m there

def field? (r : Record α) (name : String) : Node → Option Node
  | .object ms _ => lookup name ms
  | .array ns _ => placeOf name r.slots ns
  | _ => none

theorem reader_built {r : Record α} {title : String} {d : Nat} {node : Node} {a : α}
    (read : r.reader title (d + 1) node = .ok a) :
    ∃ src, src.depth = d ∧ (∀ name, src.get? name = r.field? name node) ∧
      r.build 0 src = .ok a := by
  unfold reader at read
  split at read
  · rename_i ms close
    dsimp only [readObject] at read
    split at read
    · cases read
    · split at read
      · cases read
      · exact ⟨objectSource d ms, rfl, fun _ => rfl, read⟩
  · rename_i ns close
    dsimp only [readArray] at read
    split at read
    · cases read
    · split at read
      · cases read
      · split at read
        · cases read
        · rename_i built
          cases complete : surplus r.slots.length ns close with
          | error fault => simp [complete, Except.map] at read
          | ok done =>
            simp only [complete, Except.map, Except.ok.injEq] at read
            subst read
            exact ⟨arraySource title d r.slots ns, rfl, fun _ => rfl, built⟩
  · exact absurd read Node.mismatch_ne_ok

theorem reader_draws {r : Record α} {title : String} {d : Nat} {node : Node} {a : α}
    (ranged : node.Ranged) (read : r.reader title (d + 1) node = .ok a) :
    Draws Node.Ranged r d a := by
  obtain ⟨src, at', fields, built⟩ := reader_built read
  refine ⟨0, src, at', fun name n found => ?_, built⟩
  rw [fields] at found
  cases node with
  | object ms close =>
    obtain ⟨m, there, rfl⟩ := mem_of_lookup found
    exact rangedMembers_iff.1 ranged m there
  | array ns close => exact rangedNodes_iff.1 ranged n (mem_of_placeOf found)
  | _ => cases found

theorem openReader_parts {r : Record (Members → α)} {title : String} {d : Nat} {node : Node} {a : α}
    (read : r.openReader title d node = .ok a) : ∃ e ms f extra, d = e + 1 ∧
      node = .object ms none ∧ r.build 0 (objectSource e ms) = .ok f ∧
      valueMembers e (foreignMembers r.slots ms) [] = .ok extra ∧ f extra = a := by
  unfold openReader at read
  split at read
  · cases read
  · rename_i e ms close
    split at read
    · cases read
    · split at read
      · cases read
      · split at read
        · cases read
        · rename_i f built
          cases rest : valueMembers e (foreignMembers r.slots ms) [] with
          | error fault => simp [rest, Except.map] at read
          | ok extra =>
            rw [rest] at read
            exact ⟨e, ms, f, extra, rfl, rfl, built, rest, Except.ok.inj read⟩
  · exact absurd read Node.mismatch_ne_ok

/-- What an open record keeps is not one of its fields. -/
theorem foreign_keys {slots : List Slot} {d : Nat} {ms : List (Quoted × Node)} {extra : Members}
    (read : valueMembers d (foreignMembers slots ms) [] = .ok extra) :
    ∀ m ∈ extra, findSlot? slots m.1 = none := by
  refine valueMembers_keys (p := fun k => findSlot? slots k = none) read (by simp)
    fun n among k name => ?_
  obtain ⟨-, kept⟩ := List.mem_filter.1 among
  simpa [name] using kept

theorem foreignMembers_ranged {slots : List Slot} {ms : List (Quoted × Node)}
    (ranged : RangedMembers ms) : RangedMembers (foreignMembers slots ms) :=
  rangedMembers_iff.2 fun n among => rangedMembers_iff.1 ranged n (List.mem_filter.1 among).1

end Record

end MailRound.Json
