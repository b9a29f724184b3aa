import MailRound.Proofs.Documents.Rearranged

namespace MailRound.Json

namespace Record

theorem findSlot?_eq_none {slots : List Slot} {name : String} :
    findSlot? slots name = none ↔ name ∉ slots.map (·.name) := by
  simp [findSlot?]

theorem findSlot?_eq_some {slots : List Slot} {name : String} {s : Slot}
    (found : findSlot? slots name = some s) : s ∈ slots ∧ s.name = name :=
  ⟨List.mem_of_find?_eq_some found, by simpa using List.find?_some found⟩

/-- The member passes the check of its field, or that of members that are no fields. -/
def Fits (foreign : Node → Except Fault Unit) (slots : List Slot) (d : Nat) (m : Quoted × Node) :
    Prop :=
  ∃ k, m.1.text = .ok k ∧ match findSlot? slots k with
    | none => foreign m.2 = .ok ()
    | some s => s.check d m.2 = .ok ()

def known (slots : List Slot) (ms : List (Quoted × Node)) : List String :=
  (keys ms).filter fun k => (findSlot? slots k).isSome

theorem checkMembers_eq_ok {foreign : Node → Except Fault Unit} {slots : List Slot} {d : Nat}
    {seen : List String} {ms : List (Quoted × Node)} :
    checkMembers foreign slots d seen ms = .ok () ↔ (∀ m ∈ ms, Fits foreign slots d m) ∧
      (known slots ms).Nodup ∧ ∀ k ∈ known slots ms, k ∉ seen := by
  induction ms generalizing seen with
  | nil => simp [checkMembers, known, keys]
  | cons m ms ih =>
    obtain ⟨key, n⟩ := m
    rw [checkMembers, List.forall_mem_cons]
    cases name : key.text with
    | error e => simp [Fits, name]
    | ok k =>
      have all : keys ((key, n) :: ms) = k :: keys ms := by simp [keys, name, Except.toOption]
      dsimp only
      cases slot : findSlot? slots k with
      | none =>
        have same : known slots ((key, n) :: ms) = known slots ms := by simp [known, all, slot]
        have fits : Fits foreign slots d (key, n) ↔ foreign n = .ok () := by simp [Fits, name, slot]
        rw [same, fits, and_assoc, ← ih]
        cases foreign n <;> simp
      | some s =>
        have more : known slots ((key, n) :: ms) = k :: known slots ms := by
          simp [known, all, slot]
        have fits : Fits foreign slots d (key, n) ↔ s.check d n = .ok () := by
          simp [Fits, name, slot]
        rw [more, fits, List.nodup_cons, List.forall_mem_cons]
        dsimp only
        by_cases old : k ∈ seen
        · simp [old]
        · have fresh : checkMembers foreign slots d (k :: seen) ms = .ok () ↔ _ := ih
          simp only [List.mem_cons, not_or] at fresh
          rw [if_neg old]
          cases s.check d n with
          | error e => simp
          | ok done =>
            dsimp only
            rw [fresh]
            grind

section Members

variable {foreign : Node → Except Fault Unit} {slots : List Slot} {d : Nat}
  {changes : List Change} {added ms : List (Quoted × Node)}

theorem known_append (ms ns : List (Quoted × Node)) :
    known slots (ms ++ ns) = known slots ms ++ known slots ns := by
  simp [known, keys]

theorem known_eq_nil (unknown : ∀ m ∈ added, ∃ k, m.1.text = .ok k ∧ findSlot? slots k = none) :
    known slots added = [] := by
  apply List.filter_eq_nil_iff.2
  intro name among
  obtain ⟨m, there, text⟩ := List.mem_filterMap.1 among
  obtain ⟨k, readable, none⟩ := unknown m there
  obtain rfl : k = name := by simpa [readable, Except.toOption] using text
  simp [none]

/-- An object passes the checks of a record if and only if its rearrangement does. -/
theorem checkMembers_agree (order : ms.Perm (changes.map Change.after ++ added))
    (distinct : (keys (changes.map Change.before)).Nodup)
    (each : ∀ c ∈ changes, ∀ k, c.key.text = .ok k →
      match findSlot? slots k with
      | none => Agree (foreign c.old) (foreign c.new)
      | some s => Agree (s.check d c.old) (s.check d c.new))
    (unknown : ∀ m ∈ added, ∃ k, m.1.text = .ok k ∧ findSlot? slots k = none)
    (passes : ∀ m ∈ added, foreign m.2 = .ok ()) :
    Agree (checkMembers foreign slots d [] (changes.map Change.before))
      (checkMembers foreign slots d [] ms) := by
  have fits : ∀ c ∈ changes, Fits foreign slots d c.before ↔ Fits foreign slots d c.after := by
    intro c among
    apply exists_congr
    intro k
    apply and_congr_right
    intro name
    have agree := each c among k name
    cases slot : findSlot? slots k with
    | none =>
      rw [slot] at agree
      exact agree ()
    | some s =>
      rw [slot] at agree
      exact agree ()
  have fits' : ∀ m ∈ added, Fits foreign slots d m := by
    intro m among
    obtain ⟨k, name, none⟩ := unknown m among
    exact ⟨k, name, by rw [none]; exact passes m among⟩
  have once : (known slots (changes.map Change.before)).Nodup := distinct.filter _
  have once' : (known slots ms).Nodup := by
    have split : (known slots ms).Perm (known slots (changes.map Change.after ++ added)) :=
      (keys_perm order).filter _
    rw [known_append, known_eq_nil unknown, List.append_nil] at split
    rw [known, keys_before] at once
    exact split.nodup_iff.2 once
  intro done
  rw [checkMembers_eq_ok, checkMembers_eq_ok]
  simp only [List.not_mem_nil, not_false_eq_true, implies_true, and_true]
  rw [and_iff_left once, and_iff_left once']
  simp only [order.mem_iff, List.mem_append, List.mem_map, or_imp, forall_and,
    forall_exists_index, and_imp, forall_apply_eq_imp_iff₂]
  rw [and_iff_left fits']
  exact forall₂_congr fits

def named (name : String) (m : Quoted × Node) : Bool := m.1.text.toOption = some name

theorem lookup_eq_head? (name : String) (ms : List (Quoted × Node)) :
    lookup name ms = (ms.filter (named name)).head?.map Prod.snd := by
  induction ms with
  | nil => rfl
  | cons m ms ih =>
    obtain ⟨key, n⟩ := m
    rw [lookup]
    cases text : key.text with
    | error e => simp [named, text, Except.toOption, ih]
    | ok k => by_cases same : k = name <;> simp [named, text, Except.toOption, same, ih]

theorem filter_named {name : String} (distinct : (keys ms).Nodup) :
    ms.filter (named name) = [] ∨ ∃ m, ms.filter (named name) = [m] := by
  have once : (ms.filter (named name)).length ≤ 1 := by
    have count : (ms.filter (named name)).length = (keys ms).count name := by
      induction ms with
      | nil => rfl
      | cons m ms ih =>
        cases text : m.1.text with
        | error e => simp_all [keys, named, Except.toOption]
        | ok k => by_cases same : k = name <;> simp_all [keys, named, Except.toOption]
    rw [count]
    exact List.nodup_iff_count_le_one.1 distinct name
  rcases eq : ms.filter (named name) with _ | ⟨m, _ | ⟨n, rest⟩⟩
  · exact .inl rfl
  · exact .inr ⟨m, rfl⟩
  · simp [eq] at once

/-- What stands under a name in an object stands there, changed, in its rearrangement. -/
theorem lookup_changes {R : Node → Node → Prop} {name : String}
    (order : ms.Perm (changes.map Change.after ++ added))
    (distinct : (keys (changes.map Change.before)).Nodup)
    (other : ∀ m ∈ added, m.1.text ≠ .ok name)
    (each : ∀ c ∈ changes, c.key.text = .ok name → R c.old c.new) :
    Option.Rel R (lookup name (changes.map Change.before)) (lookup name ms) := by
  have text {key : Quoted} {n : Node} (same : named name (key, n) = true) :
      key.text = .ok name := by
    cases text : key.text with
    | error e => simp [named, text, Except.toOption] at same
    | ok k => simpa [named, text, Except.toOption] using same
  have none : added.filter (named name) = [] :=
    List.filter_eq_nil_iff.2 fun m among same => other m among (text same)
  have order' := order.filter (named name)
  rw [List.filter_append, none, List.append_nil, List.filter_map] at order'
  have once : (changes.map Change.before).filter (named name) = [] ∨ _ := filter_named distinct
  rw [List.filter_map] at once
  rw [lookup_eq_head?, lookup_eq_head?, List.filter_map]
  rcases once with nothing | ⟨m, only⟩
  · obtain nothing := List.map_eq_nil_iff.1 nothing
    have nothing' : changes.filter (named name ∘ Change.after) = [] := nothing
    rw [nothing', List.map_nil] at order'
    rw [nothing, order'.eq_nil]
    exact .none
  · obtain ⟨c, only, -⟩ := List.map_eq_singleton_iff.1 only
    have only' : changes.filter (named name ∘ Change.after) = [c] := only
    rw [only', List.map_singleton] at order'
    rw [only, List.perm_singleton.1 order']
    obtain ⟨among, same⟩ := List.mem_filter.1 (only ▸ List.mem_singleton_self c)
    exact .some (each c among (text same))

end Members

end Record

end MailRound.Json
