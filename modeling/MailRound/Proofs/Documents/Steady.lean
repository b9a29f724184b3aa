import MailRound.Proofs.Documents.Spelled
import MailRound.Proofs.Documents.Unordered

namespace MailRound.Json

/-- A document without repeated keys and a rearrangement of it; a reader can pass over both. -/
structure Counterpart (s : Shape) (n n' : Node) : Prop where
  distinct : n.Distinct
  skips : n.skip = .ok ()
  skips' : n'.skip = .ok ()
  rearranged : Rearranged s n n'

structure Counterparts (s : Shape) (changes : List Change) (added ms : List (Quoted × Node)) :
    Prop where
  each : ∀ c ∈ changes, Counterpart (s.member c.key) c.old c.new
  foreign : ∀ m ∈ added, s.Admits m.1
  skips : ∀ m ∈ added, m.2.skip = .ok ()
  distinct : (keys (changes.map Change.before)).Nodup
  order : ms.Perm (changes.map Change.after ++ added)

theorem Counterpart.cases {s : Shape} {n n' : Node} (pair : Counterpart s n n') :
    n' = n ∨
    (∃ pairs : List (Node × Node), n = .array (pairs.map Prod.fst) none ∧
      n' = .array (pairs.map Prod.snd) none ∧
      ∀ i p, pairs[i]? = some p → Counterpart (s.item i) p.1 p.2) ∨
    ∃ changes added ms, n = .object (changes.map Change.before) none ∧ n' = .object ms none ∧
      Counterparts s changes added ms := by
  obtain ⟨distinct, skips, skips', rearranged⟩ := pair
  cases rearranged with
  | same => exact .inl rfl
  | array pairs each =>
    refine .inr (.inl ⟨pairs, rfl, rfl, fun i p at' => ?_⟩)
    have among := List.mem_of_getElem? at'
    exact ⟨distinctNodes_iff.1 distinct _ (List.mem_map_of_mem among),
      skip_array.1 skips _ (List.mem_map_of_mem among),
      skip_array.1 skips' _ (List.mem_map_of_mem among), each i p at'⟩
  | object changes added each foreign order =>
    have after {m : Quoted × Node} (among : m ∈ changes.map Change.after ++ added) :
        m.2.skip = .ok () :=
      (skip_object.1 skips' m (order.mem_iff.2 among)).2
    refine .inr (.inr ⟨changes, added, _, rfl, rfl, fun c among => ?_, foreign, fun m among => ?_,
      distinct.1, order⟩)
    · exact ⟨distinctMembers_iff.1 distinct.2 _ (List.mem_map_of_mem among),
        (skip_object.1 skips _ (List.mem_map_of_mem among)).2,
        after (List.mem_append_left _ (List.mem_map_of_mem among)), each c among⟩
    · exact after (List.mem_append_right _ among)

/-- The reader gives the same for a document of the shape and for its rearrangements. -/
def Steady (s : Shape) (r : Reader α) : Prop :=
  ∀ d n n', Counterpart s n n' → Agree (r d n) (r d n')

namespace Reader

variable {s : Shape}

/-- A reader that wants neither arrays nor objects sees nothing that could be rearranged. -/
theorem steady_of_scalar {r : Reader α} (array : ∀ d ns a, r d (.array ns none) ≠ .ok a)
    (object : ∀ d ms a, r d (.object ms none) ≠ .ok a) : Steady s r := by
  intro d n n' pair
  rcases pair.cases with rfl | ⟨pairs, rfl, rfl, -⟩ | ⟨changes, added, ms, rfl, rfl, -⟩
  · exact .refl _
  · exact .of_ne_ok (array d _) (array d _)
  · exact .of_ne_ok (object d _) (object d _)

theorem text_steady : Steady s text :=
  steady_of_scalar (by simp [text, Node.mismatch, Node.found])
    (by simp [text, Node.mismatch, Node.found])

theorem bool_steady : Steady s bool :=
  steady_of_scalar (by simp [bool, Node.mismatch, Node.found])
    (by simp [bool, Node.mismatch, Node.found])

theorem unsigned_steady (name : String) (bound : Nat) : Steady s (unsigned name bound) :=
  steady_of_scalar (by simp [unsigned, Node.mismatch, Node.found])
    (by simp [unsigned, Node.mismatch, Node.found])

theorem option_steady {r : Reader α} (steady : Steady s r) : Steady s (option r) := by
  intro d n n' pair
  have inside := (steady d n n' pair).map some
  rcases pair.cases with rfl | ⟨pairs, rfl, rfl, -⟩ | ⟨changes, added, ms, rfl, rfl, -⟩
  · exact .refl _
  · exact inside
  · exact inside

theorem list_array (r : Reader α) (d : Nat) (ns : List Node) :
    list r (d + 1) (.array ns none) = items r d ns := by
  rw [list]
  cases items r d ns <;> rfl

theorem list_steady {r : Reader α} (steady : Steady s r) : Steady (.list s) (list r) := by
  intro d n n' pair
  rcases pair.cases with rfl | ⟨pairs, rfl, rfl, each⟩ | ⟨changes, added, ms, rfl, rfl, -⟩
  · exact .refl _
  · cases d with
    | zero => exact .refl _
    | succ d =>
      rw [list_array, list_array]
      apply items_agree
      intro p among
      obtain ⟨i, at'⟩ := List.getElem?_of_mem among
      exact steady d p.1 p.2 (each i p at')
  · exact .of_ne_ok (by simp [list, Node.mismatch, Node.found])
      (by simp [list, Node.mismatch, Node.found])

end Reader

theorem Counterparts.values_agree {changes : List Change} {added ms : List (Quoted × Node)}
    (parts : Counterparts .free changes added ms) (d : Nat) :
    Agree (valueMembers d (changes.map Change.before) []) (valueMembers d ms []) := by
  have order := parts.order
  obtain rfl := eq_nil_of_not_admits parts.foreign
  rw [List.append_nil] at order
  exact valueMembers_rearranged order parts.distinct fun c among =>
    (parts.each c among).rearranged.value_agree rfl (parts.each c among).distinct d

theorem Reader.members_object (d : Nat) (ms : List (Quoted × Node)) :
    members (d + 1) (.object ms none) = valueMembers d ms [] := by
  rw [members]
  cases valueMembers d ms [] <;> rfl

theorem Reader.members_steady : Steady .free members := by
  intro d n n' pair
  rcases pair.cases with rfl | ⟨pairs, rfl, rfl, -⟩ | ⟨changes, added, ms, rfl, rfl, parts⟩
  · exact .refl _
  · exact .of_ne_ok (by simp [members, Node.mismatch, Node.found])
      (by simp [members, Node.mismatch, Node.found])
  · cases d with
    | zero => exact .refl _
    | succ d =>
      rw [members_object, members_object]
      exact parts.values_agree d

namespace Record

structure Tally (fields : String → Shape) (slots : List Slot) (src src' : Source) :
    Prop where
  depth : src.depth = src'.depth
  sparse : src.sparse = src'.sparse
  get? : ∀ s ∈ slots, Option.Rel (Counterpart (fields s.name)) (src.get? s.name)
    (src'.get? s.name)

structure Steady (fields : String → Shape) (r : Record α) : Prop where
  checks : ∀ s ∈ r.slots, ∀ d n n', Counterpart (fields s.name) n n' →
    Agree (s.check d n) (s.check d n')
  builds : ∀ place src src', Tally fields r.slots src src' →
    Agree (r.build place src) (r.build place src')

section Steady

variable {fields : String → Shape} {name : String}

theorem slot_steady {r : Reader α} (steady : Json.Steady (fields name) r) :
    ∀ s ∈ [slot name r], ∀ d n n', Counterpart (fields s.name) n n' →
      Agree (s.check d n) (s.check d n') := by
  intro s only d n n' pair
  obtain rfl := List.mem_singleton.1 only
  exact (steady d n n' pair).map _

theorem required_steady {r : Reader α} (steady : Json.Steady (fields name) r) :
    (required name r).Steady fields where
  checks := slot_steady steady
  builds place src src' sources := by
    have field := sources.get? (slot name r) List.mem_cons_self
    simp only [required]
    rw [sources.depth]
    change Option.Rel _ (src.get? name) (src'.get? name) at field
    generalize src.get? name = n, src'.get? name = n' at field
    cases field with
    | none => exact .faults _ _
    | some pair => exact steady _ _ _ pair

theorem withDefault_steady {r : Reader α} {a : α} (steady : Json.Steady (fields name) r) :
    (withDefault name r a).Steady fields where
  checks := slot_steady steady
  builds place src src' sources := by
    have field := sources.get? (slot name r) List.mem_cons_self
    simp only [withDefault]
    rw [sources.depth]
    change Option.Rel _ (src.get? name) (src'.get? name) at field
    generalize src.get? name = n, src'.get? name = n' at field
    cases field with
    | none => exact .refl _
    | some pair => exact steady _ _ _ pair

theorem optional_steady {r : Reader α} (steady : Json.Steady (fields name) r) :
    (optional name r).Steady fields :=
  withDefault_steady (Reader.option_steady steady)

theorem Steady.map {r : Record α} (steady : r.Steady fields) (f : α → β) :
    (r.map f).Steady fields where
  checks := steady.checks
  builds place src src' sources := (steady.builds place src src' sources).map f

theorem Steady.app {f : Record (α → β)} {r : Record α} (left : f.Steady fields)
    (right : r.Steady fields) : (f.app r).Steady fields where
  checks s among := (List.mem_append.1 among).elim (left.checks s) (right.checks s)
  builds place src src' sources := by
    have first := left.builds place src src' ⟨sources.depth, sources.sparse,
      fun s among => sources.get? s (List.mem_append_left _ among)⟩
    have second := right.builds (place + f.slots.length) src src' ⟨sources.depth, sources.sparse,
      fun s among => sources.get? s (List.mem_append_right _ among)⟩
    rw [build_app, build_app]
    exact first.bind fun g => second.map g

end Steady

theorem checkPlaces_cons (d : Nat) (s : Slot) (ss : List Slot) (n : Node) (ns : List Node) :
    checkPlaces d (s :: ss) (n :: ns) = (s.check d n).bind fun _ => checkPlaces d ss ns := by
  rw [checkPlaces]
  cases s.check d n <;> rfl

theorem checkPlaces_agree {d : Nat} {slots : List Slot} {pairs : List (Node × Node)}
    (each : ∀ (i : Nat) (s : Slot) (p : Node × Node), slots[i]? = some s → pairs[i]? = some p →
      Agree (s.check d p.1) (s.check d p.2)) :
    Agree (checkPlaces d slots (pairs.map Prod.fst)) (checkPlaces d slots (pairs.map Prod.snd)) := by
  induction slots generalizing pairs with
  | nil => exact .refl _
  | cons s ss ih =>
    cases pairs with
    | nil => exact .refl _
    | cons p pairs =>
      rw [List.map_cons, List.map_cons, checkPlaces_cons, checkPlaces_cons]
      apply (each 0 s p rfl rfl).bind
      intro _
      apply ih
      intro i t q slot pair
      exact each (i + 1) t q slot pair

theorem placeOf_rel {R : Node → Node → Prop} {name : String} {slots : List Slot}
    {pairs : List (Node × Node)} (each : ∀ (i : Nat) (s : Slot) (p : Node × Node),
      slots[i]? = some s → s.name = name → pairs[i]? = some p → R p.1 p.2) :
    Option.Rel R (placeOf name slots (pairs.map Prod.fst))
      (placeOf name slots (pairs.map Prod.snd)) := by
  induction slots generalizing pairs with
  | nil => exact .none
  | cons s ss ih =>
    cases pairs with
    | nil => exact .none
    | cons p pairs =>
      simp only [List.map_cons, placeOf]
      by_cases same : s.name = name
      · simp only [if_pos same]
        exact .some (each 0 s p rfl same rfl)
      · simp only [if_neg same]
        exact ih fun i s p slot name pair => each (i + 1) s p slot name pair

theorem field_of_get {fields : List (String × Shape)} (distinct : (fields.map Prod.fst).Nodup)
    {f : String × Shape} (among : f ∈ fields) : Shape.field fields f.1 = f.2 := by
  induction fields with
  | nil => cases among
  | cons g fields ih =>
    obtain ⟨fresh, rest⟩ := List.nodup_cons.1 distinct
    obtain ⟨name, shape⟩ := g
    rcases List.mem_cons.1 among with rfl | later
    · simp [Shape.field]
    · have other : f.1 ≠ name := fun same => fresh (List.mem_map.2 ⟨f, later, same⟩)
      rw [← ih rest later, Shape.field, Shape.field, List.lookup_cons, beq_false_of_ne other]

theorem item_eq_field {slots : List Slot} {fields : List (String × Shape)}
    (names : slots.map (·.name) = fields.map Prod.fst) (distinct : (fields.map Prod.fst).Nodup)
    {i : Nat} {s : Slot} (slot : slots[i]? = some s) :
    (Shape.record fields).item i = Shape.field fields s.name := by
  have name : (fields.map Prod.fst)[i]? = some s.name := by
    rw [← names, List.getElem?_map, slot]
    rfl
  rw [List.getElem?_map, Option.map_eq_some_iff] at name
  obtain ⟨f, at', name⟩ := name
  rw [← name, field_of_get distinct (List.mem_of_getElem? at'), Shape.item, at']
  rfl

theorem reader_array (r : Record α) (title : String) (d : Nat) (ns : List Node) :
    r.reader title (d + 1) (.array ns none) = (checkPlaces d r.slots ns).bind fun _ =>
      (r.build 0 (arraySource title d r.slots ns)).bind fun a =>
        (surplus r.slots.length ns none).map fun _ => a := by
  rw [reader]
  dsimp only [readArray]
  rw [ite_self]
  cases checkPlaces d r.slots ns with
  | error e => rfl
  | ok done => cases r.build 0 (arraySource title d r.slots ns) <;> rfl

theorem reader_members (r : Record α) (title : String) (d : Nat) (ms : List (Quoted × Node)) :
    r.reader title (d + 1) (.object ms none) = (checkMembers Node.skip r.slots d [] ms).bind
      fun _ => r.build 0 (objectSource d ms) := by
  rw [reader]
  dsimp only [readObject]
  cases checkMembers Node.skip r.slots d [] ms <;> rfl

theorem Admits.unknown {slots : List Slot} {fields : List (String × Shape)}
    (names : slots.map (·.name) = fields.map Prod.fst) {key : Quoted}
    (admits : (Shape.record fields).Admits key) :
    ∃ k, key.text = .ok k ∧ findSlot? slots k = none := by
  obtain ⟨k, name, other⟩ := admits
  exact ⟨k, name, findSlot?_eq_none.2 (names ▸ other)⟩

section Reader

variable {r : Record α} {fields : List (String × Shape)} {d : Nat}

theorem readArray_agree {pairs : List (Node × Node)} (title : String)
    (names : r.slots.map (·.name) = fields.map Prod.fst) (distinct : (fields.map Prod.fst).Nodup)
    (steady : r.Steady (Shape.field fields))
    (each : ∀ i p, pairs[i]? = some p → Counterpart ((Shape.record fields).item i) p.1 p.2) :
    Agree (r.reader title (d + 1) (.array (pairs.map Prod.fst) none))
      (r.reader title (d + 1) (.array (pairs.map Prod.snd) none)) := by
  have place (i : Nat) (s : Slot) (p : Node × Node) (slot : r.slots[i]? = some s)
      (at' : pairs[i]? = some p) : Counterpart (Shape.field fields s.name) p.1 p.2 :=
    item_eq_field names distinct slot ▸ each i p at'
  have checks : Agree (checkPlaces d r.slots (pairs.map Prod.fst))
      (checkPlaces d r.slots (pairs.map Prod.snd)) :=
    checkPlaces_agree fun i s p slot at' =>
      steady.checks s (List.mem_of_getElem? slot) d _ _ (place i s p slot at')
  have builds := steady.builds 0 (arraySource title d r.slots (pairs.map Prod.fst))
    (arraySource title d r.slots (pairs.map Prod.snd)) ⟨rfl, rfl, fun s _ =>
      placeOf_rel fun i t p slot name at' => name ▸ place i t p slot at'⟩
  rw [reader_array, reader_array]
  refine checks.bind fun _ => builds.bind fun a => ?_
  simp only [surplus, List.length_map]
  exact .refl _

theorem readMembers_agree {changes : List Change} {added ms : List (Quoted × Node)}
    (title : String) (names : r.slots.map (·.name) = fields.map Prod.fst)
    (steady : r.Steady (Shape.field fields))
    (parts : Counterparts (.record fields) changes added ms) :
    Agree (r.reader title (d + 1) (.object (changes.map Change.before) none))
      (r.reader title (d + 1) (.object ms none)) := by
  have unknown := fun m among => Admits.unknown names (parts.foreign m among)
  have field (c : Change) (among : c ∈ changes) (k : String) (name : c.key.text = .ok k) :
      Counterpart (Shape.field fields k) c.old c.new := by
    have pair := parts.each c among
    rwa [Shape.member, name] at pair
  have checks : Agree (checkMembers Node.skip r.slots d [] (changes.map Change.before))
      (checkMembers Node.skip r.slots d [] ms) := by
    refine checkMembers_agree parts.order parts.distinct (fun c among k name => ?_) unknown
      parts.skips
    have pair := field c among k name
    cases slot : findSlot? r.slots k with
    | none => exact fun _ => iff_of_true pair.skips pair.skips'
    | some s =>
      obtain ⟨there, rfl⟩ := findSlot?_eq_some slot
      exact steady.checks s there d _ _ pair
  have builds := steady.builds 0 (objectSource d (changes.map Change.before))
    (objectSource d ms) ⟨rfl, rfl, fun s there => by
      refine lookup_changes parts.order parts.distinct (fun m among name => ?_)
        fun c among name => field c among s.name name
      obtain ⟨k, name', none⟩ := unknown m among
      obtain rfl := Except.ok.inj (name.symm.trans name')
      exact findSlot?_eq_none.1 none (List.mem_map_of_mem there)⟩
  rw [reader_members, reader_members]
  exact checks.bind fun _ => builds

/-- The records that are put together from steady fields are steady. -/
theorem reader_steady (title : String) (names : r.slots.map (·.name) = fields.map Prod.fst)
    (distinct : (fields.map Prod.fst).Nodup) (steady : r.Steady (Shape.field fields)) :
    Json.Steady (.record fields) (r.reader title) := by
  intro d n n' pair
  rcases pair.cases with rfl | ⟨pairs, rfl, rfl, each⟩ | ⟨changes, added, ms, rfl, rfl, parts⟩
  · exact .refl _
  · cases d with
    | zero => exact .refl _
    | succ d => exact readArray_agree title names distinct steady each
  · cases d with
    | zero => exact .refl _
    | succ d => exact readMembers_agree title names steady parts

end Reader

def isForeign (slots : List Slot) (key : Quoted) : Bool :=
  key.text.toOption.any fun k => (findSlot? slots k).isNone

theorem foreignMembers_eq (slots : List Slot) (ms : List (Quoted × Node)) :
    foreignMembers slots ms = ms.filter fun m => isForeign slots m.1 := by
  apply List.filter_congr
  intro m _
  rw [isForeign]
  cases m.1.text <;> rfl

theorem mem_foreignMembers {slots : List Slot} {ms : List (Quoted × Node)} {m : Quoted × Node} :
    m ∈ foreignMembers slots ms ↔
      m ∈ ms ∧ ∃ k, m.1.text = .ok k ∧ findSlot? slots k = none := by
  rw [foreignMembers_eq, List.mem_filter, isForeign]
  apply and_congr_right
  intro _
  cases m.1.text <;> simp [Except.toOption]

theorem foreign_counterparts {changes : List Change} {added ms : List (Quoted × Node)}
    (slots : List Slot) (parts : Counterparts .free changes added ms) :
    ∃ others, foreignMembers slots (changes.map Change.before) = others.map Change.before ∧
      Counterparts .free others [] (foreignMembers slots ms) := by
  obtain ⟨each, foreign, skips, distinct, order⟩ := parts
  obtain rfl := eq_nil_of_not_admits foreign
  rw [List.append_nil] at order
  have order' := order.filter fun m => isForeign slots m.1
  rw [List.filter_map] at order'
  rw [foreignMembers_eq, foreignMembers_eq, List.filter_map]
  refine ⟨_, rfl, ⟨fun c among => each c (List.mem_filter.1 among).1, foreign, skips, ?_, ?_⟩⟩
  · exact distinct.sublist ((List.filter_sublist.map _).filterMap _)
  · rw [List.append_nil]
    exact order'

theorem openReader_members (r : Record (Members → α)) (title : String) (d : Nat)
    (ms : List (Quoted × Node)) : r.openReader title (d + 1) (.object ms none) =
      (checkMembers (fun node => (node.value d).map fun _ => ()) r.slots d [] ms).bind fun _ =>
        (r.build 0 (objectSource d ms)).bind fun f =>
          (valueMembers d (foreignMembers r.slots ms) []).map f := by
  rw [openReader]
  cases checkMembers (fun node => (node.value d).map fun _ => ()) r.slots d [] ms with
  | error e => rfl
  | ok done => cases r.build 0 (objectSource d ms) <;> rfl

theorem openReader_steady {r : Record (Members → α)} (title : String)
    (steady : r.Steady fun _ => .free) : Json.Steady .free (r.openReader title) := by
  intro d n n' pair
  rcases pair.cases with rfl | ⟨pairs, rfl, rfl, -⟩ | ⟨changes, added, ms, rfl, rfl, parts⟩
  · exact .refl _
  · exact .of_ne_ok (by cases d <;> simp [openReader, Node.mismatch, Node.found])
      (by cases d <;> simp [openReader, Node.mismatch, Node.found])
  · cases d with
    | zero => exact .refl _
    | succ d =>
      have none := eq_nil_of_not_admits parts.foreign
      have checks : Agree
          (checkMembers (fun node => (node.value d).map fun _ => ()) r.slots d []
            (changes.map Change.before))
          (checkMembers (fun node => (node.value d).map fun _ => ()) r.slots d [] ms) := by
        refine checkMembers_agree parts.order parts.distinct (fun c among k name => ?_)
          (by simp [none]) (by simp [none])
        have pair := parts.each c among
        cases slot : findSlot? r.slots k with
        | none => exact (pair.rearranged.value_agree rfl pair.distinct d).map _
        | some s => exact steady.checks s (findSlot?_eq_some slot).1 d _ _ pair
      have builds := steady.builds 0 (objectSource d (changes.map Change.before))
        (objectSource d ms) ⟨rfl, rfl, fun s _ =>
          lookup_changes parts.order parts.distinct (by simp [none]) fun c among _ =>
            parts.each c among⟩
      obtain ⟨others, same, parts'⟩ := foreign_counterparts r.slots parts
      rw [openReader_members, openReader_members, same]
      exact checks.bind fun _ => builds.bind fun f => (parts'.values_agree d).map f

end Record

end MailRound.Json
