import MailRound.Json.Node
import MailRound.Proofs.Documents.Members

namespace MailRound.Json

mutual

def Scalars (p : Json → Prop) : Json → Prop
  | .null => p .null
  | .bool b => p (.bool b)
  | .int n => p (.int n)
  | .float bits => p (.float bits)
  | .str s => p (.str s)
  | .arr items => ScalarItems p items
  | .obj ms => ScalarMembers p ms

def ScalarItems (p : Json → Prop) : List Json → Prop
  | [] => True
  | j :: js => Scalars p j ∧ ScalarItems p js

def ScalarMembers (p : Json → Prop) : List (String × Json) → Prop
  | [] => True
  | (_, j) :: ms => Scalars p j ∧ ScalarMembers p ms

end

/-- A value without a binary fraction. -/
def Floatless : Json → Prop := Scalars fun
  | .float _ => False
  | _ => True

/-- The whole numbers of 64 bits, with a sign or without. -/
def Wide (n : Int) : Prop := -(Text.limit63 : Int) ≤ n ∧ n < (Text.limit64 : Int)

def Ranged : Json → Prop := Scalars fun
  | .int n => Wide n
  | _ => True

/-- A value whose text is read back. -/
structure Printable (j : Json) : Prop where
  floatless : j.Floatless
  ranged : j.Ranged

mutual

def depth : Json → Nat
  | .arr items => depthItems items + 1
  | .obj ms => depthMembers ms + 1
  | _ => 0

def depthItems : List Json → Nat
  | [] => 0
  | j :: js => max (depth j) (depthItems js)

def depthMembers : List (String × Json) → Nat
  | [] => 0
  | (_, j) :: ms => max (depth j) (depthMembers ms)

end

theorem scalarItems_iff {p : Json → Prop} {js : List Json} :
    ScalarItems p js ↔ ∀ j ∈ js, Scalars p j := by
  induction js with
  | nil => simp [ScalarItems]
  | cons j js ih => simp [ScalarItems, ih]

theorem scalarMembers_iff {p : Json → Prop} {ms : Members} :
    ScalarMembers p ms ↔ ∀ m ∈ ms, Scalars p m.2 := by
  induction ms with
  | nil => simp [ScalarMembers]
  | cons m ms ih => simp [ScalarMembers, ih]

theorem canonicalItems_iff {js : List Json} : CanonicalItems js ↔ ∀ j ∈ js, Canonical j := by
  induction js with
  | nil => simp [CanonicalItems]
  | cons j js ih => simp [CanonicalItems, ih]

theorem canonicalMembers_iff {ms : Members} :
    CanonicalMembers ms ↔ ∀ m ∈ ms, Canonical m.2 := by
  induction ms with
  | nil => simp [CanonicalMembers]
  | cons m ms ih => simp [CanonicalMembers, ih]

theorem depthItems_le {js : List Json} {d : Nat} : depthItems js ≤ d ↔ ∀ j ∈ js, depth j ≤ d := by
  induction js with
  | nil => simp [depthItems]
  | cons j js ih => simp [depthItems, ih]

theorem depthMembers_le {ms : Members} {d : Nat} :
    depthMembers ms ≤ d ↔ ∀ m ∈ ms, depth m.2 ≤ d := by
  induction ms with
  | nil => simp [depthMembers]
  | cons m ms ih => simp [depthMembers, ih]

theorem printable_arr {js : List Json} : (Json.arr js).Printable ↔ ∀ j ∈ js, j.Printable :=
  ⟨fun ⟨floatless, ranged⟩ j among =>
    ⟨scalarItems_iff.1 floatless j among, scalarItems_iff.1 ranged j among⟩,
    fun each => ⟨scalarItems_iff.2 fun j among => (each j among).floatless,
      scalarItems_iff.2 fun j among => (each j among).ranged⟩⟩

theorem printable_obj {ms : Members} : (Json.obj ms).Printable ↔ ∀ m ∈ ms, m.2.Printable :=
  ⟨fun ⟨floatless, ranged⟩ m among =>
    ⟨scalarMembers_iff.1 floatless m among, scalarMembers_iff.1 ranged m among⟩,
    fun each => ⟨scalarMembers_iff.2 fun m among => (each m among).floatless,
      scalarMembers_iff.2 fun m among => (each m among).ranged⟩⟩

theorem printable_object {fields : Members} (each : ∀ m ∈ fields, m.2.Printable) :
    (object fields).Printable :=
  printable_obj.2 fun m among => each m (Members.mem_ofList among)

theorem printable_ofList {f : α → Json} {as : List α} (each : ∀ a ∈ as, (f a).Printable) :
    (ofList f as).Printable :=
  printable_arr.2 <| by simpa using each

theorem depth_obj_le {ms : Members} {d : Nat} :
    (Json.obj ms).depth ≤ d ↔ ∃ e, d = e + 1 ∧ ∀ m ∈ ms, m.2.depth ≤ e := by
  cases d with
  | zero => simp [depth]
  | succ d => simp [depth, depthMembers_le]

theorem depth_object_le {fields : Members} (distinct : (fields.map Prod.fst).Nodup) {d : Nat} :
    (object fields).depth ≤ d ↔ ∃ e, d = e + 1 ∧ ∀ m ∈ fields, m.2.depth ≤ e := by
  simp only [object, depth_obj_le, Members.mem_ofList_iff distinct]

theorem depth_ofList_le {f : α → Json} {as : List α} {d : Nat} :
    (ofList f as).depth ≤ d ↔ ∃ e, d = e + 1 ∧ ∀ a ∈ as, (f a).depth ≤ e := by
  cases d with
  | zero => simp [ofList, depth]
  | succ d => simp [ofList, depth, depthItems_le]

mutual

/-- A document that states a value with its keys in order is read back as that value. -/
theorem value_toNode {d : Nat} : ∀ {j : Json}, j.Canonical → j.depth ≤ d →
    (toNode j).value d = .ok j
  | .null, _, _ => rfl
  | .bool _, _, _ => rfl
  | .int _, _, _ => rfl
  | .float _, _, _ => rfl
  | .str _, _, _ => rfl
  | .arr items, canonical, deep => by
    cases d with
    | zero => simp [depth] at deep
    | succ d =>
      have inside := valueItems_toNodes (d := d) canonical (by simpa [depth] using deep)
      simp [toNode, Node.value, inside]
  | .obj ms, canonical, deep => by
    cases d with
    | zero => simp [depth] at deep
    | succ d =>
      have inside := valueMembers_toMemberNodes (d := d) [] canonical.2
        (by simpa [depth] using deep) canonical.1
      simp [toNode, Node.value, inside]

theorem valueItems_toNodes {d : Nat} : ∀ {js : List Json}, CanonicalItems js →
    depthItems js ≤ d → valueItems d (toNodes js) = .ok js
  | [], _, _ => rfl
  | j :: js, canonical, deep => by
    obtain ⟨first, rest⟩ := max_le_iff.1 deep
    have head := value_toNode canonical.1 first
    have tail := valueItems_toNodes canonical.2 rest
    simp [toNodes, valueItems, head, tail]

theorem valueMembers_toMemberNodes {d : Nat} : ∀ {ms : Members} (acc : Members),
    CanonicalMembers ms → depthMembers ms ≤ d → Members.Sorted (acc ++ ms) →
    valueMembers d (toMemberNodes ms) acc = .ok (acc ++ ms)
  | [], acc, _, _, _ => by simp [toMemberNodes, valueMembers]
  | (k, j) :: ms, acc, canonical, deep, sorted => by
    obtain ⟨first, rest⟩ := max_le_iff.1 deep
    have head := value_toNode canonical.1 first
    have behind : ∀ m ∈ acc, m.1 < k := by
      intro m among
      rw [Members.Sorted, List.map_append, List.pairwise_append] at sorted
      exact sorted.2.2 _ (List.mem_map_of_mem among) _ (by simp)
    have tail := valueMembers_toMemberNodes (acc ++ [(k, j)]) canonical.2 rest
      (by simpa using sorted)
    simp [toMemberNodes, valueMembers, head, Members.insert_of_behind j behind, tail]

end

mutual

theorem skip_toNode : ∀ j : Json, (toNode j).skip = .ok ()
  | .null => rfl
  | .bool _ => rfl
  | .int _ => rfl
  | .float _ => rfl
  | .str _ => rfl
  | .arr items => by simp [toNode, Node.skip, skipItems_toNodes items, skipFault]
  | .obj ms => by simp [toNode, Node.skip, skipMembers_toMemberNodes ms, skipFault]

theorem skipItems_toNodes : ∀ js : List Json, skipItems (toNodes js) = .ok ()
  | [] => rfl
  | j :: js => by simp [toNodes, skipItems, skip_toNode j, skipItems_toNodes js]

theorem skipMembers_toMemberNodes : ∀ ms : Members, skipMembers (toMemberNodes ms) = .ok ()
  | [] => rfl
  | (k, j) :: ms => by
    simp [toMemberNodes, skipMembers, skip_toNode j, skipMembers_toMemberNodes ms, skipFault]

end

mutual

def Node.Ranged : Node → Prop
  | .number (.ok (.int n)) => Wide n
  | .array items _ => RangedNodes items
  | .object ms _ => RangedMembers ms
  | _ => True

def RangedNodes : List Node → Prop
  | [] => True
  | n :: ns => n.Ranged ∧ RangedNodes ns

def RangedMembers : List (Quoted × Node) → Prop
  | [] => True
  | (_, n) :: ns => n.Ranged ∧ RangedMembers ns

end

theorem rangedNodes_iff {ns : List Node} : RangedNodes ns ↔ ∀ n ∈ ns, n.Ranged := by
  induction ns with
  | nil => simp [RangedNodes]
  | cons n ns ih => simp [RangedNodes, ih]

theorem rangedMembers_iff {ns : List (Quoted × Node)} :
    RangedMembers ns ↔ ∀ n ∈ ns, n.2.Ranged := by
  induction ns with
  | nil => simp [RangedMembers]
  | cons n ns ih => simp [RangedMembers, ih]

/-- A value of the data model: its keys in order, and its whole numbers of 64 bits. -/
structure Proper (j : Json) : Prop where
  canonical : j.Canonical
  ranged : j.Ranged

/-- A value as it can be read, with so many containers allowed inside one another. -/
structure Readable (d : Nat) (j : Json) : Prop extends Proper j where
  deep : j.depth ≤ d

def ReadableMembers (d : Nat) (ms : Members) : Prop :=
  ms.Sorted ∧ ∀ m ∈ ms, m.2.Readable d

theorem readableMembers_nil {d : Nat} : ReadableMembers d [] :=
  ⟨List.Pairwise.nil, by simp⟩

theorem readable_obj {d : Nat} {ms : Members} :
    (Json.obj ms).Readable (d + 1) ↔ ReadableMembers d ms := by
  constructor
  · rintro ⟨⟨⟨sorted, canonical⟩, ranged⟩, deep⟩
    have deep := depthMembers_le.1 (Nat.le_of_succ_le_succ deep)
    exact ⟨sorted, fun m among => ⟨⟨canonicalMembers_iff.1 canonical m among,
      scalarMembers_iff.1 ranged m among⟩, deep m among⟩⟩
  · rintro ⟨sorted, inside⟩
    exact ⟨⟨⟨sorted, canonicalMembers_iff.2 fun m among => (inside m among).canonical⟩,
      scalarMembers_iff.2 fun m among => (inside m among).ranged⟩,
      Nat.succ_le_succ (depthMembers_le.2 fun m among => (inside m among).deep)⟩

theorem readable_arr {d : Nat} {js : List Json} :
    (Json.arr js).Readable (d + 1) ↔ ∀ j ∈ js, j.Readable d := by
  constructor
  · rintro ⟨⟨canonical, ranged⟩, deep⟩
    have deep := depthItems_le.1 (Nat.le_of_succ_le_succ deep)
    exact fun j among => ⟨⟨canonicalItems_iff.1 canonical j among,
      scalarItems_iff.1 ranged j among⟩, deep j among⟩
  · intro inside
    exact ⟨⟨canonicalItems_iff.2 fun j among => (inside j among).canonical,
      scalarItems_iff.2 fun j among => (inside j among).ranged⟩,
      Nat.succ_le_succ (depthItems_le.2 fun j among => (inside j among).deep)⟩

theorem ReadableMembers.insert {d : Nat} {ms : Members} {j : Json} (readable : ReadableMembers d ms)
    (key : String) (value : j.Readable d) : ReadableMembers d (ms.insert key j) := by
  obtain ⟨sorted, inside⟩ := readable
  refine ⟨Members.insert_sorted sorted key j, fun m among => ?_⟩
  obtain rfl | old := Members.mem_insert among
  · exact value
  · exact inside m old

mutual

/-- Every value that is read can be read again from a document that states it. -/
theorem value_readable {d : Nat} : ∀ {n : Node} {j : Json}, n.Ranged → n.value d = .ok j →
    j.Readable d
  | .null, _, _, read => by
    obtain rfl := Except.ok.inj read
    exact ⟨⟨trivial, trivial⟩, Nat.zero_le d⟩
  | .bool _, _, _, read => by
    obtain rfl := Except.ok.inj read
    exact ⟨⟨trivial, trivial⟩, Nat.zero_le d⟩
  | .number value, _, ranged, read => by
    cases value with
    | error fault => cases read
    | ok number =>
      obtain rfl := Except.ok.inj read
      cases number with
      | int n => exact ⟨⟨trivial, ranged⟩, Nat.zero_le d⟩
      | float bits => exact ⟨⟨trivial, trivial⟩, Nat.zero_le d⟩
  | .string token, _, _, read => by
    obtain ⟨text, fault⟩ := token
    cases text with
    | error fault => cases read
    | ok s =>
      obtain rfl := Except.ok.inj read
      exact ⟨⟨trivial, trivial⟩, Nat.zero_le d⟩
  | .array ns close, j, ranged, read => by
    cases d with
    | zero => cases read
    | succ d =>
      cases inside : valueItems d ns with
      | error fault => simp [Node.value, inside] at read
      | ok js =>
        cases close <;> simp only [Node.value, inside] at read <;> cases read
        exact readable_arr.2 (valueItems_readable ranged inside)
  | .object ns close, j, ranged, read => by
    cases d with
    | zero => cases read
    | succ d =>
      cases inside : valueMembers d ns [] with
      | error fault => simp [Node.value, inside] at read
      | ok ms =>
        cases close <;> simp only [Node.value, inside] at read <;> cases read
        exact readable_obj.2 (valueMembers_readable ranged readableMembers_nil inside)
  | .misspelt _, _, _, read => by cases read
  | .broken _, _, _, read => by cases read

theorem valueItems_readable {d : Nat} : ∀ {ns : List Node} {js : List Json}, RangedNodes ns →
    valueItems d ns = .ok js → ∀ j ∈ js, j.Readable d
  | [], js, _, read => by
    obtain rfl := Except.ok.inj read
    simp
  | n :: ns, js, ranged, read => by
    cases first : n.value d with
    | error fault => simp [valueItems, first] at read
    | ok v =>
      cases rest : valueItems d ns with
      | error fault => simp [valueItems, first, rest] at read
      | ok vs =>
        simp only [valueItems, first, rest] at read
        cases read
        exact List.forall_mem_cons.2
          ⟨value_readable ranged.1 first, valueItems_readable ranged.2 rest⟩

theorem valueMembers_readable {d : Nat} : ∀ {ns : List (Quoted × Node)} {acc ms : Members},
    RangedMembers ns → ReadableMembers d acc → valueMembers d ns acc = .ok ms →
    ReadableMembers d ms
  | [], acc, ms, _, before, read => by
    obtain rfl := Except.ok.inj read
    exact before
  | (key, n) :: ns, acc, ms, ranged, before, read => by
    cases name : key.text with
    | error fault => simp [valueMembers, name] at read
    | ok k =>
      cases first : n.value d with
      | error fault => simp [valueMembers, name, first] at read
      | ok v =>
        simp only [valueMembers, name, first] at read
        exact valueMembers_readable ranged.2 (before.insert k (value_readable ranged.1 first)) read

end

mutual

theorem value_mono : ∀ {n : Node} {d e : Nat} {j : Json}, d ≤ e → n.value d = .ok j →
    n.value e = .ok j
  | .null, _, _, _, _, read => read
  | .bool _, _, _, _, _, read => read
  | .number _, _, _, _, _, read => read
  | .string _, _, _, _, _, read => read
  | .array ns close, d, e, j, le, read => by
    cases d with
    | zero => cases read
    | succ d =>
      obtain ⟨e, rfl⟩ : ∃ f, e = f + 1 := ⟨e - 1, by omega⟩
      cases inside : valueItems d ns with
      | error fault => simp [Node.value, inside] at read
      | ok vs =>
        have inside' := valueItems_mono (Nat.le_of_succ_le_succ le) inside
        simpa only [Node.value, inside, inside'] using read
  | .object ms close, d, e, j, le, read => by
    cases d with
    | zero => cases read
    | succ d =>
      obtain ⟨e, rfl⟩ : ∃ f, e = f + 1 := ⟨e - 1, by omega⟩
      cases inside : valueMembers d ms [] with
      | error fault => simp [Node.value, inside] at read
      | ok vs =>
        have inside' := valueMembers_mono (Nat.le_of_succ_le_succ le) inside
        simpa only [Node.value, inside, inside'] using read
  | .misspelt _, _, _, _, _, read => read
  | .broken _, _, _, _, _, read => read

theorem valueItems_mono : ∀ {ns : List Node} {d e : Nat} {js : List Json}, d ≤ e →
    valueItems d ns = .ok js → valueItems e ns = .ok js
  | [], _, _, _, _, read => read
  | n :: ns, d, e, js, le, read => by
    cases first : n.value d with
    | error fault => simp [valueItems, first] at read
    | ok v =>
      cases rest : valueItems d ns with
      | error fault => simp [valueItems, first, rest] at read
      | ok vs =>
        simpa only [valueItems, first, rest, value_mono le first, valueItems_mono le rest] using read

theorem valueMembers_mono : ∀ {ns : List (Quoted × Node)} {d e : Nat} {acc ms : Members}, d ≤ e →
    valueMembers d ns acc = .ok ms → valueMembers e ns acc = .ok ms
  | [], _, _, _, _, _, read => read
  | (key, n) :: ns, d, e, acc, ms, le, read => by
    cases name : key.text with
    | error fault => simp [valueMembers, name] at read
    | ok k =>
      cases first : n.value d with
      | error fault => simp [valueMembers, name, first] at read
      | ok v =>
        simp only [valueMembers, name, first, value_mono le first] at read ⊢
        exact valueMembers_mono le read

end

end MailRound.Json
