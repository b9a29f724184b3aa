import MailRound.Json.Basic
import Mathlib.Data.List.Nodup
import Mathlib.Data.String.Basic
import Mathlib.Tactic.Common

namespace MailRound.Json.Members

theorem get?_insert (key : String) (value : Json) (ms : Members) (name : String) :
    (ms.insert key value).get? name = if key = name then some value else ms.get? name := by
  induction ms with
  | nil => simp [insert, get?]
  | cons m ms ih =>
    obtain ⟨k, v⟩ := m
    by_cases same : key = k
    · subst same
      by_cases wanted : key = name <;> simp [insert, get?, wanted]
    · by_cases before : key < k
      · simp [insert, get?, same, before]
      · by_cases wanted : k = name
        · subst wanted
          simp [insert, get?, same, before]
        · simp [insert, get?, same, before, wanted, ih]

theorem mem_insert {key : String} {value : Json} {ms : Members} {m : String × Json}
    (among : m ∈ ms.insert key value) : m = (key, value) ∨ m ∈ ms := by
  induction ms with
  | nil => simpa [insert] using among
  | cons n ms ih =>
    obtain ⟨k, v⟩ := n
    unfold insert at among
    split_ifs at among with same before
    · exact (List.mem_cons.1 among).imp_right (List.mem_cons_of_mem _)
    · exact List.mem_cons.1 among
    · obtain rfl | rest := List.mem_cons.1 among
      · exact .inr List.mem_cons_self
      · exact (ih rest).imp_right (List.mem_cons_of_mem _)

theorem insert_sorted {ms : Members} (sorted : ms.Sorted) (key : String) (value : Json) :
    (ms.insert key value).Sorted := by
  induction ms with
  | nil => simp [insert, Sorted]
  | cons n ms ih =>
    obtain ⟨k, v⟩ := n
    obtain ⟨first, rest⟩ := List.pairwise_cons.1 sorted
    unfold insert
    split_ifs with same before
    · subst same
      exact sorted
    · refine List.pairwise_cons.2 ⟨fun name among => ?_, sorted⟩
      obtain rfl | later := List.mem_cons.1 among
      · exact before
      · exact before.trans (first name later)
    · refine List.pairwise_cons.2 ⟨fun name among => ?_, ih rest⟩
      obtain ⟨m, there, rfl⟩ := List.mem_map.1 among
      obtain rfl | old := mem_insert there
      · exact lt_of_le_of_ne (not_lt.1 before) (Ne.symm same)
      · exact first _ (List.mem_map_of_mem old)

theorem insert_of_behind {ms : Members} {key : String} (value : Json)
    (behind : ∀ m ∈ ms, m.1 < key) : ms.insert key value = ms ++ [(key, value)] := by
  induction ms with
  | nil => rfl
  | cons n ms ih =>
    obtain ⟨k, v⟩ := n
    obtain ⟨first, rest⟩ := List.forall_mem_cons.1 behind
    rw [insert, if_neg (ne_of_gt first), if_neg (not_lt_of_gt first), ih rest]
    rfl

theorem get?_eq_none {ms : Members} {name : String} :
    ms.get? name = none ↔ ∀ m ∈ ms, m.1 ≠ name := by
  induction ms with
  | nil => simp [get?]
  | cons n ms ih =>
    obtain ⟨k, v⟩ := n
    by_cases wanted : k = name <;> simp [get?, wanted, ih]

theorem mem_of_get? {ms : Members} {name : String} {j : Json} (found : ms.get? name = some j) :
    (name, j) ∈ ms := by
  induction ms with
  | nil => cases found
  | cons n ms ih =>
    obtain ⟨k, v⟩ := n
    unfold get? at found
    split_ifs at found with wanted
    · obtain rfl := Option.some.inj found
      subst wanted
      exact List.mem_cons_self
    · exact List.mem_cons_of_mem _ (ih found)

theorem get?_of_mem {ms : Members} (distinct : (ms.map Prod.fst).Nodup) {m : String × Json}
    (among : m ∈ ms) : ms.get? m.1 = some m.2 := by
  induction ms with
  | nil => cases among
  | cons n ms ih =>
    obtain ⟨fresh, rest⟩ := List.nodup_cons.1 distinct
    obtain rfl | later := List.mem_cons.1 among
    · simp [get?]
    · have other : n.1 ≠ m.1 := fun same => fresh (same ▸ List.mem_map_of_mem later)
      simp [get?, other, ih rest later]

theorem get?_eq_some {ms : Members} (distinct : (ms.map Prod.fst).Nodup) {name : String} {j : Json} :
    ms.get? name = some j ↔ (name, j) ∈ ms :=
  ⟨mem_of_get?, get?_of_mem distinct⟩

theorem Sorted.nodup {ms : Members} (sorted : ms.Sorted) : (ms.map Prod.fst).Nodup :=
  List.Pairwise.imp ne_of_lt sorted

theorem foldl_insert_sorted {acc : Members} (sorted : acc.Sorted) (ms : Members) :
    (ms.foldl (fun acc m => acc.insert m.1 m.2) acc).Sorted := by
  induction ms generalizing acc with
  | nil => exact sorted
  | cons m ms ih => exact ih (insert_sorted sorted m.1 m.2)

theorem ofList_sorted (ms : Members) : (ofList ms).Sorted :=
  foldl_insert_sorted (show Sorted [] from List.Pairwise.nil) ms

theorem mem_foldl_insert {acc ms : Members} {m : String × Json}
    (among : m ∈ ms.foldl (fun acc m => acc.insert m.1 m.2) acc) : m ∈ ms ∨ m ∈ acc := by
  induction ms generalizing acc with
  | nil => exact .inr among
  | cons n ms ih =>
    obtain later | before := ih among
    · exact .inl (List.mem_cons_of_mem _ later)
    · exact (mem_insert before).imp_left fun (same : m = n) => same ▸ List.mem_cons_self

theorem mem_ofList {ms : Members} {m : String × Json} (among : m ∈ ofList ms) : m ∈ ms :=
  (mem_foldl_insert among).resolve_right List.not_mem_nil

theorem foldl_insert_get? (acc ms : Members) (distinct : (ms.map Prod.fst).Nodup) (name : String) :
    (ms.foldl (fun acc m => acc.insert m.1 m.2) acc).get? name =
      (ms.get? name).or (acc.get? name) := by
  induction ms generalizing acc with
  | nil => rfl
  | cons m ms ih =>
    obtain ⟨fresh, rest⟩ := List.nodup_cons.1 distinct
    rw [List.foldl_cons, ih _ rest, get?_insert]
    by_cases wanted : m.1 = name
    · have absent : Members.get? ms name = none := get?_eq_none.2 fun n among same =>
        fresh (wanted.trans same.symm ▸ List.mem_map_of_mem among)
      simp [get?, wanted, absent]
    · simp [get?, wanted]

theorem get?_ofList {ms : Members} (distinct : (ms.map Prod.fst).Nodup) (name : String) :
    (ofList ms).get? name = ms.get? name := by
  rw [ofList, foldl_insert_get? _ _ distinct]
  exact Option.or_none

theorem mem_ofList_iff {ms : Members} (distinct : (ms.map Prod.fst).Nodup) {m : String × Json} :
    m ∈ ofList ms ↔ m ∈ ms :=
  ⟨mem_ofList, fun among => mem_of_get? <| by
    rw [get?_ofList distinct, get?_of_mem distinct among]⟩

theorem Sorted.ext {ms ns : Members} (left : ms.Sorted) (right : ns.Sorted)
    (same : ∀ name, ms.get? name = ns.get? name) : ms = ns := by
  have distinct {ms : Members} (sorted : ms.Sorted) : List.Nodup ms :=
    List.Nodup.of_map Prod.fst sorted.nodup
  have perm : List.Perm ms ns :=
    (List.perm_ext_iff_of_nodup (distinct left) (distinct right)).2 fun m => by
      rw [← get?_eq_some left.nodup, ← get?_eq_some right.nodup, same]
  have ordered {ms : Members} (sorted : ms.Sorted) : List.Pairwise (fun m n => m.1 < n.1) ms :=
    List.pairwise_map.1 sorted
  exact perm.eq_of_pairwise (fun m n _ _ before behind => absurd before behind.asymm)
    (ordered left) (ordered right)

theorem get?_append (ms ns : Members) (name : String) :
    Members.get? (ms ++ ns) name = (ms.get? name).or (ns.get? name) := by
  induction ms with
  | nil => rfl
  | cons m ms ih => by_cases wanted : m.1 = name <;> simp [get?, wanted, ih]

theorem get?_filter (p : String → Bool) (ms : Members) (name : String) :
    Members.get? (ms.filter fun m => p m.1) name = if p name then ms.get? name else none := by
  induction ms with
  | nil => simp [get?]
  | cons m ms ih =>
    by_cases wanted : m.1 = name
    · subst wanted
      cases kept : p m.1 <;> simp [kept, get?, ih]
    · cases kept : p m.1 <;> simp [kept, get?, wanted, ih]

end MailRound.Json.Members
