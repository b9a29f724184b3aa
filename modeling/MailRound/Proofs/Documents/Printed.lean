import MailRound.Proofs.Documents.Lexemes
import MailRound.Proofs.Documents.Spelled

namespace MailRound.Json

theorem toList_intercalate_cons (s t : String) (ss : List String) :
    (",".intercalate (s :: t :: ss)).toList =
      s.toList ++ ',' :: (",".intercalate (t :: ss)).toList := by
  simp [String.intercalate_cons_cons]

theorem toList_print_arr (items : List Json) : (print (.arr items)).toList =
    '[' :: ((",".intercalate (printItems items)).toList ++ [']']) := by
  simp [print]

theorem toList_print_obj (ms : Members) : (print (.obj ms)).toList =
    '\x7b' :: ((",".intercalate (printMembers ms)).toList ++ ['\x7d']) := by
  simp [print]

theorem Spells.bare {n : Node} {cs : List Char} (value : Spells (.value n) cs) :
    Spells (.spaced n) cs := by
  simpa using Spells.spaced (List.forall_mem_nil _) value (List.forall_mem_nil _)

theorem spells_entry {key : String} {j : Json}
    (value : Spells (.value (toNode j)) j.print.toList) :
    Spells (.member (⟨.ok key, none⟩, toNode j)) (printText key ++ ":" ++ j.print).toList := by
  simpa using Spells.entry (List.forall_mem_nil _) (spellsString_printText key)
    (List.forall_mem_nil _) value.bare

mutual

/-- The text of a value is one of its spellings. -/
theorem spells_print : ∀ j : Json, j.Printable → Spells (.value (toNode j)) j.print.toList
  | .null, _ => .null
  | .bool true, _ => .true
  | .bool false, _ => .false
  | .int _, printable => spells_int printable.ranged
  | .float _, printable => printable.floatless.elim
  | .str s, _ => .string (spellsString_printText s)
  | .arr [], _ => .emptyArray (List.forall_mem_nil _)
  | .arr (j :: js), printable => by
    rw [toList_print_arr]
    exact .array (spells_printItems (j :: js) (List.cons_ne_nil j js) (printable_arr.1 printable))
  | .obj [], _ => .emptyObject (List.forall_mem_nil _)
  | .obj (m :: ms), printable => by
    rw [toList_print_obj]
    exact .object
      (spells_printMembers (m :: ms) (List.cons_ne_nil m ms) (printable_obj.1 printable))

theorem spells_printItems : ∀ js : List Json, js ≠ [] → (∀ j ∈ js, j.Printable) →
    Spells (.items (toNodes js)) (",".intercalate (printItems js)).toList
  | [j], _, printable => by
    have only := spells_print j (printable j List.mem_cons_self)
    simpa [printItems, toNodes] using Spells.item only.bare
  | j :: i :: js, _, printable => by
    obtain ⟨printable, printable'⟩ := List.forall_mem_cons.1 printable
    have others := spells_printItems (i :: js) (List.cons_ne_nil i js) printable'
    rw [printItems, printItems, toList_intercalate_cons]
    exact .items (spells_print j printable).bare others

theorem spells_printMembers : ∀ ms : Members, ms ≠ [] → (∀ m ∈ ms, m.2.Printable) →
    Spells (.members (toMemberNodes ms)) (",".intercalate (printMembers ms)).toList
  | [(k, j)], _, printable => by
    have only := spells_print j (printable (k, j) List.mem_cons_self)
    simpa [printMembers, toMemberNodes] using Spells.member (spells_entry only)
  | (k, j) :: (l, i) :: ms, _, printable => by
    obtain ⟨printable, printable'⟩ := List.forall_mem_cons.1 printable
    have others := spells_printMembers ((l, i) :: ms) (List.cons_ne_nil _ ms) printable'
    rw [printMembers, printMembers, toList_intercalate_cons]
    exact .members (spells_entry (spells_print j printable)) others

end

/-- The text of a value is a document that states the value and nothing else. -/
theorem scan_print {j : Json} (printable : j.Printable) :
    Document.scan j.print = ⟨toNode j, none⟩ :=
  scan_spelled (spells_print j printable).bare

end MailRound.Json
