import MailRound.Proofs.Text.Utf8
import MailRound.Web.Host

namespace MailRound

theorem Text.le_of_mem_rangesFrom (next : Nat) (ns : List Nat) :
    ∀ r ∈ rangesFrom next ns, next + ns.headD 0 ≤ r.1 := by
  fun_induction rangesFrom next ns with
  | case1 next outside inside rest ih =>
    rintro r (_ | ⟨_, later⟩)
    · exact Nat.le_refl _
    · have := ih r later
      simp only [List.headD_cons]
      omega
  | case2 => exact List.forall_mem_nil _

theorem Text.inRanges_below {lines : List String} {c : Char}
    (below : c.toNat < (numbers lines).headD 0) : inRanges (ranges lines) c = false := by
  rw [inRanges, List.any_eq_false]
  intro r among
  have := le_of_mem_rangesFrom 0 (numbers lines) r among
  simp only [Bool.and_eq_true, decide_eq_true_eq, not_and]
  omega

namespace Text.Canonical

variable {cs : List Char}

theorem split_eq_self {c : Char} (plain : c.toNat < 0xC0) (depth : Nat) : split depth c = [c] := by
  cases depth with
  | zero => rfl
  | succ depth => exact if_pos plain

theorem ordered_eq (plain : ∀ c ∈ cs, c.toNat < 0x300) : ordered cs = cs.map (·, 0) := by
  -- What comes before is held backwards, and no character goes behind a mark that is there.
  have held : ∀ before, cs.foldl (fun before c => insertMark c (markClass c) before) before =
      (cs.map (·, 0)).reverse ++ before := by
    induction cs with
    | nil => exact fun _ => rfl
    | cons c cs ih =>
      obtain ⟨first, rest⟩ := List.forall_mem_cons.1 plain
      intro before
      have unmarked : markClass c = 0 := if_pos first
      have put : insertMark c 0 before = (c, 0) :: before := by
        cases before <;> simp [insertMark]
      rw [List.foldl_cons, unmarked, put, ih rest, List.map_cons, List.reverse_cons,
        List.append_assoc]
      rfl
  rw [ordered, held [], List.append_nil, List.reverse_reverse]

theorem compose?_eq_none (a : Char) {b : Char} (plain : b.toNat < 0x300) : compose? a b = none := by
  simp only [compose?]
  rw [if_neg (by omega), if_neg (by simp; omega), if_pos plain]

theorem text_foldl_step (plain : ∀ c ∈ cs, c.toNat < 0x300) (j : Joining)
    (unmarked : j.marks = []) :
    ((cs.map (·, 0)).foldl (fun (j : Joining) p => j.step p.1 p.2) j).text =
      cs.reverse ++ j.text := by
  induction cs generalizing j with
  | nil => rfl
  | cons c cs ih =>
    obtain ⟨first, rest⟩ := List.forall_mem_cons.1 plain
    have apart : j.starter.bind (compose? · c) = none :=
      Option.bind_eq_none_iff.2 fun a _ => compose?_eq_none a first
    have stepped : j.step c 0 = ⟨j.text, some c, [], 0⟩ := by
      simp [Joining.step, unmarked, apart]
    rw [List.map_cons, List.foldl_cons, stepped, ih rest _ rfl, List.reverse_cons,
      List.append_assoc]
    rfl

theorem compose_eq_self (plain : ∀ c ∈ cs, c.toNat < 0xC0) : compose cs = cs := by
  have whole : cs.flatMap (split 4) = cs := by
    induction cs with
    | nil => rfl
    | cons c cs ih =>
      obtain ⟨first, rest⟩ := List.forall_mem_cons.1 plain
      rw [List.flatMap_cons, split_eq_self first, ih rest, List.singleton_append]
  have low : ∀ c ∈ cs, c.toNat < 0x300 := fun c among => Nat.lt_trans (plain c among) (by decide)
  rw [compose, whole, ordered_eq low, text_foldl_step low _ rfl]
  simp [Joining.text]

end Text.Canonical

theorem Web.forall_of_all {α : Type} {P : α → Prop} [DecidablePred P] {xs : List α}
    (all : xs.all (fun x => decide (P x)) = true) : ∀ x ∈ xs, P x :=
  fun x among => of_decide_eq_true (List.all_eq_true.1 all x among)

namespace Web.Domain

theorem splitOn_eq (mark : Char) (cs : List Char) : splitOn mark cs = cs.splitOn mark := by
  fun_induction splitOn mark cs with
  | case1 => rfl
  | case2 cs ih => rw [ih, List.splitOn_cons_eq_if_modifyHead, if_pos (beq_self_eq_true mark)]
  | case3 c cs other part parts pieces ih =>
    rw [List.splitOn_cons_eq_if_modifyHead, if_neg (by simpa using other), ← ih, pieces]
    rfl
  | case4 c cs other none ih => exact absurd (ih.symm.trans none) (List.splitOn_ne_nil _ _)

/-- A character that is written as it stands, and that a name may hold. -/
structure Plain (c : Char) : Prop where
  ascii : c.toNat < 0x80
  small : c.toLower = c
  free : isReserved c = false

instance (c : Char) : Decidable (Plain c) :=
  decidable_of_iff (c.toNat < 0x80 ∧ c.toLower = c ∧ isReserved c = false)
    ⟨fun ⟨ascii, small, free⟩ => ⟨ascii, small, free⟩,
      fun ⟨ascii, small, free⟩ => ⟨ascii, small, free⟩⟩

variable {cs : List Char}

theorem mapM_eq_some_map {α β : Type} {f : α → Option β} {g : α → β} {xs : List α}
    (each : ∀ x ∈ xs, f x = some (g x)) : xs.mapM f = some (xs.map g) := by
  induction xs with
  | nil => rfl
  | cons x xs ih =>
    obtain ⟨first, rest⟩ := List.forall_mem_cons.1 each
    simp [first, ih rest]

theorem plain?_eq_self (plain : ∀ c ∈ cs, Plain c) : plain? cs = some cs := by
  have written : cs.mapM written? = some (cs.map ([·])) := mapM_eq_some_map fun c among => by
    rw [written?, if_pos (plain c among).ascii, (plain c among).small]
  have low : ∀ c ∈ cs, c.toNat < 0xC0 := fun c among =>
    Nat.lt_trans (plain c among).ascii (by decide)
  rw [plain?, written, Option.map_some, ← List.flatMap_def, List.flatMap_singleton',
    Text.Canonical.compose_eq_self low]

theorem mem_of_mem_splitOn {mark : Char} {label : List Char} (among : label ∈ splitOn mark cs) :
    ∀ c ∈ label, c ∈ cs := by
  fun_induction splitOn mark cs generalizing label with
  | case1 =>
    obtain rfl := List.mem_singleton.1 among
    exact List.forall_mem_nil _
  | case2 cs ih =>
    obtain rfl | among := List.mem_cons.1 among
    · exact List.forall_mem_nil _
    · exact fun c within => List.mem_cons_of_mem _ (ih among c within)
  | case3 c cs other part parts pieces ih =>
    rw [pieces] at ih
    obtain rfl | among := List.mem_cons.1 among
    · rintro d (_ | ⟨_, within⟩)
      · exact List.mem_cons_self
      · exact List.mem_cons_of_mem _ (ih List.mem_cons_self d within)
    · exact fun d within => List.mem_cons_of_mem _ (ih (List.mem_cons_of_mem _ among) d within)
  | case4 c cs other none =>
    exact absurd ((splitOn_eq mark cs).symm.trans none) (List.splitOn_ne_nil _ _)

theorem Plain.unmarked {c : Char} (plain : Plain c) : Text.inRanges markRanges c = false :=
  Text.inRanges_below (Nat.lt_trans plain.ascii (by decide +kernel))

theorem Plain.runsRight {c : Char} (plain : Plain c) : runsRight c = false := by
  have right : Text.inRanges rightRanges c = false :=
    Text.inRanges_below (Nat.lt_trans plain.ascii (by decide +kernel))
  have arabic : Text.inRanges arabicNumberRanges c = false :=
    Text.inRanges_below (Nat.lt_trans plain.ascii (by decide +kernel))
  simp only [Domain.runsRight, Direction.of, right, arabic, Bool.false_eq_true, if_false]
  split_ifs <;> rfl

theorem keepsJoiners_of_plain (plain : ∀ c ∈ cs, Plain c) (before : List Char) :
    keepsJoiners before cs = true := by
  induction cs generalizing before with
  | nil => rfl
  | cons c cs ih =>
    obtain ⟨first, rest⟩ := List.forall_mem_cons.1 plain
    have ascii := first.ascii
    rw [keepsJoiners, if_neg (by omega), if_neg (by omega), ih rest]
    rfl

theorem isSound_of_plain (plain : ∀ c ∈ cs, Plain c) : isSound cs = true := by
  rw [isSound, keepsJoiners_of_plain plain]
  cases cs with
  | nil => rfl
  | cons c cs => simp [(plain c List.mem_cons_self).unmarked]

theorem label_eq_self (plain : ∀ c ∈ cs, Plain c) : Punycode.label cs = cs :=
  if_pos (List.all_eq_true.2 fun c among => decide_eq_true (plain c among).ascii)

/-- A plain name none of whose labels stands for another one is sent as it is. -/
theorem toAscii?_eq_self (plain : ∀ c ∈ cs, Plain c)
    (bare : ∀ label ∈ splitOn '.' cs, label? label = some label) : toAscii? cs = some cs := by
  have labels : (splitOn '.' cs).mapM label? = some (splitOn '.' cs) :=
    (mapM_eq_some_map bare).trans (congrArg some (List.map_id' _))
  have within : ∀ label ∈ splitOn '.' cs, ∀ c ∈ label, Plain c :=
    fun label among c of => plain c (mem_of_mem_splitOn among c of)
  have free : cs.any isReserved = false :=
    List.any_eq_false.2 fun c among => Bool.not_eq_true _ ▸ (plain c among).free
  have sound : (splitOn '.' cs).all isSound = true :=
    List.all_eq_true.2 fun label among => isSound_of_plain (within label among)
  have leftwards : (splitOn '.' cs).any (·.any runsRight) = false := by
    simpa using fun label among c of => (within label among c of).runsRight
  have sent : (splitOn '.' cs).map Punycode.label = splitOn '.' cs :=
    (List.map_congr_left fun label among => label_eq_self (within label among)).trans
      (List.map_id' _)
  rw [toAscii?, plain?_eq_self plain, Option.bind_eq_bind, Option.bind_some, labels,
    Option.bind_eq_bind, Option.bind_some, leftwards, free, sound]
  rw [sent, splitOn_eq, List.intercalate_splitOn]
  rfl

end Web.Domain

namespace Web

theorem percentDecode_plain {cs : List Char} (plain : ∀ c ∈ cs, Domain.Plain c) :
    percentDecode cs = cs.flatMap String.utf8EncodeChar := by
  induction cs with
  | nil => rfl
  | cons c cs ih =>
    obtain ⟨first, rest⟩ := List.forall_mem_cons.1 plain
    have unescaped : c ≠ '%' := by
      rintro rfl
      exact absurd first.free (by decide)
    rw [List.flatMap_cons, ← ih rest]
    exact percentDecode.eq_3 _ _ fun _ _ _ same => absurd same unescaped

theorem Host.read_eq_self {cs : List Char} (plain : ∀ c ∈ cs, Domain.Plain c) (named : cs ≠ [])
    (bare : ∀ label ∈ Domain.splitOn '.' cs, Domain.label? label = some label)
    (lettered : endsInNumber (Domain.splitOn '.' cs) = false) :
    read cs = .ok (String.ofList cs) := by
  have decoded : (Text.Utf8.decodeLossy (percentDecode cs)).toList = cs := by
    rw [percentDecode_plain plain, Text.Utf8.decodeLossy_encode, String.toList_ofList]
  have sent := Domain.toAscii?_eq_self plain bare
  unfold read
  split
  · exact absurd (plain '[' List.mem_cons_self).free (by decide)
  · obtain ⟨c, rest, rfl⟩ := List.exists_cons_of_ne_nil named
    rw [decoded, sent]
    exact if_neg (Bool.not_eq_true _ ▸ lettered)

end Web

end MailRound
