import MailRound.Proofs.Web.Segments
import MailRound.Web.Request
import Mathlib.Data.List.TakeWhile

namespace MailRound.Web

variable {cs host : List Char} {name : String}

theorem Domain.Plain.ne {c d : Char} (plain : Plain c) (reserved : isReserved d = true) :
    c ≠ d := by
  rintro rfl
  exact absurd (plain.free.symm.trans reserved) Bool.false_ne_true

theorem Domain.Plain.visible {c : Char} (plain : Plain c) : 0x20 < c.toNat := by
  have blank : c.toNat ≠ ' '.toNat := fun same => plain.ne (by decide) (Char.toNat_inj.1 same)
  have control : isControl c = false := (Bool.or_eq_false_iff.1 plain.free).1
  have := of_decide_eq_false (Bool.or_eq_false_iff.1 control).1
  have : ' '.toNat = 0x20 := rfl
  omega

namespace Url

theorem trimmed_append (visible : ∀ c ∈ cs, 0x20 < c.toNat) (there : cs ≠ []) (back : List Char) :
    ∃ rest, rest.Sublist back ∧ trimmed (cs ++ back) = cs ++ rest := by
  have inside : ∀ c ∈ cs, ¬decide (c.toNat ≤ 0x20) = true := fun c among => by
    simpa using visible c among
  have kept : cs.filter (fun c => c ≠ '\t' && c ≠ '\n' && c ≠ '\r') = cs := by
    refine List.filter_eq_self.2 fun c among => ?_
    have apart : ∀ d : Char, d.toNat ≤ 0x20 → c ≠ d := by
      rintro d low rfl
      exact inside c among (decide_eq_true low)
    simp [apart '\t' (by decide), apart '\n' (by decide), apart '\r' (by decide)]
  have front : ∀ ds, (cs ++ ds).dropWhile (fun c => decide (c.toNat ≤ 0x20)) = cs ++ ds := by
    obtain ⟨c, rest, rfl⟩ := List.exists_cons_of_ne_nil there
    exact fun ds => List.dropWhile_cons_of_neg (inside c List.mem_cons_self)
  obtain ⟨rest, part, ended⟩ : ∃ rest, rest.Sublist back ∧
      ((cs ++ back).reverse.dropWhile fun c => decide (c.toNat ≤ 0x20)).reverse = cs ++ rest := by
    rw [List.reverse_append, List.dropWhile_append]
    -- Either all that comes behind is cut off, or some of it is left.
    split_ifs
    · refine ⟨[], List.nil_sublist _, ?_⟩
      rw [List.append_nil, List.reverse_eq_iff]
      exact List.dropWhile_eq_self_iff.2 fun _ => inside _ (List.mem_reverse.1 (List.getElem_mem _))
    · refine ⟨_, ?_, by rw [List.reverse_append, List.reverse_reverse]⟩
      exact List.reverse_sublist.1 (by simpa using List.dropWhile_sublist _)
  exact ⟨_, List.filter_sublist.trans part,
    by rw [trimmed, front, ended, List.filter_append, kept]⟩

theorem splitTail_append (inner : ∀ c ∈ cs, c ≠ '#' ∧ c ≠ '?') (back : List Char) :
    splitTail (cs ++ back) = (cs ++ (splitTail back).1, (splitTail back).2) := by
  have unmarked : ∀ c ∈ cs, decide (c ≠ '#') = true :=
    fun c among => decide_eq_true (inner c among).1
  have unasked : ∀ c ∈ cs, decide (c ≠ '?') = true :=
    fun c among => decide_eq_true (inner c among).2
  simp only [splitTail, List.takeWhile_append_of_pos unmarked, List.takeWhile_append_of_pos unasked,
    List.length_append, List.drop_append, List.drop_eq_nil_of_le (Nat.le_add_right _ _),
    Nat.add_sub_cancel_left, List.nil_append]

theorem splitCredentials_plain (plain : ∀ c ∈ cs, Domain.Plain c) :
    splitCredentials cs = (none, cs) := by
  have whole : cs.reverse.takeWhile (· ≠ '@') = cs.reverse := by
    refine List.takeWhile_eq_self_iff.2 fun c among => decide_eq_true ?_
    exact (plain c (List.mem_reverse.1 among)).ne (by decide)
  rw [splitCredentials, whole, List.reverse_reverse]
  exact if_pos rfl

theorem splitPort_plain (plain : ∀ c ∈ cs, Domain.Plain c) (inside : Bool) :
    splitPort inside cs = (cs, none) := by
  induction cs with
  | nil => rw [splitPort]
  | cons c cs ih =>
    obtain ⟨first, rest⟩ := List.forall_mem_cons.1 plain
    have colon : c ≠ ':' := first.ne (by decide)
    have opens : c ≠ '[' := first.ne (by decide)
    have closes : c ≠ ']' := first.ne (by decide)
    rw [splitPort, ih rest] <;> simp_all

theorem readAuthority_plain (plain : ∀ c ∈ host, Domain.Plain c) (named : host ≠ [])
    (there : Host.read host = .ok name) :
    readAuthority "https" true host = .ok (bare "https" (some name) "") := by
  have special : isSpecial "https" = true := by decide
  have filled : host.isEmpty = false := List.isEmpty_eq_false_iff.2 named
  simp only [readAuthority, splitCredentials_plain plain, splitPort_plain plain, special, filled,
    there]
  rfl

theorem readWeb_plain (plain : ∀ c ∈ host, Domain.Plain c) (named : host ≠ [])
    (there : Host.read host = .ok name) (cs : List Char) :
    readWeb "https" ("//".toList ++ (host ++ '/' :: cs)) =
      .ok (bare "https" (some name) (Path.read (cs.map slashed))) := by
  have straight : host.map slashed = host :=
    (List.map_congr_left fun c among => if_neg ((plain c among).ne (by decide))).trans
      (List.map_id' _)
  have within : ∀ c ∈ host, decide (c ≠ '/') = true :=
    fun c among => decide_eq_true ((plain c among).ne (by decide))
  have slashes : (("//".toList ++ (host ++ '/' :: cs)).map slashed).dropWhile (· == '/') =
      host ++ '/' :: cs.map slashed := by
    obtain ⟨c, rest, rfl⟩ := List.exists_cons_of_ne_nil named
    rw [List.map_append, List.map_append, straight]
    have solid : c ≠ '/' := (plain c List.mem_cons_self).ne (by decide)
    exact List.dropWhile_cons_of_neg (p := (· == '/')) fun slash => solid (beq_iff_eq.1 slash)
  have authority : (host ++ '/' :: cs.map slashed).takeWhile (· ≠ '/') = host := by
    rw [List.takeWhile_append_of_pos within]
    simp
  simp only [readWeb, slashes, authority, readAuthority_plain plain named there, List.drop_left]
  rfl

theorem read_of_trimmed (plain : ∀ c ∈ host, Domain.Plain c) (named : host ≠ [])
    (there : Host.read host = .ok name) {s : String} {back : List Char}
    (shape : trimmed s.toList = "https://".toList ++ host ++ ['/'] ++ back) :
    read s = .ok ((bare "https" (some name) (Path.read ((splitTail back).1.map slashed))).withTail
      (splitTail back).2.1 (splitTail back).2.2) := by
  have inner : ∀ c ∈ "//".toList ++ host ++ ['/'], c ≠ '#' ∧ c ≠ '?' :=
    List.forall_mem_append.2 ⟨List.forall_mem_append.2 ⟨forall_of_all (by decide), fun c among =>
      ⟨(plain c among).ne (by decide), (plain c among).ne (by decide)⟩⟩,
        forall_of_all (by decide)⟩
  have scheme : splitScheme ("https://".toList ++ host ++ ['/'] ++ back) =
      some ("https", "//".toList ++ host ++ ['/'] ++ back) := rfl
  have front : "//".toList ++ host ++ ['/'] ++ (splitTail back).1 =
      "//".toList ++ (host ++ '/' :: (splitTail back).1) := by
    simp
  have special : isSpecial "https" = true := by decide
  rw [read, shape, scheme]
  simp only [splitTail_append inner, front, readWeb_plain plain named there, special]
  rfl

theorem visible_front (plain : ∀ c ∈ host, Domain.Plain c) :
    ∀ c ∈ "https://".toList ++ host ++ ['/'], 0x20 < c.toNat :=
  List.forall_mem_append.2 ⟨List.forall_mem_append.2 ⟨forall_of_all (by decide), fun c among =>
    (plain c among).visible⟩, forall_of_all (by decide)⟩

theorem toList_front (host : List Char) (rest : String) :
    ("https://" ++ String.ofList host ++ "/" ++ rest).toList =
      "https://".toList ++ host ++ ['/'] ++ rest.toList := by
  simp

/-- An address on a plain host is read, whatever follows the host. -/
theorem read_plain (plain : ∀ c ∈ host, Domain.Plain c) (named : host ≠ [])
    (there : Host.read host = .ok name) (rest : String) :
    ∃ path query fragment, read ("https://" ++ String.ofList host ++ "/" ++ rest) =
      .ok ⟨"https", "", none, some name, none, path, query, fragment⟩ := by
  obtain ⟨back, -, trimmed⟩ := trimmed_append (visible_front plain) (by simp) rest.toList
  rw [← toList_front] at trimmed
  exact ⟨_, _, _, read_of_trimmed plain named there trimmed⟩

end Url

theorem Url.withoutCredentials_cases (u : Url) :
    u.withoutCredentials = u ∨ u.withoutCredentials = { u with user := "", password := none } := by
  unfold withoutCredentials
  split
  · split_ifs
    · exact .inr rfl
    · exact .inl rfl
  · exact .inl rfl

@[simp] theorem Url.scheme_withoutCredentials (u : Url) :
    u.withoutCredentials.scheme = u.scheme := by
  obtain same | same := u.withoutCredentials_cases <;> rw [same]

@[simp] theorem Url.host_withoutCredentials (u : Url) : u.withoutCredentials.host = u.host := by
  obtain same | same := u.withoutCredentials_cases <;> rw [same]

@[simp] theorem Url.scheme_withQuery (u : Url) (pairs : List (String × String)) :
    (u.withQuery pairs).scheme = u.scheme := by
  unfold withQuery
  split_ifs <;> rfl

@[simp] theorem Url.host_withQuery (u : Url) (pairs : List (String × String)) :
    (u.withQuery pairs).host = u.host := by
  unfold withQuery
  split_ifs <;> rfl

variable {method : Method} {address : String} {extras : Extras} {request : Request}

def FitsHeader (token : Option String) : Prop := (token.map bearer).all isHeaderText = true

instance (token : Option String) : Decidable (FitsHeader token) :=
  inferInstanceAs (Decidable (_ = _))

namespace Request

theorem of_make (made : make method address extras = .ok request) : ∃ url,
    readAddress address = .ok url ∧ FitsHeader extras.token ∧
      request = ⟨method, url.withoutCredentials.withQuery extras.query,
        extras.token.map ("Bearer " ++ ·), extras.content.map Prod.fst,
        (extras.content.map Prod.snd).getD ""⟩ := by
  unfold make at made
  split at made
  · cases made
  · rename_i url read
    dsimp only at made
    split_ifs at made with hidden
    obtain rfl := Except.ok.inj made
    exact ⟨url, read, by simpa [FitsHeader] using hidden, rfl⟩

theorem fitsHeader_of_make (made : make method address extras = .ok request) :
    FitsHeader extras.token := by
  obtain ⟨url, -, fits, -⟩ := of_make made
  exact fits

theorem authorization_of_make (made : make method address extras = .ok request) :
    request.authorization = extras.token.map ("Bearer " ++ ·) := by
  obtain ⟨url, -, -, rfl⟩ := of_make made
  rfl

section

variable (plain : ∀ c ∈ host, Domain.Plain c) (named : host ≠ [])
  (there : Host.read host = .ok name)

include plain named there

/-- On a plain host every address can be asked for with a token that is fit for a header. -/
theorem make_plain (filled : name ≠ "") (fits : FitsHeader extras.token) (rest : String) :
    ∃ request,
      make method ("https://" ++ String.ofList host ++ "/" ++ rest) extras = .ok request := by
  obtain ⟨path, query, fragment, read⟩ := Url.read_plain plain named there rest
  have hosted : readAddress ("https://" ++ String.ofList host ++ "/" ++ rest) =
      .ok ⟨"https", "", none, some name, none, path, query, fragment⟩ := by
    rw [readAddress, read]
    exact if_pos (decide_eq_true filled)
  have shown : ¬(!(extras.token.map bearer).all isHeaderText) = true := by
    rw [show (extras.token.map bearer).all isHeaderText = true from fits]
    decide
  rw [make, hosted]
  dsimp only
  rw [if_neg shown, if_neg (by simp)]
  exact ⟨_, rfl⟩

end

end Request

end MailRound.Web
