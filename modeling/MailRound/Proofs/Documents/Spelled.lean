import MailRound.Proofs.Documents.Grammar
import Mathlib.Tactic.Common

namespace MailRound.Json

/-- What follows a value cannot be taken for more of it. -/
def Stops (rest : List Char) : Prop :=
  ∀ c ∈ rest.head?, isDigit c = false ∧ c ≠ '.' ∧ c ≠ 'e' ∧ c ≠ 'E'

def Ends (rest : List Char) : Prop := ∀ c ∈ rest.head?, c = ',' ∨ c = ']' ∨ c = '\x7d'

theorem ends_nil : Ends [] := by simp [Ends]

theorem ends_cons {c : Char} {rest : List Char} :
    Ends (c :: rest) ↔ c = ',' ∨ c = ']' ∨ c = '\x7d' := by
  simp [Ends]

theorem isSpace_iff {c : Char} :
    isSpace c = true ↔ c = ' ' ∨ c = '\n' ∨ c = '\t' ∨ c = '\r' := by
  simp [isSpace, or_assoc]

theorem skipSpace_append {bs : List Char} (blank : Blank bs) (cs : List Char) :
    skipSpace (bs ++ cs) = skipSpace cs :=
  List.dropWhile_append_of_pos blank

theorem skipSpace_cons {c : Char} (text : isSpace c = false) (cs : List Char) :
    skipSpace (c :: cs) = c :: cs := by
  simp [skipSpace, text]

theorem skipSpace_append_cons {bs : List Char} (blank : Blank bs) {c : Char}
    (text : isSpace c = false) (cs : List Char) : skipSpace (bs ++ c :: cs) = c :: cs := by
  rw [skipSpace_append blank, skipSpace_cons text]

theorem skipSpace_blank {bs : List Char} (blank : Blank bs) : skipSpace bs = [] := by
  rw [← List.append_nil bs, skipSpace_append blank]
  rfl

theorem skipSpace_skipSpace (cs : List Char) : skipSpace (skipSpace cs) = skipSpace cs := by
  induction cs with
  | nil => rfl
  | cons c cs ih =>
    cases text : isSpace c with
    | false => rw [skipSpace_cons text, skipSpace_cons text]
    | true => simpa [skipSpace, text] using ih

theorem Ends.stops {bs rest : List Char} (ends : Ends rest) (blank : Blank bs) :
    Stops (bs ++ rest) := by
  intro c head
  cases bs with
  | nil => rcases ends c head with rfl | rfl | rfl <;> decide
  | cons b bs =>
    obtain rfl : b = c := by simpa using head
    rcases isSpace_iff.1 (blank b List.mem_cons_self) with rfl | rfl | rfl | rfl <;> decide

section Numbers

variable {negative : Bool} {whole ds rest : List Char} {fraction : Option (List Char)}

theorem Digits.span (digits : Digits ds) (stops : ∀ c ∈ rest.head?, isDigit c = false) :
    (ds ++ rest).takeWhile isDigit = ds ∧ (ds ++ rest).dropWhile isDigit = rest := by
  rw [List.takeWhile_append_of_pos digits.all, List.dropWhile_append_of_pos digits.all]
  cases rest with
  | nil => simp
  | cons c rest => simp [stops c rfl]

theorem Digits.unsigned (digits : Digits ds) : ∃ d more, ds = d :: more ∧ isDigit d = true ∧
    d ≠ '+' ∧ d ≠ '-' := by
  cases ds with
  | nil => exact absurd rfl digits.nonempty
  | cons d more =>
    have digit := digits.all d List.mem_cons_self
    refine ⟨d, more, rfl, digit, ?_, ?_⟩ <;> rintro rfl <;> cases digit

theorem scanExponent_spelled {exponent : Option (Bool × List Char)} {es : List Char}
    (power : SpellsExponent exponent es) (stops : Stops rest) :
    scanExponent negative whole fraction (es ++ rest) =
      ((Numeral.mk negative whole fraction exponent).value, rest) := by
  have tail : ∀ c ∈ rest.head?, isDigit c = false := fun c head => (stops c head).1
  cases power with
  | none =>
    cases rest with
    | nil => rfl
    | cons c rest =>
      obtain ⟨-, -, small, large⟩ := stops c rfl
      simp [scanExponent, small, large]
  | bare letter digits =>
    have nonempty := digits.nonempty
    obtain ⟨taken, left⟩ := digits.span tail
    obtain ⟨d, more, rfl, -, plus, minus⟩ := digits.unsigned
    simp only [List.cons_append] at taken left ⊢
    simp [scanExponent, letter, taken, left, plus, minus]
  | plus letter digits =>
    obtain ⟨taken, left⟩ := digits.span tail
    simp [scanExponent, letter, taken, left, digits.nonempty]
  | minus letter digits =>
    obtain ⟨taken, left⟩ := digits.span tail
    simp [scanExponent, letter, taken, left, digits.nonempty]

theorem SpellsExponent.head {exponent : Option (Bool × List Char)} {es : List Char}
    (power : SpellsExponent exponent es) (stops : Stops rest) :
    ∀ c ∈ (es ++ rest).head?, isDigit c = false ∧ c ≠ '.' := by
  have mark {m : Char} (letter : m = 'e' ∨ m = 'E') : isDigit m = false ∧ m ≠ '.' := by
    rcases letter with rfl | rfl <;> decide
  intro c head
  cases power with
  | none => exact ⟨(stops c head).1, (stops c head).2.1⟩
  | bare letter => exact Option.some.inj head ▸ mark letter
  | plus letter => exact Option.some.inj head ▸ mark letter
  | minus letter => exact Option.some.inj head ▸ mark letter

theorem scanAfter_spelled {exponent : Option (Bool × List Char)} {fs es : List Char}
    (point : SpellsFraction fraction fs) (power : SpellsExponent exponent es)
    (stops : Stops rest) : scanNumber.after negative whole (fs ++ (es ++ rest)) =
      ((Numeral.mk negative whole fraction exponent).value, rest) := by
  have head := power.head stops
  cases point with
  | none =>
    rw [List.nil_append]
    unfold scanNumber.after
    split
    · rename_i same
      rw [same] at head
      exact absurd rfl (head '.' rfl).2
    · exact scanExponent_spelled power stops
  | some digits =>
    obtain ⟨taken, left⟩ := digits.span fun c among => (head c among).1
    simp only [List.cons_append, scanNumber.after, taken, left, List.isEmpty_iff, digits.nonempty,
      if_false]
    exact scanExponent_spelled power stops

theorem SpellsFraction.head {exponent : Option (Bool × List Char)} {fs es : List Char}
    (point : SpellsFraction fraction fs) (power : SpellsExponent exponent es)
    (stops : Stops rest) : ∀ c ∈ (fs ++ (es ++ rest)).head?, isDigit c = false := by
  intro c head
  cases point with
  | none => exact (power.head stops c head).1
  | some digits => exact Option.some.inj head ▸ rfl

theorem scanNumber_spelled {n : Numeral} {cs : List Char} (digits : SpellsUnsigned negative n cs)
    (stops : Stops rest) : scanNumber negative (cs ++ rest) = (n.value, rest) := by
  obtain ⟨digits, point, power⟩ := digits
  rename_i whole fs es fraction exponent
  have head := point.head power stops
  have after : scanNumber.after negative whole (fs ++ (es ++ rest)) = _ :=
    scanAfter_spelled point power stops
  obtain ⟨taken, left⟩ := digits.span head
  rw [List.append_assoc, List.append_assoc]
  obtain ⟨d, more, rfl, digit, -, -⟩ := digits.unsigned
  by_cases zero : d = '0'
  · obtain ⟨rfl, rfl⟩ := List.cons.inj (digits.lean (by rw [zero]; rfl))
    have stops' : ((fs ++ (es ++ rest)).head?.map isDigit).getD false = false := by
      cases same : (fs ++ (es ++ rest)).head? with
      | none => rfl
      | some c => exact head c same
    simp only [List.cons_append, List.nil_append, scanNumber, stops', after]
    rfl
  · rw [List.cons_append] at taken left ⊢
    unfold scanNumber
    split
    · simp_all
    · rename_i c more' _ same
      obtain ⟨rfl, rfl⟩ := List.cons.inj same
      rw [if_pos digit, taken, left, after]
    · simp_all

/-- The grammar lets a number be as large as it will; that is the only fault one can have. -/
theorem Numeral.fault_of_value {n : Numeral} {fault : Fault} (large : n.value = .error fault) :
    fault = .numberOutOfRange := by
  unfold Numeral.value at large
  generalize takeSignificand 0 n.whole = taken at large
  obtain ⟨s, digits, left⟩ := taken
  dsimp only at large
  -- A whole number has no fault; any other is a fraction, which is there or too large.
  split at large
  · split_ifs at large
    · split at large
      · cases large
      · exact (Except.error.inj large).symm
    · split at large
      · cases large
      · exact (Except.error.inj large).symm
  · split at large
    · cases large
    · exact (Except.error.inj large).symm
  · split at large
    · cases large
    · exact (Except.error.inj large).symm

theorem numberNode_spelled {n : Numeral} {cs : List Char} (digits : SpellsUnsigned negative n cs)
    (stops : Stops rest) : numberNode negative (cs ++ rest) = (.number n.value, some rest) := by
  rw [numberNode, scanNumber_spelled digits stops]
  cases value : n.value with
  | ok number => rfl
  | error fault =>
    obtain rfl := Numeral.fault_of_value value
    rfl

end Numbers

theorem SpellsPiece.stringPieces {p : StringPiece} {cs : List Char} (piece : SpellsPiece p cs)
    (tail : List Char) : Json.stringPieces (cs ++ tail) =
      (p :: (Json.stringPieces tail).1, (Json.stringPieces tail).2) := by
  cases piece with
  | plain text quote escape =>
    rw [List.singleton_append, Json.stringPieces.eq_def]
    split <;> simp_all
  | @escaped e c known =>
    have other : e ≠ 'u' := by
      rintro rfl
      cases known
    simp [Json.stringPieces, other, known]
  | unit digits => simp [Json.stringPieces, digits]

theorem SpellsPieces.stringPieces {ps : List StringPiece} {cs : List Char}
    (pieces : SpellsPieces ps cs) (rest : List Char) :
    Json.stringPieces (cs ++ '"' :: rest) = (ps, .closed rest) := by
  induction pieces with
  | nil => rfl
  | cons first _ ih => rw [List.append_assoc, first.stringPieces, ih]

/-- What follows a string does not matter to what it says. -/
theorem decodePieces_closed (left right : List Char) : ∀ ps : List StringPiece,
    decodePieces (.closed left) ps = decodePieces (.closed right) ps
  | [] => rfl
  | [.unit _] => rfl
  | .char c :: ps => by rw [decodePieces, decodePieces, decodePieces_closed left right ps]
  | .unit n :: .unit m :: ps => by
    rw [decodePieces, decodePieces, decodePieces_closed left right ps,
      decodePieces_closed left right (.unit m :: ps)]
  | .unit n :: .char d :: ps => by
    rw [decodePieces, decodePieces, decodePieces_closed left right ps]

theorem scanString_spelled {token : Quoted} {cs : List Char} (quoted : SpellsString token cs)
    (rest : List Char) :
    ∃ body, cs = '"' :: body ∧ scanString (body ++ rest) = (token, some rest) := by
  obtain ⟨pieces⟩ := quoted
  rename_i ps cs
  refine ⟨cs ++ ['"'], rfl, ?_⟩
  rw [List.append_assoc, scanString, List.singleton_append, pieces.stringPieces]
  simp only [decodePieces_closed rest [], Quoted.ofPieces, StringEnd.fault]

def Begins (cs : List Char) : Prop := ∃ c rest, skipSpace cs = c :: rest ∧ c ≠ ']'

theorem begins_cons {c : Char} (text : isSpace c = false) (other : c ≠ ']') (rest : List Char) :
    Begins (c :: rest) :=
  ⟨c, rest, skipSpace_cons text rest, other⟩

theorem Begins.append {cs : List Char} (begins : Begins cs) (rest : List Char) :
    Begins (cs ++ rest) := by
  obtain ⟨c, more, same, other⟩ := begins
  refine ⟨c, more ++ rest, ?_, other⟩
  rw [skipSpace, List.dropWhile_append, ← skipSpace, same]
  rfl

theorem Begins.behind {bs cs : List Char} (begins : Begins cs) (blank : Blank bs) :
    Begins (bs ++ cs) := by
  rwa [Begins, skipSpace_append blank]

section Steps

variable {fuel : Nat} {items : List Node} {members : List (Quoted × Node)}
  {bs cs rest : List Char}

theorem scanValue_skipSpace : ∀ fuel cs, scanValue fuel (skipSpace cs) = scanValue fuel cs
  | 0, _ => rfl
  | fuel + 1, cs => by rw [scanValue, scanValue, skipSpace_skipSpace]

theorem scanItem_skipSpace : ∀ fuel items cs,
    scanItem fuel items (skipSpace cs) = scanItem fuel items cs
  | 0, _, _ => rfl
  | fuel + 1, items, cs => by rw [scanItem, scanItem, scanValue_skipSpace]

theorem scanValue_blank (blank : Blank bs) : scanValue fuel (bs ++ cs) = scanValue fuel cs := by
  rw [← scanValue_skipSpace, skipSpace_append blank, scanValue_skipSpace]

theorem scanValue_string :
    scanValue (fuel + 1) ('"' :: cs) = (.string (scanString cs).1, (scanString cs).2) := by
  simp [scanValue, skipSpace, isSpace]

theorem scanValue_array : scanValue (fuel + 1) ('[' :: cs) = scanItems fuel true [] cs := by
  simp [scanValue, skipSpace, isSpace]

theorem scanValue_object :
    scanValue (fuel + 1) ('\x7b' :: cs) = scanMembers fuel true [] cs := by
  simp [scanValue, skipSpace, isSpace]

theorem scanValue_minus : scanValue (fuel + 1) ('-' :: cs) = numberNode true cs := by
  simp [scanValue, skipSpace, isSpace]

theorem isSpace_of_isDigit {c : Char} (digit : isDigit c = true) : isSpace c = false := by
  apply Bool.eq_false_iff.2
  intro space
  rcases isSpace_iff.1 space with rfl | rfl | rfl | rfl <;> cases digit

theorem scanValue_digit {d : Char} (digit : isDigit d = true) :
    scanValue (fuel + 1) (d :: cs) = numberNode false (d :: cs) := by
  rw [scanValue, skipSpace_cons (isSpace_of_isDigit digit)]
  split <;> simp_all +decide

theorem scanItems_close (first : Bool) (blank : Blank bs) :
    scanItems (fuel + 1) first items (bs ++ ']' :: rest) =
      (.array items.reverse none, some rest) := by
  simp [scanItems, skipSpace_append_cons blank (show isSpace ']' = false from rfl)]

theorem scanItems_first (begins : Begins cs) :
    scanItems (fuel + 1) true items cs = scanItem fuel items cs := by
  obtain ⟨c, more, same, other⟩ := begins
  rw [← scanItem_skipSpace fuel]
  simp [scanItems, same]

theorem scanItems_comma (blank : Blank bs) (begins : Begins cs) :
    scanItems (fuel + 1) false items (bs ++ ',' :: cs) = scanItem fuel items cs := by
  obtain ⟨c, more, same, other⟩ := begins
  have comma := skipSpace_append_cons blank (show isSpace ',' = false from rfl)
  rw [← scanItem_skipSpace fuel]
  simp [scanItems, comma, same, other]

theorem scanItem_of_scanValue {node : Node} (value : scanValue fuel cs = (node, some rest)) :
    scanItem (fuel + 1) items cs = scanItems fuel false (node :: items) rest := by
  simp [scanItem, value]

theorem scanMembers_close (first : Bool) (blank : Blank bs) :
    scanMembers (fuel + 1) first members (bs ++ '\x7d' :: rest) =
      (.object members.reverse none, some rest) := by
  simp [scanMembers, skipSpace_append_cons blank (show isSpace '\x7d' = false from rfl)]

theorem scanMembers_first (blank : Blank bs) :
    scanMembers (fuel + 1) true members (bs ++ '"' :: cs) = scanMember fuel members cs := by
  simp [scanMembers, skipSpace_append_cons blank (show isSpace '"' = false from rfl)]

theorem scanMembers_comma {as : List Char} (left : Blank as) (right : Blank bs) :
    scanMembers (fuel + 1) false members (as ++ ',' :: (bs ++ '"' :: cs)) =
      scanMember fuel members cs := by
  have comma := skipSpace_append_cons left (show isSpace ',' = false from rfl)
  have quote := skipSpace_append_cons right (show isSpace '"' = false from rfl)
  simp [scanMembers, comma, quote]

theorem scanMember_of_scanValue {key : Quoted} {text : List Char} {node : Node}
    (name : scanString cs = (key, some (bs ++ ':' :: text))) (blank : Blank bs)
    (value : scanValue fuel text = (node, some rest)) :
    scanMember (fuel + 1) members cs = scanMembers fuel false ((key, node) :: members) rest := by
  have colon := skipSpace_append_cons blank (show isSpace ':' = false from rfl) text
  simp [scanMember, name, colon, value]

end Steps

/-- With enough fuel for its text, a value is scanned up to where its text ends. -/
structure ScansValue (n : Node) (cs : List Char) : Prop where
  begins : Begins cs
  scan : ∀ fuel rest, Stops rest → 3 * cs.length ≤ fuel + 1 →
    scanValue (fuel + 1) (cs ++ rest) = (n, some rest)

structure ScansSpaced (n : Node) (cs : List Char) : Prop where
  begins : Begins cs
  scan : ∀ fuel rest, Ends rest → 3 * cs.length ≤ fuel + 1 →
    ∃ bs, Blank bs ∧ scanValue (fuel + 1) (cs ++ rest) = (n, some (bs ++ rest))

structure ScansItems (ns : List Node) (cs : List Char) : Prop where
  begins : Begins cs
  scan : ∀ fuel rest acc, 3 * cs.length + 3 ≤ fuel →
    scanItem fuel acc (cs ++ ']' :: rest) = (.array (acc.reverse ++ ns) none, some rest)

def ScansMember (m : Quoted × Node) (cs : List Char) : Prop :=
  ∃ bs body, cs = bs ++ '"' :: body ∧ Blank bs ∧
    ∀ fuel rest acc, Ends rest → 3 * cs.length ≤ fuel + 1 → ∃ bs, Blank bs ∧
      scanMember (fuel + 2) acc (body ++ rest) = scanMembers (fuel + 1) false (m :: acc) (bs ++ rest)

def ScansMembers (ms : List (Quoted × Node)) (cs : List Char) : Prop :=
  ∃ bs body, cs = bs ++ '"' :: body ∧ Blank bs ∧
    ∀ fuel rest acc, 3 * cs.length + 3 ≤ fuel →
      scanMember fuel acc (body ++ '\x7d' :: rest) =
        (.object (acc.reverse ++ ms) none, some rest)

def Part.Scans : Part → List Char → Prop
  | .value n => ScansValue n
  | .spaced n => ScansSpaced n
  | .items ns => ScansItems ns
  | .member m => ScansMember m
  | .members ms => ScansMembers ms

section Scans

variable {n : Node} {ns : List Node} {m : Quoted × Node} {ms : List (Quoted × Node)}
  {as bs cs ds : List Char}

theorem scansValue_number {n : Numeral} (numeral : SpellsNumeral n cs) :
    ScansValue (.number n.value) cs := by
  cases numeral with
  | positive digits =>
    obtain ⟨d, more, rfl, digit⟩ : ∃ d more, cs = d :: more ∧ isDigit d = true := by
      obtain ⟨whole, -, -⟩ := digits
      obtain ⟨d, more, rfl, digit, -⟩ := whole.unsigned
      exact ⟨d, _, rfl, digit⟩
    refine ⟨begins_cons (isSpace_of_isDigit digit) (by rintro rfl; cases digit) more,
      fun fuel rest stops _ => ?_⟩
    rw [List.cons_append, scanValue_digit digit, ← List.cons_append]
    exact numberNode_spelled digits stops
  | negative digits =>
    refine ⟨begins_cons rfl (by decide) _, fun fuel rest stops _ => ?_⟩
    rw [List.cons_append, scanValue_minus]
    exact numberNode_spelled digits stops

theorem scansValue_string {token : Quoted} (quoted : SpellsString token cs) :
    ScansValue (.string token) cs := by
  obtain ⟨body, rfl, -⟩ := scanString_spelled quoted []
  refine ⟨begins_cons rfl (by decide) body, fun fuel rest _ _ => ?_⟩
  obtain ⟨body', same, token'⟩ := scanString_spelled quoted rest
  obtain rfl := List.tail_eq_of_cons_eq same
  rw [List.cons_append, scanValue_string, token']

theorem scansValue_emptyArray (blank : Blank cs) :
    ScansValue (.array [] none) ('[' :: (cs ++ [']'])) := by
  refine ⟨begins_cons rfl (by decide) _, fun fuel rest _ enough => ?_⟩
  obtain ⟨fuel, rfl⟩ : ∃ f, fuel = f + 1 := ⟨fuel - 1, by simp at enough; omega⟩
  rw [List.cons_append, List.append_assoc, scanValue_array]
  exact scanItems_close true blank

theorem scansValue_array (items : ScansItems ns cs) :
    ScansValue (.array ns none) ('[' :: (cs ++ [']'])) := by
  refine ⟨begins_cons rfl (by decide) _, fun fuel rest _ enough => ?_⟩
  simp only [List.length_cons, List.length_append, List.length_nil] at enough
  obtain ⟨fuel, rfl⟩ : ∃ f, fuel = f + 1 := ⟨fuel - 1, by omega⟩
  rw [List.cons_append, List.append_assoc, scanValue_array, scanItems_first (items.begins.append _)]
  exact items.scan fuel rest [] (by omega)

theorem scansValue_emptyObject (blank : Blank cs) :
    ScansValue (.object [] none) ('\x7b' :: (cs ++ ['\x7d'])) := by
  refine ⟨begins_cons rfl (by decide) _, fun fuel rest _ enough => ?_⟩
  obtain ⟨fuel, rfl⟩ : ∃ f, fuel = f + 1 := ⟨fuel - 1, by simp at enough; omega⟩
  rw [List.cons_append, List.append_assoc, scanValue_object]
  exact scanMembers_close true blank

theorem scansValue_object (members : ScansMembers ms cs) :
    ScansValue (.object ms none) ('\x7b' :: (cs ++ ['\x7d'])) := by
  obtain ⟨bs, body, rfl, blank, scan⟩ := members
  refine ⟨begins_cons rfl (by decide) _, fun fuel rest _ enough => ?_⟩
  simp only [List.length_cons, List.length_append, List.length_nil] at enough scan
  obtain ⟨fuel, rfl⟩ : ∃ f, fuel = f + 1 := ⟨fuel - 1, by omega⟩
  have first := scan fuel rest [] (by omega)
  simp only [List.cons_append, List.append_assoc, List.nil_append]
  rw [scanValue_object, scanMembers_first blank, first]
  rfl

theorem scansSpaced (left : Blank as) (value : ScansValue n cs) (right : Blank bs) :
    ScansSpaced n (as ++ (cs ++ bs)) := by
  refine ⟨(value.begins.append bs).behind left, fun fuel rest ends enough => ⟨bs, right, ?_⟩⟩
  simp only [List.length_append] at enough
  rw [List.append_assoc, List.append_assoc, scanValue_blank left]
  exact value.scan fuel (bs ++ rest) (ends.stops right) (by omega)

theorem scansItems_one (only : ScansSpaced n cs) : ScansItems [n] cs := by
  refine ⟨only.begins, fun fuel rest acc enough => ?_⟩
  obtain ⟨fuel, rfl⟩ : ∃ f, fuel = f + 2 := ⟨fuel - 2, by omega⟩
  obtain ⟨bs, blank, value⟩ :=
    only.scan fuel (']' :: rest) (ends_cons.2 (.inr (.inl rfl))) (by omega)
  rw [scanItem_of_scanValue value, scanItems_close false blank, List.reverse_cons]

theorem scansItems_cons (first : ScansSpaced n cs) (others : ScansItems ns ds) :
    ScansItems (n :: ns) (cs ++ ',' :: ds) := by
  refine ⟨first.begins.append _, fun fuel rest acc enough => ?_⟩
  simp only [List.length_cons, List.length_append] at enough
  obtain ⟨fuel, rfl⟩ : ∃ f, fuel = f + 2 := ⟨fuel - 2, by omega⟩
  obtain ⟨bs, blank, value⟩ :=
    first.scan fuel (',' :: (ds ++ ']' :: rest)) (ends_cons.2 (.inl rfl)) (by omega)
  have later := others.scan fuel rest (n :: acc) (by omega)
  rw [List.append_assoc, List.cons_append, scanItem_of_scanValue value,
    scanItems_comma blank (others.begins.append _), later]
  simp

theorem scansMember {key : Quoted} {ks : List Char} (left : Blank as)
    (name : SpellsString key ks) (right : Blank bs) (value : ScansSpaced n cs) :
    ScansMember (key, n) (as ++ (ks ++ (bs ++ ':' :: cs))) := by
  obtain ⟨body, rfl, -⟩ := scanString_spelled name []
  refine ⟨as, body ++ (bs ++ ':' :: cs), rfl, left, fun fuel rest acc ends enough => ?_⟩
  obtain ⟨body', same, token⟩ := scanString_spelled name (bs ++ ':' :: (cs ++ rest))
  obtain rfl := List.tail_eq_of_cons_eq same
  simp only [List.length_cons, List.length_append] at enough
  obtain ⟨after, blank, scan⟩ := value.scan fuel rest ends (by omega)
  refine ⟨after, blank, ?_⟩
  rw [List.append_assoc, List.append_assoc]
  exact scanMember_of_scanValue token right scan

theorem scansMembers_one (only : ScansMember m cs) : ScansMembers [m] cs := by
  obtain ⟨bs, body, rfl, blank, scan⟩ := only
  refine ⟨bs, body, rfl, blank, fun fuel rest acc enough => ?_⟩
  obtain ⟨fuel, rfl⟩ : ∃ f, fuel = f + 2 := ⟨fuel - 2, by omega⟩
  obtain ⟨after, blank, step⟩ :=
    scan fuel ('\x7d' :: rest) acc (ends_cons.2 (.inr (.inr rfl))) (by omega)
  rw [step, scanMembers_close false blank, List.reverse_cons]

theorem scansMembers_cons (first : ScansMember m cs) (others : ScansMembers ms ds) :
    ScansMembers (m :: ms) (cs ++ ',' :: ds) := by
  obtain ⟨bs, body, rfl, blank, scan⟩ := first
  obtain ⟨bs', body', rfl, blank', scan'⟩ := others
  refine ⟨bs, body ++ ',' :: (bs' ++ '"' :: body'), by simp, blank,
    fun fuel rest acc enough => ?_⟩
  simp only [List.length_cons, List.length_append] at enough scan scan'
  obtain ⟨fuel, rfl⟩ : ∃ f, fuel = f + 2 := ⟨fuel - 2, by omega⟩
  obtain ⟨after, left, step⟩ := scan fuel (',' :: (bs' ++ '"' :: (body' ++ '\x7d' :: rest))) acc
    (ends_cons.2 (.inl rfl)) (by omega)
  have later := scan' fuel rest (m :: acc) (by omega)
  simp only [List.append_assoc, List.cons_append]
  rw [step, scanMembers_comma left blank', later]
  simp

end Scans

/-- Every part of a document is scanned as it is spelled. -/
theorem Spells.scans {part : Part} {cs : List Char} (spells : Spells part cs) : part.Scans cs := by
  induction spells with
  | null =>
    exact ⟨begins_cons rfl (by decide) _, fun _ _ _ _ => by
      simp [scanValue, skipSpace, isSpace, scanWord]⟩
  | true =>
    exact ⟨begins_cons rfl (by decide) _, fun _ _ _ _ => by
      simp [scanValue, skipSpace, isSpace, scanWord]⟩
  | false =>
    exact ⟨begins_cons rfl (by decide) _, fun _ _ _ _ => by
      simp [scanValue, skipSpace, isSpace, scanWord]⟩
  | number numeral => exact scansValue_number numeral
  | string quoted => exact scansValue_string quoted
  | emptyArray blank => exact scansValue_emptyArray blank
  | array _ items => exact scansValue_array items
  | emptyObject blank => exact scansValue_emptyObject blank
  | object _ members => exact scansValue_object members
  | spaced left _ right value => exact scansSpaced left value right
  | item _ only => exact scansItems_one only
  | items _ _ first others => exact scansItems_cons first others
  | entry left name right _ value => exact scansMember left name right value
  | member _ only => exact scansMembers_one only
  | members _ _ first others => exact scansMembers_cons first others

/-- The scan of a text that is one value finds that value, and nothing behind it. -/
theorem scan_spelled {n : Node} {text : String} (spelling : Spelling n text) :
    Document.scan text = ⟨n, none⟩ := by
  have spaced : ScansSpaced n text.toList := spelling.scans
  obtain ⟨bs, blank, scan⟩ := spaced.scan (3 * text.toList.length + 2) [] ends_nil (by omega)
  rw [List.append_nil, List.append_nil] at scan
  simp [Document.scan, scan, skipSpace_blank blank]

theorem skipFault_eq_ok {fault : Option Fault} : skipFault fault = .ok () ↔ fault = none := by
  cases fault <;> simp [skipFault]

theorem skipItems_eq_ok {ns : List Node} : skipItems ns = .ok () ↔ ∀ n ∈ ns, n.skip = .ok () := by
  induction ns with
  | nil => simp [skipItems]
  | cons n ns ih =>
    rw [skipItems, List.forall_mem_cons, ← ih]
    cases n.skip <;> simp

theorem skipMembers_eq_ok {ms : List (Quoted × Node)} :
    skipMembers ms = .ok () ↔ ∀ m ∈ ms, m.1.fault = none ∧ m.2.skip = .ok () := by
  induction ms with
  | nil => simp [skipMembers]
  | cons m ms ih =>
    rw [skipMembers, List.forall_mem_cons, ← ih, ← skipFault_eq_ok]
    cases skipFault m.1.fault <;> cases m.2.skip <;> simp

theorem skip_array {ns : List Node} :
    (Node.array ns none).skip = .ok () ↔ ∀ n ∈ ns, n.skip = .ok () := by
  rw [← skipItems_eq_ok]
  unfold Node.skip
  cases skipItems ns with
  | error e => simp
  | ok done => exact iff_of_true rfl rfl

theorem skip_object {ms : List (Quoted × Node)} : (Node.object ms none).skip = .ok () ↔
    ∀ m ∈ ms, m.1.fault = none ∧ m.2.skip = .ok () := by
  rw [← skipMembers_eq_ok]
  unfold Node.skip
  cases skipMembers ms with
  | error e => simp
  | ok done => exact iff_of_true rfl rfl

/-- Nothing in the part keeps a reader from passing over it. -/
def Part.Skips : Part → Prop
  | .value n => n.skip = .ok ()
  | .spaced n => n.skip = .ok ()
  | .items ns => ∀ n ∈ ns, n.skip = .ok ()
  | .member m => m.1.fault = none ∧ m.2.skip = .ok ()
  | .members ms => ∀ m ∈ ms, m.1.fault = none ∧ m.2.skip = .ok ()

theorem Spells.skips {part : Part} {cs : List Char} (spells : Spells part cs) : part.Skips := by
  induction spells with
  | null => rfl
  | true => rfl
  | false => rfl
  | @number n _ _ =>
    change (Node.number n.value).skip = .ok ()
    cases value : n.value with
    | ok number => rfl
    | error fault =>
      obtain rfl := Numeral.fault_of_value value
      rfl
  | string quoted =>
    obtain ⟨pieces⟩ := quoted
    rfl
  | emptyArray => rfl
  | array _ items => exact skip_array.2 items
  | emptyObject => rfl
  | object _ members => exact skip_object.2 members
  | spaced _ _ _ value => exact value
  | item _ only => exact List.forall_mem_singleton.2 only
  | items _ _ first others => exact List.forall_mem_cons.2 ⟨first, others⟩
  | entry _ name _ _ value =>
    obtain ⟨pieces⟩ := name
    exact ⟨rfl, value⟩
  | member _ only => exact List.forall_mem_singleton.2 only
  | members _ _ first others => exact List.forall_mem_cons.2 ⟨first, others⟩

end MailRound.Json
