import MailRound.Json.Scan

namespace MailRound.Json

def Blank (cs : List Char) : Prop := ∀ c ∈ cs, isSpace c = true

structure Digits (ds : List Char) : Prop where
  nonempty : ds ≠ []
  all : ∀ c ∈ ds, isDigit c = true

/-- Digits that begin with a zero only if they are nothing else. -/
structure WholeDigits (ds : List Char) : Prop extends Digits ds where
  lean : ds.head? = some '0' → ds = ['0']

inductive SpellsFraction : Option (List Char) → List Char → Prop
  | none : SpellsFraction none []
  | some {ds : List Char} (digits : Digits ds) : SpellsFraction (some ds) ('.' :: ds)

inductive SpellsExponent : Option (Bool × List Char) → List Char → Prop
  | none : SpellsExponent none []
  | bare {mark : Char} {ds : List Char} (letter : mark = 'e' ∨ mark = 'E') (digits : Digits ds) :
    SpellsExponent (some (false, ds)) (mark :: ds)
  | plus {mark : Char} {ds : List Char} (letter : mark = 'e' ∨ mark = 'E') (digits : Digits ds) :
    SpellsExponent (some (false, ds)) (mark :: '+' :: ds)
  | minus {mark : Char} {ds : List Char} (letter : mark = 'e' ∨ mark = 'E') (digits : Digits ds) :
    SpellsExponent (some (true, ds)) (mark :: '-' :: ds)

inductive SpellsUnsigned (negative : Bool) : Numeral → List Char → Prop
  | mk {whole fs es : List Char} {fraction : Option (List Char)}
    {exponent : Option (Bool × List Char)} (digits : WholeDigits whole)
    (point : SpellsFraction fraction fs) (power : SpellsExponent exponent es) :
    SpellsUnsigned negative ⟨negative, whole, fraction, exponent⟩ (whole ++ (fs ++ es))

inductive SpellsNumeral : Numeral → List Char → Prop
  | positive {n : Numeral} {cs : List Char} (digits : SpellsUnsigned false n cs) :
    SpellsNumeral n cs
  | negative {n : Numeral} {cs : List Char} (digits : SpellsUnsigned true n cs) :
    SpellsNumeral n ('-' :: cs)

inductive SpellsPiece : StringPiece → List Char → Prop
  | plain {c : Char} (text : 0x20 ≤ c.toNat) (quote : c ≠ '"') (escape : c ≠ '\\') :
    SpellsPiece (.char c) [c]
  | escaped {e c : Char} (known : simpleEscape? e = some c) : SpellsPiece (.char c) ['\\', e]
  | unit {a b c d : Char} {n : Nat} (digits : hexUnit? a b c d = some n) :
    SpellsPiece (.unit n) ['\\', 'u', a, b, c, d]

inductive SpellsPieces : List StringPiece → List Char → Prop
  | nil : SpellsPieces [] []
  | cons {p : StringPiece} {ps : List StringPiece} {cs ds : List Char} (first : SpellsPiece p cs)
    (rest : SpellsPieces ps ds) : SpellsPieces (p :: ps) (cs ++ ds)

def Quoted.ofPieces (ps : List StringPiece) : Quoted :=
  ⟨(decodePieces (.closed []) ps).map String.ofList, none⟩

inductive SpellsString : Quoted → List Char → Prop
  | mk {ps : List StringPiece} {cs : List Char} (pieces : SpellsPieces ps cs) :
    SpellsString (.ofPieces ps) ('"' :: (cs ++ ['"']))

/-- The parts of a document: a value, one with space around it, and the elements and the members
that stand between brackets. -/
inductive Part where
  | value (n : Node)
  | spaced (n : Node)
  | items (ns : List Node)
  | member (m : Quoted × Node)
  | members (ms : List (Quoted × Node))

inductive Spells : Part → List Char → Prop
  | null : Spells (.value .null) ['n', 'u', 'l', 'l']
  | true : Spells (.value (.bool true)) ['t', 'r', 'u', 'e']
  | false : Spells (.value (.bool false)) ['f', 'a', 'l', 's', 'e']
  | number {n : Numeral} {cs : List Char} (numeral : SpellsNumeral n cs) :
    Spells (.value (.number n.value)) cs
  | string {token : Quoted} {cs : List Char} (quoted : SpellsString token cs) :
    Spells (.value (.string token)) cs
  | emptyArray {cs : List Char} (blank : Blank cs) :
    Spells (.value (.array [] none)) ('[' :: (cs ++ [']']))
  | array {ns : List Node} {cs : List Char} (items : Spells (.items ns) cs) :
    Spells (.value (.array ns none)) ('[' :: (cs ++ [']']))
  | emptyObject {cs : List Char} (blank : Blank cs) :
    Spells (.value (.object [] none)) ('\x7b' :: (cs ++ ['\x7d']))
  | object {ms : List (Quoted × Node)} {cs : List Char} (members : Spells (.members ms) cs) :
    Spells (.value (.object ms none)) ('\x7b' :: (cs ++ ['\x7d']))
  | spaced {n : Node} {before cs after : List Char} (left : Blank before)
    (value : Spells (.value n) cs) (right : Blank after) :
    Spells (.spaced n) (before ++ (cs ++ after))
  | item {n : Node} {cs : List Char} (only : Spells (.spaced n) cs) : Spells (.items [n]) cs
  | items {n : Node} {ns : List Node} {cs ds : List Char} (first : Spells (.spaced n) cs)
    (rest : Spells (.items ns) ds) : Spells (.items (n :: ns)) (cs ++ ',' :: ds)
  | entry {key : Quoted} {n : Node} {before ks after cs : List Char} (left : Blank before)
    (name : SpellsString key ks) (right : Blank after) (value : Spells (.spaced n) cs) :
    Spells (.member (key, n)) (before ++ (ks ++ (after ++ ':' :: cs)))
  | member {m : Quoted × Node} {cs : List Char} (only : Spells (.member m) cs) :
    Spells (.members [m]) cs
  | members {m : Quoted × Node} {ms : List (Quoted × Node)} {cs ds : List Char}
    (first : Spells (.member m) cs) (rest : Spells (.members ms) ds) :
    Spells (.members (m :: ms)) (cs ++ ',' :: ds)

def Spelling (n : Node) (text : String) : Prop := Spells (.spaced n) text.toList

end MailRound.Json
