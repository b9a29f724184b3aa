namespace MailRound

abbrev Bytes := List UInt8

namespace Text.Utf8

def encode (s : String) : Bytes :=
  s.toList.flatMap String.utf8EncodeChar

/-- Between two bytes of a character: how many more are owed, the range the next one has to lie
in, and the bits read so far. -/
structure State where
  owed : Nat
  low : Nat
  high : Nat
  code : Nat
  deriving DecidableEq, Repr

def State.start : State := ⟨0, 0x80, 0xBF, 0⟩

/-- A decoded character, or a longest stretch of bytes that begins no character. -/
inductive Piece where
  | char (c : Char)
  | broken
  deriving DecidableEq, Repr

def first (b : UInt8) : List Piece × State :=
  let n := b.toNat
  if n < 0x80 then ([.char (Char.ofNat n)], .start)
  else if 0xC2 ≤ n ∧ n ≤ 0xDF then ([], ⟨1, 0x80, 0xBF, n % 0x20⟩)
  else if n = 0xE0 then ([], ⟨2, 0xA0, 0xBF, 0⟩)
  else if n = 0xED then ([], ⟨2, 0x80, 0x9F, 0xD⟩)
  else if 0xE1 ≤ n ∧ n ≤ 0xEF then ([], ⟨2, 0x80, 0xBF, n % 0x10⟩)
  else if n = 0xF0 then ([], ⟨3, 0x90, 0xBF, 0⟩)
  else if 0xF1 ≤ n ∧ n ≤ 0xF3 then ([], ⟨3, 0x80, 0xBF, n % 8⟩)
  else if n = 0xF4 then ([], ⟨3, 0x80, 0x8F, 4⟩)
  else ([.broken], .start)

def step (st : State) (b : UInt8) : List Piece × State :=
  let n := b.toNat
  match st.owed with
  | 0 => first b
  | k + 1 =>
    if st.low ≤ n ∧ n ≤ st.high then
      let code := st.code * 0x40 + n % 0x40
      if k = 0 then ([.char (Char.ofNat code)], .start) else ([], ⟨k, 0x80, 0xBF, code⟩)
    else
      let (ps, st') := first b
      (.broken :: ps, st')

def pieces : State → Bytes → List Piece
  | st, [] => if st.owed = 0 then [] else [.broken]
  | st, b :: bs =>
    let (ps, st') := step st b
    ps ++ pieces st' bs

/-- Every stretch that is no character becomes one replacement character. -/
def decodeLossy (bs : Bytes) : String :=
  String.ofList <| (pieces .start bs).map fun
    | .char c => c
    | .broken => Char.ofNat 0xFFFD

def collect? : List Piece → Option (List Char)
  | [] => some []
  | .char c :: ps => (collect? ps).map (c :: ·)
  | .broken :: _ => none

def decode? (bs : Bytes) : Option String :=
  (collect? (pieces .start bs)).map String.ofList

end Text.Utf8

end MailRound
