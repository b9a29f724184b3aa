import MailRound.Mime.SentDate
import MailRound.Mime.Transfer
import MailRound.Text.LowerCase

namespace MailRound.Mime

/-- A header field. `ended` tells that a line end closed it: data may stop in the middle. -/
structure Field where
  name : String
  value : Bytes
  ended : Bool
  deriving DecidableEq, Repr

abbrev Fields := List Field

namespace Field

/-- Where the reader of a header stands: in a name, or in the value of a named field. Name and
value are held backwards. A date is read along, since its zone takes bytes of any kind. -/
inductive Place where
  | name (read : Bytes)
  | value (name : String) (read : Bytes) (date : Option SentDate)
  deriving DecidableEq, Repr

def opensContinuation : Bytes → Bool
  | b :: _ => b == 32 || b == 9
  | [] => false

/-- Names are read without regard to case and to blanks before the colon. -/
def nameOf (read : Bytes) : String :=
  Text.lowerAscii (Text.Utf8.decodeLossy (read.dropWhile Transfer.isBlankByte).reverse)

def openValue (name : String) : Place :=
  .value name [] (if name = "date" ∨ name = "resent-date" then some .start else none)

def endsValue (date : Option SentDate) (b : UInt8) (bs : Bytes) : Bool :=
  b == 10 && !opensContinuation bs && !(date.any (0 < ·.owed))

/-- The fields up to an empty line and what follows that line, if there is one. A line that
begins with a blank continues the field before it; a line without a colon is passed over. -/
def scanFrom : Place → Bytes → Fields × Option Bytes
  | .name _, [] => ([], none)
  | .value name read _, [] => ([⟨name, read.reverse, false⟩], none)
  | .name read, b :: bs =>
    if b = 10 then if read.isEmpty then ([], some bs) else scanFrom (.name []) bs
    else if read.isEmpty && Transfer.isBlankByte b then scanFrom (.name []) bs
    else if b = 58 && !read.isEmpty then scanFrom (openValue (nameOf read)) bs
    else scanFrom (.name (b :: read)) bs
  | .value name read date, b :: bs =>
    if endsValue date b bs then
      let (fields, rest) := scanFrom (.name []) bs
      (⟨name, read.reverse, true⟩ :: fields, rest)
    else scanFrom (.value name (b :: read) (date.map (·.step b))) bs

def scan (bs : Bytes) : Fields × Option Bytes := scanFrom (.name []) bs

theorem scanFrom_length {place : Place} {bs rest : Bytes}
    (h : (scanFrom place bs).2 = some rest) : rest.length < bs.length := by
  induction bs generalizing place rest with
  | nil => cases place <;> simp [scanFrom] at h
  | cons b bs ih =>
    have step {p : Place} (hp : (scanFrom p bs).2 = some rest) : rest.length < (b :: bs).length :=
      Nat.lt_succ_of_lt (ih hp)
    cases place with
    | name read =>
      simp only [scanFrom] at h
      split at h
      · split at h
        · cases h; simp
        · exact step h
      · split at h
        · exact step h
        · split at h <;> exact step h
    | value name read date =>
      simp only [scanFrom] at h
      split at h <;> exact step h

theorem scan_length {bs rest : Bytes} (h : (scan bs).2 = some rest) : rest.length < bs.length :=
  scanFrom_length h

end Field

/-- Of fields with the same name the last counts. -/
def Fields.find? (fields : Fields) (name : String) : Option Field :=
  fields.reverse.find? (·.name == name)

end MailRound.Mime
