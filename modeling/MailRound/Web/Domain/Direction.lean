import MailRound.Text.Ranges

namespace MailRound.Web.Domain

inductive Direction where
  | left
  | right
  | arabicNumber
  | number
  | mark
  | neutral
  deriving DecidableEq, Repr

def rightLengths : List String := [
  "1470 1 1 1 2 1 2 1 9 37 19 1 2 1 1 1 13 48 34 3 1 101 15 2 7 2 10 23 1 30 29 89 11 58 9 2 4",
  "1 3 24 4 1 9 1 3 1 7 41 5 50 16 42 62184 17 688 1 2444 284 4 225 15 38 10 165 6 75 10 484 38",
  "6 30 34 240 42 3 44 39 70 11 49 4 113 55305 208 82 34 7 1011"]

def rightRanges : List (Nat × Nat) := Text.ranges rightLengths

def arabicNumberLengths : List String := [
  "1632 10 1 2 67267 26 278 31"]

def arabicNumberRanges : List (Nat × Nat) := Text.ranges arabicNumberLengths

def numberLengths : List String := [
  "48 10 1718 10 64487 27"]

def numberRanges : List (Nat × Nat) := Text.ranges numberLengths

def silentLengths : List String := [
  "768 112 275 7 263 45 1 1 1 2 1 2 1 1 72 11 48 21 16 1 101 7 2 6 2 2 1 4 35 1 30 27 91 11 58",
  "9 9 1 24 4 1 9 1 3 1 5 43 3 59 9 42 57 55 1 1 1 4 8 4 1 3 7 10 2 29 1 58 1 4 4 8 1 20 2 26 5",
  "57 1 4 17 30 2 3 1 11 2 57 1 4 8 4 1 20 2 22 8 58 1 2 1 1 4 8 10 11 2 30 1 61 1 12 1 50 1 3",
  "1 55 1 1 3 5 17 11 2 29 1 58 1 15 2 20 2 28 2 57 2 4 4 8 1 20 2 29 1 72 1 7 5 90 1 2 7 12 8",
  "98 1 2 9 11 7 73 2 27 1 1 1 1 1 55 14 1 5 1 2 5 48 9 1 102 4 1 6 1 2 2 2 25 2 4 3 16 4 13 1",
  "2 2 6 1 15 1 703 3 946 3 29 2 30 2 30 2 67 7 8 1 2 11 9 1 167 2 34 1 118 3 4 2 9 1 6 3 219 2",
  "2 1 58 1 1 9 1 1 2 8 6 13 48 84 48 1 1 5 1 1 5 1 40 9 12 2 32 4 2 2 1 3 56 1 1 2 3 1 1 3 58",
  "8 2 2 152 3 1 13 1 7 4 1 6 1 3 2 198 64 720 33 3070 3 141 1 96 32 554 4 107 2 30164 4 1 10",
  "32 2 80 2 272 1 3 1 4 1 25 2 5 1 151 2 26 18 13 1 38 8 25 11 46 3 48 1 2 4 2 2 39 1 67 6 2 2",
  "2 2 12 1 8 1 47 1 51 1 1 3 2 2 5 2 1 1 42 2 8 1 238 1 2 1 4 1 20272 1 769 16 973 1 226 1 149",
  "5 1670 15 40 8 165 2 573 4 65 5 317 2 77 6 70 11 49 4 123 1 54 15 41 1 2 2 10 3 49 4 2 2 7 1",
  "61 3 36 5 1 8 62 1 12 2 52 9 10 4 2 1 95 3 2 1 1 2 6 1 2 1 157 1 3 8 21 2 57 2 3 1 37 15 70",
  "6 13 1 1 1 1 1 14 2 85 8 2 3 1 1 23 1 84 6 1 1 4 2 1 2 238 4 6 2 1 2 27 2 85 8 2 1 1 2 106 1",
  "1 1 2 6 1 1 101 3 2 4 1 5 259 9 1 2 256 2 1 1 4 1 144 8 4 1 32 6 2 2 40 6 2 4 8 1 9 6 2 3 46",
  "13 1 2 198 1 1 3 1 1 201 14 84 22 2 7 1 2 1 2 122 21 1 1 72 2 3 1 1 1 347 2 11 2 52 5 5 1 1",
  "1 23 1 5349 1 6 15 11464 12 3 3 2496 5 59 7 1048 1 63 4 81 1 19640 2 4705 71 544 3 17 8 2 7",
  "30 4 148 3 1979 55 4 50 8 1 14 1 22 21 1360 144 160 7 375 1 61 4 508 4 254 2 243 1 2 1 7 2 5",
  "1 474 7 109 7"]

def silentRanges : List (Nat × Nat) := Text.ranges silentLengths

def neutralLengths : List String := [
  "0 9 5 14 5 15 10 39 26 93 31 1 449 2 7 14 2 28 1 17 117 1 128 1 403 6 118 2 1 2 1 1 1 2 90 1",
  "115 1 10 1 268 4 504 2 7 1 245 1 257 8 125 7 448 1 250 4 1106 10 102 1 666 2 318 1 20 27 309",
  "6 152 34 1548 181 67 74 60 428 69 26 1 790 1 339 256 768 229 6 14 7 256 517 3 25 15 1 6 1 5",
  "3 96 1 90 1 196 38 7130 64 22160 55 326 3 99 1 10 2 128 34 102 1 159 4 12 2 58 4 754 2 20946",
  "18 127 49 69 2 698 1 62 77 3 17 1918 1 537 7 1298 20 1530 13 2408 29 20464 1 23581 753 760",
  "89 3 1 186 87 4008 1 3056 576 61 3 61 1 178 2459"]

def neutralRanges : List (Nat × Nat) := Text.ranges neutralLengths

def Direction.of (c : Char) : Direction :=
  if Text.inRanges rightRanges c then .right
  else if Text.inRanges arabicNumberRanges c then .arabicNumber
  else if Text.inRanges numberRanges c then .number
  else if Text.inRanges silentRanges c then .mark
  else if Text.inRanges neutralRanges c then .neutral
  else .left

def runsRight (c : Char) : Bool :=
  let d := Direction.of c
  d == .right || d == .arabicNumber

/-- The direction in which a label ends, not counting marks. -/
def lastDirection? (ds : List Direction) : Option Direction :=
  (ds.reverse.dropWhile (· == .mark)).head?

/-- Whether a label may stand in a name in which some character runs right. -/
def keepsDirection (label : List Char) : Bool :=
  let ds := label.map Direction.of
  match ds.head?, lastDirection? ds with
  | some .right, some last =>
    !ds.contains .left && last != .neutral &&
      !(ds.contains .number && ds.contains .arabicNumber)
  | some .left, some last =>
    !ds.contains .right && !ds.contains .arabicNumber && (last == .left || last == .number)
  | none, _ => true
  | _, _ => false

end MailRound.Web.Domain
