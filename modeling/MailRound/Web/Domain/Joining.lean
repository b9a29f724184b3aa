import MailRound.Text.Ranges

namespace MailRound.Web.Domain

def markLengths : List String := [
  "768 112 275 7 263 45 1 1 1 2 1 2 1 1 72 11 48 21 16 1 101 7 2 6 2 2 1 4 35 1 30 27 91 11 58",
  "9 9 1 24 4 1 9 1 3 1 5 43 3 59 9 42 58 54 3 1 18 1 7 10 2 29 3 56 1 1 16 9 1 10 2 26 6 56 22",
  "30 2 3 1 11 3 56 1 1 16 20 2 22 10 56 1 1 26 10 2 30 1 59 16 9 1 40 5 55 1 1 25 11 2 29 3 56",
  "1 1 25 11 2 15 17 55 2 1 16 9 1 10 2 29 3 70 22 18 2 61 1 2 7 12 8 98 1 2 9 11 7 73 2 27 1 1",
  "1 1 1 4 2 49 20 1 2 5 48 9 1 100 20 23 4 4 3 1 3 2 7 3 4 13 12 1 1 10 4 703 3 946 4 28 3 29",
  "2 30 2 66 30 9 1 167 2 34 1 118 28 219 5 57 43 48 85 47 17 38 9 12 3 30 13 56 14 48 20 152 3",
  "1 21 4 1 6 1 2 3 198 64 720 33 3070 3 141 1 96 32 554 6 105 2 30164 4 1 10 32 2 80 2 272 1 3",
  "1 4 1 23 5 4 1 83 2 50 18 26 18 13 1 38 8 25 13 44 4 47 14 36 1 67 14 12 1 8 2 45 3 50 1 1 3",
  "2 2 5 2 1 1 41 5 5 2 236 8 1 2 20272 1 769 16 973 1 226 1 149 5 1670 15 40 8 165 2 573 4 65",
  "5 317 2 77 6 70 11 49 4 122 3 53 15 41 1 2 2 10 4 45 11 7 1 61 3 36 14 16 2 44 1 12 3 48 14",
  "8 4 1 2 92 12 6 1 2 1 157 12 21 4 55 2 1 16 9 1 10 19 67 25 1 1 14 2 82 18 23 1 81 20 235 18",
  "27 2 82 17 106 13 101 15 256 15 245 15 1 1 1 2 141 16 3 1 28 10 40 7 1 4 8 1 9 11 46 16 198",
  "8 199 17 82 37 122 21 1 1 66 14 347 4 9 2 1 1 48 15 23 1 5349 1 6 15 11464 18 2496 5 59 7",
  "1048 1 1 66 81 14 19627 2 4705 71 542 5 3 22 2 7 30 4 148 3 1979 55 4 50 8 1 14 1 22 21 1360",
  "144 160 7 375 1 61 4 508 4 254 2 243 1 2 1 7 2 5 1 474 7 109 7"]

def markRanges : List (Nat × Nat) := Text.ranges markLengths

/-- Signs that take the vowel from a letter. -/
def viramaLengths : List String := [
  "2381 1 127 1 127 1 127 1 127 1 127 1 127 1 127 1 109 2 16 1 124 1 111 1 127 1 201 1 180 2",
  "1753 2 30 1 157 1 653 1 227 1 101 2 70 2 4491 1 31366 1 37 1 151 1 142 1 108 1 309 1 246 1",
  "24145 1 1542 1 41 1 14 1 57 1 121 2 139 1 116 1 180 1 98 1 128 3 113 1 127 1 252 1 127 1 118",
  "1 116 1 269 1 259 2 161 1 83 1 18 1 81 1 421 1 260 2 81 1 425 2 16876 1"]

def viramaRanges : List (Nat × Nat) := Text.ranges viramaLengths

def bothSidesLengths : List String := [
  "1568 1 5 1 1 1 1 5 4 13 1 7 1 2 35 2 8 16 18 38 1 2 9 1 1 1 1 2 40 3 2 1 18 3 5 4 1 9 1 1 1",
  "1 1 2 31 11 3 15 2 4 1 1 2 3 2 6 74 33 86 5 2 1 1 10 1 1 10 1 1 4 2 1 29 1 2 5 1 1 16 10 5 2",
  "2 6 1 15 3902 1 24 89 14 34 1 1 36757 50 25166 5 14 4 1 5 1 3 10 4 145 1 1 1 3 3 1 2 1 1 2 1",
  "28 2 338 33 1 1 415 2 1 2 104 3 1 17 12 3 28 4 2 12 46 1 1 2 4 1 2 2 1 2 1 1 2 1 5 1 55605",
  "68"]

def bothSidesRanges : List (Nat × Nat) := Text.ranges bothSidesLengths

def afterLengths : List String := [
  "43122 1 25178 1 9 1 552 1 714 1"]

def afterRanges : List (Nat × Nat) := Text.ranges afterLengths

def beforeLengths : List String := [
  "1570 4 1 1 1 1 5 4 21 1 40 3 1 3 16 18 38 1 2 9 1 1 1 1 2 2 1 1 24 2 32 1 4 5 4 1 9 1 1 1 1",
  "1 2 1 29 1 11 3 15 2 4 1 1 2 3 2 198 1 5 2 1 1 10 1 1 3 14 1 1 2 5 19 11 1 27 3 1 1 2 2 6 1",
  "66059 1 1 1 1 2 3 5 10 1 3 1 2 1 10 1 145 1 1 3 3 1 2 1 1 2 1 1 23 4 373 1 415 1 112 1 32 1",
  "31 2 62 3 2 2 2 1 4 2 5 1"]

def beforeRanges : List (Nat × Nat) := Text.ranges beforeLengths

/-- Characters that letters join through. -/
def throughLengths : List String := [
  "768 112 275 7 263 45 1 1 1 2 1 2 1 1 72 11 48 21 16 1 101 7 2 6 2 2 1 4 35 1 30 27 91 11 58",
  "9 9 1 24 4 1 9 1 3 1 5 43 3 59 9 42 57 55 1 1 1 4 8 4 1 3 7 10 2 29 1 58 1 4 4 8 1 20 2 26 5",
  "57 1 4 17 30 2 3 1 11 2 57 1 4 8 4 1 20 2 22 8 58 1 2 1 1 4 8 10 11 2 30 1 61 1 12 1 50 1 3",
  "1 55 1 1 3 5 17 11 2 29 1 58 1 2 1 6 1 5 2 20 2 28 2 57 2 4 4 8 1 20 2 29 1 72 1 7 5 90 1 2",
  "7 12 8 98 1 2 9 11 7 73 2 27 1 1 1 1 1 55 14 1 5 1 2 5 48 9 1 102 4 1 6 1 2 2 2 25 2 4 3 16",
  "4 13 1 2 2 6 1 15 1 703 3 946 3 29 2 30 2 30 2 67 7 8 1 2 11 9 1 167 2 34 1 118 3 4 2 9 1 6",
  "3 219 2 2 1 58 1 1 9 1 1 2 8 6 13 48 84 48 1 1 5 1 1 5 1 40 9 12 2 32 4 2 2 1 3 56 1 1 2 3 1",
  "1 3 58 8 2 2 152 3 1 13 1 7 4 1 6 1 3 2 198 64 720 33 3070 3 141 1 96 32 554 4 107 2 30164 4",
  "1 10 32 2 80 2 272 1 3 1 4 1 25 2 5 1 151 2 26 18 13 1 38 8 25 11 46 3 48 1 2 4 2 2 39 1 67",
  "6 2 2 2 2 12 1 8 1 47 1 51 1 1 3 2 2 5 2 1 1 42 2 8 1 238 1 2 1 4 1 20272 1 769 16 973 1 226",
  "1 149 5 1670 15 40 8 165 2 573 4 65 5 317 2 77 6 70 11 49 4 123 1 54 15 41 1 2 2 10 3 49 4 2",
  "2 7 1 61 3 36 5 1 8 62 1 12 2 52 9 10 4 2 1 95 3 2 1 1 2 6 1 2 1 157 1 3 8 21 2 57 2 3 1 37",
  "15 70 6 13 1 1 1 1 1 14 2 85 8 2 3 1 1 23 1 84 6 1 1 4 2 1 2 238 4 6 2 1 2 27 2 85 8 2 1 1 2",
  "106 1 1 1 2 6 1 1 101 1 1 1 2 4 1 5 259 9 1 2 256 2 1 1 4 1 144 8 4 1 32 10 40 6 2 4 8 1 9 6",
  "2 3 46 13 1 2 198 1 1 3 1 1 201 14 1 1 82 22 2 7 1 2 1 2 122 21 1 1 72 2 3 1 1 1 347 2 11 2",
  "52 5 5 1 1 1 23 1 5349 1 6 15 11464 12 3 3 2496 5 59 7 1048 1 63 4 81 1 19640 2 4705 71 544",
  "3 17 8 2 7 30 4 148 3 1979 55 4 50 8 1 14 1 22 21 1360 144 160 7 375 1 61 4 508 4 254 2 243",
  "1 2 1 7 2 5 1 474 7 109 8"]

def throughRanges : List (Nat × Nat) := Text.ranges throughLengths

def afterVirama (before : List Char) : Bool :=
  (before.head?.map (Text.inRanges viramaRanges)).getD false

/-- Whether the nearest character that is not joined through lies in one of the tables. -/
def nearest (tables : List (List (Nat × Nat))) (cs : List Char) : Bool :=
  match cs.dropWhile (Text.inRanges throughRanges) with
  | c :: _ => tables.any (Text.inRanges · c)
  | [] => false

/-- Whether every joiner (U+200D) and every divider (U+200C) stands in its place. What comes before is
held backwards. -/
def keepsJoiners (before : List Char) : List Char → Bool
  | [] => true
  | c :: cs =>
    let kept :=
      if c.toNat = 0x200D then afterVirama before
      else if c.toNat = 0x200C then
        afterVirama before ||
          (nearest [afterRanges, bothSidesRanges] before &&
            nearest [beforeRanges, bothSidesRanges] cs)
      else true
    kept && keepsJoiners (c :: before) cs

end MailRound.Web.Domain
