import NestShell.Text.ClassTable
/-!
Letter case of Unicode: the cased classes and the two case maps. A map is a list of rules, each
moving every first or every second code point of a range by one offset, and a list of the letters
that become several.
-/
namespace NestShell.Text

/-- Moves `count` code points, `stride` apart from `first` on, by `offset`. -/
structure CaseRule where
  first : Nat
  count : Nat
  stride : Nat
  offset : Int

def CaseRule.image? (r : CaseRule) (n : Nat) : Option Nat :=
  if r.first ≤ n && n < r.first + r.count * r.stride && (n - r.first) % r.stride == 0 then
    some (n + r.offset).toNat
  else none

def readCaseRules : List Nat → List CaseRule
  | a :: n :: s :: d :: sign :: rest =>
    ⟨a, n, s, if sign == 1 then -(d : Int) else d⟩ :: readCaseRules rest
  | _ => []

/-- Reads entries of a code point, a length, and that many code points. -/
def readExpansions (fuel : Nat) (ns : List Nat) : List (Nat × List Nat) :=
  match fuel, ns with
  | fuel + 1, cp :: n :: rest => (cp, rest.take n) :: readExpansions fuel (rest.drop n)
  | _, _ => []

/-- Run lengths of the upper-case letters. -/
def upperRuns : List Nat := readNumbers
  "65 26 101 23 1 7 33 1 1 1 1 1 1 1 1 1 1 1 1 1 1 1 1 1 1 1 1 1 1 1 1 1 1 1 1 1 1 1 1 1 1 1
    1 1 1 1 1 1 1 1 1 1 1 1 1 1 1 1 1 1 1 1 2 1 1 1 1 1 1 1 1 1 1 1 1 1 1 1 2 1 1 1 1 1 1 1 1
    1 1 1 1 1 1 1 1 1 1 1 1 1 1 1 1 1 1 1 1 1 1 1 1 1 1 1 1 1 1 1 1 1 1 1 1 1 1 2 1 1 1 1 3 2
    1 1 1 2 1 3 2 4 1 2 1 3 3 2 1 2 1 1 1 1 1 2 1 1 2 1 1 2 1 3 1 1 1 2 3 1 7 1 2 1 2 1 2 1 1
    1 1 1 1 1 1 1 1 1 1 1 1 1 2 1 1 1 1 1 1 1 1 1 1 1 1 1 1 1 1 1 2 1 2 1 1 3 1 1 1 1 1 1 1 1
    1 1 1 1 1 1 1 1 1 1 1 1 1 1 1 1 1 1 1 1 1 1 1 1 1 1 1 1 1 1 1 1 1 1 1 1 1 1 1 1 1 1 1 1 1
    1 1 1 1 1 7 2 1 2 2 1 1 4 1 1 1 1 1 1 1 1 289 1 1 1 3 1 8 1 6 1 1 3 1 1 1 2 1 17 1 9 35 1
    2 3 3 1 1 1 1 1 1 1 1 1 1 1 1 1 1 1 1 1 1 1 1 1 1 1 5 1 2 1 1 2 2 51 48 1 1 1 1 1 1 1 1 1
    1 1 1 1 1 1 1 1 1 1 1 1 1 1 1 1 1 1 1 1 1 1 1 1 9 1 1 1 1 1 1 1 1 1 1 1 1 1 1 1 1 1 1 1 1
    1 1 1 1 1 1 1 1 1 1 1 1 1 1 1 1 1 1 1 1 1 1 1 1 1 1 1 1 1 1 1 1 1 1 2 1 1 1 1 1 1 1 1 1 1
    1 1 2 1 1 1 1 1 1 1 1 1 1 1 1 1 1 1 1 1 1 1 1 1 1 1 1 1 1 1 1 1 1 1 1 1 1 1 1 1 1 1 1 1 1
    1 1 1 1 1 1 1 1 1 1 1 1 1 1 1 1 1 1 1 1 1 1 1 1 1 1 1 1 1 1 1 1 1 1 1 1 1 1 1 1 1 1 1 1 1
    1 1 1 1 1 1 1 1 2 38 2889 38 1 1 5 1 722 86 2202 43 2 3 320 1 1 1 1 1 1 1 1 1 1 1 1 1 1 1
    1 1 1 1 1 1 1 1 1 1 1 1 1 1 1 1 1 1 1 1 1 1 1 1 1 1 1 1 1 1 1 1 1 1 1 1 1 1 1 1 1 1 1 1 1
    1 1 1 1 1 1 1 1 1 1 1 1 1 1 1 1 1 1 1 1 1 1 1 1 1 1 1 1 1 1 1 1 1 1 1 1 1 1 1 1 1 1 1 1 1
    1 1 1 1 1 1 1 1 1 1 1 1 1 1 1 1 1 1 1 1 1 1 1 1 1 1 1 1 1 1 1 1 1 1 1 1 1 1 1 1 1 1 1 1 9
    1 1 1 1 1 1 1 1 1 1 1 1 1 1 1 1 1 1 1 1 1 1 1 1 1 1 1 1 1 1 1 1 1 1 1 1 1 1 1 1 1 1 1 1 1
    1 1 1 1 1 1 1 1 1 1 1 1 1 1 1 1 1 1 1 1 1 1 1 1 1 1 1 1 1 1 1 1 1 1 1 1 1 1 1 1 1 1 1 1 1
    1 1 1 1 1 1 1 9 8 8 6 10 8 8 8 8 6 11 1 1 1 1 1 1 1 8 8 72 4 12 4 12 4 12 5 11 4 262 1 4 1
    3 3 2 3 2 1 3 5 6 1 1 1 1 1 1 4 2 4 10 2 5 1 26 16 19 1 818 26 1840 48 48 1 1 3 2 1 1 1 1
    1 1 4 1 1 2 1 8 3 1 1 1 1 1 1 1 1 1 1 1 1 1 1 1 1 1 1 1 1 1 1 1 1 1 1 1 1 1 1 1 1 1 1 1 1
    1 1 1 1 1 1 1 1 1 1 1 1 1 1 1 1 1 1 1 1 1 1 1 1 1 1 1 1 1 1 1 1 1 1 1 1 1 1 1 1 1 1 1 1 1
    1 1 1 1 1 1 1 1 1 1 1 1 1 1 1 1 1 8 1 1 1 4 1 31053 1 1 1 1 1 1 1 1 1 1 1 1 1 1 1 1 1 1 1
    1 1 1 1 1 1 1 1 1 1 1 1 1 1 1 1 1 1 1 1 1 1 1 1 1 1 19 1 1 1 1 1 1 1 1 1 1 1 1 1 1 1 1 1 1
    1 1 1 1 1 1 1 1 1 135 1 1 1 1 1 1 1 1 1 1 1 1 1 3 1 1 1 1 1 1 1 1 1 1 1 1 1 1 1 1 1 1 1 1
    1 1 1 1 1 1 1 1 1 1 1 1 1 1 1 1 1 1 1 1 1 1 1 1 1 1 1 1 1 1 1 1 1 1 1 1 1 1 1 1 1 10 1 1 1
    1 2 1 1 1 1 1 1 1 1 4 1 1 1 2 1 1 1 3 1 1 1 1 1 1 1 1 1 1 1 1 1 1 1 1 1 1 1 1 5 1 5 1 1 1
    1 1 1 1 1 1 1 1 1 1 1 1 4 1 1 6 1 5 1 1 1 28 1 22315 26 1221 40 136 36 156 11 1 15 1 7 1 2
    1770 51 3053 32 21888 32 26016 26 26 26 26 26 26 1 1 2 2 1 2 2 2 4 1 8 26 26 26 2 1 4 2 8
    1 7 27 2 1 4 1 5 1 1 3 7 27 26 26 26 26 26 26 26 26 26 26 26 30 25 33 25 33 25 33 25 33 25
    33 1 4405 34 2062 26 6 26 6 26 986742"

/-- Run lengths of the lower-case letters. -/
def lowerRuns : List Nat := readNumbers
  "97 26 47 1 10 1 4 1 36 24 1 8 1 1 1 1 1 1 1 1 1 1 1 1 1 1 1 1 1 1 1 1 1 1 1 1 1 1 1 1 1 1
    1 1 1 1 1 1 1 1 1 1 1 1 1 1 1 1 1 1 1 1 1 1 1 1 1 2 1 1 1 1 1 1 1 1 1 1 1 1 1 1 1 2 1 1 1
    1 1 1 1 1 1 1 1 1 1 1 1 1 1 1 1 1 1 1 1 1 1 1 1 1 1 1 1 1 1 1 1 1 1 1 1 1 1 1 1 1 1 1 2 1
    1 1 1 3 2 1 1 1 2 1 3 2 4 1 2 1 3 3 2 1 2 1 1 1 1 1 2 1 1 2 1 1 2 1 3 1 1 1 2 2 2 3 6 1 2
    1 2 1 1 1 1 1 1 1 1 1 1 1 1 1 1 1 1 2 1 1 1 1 1 1 1 1 1 1 1 1 1 1 1 1 1 2 2 1 1 1 3 1 1 1
    1 1 1 1 1 1 1 1 1 1 1 1 1 1 1 1 1 1 1 1 1 1 1 1 1 1 1 1 1 1 1 1 1 1 1 1 1 1 1 1 1 1 1 1 1
    1 1 1 1 1 1 1 1 1 1 7 2 1 2 2 1 1 4 1 1 1 1 1 1 1 1 69 1 36 7 2 30 5 96 1 43 1 1 1 3 1 2 4
    18 1 27 35 1 2 3 3 1 1 1 1 1 1 1 1 1 1 1 1 1 1 1 1 1 1 1 1 1 1 1 5 1 1 2 1 2 2 51 48 1 1 1
    1 1 1 1 1 1 1 1 1 1 1 1 1 1 1 1 1 1 1 1 1 1 1 1 1 1 1 1 1 1 1 9 1 1 1 1 1 1 1 1 1 1 1 1 1
    1 1 1 1 1 1 1 1 1 1 1 1 1 1 1 1 1 1 1 1 1 1 1 1 1 1 1 1 1 1 1 1 1 1 1 1 1 1 1 1 2 1 1 1 1
    1 1 1 1 1 1 1 1 2 1 1 1 1 1 1 1 1 1 1 1 1 1 1 1 1 1 1 1 1 1 1 1 1 1 1 1 1 1 1 1 1 1 1 1 1
    1 1 1 1 1 1 1 1 1 1 1 1 1 1 1 1 1 1 1 1 1 1 1 1 1 1 1 1 1 1 1 1 1 1 1 1 1 1 1 1 1 1 1 1 1
    1 1 1 1 1 1 1 1 1 1 1 1 1 1 1 48 41 2887 43 2 3 760 6 2178 9 119 192 65 1 1 1 1 1 1 1 1 1
    1 1 1 1 1 1 1 1 1 1 1 1 1 1 1 1 1 1 1 1 1 1 1 1 1 1 1 1 1 1 1 1 1 1 1 1 1 1 1 1 1 1 1 1 1
    1 1 1 1 1 1 1 1 1 1 1 1 1 1 1 1 1 1 1 1 1 1 1 1 1 1 1 1 1 1 1 1 1 1 1 1 1 1 1 1 1 1 1 1 1
    1 1 1 1 1 1 1 1 1 1 1 1 1 1 1 1 1 1 1 1 1 1 1 1 1 1 1 1 1 1 1 1 1 1 1 1 1 1 1 1 1 1 1 1 1
    1 1 1 1 9 1 1 1 1 1 1 1 1 1 1 1 1 1 1 1 1 1 1 1 1 1 1 1 1 1 1 1 1 1 1 1 1 1 1 1 1 1 1 1 1
    1 1 1 1 1 1 1 1 1 1 1 1 1 1 1 1 1 1 1 1 1 1 1 1 1 1 1 1 1 1 1 1 1 1 1 1 1 1 1 1 1 1 1 1 1
    1 1 1 1 1 1 1 1 1 1 1 1 9 8 6 10 8 8 8 8 6 10 8 8 8 8 14 2 8 8 8 8 8 8 5 1 2 6 1 3 3 1 2 8
    4 2 2 8 8 10 3 1 2 121 1 13 1 16 13 109 1 3 2 3 1 27 1 4 1 4 1 2 2 8 4 4 1 33 16 4 1 843
    26 1862 48 1 1 3 2 1 1 1 1 1 1 4 1 1 2 1 8 3 1 1 1 1 1 1 1 1 1 1 1 1 1 1 1 1 1 1 1 1 1 1 1
    1 1 1 1 1 1 1 1 1 1 1 1 1 1 1 1 1 1 1 1 1 1 1 1 1 1 1 1 1 1 1 1 1 1 1 1 1 1 1 1 1 1 1 1 1
    1 1 1 1 1 1 1 1 1 1 1 1 1 1 1 1 1 1 1 1 1 1 1 1 1 1 1 1 1 1 2 7 1 1 1 4 1 12 38 1 1 5 1
    30995 1 1 1 1 1 1 1 1 1 1 1 1 1 1 1 1 1 1 1 1 1 1 1 1 1 1 1 1 1 1 1 1 1 1 1 1 1 1 1 1 1 1
    1 1 1 19 1 1 1 1 1 1 1 1 1 1 1 1 1 1 1 1 1 1 1 1 1 1 1 1 1 1 3 133 1 1 1 1 1 1 1 1 1 1 1 1
    3 1 1 1 1 1 1 1 1 1 1 1 1 1 1 1 1 1 1 1 1 1 1 1 1 1 1 1 1 1 1 1 1 1 1 1 1 1 1 1 1 1 1 1 1
    1 1 1 1 1 1 1 1 1 1 1 1 1 1 1 1 1 10 1 1 1 1 2 1 1 1 1 1 1 1 1 1 4 1 1 1 2 1 1 3 1 1 1 1 1
    1 1 1 1 1 1 1 1 1 1 1 1 1 1 1 5 1 5 1 1 1 1 1 1 1 1 1 1 1 1 1 1 1 4 1 1 1 6 1 1 1 1 1 1 1
    1 1 28 1 1 3 821 43 1 13 7 80 20288 7 12 5 1065 26 1229 40 136 36 155 11 1 15 1 7 1 2 451
    1 2 3 1 42 1 9 1285 51 3021 32 21888 32 26010 26 26 7 1 18 26 26 26 4 1 1 1 7 1 11 26 26
    26 26 26 26 26 26 26 26 26 26 26 26 26 26 26 28 28 25 1 6 26 25 1 6 26 25 1 6 26 25 1 6 26
    25 1 6 1 1 1844 10 1 20 2563 34 988860"

/-- Run lengths of the title-case letters. -/
def titleRuns : List Nat := readNumbers
  "453 1 2 1 2 1 38 1 7573 8 8 8 8 8 12 1 15 1 47 1 1105923"

/-- The rules of the map to upper case. -/
def upperNumbers : List Nat := readNumbers
  "97 26 1 32 1 181 1 1 743 0 224 23 1 32 1 248 7 1 32 1 255 1 1 121 0 257 24 2 1 1 305 1 1
    232 1 307 3 2 1 1 314 8 2 1 1 331 23 2 1 1 378 3 2 1 1 383 1 1 300 1 384 1 1 195 0 387 2 2
    1 1 392 1 1 1 1 396 1 1 1 1 402 1 1 1 1 405 1 1 97 0 409 1 1 1 1 410 1 1 163 0 414 1 1 130
    0 417 3 2 1 1 424 1 1 1 1 429 1 1 1 1 432 1 1 1 1 436 2 2 1 1 441 1 1 1 1 445 1 1 1 1 447
    1 1 56 0 453 1 1 1 1 454 1 1 2 1 456 1 1 1 1 457 1 1 2 1 459 1 1 1 1 460 1 1 2 1 462 8 2 1
    1 477 1 1 79 1 479 9 2 1 1 498 1 1 1 1 499 1 1 2 1 501 1 1 1 1 505 20 2 1 1 547 9 2 1 1
    572 1 1 1 1 575 2 1 10815 0 578 1 1 1 1 583 5 2 1 1 592 1 1 10783 0 593 1 1 10780 0 594 1
    1 10782 0 595 1 1 210 1 596 1 1 206 1 598 2 1 205 1 601 1 1 202 1 603 1 1 203 1 604 1 1
    42319 0 608 1 1 205 1 609 1 1 42315 0 611 1 1 207 1 613 1 1 42280 0 614 1 1 42308 0 616 1
    1 209 1 617 1 1 211 1 618 1 1 42308 0 619 1 1 10743 0 620 1 1 42305 0 623 1 1 211 1 625 1
    1 10749 0 626 1 1 213 1 629 1 1 214 1 637 1 1 10727 0 640 1 1 218 1 642 1 1 42307 0 643 1
    1 218 1 647 1 1 42282 0 648 1 1 218 1 649 1 1 69 1 650 2 1 217 1 652 1 1 71 1 658 1 1 219
    1 669 1 1 42261 0 670 1 1 42258 0 837 1 1 84 0 881 2 2 1 1 887 1 1 1 1 891 3 1 130 0 940 1
    1 38 1 941 3 1 37 1 945 17 1 32 1 962 1 1 31 1 963 9 1 32 1 972 1 1 64 1 973 2 1 63 1 976
    1 1 62 1 977 1 1 57 1 981 1 1 47 1 982 1 1 54 1 983 1 1 8 1 985 12 2 1 1 1008 1 1 86 1
    1009 1 1 80 1 1010 1 1 7 0 1011 1 1 116 1 1013 1 1 96 1 1016 1 1 1 1 1019 1 1 1 1 1072 32
    1 32 1 1104 16 1 80 1 1121 17 2 1 1 1163 27 2 1 1 1218 7 2 1 1 1231 1 1 15 1 1233 48 2 1 1
    1377 38 1 48 1 4304 43 1 3008 0 4349 3 1 3008 0 5112 6 1 8 1 7296 1 1 6254 1 7297 1 1 6253
    1 7298 1 1 6244 1 7299 2 1 6242 1 7301 1 1 6243 1 7302 1 1 6236 1 7303 1 1 6181 1 7304 1 1
    35266 0 7545 1 1 35332 0 7549 1 1 3814 0 7566 1 1 35384 0 7681 75 2 1 1 7835 1 1 59 1 7841
    48 2 1 1 7936 8 1 8 0 7952 6 1 8 0 7968 8 1 8 0 7984 8 1 8 0 8000 6 1 8 0 8017 4 2 8 0
    8032 8 1 8 0 8048 2 1 74 0 8050 4 1 86 0 8054 2 1 100 0 8056 2 1 128 0 8058 2 1 112 0 8060
    2 1 126 0 8112 2 1 8 0 8126 1 1 7205 1 8144 2 1 8 0 8160 2 1 8 0 8165 1 1 7 0 8526 1 1 28
    1 8560 16 1 16 1 8580 1 1 1 1 9424 26 1 26 1 11312 48 1 48 1 11361 1 1 1 1 11365 1 1 10795
    1 11366 1 1 10792 1 11368 3 2 1 1 11379 1 1 1 1 11382 1 1 1 1 11393 50 2 1 1 11500 2 2 1 1
    11507 1 1 1 1 11520 38 1 7264 1 11559 1 1 7264 1 11565 1 1 7264 1 42561 23 2 1 1 42625 14
    2 1 1 42787 7 2 1 1 42803 31 2 1 1 42874 2 2 1 1 42879 5 2 1 1 42892 1 1 1 1 42897 2 2 1 1
    42900 1 1 48 0 42903 10 2 1 1 42933 8 2 1 1 42952 2 2 1 1 42961 1 1 1 1 42967 2 2 1 1
    42998 1 1 1 1 43859 1 1 928 1 43888 80 1 38864 1 65345 26 1 32 1 66600 40 1 40 1 66776 36
    1 40 1 66967 11 1 39 1 66979 15 1 39 1 66995 7 1 39 1 67003 2 1 39 1 68800 51 1 64 1 71872
    32 1 32 1 93792 32 1 32 1 125218 34 1 34 1"

/-- The letters whose upper case has several letters. -/
def upperExpansionNumbers : List Nat := readNumbers
  "223 2 83 83 329 2 700 78 496 2 74 780 912 3 921 776 769 944 3 933 776 769 1415 2 1333 1362
    7830 2 72 817 7831 2 84 776 7832 2 87 778 7833 2 89 778 7834 2 65 702 8016 2 933 787 8018
    3 933 787 768 8020 3 933 787 769 8022 3 933 787 834 8064 2 7944 921 8065 2 7945 921 8066 2
    7946 921 8067 2 7947 921 8068 2 7948 921 8069 2 7949 921 8070 2 7950 921 8071 2 7951 921
    8072 2 7944 921 8073 2 7945 921 8074 2 7946 921 8075 2 7947 921 8076 2 7948 921 8077 2
    7949 921 8078 2 7950 921 8079 2 7951 921 8080 2 7976 921 8081 2 7977 921 8082 2 7978 921
    8083 2 7979 921 8084 2 7980 921 8085 2 7981 921 8086 2 7982 921 8087 2 7983 921 8088 2
    7976 921 8089 2 7977 921 8090 2 7978 921 8091 2 7979 921 8092 2 7980 921 8093 2 7981 921
    8094 2 7982 921 8095 2 7983 921 8096 2 8040 921 8097 2 8041 921 8098 2 8042 921 8099 2
    8043 921 8100 2 8044 921 8101 2 8045 921 8102 2 8046 921 8103 2 8047 921 8104 2 8040 921
    8105 2 8041 921 8106 2 8042 921 8107 2 8043 921 8108 2 8044 921 8109 2 8045 921 8110 2
    8046 921 8111 2 8047 921 8114 2 8122 921 8115 2 913 921 8116 2 902 921 8118 2 913 834 8119
    3 913 834 921 8124 2 913 921 8130 2 8138 921 8131 2 919 921 8132 2 905 921 8134 2 919 834
    8135 3 919 834 921 8140 2 919 921 8146 3 921 776 768 8147 3 921 776 769 8150 2 921 834
    8151 3 921 776 834 8162 3 933 776 768 8163 3 933 776 769 8164 2 929 787 8166 2 933 834
    8167 3 933 776 834 8178 2 8186 921 8179 2 937 921 8180 2 911 921 8182 2 937 834 8183 3 937
    834 921 8188 2 937 921 64256 2 70 70 64257 2 70 73 64258 2 70 76 64259 3 70 70 73 64260 3
    70 70 76 64261 2 83 84 64262 2 83 84 64275 2 1348 1350 64276 2 1348 1333 64277 2 1348 1339
    64278 2 1358 1350 64279 2 1348 1341"

/-- The rules of the map to lower case. -/
def lowerNumbers : List Nat := readNumbers
  "65 26 1 32 0 192 23 1 32 0 216 7 1 32 0 256 24 2 1 0 306 3 2 1 0 313 8 2 1 0 330 23 2 1 0
    376 1 1 121 1 377 3 2 1 0 385 1 1 210 0 386 2 2 1 0 390 1 1 206 0 391 1 1 1 0 393 2 1 205
    0 395 1 1 1 0 398 1 1 79 0 399 1 1 202 0 400 1 1 203 0 401 1 1 1 0 403 1 1 205 0 404 1 1
    207 0 406 1 1 211 0 407 1 1 209 0 408 1 1 1 0 412 1 1 211 0 413 1 1 213 0 415 1 1 214 0
    416 3 2 1 0 422 1 1 218 0 423 1 1 1 0 425 1 1 218 0 428 1 1 1 0 430 1 1 218 0 431 1 1 1 0
    433 2 1 217 0 435 2 2 1 0 439 1 1 219 0 440 1 1 1 0 444 1 1 1 0 452 1 1 2 0 453 1 1 1 0
    455 1 1 2 0 456 1 1 1 0 458 1 1 2 0 459 9 2 1 0 478 9 2 1 0 497 1 1 2 0 498 2 2 1 0 502 1
    1 97 1 503 1 1 56 1 504 20 2 1 0 544 1 1 130 1 546 9 2 1 0 570 1 1 10795 0 571 1 1 1 0 573
    1 1 163 1 574 1 1 10792 0 577 1 1 1 0 579 1 1 195 1 580 1 1 69 0 581 1 1 71 0 582 5 2 1 0
    880 2 2 1 0 886 1 1 1 0 895 1 1 116 0 902 1 1 38 0 904 3 1 37 0 908 1 1 64 0 910 2 1 63 0
    913 17 1 32 0 931 9 1 32 0 975 1 1 8 0 984 12 2 1 0 1012 1 1 60 1 1015 1 1 1 0 1017 1 1 7
    1 1018 1 1 1 0 1021 3 1 130 1 1024 16 1 80 0 1040 32 1 32 0 1120 17 2 1 0 1162 27 2 1 0
    1216 1 1 15 0 1217 7 2 1 0 1232 48 2 1 0 1329 38 1 48 0 4256 38 1 7264 0 4295 1 1 7264 0
    4301 1 1 7264 0 5024 80 1 38864 0 5104 6 1 8 0 7312 43 1 3008 1 7357 3 1 3008 1 7680 75 2
    1 0 7838 1 1 7615 1 7840 48 2 1 0 7944 8 1 8 1 7960 6 1 8 1 7976 8 1 8 1 7992 8 1 8 1 8008
    6 1 8 1 8025 4 2 8 1 8040 8 1 8 1 8072 8 1 8 1 8088 8 1 8 1 8104 8 1 8 1 8120 2 1 8 1 8122
    2 1 74 1 8124 1 1 9 1 8136 4 1 86 1 8140 1 1 9 1 8152 2 1 8 1 8154 2 1 100 1 8168 2 1 8 1
    8170 2 1 112 1 8172 1 1 7 1 8184 2 1 128 1 8186 2 1 126 1 8188 1 1 9 1 8486 1 1 7517 1
    8490 1 1 8383 1 8491 1 1 8262 1 8498 1 1 28 0 8544 16 1 16 0 8579 1 1 1 0 9398 26 1 26 0
    11264 48 1 48 0 11360 1 1 1 0 11362 1 1 10743 1 11363 1 1 3814 1 11364 1 1 10727 1 11367 3
    2 1 0 11373 1 1 10780 1 11374 1 1 10749 1 11375 1 1 10783 1 11376 1 1 10782 1 11378 1 1 1
    0 11381 1 1 1 0 11390 2 1 10815 1 11392 50 2 1 0 11499 2 2 1 0 11506 1 1 1 0 42560 23 2 1
    0 42624 14 2 1 0 42786 7 2 1 0 42802 31 2 1 0 42873 2 2 1 0 42877 1 1 35332 1 42878 5 2 1
    0 42891 1 1 1 0 42893 1 1 42280 1 42896 2 2 1 0 42902 10 2 1 0 42922 1 1 42308 1 42923 1 1
    42319 1 42924 1 1 42315 1 42925 1 1 42305 1 42926 1 1 42308 1 42928 1 1 42258 1 42929 1 1
    42282 1 42930 1 1 42261 1 42931 1 1 928 0 42932 8 2 1 0 42948 1 1 48 1 42949 1 1 42307 1
    42950 1 1 35384 1 42951 2 2 1 0 42960 1 1 1 0 42966 2 2 1 0 42997 1 1 1 0 65313 26 1 32 0
    66560 40 1 40 0 66736 36 1 40 0 66928 11 1 39 0 66940 15 1 39 0 66956 7 1 39 0 66964 2 1
    39 0 68736 51 1 64 0 71840 32 1 32 0 93760 32 1 32 0 125184 34 1 34 0"

/-- Run lengths of what letter case passes over: marks, modifiers, and signs inside words. -/
def ignorableRuns : List Nat := readNumbers
  "39 1 6 1 11 1 35 1 1 1 71 1 4 1 1 1 4 1 2 2 503 192 4 2 4 1 9 2 1 1 251 7 207 1 5 1 49 45 1
    1 1 2 1 2 1 1 44 1 11 6 10 11 1 1 35 1 10 21 16 1 101 8 1 10 1 4 33 1 1 1 30 27 91 11 58 11
    4 1 2 1 24 24 43 3 44 1 7 2 6 8 41 58 55 1 1 1 4 8 4 1 3 7 10 2 13 1 15 1 58 1 4 4 8 1 20 2
    26 1 2 2 57 1 4 2 4 2 2 3 3 1 30 2 3 1 11 2 57 1 4 5 1 2 4 1 20 2 22 6 1 1 58 1 2 1 1 4 8 1
    7 2 11 2 30 1 61 1 12 1 50 1 3 1 55 1 1 3 5 3 1 4 7 2 11 2 29 1 58 1 2 1 6 1 5 2 20 2 28 2
    57 2 4 4 8 1 20 2 29 1 72 1 7 3 1 1 90 1 2 7 11 9 98 1 2 9 9 1 1 6 74 2 27 1 1 1 1 1 55 14 1
    5 1 2 5 11 1 36 9 1 102 4 1 6 1 2 2 2 25 2 4 3 16 4 13 1 2 2 6 1 15 1 94 1 608 3 946 3 29 2
    30 2 30 2 64 2 1 7 8 1 2 11 3 1 5 1 45 5 51 1 65 2 34 1 118 3 4 2 9 1 6 3 219 2 2 1 58 1 1 7
    1 1 1 1 2 8 6 10 2 1 39 1 8 31 49 4 48 1 1 5 1 1 5 1 40 9 12 2 32 4 2 2 1 3 56 1 1 2 3 1 1 3
    58 8 2 2 64 6 82 3 1 13 1 7 4 1 6 1 3 2 50 63 13 1 34 101 445 1 1 3 11 3 13 3 13 3 13 2 12 5
    8 2 10 1 2 1 2 5 49 5 1 10 1 1 13 1 16 13 51 33 2955 2 113 3 125 1 15 1 96 32 47 1 469 1 36
    4 3 5 5 1 93 6 93 3 28438 1 1250 6 270 1 98 4 1 10 1 1 28 4 80 2 14 34 78 1 23 3 103 3 3 2 8
    1 3 1 4 1 25 2 5 1 151 2 26 18 13 1 38 8 25 11 46 3 48 1 2 4 2 2 17 1 21 2 66 6 2 2 2 2 12 1
    8 1 35 1 11 1 51 1 1 3 2 2 5 2 1 1 27 1 14 2 5 2 1 1 100 5 9 3 121 1 2 1 4 1 20272 1 147 17
    573 16 3 1 12 16 34 1 2 1 169 1 7 1 6 1 11 1 35 1 1 1 47 1 45 2 67 1 21 3 513 1 226 1 149 5
    1029 6 1 42 1 9 582 3 1 2 5 4 40 3 4 1 165 2 573 4 387 2 153 11 49 4 123 1 54 15 41 1 2 2 10
    3 49 4 2 2 2 1 4 1 10 1 50 3 36 5 1 8 62 1 12 2 52 9 10 4 2 1 95 3 2 1 1 2 6 1 160 1 3 8 21
    2 57 2 3 1 37 7 3 5 195 8 2 3 1 1 23 1 84 6 1 1 4 2 1 2 238 4 6 2 1 2 27 2 85 8 2 1 1 2 106
    1 1 1 2 6 1 1 101 3 2 4 1 5 259 9 1 2 256 2 1 1 4 1 144 4 2 2 4 1 32 10 40 6 2 4 8 1 9 6 2 3
    46 13 1 2 406 7 1 6 1 1 82 22 2 7 1 2 1 2 122 6 3 1 1 2 1 7 1 1 72 2 3 1 1 1 347 2 5435 9
    14007 5 59 7 9 4 1035 1 63 17 64 2 1 2 16395 4 1 7 1 2 3230 2 1 4 4700 46 2 23 544 3 9 16 2
    7 30 4 148 3 1979 55 4 50 8 1 14 1 22 5 1 15 1360 7 1 17 2 7 1 2 1 5 261 14 368 1 61 4 1504
    7 109 8 2735 5 789505 1 30 96 128 240"

/-- The letters whose lower case has several letters. -/
def lowerExpansionNumbers : List Nat := readNumbers
  "304 2 105 775"

def upperRules : List CaseRule := readCaseRules upperNumbers

def lowerRules : List CaseRule := readCaseRules lowerNumbers

def upperExpansions : List (Nat × List Nat) := readExpansions 1000 upperExpansionNumbers

def lowerExpansions : List (Nat × List Nat) := readExpansions 1000 lowerExpansionNumbers

def mapCase (rules : List CaseRule) (expansions : List (Nat × List Nat)) (c : Char) : List Char :=
  match expansions.lookup c.toNat with
  | some cs => cs.map Char.ofNat
  | none => [Char.ofNat ((rules.findSome? (·.image? c.toNat)).getD c.toNat)]

def upperChar (c : Char) : List Char :=
  if c.toNat < 128 then [c.toUpper] else mapCase upperRules upperExpansions c

def lowerChar (c : Char) : List Char :=
  if c.toNat < 128 then [c.toLower] else mapCase lowerRules lowerExpansions c

def upper (s : String) : String := String.ofList (s.toList.flatMap upperChar)

def isUpperChar (c : Char) : Bool :=
  if c.toNat < 128 then c.isUpper else inRuns false upperRuns c.toNat

def isLowerChar (c : Char) : Bool :=
  if c.toNat < 128 then c.isLower else inRuns false lowerRuns c.toNat

def isTitleChar (c : Char) : Bool := c.toNat ≥ 128 && inRuns false titleRuns c.toNat

def isCased (c : Char) : Bool := isUpperChar c || isLowerChar c || isTitleChar c

/-- Whether a word ends between two texts, the first of them reversed: the nearest sign before it
that has case belongs to a letter, and none after it does. -/
def endsWord (before after : List Char) : Bool :=
  (nearest before).any isCased && !(nearest after).any isCased
where
  nearest (cs : List Char) : Option Char :=
    (cs.dropWhile fun c => inRuns false ignorableRuns c.toNat).head?

/-- The lower case of a letter between two texts. The sigma has a form of its own at the end of a
word. -/
def lowerBetween (before after : List Char) (c : Char) : List Char :=
  if c == 'Σ' && endsWord before after then ['ς'] else lowerChar c

def lowerFrom (before : List Char) : List Char → List Char
  | [] => []
  | c :: cs => lowerBetween before cs c ++ lowerFrom (c :: before) cs

def lower (s : String) : String := String.ofList (lowerFrom [] s.toList)

/-- Some letter has upper case and no letter has another case. -/
def isUpper (s : String) : Bool :=
  s.toList.any isUpperChar && s.toList.all fun c => !isLowerChar c && !isTitleChar c

def isLower (s : String) : Bool :=
  s.toList.any isLowerChar && s.toList.all fun c => !isUpperChar c && !isTitleChar c

end NestShell.Text
