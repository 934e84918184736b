/-
How many columns a character takes on a terminal, seen by itself.

Most characters take one. What belongs to the letter before it and what is not
shown takes none; the characters of East Asian scripts that fill a square take
two, and so do pictures.
-/
import ClusterUtility.Text.Emoji
import ClusterUtility.Text.Mark
import ClusterUtility.Text.Reserved

namespace ClusterUtility.Text

/-- The characters that take no column although they belong to no letter
before them: signs written over a number or over the next letter, vowels and
final consonants of Hangul, and what is not shown. -/
def hiddenRanges : List (Nat × Nat) :=
  [(0x605, 0x605), (0x890, 0x891), (0x8e2, 0x8e2), (0xd4e, 0xd4e),
   (0x1160, 0x11ff), (0x180e, 0x180e), (0x200c, 0x200d), (0x2065, 0x2069),
   (0x3164, 0x3164), (0xa8fa, 0xa8fa), (0xd7b0, 0xd7c6), (0xd7cb, 0xd7fb),
   (0xffa0, 0xffa0), (0xfff0, 0xfff8), (0x111c2, 0x111c3), (0x113d1, 0x113d1),
   (0x1193f, 0x1193f), (0x11941, 0x11941), (0x11a84, 0x11a89),
   (0x11d46, 0x11d46), (0x11f02, 0x11f02), (0xe0000, 0xe0000),
   (0xe0002, 0xe001f), (0xe0080, 0xe00ff), (0xe01f0, 0xe0fff)]

/-- The extending signs that take a column all the same. -/
def narrowSignRanges : List (Nat × Nat) :=
  [(0x2d7f, 0x2d7f), (0xff9e, 0xff9f)]

/-- Whether a character takes no column. -/
def isEmpty (c : Char) : Bool :=
  isMark c || inRanges hiddenRanges c
    || (isExtending c && !inRanges narrowSignRanges c)

/-- The characters of East Asian width W or F, pictures left out, and a long
vowel of Khmer. What the blocks of Tangut and Jurchen keep for ideographs to
come is counted with them. -/
def wideRanges : List (Nat × Nat) :=
  [(0x1100, 0x115f), (0x17a4, 0x17a4), (0x2329, 0x232a), (0x2630, 0x2637),
   (0x268a, 0x268f), (0x2e80, 0x2e99), (0x2e9b, 0x2ef3), (0x2f00, 0x2fd5),
   (0x2ff0, 0x3029), (0x3030, 0x303e), (0x3041, 0x3096), (0x309b, 0x30ff),
   (0x3105, 0x312f), (0x3131, 0x3163), (0x3165, 0x318e), (0x3190, 0x31e5),
   (0x31ef, 0x321e), (0x3220, 0x3247), (0x3250, 0xa48c), (0xa490, 0xa4c6),
   (0xa960, 0xa97c), (0xac00, 0xd7a3), (0xf900, 0xfaff), (0xfe10, 0xfe19),
   (0xfe30, 0xfe52), (0xfe54, 0xfe66), (0xfe68, 0xfe6b), (0xff01, 0xff60),
   (0xffe0, 0xffe6), (0x16fe0, 0x16fe3), (0x16ff2, 0x16ff6),
   (0x17000, 0x18cda), (0x18cff, 0x18dfe), (0x18e00, 0x1919e),
   (0x191a0, 0x191d2), (0x1aff0, 0x1aff3), (0x1aff5, 0x1affb),
   (0x1affd, 0x1affe), (0x1b000, 0x1b122), (0x1b132, 0x1b132),
   (0x1b150, 0x1b152), (0x1b155, 0x1b155), (0x1b164, 0x1b167),
   (0x1b170, 0x1b2fb), (0x1d300, 0x1d356), (0x1d360, 0x1d376),
   (0x1f200, 0x1f200), (0x1f202, 0x1f202), (0x1f210, 0x1f219),
   (0x1f21b, 0x1f22e), (0x1f230, 0x1f231), (0x1f237, 0x1f237),
   (0x1f23b, 0x1f23b), (0x1f240, 0x1f248), (0x1f260, 0x1f265),
   (0x20000, 0x2fffd), (0x30000, 0x3fffd)]

/-- Whether a code point is kept for a picture to come. -/
def isPictureToCome (c : Char) : Bool :=
  inRanges [(0x1f000, 0x1faff), (0x1fc00, 0x1fffd)] c && isReserved c

/-- Whether a character takes two columns. -/
def isWide (c : Char) : Bool :=
  inRanges wideRanges c || isPicture c || isSkinTone c || isPictureToCome c

/-- The abbreviation sign of Khmer, three letters in one character. -/
def khmerEtCetera : Nat := 0x17d8

/-- The number of columns of a character. -/
def columns (c : Char) : Nat :=
  if c.toNat ≤ 0xa0 then 1
  else if isEmpty c then 0
  else if isWide c then 2
  else if c.toNat = khmerEtCetera then 3
  else 1

end ClusterUtility.Text
