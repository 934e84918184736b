/-
Letters that are written as one.

A text is read from its end to its beginning here: a ligature is known by the
part of it that has been read, and a letter in front may join that part. Most
ligatures ask for a zero width joiner between the letters, or allow one.
-/
import ClusterUtility.Text.Columns

namespace ClusterUtility.Text

/-- The zero width joiner. -/
def joiner : Nat := 0x200d

-- ============================================================= letters

/-- The Arabic letters of the shape of lam. -/
def isLam (c : Char) : Bool :=
  inRanges [(0x644, 0x644), (0x6b5, 0x6b8), (0x76a, 0x76a), (0x8a6, 0x8a6),
    (0x8c7, 0x8c7)] c

/-- The Arabic letters of the shape of alef. -/
def isAlef (c : Char) : Bool :=
  inRanges [(0x622, 0x623), (0x625, 0x625), (0x627, 0x627), (0x671, 0x673),
    (0x675, 0x675), (0x773, 0x774), (0x870, 0x882)] c

/-- The consonants of Tifinagh. -/
def isTifinagh (c : Char) : Bool :=
  inRanges [(0x2d31, 0x2d65), (0x2d6f, 0x2d6f)] c

/-- The letters of Khmer that can be written below another. -/
def isSubscriptable (c : Char) : Bool :=
  inRanges [(0x1780, 0x1782), (0x1784, 0x1787), (0x1789, 0x178c),
    (0x178e, 0x1793), (0x1795, 0x1798), (0x179b, 0x179d), (0x17a0, 0x17a0),
    (0x17a2, 0x17a2), (0x17a7, 0x17a7),
    (0x17ab, 0x17ac), (0x17af, 0x17af)] c

-- =========================================================== ligatures

/-- The part of a ligature that has been read. The letters that join only over
a joiner tell whether one stands before them. -/
inductive Ligature where
  /-- Hebrew lamed, which alef joins. -/
  | lamed (joined : Bool)
  /-- Buginese ya, which the vowel sign i joins. -/
  | ya (joined : Bool)
  /-- Buginese vowel sign i before a joiner and ya, which the letter a
  joins. -/
  | signYa
  /-- A consonant of Tifinagh. -/
  | consonant (joined : Bool)
  /-- A consonant of Tifinagh after the sign that joins two of them. -/
  | joinedConsonant
  /-- A tone letter of Lisu that ends a pair. -/
  | tone
  /-- The letter i of Old Turkic, which the letter t joins. -/
  | orkhon (joined : Bool)
  /-- A letter of Khmer that the subscript sign puts below the one before. -/
  | subscript
  deriving DecidableEq

namespace Ligature

/-- The ligature that a character may be the end of. -/
def ofChar? (c : Char) : Option Ligature :=
  if c.toNat = 0x5dc then some (.lamed false)
  else if c.toNat = 0x1a10 then some (.ya false)
  else if isTifinagh c then some (.consonant false)
  else if c.toNat = 0xa4fc || c.toNat = 0xa4fd then some .tone
  else if c.toNat = 0x10c03 then some (.orkhon false)
  else if isSubscriptable c then some .subscript
  else none

/-- A ligature with a joiner before the part that has been read. -/
def withJoiner : Ligature → Ligature
  | .lamed _ => .lamed true
  | .ya _ => .ya true
  | .consonant _ => .consonant true
  | .orkhon _ => .orkhon true
  | other => other

/-- A character that joins a ligature: the columns it adds, and what of the
ligature is still open before it. -/
def join? : Ligature → Char → Option (Int × Option Ligature)
  | .lamed true, c => if c.toNat = 0x5d0 then some (0, none) else none
  | .ya true, c => if c.toNat = 0x1a17 then some (0, some .signYa) else none
  | .signYa, c => if c.toNat = 0x1a15 then some (0, none) else none
  | .consonant joined, c =>
      if c.toNat = 0x2d7f then some (1, some .joinedConsonant)
      else if joined && isTifinagh c then some (0, none)
      else none
  | .joinedConsonant, c => if isTifinagh c then some (-1, none) else none
  | .tone, c => if inRanges [(0xa4f8, 0xa4fb)] c then some (0, none) else none
  | .orkhon true, c => if c.toNat = 0x10c32 then some (0, none) else none
  | .subscript, c => if c.toNat = 0x17d2 then some (-1, none) else none
  | _, _ => none

/-- A ligature with a character before it that does not part its letters: a
joiner, or a mark that is ignored. -/
def absorb? (l : Ligature) (c : Char) : Option Ligature :=
  if c.toNat = joiner then some l.withJoiner
  else if isIgnorableMark c then some l
  else none

end Ligature

end ClusterUtility.Text
