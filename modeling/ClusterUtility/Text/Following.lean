/-
What a character is followed by, as far as its width hangs on it.

A text is read from its end to its beginning. Each character is given its
columns by what has been read already, and becomes part of it. Two things are
known of what follows: the ligature or the picture that it begins with, if it
begins with one, and the selectors before that which still wait for the
character they belong to.
-/
import ClusterUtility.Text.Ligature

namespace ClusterUtility.Text

-- ============================================================ contexts

/-- What the text that has been read begins with. -/
inductive Context where
  /-- Nothing that a character joins. -/
  | plain
  /-- An Arabic letter alef, which lam joins. -/
  | alef
  /-- A part of a ligature. -/
  | ligature (l : Ligature)
  /-- The vowel sign e of Kirat Rai. -/
  | signE
  /-- The vowel sign ai of Kirat Rai. -/
  | signAi
  /-- A picture. -/
  | picture
  /-- A tone of skin. -/
  | skinTone
  /-- One letter of a flag. -/
  | flagLetter
  /-- Several letters of flags. -/
  | flagLetters
  /-- A joiner before a picture. -/
  | joined
  /-- A key cap before a joiner and a picture. -/
  | joinedKeycap
  /-- One letter of a flag before a joiner and a picture. -/
  | joinedFlagLetter
  /-- An even or odd number of such letters, at least two. -/
  | joinedFlagLetters (even : Bool)
  /-- The tag that ends a sequence of tags, and a number of tag letters before
  it. -/
  | tagLetters (n : Nat)
  /-- A number of tag digits before those. -/
  | tagDigits (n : Nat)
  deriving DecidableEq

namespace Context

/-- What a character begins that nothing after it joins. -/
def ofChar (c : Char) : Context :=
  match Ligature.ofChar? c with
  | some l => .ligature l
  | none =>
      if isAlef c then .alef
      else if c.toNat = 0x16d67 then .signE
      else if c.toNat = 0x16d68 then .signAi
      else if isFlagLetter c then .flagLetter
      else if isSkinTone c then .skinTone
      else if isPicture c then .picture
      else .plain

/-- A character that joins what follows: the columns it adds, and what the
text begins with then. -/
def join? : Context → Char → Option (Int × Context)
  | .alef, c =>
      if isLam c then some (0, .plain)
      else if isMark c then some (0, .alef)
      else none
  | .ligature l, c =>
      (l.join? c).map fun (n, rest) => (n, rest.elim .plain .ligature)
  | .signE, c =>
      if c.toNat = 0x16d67 then some (0, .signAi)
      else if c.toNat = 0x16d68 then some (1, .signE)
      else if c.toNat = 0x16d63 || c.toNat = 0x16d69 then some (0, .plain)
      else none
  | .signAi, c => if c.toNat = 0x16d63 then some (0, .plain) else none
  | .picture, c => if c.toNat = joiner then some (0, .joined) else none
  | .skinTone, c =>
      if showsSkin c then some (0, .picture)
      else if c.toNat = joiner then some (0, .joined)
      else none
  | .flagLetter, c => if isFlagLetter c then some (1, .flagLetters) else none
  | .flagLetters, c =>
      if isFlagLetter c then some (1, .flagLetters)
      else if c.toNat = joiner then some (0, .joined)
      else none
  | .joined, c =>
      if c.toNat = 0x20e3 then some (0, .joinedKeycap)
      else if isFlagLetter c then some (1, .joinedFlagLetter)
      else if isSkinTone c then some (0, .skinTone)
      else if c.toNat = endTag then some (0, .tagLetters 0)
      else if isPicture c then some (0, .picture)
      else none
  | .joinedFlagLetter, c =>
      if isFlagLetter c then some (-1, .joinedFlagLetters true) else none
  | .joinedFlagLetters even, c =>
      if isFlagLetter c then some (if even then 3 else -1,
        .joinedFlagLetters !even)
      else if c.toNat = joiner then some (0, .joined)
      else none
  | .tagLetters n, c =>
      if isTagLetter c && n < 6 then some (0, .tagLetters (n + 1))
      else if isTagDigit c && n < 5 then some (0, .tagDigits 1)
      else if c.toNat = blackFlag && 3 ≤ n then some (0, .picture)
      else none
  | .tagDigits n, c =>
      if isTagDigit c && n < 3 then some (0, .tagDigits (n + 1))
      else if c.toNat = blackFlag && n = 3 then some (0, .picture)
      else none
  | .plain, _ | .joinedKeycap, _ => none

/-- Whether what follows can be joined across a selector. -/
def outlastsSelectors : Context → Bool
  | .alef | .ligature _ => true
  | _ => false

/-- Whether a picture made by the emoji selector is one with the picture that
follows. -/
def holdsPicture : Context → Bool
  | .joined | .joinedKeycap => true
  | _ => false

/-- What is left where a selector before it has found no character. -/
def afterSelector (context : Context) : Context :=
  if context.outlastsSelectors then context else .plain

end Context

-- ======================================================== what follows

/-- What a character is followed by: what the text begins with, and the
selectors before it: of a picture, of text, of a wide quotation mark. -/
structure Following where
  context : Context
  picture : Bool
  text : Bool
  wide : Bool
  deriving DecidableEq

namespace Following

/-- What follows, without selectors. -/
def of (context : Context) : Following := ⟨context, false, false, false⟩

/-- The emoji selector before what follows. It leaves standing what holds a
picture, too. -/
def selectPicture (f : Following) : Following :=
  if f.context.outlastsSelectors then { f with picture := true }
  else ⟨if f.context.holdsPicture then f.context else .plain,
    true, false, false⟩

/-- The text selector before what follows. -/
def selectText (f : Following) : Following :=
  if f.context.outlastsSelectors then { f with text := true }
  else ⟨.plain, false, true, false⟩

/-- The second selector of a variant before what follows. -/
def selectWide (f : Following) : Following :=
  if f.context.outlastsSelectors then { f with wide := true }
  else ⟨.plain, false, false, true⟩

/-- What follows once the emoji selector has found no character. -/
def dropPicture (f : Following) : Following :=
  if f.picture then { f with
      context := f.context.afterSelector, picture := false } else f

/-- What follows once the text selector has found no character. -/
def dropText (f : Following) : Following :=
  if f.text then { f with context := f.context.afterSelector, text := false }
  else f

/-- What follows once the selector of a wide mark has found no character. A
text selector hides it. -/
def dropWide (f : Following) : Following :=
  if f.wide && !f.text then { f with
      context := f.context.afterSelector, wide := false } else f

end Following

/-- The quotation marks that can be wide. -/
def isQuotationMark (c : Char) : Bool :=
  inRanges [(0x2018, 0x2019), (0x201c, 0x201d)] c

namespace Following

/-- A character before what follows, once no selector waits for it: the
columns it adds, and what is followed then. -/
def beforeJoinable (f : Following) (c : Char) : Int × Following :=
  let alone : Int × Following := (columns c, of (.ofChar c))
  let joined : Int × Following :=
    if f.wide then alone
    else ((f.context.join? c).map fun (n, context) =>
      (n, of context)).getD alone
  match f.context with
  | .ligature l =>
      ((l.absorb? c).map fun l => (0, { f with context := .ligature l })).getD
        joined
  | _ => joined

/-- A character before what follows that the emoji selector does not make a
picture of. Up to the no-break space, nothing joins. -/
def beforeSelected (f : Following) (c : Char) : Int × Following :=
  if c.toNat ≤ 0xa0 then (1, of .plain)
  else if c.toNat = 0xfe0f then (0, f.selectPicture)
  else if c.toNat = 0xfe0e then (0, f.selectText)
  else if c.toNat = 0xfe01 then (0, f.selectWide)
  else if f.wide && !f.text && isQuotationMark c then (2, of .plain)
  else if f.text && becomesText c then (1, of .plain)
  else f.dropWide.dropText.beforeJoinable c

/-- A character before what follows: the columns it adds, and what is followed
then. -/
def before (f : Following) (c : Char) : Int × Following :=
  if f.picture && becomesPicture c then
    (if f.context.holdsPicture then 0 else 2, of .picture)
  else f.dropPicture.beforeSelected c

end Following

end ClusterUtility.Text
