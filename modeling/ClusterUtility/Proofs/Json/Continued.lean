/-
Reading a value does not look beyond the value.

A reader takes a part off the front of a text. What comes after the part is
left over as it is, whatever it is (`Continues`): the part ends where it ends.
Only a number might go on in what follows it, so it matters that what follows
is no more of a number (`EndsNumber`).

A value has brackets inside brackets, and the room for them is given to its
reader, as is a bound on the parts. So a value is read alike with less room, if
its own depth keeps to it, and with a greater bound; the induction is on the
bound, and follows the value into its parts (`value?_append`).

# Values inside texts

Hence the text of a value may stand inside the text of another one, where there
is room for one bracket more (`parseWhole?_member`).
-/
import ClusterUtility.Json.Reader

namespace ClusterUtility.Json

variable {α : Type} {after : List Char}

/-- What is read from a text is read from the text with more after it too, and
that is left over. -/
def Continues (after : List Char) (read : Reader α) : Prop :=
  ∀ ⦃text a rest⦄, read text = some (a, rest) →
    read (text ++ after) = some (a, rest ++ after)

/-- A text that cannot be taken for more of a number before it. -/
def EndsNumber (after : List Char) : Prop :=
  ∀ c ∈ after.head?, c.isDigit = false ∧ c ≠ '.' ∧ c ≠ 'e' ∧ c ≠ 'E'

-- ==================================================== blanks and words

/-- Blanks before something are skipped alike whatever comes after it. -/
theorem skipBlanks_append {text : List Char} (h : skipBlanks text ≠ [])
    (after : List Char) :
    skipBlanks (text ++ after) = skipBlanks text ++ after := by
  unfold skipBlanks at h ⊢
  rw [List.dropWhile_append, if_neg (by simpa using h)]

/-- Blanks before a sign are skipped, and the sign is found whatever comes
after it. -/
private theorem skipBlanks_append_of_cons {text left : List Char} {c : Char}
    (h : skipBlanks text = c :: left) (after : List Char) :
    skipBlanks (text ++ after) = c :: (left ++ after) := by
  rw [skipBlanks_append (by simp [h]), h, List.cons_append]

/-- A word is read alike whatever comes after it. -/
private theorem expect?_append {word text rest : List Char}
    (h : expect? word text = some rest) (after : List Char) :
    expect? word (text ++ after) = some (rest ++ after) := by
  induction word generalizing text with
  | nil =>
      obtain rfl : text = rest := Option.some.inj h
      rfl
  | cons c word ih =>
      cases text with
      | nil => cases h
      | cons d text =>
          rw [expect?] at h
          rw [List.cons_append, expect?]
          split at h
          next heq => rw [if_pos heq, ih h]
          next => cases h

-- ====================================================== strings

/-- A backslash and a letter other than `u` stand for one code. -/
private theorem codes?_escape {c : Char} (h : c ≠ 'u') (rest : List Char) :
    codes? ('\\' :: c :: rest)
      = (escaped? c).bind fun e => (codes? rest).bind fun r =>
        some (e.toNat :: r.1, r.2) := by
  rw [codes?]
  · rfl
  · exact fun _ _ _ _ _ hc _ => h hc

/-- Any other sign of a string stands for itself, if it is not a control. -/
private theorem codes?_plain {c : Char} (hquote : c ≠ '"') (hescape : c ≠ '\\')
    (rest : List Char) :
    codes? (c :: rest)
      = if c.toNat < 0x20 then none
        else (codes? rest).bind fun r => some (c.toNat :: r.1, r.2) := by
  rw [codes?]
  · rfl
  · exact hquote
  · exact fun _ _ _ _ _ hc _ => hescape hc
  · exact fun _ _ hc _ => hescape hc

/-- The codes of a string are read up to its quote, whatever comes after it. -/
private theorem continues_codes? (after : List Char) :
    Continues after codes? := by
  intro text codes rest h
  fun_induction codes? text generalizing codes with
  | case1 => cases h
  | case2 text =>
      obtain ⟨rfl, rfl⟩ : [] = codes ∧ text = rest := by simpa using h
      rfl
  | case3 a b c d text ih =>
      obtain ⟨code, hcode, h⟩ := Option.bind_eq_some_iff.mp h
      obtain ⟨⟨more, left⟩, hmore, h⟩ := Option.bind_eq_some_iff.mp h
      obtain ⟨rfl, rfl⟩ : code :: more = codes ∧ left = rest := by
        simpa using h
      show codes? ('\\' :: 'u' :: a :: b :: c :: d :: (text ++ after)) = _
      rw [codes?, hcode, ih hmore]
      rfl
  | case4 c text hshort ih =>
      obtain ⟨e, he, h⟩ := Option.bind_eq_some_iff.mp h
      obtain ⟨⟨more, left⟩, hmore, h⟩ := Option.bind_eq_some_iff.mp h
      obtain ⟨rfl, rfl⟩ : e.toNat :: more = codes ∧ left = rest := by
        simpa using h
      -- a `u` without four digits after it stands for nothing
      have hc : c ≠ 'u' := by
        rintro rfl
        cases he
      show codes? ('\\' :: c :: (text ++ after)) = _
      rw [codes?_escape hc, he, ih hmore]
      rfl
  | case5 => cases h
  | case6 c text hquote hdigits hescape hraw ih =>
      obtain ⟨⟨more, left⟩, hmore, h⟩ := Option.bind_eq_some_iff.mp h
      obtain ⟨rfl, rfl⟩ : c.toNat :: more = codes ∧ left = rest := by
        simpa using h
      have hc : c ≠ '\\' := by
        cases text with
        | nil => cases hmore
        | cons d text =>
            intro hc
            exact hescape d text hc rfl
      show codes? (c :: (text ++ after)) = _
      rw [codes?_plain hquote hc, if_neg hraw, ih hmore]
      rfl

/-- So is the text that the codes stand for. -/
private theorem continues_stringBody? (after : List Char) :
    Continues after stringBody? := by
  intro text body rest h
  obtain ⟨⟨codes, left⟩, hcodes, h⟩ := Option.bind_eq_some_iff.mp h
  obtain ⟨rfl, rfl⟩ : _ = body ∧ left = rest := by simpa using h
  unfold stringBody?
  rw [continues_codes? after hcodes]
  rfl

-- ====================================================== numbers

/-- Where there is no point, there is no fraction. -/
private theorem fraction?_of_head {text : List Char}
    (h : ∀ c ∈ text.head?, c ≠ '.') : fraction? text = some (none, text) := by
  unfold fraction?
  split
  next => exact absurd rfl (h '.' rfl)
  next => rfl

/-- The digits of an exponent, after its sign. -/
def exponentDigits? (negative : Bool) :
    Reader (Option (Bool × List Char)) := fun text =>
  if (digits text).1.isEmpty then none
  else some (some (negative, (digits text).1), (digits text).2)

/-- What follows the letter of an exponent is its sign, or else its digits. -/
theorem exponent?_letter {d : Char} (hd : d = 'e' ∨ d = 'E') (s : Char)
    (text : List Char) :
    exponent? (d :: s :: text)
      = if s = '-' then exponentDigits? true text
        else if s = '+' then exponentDigits? false text
        else exponentDigits? false (s :: text) := by
  by_cases hminus : s = '-'
  · subst hminus
    exact if_pos hd
  · by_cases hplus : s = '+'
    · subst hplus
      exact if_pos hd
    · rw [if_neg hminus, if_neg hplus, exponent?, if_pos hd]
      · rfl
      · exact fun _ heq => hminus (List.cons.inj heq).1
      · exact fun _ heq => hplus (List.cons.inj heq).1

/-- The parts of a number, after its sign. -/
def unsignedText? (negative : Bool) : Reader NumberText := fun text => do
  let (whole, text) ← wholePart? text
  let (fraction, text) ← fraction? text
  let (exponent, text) ← exponent? text
  some (⟨negative, whole, fraction, exponent⟩, text)

/-- A number without a sign is its parts. -/
private theorem numberText?_unsigned {d : Char} (hd : d ≠ '-')
    (text : List Char) :
    numberText? (d :: text) = unsignedText? false (d :: text) := by
  unfold numberText?
  split
  next negative left hsign =>
    split at hsign
    next heq => exact absurd (List.cons.inj heq).1 hd
    next =>
      obtain ⟨rfl, rfl⟩ := Prod.mk.inj hsign
      rfl

section number

variable (hafter : EndsNumber after)
include hafter

/-- A run of digits ends before what follows the number. -/
theorem digits_append (text : List Char) :
    digits (text ++ after) = ((digits text).1, (digits text).2 ++ after) := by
  have hends : after.takeWhile Char.isDigit = [] ∧
      after.dropWhile Char.isDigit = after := by
    cases after with
    | nil => exact ⟨rfl, rfl⟩
    | cons c others =>
        have hc : c.isDigit = false := (hafter c rfl).1
        simp [hc]
  unfold digits
  induction text with
  | nil =>
      rw [List.nil_append, hends.1, hends.2]
      rfl
  | cons c rest ih =>
      obtain ⟨htake, hdrop⟩ := Prod.mk.inj ih
      cases hc : c.isDigit with
      | true => simp [hc, htake, hdrop]
      | false => simp [hc]

/-- So does a run of digits of which there has to be one. -/
theorem digits_append_of_some {β : Type} {f : List Char → β}
    {text rest : List Char} {b : β}
    (h : (if (digits text).1.isEmpty then none
      else some (f (digits text).1, (digits text).2))
      = some (b, rest)) :
    (if (digits (text ++ after)).1.isEmpty then none
      else some (f (digits (text ++ after)).1, (digits (text ++ after)).2))
      = some (b, rest ++ after) := by
  rw [digits_append hafter]
  split at h
  next => cases h
  next hrun =>
    obtain ⟨rfl, rfl⟩ := Prod.mk.inj (Option.some.inj h)
    exact if_neg hrun

/-- The whole part of a number is a zero or a run of digits, and no digit
follows either. -/
private theorem continues_wholePart? : Continues after wholePart? := by
  intro text whole rest h
  cases text with
  | nil => cases h
  | cons d text =>
      by_cases hd : d = '0'
      · subst hd
        cases text with
        | nil =>
            obtain ⟨rfl, rfl⟩ := Prod.mk.inj (Option.some.inj h)
            cases after with
            | nil => rfl
            | cons c others => exact if_neg (by simp [(hafter c rfl).1])
        | cons c text =>
            have h : (if c.isDigit = true then none
                else some (['0'], c :: text)) = some (whole, rest) := h
            split at h
            next => cases h
            next hc =>
              obtain ⟨rfl, rfl⟩ := Prod.mk.inj (Option.some.inj h)
              exact if_neg hc
      · have hwhole (text : List Char) : wholePart? (d :: text)
            = if (digits (d :: text)).1.isEmpty then none
              else some ((digits (d :: text)).1, (digits (d :: text)).2) := by
          rw [wholePart?]
          exact fun _ heq => hd (List.cons.inj heq).1
        rw [hwhole] at h
        rw [List.cons_append, hwhole]
        exact digits_append_of_some hafter (f := id) h

/-- The fraction of a number ends with its digits, and no point follows where
it has none. -/
private theorem continues_fraction? : Continues after fraction? := by
  intro text fraction rest h
  by_cases hpoint : ∀ c ∈ text.head?, c ≠ '.'
  · rw [fraction?_of_head hpoint] at h
    obtain ⟨rfl, rfl⟩ := Prod.mk.inj (Option.some.inj h)
    refine fraction?_of_head fun c hc => ?_
    cases text with
    | nil => exact (hafter c hc).2.1
    | cons d text => exact hpoint c hc
  · cases text with
    | nil =>
        have hnone : ∀ c ∈ ([] : List Char).head?, c ≠ '.' := by
          intro c hc
          cases hc
        exact absurd hnone hpoint
    | cons d text =>
        obtain rfl : d = '.' := by simpa using hpoint
        exact digits_append_of_some hafter (f := some) h

/-- The digits of an exponent end before what follows the number. -/
private theorem continues_exponentDigits? (negative : Bool) :
    Continues after (exponentDigits? negative) := by
  intro text exponent rest h
  exact digits_append_of_some (f := fun run => some (negative, run)) hafter h

/-- The exponent of a number ends with its digits, and none of its letters
follows where it has none. -/
private theorem continues_exponent? : Continues after exponent? := by
  intro text exponent rest h
  cases text with
  | nil =>
      obtain ⟨rfl, rfl⟩ := Prod.mk.inj (Option.some.inj h)
      cases after with
      | nil => rfl
      | cons c others =>
          obtain ⟨-, -, he, hE⟩ := hafter c rfl
          exact if_neg (by simp [he, hE])
  | cons d text =>
      by_cases hd : d = 'e' ∨ d = 'E'
      · cases text with
        | nil =>
            have hnone : exponent? [d] = none := if_pos hd
            rw [hnone] at h
            cases h
        | cons s text =>
            rw [exponent?_letter hd] at h
            rw [List.cons_append, List.cons_append, exponent?_letter hd]
            split at h
            next hminus =>
              rw [if_pos hminus]
              exact continues_exponentDigits? hafter true h
            next hminus =>
              rw [if_neg hminus]
              split at h
              next hplus =>
                rw [if_pos hplus]
                exact continues_exponentDigits? hafter false h
              next hplus =>
                rw [if_neg hplus]
                exact continues_exponentDigits? hafter false h
      · have hnone (text : List Char) : exponent? (d :: text)
            = some (none, d :: text) := if_neg hd
        rw [hnone] at h
        obtain ⟨rfl, rfl⟩ := Prod.mk.inj (Option.some.inj h)
        exact hnone _

/-- So do the parts of a number together. -/
private theorem continues_unsignedText? (negative : Bool) :
    Continues after (unsignedText? negative) := by
  intro text parts rest h
  obtain ⟨⟨whole, left⟩, hwhole, h⟩ := Option.bind_eq_some_iff.mp h
  obtain ⟨⟨fraction, left⟩, hfraction, h⟩ := Option.bind_eq_some_iff.mp h
  obtain ⟨⟨exponent, left⟩, hexponent, h⟩ := Option.bind_eq_some_iff.mp h
  obtain ⟨rfl, rfl⟩ : _ = parts ∧ left = rest := by simpa using h
  unfold unsignedText?
  rw [continues_wholePart? hafter hwhole]
  show (fraction? _ >>= _) = _
  rw [continues_fraction? hafter hfraction]
  show (exponent? _ >>= _) = _
  rw [continues_exponent? hafter hexponent]
  rfl

/-- So does a number with its sign. -/
private theorem continues_numberText? : Continues after numberText? := by
  intro text parts rest h
  cases text with
  | nil => cases h
  | cons d text =>
      by_cases hd : d = '-'
      · subst hd
        exact continues_unsignedText? hafter true h
      · rw [numberText?_unsigned hd] at h
        rw [List.cons_append, numberText?_unsigned hd]
        exact continues_unsignedText? hafter false h

/-- So does the value of a number. -/
private theorem continues_number? : Continues after number? := by
  intro text value rest h
  obtain ⟨⟨parts, left⟩, hparts, h⟩ := Option.bind_eq_some_iff.mp h
  obtain ⟨rfl, rfl⟩ : _ = value ∧ left = rest := by simpa using h
  unfold number?
  rw [continues_numberText? hafter hparts]
  rfl

end number

-- ============================================= values without brackets

/-- A word for a value ends with its last letter. -/
private theorem continues_word (after word : List Char) (j : Json) :
    Continues after fun text => (expect? word text).map fun rest =>
      (j, rest) := by
  intro text value rest h
  obtain ⟨left, hleft, h⟩ := Option.map_eq_some_iff.mp h
  obtain ⟨rfl, rfl⟩ := Prod.mk.inj h
  show (expect? word (text ++ after)).map _ = _
  rw [expect?_append hleft]
  rfl

/-- A string ends with its quote. -/
private theorem continues_string (after : List Char) :
    Continues after fun text => (stringBody? text).map fun (s, rest) =>
      ((s.map Json.str).getD .unreadable, rest) := by
  intro text value rest h
  obtain ⟨⟨body, left⟩, hbody, h⟩ := Option.map_eq_some_iff.mp h
  obtain ⟨rfl, rfl⟩ := Prod.mk.inj h
  show (stringBody? (text ++ after)).map _ = _
  rw [continues_stringBody? after hbody]
  rfl

/-- What begins with neither a word nor a quote is a number. -/
theorem scalar?_number {c : Char} (hnull : c ≠ 'n') (htrue : c ≠ 't')
    (hfalse : c ≠ 'f') (hquote : c ≠ '"') (text : List Char) :
    scalar? (c :: text) = number? (c :: text) := by
  unfold scalar?
  split
  next heq => exact absurd (List.cons.inj heq).1 hnull
  next heq => exact absurd (List.cons.inj heq).1 htrue
  next heq => exact absurd (List.cons.inj heq).1 hfalse
  next heq => exact absurd (List.cons.inj heq).1 hquote
  next => rfl

/-- A value without brackets is read alike with more after it. -/
private theorem continues_scalar? (hafter : EndsNumber after) :
    Continues after scalar? := by
  intro text j rest h
  cases text with
  | nil => cases h
  | cons c text =>
      by_cases hnull : c = 'n'
      · subst hnull
        exact continues_word after ['n', 'u', 'l', 'l'] .null h
      by_cases htrue : c = 't'
      · subst htrue
        exact continues_word after ['t', 'r', 'u', 'e'] (.bool true) h
      by_cases hfalse : c = 'f'
      · subst hfalse
        exact continues_word after ['f', 'a', 'l', 's', 'e'] (.bool false) h
      by_cases hquote : c = '"'
      · subst hquote
        exact continues_string after h
      rw [scalar?_number hnull htrue hfalse hquote] at h
      rw [List.cons_append, scalar?_number hnull htrue hfalse hquote]
      exact continues_number? hafter h

-- ==================================================== between brackets

/-- After a comma there is one more part. -/
private theorem more?_comma {close : Char} {part : Reader α}
    {text rest : List Char} (h : skipBlanks text = ',' :: rest) (fuel : Nat) :
    more? close part (fuel + 1) text
      = (part (skipBlanks rest)).bind fun r =>
          (more? close part fuel r.2).bind fun r' =>
            some (r.1 :: r'.1, r'.2) := by
  rw [more?, h]
  rfl

/-- After any other sign there is none, and the sign is the closing bracket. -/
private theorem more?_close {close c : Char} {part : Reader α}
    {text rest : List Char} (h : skipBlanks text = c :: rest) (hc : c ≠ ',')
    (fuel : Nat) :
    more? close part (fuel + 1) text
      = if c = close then some ([], rest) else none := by
  rw [more?, h]
  split
  next heq => exact absurd (List.cons.inj heq).1 hc
  next heq =>
    obtain ⟨rfl, rfl⟩ := List.cons.inj heq
    rfl
  next heq => cases heq

/-- A single part between brackets. -/
theorem bracketed?_one {close c : Char} {part : Reader α}
    {text left rest : List Char} {a : α} (hblank : isBlank c = false)
    (hc : c ≠ close) (hclose : close ≠ ',')
    (hpart : part (c :: text) = some (a, left))
    (hleft : skipBlanks left = close :: rest) :
    bracketed? close part (c :: text) = some ([a], rest) := by
  have hfirst : skipBlanks (c :: text) = c :: text :=
    List.dropWhile_cons_of_neg (by simp [hblank])
  obtain ⟨fuel, hfuel⟩ : ∃ n, left.length = n + 1 := by
    cases left with
    | nil => cases hleft
    | cons d left => exact ⟨left.length, rfl⟩
  rw [bracketed?, hfirst]
  dsimp only
  rw [if_neg hc, hpart]
  show (more? close part left.length left).bind _ = _
  rw [hfuel, more?_close hleft hclose, if_pos rfl]
  rfl

section parts

variable {part part' : Reader α} {Fine : α → Prop} {close : Char}
  (hpart : ∀ ⦃text a rest⦄, part text = some (a, rest) → Fine a →
    part' (text ++ after) = some (a, rest ++ after))
  (hempty : part [] = none)
include hpart hempty

/-- A part is read alike where blanks stand before it. -/
private theorem part_skipBlanks {text : List Char} {a : α} {rest : List Char}
    (h : part (skipBlanks text) = some (a, rest)) (ha : Fine a) :
    part' (skipBlanks (text ++ after)) = some (a, rest ++ after) := by
  have htext : skipBlanks text ≠ [] := by
    intro hnil
    rw [hnil, hempty] at h
    cases h
  rw [skipBlanks_append htext]
  exact hpart h ha

/-- The parts after the first one are read alike, with any bound that is no
smaller. The induction is on the bound, which goes down with each part. -/
private theorem more?_append {fuel fuel' : Nat} (hfuel : fuel ≤ fuel')
    {text rest : List Char} {parts : List α}
    (h : more? close part fuel text = some (parts, rest))
    (hfine : ∀ a ∈ parts, Fine a) :
    more? close part' fuel' (text ++ after) = some (parts, rest ++ after) := by
  induction fuel generalizing fuel' text parts with
  | zero => cases h
  | succ fuel ih =>
      obtain ⟨fuel', rfl⟩ : ∃ n, fuel' = n + 1 := ⟨fuel' - 1, by omega⟩
      cases htext : skipBlanks text with
      | nil =>
          rw [more?, htext] at h
          cases h
      | cons c left =>
          have hlonger := skipBlanks_append_of_cons htext after
          by_cases hc : c = ','
          · subst hc
            rw [more?_comma htext] at h
            obtain ⟨⟨first, left'⟩, hfirst, h⟩ := Option.bind_eq_some_iff.mp h
            obtain ⟨⟨others, left''⟩, hothers, h⟩ :=
              Option.bind_eq_some_iff.mp h
            obtain ⟨rfl, rfl⟩ : first :: others = parts ∧ left'' = rest := by
              simpa using h
            rw [more?_comma hlonger,
              part_skipBlanks hpart hempty hfirst
                (hfine first (List.mem_cons_self ..))]
            show (more? close part' fuel' (left' ++ after)).bind _ = _
            rw [ih (by omega) hothers fun a ha =>
              hfine a (List.mem_cons_of_mem _ ha)]
            rfl
          · rw [more?_close htext hc] at h
            rw [more?_close hlonger hc]
            split at h
            next hclose =>
              obtain ⟨rfl, rfl⟩ : [] = parts ∧ left = rest := by simpa using h
              exact if_pos hclose
            next => cases h

/-- The parts between brackets are read alike, if each of them is. -/
private theorem bracketed?_append {text rest : List Char} {parts : List α}
    (h : bracketed? close part text = some (parts, rest))
    (hfine : ∀ a ∈ parts, Fine a) :
    bracketed? close part' (text ++ after) = some (parts, rest ++ after) := by
  cases htext : skipBlanks text with
  | nil =>
      rw [bracketed?, htext] at h
      cases h
  | cons c left =>
      rw [bracketed?, htext] at h
      rw [bracketed?, skipBlanks_append_of_cons htext]
      dsimp only at h ⊢
      split at h
      next hclose =>
        obtain ⟨rfl, rfl⟩ : [] = parts ∧ left = rest := by simpa using h
        exact if_pos hclose
      next hclose =>
        rw [if_neg hclose]
        obtain ⟨⟨first, left'⟩, hfirst, h⟩ := Option.bind_eq_some_iff.mp h
        obtain ⟨⟨others, left''⟩, hothers, h⟩ := Option.bind_eq_some_iff.mp h
        obtain ⟨rfl, rfl⟩ : first :: others = parts ∧ left'' = rest := by
          simpa using h
        have hlength : left'.length ≤ (left' ++ after).length := by simp
        rw [← List.cons_append,
          hpart hfirst (hfine first (List.mem_cons_self ..))]
        show (more? close part' (left' ++ after).length (left' ++ after)).bind
            _ = _
        rw [more?_append hpart hempty hlength hothers
          fun a ha => hfine a (List.mem_cons_of_mem _ ha)]
        rfl

end parts

-- ====================================================== members

/-- A member is its name, a colon and its value. -/
private theorem member?_colon {text left rest : List Char}
    {name : Option String} (hname : stringBody? text = some (name, left))
    (hcolon : skipBlanks left = ':' :: rest)
    (value : Reader Json) :
    member? value ('"' :: text)
      = (value (skipBlanks rest)).bind fun r => some ((name, r.1), r.2) := by
  show (stringBody? text).bind _ = _
  rw [hname]
  dsimp only [Option.bind]
  rw [hcolon]
  rfl

/-- A member is read alike, if its value is. -/
private theorem member?_append {value value' : Reader Json}
    {Fine : Json → Prop}
    (hvalue : ∀ ⦃text j rest⦄, value text = some (j, rest) → Fine j →
      value' (text ++ after) = some (j, rest ++ after))
    (hempty : value [] = none) ⦃text : List Char⦄
    ⦃member : Option String × Json⦄ ⦃rest : List Char⦄
    (h : member? value text = some (member, rest))
    (hfine : Fine member.2) :
    member? value' (text ++ after) = some (member, rest ++ after) := by
  unfold member? at h
  split at h
  next text =>
    obtain ⟨⟨name, left⟩, hname, h⟩ := Option.bind_eq_some_iff.mp h
    dsimp only at h
    split at h
    next left' hcolon =>
      obtain ⟨⟨j, left''⟩, hj, h⟩ := Option.bind_eq_some_iff.mp h
      obtain ⟨rfl, rfl⟩ : (name, j) = member ∧ left'' = rest := by
        simpa using h
      have hname' := continues_stringBody? after hname
      have hcolon' := skipBlanks_append_of_cons hcolon after
      rw [List.cons_append, member?_colon hname' hcolon',
        part_skipBlanks hvalue hempty hj hfine]
      rfl
    next => cases h
  next => cases h

/-- An object that can be read has a name for each of its members. -/
theorem ofNamed_whole {members : List (Option String × Json)}
    (h : (ofNamed members).isWhole = true) :
    ∃ named, ofNamed members = .obj named ∧
      named.map Prod.snd = members.map Prod.snd := by
  unfold ofNamed at h ⊢
  split at h
  next named hnamed =>
    refine ⟨named, rfl, ?_⟩
    clear h
    induction members generalizing named with
    | nil =>
        obtain rfl : [] = named := by simpa using hnamed
        rfl
    | cons member members ih =>
        rw [List.mapM_cons] at hnamed
        obtain ⟨first, hfirst, hnamed⟩ := Option.bind_eq_some_iff.mp hnamed
        obtain ⟨others, hothers, hnamed⟩ := Option.bind_eq_some_iff.mp hnamed
        obtain rfl : first :: others = named := by simpa using hnamed
        obtain ⟨name, -, rfl⟩ := Option.map_eq_some_iff.mp hfirst
        rw [List.map_cons, List.map_cons, ih _ hothers]
  next => cases h

-- ====================================================== values

/-- A value that can be read and is no deeper than a bound. -/
def FitsIn (depth : Nat) (j : Json) : Prop :=
  j.isWhole = true ∧ j.depth ≤ depth

/-- An item fits in the bound that the items keep to. -/
private theorem fitsIn_of_mem {depth : Nat} {items : List Json}
    (hwhole : itemsAreWhole items = true) (hdepth : depthOfItems items ≤ depth)
    {j : Json} (hj : j ∈ items) : FitsIn depth j := by
  induction items with
  | nil => cases hj
  | cons item rest ih =>
      rw [itemsAreWhole, Bool.and_eq_true] at hwhole
      rw [depthOfItems, Nat.max_le] at hdepth
      cases hj with
      | head => exact ⟨hwhole.1, hdepth.1⟩
      | tail _ hj => exact ih hwhole.2 hdepth.2 hj

/-- The parts between brackets fit in what the brackets leave of the bound. -/
theorem FitsIn.items {depth : Nat} {items : List Json}
    (h : FitsIn depth (.arr items)) :
    depth ≠ 0 ∧ ∀ j ∈ items, FitsIn (depth - 1) j := by
  obtain ⟨hwhole, hdepth⟩ := h
  rw [Json.depth] at hdepth
  exact ⟨by omega, fun j hj => fitsIn_of_mem hwhole (by omega) hj⟩

/-- Members can be read where their values can. -/
private theorem membersAreWhole_eq (members : List (String × Json)) :
    membersAreWhole members = itemsAreWhole (members.map Prod.snd) := by
  induction members with
  | nil => rfl
  | cons member rest ih =>
      rw [membersAreWhole, ih]
      rfl

/-- Members are as deep as their values. -/
private theorem depthOfMembers_eq (members : List (String × Json)) :
    depthOfMembers members = depthOfItems (members.map Prod.snd) := by
  induction members with
  | nil => rfl
  | cons member rest ih =>
      rw [depthOfMembers, ih]
      rfl

/-- The values of the members of an object fit in what its brackets leave of
the bound. -/
private theorem FitsIn.named {depth : Nat}
    {members : List (Option String × Json)}
    (h : FitsIn depth (ofNamed members)) :
    depth ≠ 0 ∧ ∀ member ∈ members, FitsIn (depth - 1) member.2 := by
  obtain ⟨named, hnamed, hvalues⟩ := ofNamed_whole h.1
  have harr : FitsIn depth (.arr (named.map Prod.snd)) := by
    rw [hnamed] at h
    obtain ⟨hwhole, hdepth⟩ := h
    rw [isWhole, membersAreWhole_eq] at hwhole
    rw [Json.depth, depthOfMembers_eq] at hdepth
    exact ⟨hwhole, hdepth⟩
  rw [hvalues] at harr
  exact ⟨harr.items.1,
    fun member hmem => harr.items.2 _ (List.mem_map_of_mem hmem)⟩

/-- What is left unread when there is no room for its brackets can not be
read. -/
theorem FitsIn.ite {depth room : Nat} {j : Json}
    (h : FitsIn depth (if room = 0 then .unreadable else j)) :
    room ≠ 0 ∧ FitsIn depth j := by
  split at h
  next => cases h.1
  next hroom => exact ⟨hroom, h⟩

private theorem value?_nil (fuel depth : Nat) :
    value? fuel depth [] = none := by
  cases fuel <;> rfl

/-- What begins with no bracket is read alike whatever the bounds. -/
theorem value?_scalar {c : Char} (harr : c ≠ '[') (hobj : c ≠ '\x7b')
    (fuel depth : Nat) (text : List Char) :
    value? (fuel + 1) depth (c :: text) = scalar? (c :: text) := by
  unfold value?
  dsimp only
  split
  next heq => exact absurd (List.cons.inj heq).1 harr
  next heq => exact absurd (List.cons.inj heq).1 hobj
  next => rfl

/-- A value is read alike with more after it, with any bounds that it keeps
to. -/
theorem value?_append (hafter : EndsNumber after)
    {fuel fuel' depth depth' : Nat} (hfuel : fuel ≤ fuel')
    ⦃text : List Char⦄ ⦃j : Json⦄ ⦃rest : List Char⦄
    (h : value? fuel depth text = some (j, rest)) (hfits : FitsIn depth' j) :
    value? fuel' depth' (text ++ after) = some (j, rest ++ after) := by
  induction fuel generalizing fuel' depth depth' text j rest with
  | zero => cases h
  | succ fuel ih =>
      obtain ⟨fuel', rfl⟩ : ∃ n, fuel' = n + 1 := ⟨fuel' - 1, by omega⟩
      have hpart : ∀ ⦃text j rest⦄,
          value? fuel (depth - 1) text = some (j, rest) →
          FitsIn (depth' - 1) j →
          value? fuel' (depth' - 1) (text ++ after)
            = some (j, rest ++ after) :=
        ih (Nat.le_of_succ_le_succ hfuel)
      have hempty := value?_nil fuel (depth - 1)
      cases text with
      | nil =>
          rw [value?_nil] at h
          cases h
      | cons c text =>
          by_cases harr : c = '['
          · subst harr
            obtain ⟨⟨items, left⟩, hitems, h⟩ := Option.map_eq_some_iff.mp h
            obtain ⟨rfl, rfl⟩ := Prod.mk.inj h
            obtain ⟨hroom, hfits⟩ := hfits.ite
            obtain ⟨hroom', hitem⟩ := hfits.items
            show (bracketed? ']' (value? fuel' (depth' - 1))
                (text ++ after)).map _ = _
            rw [bracketed?_append hpart hempty hitems hitem, if_neg hroom,
              Option.map_some]
            dsimp only
            rw [if_neg hroom']
          by_cases hobj : c = '\x7b'
          · subst hobj
            obtain ⟨⟨members, left⟩, hmembers, h⟩ :=
              Option.map_eq_some_iff.mp h
            obtain ⟨rfl, rfl⟩ := Prod.mk.inj h
            obtain ⟨hroom, hfits⟩ := hfits.ite
            obtain ⟨hroom', hmember⟩ := hfits.named
            show (bracketed? '\x7d' (member? (value? fuel' (depth' - 1)))
                (text ++ after)).map _
              = _
            rw [bracketed?_append (member?_append hpart hempty) rfl hmembers
              hmember, if_neg hroom, Option.map_some]
            dsimp only
            rw [if_neg hroom']
          rw [value?_scalar harr hobj] at h
          rw [List.cons_append, value?_scalar harr hobj]
          exact continues_scalar? hafter h

-- ====================================================== whole texts

/-- A text writes a value where the value is read and only blanks are left
over. -/
theorem parseWhole?_eq_some_iff {text : String} {j : Json} :
    parseWhole? text = some j ↔
      j.isWhole = true ∧ ∃ rest,
        value? (text.toList.length + 1) maxDepth (skipBlanks text.toList)
          = some (j, rest) ∧
          skipBlanks rest = [] := by
  constructor
  · intro h
    obtain ⟨value, hparse, h⟩ := Option.bind_eq_some_iff.mp h
    obtain ⟨⟨value', rest⟩, hvalue, hparse⟩ :=
      Option.bind_eq_some_iff.mp hparse
    dsimp only at hparse
    split at h
    next hwhole =>
      obtain rfl := Option.some.inj h
      split at hparse
      next hrest =>
        obtain rfl := Option.some.inj hparse
        exact ⟨hwhole, rest, hvalue, List.isEmpty_iff.mp hrest⟩
      next => cases hparse
    next => cases h
  · rintro ⟨hwhole, rest, hvalue, hrest⟩
    have hparse : parse? text = some j := by
      show (value? _ _ _).bind _ = _
      rw [hvalue]
      exact if_pos (List.isEmpty_iff.mpr hrest)
    show (parse? text).bind _ = _
    rw [hparse]
    exact if_pos hwhole

/-- A name, a colon and a value between braces are an object of one member. -/
theorem value?_object {fuel depth : Nat} {key body left rest : List Char}
    {name : String} {j : Json}
    (hkey : stringBody? (key ++ ['"']) = some (some name, []))
    (hvalue : value? fuel depth (skipBlanks body) = some (j, left))
    (hleft : skipBlanks left = '\x7d' :: rest) :
    value? (fuel + 1) (depth + 1)
        ('\x7b' :: '"' :: (key ++ '"' :: ':' :: body))
      = some (.obj [(name, j)], rest) := by
  have hname : stringBody? (key ++ '"' :: ':' :: body)
      = some (some name, ':' :: body) := by
    rw [List.append_cons]
    exact continues_stringBody? _ hkey
  have hcolon : skipBlanks (':' :: body) = ':' :: body := rfl
  have hmember : member? (value? fuel depth)
      ('"' :: (key ++ '"' :: ':' :: body))
      = some ((some name, j), left) := by
    rw [member?_colon hname hcolon, hvalue]
    rfl
  show (bracketed? '\x7d' (member? (value? fuel depth)) _).map _ = _
  rw [bracketed?_one rfl (by decide) (by decide) hmember hleft]
  rfl

/-- A value may be written as the only member of an object, if there is room
for the brackets of the object. -/
theorem parseWhole?_member {key name text : String} {j : Json}
    (hkey : stringBody? (key.toList ++ ['"']) = some (some name, []))
    (htext : parseWhole? text = some j) (hdepth : j.depth < maxDepth) :
    parseWhole? ("\x7b\"" ++ key ++ "\": " ++ text ++ "\x7d")
      = some (.obj [(name, j)]) := by
  obtain ⟨hwhole, rest, hvalue, hrest⟩ := parseWhole?_eq_some_iff.mp htext
  have hends : EndsNumber ['\x7d'] := by
    rintro c ⟨⟩
    decide
  have hfits : FitsIn (maxDepth - 1) j := ⟨hwhole, Nat.le_sub_one_of_lt hdepth⟩
  have hchars : ("\x7b\"" ++ key ++ "\": " ++ text ++ "\x7d").toList
      = '\x7b' :: '"' :: (key.toList ++ '"' :: ':' :: ' '
        :: (text.toList ++ ['\x7d'])) := by
    simp
  -- the value is read with the closing bracket after it
  have hcontinued {fuel : Nat} (hfuel : text.toList.length + 1 ≤ fuel) :
      value? fuel (maxDepth - 1)
        (skipBlanks (' ' :: (text.toList ++ ['\x7d'])))
        = some (j, rest ++ ['\x7d']) := by
    have hread : ∀ ⦃chars j rest⦄,
        value? (text.toList.length + 1) maxDepth chars = some (j, rest) →
        FitsIn (maxDepth - 1) j →
        value? fuel (maxDepth - 1) (chars ++ ['\x7d'])
          = some (j, rest ++ ['\x7d']) :=
      value?_append hends hfuel
    exact part_skipBlanks hread (value?_nil ..) hvalue hfits
  have hclose : skipBlanks (rest ++ ['\x7d']) = ['\x7d'] := by
    unfold skipBlanks at hrest ⊢
    rw [List.dropWhile_append, hrest]
    rfl
  refine parseWhole?_eq_some_iff.mpr ⟨?_, [], ?_, rfl⟩
  · rw [isWhole, membersAreWhole, hwhole]
    rfl
  · rw [hchars]
    exact value?_object hkey (hcontinued (by simp; omega)) hclose

end ClusterUtility.Json
