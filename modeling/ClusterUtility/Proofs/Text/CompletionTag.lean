/-
What a completion tag holds after all that was written into it.

A tag is written by many, and cleared between dispatches. Of all that, the
first text since it was last cleared counts, and of that text as much as there
is room for.

# The cut

A text is cut at a number of bytes, and a character that does not fit as a
whole is left out. `Text.IsCut` says it in bytes: the first bytes of the text,
up to the last place within the room at which a character ends. That is the
beginning which `Text.cut` takes character by character (`Text.isCut_iff`).

# The uses of a tag

Each use of a tag writes a text or clears it. What all of them together leave
is what the first text since the last clearing leaves alone
(`afterAll_eq_saying`); the induction goes by the last use.
-/
import ClusterUtility.Proofs.Dispatch.Completion
import Mathlib.Data.List.DropRight

namespace ClusterUtility

-- ====================================================== the cut

namespace Text

variable {room : Nat} {text part : String}

/-- The first bytes of a text, up to the last place within the room at which a
character ends. -/
structure IsCut (room : Nat) (text part : String) : Prop where
  fits : part.utf8ByteSize ≤ room
  ends : String.Pos.Raw.IsValid text ⟨part.utf8ByteSize⟩
  begins : part.toByteArray = text.toByteArray.extract 0 part.utf8ByteSize
  longest : ∀ n ≤ room, String.Pos.Raw.IsValid text ⟨n⟩ → n ≤ part.utf8ByteSize

/-- The bytes of a text are those of its first character and of the rest. -/
private theorem utf8ByteSize_ofList_cons (c : Char) (cs : List Char) :
    (String.ofList (c :: cs)).utf8ByteSize
      = c.utf8Size + (String.ofList cs).utf8ByteSize := by
  rw [String.ofList_cons, String.utf8ByteSize_append,
    String.utf8ByteSize_singleton]

/-- The cut fits in the room. The induction follows the characters, and the
room goes down with each that is kept. -/
private theorem utf8ByteSize_cutChars_le (room : Nat) (cs : List Char) :
    (String.ofList (cutChars room cs)).utf8ByteSize ≤ room := by
  induction cs generalizing room with
  | nil => exact Nat.zero_le _
  | cons c rest ih =>
      unfold cutChars
      split
      next hfits =>
        rw [utf8ByteSize_ofList_cons]
        have hrest := ih (room - c.utf8Size)
        omega
      next => exact Nat.zero_le _

/-- The cut is a beginning of the text. -/
private theorem cutChars_isPrefix (room : Nat) (cs : List Char) :
    cutChars room cs <+: cs := by
  induction cs generalizing room with
  | nil => exact List.prefix_refl _
  | cons c rest ih =>
      unfold cutChars
      split
      · exact List.cons_prefix_cons.mpr ⟨rfl, ih _⟩
      · exact List.nil_prefix

/-- A beginning that fits is no longer than the cut. -/
theorem isPrefix_cutChars {beginning : List Char}
    (hfits : (String.ofList beginning).utf8ByteSize ≤ room)
    (rest : List Char) : beginning <+: cutChars room (beginning ++ rest) := by
  induction beginning generalizing room with
  | nil => exact List.nil_prefix
  | cons c others ih =>
      rw [utf8ByteSize_ofList_cons] at hfits
      rw [List.cons_append, cutChars, if_pos (by omega)]
      exact List.cons_prefix_cons.mpr ⟨rfl, ih (by omega)⟩

/-- A beginning has no more bytes than the whole. -/
private theorem utf8ByteSize_ofList_mono {cs others : List Char}
    (h : cs <+: others) :
    (String.ofList cs).utf8ByteSize ≤ (String.ofList others).utf8ByteSize := by
  obtain ⟨rest, rfl⟩ := h
  rw [String.ofList_append, String.utf8ByteSize_append]
  exact Nat.le_add_right ..

/-- What is cut character by character is cut by bytes. -/
private theorem isCut_cut (room : Nat) (text : String) :
    IsCut room text (cut room text) := by
  obtain ⟨rest, hrest⟩ := cutChars_isPrefix room text.toList
  have hsplit : text = cut room text ++ String.ofList rest := by
    rw [cut, ← String.ofList_append, hrest, String.ofList_toList]
  refine ⟨utf8ByteSize_cutChars_le .., ?_, ?_, fun n hn hvalid => ?_⟩
  · exact String.Pos.Raw.isValid_iff_exists_append.mpr ⟨_, _, hsplit, rfl⟩
  · rw [congrArg String.toByteArray hsplit, String.toByteArray_append]
    exact (ByteArray.extract_append_eq_left rfl).symm
  · obtain ⟨beginning, after, rfl, hend⟩ :=
      String.Pos.Raw.isValid_iff_exists_append.mp hvalid
    obtain rfl : n = beginning.utf8ByteSize :=
      congrArg String.Pos.Raw.byteIdx hend
    have hfits : (String.ofList beginning.toList).utf8ByteSize ≤ room := by
      rwa [String.ofList_toList]
    have hle := utf8ByteSize_ofList_mono (isPrefix_cutChars hfits after.toList)
    rwa [String.ofList_toList, ← String.toList_append] at hle

/-- There is one such beginning, and `cut` gives it. -/
theorem isCut_iff : IsCut room text part ↔ part = cut room text := by
  have hcut := isCut_cut room text
  constructor
  · intro h
    have hsize : part.utf8ByteSize = (cut room text).utf8ByteSize :=
      Nat.le_antisymm (hcut.longest _ h.fits h.ends)
        (h.longest _ hcut.fits hcut.ends)
    rw [← String.toByteArray_inj, h.begins, hcut.begins, hsize]
  · rintro rfl
    exact hcut

end Text

-- =================================================== the uses of a tag

namespace CompletionTag

/-- What can be done to a completion tag. -/
inductive Use where
  | write (text : String)
  /-- Writes a command with the number of rows it came to. -/
  | writeCount (command : String) (rows : Nat)
  | clear
deriving DecidableEq, Repr

/-- The text that is written, if any is. -/
def Use.text? : Use → Option String
  | .write text => some text
  | .writeCount command rows => some (counted command rows)
  | .clear => none

/-- The tag after a use. -/
def after (tag : CompletionTag) (use : Use) : CompletionTag :=
  match use.text? with
  | some text => tag.set text
  | none => ∅

/-- The tag after all uses. -/
def afterAll (tag : CompletionTag) (uses : List Use) : CompletionTag :=
  uses.foldl after tag

/-- The text that was written first since the last clearing. -/
def firstWritten (uses : List Use) : Option String :=
  (uses.rtakeWhile fun use => use.text?.isSome).head?.bind Use.text?

variable {tag : CompletionTag} {uses : List Use}

/-- A tag that is written is not written again. -/
theorem afterAll_of_isSet (h : tag.isSet = true)
    (hwrites : ∀ use ∈ uses, use.text?.isSome) : tag.afterAll uses = tag := by
  induction uses with
  | nil => rfl
  | cons use rest ih =>
      obtain ⟨huse, hrest⟩ := List.forall_mem_cons.mp hwrites
      obtain ⟨text, htext⟩ := Option.isSome_iff_exists.mp huse
      have hsame : tag.after use = tag := by
        unfold after
        rw [htext]
        exact if_pos h
      show (tag.after use).afterAll rest = tag
      rw [hsame]
      exact ih hrest

/-- The last use comes into it where it clears, or else where it writes and
nothing was written before. -/
private theorem firstWritten_concat (uses : List Use) (use : Use) :
    firstWritten (uses ++ [use])
      = use.text?.bind fun text => (firstWritten uses).or text := by
  unfold firstWritten
  cases htext : use.text? with
  | none =>
      rw [List.rtakeWhile_concat_neg _ _ _ (by simp [htext])]
      rfl
  | some text =>
      rw [List.rtakeWhile_concat_pos _ _ _ (by simp [htext])]
      cases hwrites : uses.rtakeWhile fun use => use.text?.isSome with
      | nil => exact htext
      | cons first rest =>
          have hmem : first ∈ uses.rtakeWhile fun use => use.text?.isSome := by
            rw [hwrites]
            exact List.mem_cons_self ..
          have hfirst : first.text?.isSome = true :=
            List.mem_rtakeWhile_imp (p := fun use : Use => use.text?.isSome)
              hmem
          obtain ⟨earlier, hearlier⟩ := Option.isSome_iff_exists.mp hfirst
          simp [hearlier]

/-- The first text since the last clearing decides what is in the tag. -/
theorem afterAll_eq_saying (uses : List Use) :
    afterAll ∅ uses = saying (firstWritten uses) := by
  induction uses using List.reverseRecOn with
  | nil => rfl
  | append_singleton uses use ih =>
      have hlast : afterAll ∅ (uses ++ [use]) = (afterAll ∅ uses).after use :=
        List.foldl_append
      rw [hlast, ih, firstWritten_concat]
      unfold after
      cases use.text? with
      | none => rfl
      | some text => cases firstWritten uses <;> rfl

/-- After all uses of a new tag, its text has 63 bytes at most and is the
longest beginning of the text written first since the last clearing that has,
cut where a character ends; it is empty if nothing was written. Whether
something was, if only an empty text, the tag says, and once it was, writing
changes nothing until the tag is cleared. -/
theorem holds_first_written (uses : List Use) :
    (afterAll ∅ uses).text.utf8ByteSize ≤ 63 ∧
    (afterAll ∅ uses).text.toByteArray.IsValidUTF8 ∧
    (∀ part, Text.IsCut 63 ((firstWritten uses).getD "") part ↔
      part = (afterAll ∅ uses).text) ∧
    (afterAll ∅ uses).isSet = (firstWritten uses).isSome ∧
    ∀ later : List Use, (afterAll ∅ uses).isSet = true →
      (∀ use ∈ later, use.text?.isSome) →
      afterAll ∅ (uses ++ later) = afterAll ∅ uses := by
  have htext : (afterAll ∅ uses).text
      = Text.cut room ((firstWritten uses).getD "") := by
    rw [afterAll_eq_saying]
    cases firstWritten uses <;> rfl
  refine ⟨?_, (afterAll ∅ uses).text.isValidUTF8, fun part => ?_, ?_,
    fun later hset hlater => ?_⟩
  · rw [htext]
    exact (Text.isCut_cut room _).fits
  · rw [htext]
    exact Text.isCut_iff
  · rw [afterAll_eq_saying]
    cases firstWritten uses <;> rfl
  · have hsplit : afterAll ∅ (uses ++ later)
        = (afterAll ∅ uses).afterAll later :=
      List.foldl_append
    rw [hsplit]
    exact afterAll_of_isSet hset hlater

/-- A tag that was cleared, and into which a text was written of which a
character stands across the end of the room. -/
def acrossTheEnd : List Use :=
  [.write "ROLLBACK", .clear, .write (String.ofList (List.replicate 40 'é'))]

/-- Of forty letters of two bytes each, 31 fit: the one that stands across the
end of the room is left out. What is written later is lost. -/
theorem holds_first_written_acrossTheEnd :
    (∀ part, Text.IsCut 63 (String.ofList (List.replicate 40 'é')) part ↔
      part = String.ofList (List.replicate 31 'é')) ∧
    (afterAll ∅ acrossTheEnd).isSet = true ∧
    (∀ use ∈ [Use.write "COMMIT", .writeCount "COPY" 42],
      use.text?.isSome = true) ∧
    afterAll ∅ (acrossTheEnd ++ [.write "COMMIT", .writeCount "COPY" 42])
      = afterAll ∅ acrossTheEnd := by
  obtain ⟨-, -, hcut, -, hkept⟩ := holds_first_written acrossTheEnd
  have hset : (afterAll ∅ acrossTheEnd).isSet = true := rfl
  have hwrites : ∀ use ∈ [Use.write "COMMIT", .writeCount "COPY" 42],
      use.text?.isSome = true := by
    decide
  exact ⟨hcut, hset, hwrites, hkept _ hset hwrites⟩

end CompletionTag

-- ====================================================== on the desk

/-- What a note does to the tag of whoever hears it. -/
def Note.use? : Note → Option CompletionTag.Use
  | .clearTag => some .clear
  | .setTag text => some (.write text)
  | _ => none

/-- What is told uses the tag of a desk in the order in which it is told, so
what is so of all uses is so of the tag that any client is left with. -/
theorem tag_hearAll (desk : Desk) (notes : List Note) :
    (desk.hearAll notes).tag
      = desk.tag.afterAll (notes.filterMap Note.use?) := by
  induction notes generalizing desk with
  | nil => rfl
  | cons n rest ih =>
      refine (ih (desk.hear n)).trans ?_
      cases n <;> rfl

end ClusterUtility
