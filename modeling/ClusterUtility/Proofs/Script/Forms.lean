/-
The two forms of a script do not meet.

A record may be given by position, as an array of relations and statements, and
a list of entries is an array too. An array that is read both ways has two
items, of which the first is an object of relations, and an entry. An entry has
a statement among its members, and there every member gives the kind of a
relation. But no kind of relation is read as a statement: a kind is a name
without content, and the only statement of that form is a checkpoint
(`RelationKind.not_statement`).

# Lists of entries

So an array that is a list of entries is read as that, although a record is
tried first. It says the same as the record that has the list for its
statements and nothing else, in values and in texts
(`script_forms_do_not_meet`).
-/
import ClusterUtility.Proofs.Json.Continued
import ClusterUtility.Proofs.Json.Fields
import ClusterUtility.Script

namespace ClusterUtility

open Json

-- ================================================== kinds of relations

/-- A bare name has no content, or null for content. -/
theorem Json.tagged?_of_bareName? {j : Json} {name : String}
    (h : j.bareName? = some name) :
    j.tagged? = some (name, none) ∨ j.tagged? = some (name, some .null) := by
  unfold bareName? at h
  split at h
  next heq =>
    obtain rfl := Option.some.inj h
    exact .inl heq
  next heq =>
    obtain rfl := Option.some.inj h
    exact .inr heq
  next => cases h

/-- A kind of relation is a bare name. -/
private theorem RelationKind.bareName?_of_decode {j : Json}
    {kind : RelationKind} (h : decode j = some kind) :
    j.bareName? = some kind.name := by
  obtain ⟨given, hgiven, h⟩ := Option.bind_eq_some_iff.mp h
  have hname : (kind.name == given) = true :=
    List.find?_some (p := fun a => name a == given) h
  rw [hgiven, eq_of_beq hname]

/-- No kind of statement has the name of a kind of relation. -/
theorem Kind.ofName?_relationKind (kind : RelationKind) :
    ofName? kind.name = none := by
  cases kind <;> decide +kernel

/-- No kind of relation is read as a statement. Neither is CHECKPOINT among the
kinds, nor the name of a statement that has content. -/
private theorem RelationKind.not_statement (positions : Positions) {j : Json}
    {kind : RelationKind} (h : decode j = some kind) :
    Statement.decode positions j = none := by
  have hbare := bareName?_of_decode h
  have hcheckpoint : j.bareName? ≠ some "Checkpoint" := by
    rw [hbare]
    cases kind <;> decide
  unfold Statement.decode
  cases j.depth with
  | zero => rw [Statement.decodeWithin, if_neg hcheckpoint]
  | succ depth =>
      rw [Statement.decodeWithin, if_neg hcheckpoint]
      rcases tagged?_of_bareName? hbare with htag | htag
      · rw [htag]
      · rw [htag]
        show (Kind.ofName? kind.name).bind _ = none
        rw [Kind.ofName?_relationKind]
        rfl

-- ====================================================== relations

namespace Script

/-- Relations are an object whose members are kinds of relations. -/
theorem kind_of_relations? {j : Json}
    {relations : List (String × RelationKind)}
    (h : relations? j = some relations) :
    ∃ members, j = .obj members ∧
      ∀ member ∈ members, ∃ kind,
        RelationKind.decode member.2 = some kind := by
  obtain ⟨named, hnamed, -⟩ := Option.map_eq_some_iff.mp h
  cases j with
  | obj members =>
      refine ⟨members, rfl, fun member hmember => ?_⟩
      have hsome := isSome_of_mapM hnamed hmember
      rw [Option.isSome_map] at hsome
      exact Option.isSome_iff_exists.mp hsome
  | _ => cases hnamed

end Script

-- ====================================================== entries

/-- An entry that is an object has its statement among its members. -/
theorem ScriptEntry.statement_of_decode {members : List (String × Json)}
    {entry : ScriptEntry} (h : decode (.obj members) = some entry) :
    ∃ member ∈ members,
      Statement.decode .allowed member.2 = some entry.statement := by
  obtain ⟨left, h⟩ := readAll_eq_some h
  obtain ⟨f, between, statement, hf, hstatement, rfl⟩ := seq_eq_some h
  obtain ⟨text, htext, rfl⟩ := map_eq_some hf
  obtain ⟨rfl, -⟩ := mem_of_required htext
  obtain ⟨-, value, hmember, hread⟩ := mem_of_required hstatement
  exact ⟨_, hmember, hread⟩

namespace Script

/-- A record by position begins with its relations. -/
theorem relations_of_ofRecord? {items : List Json} {script : Script}
    (h : ofRecord? (.arr items) = some script) :
    ∃ first rest, items = first :: rest ∧
      relations? first = some script.relations := by
  obtain ⟨left, h⟩ := readAll_eq_some h
  obtain ⟨f, between, entries, hf, hentries, rfl⟩ := seq_eq_some h
  obtain ⟨relations, hrelations, rfl⟩ := map_eq_some hf
  cases items with
  | nil =>
      -- the relations may be missing, but then so are the statements
      obtain ⟨-, rfl⟩ := Prod.mk.inj (Option.some.inj hrelations)
      cases hentries
  | cons first rest =>
      obtain ⟨relations', hread, hrelations⟩ :=
        Option.map_eq_some_iff.mp hrelations
      obtain ⟨rfl, -⟩ := Prod.mk.inj hrelations
      exact ⟨first, rest, rfl, hread⟩

/-- A list of entries is no record. -/
theorem ofRecord?_eq_none {j : Json} {entries : List ScriptEntry}
    (h : j.list? ScriptEntry.decode = some entries) : ofRecord? j = none := by
  cases j with
  | arr items =>
      cases hscript : ofRecord? (.arr items) with
      | none => rfl
      | some script =>
          obtain ⟨first, rest, rfl, hrelations⟩ :=
            relations_of_ofRecord? hscript
          obtain ⟨members, rfl, hkinds⟩ := kind_of_relations? hrelations
          have hentry := isSome_of_mapM h (List.mem_cons_self ..)
          obtain ⟨entry, hentry⟩ := Option.isSome_iff_exists.mp hentry
          obtain ⟨member, hmember, hstatement⟩ :=
            ScriptEntry.statement_of_decode hentry
          obtain ⟨kind, hkind⟩ := hkinds member hmember
          rw [RelationKind.not_statement .allowed hkind] at hstatement
          cases hstatement
  | _ => cases h

-- ==================================================== lists of entries

/-- A list of entries is a script without relations. -/
private theorem decode_entries {j : Json} {entries : List ScriptEntry}
    (h : j.list? ScriptEntry.decode = some entries) :
    decode j = some ⟨[], entries⟩ := by
  unfold decode
  rw [ofRecord?_eq_none h, Option.none_or]
  unfold ofEntries?
  rw [h]
  rfl

/-- A record whose relations are missing has none. -/
theorem decode_statements {j : Json} {entries : List ScriptEntry}
    (h : j.list? ScriptEntry.decode = some entries) :
    decode (.obj [("statements", j)]) = some ⟨[], entries⟩ := by
  have hrelations : Takes (withDefault "relations" [] relations?)
      [("statements", j)] [] := rfl
  have hstatements : Takes (required "statements" (list? ScriptEntry.decode))
      [("statements", j)] entries := takes_required rfl h
  have hrecord : ofRecord? (.obj [("statements", j)]) = some ⟨[], entries⟩ :=
    record?_obj (.seq (.map Script.mk hrelations) hstatements)
  unfold decode
  rw [hrecord, Option.some_or]

/-- The script that a value is, is the script of the texts of the value. -/
private theorem parse?_of_decode {text : String} {j : Json} {script : Script}
    (htext : parseWhole? text = some j) (hscript : decode j = some script) :
    parse? text = some script := by
  unfold parse?
  rw [htext, Option.bind_some, hscript]

end Script

/-- No value is read both as a record of a script and as a list of entries.
Where a value is a list of entries, the value and the record that has it for
statements are the same script, of these entries in this order and no
relations. So is any text of either, and the text of the one within brackets is
a text of the other, if there is room for the brackets. -/
theorem script_forms_do_not_meet :
    (∀ j, ¬((Script.ofRecord? j).isSome = true ∧
      (Script.ofEntries? j).isSome = true)) ∧
      (∀ j entries, j.list? ScriptEntry.decode = some entries →
        Script.decode j = some ⟨[], entries⟩ ∧
          Script.decode (.obj [("statements", j)]) = some ⟨[], entries⟩) ∧
      (∀ text j entries, parseWhole? text = some j →
        j.list? ScriptEntry.decode = some entries →
        Script.parse? text = some ⟨[], entries⟩ ∧
          (∀ text', parseWhole? text' = some (.obj [("statements", j)]) →
            Script.parse? text' = some ⟨[], entries⟩) ∧
          (j.depth < maxDepth →
            Script.parse? ("\x7b\"statements\": " ++ text ++ "\x7d")
              = some ⟨[], entries⟩)) := by
  refine ⟨?_, fun j entries h =>
    ⟨Script.decode_entries h, Script.decode_statements h⟩, ?_⟩
  · rintro j ⟨hrecord, hentries⟩
    obtain ⟨script, hscript⟩ := Option.isSome_iff_exists.mp hentries
    obtain ⟨entries, hlist, -⟩ := Option.map_eq_some_iff.mp hscript
    rw [Script.ofRecord?_eq_none hlist] at hrecord
    cases hrecord
  · intro text j entries htext h
    have hstatements := Script.decode_statements h
    refine ⟨Script.parse?_of_decode htext (Script.decode_entries h),
      fun text' htext' => ?_, fun hdepth => ?_⟩
    · exact Script.parse?_of_decode htext' hstatements
    · have hkey : stringBody? ("statements".toList ++ ['"'])
          = some (some "statements", []) := by
        decide +kernel
      have hopening : "\x7b\"" ++ "statements" ++ "\": "
          = "\x7b\"statements\": " := by
        decide +kernel
      have hmember := parseWhole?_member hkey htext hdepth
      rw [hopening] at hmember
      exact Script.parse?_of_decode hmember hstatements

/-- A list of two items, as many as a record by position has, the first one an
object: a checkpoint without a text, and an entry by position. -/
def twoEntries : Json :=
  .arr [.obj [("text", .str ""), ("statement", .str "Checkpoint")],
    .arr [.str "LISTEN c", .obj [("Listen", .arr [.str "c"])]]]

/-- A text of the list. -/
def twoEntriesText : String :=
  "[\x7b\"text\":\"\",\"statement\":\"Checkpoint\"\x7d,"
    ++ "[\"LISTEN c\",\x7b\"Listen\":[\"c\"]\x7d]]"

/-- A list that looks most like a record by position is no record, and its text
is the same script alone and as the member of an object. -/
theorem script_forms_do_not_meet_twoEntries :
    parseWhole? twoEntriesText = some twoEntries ∧
      twoEntries.list? ScriptEntry.decode
        = some [⟨"", .checkpoint⟩, ⟨"LISTEN c", .listen "c"⟩] ∧
      twoEntries.depth < maxDepth ∧
      Script.parse? twoEntriesText
        = some ⟨[], [⟨"", .checkpoint⟩, ⟨"LISTEN c", .listen "c"⟩]⟩ ∧
      Script.parse? ("\x7b\"statements\": " ++ twoEntriesText ++ "\x7d")
        = some ⟨[], [⟨"", .checkpoint⟩, ⟨"LISTEN c", .listen "c"⟩]⟩ ∧
      (Script.ofRecord? twoEntries).isSome = false := by
  have htext : parseWhole? twoEntriesText = some twoEntries := by
    have hchars : twoEntriesText.toList = _ ++ _ := String.toList_append
    simp only [String.reduceToList] at hchars
    refine parseWhole?_eq_some_iff.mpr ⟨rfl, [], ?_, rfl⟩
    rw [hchars]
    rfl
  have hentries : twoEntries.list? ScriptEntry.decode
      = some [⟨"", .checkpoint⟩, ⟨"LISTEN c", .listen "c"⟩] := rfl
  have hdepth : twoEntries.depth < maxDepth := by decide
  obtain ⟨hdisjoint, -, htexts⟩ := script_forms_do_not_meet
  obtain ⟨hlist, -, hrecord⟩ := htexts _ _ _ htext hentries
  have hrecord? : (Script.ofRecord? twoEntries).isSome = false := by
    refine Bool.eq_false_iff.mpr fun h => hdisjoint twoEntries ⟨h, ?_⟩
    show ((twoEntries.list? ScriptEntry.decode).map _).isSome = true
    rw [hentries]
    rfl
  exact ⟨htext, hentries, hdepth, hlist, hrecord hdepth, hrecord?⟩

end ClusterUtility
