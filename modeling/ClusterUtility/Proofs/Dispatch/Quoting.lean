/-
Names written into the text of a request.

One request is put together from a name: before DROP DATABASE runs, the other
coordinators are told to drop their pooled connections to the database. The
name goes into the text as an SQL identifier, and whatever stands in it, a
quote or a semicolon included, the text has to stay one command about this
database.

# Reading identifiers

So the text is read as the other side reads it. `Text.readIdentifier` takes an
identifier from the beginning of a text: a plain one ends where no more
characters of one follow, a quoted one at the first quote that is not doubled,
and two quotes inside of it stand for one. What is left of the text comes with
the name. A name that was written is read back, with all that follows it left
over, if what follows cannot be taken for more of it (`Text.read_identifier`);
the induction is on the characters between the quotes.

# In the request

What DROP DATABASE sends can be read off its program, whatever the world
replies: the statement itself, and a text in which one identifier and a
semicolon follow the fixed words.
-/
import ClusterUtility.Proofs.Dispatch.FanOut
import ClusterUtility.Proofs.Program.Exchange

namespace ClusterUtility

open Program (Answers Asks MustAsk exchanges leads_of_mem_exchanges
  sequential_asks)

-- ================================================= reading identifiers

namespace Text

variable {name : List Char} {c : Char}

/-- Takes a name from a text that follows a double quote, up to the first quote
that is not doubled. -/
def readQuoted : List Char → Option (List Char × List Char)
  | [] => none
  | '"' :: '"' :: rest =>
      (readQuoted rest).map fun (name, after) => ('"' :: name, after)
  | '"' :: rest => some ([], rest)
  | c :: rest => (readQuoted rest).map fun (name, after) => (c :: name, after)

/-- Takes the name of an identifier from the beginning of a text. -/
def readName : List Char → Option (List Char × List Char)
  | [] => none
  | '"' :: rest => readQuoted rest
  | c :: rest =>
      if beginsIdentifier c then
        some (c :: rest.takeWhile inIdentifier, rest.dropWhile inIdentifier)
      else none

/-- Takes an identifier from the beginning of a text: the name that it stands
for, and the text that follows it. -/
def readIdentifier (text : String) : Option (String × String) :=
  (readName text.toList).map fun (name, after) =>
    (String.ofList name, String.ofList after)

/-- Characters that cannot be taken for more of an identifier before them. -/
def EndsIdentifier (after : List Char) : Prop :=
  ∀ c ∈ after.head?, c ≠ '"' ∧ inIdentifier c = false

variable {after : List Char}

instance : (after : List Char) → Decidable (EndsIdentifier after)
  | [] => isTrue nofun
  | c :: rest =>
      decidable_of_iff (c ≠ '"' ∧ inIdentifier c = false)
        (by simp [EndsIdentifier])

/-- A character that is no quote is one of the name. -/
private theorem readQuoted_of_ne (h : c ≠ '"') (rest : List Char) :
    readQuoted (c :: rest)
      = (readQuoted rest).map fun (name, after) => (c :: name, after) := by
  rw [readQuoted]
  all_goals simp [h]

/-- The quote after a name ends it, if no other quote follows. -/
theorem readQuoted_end (h : EndsIdentifier after) :
    readQuoted ('"' :: after) = some ([], after) := by
  cases after with
  | nil => rfl
  | cons c rest =>
      have hc : c ≠ '"' := (h c rfl).1
      rw [readQuoted]
      simp [hc]

/-- Between quotes, every name is read back, and no character of it ends the
identifier. -/
theorem readQuoted_doubleQuotes (h : EndsIdentifier after) (name : List Char) :
    readQuoted (doubleQuotes name ++ '"' :: after) = some (name, after) := by
  induction name with
  | nil => exact readQuoted_end h
  | cons c rest ih =>
      unfold doubleQuotes
      split
      next hc =>
        subst hc
        rw [List.cons_append, List.cons_append, readQuoted, ih]
        rfl
      next hc =>
        rw [List.cons_append, readQuoted_of_ne hc, ih]
        rfl

/-- A plain name ends where no character of an identifier follows. -/
theorem readName_plain (hplain : isPlainIdentifier name = true)
    (h : EndsIdentifier after) :
    readName (name ++ after) = some (name, after) := by
  cases name with
  | nil => cases hplain
  | cons c rest =>
      obtain ⟨hbegins, hrest⟩ : beginsIdentifier c = true ∧
          rest.all inIdentifier = true := by
        simpa [isPlainIdentifier] using hplain
      have hc : c ≠ '"' := by
        rintro rfl
        cases hbegins
      have hstops : after.takeWhile inIdentifier = [] ∧
          after.dropWhile inIdentifier = after := by
        cases after with
        | nil => exact ⟨rfl, rfl⟩
        | cons d others =>
            have hd : inIdentifier d = false := (h d rfl).2
            simp [hd]
      have hall : ∀ d ∈ rest, inIdentifier d = true :=
        List.all_eq_true.mp hrest
      rw [List.cons_append, readName]
      · rw [if_pos hbegins, List.takeWhile_append_of_pos hall,
          List.dropWhile_append_of_pos hall, hstops.1, hstops.2,
          List.append_nil]
      · simpa using hc

/-- Every name is read back from its identifier, and what follows is left as it
is. -/
theorem readName_identifierChars (h : EndsIdentifier after)
    (name : List Char) :
    readName (identifierChars name ++ after) = some (name, after) := by
  unfold identifierChars
  split
  next hplain => exact readName_plain hplain h
  next =>
    rw [List.cons_append, List.append_assoc, readName]
    exact readQuoted_doubleQuotes h name

/-- A name is read back from its identifier, with what follows left over. -/
private theorem read_identifier (name : String) {after : String}
    (h : EndsIdentifier after.toList) :
    readIdentifier (identifier name ++ after) = some (name, after) := by
  unfold readIdentifier identifier
  rw [String.toList_append, String.toList_ofList, readName_identifierChars h]
  simp

/-- Different names have different identifiers. -/
theorem identifier_injective {name other : String}
    (h : identifier name = identifier other) : name = other := by
  have hend : EndsIdentifier "".toList := by decide
  have hread := read_identifier name hend
  rw [h, read_identifier other hend] at hread
  obtain ⟨hname, -⟩ := Prod.mk.inj (Option.some.inj hread)
  exact hname.symm

end Text

-- ============================================= the texts of a dispatch

variable {config : Configuration} {i : Interceptor} {call : Call}
  {topology : Topology}

/-- The words by which the pooled connections to a database are dropped. -/
def cleaningWords : String := "CLEAN CONNECTION TO ALL FOR DATABASE "

/-- The request has other nodes drop their pooled connections to the database
that the statement drops: the fixed words, one identifier, a semicolon. -/
def RemoteRequest.CleansFor (s : Statement) (request : RemoteRequest) : Prop :=
  ∃ name missingOk rest, s = .dropDatabase name missingOk ∧
    request.group = .coordinators ∧
    request.text = cleaningWords ++ rest ∧
    Text.readIdentifier rest = some (name, ";")

/-- The request of DROP DATABASE is one that drops the connections. -/
private theorem cleansFor_cleanDatabaseRequest {s : Statement} {name : String}
    {missingOk : Bool} (hs : s = .dropDatabase name missingOk) :
    (cleanDatabaseRequest name).CleansFor s := by
  refine ⟨name, missingOk, Text.identifier name ++ ";", hs, rfl,
    String.append_assoc .., ?_⟩
  exact Text.read_identifier name (by decide)

/-- What the request sends, if it sends anything, is the text of the call, or
drops pooled connections. -/
def Request.PassesOn (topology : Topology) (call : Call)
    (r : Request) : Prop :=
  ∀ request, r = .send request →
    (∃ group autocommit, request = .send call.text group autocommit) ∨
      IsCleaning topology call request

/-- What sends nothing but to drop connections passes nothing else on. -/
private theorem passesOn_of_onlyCleans {r : Request}
    (h : r.OnlyCleans topology call) : r.PassesOn topology call :=
  fun request hr => .inr (h request hr)

/-- A dispatch, with all that it expands to, sends its own text and no other,
but for what DROP DATABASE sends. -/
theorem asks_dispatch_passesOn (config : Configuration) (i : Interceptor)
    (call : Call) :
    Asks (fun r => r.PassesOn config.topology call)
      (dispatch config i call) := by
  have hserves := (serves_onlyCleans config.topology call).mono fun _ =>
    passesOn_of_onlyCleans
  have hnested (s : Statement) :
      Asks (fun r => r.PassesOn config.topology call)
        (dispatch config i (call.sub s)) :=
    (nested_onlyCleans config i call s).mono fun _ => passesOn_of_onlyCleans
  refine sequential_dispatch (sequential_asks _) config hserves ?_ ?_ i
    fun _ => hnested
  · rintro - group autocommit request ⟨⟩
    exact .inl ⟨group, autocommit, rfl⟩
  · intro command _ _ _ next hnext
    have hcommand := run_onlyCleans config.topology call command
    exact Asks.bind (hcommand.mono fun _ => passesOn_of_onlyCleans) hnext

/-- DROP DATABASE does not end well for a client before the other coordinators
were told to drop their connections. -/
theorem mustAsk_cleaning (hp : call.context.propagates = true) {name : String}
    {missingOk : Bool} (hs : call.statement = .dropDatabase name missingOk)
    (hremote : config.topology.remoteCoordinators ≠ []) (i : Interceptor) :
    (dispatch config i call).MustAsk
      (· = .send (cleanDatabaseRequest name)) := by
  refine mustAsk_dispatch (fun nested => ?_) i
  unfold runLocally
  rw [hs]
  dsimp only
  rw [if_pos hp]
  refine MustAsk.bind_left (MustAsk.bind_right fun _ => ?_)
  have hmembers : ((config.topology.members .coordinators).isEmpty) = false :=
    Bool.eq_false_iff.mpr fun h => hremote (List.isEmpty_iff.mp h)
  unfold propagate
  rw [if_neg (by simp [hmembers])]
  refine MustAsk.request_bind ?_ _
  rfl

/-- Every name is read back from its identifier. So whatever a dispatch sends,
in whatever world, is the text it was given, or names the database that it
drops by one identifier, with a semicolon after it; and where there are other
coordinators, no client's DROP DATABASE ends well without having sent the
latter. -/
theorem sent_texts_quoted :
    (∀ name : String, Text.readIdentifier (Text.identifier name)
      = some (name, "")) ∧
    ∀ {σ : Type} (answer : Answers σ) (w : σ) (config : Configuration)
      (i : Interceptor) (call : Call),
      (∀ x ∈ exchanges answer (dispatch config i call) w, ∀ request,
        x.request = .send request →
        (∃ group autocommit, request = .send call.text group autocommit) ∨
          request.CleansFor call.statement) ∧
      (∀ name missingOk, call.statement = .dropDatabase name missingOk →
        call.context.propagates = true →
        config.topology.remoteCoordinators ≠ [] →
        (Program.run answer (dispatch config i call) w).result = .ok () →
          ∃ x ∈ exchanges answer (dispatch config i call) w,
            ∃ request, x.request = .send request ∧
              request.CleansFor call.statement) := by
  refine ⟨fun name => ?_, fun answer w config i call =>
    ⟨fun x hx request hrequest => ?_, ?_⟩⟩
  · have hend : Text.EndsIdentifier "".toList := by decide
    have hread := Text.read_identifier name hend
    rwa [String.append_empty] at hread
  · obtain ⟨next, v, hleads, -⟩ := leads_of_mem_exchanges hx
    have hasked := ((asks_dispatch_passesOn config i call).leads hleads).1
    rcases hasked request hrequest with hown | hclean
    · exact .inl hown
    · obtain ⟨name, missingOk, hs, -, rfl⟩ := hclean
      exact .inr (cleansFor_cleanDatabaseRequest hs)
  · intro name missingOk hs hp hremote hok
    obtain ⟨x, hx, hrequest⟩ :=
      (mustAsk_cleaning hp hs hremote i).exists_mem hok
    exact ⟨x, hx, _, hrequest, cleansFor_cleanDatabaseRequest hs⟩

/-- A client drops a database whose name ends a quoted text and begins another
command. -/
def dropOddDatabase : Call :=
  ⟨.dropDatabase "a\"; DROP DATABASE b" false, "DROP DATABASE ...",
    .topLevel .coordinator, true, false⟩

/-- The name that would end the quoted text is sent as one identifier. -/
theorem sent_texts_quoted_dropOddDatabase :
    (∃ x ∈ exchanges Cluster.answer (dispatch .standard .none dropOddDatabase)
        (Cluster.fresh .standard ""),
      ∃ request, x.request = .send request ∧
        request.CleansFor dropOddDatabase.statement) ∧
    (cleanDatabaseRequest "a\"; DROP DATABASE b").text
      = "CLEAN CONNECTION TO ALL FOR DATABASE \"a\"\"; DROP DATABASE b\";" ∧
    (cleanDatabaseRequest "a\"; DROP DATABASE b").CleansFor
      dropOddDatabase.statement := by
  have hdispatch := sent_texts_quoted.2 Cluster.answer (.fresh .standard "")
    .standard .none dropOddDatabase
  refine ⟨hdispatch.2 _ _ rfl rfl (by decide) rfl, by decide, ?_⟩
  -- the request is the fourth one that is made
  have hsent : ⟨.send (cleanDatabaseRequest "a\"; DROP DATABASE b"), .ok ()⟩
      ∈ exchanges Cluster.answer (dispatch .standard .none dropOddDatabase)
        (Cluster.fresh .standard "") :=
    List.mem_of_getElem? (i := 3) rfl
  rcases hdispatch.1 _ hsent _ rfl with ⟨group, autocommit, hown⟩ | hclean
  · have hsame : cleanDatabaseText "a\"; DROP DATABASE b"
        = dropOddDatabase.text :=
      congrArg RemoteRequest.text hown
    exact absurd hsame (by decide)
  · exact hclean

end ClusterUtility
