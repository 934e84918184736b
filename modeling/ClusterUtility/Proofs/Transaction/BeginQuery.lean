/-
The query that a transaction begins with elsewhere says all that concerns the
other nodes, and nothing else.

Of the characteristics that a transaction is begun with, the other nodes get
the isolation levels and the access modes, in the order in which they were
given; whether the transaction is deferrable stays here
(`TransactionOption.shared`).

# Reading the query

`readBeginQuery?` reads a query clause by clause. No clause has a comma in it,
so the commas of the query are those between its clauses, and cutting the query
at its commas gives the clauses back, each after a blank. What is read is just
what was shared (`readBeginQuery?_beginQuery?`), so different characteristics
make different queries, unless they share the same.

# In the journal

BEGIN is told to the other nodes before anything else is done, and once
(`perform_beginTransaction`). So the journal shows the query of the BEGIN, and
no other one.
-/
import ClusterUtility.Proofs.Dispatch.Command
import Mathlib.Data.List.Basic

namespace ClusterUtility

-- ========================================= characteristics and clauses

namespace TransactionOption

variable {o : TransactionOption} {options : List TransactionOption}
  {clause : String}

/-- The characteristic concerns the other nodes. -/
def isShared : TransactionOption → Bool
  | .isolation _ => true
  | .readOnly _ => true
  | .deferrable _ => false

/-- The characteristics that concern the other nodes. -/
def shared (options : List TransactionOption) : List TransactionOption :=
  options.filter isShared

/-- The characteristic that a clause gives. -/
def ofClause? (clause : String) : Option TransactionOption :=
  if clause = "READ ONLY" then some (.readOnly true)
  else if clause = "READ WRITE" then some (.readOnly false)
  else
    match clause.toList.dropPrefix? "ISOLATION LEVEL ".toList with
    | some level =>
        (IsolationLevel.ofText? (String.ofList level)).map .isolation
    | none => none

/-- A characteristic is shared if it has a clause. -/
private theorem isShared_eq_isSome_clause? (o : TransactionOption) :
    o.isShared = o.clause?.isSome := by
  cases o with
  | isolation level => rfl
  | readOnly on => cases on <;> rfl
  | deferrable on => rfl

/-- A clause gives the characteristic that it passes on. -/
theorem ofClause?_of_clause? (h : o.clause? = some clause) :
    ofClause? clause = some o := by
  cases o with
  | isolation level =>
      obtain rfl : "ISOLATION LEVEL " ++ level.text = clause :=
        Option.some.inj h
      cases level <;> decide +kernel
  | readOnly on =>
      cases on with
      | true =>
          obtain rfl : "READ ONLY" = clause := Option.some.inj h
          rfl
      | false =>
          obtain rfl : "READ WRITE" = clause := Option.some.inj h
          rfl
  | deferrable on => cases h

/-- No clause has a comma in it. -/
private theorem comma_not_mem_of_clause? (h : o.clause? = some clause) :
    ',' ∉ clause.toList := by
  cases o with
  | isolation level =>
      obtain rfl : "ISOLATION LEVEL " ++ level.text = clause :=
        Option.some.inj h
      cases level <;> decide +kernel
  | readOnly on =>
      cases on with
      | true =>
          obtain rfl : "READ ONLY" = clause := Option.some.inj h
          decide
      | false =>
          obtain rfl : "READ WRITE" = clause := Option.some.inj h
          decide
  | deferrable on => cases h

/-- The clauses give what is shared, in order. -/
theorem mapM_ofClause? (options : List TransactionOption) :
    (options.filterMap clause?).mapM ofClause? = some (shared options) := by
  induction options with
  | nil => rfl
  | cons o rest ih =>
      unfold shared at ih ⊢
      rw [List.filter_cons, isShared_eq_isSome_clause?]
      cases hclause : o.clause? with
      | none => simpa [hclause] using ih
      | some clause => simp [hclause, ofClause?_of_clause? hclause, ih]

/-- What stays here has no clause. -/
theorem filterMap_clause?_shared (options : List TransactionOption) :
    (shared options).filterMap clause? = options.filterMap clause? := by
  unfold shared
  rw [List.filterMap_filter]
  refine List.filterMap_congr fun o _ => ?_
  rw [isShared_eq_isSome_clause?]
  cases o.clause? <;> rfl

/-- There are no clauses exactly where nothing is shared. -/
private theorem filterMap_clause?_eq_nil_iff :
    options.filterMap clause? = [] ↔ shared options = [] := by
  unfold shared
  rw [List.filterMap_eq_nil_iff, List.filter_eq_nil_iff]
  refine forall₂_congr fun o _ => ?_
  rw [isShared_eq_isSome_clause?, Option.not_isSome_iff_eq_none]

end TransactionOption

-- =================================================== reading the query

/-- The characteristic that a clause gives, after the blank before it. -/
def readClause? : List Char → Option TransactionOption
  | ' ' :: clause => TransactionOption.ofClause? (String.ofList clause)
  | _ => none

/-- The characteristics that a query begins a transaction with. -/
def readBeginQuery? (query : String) : Option (List TransactionOption) :=
  (query.toList.dropPrefix? "START TRANSACTION".toList).bind fun clauses =>
    (clauses.splitOn ',').mapM readClause?

/-- A blank before what is joined by commas and blanks makes it joined by
commas, with a blank before each part. -/
theorem blank_intercalate {parts : List (List Char)} (h : parts ≠ []) :
    ' ' :: [',', ' '].intercalate parts
      = [','].intercalate (parts.map (' ' :: ·)) := by
  induction parts with
  | nil => exact absurd rfl h
  | cons part rest ih =>
      cases rest with
      | nil => simp
      | cons next others =>
          have hrest := ih (List.cons_ne_nil _ _)
          rw [List.map_cons] at hrest
          rw [List.map_cons, List.map_cons, List.intercalate_cons_cons,
            List.intercalate_cons_cons, ← hrest]
          simp

/-- A query of clauses without commas is read clause by clause. -/
theorem readBeginQuery?_of_clauses {clauses : List String} (hne : clauses ≠ [])
    (hcomma : ∀ clause ∈ clauses, ',' ∉ clause.toList) :
    readBeginQuery? ("START TRANSACTION " ++ String.intercalate ", " clauses)
      = clauses.mapM TransactionOption.ofClause? := by
  have hparts : clauses.map String.toList ≠ [] := by simpa using hne
  have htext : ("START TRANSACTION " ++ String.intercalate ", " clauses).toList
      = "START TRANSACTION".toList
        ++ [','].intercalate
          (clauses.map fun clause => ' ' :: clause.toList) := by
    have hwords : "START TRANSACTION ".toList
        = "START TRANSACTION".toList ++ [' '] := by decide
    have hseparator : ", ".toList = [',', ' '] := by decide
    rw [String.toList_append, String.toList_intercalate, hwords, hseparator,
      List.append_assoc, List.singleton_append, blank_intercalate hparts,
      List.map_map]
    rfl
  have hsplit :
      ([','].intercalate
        (clauses.map fun clause => ' ' :: clause.toList)).splitOn ','
        = clauses.map fun clause => ' ' :: clause.toList := by
    refine List.splitOn_intercalate ',' ?_ (by simpa using hne)
    intro part hpart
    obtain ⟨clause, hclause, rfl⟩ := List.mem_map.mp hpart
    have hblank : ',' ≠ ' ' := by decide
    exact List.not_mem_cons_of_ne_of_not_mem hblank (hcomma clause hclause)
  have hread (clause : String) :
      readClause? (' ' :: clause.toList)
        = TransactionOption.ofClause? clause := by
    rw [readClause?, String.ofList_toList]
  unfold readBeginQuery?
  rw [htext, List.dropPrefix?_append_of_beq _ (beq_self_eq_true _),
    Option.bind_some, hsplit, List.mapM_map]
  exact congrArg (fun read => clauses.mapM read) (funext hread)

/-- What is read from the query is what the other nodes share. -/
theorem readBeginQuery?_beginQuery? {options : List TransactionOption}
    {query : String} (h : beginQuery? options = some query) :
    readBeginQuery? query = some (TransactionOption.shared options) := by
  unfold beginQuery? at h
  split at h
  next => cases h
  next hne =>
    obtain rfl := Option.some.inj h
    rw [readBeginQuery?_of_clauses hne, TransactionOption.mapM_ofClause?]
    intro clause hclause
    obtain ⟨o, -, ho⟩ := List.mem_filterMap.mp hclause
    exact TransactionOption.comma_not_mem_of_clause? ho

/-- A plain BEGIN does where nothing is shared, and only there. -/
theorem beginQuery?_eq_none_iff {options : List TransactionOption} :
    beginQuery? options = none ↔ TransactionOption.shared options = [] := by
  rw [← TransactionOption.filterMap_clause?_eq_nil_iff]
  unfold beginQuery?
  split
  next heq => exact iff_of_true rfl heq
  next hne => exact iff_of_false nofun hne

/-- Two transactions begin alike elsewhere if they share the same
characteristics, and only then. -/
theorem beginQuery?_eq_iff {options others : List TransactionOption} :
    beginQuery? options = beginQuery? others ↔
      TransactionOption.shared options = TransactionOption.shared others := by
  constructor
  · intro h
    cases hquery : beginQuery? options with
    | none =>
        rw [hquery] at h
        rw [beginQuery?_eq_none_iff.mp hquery,
          beginQuery?_eq_none_iff.mp h.symm]
    | some query =>
        rw [hquery] at h
        have hread := readBeginQuery?_beginQuery? hquery
        rw [readBeginQuery?_beginQuery? h.symm] at hread
        exact (Option.some.inj hread).symm
  · intro h
    unfold beginQuery?
    rw [← TransactionOption.filterMap_clause?_shared options, h,
      TransactionOption.filterMap_clause?_shared]

-- ====================================================== in the journal

variable {c : Cluster} {options : List TransactionOption} {context : Context}

/-- The characteristics that a command begins a transaction with, if it begins
one. -/
def TransactionCommand.options? :
    TransactionCommand → Option (List TransactionOption)
  | .begin options => some options
  | .start options => some options
  | _ => none

/-- Beginning a block enters that it began, or nothing. -/
private theorem journal_beginBlock (c : Cluster) :
    ∃ events, c.beginBlock.journal = c.journal ++ events ∧
      events ⊆ [.localBegin] := by
  unfold Cluster.beginBlock
  split
  · exact ⟨[], (List.append_nil _).symm, List.nil_subset _⟩
  · exact ⟨[.localBegin], rfl, List.Subset.refl _⟩

/-- Taking over the characteristics is not recorded. -/
theorem perform_setOptions (options : List TransactionOption) (c : Cluster) :
    ∃ d, c.perform (Program.forEach
        (fun option => do
          Program.ofReply (← Program.request (.setOption option))) options)
      = (.ok (), d) ∧ d.journal = c.journal := by
  induction options generalizing c with
  | nil => exact ⟨c, rfl, rfl⟩
  | cons option rest ih => exact ih (c.setOption option)

/-- A transaction that begins on other nodes as well records its query there,
once and first of all. -/
theorem perform_beginTransaction (hp : context.propagates = true)
    (options : List TransactionOption) (c : Cluster) :
    ∃ d events, c.perform (beginTransaction options context) = (.ok (), d) ∧
      d.journal = c.journal ++ .remoteBegin (beginQuery? options) :: events ∧
      events ⊆ [.localBegin] := by
  obtain ⟨events, hbegin, hevents⟩ :=
    journal_beginBlock (c.beginRemote (beginQuery? options))
  obtain ⟨d, hperform, hjournal⟩ :=
    perform_setOptions options (c.beginRemote (beginQuery? options)).beginBlock
  refine ⟨d, events, ?_, ?_, hevents⟩
  · unfold beginTransaction
    rw [if_pos hp]
    exact hperform
  · rw [hjournal, hbegin]
    exact List.append_assoc ..

/-- A command that begins a transaction does just that. -/
theorem run_of_options? {command : TransactionCommand}
    (h : command.options? = some options) (context : Context) :
    command.run context
      = Program.bind (beginTransaction options context) fun _ =>
        .done none := by
  cases command with
  | begin given | start given =>
      obtain rfl : given = options := Option.some.inj h
      rfl
  | _ => cases h

-- ====================================== nothing lost, nothing invented

/-- The query says which isolation levels and access modes were given, in
order: it is the same for the same ones alone, is left out where there are
none, and is read back as what was given. A client's BEGIN that is let through
records this query and no other; one that is not records nothing. -/
theorem begins_with_what_is_shared :
    (∀ options others, beginQuery? options = beginQuery? others ↔
      TransactionOption.shared options = TransactionOption.shared others) ∧
    (∀ options, beginQuery? options = none ↔
      TransactionOption.shared options = []) ∧
    (∀ options query, beginQuery? options = some query →
      readBeginQuery? query = some (TransactionOption.shared options)) ∧
    ∀ (config : Configuration) (i : Interceptor) (call : Call)
      (command : TransactionCommand) (options : List TransactionOption)
      (c : Cluster),
      call.statement = .transaction command → command.options? = some options →
      call.context.propagates = true →
        (call.Passes config i c →
          ∃ d events, c.perform (dispatch config i call) = (.ok (), d) ∧
            d.journal
              = c.journal ++ .remoteBegin (beginQuery? options) :: events ∧
            ∀ event ∈ events, ∀ query, event ≠ .remoteBegin query) ∧
        (¬ call.Passes config i c →
          ∃ failure,
            c.perform (dispatch config i call) = (.error failure, c)) := by
  refine ⟨fun _ _ => beginQuery?_eq_iff, fun _ => beginQuery?_eq_none_iff,
    fun _ _ => readBeginQuery?_beginQuery?, ?_⟩
  intro config i call command options c hs hoptions hp
  refine ⟨fun hpass => ?_,
    fun hrefused => perform_dispatch_refused fun _ _ => hrefused⟩
  obtain ⟨d, events, hperform, hjournal, hevents⟩ :=
    perform_beginTransaction hp options c
  refine ⟨d, events, ?_, hjournal, fun event hevent query => ?_⟩
  · rw [perform_dispatch_command hs hpass, run_of_options? hoptions,
      Cluster.perform_bind_of_ok hperform]
    rfl
  · obtain rfl := List.mem_singleton.mp (hevents hevent)
    nofun

/-- A client begins a transaction with an isolation level given twice and two
access modes, between which something is said that stays here. -/
def beginTwice : Call :=
  ⟨.transaction (.begin
      [.readOnly true, .isolation .serializable, .deferrable true,
        .readOnly false, .isolation .serializable]),
    "BEGIN ...", .topLevel .coordinator, true, false⟩

/-- What is given twice is sent twice, in order, without what stays here. -/
theorem begins_with_what_is_shared_twice :
    beginTwice.Passes .standard .none (Cluster.fresh .standard "") ∧
    (∃ d events,
      (Cluster.fresh .standard "").perform
          (dispatch .standard .none beginTwice) = (.ok (), d) ∧
      d.journal = .remoteBegin
          (some ("START TRANSACTION READ ONLY, ISOLATION LEVEL SERIALIZABLE, "
            ++ "READ WRITE, ISOLATION LEVEL SERIALIZABLE"))
        :: events) ∧
    readBeginQuery?
      ("START TRANSACTION READ ONLY, ISOLATION LEVEL SERIALIZABLE, "
        ++ "READ WRITE, ISOLATION LEVEL SERIALIZABLE")
      = some [.readOnly true, .isolation .serializable, .readOnly false,
          .isolation .serializable] := by
  obtain ⟨-, -, hread, hrecords⟩ := begins_with_what_is_shared
  have hpass : beginTwice.Passes .standard .none (.fresh .standard "") :=
    ⟨rfl, by decide, rfl⟩
  have hquery : beginQuery? [.readOnly true, .isolation .serializable,
      .deferrable true, .readOnly false, .isolation .serializable]
      = some ("START TRANSACTION READ ONLY, ISOLATION LEVEL SERIALIZABLE, "
        ++ "READ WRITE, ISOLATION LEVEL SERIALIZABLE") := by
    decide +kernel
  refine ⟨hpass, ?_, hread _ _ hquery⟩
  obtain ⟨d, events, hperform, hjournal, -⟩ :=
    (hrecords .standard .none beginTwice _ _ _ rfl rfl rfl).1 hpass
  rw [hquery] at hjournal
  exact ⟨d, events, hperform, hjournal⟩

end ClusterUtility
