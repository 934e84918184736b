/-
What is written is read back.

# Statements

Every statement but CHECKPOINT is written as its kind with its content under
it. Reading goes the other way: the name gives the kind, and the kind says how
the content is read (`decodeContent_content`). PREPARE, EXPLAIN and CREATE
SCHEMA hold other statements, which are read by the same reader with one level
less of the bound. The bound is the depth of the value, and a statement that is
held has less of it than the one that holds it, so the bound is never reached
(`decodeWithin_encode`).

# Other records

The records of configurations, layouts, contexts, prepared transactions, states
and requests hold no statements and are read back field by field. Two of their
numbers are bounds that are written with 64 bits.
-/
import ClusterUtility.Configuration
import ClusterUtility.Context
import ClusterUtility.Proofs.Statement.Records
import ClusterUtility.RemoteRequest
import ClusterUtility.Transaction.Status

namespace ClusterUtility

open Json

-- ====================================================== kinds

/-- The list of the kinds misses none. -/
private theorem Kind.mem_values (kind : Kind) : kind ∈ values := by
  cases kind <;> decide

/-- No two kinds have one name. -/
theorem Kind.ofName?_name (kind : Kind) : ofName? kind.name = some kind := by
  have hall : ∀ kind ∈ values, ofName? kind.name = some kind := by
    decide +kernel
  exact hall kind kind.mem_values

-- ====================================================== depth

/-- An item is no deeper than the items together. -/
private theorem Json.depth_le_depthOfItems {items : List Json} {j : Json}
    (h : j ∈ items) : j.depth ≤ depthOfItems items := by
  induction items with
  | nil => cases h
  | cons item rest ih =>
      rw [depthOfItems]
      rcases List.mem_cons.mp h with rfl | h
      · exact Nat.le_max_left ..
      · exact Nat.le_trans (ih h) (Nat.le_max_right ..)

namespace Statement

/-- The statements that a statement holds. -/
def held : Statement → List Statement
  | .createSchema _ _ elements => elements
  | .prepare _ q => [q]
  | .explain _ _ q => [q]
  | _ => []

/-- The elements of a schema are written one by one. -/
private theorem encodeAll_eq_map (statements : List Statement) :
    encodeAll statements = statements.map encode := by
  induction statements with
  | nil => rfl
  | cons s rest ih => rw [encodeAll, ih, List.map_cons]

/-- What is held is written less deep than what holds it. -/
theorem depth_encode_lt {s q : Statement} (h : q ∈ s.held) :
    q.encode.depth < s.encode.depth := by
  cases s with
  | createSchema name authorization elements =>
      have hle : q.encode.depth ≤ depthOfItems (encodeAll elements) := by
        rw [encodeAll_eq_map]
        exact depth_le_depthOfItems (List.mem_map_of_mem h)
      simp only [encode, tagWith, depth, depthOfMembers]
      omega
  | prepare name query =>
      obtain rfl := List.mem_singleton.mp h
      simp only [encode, tagWith, depth, depthOfMembers]
      omega
  | explain analyze verbose query =>
      obtain rfl := List.mem_singleton.mp h
      simp only [encode, tagWith, depth, depthOfMembers]
      omega
  | _ => cases h

-- ====================================================== contents

/-- What is written under the name of a statement. -/
def content (s : Statement) : Json :=
  match s.encode.tagged? with
  | some (_, some content) => content
  | _ => .null

/-- CHECKPOINT is the only statement of its kind. -/
private theorem eq_checkpoint {s : Statement} (h : s.kind = .checkpoint) :
    s = .checkpoint := by
  cases s with
  | checkpoint => rfl
  | definition d => cases d <;> cases h
  | _ => cases h

/-- Every other statement is written as its kind with its content under it. -/
private theorem encode_eq_tagWith {s : Statement} (h : s.kind ≠ .checkpoint) :
    s.encode = tagWith s.kind.name s.content := by
  cases s with
  | checkpoint => exact absurd rfl h
  | _ => rfl

/-- The content of a kind is read as a definition where the kind is one of a
definition. -/
theorem decodeContent_definition (positions : Positions)
    (inner : Json → Option Statement) (d : Definition) (content : Json) :
    decodeContent positions inner d.kind content
      = .definition <$> Definition.decodeContent positions d.kind content := by
  cases d <;> rfl

/-- The content of a statement is read back, if what the statement holds is. -/
theorem decodeContent_content (positions : Positions)
    {inner : Json → Option Statement} {s : Statement}
    (hkind : s.kind ≠ .checkpoint)
    (hinner : ∀ q ∈ s.held, inner q.encode = some q) :
    decodeContent positions inner s.kind s.content = some s := by
  cases s with
  | checkpoint => exact absurd rfl hkind
  -- statements that hold others
  | createSchema name authorization elements =>
      have hwritten : Json.arr (encodeAll elements) = ofList encode elements :=
        congrArg Json.arr (encodeAll_eq_map elements)
      have helements : list? inner (.arr (encodeAll elements))
          = some elements := by
        rw [hwritten]
        exact list?_ofList hinner
      refine record?_obj (.seq (.seq (.map createSchema ?_) ?_) ?_)
      · exact takes_text rfl
      · exact takes_optionalText rfl
      · exact takes_withDefault rfl helements
  | prepare name query =>
      have hquery := hinner query (List.mem_singleton_self query)
      exact record?_obj (.seq (.map prepare (takes_text rfl))
        (takes_required rfl hquery))
  | explain analyze verbose query =>
      have hquery := hinner query (List.mem_singleton_self query)
      refine record?_obj (.seq (.seq (.map explain ?_) ?_) ?_)
      · exact takes_flag rfl
      · exact takes_flag rfl
      · exact takes_required rfl hquery
  -- statements that are one record
  | transaction command =>
      exact congrArg (Option.map transaction) (command.decode_encode positions)
  | query q => exact congrArg (Option.map query) q.decode_encode
  | fetch f => exact congrArg (Option.map fetch) f.decode_encode
  | createTable c => exact congrArg (Option.map createTable) c.decode_encode
  | createForeignTable c =>
      exact congrArg (Option.map createForeignTable) c.decode_encode
  | alterTable a => exact congrArg (Option.map alterTable) a.decode_encode
  | drop d => exact congrArg (Option.map drop) d.decode_encode
  | truncate t => exact congrArg (Option.map truncate) t.decode_encode
  | comment c => exact congrArg (Option.map comment) c.decode_encode
  | copy c => exact congrArg (Option.map copy) c.decode_encode
  | rename r => exact congrArg (Option.map rename) r.decode_encode
  | setSchema c => exact congrArg (Option.map setSchema) c.decode_encode
  | setOwner c => exact congrArg (Option.map setOwner) c.decode_encode
  | createIndex c => exact congrArg (Option.map createIndex) c.decode_encode
  | createRule c => exact congrArg (Option.map createRule) c.decode_encode
  | grant g => exact congrArg (Option.map grant) g.decode_encode
  | vacuum v => exact congrArg (Option.map vacuum) v.decode_encode
  | reindex r => exact congrArg (Option.map reindex) r.decode_encode
  | variableSet v => exact congrArg (Option.map variableSet) v.decode_encode
  | dropProperty d => exact congrArg (Option.map dropProperty) d.decode_encode
  | lock l => exact congrArg (Option.map lock) l.decode_encode
  | cleanConnection c =>
      exact congrArg (Option.map cleanConnection) c.decode_encode
  | definition d =>
      refine (decodeContent_definition positions inner d d.content).trans ?_
      exact congrArg (Option.map definition)
        (d.decodeContent_content positions)
  -- statements with fields of their own
  | closePortal portal =>
      exact variant?_obj positions (.map _ (takes_optionalText rfl))
  | deallocate name =>
      exact variant?_obj positions (.map _ (takes_optionalText rfl))
  | unlisten channel =>
      exact variant?_obj positions (.map _ (takes_optionalText rfl))
  | barrier id =>
      exact variant?_obj positions (.map _ (takes_optionalText rfl))
  | alterTablespaceOptions name =>
      exact variant?_obj positions (.map _ (takes_text rfl))
  | createDatabase name =>
      exact variant?_obj positions (.map _ (takes_text rfl))
  | listen channel => exact variant?_obj positions (.map _ (takes_text rfl))
  | load filename => exact variant?_obj positions (.map _ (takes_text rfl))
  | variableShow name => exact variant?_obj positions (.map _ (takes_text rfl))
  | createSequence name =>
      exact variant?_obj positions (.map _ (takes_name rfl))
  | alterSequence name =>
      exact variant?_obj positions (.map _ (takes_name rfl))
  | discard target =>
      exact variant?_obj positions
        (.map _ (takes_required rfl target.decode_encode))
  | createTablespace name location =>
      exact variant?_obj positions
        (.seq (.map _ (takes_text rfl)) (takes_text rfl))
  | dropTablespace name missingOk =>
      exact variant?_obj positions
        (.seq (.map _ (takes_text rfl)) (takes_flag rfl))
  | dropDatabase name missingOk =>
      exact variant?_obj positions
        (.seq (.map _ (takes_text rfl)) (takes_flag rfl))
  | doBlock code language =>
      exact variant?_obj positions
        (.seq (.map _ (takes_text rfl)) (takes_optionalText rfl))
  | notify channel payload =>
      exact variant?_obj positions
        (.seq (.map _ (takes_text rfl)) (takes_optionalText rfl))
  | createTrigger name relation =>
      exact variant?_obj positions
        (.seq (.map _ (takes_text rfl)) (takes_name rfl))
  | alterEnum name newValue =>
      exact variant?_obj positions
        (.seq (.map _ (takes_name rfl)) (takes_text rfl))
  | createView name replace =>
      exact record?_obj (.seq (.map _ (takes_name rfl)) (takes_flag rfl))
  | cluster relation index =>
      exact variant?_obj positions
        (.seq (.map _ (takes_optionalName rfl)) (takes_optionalText rfl))
  | constraintsSet constraints deferred =>
      have hconstraints := QualifiedName.decode_encodeAll constraints
      exact variant?_obj positions
        (.seq (.map _ (takes_withDefault rfl hconstraints)) (takes_bool rfl))
  | execute name into params =>
      have hparams : list? whole?
          (ofList (fun param : Whole => param.val) params) = some params :=
        list?_ofList fun param _ => whole?_val param
      refine record?_obj (.seq (.seq (.map execute ?_) ?_) ?_)
      · exact takes_text rfl
      · exact takes_optionalName rfl
      · exact takes_withDefault rfl hparams

-- ====================================================== statements

/-- Below the top of the bound, what is written under the name of a kind is
read as content of the kind. -/
theorem decodeWithin_tagWith (positions : Positions) (depth : Nat)
    {kind : Kind} (h : kind ≠ .checkpoint) (content : Json) :
    decodeWithin positions (depth + 1) (tagWith kind.name content)
      = decodeContent positions (decodeWithin positions depth)
        kind content := by
  have hname : kind.name ≠ "Checkpoint" := by
    cases kind with
    | checkpoint => exact absurd rfl h
    | _ => decide
  have hbare : (tagWith kind.name content).bareName? ≠ some "Checkpoint" := by
    unfold tagWith bareName? tagged?
    dsimp only
    split
    next heq => cases heq
    next heq =>
      intro h'
      exact hname (by grind)
    next =>
      intro h'
      cases h'
  have htagged : (tagWith kind.name content).tagged?
      = some (kind.name, some content) := rfl
  rw [decodeWithin, if_neg hbare, htagged]
  show (Kind.ofName? kind.name).bind _ = _
  rw [Kind.ofName?_name]
  rfl

/-- A bound that the depth of the written value keeps to is enough to read it
back. -/
theorem decodeWithin_encode (positions : Positions) {depth : Nat}
    {s : Statement} (h : s.encode.depth ≤ depth) :
    decodeWithin positions depth s.encode = some s := by
  induction depth generalizing s with
  | zero =>
      by_cases hkind : s.kind = .checkpoint
      · rw [eq_checkpoint hkind]
        rfl
      · rw [encode_eq_tagWith hkind] at h
        exact absurd h (Nat.not_succ_le_zero _)
  | succ depth ih =>
      by_cases hkind : s.kind = .checkpoint
      · rw [eq_checkpoint hkind]
        rfl
      · rw [encode_eq_tagWith hkind,
          decodeWithin_tagWith positions depth hkind]
        refine decodeContent_content positions hkind fun q hq => ih ?_
        have hlt := depth_encode_lt hq
        omega

/-- A statement is read back: the bound is its own depth. -/
private theorem decode_encode (positions : Positions) (s : Statement) :
    decode positions s.encode = some s :=
  decodeWithin_encode positions (Nat.le_refl _)

end Statement

-- ====================================================== configurations

/-- The word for a feature is read back. -/
private theorem Feature.decode_encode (f : Feature) :
    decode f.encode = some f := by
  cases f <;> decide

/-- A set of features is read back from the list of its members. -/
theorem Feature.decodeSet_encodeSet (set : Feature → Bool) :
    decodeSet (encodeSet set) = some set := by
  have hlist : list? decode (ofList encode (values.filter set))
      = some (values.filter set) :=
    list?_ofList fun f _ => f.decode_encode
  have hmember : (fun f => decide (f ∈ values.filter set)) = set := by
    funext f
    have hall : f ∈ values := by cases f <;> decide
    simp [hall]
  show (list? decode (ofList encode (values.filter set))).map _ = _
  rw [hlist, Option.map_some, hmember]

/-- The word for a class of the log is read back. -/
private theorem LogClass.decode_encode (c : LogClass) :
    decode c.encode = some c := by
  cases c <;> decide

/-- A layout is read back with its nodes in their order. -/
private theorem Topology.decode_encode (t : Topology) :
    decode t.encode = some t := by
  obtain ⟨localNode, coordinators, datanodes⟩ := t
  refine record?_obj (.seq (.seq (.map Topology.mk ?_) ?_) ?_)
  · exact takes_text rfl
  · exact takes_texts rfl
  · exact takes_texts rfl

/-- A configuration is read back, if 64 bits are enough for its limit of
nesting. -/
private theorem Configuration.decode_encode {c : Configuration}
    (h : c.maxDepth < UInt64.size) : decode c.encode = some c := by
  obtain ⟨topology, unsupported, maxDepth, logStatement⟩ := c
  refine record?_obj (.seq (.seq (.seq (.map Configuration.mk ?_) ?_) ?_) ?_)
  · exact takes_withDefault rfl topology.decode_encode
  · exact takes_withDefault rfl (Feature.decodeSet_encodeSet unsupported)
  · exact takes_withDefault rfl (nat64?_ofNat h)
  · exact takes_withDefault rfl logStatement.decode_encode

-- =============================================== contexts and requests

private theorem NodeRole.decode_encode (r : NodeRole) :
    decode r.encode = some r := by
  cases r <;> decide

/-- A context is read back, if 64 bits are enough for its depth. -/
private theorem Context.decode_encode {c : Context}
    (h : c.depth < UInt64.size) : decode c.encode = some c := by
  obtain
    ⟨isTopLevel, readOnly, inRecovery, isRestricted, fromCoordinator, role,
      superuser, depth⟩ := c
  refine record?_obj
    (.seq
      (.seq (.seq (.seq (.seq (.seq (.seq (.map Context.mk ?_) ?_) ?_) ?_) ?_)
        ?_) ?_) ?_)
  · exact takes_bool rfl
  · exact takes_bool rfl
  · exact takes_bool rfl
  · exact takes_bool rfl
  · exact takes_bool rfl
  · exact takes_required rfl role.decode_encode
  · exact takes_bool rfl
  · exact takes_required rfl (nat64?_ofNat h)

private theorem NodeGroup.decode_encode (g : NodeGroup) :
    decode g.encode = some g := by
  cases g <;> decide

/-- A request to other nodes is read back. There is one way to gather its
results. -/
private theorem RemoteRequest.decode_encode (r : RemoteRequest) :
    decode r.encode = some r := by
  obtain ⟨text, group, results, autocommit⟩ := r
  refine record?_obj (.seq (.seq (.seq (.map RemoteRequest.mk ?_) ?_) ?_) ?_)
  · exact takes_text rfl
  · exact takes_required rfl group.decode_encode
  · cases results
    exact takes_required rfl rfl
  · exact takes_bool rfl

-- ====================================================== transactions

/-- The word for the status of a transaction is read back. -/
private theorem TransactionStatus.decode_encode (s : TransactionStatus) :
    decode s.encode = some s := by
  cases s <;> decide

private theorem Outcome.decode_encode (o : Outcome) :
    decode o.encode = some o := by
  cases o <;> decide

/-- A prepared transaction is read back with the nodes that take part in it. -/
private theorem PreparedTransaction.decode_encode (t : PreparedTransaction) :
    decode t.encode = some t := by
  obtain ⟨gid, participants, coordinatorRecord, outcome⟩ := t
  refine record?_obj
    (.seq (.seq (.seq (.map PreparedTransaction.mk ?_) ?_) ?_) ?_)
  · exact takes_text rfl
  · exact takes_texts rfl
  · exact takes_bool rfl
  · exact takes_withDefault rfl outcome.decode_encode

/-- The state of a transaction is read back. Its global identifier may be
null. -/
private theorem TransactionState.decode_encode (s : TransactionState) :
    decode s.encode = some s := by
  obtain ⟨status, globalId⟩ := s
  refine record?_obj (.seq (.map TransactionState.mk ?_) ?_)
  · exact takes_required rfl status.decode_encode
  · exact takes_nullable rfl (fun _ => rfl) nofun

-- ====================================================== all of them

/-- Every statement is read back as it was written, wherever the value comes
from, and so is every record of the other types; the numbers among their fields
have 64 bits. -/
theorem written_is_read_back :
    (∀ (positions : Positions) (s : Statement),
      Statement.decode positions s.encode = some s) ∧
      (∀ c : Configuration, c.maxDepth < UInt64.size →
        Configuration.decode c.encode = some c) ∧
      (∀ t : Topology, Topology.decode t.encode = some t) ∧
      (∀ c : Context, c.depth < UInt64.size →
        Context.decode c.encode = some c) ∧
      (∀ t : PreparedTransaction,
        PreparedTransaction.decode t.encode = some t) ∧
      (∀ s : TransactionState, TransactionState.decode s.encode = some s) ∧
      (∀ r : RemoteRequest, RemoteRequest.decode r.encode = some r) :=
  ⟨Statement.decode_encode, fun _ => Configuration.decode_encode,
    Topology.decode_encode, fun _ => Context.decode_encode,
    PreparedTransaction.decode_encode, TransactionState.decode_encode,
    RemoteRequest.decode_encode⟩

/-- A schema with a prepared statement among its elements that explains an
execution, whose arguments are a list with null and an object. -/
def preparedInSchema : Statement :=
  .createSchema "s" none
    [.prepare "p"
      (.explain true false
        (.execute "q" (some ⟨some "a.b", ""⟩)
          [⟨.arr [.null, .int (-1)], rfl⟩,
            ⟨.obj [("Execute", .obj [])], rfl⟩])),
     .checkpoint]

/-- A schema with all statements that hold others is read back, and numbers up
to the largest of 64 bits are. -/
theorem written_is_read_back_nested :
    Statement.decode .refused preparedInSchema.encode = some preparedInSchema ∧
      (32 < UInt64.size ∧
        Configuration.decode Configuration.standard.encode
          = some Configuration.standard) ∧
      (UInt64.size - 1 < UInt64.size ∧
        Context.decode { Context.topLevel .coordinator with
            depth := UInt64.size - 1 }.encode
          = some { Context.topLevel .coordinator with
              depth := UInt64.size - 1 }) := by
  obtain ⟨hstatement, hconfiguration, _, hcontext, _⟩ := written_is_read_back
  exact ⟨hstatement _ _, ⟨by decide, hconfiguration _ (by decide)⟩,
    ⟨by decide, hcontext _ (by decide)⟩⟩

end ClusterUtility
