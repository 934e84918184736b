/-
Where PREPARE TRANSACTION commits itself, whatever the world answers.

`CommitsAtRegistration` says what all courses of the command have in common.
The accepted registration makes the transaction prepared, and nothing else
does. Each phase is begun only when the one before it is done. And wherever
the command stops, all that was prepared until then is undone, in order, and
what the undoing meets does not change the result.

# The proof

Each part of it is a case analysis on the courses. Most cases ask whether some
exchange can stand in some stretch of a dialogue, and the lemmas before them
say what stands in each stretch. Where the order matters, the dialogue is
split at an exchange, and the split is where the course has that exchange,
since it stands nowhere else.
-/
import ClusterUtility.Cluster.Answers
import ClusterUtility.Proofs.Transaction.Course
import Mathlib.Data.List.Basic

namespace ClusterUtility

-- ============================================ what they have in common

/-- What holds of the exchanges and the result of PREPARE TRANSACTION from a
client, in whatever world. -/
structure CommitsAtRegistration (gid : Gid) (log : List Exchange)
    (result : Except Failure TagOverride) : Prop where
  /-- The transaction is reported as prepared exactly if every step went well
  and the registry accepted the record of just these nodes. -/
  prepared : result = .ok none ↔ ∃ nodes record,
    ⟨.lookup gid, none⟩ ∈ log ∧ ⟨.inFailedBlock, false⟩ ∈ log ∧
      ⟨.participants, nodes⟩ ∈ log ∧ acknowledged gid log = nodes ∧
      ⟨.touchedCatalog, record⟩ ∈ log ∧
      .localEnd gid record (.ok true) ∈ log ∧
      ⟨.register (.undecided gid nodes record), .ok ()⟩ ∈ log
  /-- What else ends without a failure is reported as rolled back. -/
  rolledBack : ∀ tag, result = .ok tag → tag = none ∨ tag = rolledBackTag
  /-- When the local side is ended, all participants have acknowledged, and
  nobody is asked to prepare afterwards. -/
  localEnd : ∀ before record reply after,
    log = before ++ .localEnd gid record reply :: after →
    (∀ nodes, ⟨.participants, nodes⟩ ∈ log →
      acknowledged gid before = nodes) ∧
      ∀ x ∈ after, ∀ node, x.request ≠ .prepareBranch node gid
  /-- When the transaction is registered, the local side has ended well. -/
  registration : ∀ before t reply after,
    log = before ++ ⟨.register t, reply⟩ :: after →
    t.outcome ≠ .rollback →
      ∃ record, ⟨.touchedCatalog, record⟩ ∈ before ∧
        .localEnd gid record (.ok true) ∈ before
  /-- A command that asked for the participants and prepares nothing stops at
  some exchange, which says what is reported. From there it only undoes: the
  local record, if one was written, and then every acknowledged branch. -/
  undone : ∀ nodes, ⟨.participants, nodes⟩ ∈ log → result ≠ .ok none →
    ∃ start last unrecord undo,
      log = start ++ last :: (unrecord ++ undo) ∧
      (∀ x ∈ start ++ [last], ¬ x.request.Undoes) ∧
      result = last.verdict gid ∧
      (unrecord.map (·.request) = [.finishLocal gid false] ∧
          ⟨.prepareBlock gid, .ok true⟩ ∈ log ∨
        unrecord = [] ∧ ⟨.prepareBlock gid, .ok true⟩ ∉ log) ∧
      Undoes gid (acknowledged gid log) undo

section common

variable {gid : Gid} {nodes done : List Node}
  {log start unrecord undo : List Exchange} {last x : Exchange} {record : Bool}
  {result : Except Failure TagOverride}

/-- What stands in the log of a prepare that has begun. -/
theorem mem_begun :
    x ∈ begun gid nodes done ↔
      x = ⟨.lookup gid, none⟩ ∨ x = ⟨.inFailedBlock, false⟩ ∨
        x = ⟨.participants, nodes⟩ ∨
        ∃ node ∈ done, x = ⟨.prepareBranch node gid, .ok ()⟩ := by
  simp only [begun, acknowledgements, List.mem_append, List.mem_cons,
    List.not_mem_nil, or_false, List.mem_map, or_assoc, eq_comm]

/-- What stands in the log once the local side has ended well. -/
private theorem mem_ended :
    x ∈ ended gid nodes record ↔
      x ∈ begun gid nodes nodes ∨ x = ⟨.touchedCatalog, record⟩ ∨
        x = .localEnd gid record (.ok true) := by
  simp only [ended, List.mem_append, List.mem_cons, List.not_mem_nil, or_false]

/-- The local side has not ended where a prepare has only begun. -/
private theorem localEnd_not_mem_begun {reply : Except Failure Bool} :
    .localEnd gid record reply ∉ begun gid nodes done := by
  intro hmem
  rcases mem_begun.mp hmem with heq | heq | heq | ⟨_, _, heq⟩ <;>
    cases record <;> cases heq

/-- The participants are asked for once. -/
private theorem eq_of_participants_mem_begun {others : List Node}
    (h : ⟨.participants, others⟩ ∈ begun gid nodes done) : others = nodes := by
  rcases mem_begun.mp h with heq | heq | heq | ⟨_, _, heq⟩
  · cases heq
  · cases heq
  · cases heq
    rfl
  · cases heq

/-- Nothing is registered where a prepare has only begun. -/
private theorem register_not_mem_begun {t : PreparedTransaction}
    {reply : Except Failure Unit} :
    ⟨.register t, reply⟩ ∉ begun gid nodes done := by
  intro hmem
  rcases mem_begun.mp hmem with heq | heq | heq | ⟨_, _, heq⟩ <;> cases heq

/-- Nothing is registered before the local side has ended. -/
private theorem register_not_mem_ended {t : PreparedTransaction}
    {reply : Except Failure Unit} :
    ⟨.register t, reply⟩ ∉ ended gid nodes record := by
  intro hmem
  rcases mem_ended.mp hmem with hbegun | heq | heq
  · exact register_not_mem_begun hbegun
  · cases heq
  · cases record <;> cases heq

-- ==================================================== acknowledgements

/-- The acknowledgements of a log are those of its parts, in order. -/
private theorem acknowledged_append (gid : Gid)
    (before after : List Exchange) :
    acknowledged gid (before ++ after)
      = acknowledged gid before ++ acknowledged gid after :=
  List.filterMap_append

/-- A log without an acknowledgement has none. -/
private theorem acknowledged_of_none
    (h : ∀ x ∈ log, x.acknowledged? gid = none) : acknowledged gid log = [] :=
  List.filterMap_eq_nil_iff.mpr h

/-- The end of the local side is no acknowledgement of a branch. -/
private theorem acknowledged?_localEnd (gid : Gid) (record : Bool)
    (reply : Except Failure Bool) :
    (Exchange.localEnd gid record reply).acknowledged? gid = none := by
  cases record <;> rfl

/-- What undoes is no acknowledgement of a branch. -/
private theorem acknowledged?_of_undoes (h : x.request.Undoes) :
    x.acknowledged? gid = none := by
  obtain ⟨r, reply⟩ := x
  cases r <;> first | rfl | exact False.elim h

/-- A prepare that has begun has the acknowledgements of those that are
done. -/
private theorem acknowledged_begun (gid : Gid) (nodes done : List Node) :
    acknowledged gid (begun gid nodes done) = done := by
  have hsome : Exchange.acknowledged? gid
      ∘ (fun node => ⟨.prepareBranch node gid, .ok ()⟩) = some := by
    funext node
    exact if_pos ⟨rfl, rfl⟩
  have hdone : acknowledged gid (acknowledgements gid done) = done := by
    rw [acknowledged, acknowledgements, List.filterMap_map, hsome,
      List.filterMap_some]
  exact hdone

/-- When the local side has ended, all nodes have acknowledged. -/
private theorem acknowledged_ended (gid : Gid) (nodes : List Node)
    (record : Bool) : acknowledged gid (ended gid nodes record) = nodes := by
  have hrest :
      acknowledged gid [⟨.touchedCatalog, record⟩,
        .localEnd gid record (.ok true)] = [] := by
    refine acknowledged_of_none fun x hx => ?_
    simp only [List.mem_cons, List.not_mem_nil, or_false] at hx
    rcases hx with rfl | rfl
    · rfl
    · exact acknowledged?_localEnd gid record _
  rw [ended, acknowledged_append, acknowledged_begun, hrest, List.append_nil]

-- ============================================= where the command stops

/-- Where a command stops, it does not report that it prepared. -/
private theorem Stops.verdict_ne (h : Stops gid nodes start last done record) :
    last.verdict gid ≠ .ok none := by
  intro hverdict
  cases h with
  | refused failure hsplit => cases hverdict
  | @unended record reply hreply =>
      cases record <;> cases reply <;> cases hverdict
  | unregistered record failure => cases hverdict

/-- Nothing is undone before the command stops. -/
theorem Stops.not_undoes (h : Stops gid nodes start last done record)
    (hx : x ∈ start ++ [last]) : ¬ x.request.Undoes := by
  have hbegun {done : List Node} (hx : x ∈ begun gid nodes done) :
      ¬ x.request.Undoes := by
    rcases mem_begun.mp hx with rfl | rfl | rfl | ⟨_, _, rfl⟩ <;> exact id
  have hend (record : Bool) (reply : Except Failure Bool) :
      ¬ (Exchange.localEnd gid record reply).request.Undoes := by
    cases record <;> exact id
  cases h with
  | refused failure hsplit =>
      simp only [List.mem_append, List.mem_singleton] at hx
      rcases hx with hx | rfl
      · exact hbegun hx
      · exact id
  | unended record hreply =>
      simp only [List.mem_append, List.mem_singleton] at hx
      rcases hx with (hx | rfl) | rfl
      · exact hbegun hx
      · exact id
      · exact hend record _
  | unregistered record failure =>
      simp only [List.mem_append, mem_ended, List.mem_singleton] at hx
      rcases hx with (hx | rfl | rfl) | rfl
      · exact hbegun hx
      · exact id
      · exact hend record _
      · -- the transaction is offered undecided
        intro hundoes
        cases hundoes

/-- What is offered to the registry until the command stops is refused, and
that is what stops it. -/
theorem Stops.registers {t : PreparedTransaction} {reply : Except Failure Unit}
    (h : Stops gid nodes start last done record)
    (hmem : ⟨.register t, reply⟩ ∈ start ++ [last]) :
    ∃ record failure, start = ended gid nodes record ∧
      last = ⟨.register (.undecided gid nodes record), .error failure⟩ := by
  cases h with
  | refused failure hsplit =>
      rcases List.mem_append.mp hmem with hmem | hmem
      · exact absurd hmem register_not_mem_begun
      · cases List.mem_singleton.mp hmem
  | unended record hreply =>
      rcases List.mem_append.mp hmem with hmem | hmem
      · rcases List.mem_append.mp hmem with hmem | hmem
        · exact absurd hmem register_not_mem_begun
        · cases List.mem_singleton.mp hmem
      · cases record <;> cases List.mem_singleton.mp hmem
  | unregistered record failure => exact ⟨record, failure, rfl, rfl⟩

/-- Where the local side is ended, all have prepared. Only a registration can
follow before the command stops. -/
theorem Stops.endsLocal {record' : Bool} {reply' : Except Failure Bool}
    (h : Stops gid nodes start last done record)
    (hmem : .localEnd gid record' reply' ∈ start ++ [last]) :
    ∃ record reply offer,
      start ++ [last] = begun gid nodes nodes
        ++ ⟨.touchedCatalog, record⟩ :: .localEnd gid record reply :: offer ∧
      ∀ x ∈ offer, ∃ t reply, x = ⟨.register t, reply⟩ := by
  cases h with
  | refused failure hsplit =>
      rcases List.mem_append.mp hmem with hmem | hmem
      · exact absurd hmem localEnd_not_mem_begun
      · cases record' <;> cases List.mem_singleton.mp hmem
  | @unended record reply hreply =>
      refine ⟨record, reply, [], ?_, fun x hx => absurd hx List.not_mem_nil⟩
      rw [← List.append_cons]
  | unregistered record failure =>
      refine ⟨record, .ok true, [_], ended_append .., fun x hx => ?_⟩
      exact ⟨_, _, List.mem_singleton.mp hx⟩

/-- Where a command stops, the nodes that are done have acknowledged. -/
private theorem Stops.acknowledged_eq
    (h : Stops gid nodes start last done record) :
    acknowledged gid (start ++ [last]) = done := by
  have hlast {x : Exchange} (hnone : x.acknowledged? gid = none) :
      acknowledged gid [x] = [] :=
    List.filterMap_cons_none hnone
  cases h with
  | @refused done rest node failure hsplit =>
      have hrefused : Exchange.acknowledged? gid
          ⟨.prepareBranch node gid, .error failure⟩ = none :=
        if_neg (by simp [Except.isOk, Except.toBool])
      rw [acknowledged_append, acknowledged_begun, hlast hrefused,
        List.append_nil]
  | unended record hreply =>
      rw [acknowledged_append, acknowledged_append, acknowledged_begun,
        hlast rfl, hlast (acknowledged?_localEnd gid record _),
        List.append_nil, List.append_nil]
  | unregistered record failure =>
      rw [acknowledged_append, acknowledged_ended, hlast rfl, List.append_nil]

/-- Where a command stops, a record was written if it says so. -/
private theorem Stops.wrote_iff (h : Stops gid nodes start last done record) :
    ⟨.prepareBlock gid, .ok true⟩ ∈ start ++ [last] ↔ record = true := by
  have hbegun {done : List Node} :
      ⟨.prepareBlock gid, .ok true⟩ ∉ begun gid nodes done :=
    @localEnd_not_mem_begun gid nodes done true (.ok true)
  cases h with
  | refused failure hsplit =>
      simp only [List.mem_append, hbegun, List.mem_singleton, false_or,
        Bool.false_eq_true, iff_false]
      intro heq
      cases heq
  | @unended record reply hreply =>
      simp only [List.mem_append, hbegun, List.mem_singleton, false_or,
        Bool.false_eq_true, iff_false]
      rintro (heq | heq)
      · cases heq
      · cases record with
        | true =>
            injection heq with _ heq
            exact hreply heq.symm
        | false => cases heq
  | unregistered record failure =>
      simp only [List.mem_append, mem_ended, hbegun, List.mem_singleton,
        false_or]
      constructor
      · rintro ((heq | heq) | heq)
        · cases heq
        · cases record with
          | true => rfl
          | false => cases heq
        · cases heq
      · rintro rfl
        exact .inl (.inr rfl)

/-- All that follows where the command stops is undoing. -/
theorem undoes_rest
    (hunrecord : unrecord.map (·.request)
      = if record then [.finishLocal gid false] else [])
    (hundo : Undoes gid done undo) :
    ∀ x ∈ unrecord ++ undo, x.request.Undoes := by
  intro x hx
  rcases List.mem_append.mp hx with hx | hx
  · have hrequest : x.request ∈ unrecord.map (·.request) :=
      List.mem_map_of_mem hx
    rw [hunrecord] at hrequest
    cases record with
    | true =>
        rw [List.mem_singleton.mp hrequest]
        rfl
    | false => cases hrequest
  · exact hundo.undoes x hx

-- ====================================================== every course

/-- A command reports that it prepared if and only if every step went well. -/
private theorem Course.prepared (h : Course gid log result) :
    result = .ok none ↔ ∃ nodes record,
      ⟨.lookup gid, none⟩ ∈ log ∧ ⟨.inFailedBlock, false⟩ ∈ log ∧
        ⟨.participants, nodes⟩ ∈ log ∧ acknowledged gid log = nodes ∧
        ⟨.touchedCatalog, record⟩ ∈ log ∧
        .localEnd gid record (.ok true) ∈ log ∧
        ⟨.register (.undecided gid nodes record), .ok ()⟩ ∈ log := by
  constructor
  · intro hresult
    cases h with
    | inUse t => cases hresult
    | failedBlock answer ended => cases ended <;> cases hresult
    | stopped hstop hunrecord hundo => exact absurd hresult hstop.verdict_ne
    | registered nodes record =>
        have hended {x : Exchange} (hx : x ∈ ended gid nodes record) :
            x ∈ ended gid nodes record
              ++ [⟨.register (.undecided gid nodes record), .ok ()⟩] :=
          List.mem_append_left _ hx
        have hbegun {x : Exchange} (hx : x ∈ begun gid nodes nodes) :
            x ∈ ended gid nodes record
              ++ [⟨.register (.undecided gid nodes record), .ok ()⟩] :=
          hended (mem_ended.mpr (.inl hx))
        refine ⟨nodes, record, hbegun ?_, hbegun ?_, hbegun ?_, ?_, hended ?_,
          hended ?_, List.mem_append_right _ (List.mem_singleton_self _)⟩
        · exact mem_begun.mpr (.inl rfl)
        · exact mem_begun.mpr (.inr (.inl rfl))
        · exact mem_begun.mpr (.inr (.inr (.inl rfl)))
        · rw [acknowledged_append, acknowledged_ended]
          exact List.append_nil nodes
        · exact mem_ended.mpr (.inr (.inl rfl))
        · exact mem_ended.mpr (.inr (.inr rfl))
  · rintro ⟨nodes, record, _, _, _, _, _, _, hmem⟩
    cases h with
    | inUse t => cases List.mem_singleton.mp hmem
    | failedBlock answer ended => simp at hmem
    | registered nodes record => rfl
    | stopped hstop hunrecord hundo =>
        rw [List.append_cons] at hmem
        rcases List.mem_append.mp hmem with hmem | hmem
        · obtain ⟨record, failure, rfl, rfl⟩ := hstop.registers hmem
          rcases List.mem_append.mp hmem with hmem | hmem
          · exact absurd hmem register_not_mem_ended
          · cases List.mem_singleton.mp hmem
        · -- what is registered from there is a rollback
          cases undoes_rest hunrecord hundo _ hmem

/-- A command that ends well and prepares nothing reports a rollback. -/
private theorem Course.rolledBack (h : Course gid log result)
    (tag : TagOverride) (hresult : result = .ok tag) :
    tag = none ∨ tag = rolledBackTag := by
  cases h with
  | inUse t => cases hresult
  | failedBlock answer ended =>
      cases ended with
      | ok _ => exact .inr (Except.ok.inj hresult).symm
      | error failure => cases hresult
  | registered nodes record => exact .inl (Except.ok.inj hresult).symm
  | stopped hstop hunrecord hundo =>
      cases hstop with
      | refused failure hsplit => cases hresult
      | unregistered record failure => cases hresult
      | @unended record reply hreply =>
          cases reply with
          | error failure => cases record <;> cases hresult
          | ok ended =>
              right
              cases record <;> exact (Except.ok.inj hresult).symm

/-- A command that prepares nothing undoes what it did from where it stops. -/
private theorem Course.undone (h : Course gid log result)
    (hnodes : ⟨.participants, nodes⟩ ∈ log) (hresult : result ≠ .ok none) :
    ∃ start last unrecord undo,
      log = start ++ last :: (unrecord ++ undo) ∧
      (∀ x ∈ start ++ [last], ¬ x.request.Undoes) ∧
      result = last.verdict gid ∧
      (unrecord.map (·.request) = [.finishLocal gid false] ∧
          ⟨.prepareBlock gid, .ok true⟩ ∈ log ∨
        unrecord = [] ∧ ⟨.prepareBlock gid, .ok true⟩ ∉ log) ∧
      Undoes gid (acknowledged gid log) undo := by
  cases h with
  | inUse t => cases List.mem_singleton.mp hnodes
  | failedBlock answer ended => simp at hnodes
  | registered nodes record => exact absurd rfl hresult
  | @stopped _ done start unrecord undo last record hstop hunrecord hundo =>
      have hrest := undoes_rest hunrecord hundo
      have hwrote : ⟨.prepareBlock gid, .ok true⟩
            ∈ start ++ last :: (unrecord ++ undo)
          ↔ record = true := by
        rw [List.append_cons, List.mem_append, hstop.wrote_iff]
        exact or_iff_left fun hmem => hrest _ hmem
      have hsilent : acknowledged gid (unrecord ++ undo) = [] :=
        acknowledged_of_none fun x hx => acknowledged?_of_undoes (hrest x hx)
      have hdone : acknowledged gid (start ++ last :: (unrecord ++ undo))
          = done := by
        rw [List.append_cons, acknowledged_append, hstop.acknowledged_eq,
          hsilent, List.append_nil]
      refine ⟨start, last, unrecord, undo, rfl,
        fun x hx => hstop.not_undoes hx, rfl, ?_, ?_⟩
      · cases record with
        | true => exact .inl ⟨hunrecord, hwrote.mpr rfl⟩
        | false =>
            refine .inr ⟨List.map_eq_nil_iff.mp hunrecord, fun hmem => ?_⟩
            cases hwrote.mp hmem
      · rwa [hdone]

/-- Where the local side is ended, whatever is registered or undone later. -/
theorem localEnd_of_split {before after rest : List Exchange} {record' : Bool}
    {reply reply' : Except Failure Bool}
    (hrest : ∀ x ∈ rest, (∃ t reply, x = ⟨.register t, reply⟩) ∨
      x.request.Undoes)
    (h : begun gid nodes nodes
        ++ ⟨.touchedCatalog, record⟩ :: .localEnd gid record reply :: rest
      = before ++ .localEnd gid record' reply' :: after) :
    (∀ others,
      ⟨.participants, others⟩
          ∈ before ++ .localEnd gid record' reply' :: after →
        acknowledged gid before = others) ∧
      ∀ x ∈ after, ∀ node, x.request ≠ .prepareBranch node gid := by
  have hstart : .localEnd gid record' reply'
      ∉ begun gid nodes nodes ++ [⟨.touchedCatalog, record⟩] := by
    intro hmem
    rcases List.mem_append.mp hmem with hmem | hmem
    · exact localEnd_not_mem_begun hmem
    · cases record' <;> cases List.mem_singleton.mp hmem
  have hend : .localEnd gid record' reply' ∉ rest := by
    intro hmem
    rcases hrest _ hmem with ⟨t, reply, heq⟩ | hundoes
    · cases record' <;> cases heq
    · cases record' <;> exact hundoes
  rw [List.append_cons] at h
  obtain ⟨rfl, hsame, rfl⟩ := (List.append_cons_inj_of_notMem hstart hend).mp h
  refine ⟨fun others hmem => ?_, fun x hx node heq => ?_⟩
  · have hothers : others = nodes := by
      rcases List.mem_append.mp hmem with hmem | hmem
      · rcases List.mem_append.mp hmem with hmem | hmem
        · exact eq_of_participants_mem_begun hmem
        · cases List.mem_singleton.mp hmem
      · rcases List.mem_cons.mp hmem with heq | hmem
        · cases record' <;> cases heq
        · rcases hrest _ hmem with ⟨t, reply, heq⟩ | hundoes
          · cases heq
          · exact False.elim hundoes
    rw [acknowledged_append, acknowledged_begun, hothers]
    exact List.append_nil nodes
  · rcases hrest x hx with ⟨t, reply, rfl⟩ | hundoes
    · cases heq
    · rw [heq] at hundoes
      exact hundoes

/-- The local side is ended when all participants have acknowledged, and nobody
prepares afterwards. -/
private theorem Course.localEnd (h : Course gid log result)
    {before after : List Exchange} {record : Bool}
    {reply : Except Failure Bool}
    (hlog : log = before ++ .localEnd gid record reply :: after) :
    (∀ nodes, ⟨.participants, nodes⟩ ∈ log → acknowledged gid before = nodes) ∧
      ∀ x ∈ after, ∀ node, x.request ≠ .prepareBranch node gid := by
  have hmem : .localEnd gid record reply ∈ log := by simp [hlog]
  cases h with
  | inUse t => cases record <;> cases List.mem_singleton.mp hmem
  | failedBlock answer ended =>
      refine ⟨fun nodes hnodes => ?_, fun x hx node heq => ?_⟩
      · simp at hnodes
      · have hx' : x ∈ before ++ .localEnd gid record reply :: after := by
          simp [hx]
        rw [← hlog] at hx'
        simp only [List.mem_cons, List.not_mem_nil, or_false] at hx'
        rcases hx' with rfl | rfl | rfl | rfl <;> cases heq
  | registered nodes record' =>
      rw [hlog]
      rw [ended_append] at hlog
      refine localEnd_of_split (fun x hx => .inl ?_) hlog
      exact ⟨_, _, List.mem_singleton.mp hx⟩
  | stopped hstop hunrecord hundo =>
      have hrest := undoes_rest hunrecord hundo
      rw [List.append_cons] at hmem
      rcases List.mem_append.mp hmem with hmem | hmem
      · obtain ⟨record', reply', offer, hends, hoffer⟩ := hstop.endsLocal hmem
        rw [hlog]
        rw [List.append_cons, hends, List.append_assoc] at hlog
        refine localEnd_of_split (fun x hx => ?_) hlog
        exact (List.mem_append.mp hx).imp (hoffer x) (hrest x)
      · have hundoes := hrest _ hmem
        cases record <;> exact False.elim hundoes

/-- Where a transaction is registered, whatever is undone later. -/
theorem registration_of_split {before after rest : List Exchange}
    {t u : PreparedTransaction} {reply reply' : Except Failure Unit}
    (hrest : ∀ x ∈ rest, x.request.Undoes)
    (ht : t.outcome ≠ .rollback)
    (h : ended gid nodes record ++ ⟨.register u, reply⟩ :: rest
      = before ++ ⟨.register t, reply'⟩ :: after) :
    ∃ record, ⟨.touchedCatalog, record⟩ ∈ before ∧
      .localEnd gid record (.ok true) ∈ before := by
  have hend : ⟨.register t, reply'⟩ ∉ rest := fun hmem => ht (hrest _ hmem)
  obtain ⟨rfl, _, _⟩ :=
    (List.append_cons_inj_of_notMem register_not_mem_ended hend).mp h
  exact ⟨record, mem_ended.mpr (.inr (.inl rfl)),
    mem_ended.mpr (.inr (.inr rfl))⟩

/-- A transaction that is not rolled back is registered after the local side
has ended. -/
private theorem Course.registration (h : Course gid log result)
    {before after : List Exchange} {t : PreparedTransaction}
    {reply : Except Failure Unit}
    (hlog : log = before ++ ⟨.register t, reply⟩ :: after)
    (ht : t.outcome ≠ .rollback) :
    ∃ record, ⟨.touchedCatalog, record⟩ ∈ before ∧
      .localEnd gid record (.ok true) ∈ before := by
  have hmem : ⟨.register t, reply⟩ ∈ log := by simp [hlog]
  cases h with
  | inUse t => cases List.mem_singleton.mp hmem
  | failedBlock answer ended => simp at hmem
  | registered nodes record =>
      exact registration_of_split (fun x hx => absurd hx List.not_mem_nil) ht
        hlog
  | stopped hstop hunrecord hundo =>
      have hrest := undoes_rest hunrecord hundo
      rw [List.append_cons] at hmem
      rcases List.mem_append.mp hmem with hmem | hmem
      · obtain ⟨record, failure, rfl, rfl⟩ := hstop.registers hmem
        exact registration_of_split hrest ht hlog
      · exact absurd (hrest _ hmem) ht

/-- However the world answers, PREPARE TRANSACTION from a client commits itself
when it is registered. -/
theorem commits_at_registration {σ : Type} (answer : Program.Answers σ) (w : σ)
    {c : Context} (hclient : c.isClientFacing = true) (gid : Gid) :
    CommitsAtRegistration gid
      (Program.exchanges answer (prepareTransaction gid c) w)
      (Program.run answer (prepareTransaction gid c) w).result := by
  have hprogram : prepareTransaction gid c = prepareFromClient gid :=
    if_pos hclient
  have hcourse := (course_prepareFromClient gid).run answer w
  rw [hprogram]
  exact {
    prepared := hcourse.prepared
    rolledBack := hcourse.rolledBack
    localEnd := fun _ _ _ _ hlog => hcourse.localEnd hlog
    registration := fun _ _ _ _ hlog ht => hcourse.registration hlog ht
    undone := fun _ hnodes hresult => hcourse.undone hnodes hresult }

end common

/-- A session that wrote to one node. -/
def oneBranch : Cluster :=
  (Cluster.fresh .standard "").beginBlock.touchNodes ["dn1"]

/-- A session with one branch registers it. -/
theorem commits_at_registration_oneBranch :
    (Context.topLevel .coordinator).isClientFacing = true ∧
      ∃ nodes record,
        ⟨.register (.undecided "g" nodes record), .ok ()⟩ ∈
          Program.exchanges Cluster.answer
            (prepareTransaction "g" (.topLevel .coordinator)) oneBranch := by
  have hclient : (Context.topLevel .coordinator).isClientFacing = true := rfl
  have hcommits := commits_at_registration Cluster.answer oneBranch hclient "g"
  obtain ⟨nodes, record, _, _, _, _, _, _, hregistered⟩ :=
    hcommits.prepared.mp rfl
  exact ⟨hclient, nodes, record, hregistered⟩

end ClusterUtility
