/-
What an answer makes of the local session.

The session changes in few ways (`LocalSession.Becomes`), most of which belong
to one request. So an invariant of the session asks for one case for each way,
and not for one for each request and each of its outcomes.
-/
import ClusterUtility.Proofs.Cluster.Reaction

namespace ClusterUtility

/-- What the answer to a request makes of a session. -/
inductive LocalSession.Becomes (s : LocalSession) :
    Request → LocalSession → Prop
  | kept (r : Request) : s.Becomes r s
  | erred (r : Request) : s.Becomes r s.afterError
  | changed (r : Request) : s.Becomes r s.afterCatalogChange
  /-- A handler ran; it marks the block if its statement is DDL. -/
  | handled (statement : Statement) (text : String) (marked : LocalSession)
      (hmarked : marked = s ∨ marked = s.afterCatalogChange) :
      s.Becomes (.execute statement text)
        { marked with objects := marked.objects.after statement }
  | begun (hout : s.inBlock = false) :
      s.Becomes .beginBlock
        { s with inBlock := true, status := .inProgress, globalId := none }
  | characterized (option : TransactionOption) :
      s.Becomes (.setOption option) { s with options := s.options ++ [option] }
  | ended (r : Request) (status : TransactionStatus) (hin : s.inBlock = true)
      (hstatus : status = .committed ∨ status = .aborted) :
      s.Becomes r (s.ended status)
  | prepared (gid : Gid) (hin : s.inBlock = true)
      (hfailed : s.failed = false) :
      s.Becomes (.prepareBlock gid)
        { s.ended .prepared with globalId := some gid }
  | finished (gid : Gid) (commit : Bool) :
      s.Becomes (.finishLocal gid commit)
        { s with status := Cluster.statusAfterFinish s gid commit }
  | saved (name : String) :
      s.Becomes (.defineSavepoint name)
        { s with savepoints := s.savepoints ++ [name] }
  | released {name : String} {kept : List String}
      (hkept : Cluster.savepointsTo? name s.savepoints = some kept) :
      s.Becomes (.releaseSavepoint name) { s with savepoints := kept.dropLast }
  | wentBack {name : String} {kept : List String}
      (hkept : Cluster.savepointsTo? name s.savepoints = some kept) :
      s.Becomes (.rollbackToSavepoint name)
        { s with savepoints := kept, failed := false }
  | enlisted (request : RemoteRequest) (nodes : List Node) :
      s.Becomes (.send request) (Cluster.enlist s request nodes)
  | cleared : s.Becomes .abortBranches { s with written := ∅ }

namespace Cluster

variable {c d : Cluster} {r : Request} {reply : r.Reply}

/-- Each way of answering makes one of these of the session. -/
private theorem Reacts.becomes (h : c.Reacts r reply d) :
    c.session.Becomes r d.session := by
  cases h with
  | fails | failsToAlter => exact .erred _
  | runs =>
      refine .handled _ _ _ ?_
      split
      · exact .inr rfl
      · exact .inl rfl
  | defines | alters => exact .changed _
  | begins hout => exact .begun hout
  | characterizes => exact .characterized _
  | commits hin _ => exact .ended _ .committed hin (.inl rfl)
  | endsFailed hin _ => exact .ended _ .aborted hin (.inr rfl)
  | aborts hin => exact .ended _ .aborted hin (.inr rfl)
  | preparesFailed hin _ => exact .ended _ .aborted hin (.inr rfl)
  | prepares hin hsound _ => exact .prepared _ hin hsound
  | finishes => exact .finished _ _
  | saves => exact .saved _
  | releases hkept => exact .released hkept
  | goesBack hkept => exact .wentBack hkept
  | sends => exact .enlisted _ _
  | abortsBranches => exact .cleared
  | _ => exact .kept _

theorem becomes_answer (r : Request) (c : Cluster) :
    c.session.Becomes r (answer r c).2.session :=
  (reacts_answer r c).becomes

end Cluster

end ClusterUtility
