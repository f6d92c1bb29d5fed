/-
  Execution: what a run asks of its session, and what it reports.

  * `Session.logged` is a session that keeps a log of the calls it gets;
  * `Limits.Permits` says that the level of a fractal is not above its ceiling;
  * `Limits.run_unrolled`: a run carries out the unrolling of its program, one
    entry after the other, and then ends the batch;
  * `Limits.run_visits`: every statement is reported as often as the blocks
    around it run it, and a batch is no longer than the limits allow.
-/
import TurtleGraphics.Proofs.Program.Visits

namespace TurtleGraphics

variable {σ α : Type}

/-! ## Calls -/

/-- A call that a session gets. -/
inductive Call (α : Type) where
  | apply (command : Command α)
  | finish

/-- The command of a call, if it is to carry one out. -/
def Call.command? : Call α → Option (Command α)
  | apply c => some c
  | finish => none

/-- A session that keeps a log of the calls it gets, and otherwise does the
    same. -/
def Session.logged (session : Session σ α) : Session (σ × List (Call α)) α where
  apply s c :=
    let (outcome, state) := session.apply s.1 c
    (outcome, state, s.2 ++ [.apply c])
  finish s := (session.finish s.1, s.2 ++ [.finish])

/-- A command whose level, if it has one, is not above its ceiling. -/
def Limits.Permits (limits : Limits) : Command α → Prop
  | .koch level _ => level ≤ limits.koch
  | .sierpinski level _ => level ≤ limits.sierpinski
  | _ => True

theorem Limits.permits_iff {limits : Limits} {c : Command α} :
    limits.Permits c ↔ limits.refusal? c = none := by
  have hlevel : ∀ level ceiling : UInt32,
      level ≤ ceiling ↔ (refusalOfLevel? level ceiling : Option (Ignored α)) = none := by
    intro level ceiling
    unfold refusalOfLevel?
    rw [ite_eq_right_iff, UInt32.le_iff_toNat_le, UInt32.lt_iff_toNat_lt]
    simp
  cases c with
  | koch level length => exact hlevel level limits.koch
  | sierpinski level side => exact hlevel level limits.sierpinski
  | _ => exact ⟨fun _ => rfl, fun _ => trivial⟩

/-- The command of an entry, if it has one. -/
def Entry.command? (e : Entry α) : Option (Command α) :=
  match e.request with
  | .perform c => some c
  | _ => none

/-- The commands that entries give to a session: all that are not refused. -/
def Limits.calls (limits : Limits) (entries : List (Entry α)) : List (Command α) :=
  (entries.filterMap Entry.command?).filter fun c => (limits.refusal? c).isNone

theorem Limits.calls_cons (limits : Limits) (e : Entry α) (entries : List (Entry α)) :
    limits.calls (e :: entries) = (e.verdict limits).toOption.toList ++ limits.calls entries := by
  obtain ⟨text, request⟩ := e
  cases request with
  | perform c =>
    simp only [calls, List.filterMap_cons, Entry.command?, Entry.verdict, List.filter_cons]
    cases limits.refusal? c <;> rfl
  | ignore reason => rfl
  | refuse iterations => rfl

theorem Limits.mem_calls_of_verdict {limits : Limits} {entries : List (Entry α)} {e : Entry α}
    {c : Command α} (he : e ∈ entries) (hverdict : e.verdict limits = .ok c) :
    c ∈ limits.calls entries := by
  obtain ⟨before, after, rfl⟩ := List.append_of_mem he
  induction before with
  | nil =>
    rw [List.nil_append, calls_cons, hverdict]
    exact List.mem_cons_self ..
  | cons first rest ih =>
    rw [List.cons_append, calls_cons]
    exact List.mem_append_right _ (ih (by simp))

theorem Limits.permits_of_mem_calls {limits : Limits} {entries : List (Entry α)} {c : Command α}
    (h : c ∈ limits.calls entries) : limits.Permits c := by
  rw [permits_iff]
  simpa using (List.mem_filter.1 h).2

theorem Limits.length_calls_le (limits : Limits) (entries : List (Entry α)) :
    (limits.calls entries).length ≤ entries.length :=
  (List.length_filter_le ..).trans (List.length_filterMap_le ..)

/-! ## Logs -/

namespace Entry

theorem settle_logged (limits : Limits) (session : Session σ α) (state : σ)
    (log : List (Call α)) (e : Entry α) :
    e.settle limits session.logged (state, log) =
      ((e.settle limits session state).1, (e.settle limits session state).2,
        log ++ (e.verdict limits).toOption.toList.map .apply) := by
  unfold settle
  cases e.verdict limits with
  | ok c => rfl
  | error reason => simp [Except.toOption]

theorem stateAfter_logged (limits : Limits) (session : Session σ α) (entries : List (Entry α)) :
    ∀ (state : σ) (log : List (Call α)),
      stateAfter limits session.logged (state, log) entries =
        (stateAfter limits session state entries, log ++ (limits.calls entries).map .apply) := by
  induction entries with
  | nil =>
    intro state log
    simp [stateAfter, Limits.calls]
  | cons e entries ih =>
    intro state log
    rw [stateAfter_cons, stateAfter_cons, settle_logged, ih, Limits.calls_cons, List.map_append,
      List.append_assoc]

theorem reportsOn_logged (limits : Limits) (session : Session σ α) (entries : List (Entry α)) :
    ∀ (state : σ) (log : List (Call α)),
      reportsOn limits session.logged (state, log) entries =
        reportsOn limits session state entries := by
  induction entries with
  | nil => exact fun _ _ => rfl
  | cons e entries ih =>
    intro state log
    rw [reportsOn_cons, reportsOn_cons, settle_logged, ih]

end Entry

/-! ## Reports -/

namespace Node

theorem Due.toNat_refuse {limits : Limits} {n : Node α} (h : n.Due limits) {iterations : Nat}
    (hrefuse : n.entry.request = .refuse iterations) :
    (UInt64.ofNat iterations).toNat = iterations := by
  obtain ⟨counts, statement⟩ := n
  cases statement with
  | command text c => cases hrefuse
  | ignored text reason => cases hrefuse
  | loop text count body =>
    cases hrefuse
    exact Nat.mod_eq_of_lt (h.1.iterations_concat_lt count)

/-- A report on a statement: it has its text, and the reason why it is ignored,
    if it is so before any session has to do with it. -/
def Reported (limits : Limits) (n : Node α) (r : Report α) : Prop :=
  match n.statement with
  | .command text c =>
    r.statement = text ∧ ∀ reason, limits.refusal? c = some reason → r.outcome = .ignored reason
  | .loop text count _ =>
    r.statement = text ∧ ∃ runs : UInt64, runs.toNat = iterations (n.counts ++ [count]) ∧
      r.outcome = .ignored (.tooManyIterations runs limits.repeatIterations)
  | .ignored text reason => r = ⟨text, .ignored reason⟩

theorem Due.reported {limits : Limits} {n : Node α} (h : n.Due limits) (session : Session σ α)
    (state : σ) :
    n.Reported limits ⟨n.entry.text, (n.entry.settle limits session state).1⟩ := by
  obtain ⟨counts, statement⟩ := n
  cases statement with
  | command text c =>
    refine ⟨rfl, ?_⟩
    intro reason hreason
    simp only [Entry.settle, Entry.verdict, Node.entry, hreason]
  | loop text count body => exact ⟨rfl, _, h.toNat_refuse rfl, rfl⟩
  | ignored text reason => rfl

end Node

theorem Entry.forall₂_reportsOn {limits : Limits} {nodes : List (Node α)}
    (session : Session σ α) : ∀ {visits : List Nat} {entries : List (Entry α)} (state : σ),
      visits.map (fun v => nodes[v]?.map Node.entry) = entries.map some →
      (∀ v ∈ visits, ∀ n, nodes[v]? = some n → n.Due limits) →
      List.Forall₂ (fun v r => ∃ n, nodes[v]? = some n ∧ n.Reported limits r) visits
        (reportsOn limits session state entries)
  | [], [], _, _, _ => .nil
  | v :: visits, e :: entries, state, heq, hdue => by
    obtain ⟨hentry, hrest⟩ := List.cons.inj heq
    obtain ⟨n, hn, rfl⟩ := Option.map_eq_some_iff.1 hentry
    rw [reportsOn_cons]
    exact .cons ⟨n, hn, (hdue v (List.mem_cons_self ..) n hn).reported session state⟩
      (forall₂_reportsOn session _ hrest fun w hw => hdue w (List.mem_cons_of_mem _ hw))

/-! ## Runs -/

section

variable [Scalar α]

theorem Limits.run_eq (limits : Limits) (session : Session σ α) (program : String) (state : σ) :
    let entries : List (Entry α) :=
      Statement.unrollAll limits 1 (parse limits.repeatDepth program)
    limits.run session program state =
      (Entry.reportsOn limits session state entries,
        session.finish (Entry.stateAfter limits session state entries)) := by
  have hruns : (1 : UInt64).toNat ≤ limits.mostRuns := Nat.le_max_left ..
  intro entries
  rw [run, Statement.executeAll_eq limits session _ hruns, Entry.foldl_step]
  simp [entries]

/-- The log of a run has a call for each command of the unrolling that is not
    refused, and then the end of the batch. -/
theorem Limits.run_logged (limits : Limits) (session : Session σ α) (program : String)
    (state : σ) :
    let calls := limits.calls (Statement.unrollAll limits 1 (parse limits.repeatDepth program))
    limits.run session.logged program (state, []) =
      ((limits.run session program state).1, (limits.run session program state).2,
        calls.map .apply ++ [.finish]) := by
  intro calls
  rw [run_eq, run_eq, Entry.reportsOn_logged, Entry.stateAfter_logged, List.nil_append]
  rfl

/-- **What a run asks of its session, and what it reports.**  A run carries out
    the unrolling of its program from left to right, with one report for each
    entry, and then ends the batch.  The session gets every command of the
    unrolling that is not refused, in this order; none is above its ceiling.
    Every entry is that of a statement of the tree which no refused block
    contains, and a statement of the tree is one which no dropped block
    contains. -/
theorem Limits.run_unrolled (limits : Limits) (session : Session σ α) (program : String)
    (state : σ) :
    let tree : List (Statement α) := parse limits.repeatDepth program
    let entries := Statement.unrollAll limits 1 tree
    let calls := limits.calls entries
    let done := entries.foldl (Entry.step limits session) ⟨state, #[]⟩
    limits.run session program state = (done.reports.toList, session.finish done.state) ∧
      done.reports.toList = Entry.reportsOn limits session state entries ∧
      limits.run session.logged program (state, []) =
        (done.reports.toList, session.finish done.state, calls.map .apply ++ [.finish]) ∧
      (∀ c ∈ calls, limits.Permits c) ∧
      (∀ e ∈ entries, ∃ n ∈ Statement.nodesAll [] tree, n.Due limits ∧ n.entry = e ∧
        ∀ iterations, e.request = .refuse iterations →
          (UInt64.ofNat iterations).toNat = iterations) ∧
      (Statement.nodesAll [] tree).map Node.row =
        Scan.rows limits.repeatDepth [] ((pieces program).map words) := by
  intro tree entries calls done
  have hdone : done = ⟨Entry.stateAfter limits session state entries,
      (Entry.reportsOn limits session state entries).toArray⟩ := by
    rw [show done = _ from Entry.foldl_step limits session entries _]
    simp
  refine ⟨?_, ?_, ?_, fun c => permits_of_mem_calls, ?_, ?_⟩
  · rw [run_eq, hdone]
  · rw [hdone]
  · rw [run_logged, run_eq, hdone]
  · intro e he
    have hvisited := Statement.unrollAll_visited limits tree (allows_nil limits) 0
    obtain ⟨n, hn, hdue, rfl⟩ := hvisited.exists_of_mem he
    exact ⟨n, hn, hdue, rfl, fun iterations => hdue.toNat_refuse⟩
  · rw [Statement.rows_nodesAll]
    exact listingAll_parse limits.repeatDepth program

theorem Entry.single_mem_segments {limits : Limits} {program : String} {e : Entry α}
    {c : Command α} (he : e ∈ Statement.unrollAll limits 1 (parse limits.repeatDepth program))
    (hrequest : e.request = .perform c) : .single e.text (.ok c) ∈ segments program := by
  have hvisited := Statement.unrollAll_visited (α := α) limits (parse limits.repeatDepth program)
    (Limits.allows_nil limits) 0
  obtain ⟨⟨counts, statement⟩, hn, -, rfl⟩ := hvisited.exists_of_mem he
  cases statement with
  | loop text count body => cases hrequest
  | ignored text reason => cases hrequest
  | command text command =>
    cases hrequest
    exact Statement.single_of_command _ _ _ hn

theorem Statement.length_nodesAll_parse (maxDepth : UInt32) (program : String) :
    (nodesAll [] (parse maxDepth program : List (Statement α))).length ≤
      (pieces program).length := by
  rw [length_nodesAll, parse_eq]
  exact (Nat.le_of_add_right_le (sizeAll_blockAt maxDepth 0 _)).trans (length_segments_le program)

/-- **How often every statement is reported.**  Each report is on a statement of
    the tree, the one whose text it would have if all texts were different.
    Each statement is reported as often as the blocks around it run it, if none
    of them is refused; a block is so only if it is refused itself.  So a batch
    has no more reports and no more calls than there would be if every piece of
    the program was run as often as any may be. -/
theorem Limits.run_visits (limits : Limits) (session : Session σ α) (program : String)
    (state : σ) :
    let tree : List (Statement α) := parse limits.repeatDepth program
    let nodes := Statement.nodesAll [] tree
    let visits := Statement.visitsAll limits 1 0 tree
    let reports := (limits.run session program state).1
    let log := (limits.run session.logged program (state, [])).2.2
    List.Forall₂ (fun v r => ∃ n, nodes[v]? = some n ∧ n.Reported limits r) visits reports ∧
      (∀ label : Nat → String,
        (Statement.executeAll limits session 1 (Statement.relabelAll label 0 tree)
          ⟨state, #[]⟩).reports.toList.map Report.statement = visits.map label) ∧
      (∀ k n, nodes[k]? = some n → visits.count k = n.visits limits) ∧
      reports.length ≤ limits.mostRuns * (pieces program).length ∧
      (log.filterMap Call.command?).length ≤ limits.mostRuns * (pieces program).length := by
  intro tree nodes visits reports log
  have hvisited : Visited limits 1 0 nodes (Statement.unrollAll limits 1 tree) visits :=
    Statement.unrollAll_visited limits tree (allows_nil limits) 0
  have hbound := hvisited.length_le.trans
    (Nat.mul_le_mul_left _ (Statement.length_nodesAll_parse limits.repeatDepth program))
  have hreports : reports =
      Entry.reportsOn limits session state (Statement.unrollAll limits 1 tree) := by
    simp only [reports, run_eq, tree]
  have hlog : log.filterMap Call.command? = limits.calls (Statement.unrollAll limits 1 tree) := by
    have happly : ∀ calls : List (Command α),
        (calls.map Call.apply).filterMap Call.command? = calls := by
      intro calls
      rw [List.filterMap_map]
      exact List.filterMap_some
    simp only [log, run_logged, List.filterMap_append, happly]
    simp [Call.command?, tree]
  refine ⟨?_, ?_, ?_, ?_, ?_⟩
  · rw [hreports]
    exact Entry.forall₂_reportsOn session state hvisited.entries_eq fun v hv n => hvisited.due hv
  · intro label
    -- with texts of their own, the reports tell the statements apart
    have htexts := Statement.texts_unrollAll_relabel limits label tree 1 0
    have hruns : (1 : UInt64).toNat ≤ limits.mostRuns := Nat.le_max_left ..
    rw [Statement.executeAll_eq limits session _ hruns, Entry.foldl_step]
    simpa [Entry.statements_reportsOn] using htexts
  · intro k n hn
    have hcount := hvisited.count_eq k n hn
    rwa [Nat.one_mul, Nat.zero_add] at hcount
  · rw [hreports, Entry.reportsOn, List.length_mapIdx]
    exact hbound
  · rw [hlog]
    exact (limits.length_calls_le _).trans hbound

end

end TurtleGraphics
