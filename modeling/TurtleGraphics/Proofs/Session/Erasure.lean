/-
  Erasure: statements that are ignored have no effect.

  A program may be replaced by the texts of what was applied of it: the blocks
  are gone, and everything that was ignored.

  * `Session.Atomic`: a command that is ignored leaves the state as it is;
  * `Entry.applied`: what is applied of some entries leads to the same state;
  * `Entry.Readable`: the text of an entry is read as its command;
  * `Limits.run_erased`: running the texts of what was applied, in any session
    that is atomic;
  * `PlaneTurtle.session_atomic`, `Scene.session_atomic`: the turtles are so.
-/
import TurtleGraphics.Proofs.Program.Execution
import TurtleGraphics.Session.Plane
import TurtleGraphics.Session.Scene

namespace TurtleGraphics

variable {σ α : Type}

/-! ## What is applied -/

/-- A command that is ignored leaves the state as it is. -/
def Session.Atomic (session : Session σ α) : Prop :=
  ∀ (state : σ) (command : Command α) (reason : Ignored α) (behind : σ),
    session.apply state command = (.ignored reason, behind) → behind = state

/-- Reports on what was applied. -/
def appliedReports (reports : List (Report α)) : List (Report α) :=
  reports.filter fun r => r.outcome.isApplied

namespace Entry

/-- The entries that are applied, of those that are carried out from a state
    on. -/
def applied (limits : Limits) (session : Session σ α) : σ → List (Entry α) → List (Entry α)
  | _, [] => []
  | state, e :: rest =>
    let (outcome, behind) := e.settle limits session state
    if outcome.isApplied then e :: applied limits session behind rest
    else applied limits session behind rest

variable {limits : Limits} {session : Session σ α}

theorem settle_of_ignored (h : session.Atomic) {state : σ} {e : Entry α} {reason : Ignored α}
    {behind : σ} (hsettle : e.settle limits session state = (.ignored reason, behind)) :
    behind = state := by
  unfold settle at hsettle
  split at hsettle
  · exact h state _ reason behind hsettle
  · cases hsettle
    rfl

theorem request_of_applied {state : σ} {e : Entry α}
    {behind : σ} (hsettle : e.settle limits session state = (.applied, behind)) :
    ∃ c, e.request = .perform c := by
  obtain ⟨text, request⟩ := e
  cases request with
  | perform c => exact ⟨c, rfl⟩
  | ignore reason => cases hsettle
  | refuse iterations => cases hsettle

theorem of_mem_applied {e : Entry α} : ∀ {entries : List (Entry α)} {state : σ},
    e ∈ applied limits session state entries → e ∈ entries ∧ ∃ c, e.request = .perform c
  | first :: rest, state, h => by
    rcases hsettle : first.settle limits session state with ⟨outcome, behind⟩
    rw [applied, hsettle] at h
    cases outcome with
    | applied =>
      rcases List.mem_cons.1 h with rfl | h
      · exact ⟨List.mem_cons_self .., request_of_applied hsettle⟩
      · exact ⟨List.mem_cons_of_mem _ (of_mem_applied h).1, (of_mem_applied h).2⟩
    | ignored reason => exact ⟨List.mem_cons_of_mem _ (of_mem_applied h).1, (of_mem_applied h).2⟩

/-- **What is applied of entries** is applied again without the others, and
    leads to the same state. -/
theorem applied_spec (limits : Limits) (h : session.Atomic) (entries : List (Entry α))
    (state : σ) :
    stateAfter limits session state (applied limits session state entries) =
        stateAfter limits session state entries ∧
      reportsOn limits session state (applied limits session state entries) =
        appliedReports (reportsOn limits session state entries) := by
  induction entries generalizing state with
  | nil => exact ⟨rfl, rfl⟩
  | cons e rest ih =>
    rcases hsettle : e.settle limits session state with ⟨outcome, behind⟩
    obtain ⟨hstate, hreports⟩ := ih behind
    cases outcome with
    | applied =>
      have hcons : applied limits session state (e :: rest) =
          e :: applied limits session behind rest := by simp [applied, hsettle, Outcome.isApplied]
      rw [hcons, stateAfter_cons, stateAfter_cons, reportsOn_cons, reportsOn_cons, hsettle]
      exact ⟨hstate, congrArg _ hreports⟩
    | ignored reason =>
      have hcons : applied limits session state (e :: rest) =
          applied limits session behind rest := by simp [applied, hsettle, Outcome.isApplied]
      -- the state behind an ignored entry is the one before it
      obtain rfl := settle_of_ignored h hsettle
      rw [hcons, stateAfter_cons, reportsOn_cons, hsettle]
      exact ⟨hstate, hreports⟩

end Entry

/-! ## Reading texts of entries -/

section

variable [Scalar α]

/-- An entry whose text is that of a piece, and is read as its command. -/
structure Entry.Readable (e : Entry α) (ws : List Word) (c : Command α) : Prop where
  normal : Normal ws
  request : e.request = .perform c
  text : e.text = joinWords ws
  segment : Segment.ofWords? ws = some (.single e.text (.ok c))

theorem Entry.exists_readable {limits : Limits} {program : String} {e : Entry α} {c : Command α}
    (he : e ∈ Statement.unrollAll limits 1 (parse limits.repeatDepth program))
    (hrequest : e.request = .perform c) : ∃ ws, e.Readable ws c := by
  obtain ⟨ws, hws, hsegment⟩ := List.mem_filterMap.1 (Entry.single_mem_segments he hrequest)
  exact ⟨ws, normal_of_mem_wordLists hws, hrequest, Segment.text_ofWords? hsegment, hsegment⟩

theorem Entry.exists_wordLists (limits : Limits) (maxDepth : UInt32) :
    ∀ {entries : List (Entry α)}, (∀ e ∈ entries, ∃ ws c, e.Readable ws c) →
      ∃ wss : List (List Word), (∀ ws ∈ wss, Normal ws) ∧
        entries.map Entry.text = wss.map joinWords ∧
        Statement.unrollAll limits 1
          (Statement.blockAt maxDepth 0 (wss.filterMap Segment.ofWords?)).1 = entries
  | [], _ => ⟨[], by simp, rfl, by simp [Statement.unrollAll]⟩
  | e :: rest, h => by
    obtain ⟨ws, c, hread⟩ := h e (List.mem_cons_self ..)
    obtain ⟨wss, hnormal, htexts, hunroll⟩ :=
      exists_wordLists limits maxDepth fun e he => h e (List.mem_cons_of_mem _ he)
    refine ⟨ws :: wss, ?_, ?_, ?_⟩
    · rintro vs hvs
      rcases List.mem_cons.1 hvs with rfl | hvs
      · exact hread.normal
      · exact hnormal vs hvs
    · rw [List.map_cons, List.map_cons, htexts, hread.text]
    · obtain ⟨text, request⟩ := e
      obtain rfl : request = .perform c := hread.request
      rw [List.filterMap_cons, hread.segment, Statement.blockAt_single, Statement.unrollAll,
        hunroll]
      rfl

/-- **The texts of entries are read back**, whatever blocks they came from. -/
theorem Entry.unrollAll_joined (limits : Limits) (maxDepth : UInt32) {entries : List (Entry α)}
    (h : ∀ e ∈ entries, ∃ ws c, e.Readable ws c) :
    Statement.unrollAll limits 1 (parse maxDepth (";".intercalate (entries.map Entry.text))) =
      entries := by
  obtain ⟨wss, hnormal, htexts, hunroll⟩ := exists_wordLists limits maxDepth h
  have hsegments : (segments (";".intercalate (entries.map Entry.text)) : List (Segment α)) =
      wss.filterMap Segment.ofWords? := by
    rw [htexts, segments_eq_filterMap, ← wordLists_eq, wordLists_joined hnormal]
  rw [Statement.parse_eq, hsegments, hunroll]

/-! ## Erasing what was ignored -/

/-- The program that has only the texts of what was applied. -/
def erased (reports : List (Report α)) : String :=
  ";".intercalate ((appliedReports reports).map Report.statement)

/-- **Running what was applied** gives the same reports without the others, and
    the same state. -/
theorem Limits.run_erased (limits : Limits) {session : Session σ α} (h : session.Atomic)
    (program : String) (state : σ) :
    limits.run session (erased (limits.run session program state).1) state =
      (appliedReports (limits.run session program state).1,
        (limits.run session program state).2) := by
  have hrun := limits.run_eq session program state
  generalize hentries : (Statement.unrollAll limits 1 (parse limits.repeatDepth program) :
    List (Entry α)) = entries at hrun
  obtain ⟨hstate, hreports⟩ := Entry.applied_spec limits h entries state
  -- whatever was applied can be read again
  have hreadable : ∀ e ∈ Entry.applied limits session state entries, ∃ ws c, e.Readable ws c := by
    intro e he
    obtain ⟨hmem, c, hc⟩ := Entry.of_mem_applied he
    rw [← hentries] at hmem
    obtain ⟨ws, hread⟩ := Entry.exists_readable hmem hc
    exact ⟨ws, c, hread⟩
  have herased : erased (limits.run session program state).1 =
      ";".intercalate ((Entry.applied limits session state entries).map Entry.text) := by
    rw [erased, hrun, ← Entry.statements_reportsOn limits session, hreports]
  rw [herased, run_eq, Entry.unrollAll_joined limits limits.repeatDepth hreadable, hstate, hreports,
    hrun]

end

/-! ## The sessions -/

theorem eq_of_ite_ignored {τ : Type} {p : Prop} [Decidable p] {t done behind : τ}
    {fault reason : Ignored α}
    (h : (if p then (Outcome.applied, done) else (.ignored fault, t)) = (.ignored reason, behind)) :
    behind = t := by
  split at h
  · cases h
  · exact (Prod.mk.inj h).2.symm

section

variable [Scalar α]

theorem PlaneTurtle.session_atomic [Surface σ α] :
    (session : Session (PlaneTurtle σ α) α).Atomic := by
  intro t command reason behind h
  cases command with
  | forward | backward | setColor | setWidth => exact eq_of_ite_ignored h
  | up | down | clearScreen => exact (Prod.mk.inj h).2.symm
  | right | left | penUp | penDown | koch | sierpinski => cases h

theorem SpaceTurtle.eq_of_apply_ignored {t behind : SpaceTurtle α} {command : Command α}
    {reason : Ignored α} (h : t.apply command = (.ignored reason, behind)) : behind = t := by
  cases command with
  | forward | backward | setColor | setWidth => exact eq_of_ite_ignored h
  | right | left | up | down | penUp | penDown | koch | sierpinski | clearScreen => cases h

variable [Surface σ α]

theorem Scene.apply_eq {command : Command α} (h : command ≠ .clearScreen) (s : Scene σ α) :
    s.apply command =
      ((s.turtle.apply command).1, { s with turtle := (s.turtle.apply command).2 }) := by
  cases command with
  | clearScreen => exact absurd rfl h
  | _ => rfl

theorem Scene.session_atomic : (session : Session (Scene σ α) α).Atomic := by
  intro s command reason behind h
  by_cases hclear : command = .clearScreen
  · subst hclear
    cases h
  · have happly : s.apply command = (.ignored reason, behind) := h
    rw [apply_eq hclear] at happly
    obtain ⟨houtcome, rfl⟩ := Prod.mk.inj happly
    have hturtle : (s.turtle.apply command).2 = s.turtle :=
      SpaceTurtle.eq_of_apply_ignored (Prod.ext houtcome rfl)
    rw [hturtle]

/-- **Ignored statements have no effect**, for the turtle of the plane and for
    scenes: a command that is ignored leaves the whole state as it is, and the
    texts of what was applied of a program, run on their own, are all applied
    again and lead to the same state. -/
theorem ignored_without_effect :
    (PlaneTurtle.session : Session (PlaneTurtle σ α) α).Atomic ∧
      (Scene.session : Session (Scene σ α) α).Atomic ∧
      ∀ (limits : Limits) (program : String),
        (∀ t : PlaneTurtle σ α,
          let first := limits.run PlaneTurtle.session program t
          limits.run PlaneTurtle.session (erased first.1) t = (appliedReports first.1, first.2)) ∧
        ∀ s : Scene σ α,
          let first := limits.run Scene.session program s
          limits.run Scene.session (erased first.1) s = (appliedReports first.1, first.2) :=
  ⟨PlaneTurtle.session_atomic, Scene.session_atomic, fun limits program =>
    ⟨limits.run_erased PlaneTurtle.session_atomic program,
      limits.run_erased Scene.session_atomic program⟩⟩

end

end TurtleGraphics
