/-
  Simulation: sessions that cannot be told apart by their outcomes.

  Two sessions may be in states that differ, but in nothing that an outcome shows.
  If this stays so whatever they carry out, their runs give the same reports.

  * `Entry.lockstep`: two sessions that carry out the same entries, and are related
    after each of them, as long as the outcomes are what they should be;
    `Entry.lockstep_of_calls` looks at nothing but the commands they are given;
  * `Session.Simulates`: a relation between the states of two sessions that every
    command keeps, with equal outcomes;
  * `Session.Simulates.entries`: what it makes of the entries of a program, and
    `Session.Simulates.run` and `Limits.run_eq_of_simulates` of its runs;
  * `Limits.run_append`: two programs may be run as one batch or as two, if the end
    of a batch changes nothing that matters later.
-/
import TurtleGraphics.Proofs.Program.Closing
import TurtleGraphics.Proofs.Program.Execution

namespace TurtleGraphics

variable {σ τ α : Type}

/-! ## Lockstep -/

namespace Entry

variable {limits limits' : Limits} {first : Session σ α} {second : Session τ α}
  (R : σ → τ → Prop) (Expected Expected' : Outcome α → Prop)

/-- **Two sessions in lockstep**, each under its own limits.  If in related states
    every entry has equal outcomes and leads to related states, provided that both
    outcomes are expected, then the reports are equal, and the states at the end are
    related, provided that all reports are expected. -/
theorem lockstep : ∀ {entries : List (Entry α)} {s : σ} {t : τ},
    (∀ e ∈ entries, ∀ s t, R s t → Expected (e.settle limits first s).1 →
      Expected' (e.settle limits' second t).1 →
        (e.settle limits first s).1 = (e.settle limits' second t).1 ∧
          R (e.settle limits first s).2 (e.settle limits' second t).2) →
    R s t → (∀ r ∈ reportsOn limits first s entries, Expected r.outcome) →
    (∀ r ∈ reportsOn limits' second t entries, Expected' r.outcome) →
      reportsOn limits first s entries = reportsOn limits' second t entries ∧
        R (stateAfter limits first s entries) (stateAfter limits' second t entries)
  | [], _, _, _, hst, _, _ => ⟨rfl, hst⟩
  | e :: rest, s, t, hstep, hst, hfirst, hsecond => by
    rw [reportsOn_cons] at hfirst hsecond
    obtain ⟨hone, hfirst⟩ := List.forall_mem_cons.1 hfirst
    obtain ⟨hother, hsecond⟩ := List.forall_mem_cons.1 hsecond
    obtain ⟨houtcome, hbehind⟩ := hstep e (List.mem_cons_self ..) s t hst hone hother
    obtain ⟨hreports, hstate⟩ :=
      lockstep (fun e he => hstep e (List.mem_cons_of_mem _ he)) hbehind hfirst hsecond
    rw [reportsOn_cons, reportsOn_cons, houtcome, hreports]
    exact ⟨rfl, hstate⟩

theorem lockstep_of_calls {entries : List (Entry α)} {s : σ} {t : τ}
    (hstep : ∀ c ∈ limits.calls entries, ∀ s t, R s t → Expected (first.apply s c).1 →
      Expected' (second.apply t c).1 →
        (first.apply s c).1 = (second.apply t c).1 ∧ R (first.apply s c).2 (second.apply t c).2)
    (hst : R s t) (hfirst : ∀ r ∈ reportsOn limits first s entries, Expected r.outcome)
    (hsecond : ∀ r ∈ reportsOn limits second t entries, Expected' r.outcome) :
    reportsOn limits first s entries = reportsOn limits second t entries ∧
      R (stateAfter limits first s entries) (stateAfter limits second t entries) := by
  refine lockstep R Expected Expected' ?_ hst hfirst hsecond
  intro e he s t hst
  unfold settle
  cases hverdict : e.verdict limits with
  | ok c => exact hstep c (Limits.mem_calls_of_verdict he hverdict) s t hst
  | error reason => exact fun _ _ => ⟨rfl, hst⟩

end Entry

/-! ## Simulation -/

/-- Sessions that have equal outcomes in related states, and go on to related
    states. -/
structure Session.Simulates (first : Session σ α) (second : Session τ α) (R : σ → τ → Prop) :
    Prop where
  outcome : ∀ s t c, R s t → (first.apply s c).1 = (second.apply t c).1
  state : ∀ s t c, R s t → R (first.apply s c).2 (second.apply t c).2

namespace Session.Simulates

variable {first : Session σ α} {second : Session τ α} {R : σ → τ → Prop}

theorem of_step
    (h : ∀ s t c, R s t →
      (first.apply s c).1 = (second.apply t c).1 ∧ R (first.apply s c).2 (second.apply t c).2) :
    first.Simulates second R where
  outcome s t c hst := (h s t c hst).1
  state s t c hst := (h s t c hst).2

theorem refl (session : Session σ α) : session.Simulates session (· = ·) where
  outcome _ _ _ h := by rw [h]
  state _ _ _ h := by rw [h]

theorem entries (h : first.Simulates second R) (limits : Limits) (entries : List (Entry α))
    {s : σ} {t : τ} (hst : R s t) :
    Entry.reportsOn limits first s entries = Entry.reportsOn limits second t entries ∧
      R (Entry.stateAfter limits first s entries) (Entry.stateAfter limits second t entries) :=
  Entry.lockstep_of_calls R (fun _ => True) (fun _ => True)
    (fun c _ s t hst _ _ => ⟨h.outcome s t c hst, h.state s t c hst⟩) hst (fun _ _ => trivial)
    fun _ _ => trivial

end Session.Simulates

/-- **Related states** give equal reports on every program, and lead to related states, if
    the end of a batch keeps states related. -/
theorem Session.Simulates.run [Scalar α] {first : Session σ α} {second : Session τ α}
    {R : σ → τ → Prop} (h : first.Simulates second R)
    (hfinish : ∀ s t, R s t → R (first.finish s) (second.finish t)) (limits : Limits)
    (program : String) {s : σ} {t : τ} (hst : R s t) :
    (limits.run first program s).1 = (limits.run second program t).1 ∧
      R (limits.run first program s).2 (limits.run second program t).2 := by
  obtain ⟨hreports, hstate⟩ := h.entries limits
    (Statement.unrollAll limits 1 (parse limits.repeatDepth program)) hst
  rw [limits.run_eq, limits.run_eq]
  exact ⟨hreports, hfinish _ _ hstate⟩

namespace Limits

variable [Scalar α] (limits : Limits) {session : Session σ α} {R : σ → σ → Prop}

theorem run_eq_of_simulates (h : session.Simulates session R)
    (hfinish : ∀ s t, R s t → session.finish s = session.finish t) (program : String) {s t : σ}
    (hst : R s t) : limits.run session program s = limits.run session program t := by
  obtain ⟨hreports, hstate⟩ := h.entries limits
    (Statement.unrollAll limits 1 (parse limits.repeatDepth program)) hst
  rw [run_eq, run_eq, hreports, hfinish _ _ hstate]

/-- **Two programs as one batch.**  If the first leaves no block open, they may as
    well be run as two batches, provided that the end of a batch leads to a state
    that is related to the one before, and to the same state from related ones. -/
theorem run_append (h : session.Simulates session R)
    (hfinish : ∀ s t, R s t → session.finish s = session.finish t)
    (hend : ∀ s, R (session.finish s) s) {first : String}
    (hclosed : Segment.openBlocks 0 (segments first : List (Segment α)) = 0) (second : String)
    (state : σ) :
    let before := limits.run session first state
    let after := limits.run session second before.2
    limits.run session (first ++ ";" ++ second) state = (before.1 ++ after.1, after.2) := by
  intro before after
  have hafter : after = limits.run session second (Entry.stateAfter limits session state
      (Statement.unrollAll limits 1 (parse limits.repeatDepth first))) := by
    simp only [after, before, limits.run_eq session first]
    exact limits.run_eq_of_simulates h hfinish second (hend _)
  rw [hafter, run_eq, run_eq, parse_append _ hclosed, Statement.unrollAll_append,
    Entry.reportsOn_append, Entry.stateAfter_append]
  simp only [before, limits.run_eq session first]

end Limits

end TurtleGraphics
