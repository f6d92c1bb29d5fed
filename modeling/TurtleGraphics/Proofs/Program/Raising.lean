/-
  Raising limits: a run that reaches none of its limits does not depend on them.

  With other limits a program may be read as another tree: a block that was nested
  too deep is one now, with statements in it.  These trees may differ wherever
  nothing is run, as under a count of zero, and so may not be compared one by one.
  Their unrollings are the same.

  * `Outcome.ReachesLimit`: a statement is ignored because of a limit;
  * `Limits.AtMost`: limits of which none is above its counterpart;
  * `Limits.AtMost.verdict_eq`: an entry that reaches no limit means the same under
    higher ones, and `Limits.AtMost.unrollAll_parse`: so does a program;
  * `Limits.run_raised`: so does a run, in any session.
-/
import TurtleGraphics.Proofs.Program.Room
import TurtleGraphics.Proofs.Program.Simulation
import TurtleGraphics.Session.Plane

namespace TurtleGraphics

variable {σ α : Type}

/-! ## Reaching a limit -/

/-- The reason why something is above a limit: a level is, or a block is refused. -/
def Ignored.ReachesLimit : Ignored α → Prop
  | levelAboveCeiling .. => True
  | reason => reason.RefusesBlock

instance : (reason : Ignored α) → Decidable reason.ReachesLimit
  | .levelAboveCeiling .. | .nestingTooDeep _ | .tooManyIterations .. => isTrue trivial
  | .outOfBounds | .invalidColor _ | .invalidWidth _ | .unknownCommand _ | .missingArgument
  | .invalidArgument _ | .strayEnd => isFalse id

/-- The outcome of a statement that is above a limit. -/
def Outcome.ReachesLimit : Outcome α → Prop
  | applied => False
  | ignored reason => reason.ReachesLimit

instance : (outcome : Outcome α) → Decidable outcome.ReachesLimit
  | .applied => isFalse id
  | .ignored reason => inferInstanceAs (Decidable reason.ReachesLimit)

theorem Outcome.reachesLimit_of_refusesBlock {outcome : Outcome α} (h : outcome.RefusesBlock) :
    outcome.ReachesLimit := by
  cases outcome with
  | applied => exact h
  | ignored reason =>
    cases reason with
    | levelAboveCeiling level ceiling => exact trivial
    | _ => exact h

theorem Limits.reachesLimit_of_refusal? {limits : Limits} {c : Command α} {reason : Ignored α}
    (h : limits.refusal? c = some reason) : reason.ReachesLimit := by
  have hlevel : ∀ level ceiling : UInt32,
      refusalOfLevel? level ceiling = some reason → reason.ReachesLimit := by
    intro level ceiling hrefusal
    unfold refusalOfLevel? at hrefusal
    split at hrefusal
    · cases hrefusal
      exact trivial
    · cases hrefusal
  cases c with
  | koch level length => exact hlevel _ _ h
  | sierpinski level side => exact hlevel _ _ h
  | _ => cases h

/-! ## Higher limits -/

/-- None of the limits is above its counterpart. -/
structure Limits.AtMost (limits limits' : Limits) : Prop where
  koch : limits.koch ≤ limits'.koch
  sierpinski : limits.sierpinski ≤ limits'.sierpinski
  repeatDepth : limits.repeatDepth ≤ limits'.repeatDepth
  repeatIterations : limits.repeatIterations ≤ limits'.repeatIterations

namespace Limits.AtMost

variable {limits limits' : Limits}

theorem permits (h : limits.AtMost limits') {c : Command α} (hc : limits.Permits c) :
    limits'.Permits c := by
  cases c with
  | koch level length => exact UInt32.le_trans hc h.koch
  | sierpinski level side => exact UInt32.le_trans hc h.sierpinski
  | _ => exact trivial

theorem verdict_eq (h : limits.AtMost limits') {e : Entry α}
    (hbelow : ∀ reason, e.verdict limits = .error reason → ¬ reason.ReachesLimit) :
    e.verdict limits' = e.verdict limits := by
  obtain ⟨text, request⟩ := e
  cases request with
  | ignore reason => rfl
  | refuse iterations => exact absurd trivial (hbelow _ rfl)
  | perform c =>
    cases hrefusal : limits.refusal? c with
    | some reason =>
      have hverdict : (⟨text, .perform c⟩ : Entry α).verdict limits = .error reason := by
        simp only [Entry.verdict, hrefusal]
      exact absurd (reachesLimit_of_refusal? hrefusal) (hbelow reason hverdict)
    | none =>
      have hpermitted := permits_iff.1 (h.permits (permits_iff.2 hrefusal))
      simp only [Entry.verdict, hrefusal, hpermitted]

theorem settle_eq (h : limits.AtMost limits') {session : Session σ α} {state : σ} {e : Entry α}
    (hbelow : ¬ (e.settle limits session state).1.ReachesLimit) :
    e.settle limits' session state = e.settle limits session state := by
  have hverdict : e.verdict limits' = e.verdict limits := by
    refine h.verdict_eq ?_
    intro reason hreason hreaches
    unfold Entry.settle at hbelow
    rw [hreason] at hbelow
    exact hbelow hreaches
  rw [Entry.settle, Entry.settle, hverdict]

theorem roomier (h : limits.AtMost limits') : Statement.Roomier limits limits' 0 0 1 1 where
  depth := UInt32.le_iff_toNat_le.1 h.repeatDepth
  ceiling := UInt32.le_iff_toNat_le.1 h.repeatIterations
  enclosing := Nat.le_refl 1

variable [Scalar α]

/-- **A program of which no block is refused** is unrolled to the same entries under
    higher limits, though its tree may be another one. -/
theorem unrollAll_parse (h : limits.AtMost limits') {program : String}
    (hadmitted : ∀ e ∈ Statement.unrollAll limits 1
      (parse limits.repeatDepth program : List (Statement α)), ¬ e.RefusesBlock) :
    (Statement.unrollAll limits' 1 (parse limits'.repeatDepth program) : List (Entry α)) =
      Statement.unrollAll limits 1 (parse limits.repeatDepth program) :=
  Statement.unrollAll_roomier h.roomier (segments program) (.inl Iff.rfl) hadmitted

theorem run_eq (h : limits.AtMost limits') {session : Session σ α} {program : String} {state : σ}
    (hbelow : ∀ r ∈ (limits.run session program state).1, ¬ r.outcome.ReachesLimit) :
    limits'.run session program state = limits.run session program state := by
  rw [limits.run_eq] at hbelow
  have hentries := h.unrollAll_parse <| Entry.admitted_of_reports fun r hr hrefuses =>
    hbelow r hr (Outcome.reachesLimit_of_refusesBlock hrefuses)
  have hstep : ∀ (e : Entry α) (s t : σ), s = t → ¬ (e.settle limits session s).1.ReachesLimit →
      (e.settle limits session s).1 = (e.settle limits' session t).1 ∧
        (e.settle limits session s).2 = (e.settle limits' session t).2 := by
    rintro e s t rfl hexpected
    rw [h.settle_eq hexpected]
    exact ⟨rfl, rfl⟩
  -- the entries are the same, and each of them leads to the same under both limits
  obtain ⟨hreports, hstate⟩ := Entry.lockstep Eq (¬ ·.ReachesLimit) (fun _ => True)
    (fun e _ s t hst hexpected _ => hstep e s t hst hexpected) rfl hbelow fun _ _ => trivial
  rw [limits'.run_eq, limits.run_eq, hentries, hreports, hstate]

end Limits.AtMost

/-! ## Runs -/

/-- **Limits may be raised.**  If no statement of a run is reported to have a level
    above its ceiling, or to be a block that is nested too deep or run too often, then
    under limits that are at least as high the run gives the same reports, asks the
    same of its session, and leads to the same state. -/
theorem Limits.run_raised [Scalar α] {limits limits' : Limits} (h : limits.AtMost limits')
    (session : Session σ α) (program : String) (state : σ)
    (hbelow : ∀ r ∈ (limits.run session program state).1, ¬ r.outcome.ReachesLimit) :
    limits'.run session program state = limits.run session program state ∧
      limits'.run session.logged program (state, []) =
        limits.run session.logged program (state, []) := by
  refine ⟨h.run_eq hbelow, h.run_eq ?_⟩
  rw [limits.run_logged]
  exact hbelow

theorem run_raised_unreached :
    let limits : Limits := { koch := 1, sierpinski := 0, repeatDepth := 2, repeatIterations := 6 }
    let program := "repeat 3; repeat 2; rt 9; end; repeat 0; koch 5 1; repeat 7; end; end; end; ut 1"
    let t : PlaneTurtle (LineBuffer Float) Float := .start (.empty ⟨100, 100⟩) 100 .initial
    limits.AtMost .standard ∧
      (∀ r ∈ (limits.run PlaneTurtle.session program t).1, ¬ r.outcome.ReachesLimit) ∧
      Limits.standard.run PlaneTurtle.session program t =
        limits.run PlaneTurtle.session program t ∧
      Limits.standard.run PlaneTurtle.session.logged program (t, []) =
        limits.run PlaneTurtle.session.logged program (t, []) := by
  -- the fractal above the lower ceiling and the block that is too deep are never reached
  intro limits program t
  have hle : limits.AtMost .standard := ⟨by decide, by decide, by decide, by decide⟩
  have hbelow : ∀ r ∈ (limits.run PlaneTurtle.session program t).1,
      ¬ r.outcome.ReachesLimit := by
    decide +kernel
  exact ⟨hle, hbelow, Limits.run_raised hle PlaneTurtle.session program t hbelow⟩

end TurtleGraphics
