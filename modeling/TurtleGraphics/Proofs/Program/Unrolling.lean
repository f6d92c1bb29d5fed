/-
  Unrolling: what running a program amounts to.

  A program with blocks is run as if its blocks were written out.  Its
  unrolling is a flat list of entries; it depends on the program and the limits
  alone, never on what a session answers.

  * `Statement.unrollAll` is the unrolling of statements: a block stands there
    as often as it is run, or once if it is refused;
  * `Entry.step` carries out one entry, with one report for it;
  * `Statement.executeAll_eq`: running statements is carrying out their
    unrolling from left to right.
-/
import TurtleGraphics.Program.Run

namespace TurtleGraphics

variable {σ α : Type}

/-! ## Entries -/

/-- What an entry asks for. -/
inductive Request (α : Type) where
  | perform (command : Command α)
  /-- Nothing, as the statement makes no sense. -/
  | ignore (reason : Ignored α)
  /-- Nothing, as it is a block that would be run `iterations` times. -/
  | refuse (iterations : Nat)

/-- One entry of an unrolled program, with the text of its statement. -/
structure Entry (α : Type) where
  text : String
  request : Request α

namespace Entry

/-- The command that an entry leads to, or the reason why there is none: a
    command whose level is above its ceiling is held back. -/
def verdict (limits : Limits) (e : Entry α) : Except (Ignored α) (Command α) :=
  match e.request with
  | .perform c => match limits.refusal? c with
    | none => .ok c
    | some reason => .error reason
  | .ignore reason => .error reason
  | .refuse iterations => .error (.tooManyIterations (.ofNat iterations) limits.repeatIterations)

/-- The outcome of an entry, and the state of the session behind it. -/
def settle (limits : Limits) (session : Session σ α) (state : σ) (e : Entry α) :
    Outcome α × σ :=
  match e.verdict limits with
  | .ok c => session.apply state c
  | .error reason => (.ignored reason, state)

/-- Carries out an entry and reports it. -/
def step (limits : Limits) (session : Session σ α) (p : Progress σ α) (e : Entry α) :
    Progress σ α :=
  ⟨(e.settle limits session p.state).2,
    p.reports.push ⟨e.text, (e.settle limits session p.state).1⟩⟩

/-- The state of a session behind some entries. -/
def stateAfter (limits : Limits) (session : Session σ α) (state : σ) (entries : List (Entry α)) :
    σ :=
  entries.foldl (fun state e => (e.settle limits session state).2) state

/-- The reports on some entries: one for each of them. -/
def reportsOn (limits : Limits) (session : Session σ α) (state : σ) (entries : List (Entry α)) :
    List (Report α) :=
  entries.mapIdx fun i e =>
    ⟨e.text, (e.settle limits session (stateAfter limits session state (entries.take i))).1⟩

theorem stateAfter_cons (limits : Limits) (session : Session σ α) (state : σ) (e : Entry α)
    (entries : List (Entry α)) :
    stateAfter limits session state (e :: entries)
      = stateAfter limits session (e.settle limits session state).2 entries := rfl

theorem reportsOn_cons (limits : Limits) (session : Session σ α) (state : σ) (e : Entry α)
    (entries : List (Entry α)) :
    reportsOn limits session state (e :: entries)
      = ⟨e.text, (e.settle limits session state).1⟩ ::
          reportsOn limits session (e.settle limits session state).2 entries := by
  simp only [reportsOn, List.mapIdx_cons, List.take_zero, List.take_succ_cons]
  rfl

theorem stateAfter_append (limits : Limits) (session : Session σ α) (state : σ)
    (first second : List (Entry α)) :
    stateAfter limits session state (first ++ second) =
      stateAfter limits session (stateAfter limits session state first) second :=
  List.foldl_append

theorem reportsOn_append (limits : Limits) (session : Session σ α) (state : σ)
    (first second : List (Entry α)) :
    reportsOn limits session state (first ++ second) =
      reportsOn limits session state first ++
        reportsOn limits session (stateAfter limits session state first) second := by
  induction first generalizing state with
  | nil => rfl
  | cons e rest ih =>
    rw [List.cons_append, reportsOn_cons, ih, reportsOn_cons, stateAfter_cons, List.cons_append]

theorem statements_reportsOn (limits : Limits) (session : Session σ α)
    (entries : List (Entry α)) (state : σ) :
    (reportsOn limits session state entries).map Report.statement = entries.map Entry.text := by
  induction entries generalizing state with
  | nil => rfl
  | cons e rest ih => rw [reportsOn_cons, List.map_cons, List.map_cons, ih]

theorem foldl_step (limits : Limits) (session : Session σ α) (entries : List (Entry α)) :
    ∀ p : Progress σ α, entries.foldl (step limits session) p =
      ⟨stateAfter limits session p.state entries,
        p.reports ++ (reportsOn limits session p.state entries).toArray⟩ := by
  induction entries with
  | nil => intro p; simp [stateAfter, reportsOn]
  | cons e entries ih =>
    intro p
    rw [List.foldl_cons, ih, reportsOn_cons]
    simp only [step, stateAfter, List.foldl_cons, Progress.mk.injEq, true_and]
    apply Array.toList_inj.1
    simp

end Entry

/-! ## The unrolling -/

/-- The most often that any statement may be run. -/
def Limits.mostRuns (limits : Limits) : Nat := max 1 limits.repeatIterations.toNat

namespace Statement

mutual

/-- The unrolling of a statement that the blocks around it run `enclosing`
    times. -/
def unroll (limits : Limits) (enclosing : Nat) : Statement α → List (Entry α)
  | .command text c => [⟨text, .perform c⟩]
  | .loop text count body =>
    let iterations := enclosing * count.toNat
    if iterations ≤ limits.repeatIterations.toNat then
      (List.replicate count.toNat (unrollAll limits iterations body)).flatten
    else [⟨text, .refuse iterations⟩]
  | .ignored text reason => [⟨text, .ignore reason⟩]

/-- The unrollings of statements, one behind the other. -/
def unrollAll (limits : Limits) (enclosing : Nat) : List (Statement α) → List (Entry α)
  | [] => []
  | s :: rest => unroll limits enclosing s ++ unrollAll limits enclosing rest

end

theorem unrollAll_append (limits : Limits) (enclosing : Nat) (first second : List (Statement α)) :
    unrollAll limits enclosing (first ++ second) =
      unrollAll limits enclosing first ++ unrollAll limits enclosing second := by
  induction first with
  | nil => rfl
  | cons s rest ih => rw [List.cons_append, unrollAll, ih, unrollAll, List.append_assoc]

/-- The product of the iterations is exact: it does not wrap around. -/
theorem toNat_iterations {limits : Limits} {enclosing : UInt64}
    (h : enclosing.toNat ≤ limits.mostRuns) (count : UInt32) :
    (enclosing * count.toUInt64).toNat = enclosing.toNat * count.toNat := by
  have hlimit := limits.repeatIterations.toNat_lt
  have henclosing : enclosing.toNat < 2 ^ 32 := by
    unfold Limits.mostRuns at h
    omega
  have hproduct : enclosing.toNat * count.toNat < 2 ^ 64 := by
    calc enclosing.toNat * count.toNat < 2 ^ 32 * 2 ^ 32 :=
          Nat.mul_lt_mul'' henclosing count.toNat_lt
      _ = 2 ^ 64 := by decide
  rw [UInt64.toNat_mul, UInt32.toNat_toUInt64, Nat.mod_eq_of_lt hproduct]

theorem refused_iff {limits : Limits} {enclosing : UInt64} (h : enclosing.toNat ≤ limits.mostRuns)
    (count : UInt32) :
    limits.repeatIterations.toUInt64 < enclosing * count.toUInt64 ↔
      ¬ enclosing.toNat * count.toNat ≤ limits.repeatIterations.toNat := by
  rw [UInt64.lt_iff_toNat_lt, toNat_iterations h, UInt32.toNat_toUInt64, Nat.not_le]

theorem repeat_foldl {β γ : Type} {f : β → β} {g : β → γ → β} {pass : List γ}
    (h : ∀ b, f b = pass.foldl g b) (n : Nat) (b : β) :
    Nat.repeat f n b = (List.replicate n pass).flatten.foldl g b := by
  induction n with
  | zero => rfl
  | succ n ih =>
    have hstep : Nat.repeat f (n + 1) b = f (Nat.repeat f n b) := rfl
    rw [hstep, h, ih, List.replicate_succ', List.flatten_append, List.foldl_append]
    simp

mutual

theorem execute_eq (limits : Limits) (session : Session σ α) :
    ∀ (s : Statement α) {enclosing : UInt64}, enclosing.toNat ≤ limits.mostRuns →
      ∀ p, execute limits session enclosing s p =
        (unroll limits enclosing.toNat s).foldl (Entry.step limits session) p
  | .command text c, _, _, p => by
    simp only [execute, unroll, List.foldl_cons, List.foldl_nil, Entry.step, Entry.settle,
      Entry.verdict]
    cases limits.refusal? c <;> rfl
  | .loop text count body, enclosing, h, p => by
    have hproduct := toNat_iterations h count
    simp only [execute, unroll, refused_iff h]
    by_cases hrun : enclosing.toNat * count.toNat ≤ limits.repeatIterations.toNat
    · rw [if_neg (not_not_intro hrun), if_pos hrun, ← hproduct]
      have hinside : (enclosing * count.toUInt64).toNat ≤ limits.mostRuns := by
        unfold Limits.mostRuns
        omega
      exact repeat_foldl (executeAll_eq limits session body hinside) count.toNat p
    · rw [if_pos hrun, if_neg hrun, ← hproduct]
      simp only [List.foldl_cons, List.foldl_nil, Entry.step, Entry.settle, Entry.verdict,
        Progress.ignore, UInt64.ofNat_toNat]
  | .ignored text reason, _, _, p => rfl

/-- **Running statements is carrying out their unrolling**, entry by entry. -/
theorem executeAll_eq (limits : Limits) (session : Session σ α) :
    ∀ (tree : List (Statement α)) {enclosing : UInt64}, enclosing.toNat ≤ limits.mostRuns →
      ∀ p, executeAll limits session enclosing tree p =
        (unrollAll limits enclosing.toNat tree).foldl (Entry.step limits session) p
  | [], _, _, p => rfl
  | s :: rest, _, h, p => by
    rw [executeAll, unrollAll, List.foldl_append, execute_eq limits session s h,
      executeAll_eq limits session rest h]

end

end Statement

end TurtleGraphics
