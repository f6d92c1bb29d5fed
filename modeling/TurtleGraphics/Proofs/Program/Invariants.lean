/-
  Invariants: what a run leaves true.

  A run changes the state of its session by the commands that it gives to it,
  and by ending the batch.  What these keep is kept by the run.

  * `Limits.commandsOf` are the commands that a run of a program gives to its
    session, and `Limits.apply_mem_log`: those in its log;
  * `Limits.read_of_mem_commandsOf`: they are read from the words of the program;
  * `Entry.stateAfter_induction`: what these commands keep is true behind any
    entries;
  * `Limits.run_induction`: what they keep, and the end of a batch, too, is true
    after every run.
-/
import TurtleGraphics.Proofs.Program.Execution

namespace TurtleGraphics

variable {σ α : Type}

theorem Entry.stateAfter_induction {limits : Limits} {session : Session σ α} {Inv : σ → Prop} :
    ∀ {entries : List (Entry α)},
      (∀ c ∈ limits.calls entries, ∀ state, Inv state → Inv (session.apply state c).2) →
        ∀ {state : σ}, Inv state → Inv (stateAfter limits session state entries)
  | [], _, _, hstate => hstate
  | e :: rest, h, state, hstate => by
    rw [Limits.calls_cons] at h
    rw [stateAfter_cons]
    refine stateAfter_induction (fun c hc => h c (List.mem_append_right _ hc)) ?_
    -- only a command that is given to the session changes the state
    unfold settle
    cases hverdict : e.verdict limits with
    | error reason => exact hstate
    | ok c => exact h c (by simp [hverdict, Except.toOption]) state hstate

section

variable [Scalar α]

/-- The commands that a run of a program gives to its session. -/
def Limits.commandsOf (limits : Limits) (program : String) : List (Command α) :=
  limits.calls (Statement.unrollAll limits 1 (parse limits.repeatDepth program))

theorem Limits.apply_mem_log (limits : Limits) (session : Session σ α) (program : String)
    (state : σ) {c : Command α} :
    .apply c ∈ (limits.run session.logged program (state, [])).2.2 ↔
      c ∈ limits.commandsOf program := by
  rw [run_logged, commandsOf]
  simp

theorem Limits.read_of_mem_commandsOf {limits : Limits} {program : String} {c : Command α}
    (h : c ∈ limits.commandsOf program) :
    ∃ head arguments, head :: arguments ∈ wordLists program ∧
      Keyword.ofWord? head = some c.keyword ∧ Command.read c.keyword arguments = .ok c := by
  obtain ⟨e, he, hcommand⟩ := List.mem_filterMap.1 (List.mem_filter.1 h).1
  have hrequest : e.request = .perform c := by
    unfold Entry.command? at hcommand
    split at hcommand
    · next hperform => rw [hperform, Option.some.inj hcommand]
    · cases hcommand
  obtain ⟨ws, hws, hsegment⟩ := List.mem_filterMap.1 (Entry.single_mem_segments he hrequest)
  obtain ⟨head, arguments, rfl, hreads⟩ := Segment.reads_of_ofWords? hsegment
  generalize e.text = text at hreads
  generalize hread : Except.ok c = command at hreads
  cases hreads with
  | command _ hkeyword =>
    refine ⟨head, arguments, hws, ?_⟩
    rw [Command.keyword_of_read hread.symm]
    exact ⟨hkeyword, rfl⟩
  | unknown => cases hread

/-- **What the commands of a program keep**, and the end of a batch, is true
    after every run of it. -/
theorem Limits.run_induction {limits : Limits} {session : Session σ α} {program : String}
    {Inv : σ → Prop}
    (happly : ∀ c ∈ limits.commandsOf program, ∀ state, Inv state → Inv (session.apply state c).2)
    (hfinish : ∀ state, Inv state → Inv (session.finish state)) {state : σ} (hstate : Inv state) :
    Inv (limits.run session program state).2 := by
  rw [run_eq]
  exact hfinish _ (Entry.stateAfter_induction happly hstate)

end

end TurtleGraphics
