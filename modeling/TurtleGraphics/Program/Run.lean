/-
  Running programs.

  A `Session` carries out commands, one at a time, and is told when a batch is
  over; its state is of any type.  `run` runs a program in a session.  Every
  statement that is reached is reported with its outcome, one in a block once
  per iteration; a bad statement never stops the batch.

  * `Statement.execute` runs one statement, and `executeAll` a list of them;
  * `Limits.run` parses and runs a program, then ends the batch.
-/
import TurtleGraphics.Program.Limits
import TurtleGraphics.Program.Statement

namespace TurtleGraphics

/-- Something that carries out commands on a state. -/
structure Session (σ α : Type) where
  /-- Carries out a command. -/
  apply : σ → Command α → Outcome α × σ
  /-- Ends a batch. -/
  finish : σ → σ

/-- The fate of one statement. -/
structure Report (α : Type) where
  statement : String
  outcome : Outcome α
deriving DecidableEq

/-- A batch on its way: the state of the session, and the reports so far. -/
structure Progress (σ α : Type) where
  state : σ
  reports : Array (Report α)

variable {σ α : Type}

namespace Progress

/-- Reports a statement without effect. -/
def ignore (p : Progress σ α) (text : String) (reason : Ignored α) : Progress σ α :=
  { p with reports := p.reports.push ⟨text, .ignored reason⟩ }

/-- Carries out a command and reports it. -/
def apply (session : Session σ α) (p : Progress σ α) (text : String) (command : Command α) :
    Progress σ α :=
  match p with
  | ⟨state, reports⟩ =>
    let (outcome, state) := session.apply state command
    ⟨state, reports.push ⟨text, outcome⟩⟩

end Progress

namespace Statement

mutual

/-- Runs a statement that the blocks around it run `enclosing` times. -/
def execute (limits : Limits) (session : Session σ α) (enclosing : UInt64) :
    Statement α → Progress σ α → Progress σ α
  | .command text c, p => match limits.refusal? c with
    | none => p.apply session text c
    | some reason => p.ignore text reason
  | .loop text count body, p =>
    let iterations := enclosing * count.toUInt64
    if limits.repeatIterations.toUInt64 < iterations then
      p.ignore text (.tooManyIterations iterations limits.repeatIterations)
    else Nat.repeat (fun p => executeAll limits session iterations body p) count.toNat p
  | .ignored text reason, p => p.ignore text reason

/-- Runs statements in order. -/
def executeAll (limits : Limits) (session : Session σ α) (enclosing : UInt64) :
    List (Statement α) → Progress σ α → Progress σ α
  | [], p => p
  | s :: rest, p => executeAll limits session enclosing rest (execute limits session enclosing s p)

end

end Statement

/-- Runs a program as one batch.  The answer is the reports and the state of
    the session. -/
def Limits.run [Scalar α] (limits : Limits) (session : Session σ α) (program : String)
    (state : σ) : List (Report α) × σ :=
  let done := Statement.executeAll limits session 1 (parse limits.repeatDepth program) ⟨state, #[]⟩
  (done.reports.toList, session.finish done.state)

end TurtleGraphics
