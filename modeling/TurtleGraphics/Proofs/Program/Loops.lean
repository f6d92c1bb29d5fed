/-
  Loops: a block is its body, written out as often as it is run.

  * `loopText` is the program that is one block, and `copies` its body written
    several times;
  * `readCount?_toDigits`: every count has a spelling;
  * `segments_loopText`: the segments of a block are those of its body between an
    opening and an end;
  * `parse_copies`: copies of a program are read one after the other;
  * `Limits.run_loop`: running a block is running the copies, if no block is
    refused.
-/
import Mathlib.Data.Bool.AllAny
import TurtleGraphics.Proofs.Decimal.Spellings
import TurtleGraphics.Proofs.Program.Execution
import TurtleGraphics.Proofs.Program.Room
import TurtleGraphics.Session.Plane

namespace TurtleGraphics

variable {σ α : Type}

/-! ## Counts -/

theorem of_readCount? {count : Word} {n : UInt32} (h : readCount? count = some n) :
    count ≠ [] ∧ ∀ c ∈ count, c.isDigit = true ∨ c = '+' := by
  cases readCount?_eq_some_iff.1 h with
  | plain hdigits hne => exact ⟨hne, fun c hc => .inl (hdigits c hc)⟩
  | plus hdigits =>
    refine ⟨List.cons_ne_nil _ _, ?_⟩
    exact List.forall_mem_cons.2 ⟨.inr rfl, fun c hc => .inl (hdigits c hc)⟩

/-- **Every count has a spelling**: its digits. -/
theorem readCount?_toDigits (n : UInt32) : readCount? (Nat.toDigits 10 n.toNat) = some n :=
  readCount?_eq_some_iff.2
    (.plain (.toDigits _) Nat.toDigits_ne_nil (digitsValue_zeros_append 0 n.toNat))

theorem plain_of_isDigit {c : Char} (h : c.isDigit = true ∨ c = '+') :
    isSeparator c = false ∧ isBlank c = false ∧ IsLower c ∧ c ≠ ';' := by
  rcases h with h | rfl
  · have hascii : c.toNat < 0x80 := by
      have := (Bool.and_eq_true_iff.1 h).2
      simp only [decide_eq_true_eq, UInt32.le_iff_toNat_le] at this
      exact Nat.lt_of_le_of_lt this (by decide)
    refine ascii_forall (P := fun c => c.isDigit = true →
      isSeparator c = false ∧ isBlank c = false ∧ IsLower c ∧ c ≠ ';') ?_ c hascii h
    decide +kernel
  · decide +kernel

theorem normal_count {count : Word} {n : UInt32} (h : readCount? count = some n) :
    Normal ["repeat".toList, count] := by
  obtain ⟨hne, hchars⟩ := of_readCount? h
  have hrepeat : ∀ c ∈ "repeat".toList, isSeparator c = false ∧ IsLower c ∧ c ≠ ';' :=
    List.all_iff_forall_prop.1 (by decide +kernel)
  refine ⟨by simp, ?_, ?_, ?_, ?_⟩
  · simp only [List.forall_mem_cons]
    exact ⟨⟨by decide, fun c hc => (hrepeat c hc).1⟩,
      ⟨hne, fun c hc => (plain_of_isDigit (hchars c hc)).1⟩, by simp⟩
  · simp only [List.forall_mem_cons]
    exact ⟨fun c hc => (hrepeat c hc).2, fun c hc => (plain_of_isDigit (hchars c hc)).2.2, by simp⟩
  · intro c hc
    rw [show "repeat".toList = 'r' :: "epeat".toList from rfl, head?_spaced] at hc
    obtain rfl := Option.some.inj hc
    decide
  · intro c hc
    obtain rfl | ⟨front, last, rfl⟩ := List.eq_nil_or_concat count
    · exact absurd rfl hne
    · rw [List.concat_eq_append] at hc hchars
      have hlast : (spaced ["repeat".toList, front ++ [last]]).getLast? = some last :=
        getLast?_spaced ["repeat".toList]
      rw [hlast] at hc
      obtain rfl := Option.some.inj hc
      exact (plain_of_isDigit (hchars last (by simp))).2.1

/-! ## Texts -/

/-- The program that is one block. -/
def loopText (count : Word) (body : String) : String :=
  "repeat " ++ String.ofList count ++ "; " ++ body ++ "; end"

/-- A program written several times. -/
def copies (n : Nat) (program : String) : String := ";".intercalate (List.replicate n program)

section

variable [Scalar α]

theorem segments_loopText {count : Word} {n : UInt32} (h : readCount? count = some n)
    (body : String) :
    (segments (loopText count body) : List (Segment α)) =
      .opening (joinWords ["repeat".toList, count]) (.ok n) ::
        (segments body ++ [.close "end"]) := by
  have htext : loopText count body =
      joinWords ["repeat".toList, count] ++ ";" ++ (" " ++ body ++ ";" ++ (" " ++ "end")) := by
    apply String.toList_inj.1
    simp [loopText, joinWords, List.intercalate]
  have hopening : (segments (joinWords ["repeat".toList, count]) : List (Segment α)) =
      [.opening (joinWords ["repeat".toList, count]) (.ok n)] := by
    have hread : (countArgument (some count) : Except (Ignored α) UInt32) = .ok n := by
      rw [countArgument, h]
    rw [segments, wordLists_joinWords (normal_count h), ← hread]
    rfl
  have hend : (segments "end" : List (Segment α)) = [.close "end"] := by
    rw [segments, show wordLists "end" = [["end".toList]] by decide +kernel]
    rfl
  rw [htext, segments_append, segments_append, hopening, segments_space, segments_space, hend]
  rfl

theorem parse_copies (maxDepth : UInt32) {program : String}
    (h : Segment.openBlocks 0 (segments program : List (Segment α)) = 0) (n : Nat) :
    (parse maxDepth (copies n program) : List (Statement α)) =
      (List.replicate n (parse maxDepth program)).flatten := by
  induction n with
  | zero => exact Statement.parse_empty maxDepth
  | succ n ih =>
    cases n with
    | zero => simp [copies]
    | succ n =>
      have hcopies : copies (n + 2) program = program ++ ";" ++ copies (n + 1) program := by
        simp [copies, List.replicate_succ, String.intercalate_cons_cons]
      have hreplicate : List.replicate (n + 2) (parse maxDepth program : List (Statement α)) =
          parse maxDepth program :: List.replicate (n + 1) (parse maxDepth program) :=
        List.replicate_succ
      rw [hcopies, parse_append maxDepth h, ih, hreplicate, List.flatten_cons]

end

namespace Statement

theorem unrollAll_replicate (limits : Limits) (enclosing n : Nat) (tree : List (Statement α)) :
    unrollAll limits enclosing (List.replicate n tree).flatten =
      (List.replicate n (unrollAll limits enclosing tree)).flatten := by
  induction n with
  | zero => rfl
  | succ n ih =>
    rw [List.replicate_succ, List.flatten_cons, unrollAll_append, ih, List.replicate_succ,
      List.flatten_cons]

variable [Scalar α]

theorem parse_loopText {maxDepth : UInt32} (hdepth : ¬ maxDepth.toNat ≤ 0) {count : Word}
    {n : UInt32} (hcount : readCount? count = some n) {body : String}
    (hbody : Segment.Balanced (segments body : List (Segment α))) :
    (parse maxDepth (loopText count body) : List (Statement α)) =
      [.loop (joinWords ["repeat".toList, count]) n (blockAt maxDepth 1 (segments body)).1] := by
  have hread : blockAt maxDepth (0 + 1)
        (segments body ++ [Segment.close "end"] : List (Segment α)) =
      ((blockAt maxDepth 1 (segments body)).1, []) := by
    rw [blockAt_append hbody.openBlocks_eq fun _ => hbody.strayEnds_eq,
      blockAt_close (Nat.succ_pos 0), List.append_nil]
  rw [parse_eq, segments_loopText hcount, blockAt_opening hdepth, hread, blockAt_nil]
  rfl

/-- **A block is unrolled as its body is**, as often as it is run, if no block is
    refused. -/
theorem unrollAll_loopText {limits : Limits} {count : Word} {n : UInt32}
    (hcount : readCount? count = some n) {body : String}
    (hbody : Segment.Balanced (segments body : List (Segment α)))
    (hadmitted : ∀ e ∈ unrollAll limits 1
      (parse limits.repeatDepth (loopText count body) : List (Statement α)), ¬ e.RefusesBlock) :
    unrollAll limits 1 (parse limits.repeatDepth (loopText count body)) =
      (unrollAll limits 1 (parse limits.repeatDepth (copies n.toNat body)) : List (Entry α)) := by
  rw [parse_copies _ hbody.openBlocks_eq, unrollAll_replicate]
  by_cases hdepth : limits.repeatDepth.toNat ≤ 0
  · rw [parse_eq, segments_loopText hcount, blockAt_deep hdepth] at hadmitted
    exact absurd trivial (hadmitted _ (List.mem_cons_self ..))
  · rw [parse_loopText hdepth hcount hbody, unrollAll, unrollAll, List.append_nil] at hadmitted ⊢
    obtain ⟨-, hunroll, hinside⟩ := unroll_loop_admitted hadmitted
    rw [hunroll]
    by_cases hn : n.toNat = 0
    · rw [hn]
      rfl
    · -- outside of the block there is more room for its body
      have hroom : Roomier limits limits 1 0 (1 * n.toNat) 1 :=
        ⟨by omega, Nat.le_refl _, by omega⟩
      rw [parse_eq, ← unrollAll_roomier hroom (segments body) (.inr hbody.strayEnds_eq)
        (hinside hn)]

end Statement

/-! ## Runs -/

/-- **A block is its body, written out.**  If no end in the body is stray and no
    block in it is left open, and if the run of the block reports no block that is
    nested too deep or run too often, then it gives the same reports, asks the same
    of its session, and leads to the same state as the run of as many copies of the
    body as the count says.  A count may be spelled in any way that is read, and
    every number has a spelling. -/
theorem Limits.run_loop [Scalar α] (limits : Limits) (session : Session σ α) (state : σ)
    {n : UInt32} {count : Word} (hcount : readCount? count = some n) {body : String}
    (hbody : Segment.Balanced (segments body : List (Segment α)))
    (hadmitted : ∀ r ∈ (limits.run session (loopText count body) state).1,
      ¬ r.outcome.RefusesBlock) :
    limits.run session (loopText count body) state =
        limits.run session (copies n.toNat body) state ∧
      limits.run session.logged (loopText count body) (state, []) =
        limits.run session.logged (copies n.toNat body) (state, []) ∧
      readCount? (Nat.toDigits 10 n.toNat) = some n := by
  rw [run_eq] at hadmitted
  have hentries := Statement.unrollAll_loopText hcount hbody (Entry.admitted_of_reports hadmitted)
  refine ⟨?_, ?_, readCount?_toDigits n⟩
  · rw [run_eq, run_eq, hentries]
  · rw [run_eq, run_eq, hentries]

theorem run_nested_loop :
    let limits : Limits := { koch := 0, sierpinski := 0, repeatDepth := 3, repeatIterations := 6 }
    let body := "pu; repeat 2; rt 90; repeat 0; repeat 9; end; end; end; repeat x; pd; end; sc <"
    let t : PlaneTurtle (LineBuffer Float) Float := .start (.empty ⟨100, 100⟩) 100 .initial
    let loop := loopText ['0', '3'] body
    readCount? ['0', '3'] = some 3 ∧ Segment.Balanced (segments body : List (Segment Float)) ∧
      (∀ r ∈ (limits.run PlaneTurtle.session loop t).1, ¬ r.outcome.RefusesBlock) ∧
      limits.run PlaneTurtle.session loop t = limits.run PlaneTurtle.session (copies 3 body) t ∧
      limits.run PlaneTurtle.session.logged loop (t, []) =
        limits.run PlaneTurtle.session.logged (copies 3 body) (t, []) := by
  -- one block in the body is too deep, but never run, and one is dropped for its count
  intro limits body t loop
  have hcount : readCount? ['0', '3'] = some 3 := by decide
  have hbody : Segment.Balanced (segments body : List (Segment Float)) := by decide +kernel
  have hadmitted : ∀ r ∈ (limits.run PlaneTurtle.session loop t).1, ¬ r.outcome.RefusesBlock := by
    decide +kernel
  have h := limits.run_loop PlaneTurtle.session t hcount hbody hadmitted
  exact ⟨hcount, hbody, hadmitted, h.1, h.2.1⟩

end TurtleGraphics
