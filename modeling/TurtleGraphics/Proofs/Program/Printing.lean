/-
  Printing: a tree written out as a program.

  A statement is written as its text, and a block with its statements and an
  `end` behind it.  Of a block that was dropped nothing is left but its text,
  so that its `end` follows at once.

  * `Statement.print` and `Statement.printAll` write trees out;
  * `Statement.Legible`: the trees that normalized texts may be read as, some
    blocks deep; `Statement.blockAt_legible`: every block that is read is one;
  * `Statement.Legible.readBack`: a legible statement that was written out is
    read back, whatever follows it;
  * `parse_print`: so is every tree that was parsed.
-/
import TurtleGraphics.Binary64
import TurtleGraphics.Proofs.Program.Blocks
import TurtleGraphics.Proofs.Program.Pieces

namespace TurtleGraphics

variable {α : Type}

/-! ## Writing out -/

/-- A text begins with the word that opens a block. -/
def OpensBlock (text : String) : Prop := (words text.toList).head? = some "repeat".toList

instance (text : String) : Decidable (OpensBlock text) := inferInstanceAs (Decidable (_ = _))

namespace Statement

mutual

/-- A statement as the text of a program. -/
def print : Statement α → String
  | .command text _ => text ++ ";"
  | .loop text _ body => text ++ ";" ++ printAll body ++ "end;"
  | .ignored text _ => if OpensBlock text then text ++ ";end;" else text ++ ";"

/-- Statements as the text of a program. -/
def printAll : List (Statement α) → String
  | [] => ""
  | s :: rest => print s ++ printAll rest

end

end Statement

/-! ## Normalized segments -/

variable [Scalar α]

namespace Segment

/-- A segment that normalized words are read as. -/
def Normalized (segment : Segment α) : Prop :=
  ∃ ws, Normal ws ∧ ofWords? ws = some segment

theorem normalized_of_mem {program : String} {segment : Segment α}
    (h : segment ∈ segments program) : segment.Normalized := by
  rw [segments_eq_filterMap, ← wordLists_eq] at h
  obtain ⟨ws, hws, hsegment⟩ := List.mem_filterMap.1 h
  exact ⟨ws, normal_of_mem_wordLists hws, hsegment⟩

theorem normalized_end : (Segment.close "end" : Segment α).Normalized := by
  have hwords : wordLists "end" = [["end".toList]] := by decide +kernel
  have hnormal : Normal ["end".toList] := by
    refine @normal_of_mem_wordLists "end" _ ?_
    rw [hwords]
    exact List.mem_singleton_self _
  have htext : joinWords ["end".toList] = "end" := by decide
  refine ⟨["end".toList], hnormal, ?_⟩
  rw [← htext]
  rfl

variable {segment : Segment α}

/-- **The text of a normalized segment** is read as that segment. -/
theorem Normalized.segments_text (h : segment.Normalized) (rest : String) :
    segments (segment.text ++ ";" ++ rest) = segment :: segments rest := by
  obtain ⟨ws, hws, hsegment⟩ := h
  have hfirst : segments (joinWords ws) = [segment] := by
    rw [segments_eq_filterMap, ← wordLists_eq, wordLists_joinWords hws, List.filterMap_cons,
      hsegment]
    rfl
  rw [segments_append, text_ofWords? hsegment, hfirst]
  rfl

theorem segments_end (rest : String) :
    (segments ("end;" ++ rest) : List (Segment α)) = .close "end" :: segments rest :=
  normalized_end.segments_text rest

theorem Normalized.opensBlock_iff (h : segment.Normalized) :
    OpensBlock segment.text ↔ ∃ text count, segment = .opening text count := by
  obtain ⟨ws, hws, hsegment⟩ := h
  have hwords : words segment.text.toList = ws := by
    rw [text_ofWords? hsegment, joinWords, String.toList_ofList]
    exact words_spaced hws.words
  obtain ⟨head, arguments, rfl, hreads⟩ := reads_of_ofWords? hsegment
  rw [OpensBlock, hwords, List.head?_cons, Option.some.injEq]
  cases hreads with
  | close hend =>
    refine iff_of_false ?_ ?_
    · rw [hend]
      decide
    · rintro ⟨text, count, hopening⟩
      cases hopening
  | opening hrepeat => exact iff_of_true hrepeat ⟨_, _, rfl⟩
  | command hrepeat | unknown hrepeat =>
    refine iff_of_false hrepeat ?_
    rintro ⟨text, count, hopening⟩
    cases hopening

end Segment

namespace Statement

variable {maxDepth : UInt32} {depth : Nat}

/-! ## Legible trees -/

/-- The statements that normalized segments may be put into, some blocks
    deep. -/
inductive Legible (maxDepth : UInt32) : Nat → Statement α → Prop where
  | command {depth text c} (h : Segment.Normalized (.single text (.ok c))) :
      Legible maxDepth depth (.command text c)
  | fault {depth text reason}
      (h : (Segment.single text (.error reason) : Segment α).Normalized) :
      Legible maxDepth depth (.ignored text reason)
  | stray {text} (h : (Segment.close text : Segment α).Normalized) :
      Legible maxDepth 0 (.ignored text .strayEnd)
  | tooDeep {depth text} {count : Except (Ignored α) UInt32} (hdepth : maxDepth.toNat ≤ depth)
      (h : (Segment.opening text count).Normalized) :
      Legible maxDepth depth (.ignored text (.nestingTooDeep maxDepth))
  | badCount {depth text reason} (hdepth : ¬ maxDepth.toNat ≤ depth)
      (h : (Segment.opening text (.error reason) : Segment α).Normalized) :
      Legible maxDepth depth (.ignored text reason)
  | loop {depth text count body} (hdepth : ¬ maxDepth.toNat ≤ depth)
      (h : (Segment.opening text (.ok count) : Segment α).Normalized)
      (hbody : ∀ s ∈ body, Legible maxDepth (depth + 1) s) :
      Legible maxDepth depth (.loop text count body)

theorem Legible.ofCommand {text : String} {c : Except (Ignored α) (Command α)}
    (h : (Segment.single text c).Normalized) : Legible maxDepth depth (ofCommand text c) := by
  cases c with
  | ok c => exact .command h
  | error reason => exact .fault h

theorem Legible.ofBlock {text : String} {count : Except (Ignored α) UInt32}
    {body : List (Statement α)} (hdepth : ¬ maxDepth.toNat ≤ depth)
    (h : (Segment.opening text count).Normalized)
    (hbody : ∀ s ∈ body, Legible maxDepth (depth + 1) s) :
    Legible maxDepth depth (ofBlock text body count) := by
  cases count with
  | ok count => exact .loop hdepth h hbody
  | error reason => exact .badCount hdepth h

/-- **What is read is legible**, if the segments are normalized. -/
theorem blockAt_legible (maxDepth : UInt32) (depth : Nat) (segments : List (Segment α))
    (hsegments : ∀ segment ∈ segments, segment.Normalized) :
    ∀ s ∈ (blockAt maxDepth depth segments).1, Legible maxDepth depth s := by
  induction depth, segments using blockAt_induction maxDepth with
  | nil depth => simp
  | close depth text rest h => simp [blockAt_close h]
  | stray text rest ih =>
    obtain ⟨hfirst, hrest⟩ := List.forall_mem_cons.1 hsegments
    rw [blockAt_stray]
    exact List.forall_mem_cons.2 ⟨.stray hfirst, ih hrest⟩
  | deep depth text count rest h ih =>
    obtain ⟨hfirst, hrest⟩ := List.forall_mem_cons.1 hsegments
    rw [blockAt_deep h]
    exact List.forall_mem_cons.2
      ⟨.tooDeep h hfirst, ih fun s hs => hrest s ((skip_suffix 0 rest).subset hs)⟩
  | opening depth text count rest h ihbody ih =>
    obtain ⟨hfirst, hrest⟩ := List.forall_mem_cons.1 hsegments
    rw [blockAt_opening h]
    refine List.forall_mem_cons.2 ⟨.ofBlock h hfirst (ihbody hrest), ih fun s hs => ?_⟩
    rw [blockAt_after maxDepth (depth + 1) rest (Nat.succ_pos depth)] at hs
    exact hrest s ((skip_suffix 0 rest).subset hs)
  | single depth text c rest ih =>
    obtain ⟨hfirst, hrest⟩ := List.forall_mem_cons.1 hsegments
    rw [blockAt_single]
    exact List.forall_mem_cons.2 ⟨.ofCommand hfirst, ih hrest⟩

/-! ## Reading back -/

/-- A statement is read back when it is written out in front of any program,
    and what follows it is read as before. -/
def ReadBack (maxDepth : UInt32) (depth : Nat) (s : Statement α) : Prop :=
  ∀ rest : String, blockAt maxDepth depth (segments (print s ++ rest)) =
    (s :: (blockAt maxDepth depth (segments rest)).1, (blockAt maxDepth depth (segments rest)).2)

theorem blockAt_printAll {statements : List (Statement α)}
    (h : ∀ s ∈ statements, ReadBack maxDepth depth s) (rest : String) :
    blockAt maxDepth depth (segments (printAll statements ++ rest)) =
      (statements ++ (blockAt maxDepth depth (segments rest)).1,
        (blockAt maxDepth depth (segments rest)).2) := by
  induction statements with
  | nil =>
    rw [printAll, String.empty_append]
    rfl
  | cons s statements ih =>
    obtain ⟨hfirst, hrest⟩ := List.forall_mem_cons.1 h
    rw [printAll, String.append_assoc, hfirst, ih hrest]
    rfl

theorem blockAt_closed {body : List (Statement α)}
    (h : ∀ s ∈ body, ReadBack maxDepth (depth + 1) s) (rest : String) :
    blockAt maxDepth (depth + 1) (segments (printAll body ++ ("end;" ++ rest))) =
      (body, segments rest) := by
  rw [blockAt_printAll h, Segment.segments_end, blockAt_close (Nat.succ_pos depth), List.append_nil]

theorem print_ignored {text : String} {reason : Ignored α} {segment : Segment α}
    (h : segment.Normalized) (htext : segment.text = text)
    (hsegment : ∀ text count, segment ≠ .opening text count) :
    print (.ignored text reason) = text ++ ";" := by
  have hopens : ¬ OpensBlock text := by
    rw [← htext, h.opensBlock_iff]
    rintro ⟨text, count, hopening⟩
    exact hsegment text count hopening
  rw [print, if_neg hopens]

theorem print_dropped {text : String} {reason : Ignored α} {count : Except (Ignored α) UInt32}
    (h : (Segment.opening text count).Normalized) :
    print (.ignored text reason) = text ++ ";" ++ "end;" := by
  have hopens : OpensBlock text := h.opensBlock_iff.2 ⟨text, count, rfl⟩
  rw [print, if_pos hopens, String.append_assoc]
  rfl

/-- **A legible statement** that was written out is read back, whatever follows
    it. -/
theorem Legible.readBack {s : Statement α} (h : Legible maxDepth depth s) :
    ReadBack maxDepth depth s := by
  induction h with
  | @command depth text c h =>
    intro rest
    have hsegments : segments (text ++ ";" ++ rest) = _ := h.segments_text rest
    rw [print, hsegments, blockAt_single]
    rfl
  | @fault depth text reason h =>
    intro rest
    have hsegments : segments (text ++ ";" ++ rest) = _ := h.segments_text rest
    have hprint : print (.ignored text reason) = text ++ ";" := print_ignored h rfl nofun
    rw [hprint, hsegments, blockAt_single]
    rfl
  | @stray text h =>
    intro rest
    have hsegments : segments (text ++ ";" ++ rest) = _ := h.segments_text rest
    have hprint : print (.ignored text .strayEnd) = text ++ ";" := print_ignored h rfl nofun
    rw [hprint, hsegments, blockAt_stray]
  | @tooDeep depth text count hdepth h =>
    intro rest
    have hsegments : segments (text ++ ";" ++ ("end;" ++ rest)) = _ :=
      h.segments_text ("end;" ++ rest)
    rw [print_dropped h, String.append_assoc, hsegments, Segment.segments_end, blockAt_deep hdepth]
    rfl
  | @badCount depth text reason hdepth h =>
    intro rest
    have hsegments : segments (text ++ ";" ++ ("end;" ++ rest)) = _ :=
      h.segments_text ("end;" ++ rest)
    -- the body was dropped, so that the block is read back as an empty one
    rw [print_dropped h, String.append_assoc, hsegments, Segment.segments_end,
      blockAt_opening hdepth, blockAt_close (Nat.succ_pos depth)]
    rfl
  | @loop depth text count body hdepth h hbody ih =>
    intro rest
    have hsegments : segments (text ++ ";" ++ (printAll body ++ ("end;" ++ rest))) = _ :=
      h.segments_text (printAll body ++ ("end;" ++ rest))
    rw [print, String.append_assoc, String.append_assoc, hsegments, blockAt_opening hdepth,
      blockAt_closed ih]
    rfl

end Statement

/-- **Writing out undoes reading**: a tree that was parsed and written out is
    parsed again, with the same texts, commands, counts and reasons at the same
    places. -/
theorem parse_print (maxDepth : UInt32) (program : String) :
    (parse maxDepth (Statement.printAll (parse maxDepth program : List (Statement α))) :
      List (Statement α)) = parse maxDepth program := by
  have hlegible := Statement.blockAt_legible (α := α) maxDepth 0 (segments program)
    fun _ => Segment.normalized_of_mem
  have hread := Statement.blockAt_printAll (fun s hs => (hlegible s hs).readBack) ""
  have hempty : (segments "" : List (Segment α)) = [] := rfl
  rw [String.append_empty, hempty, Statement.blockAt_nil, List.append_nil] at hread
  rw [Statement.parse_eq, Statement.parse_eq, hread]

example : Statement.printAll
    (parse 1 "REPEAT 2; Pu  ;; repeat 3; pd; end; end; repeat" : List (Statement Float)) =
      "repeat 2;pu;repeat 3;end;end;repeat;end;" := by decide +kernel

end TurtleGraphics
