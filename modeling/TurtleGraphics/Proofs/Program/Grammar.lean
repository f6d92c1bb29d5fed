/-
  Grammar: what the pieces of a program stand for.

  * `Means` is the grammar of single statements, and `means_iff`: it is how they are read;
  * `Reading` is the segment of a piece, wherever it is read, and `pieces_reading`: every piece
    of a program is read by the grammar.
-/
import TurtleGraphics.Proofs.Program.Arguments
import TurtleGraphics.Proofs.Program.Brackets

namespace TurtleGraphics

variable {α : Type} [Scalar α]

/-! ## Statements -/

/-- **The grammar of single statements**: what the words of a piece stand for.  Words behind the
    arguments do not matter. -/
inductive Means (head : Word) (arguments : List Word) : Except (Ignored α) (Command α) → Prop where
  /-- A keyword, with words that spell the arguments of a command. -/
  | command {c : Command α} {used further : List Word} (hhead : head = c.keyword.name.toList)
      (hsplit : arguments = used ++ further)
      (hspelled : List.Forall₂ Operand.Spelled used c.operands) : Means head arguments (.ok c)
  /-- A keyword whose arguments are wrong, and what is wrong with the first of those. -/
  | wrong {keyword : Keyword} {operands : List (Operand α)} {form : Form} {after : List Form}
      {used behind : List Word} {reason : Ignored α} (hhead : head = keyword.name.toList)
      (hforms : keyword.forms = operands.map Operand.form ++ form :: after)
      (hsplit : arguments = used ++ behind)
      (hspelled : List.Forall₂ Operand.Spelled used operands)
      (hwrong : form.Reads behind.head? (.error reason : Except _ (Operand α))) :
      Means head arguments (.error reason)
  /-- A word that is no keyword. -/
  | unknown (hhead : ∀ keyword : Keyword, head ≠ keyword.name.toList) :
      Means head arguments (.error (.unknownCommand (String.ofList head)))

section

variable {head : Word} {arguments : List Word} {fate : Except (Ignored α) (Command α)}
  {keyword : Keyword}

theorem Keyword.ofWord?_eq_some_iff : ofWord? head = some keyword ↔ head = keyword.name.toList := by
  constructor
  · intro h
    unfold ofWord? at h
    have hname := List.find?_some h
    exact (of_decide_eq_true hname).symm
  · rintro rfl
    exact ofWord?_name keyword

/-- **Single statements are read by the grammar**, which leaves nothing open. -/
theorem means_iff : Means head arguments fate ↔ Scan.command head arguments = fate := by
  unfold Scan.command
  constructor
  · intro h
    cases h with
    | command hhead hsplit hspelled =>
      rw [Keyword.ofWord?_eq_some_iff.2 hhead]
      exact Command.read_eq_ok_iff.2 ⟨rfl, _, _, hsplit, hspelled⟩
    | wrong hhead hforms hsplit hspelled hwrong =>
      rw [Keyword.ofWord?_eq_some_iff.2 hhead]
      exact Command.read_eq_error_iff.2 ⟨_, _, _, _, _, hforms, hsplit, hspelled, hwrong⟩
    | unknown hhead =>
      have hnone : Keyword.ofWord? head = none := by
        rw [Option.eq_none_iff_forall_ne_some]
        intro keyword h
        exact hhead keyword (Keyword.ofWord?_eq_some_iff.1 h)
      rw [hnone]
  · rintro rfl
    cases hkeyword : Keyword.ofWord? head with
    | none =>
      refine .unknown fun keyword hhead => ?_
      rw [Keyword.ofWord?_eq_some_iff.2 hhead] at hkeyword
      cases hkeyword
    | some keyword =>
      have hhead := Keyword.ofWord?_eq_some_iff.1 hkeyword
      dsimp only
      cases hread : (Command.read keyword arguments : Except (Ignored α) (Command α)) with
      | ok c =>
        obtain ⟨rfl, used, further, hsplit, hspelled⟩ := Command.read_eq_ok_iff.1 hread
        exact .command hhead hsplit hspelled
      | error reason =>
        obtain ⟨operands, form, after, used, behind, hforms, hsplit, hspelled, hwrong⟩ :=
          Command.read_eq_error_iff.1 hread
        exact .wrong hhead hforms hsplit hspelled hwrong

theorem means_take_iff :
    Means keyword.name.toList (arguments.take keyword.forms.length) fate ↔
      Means keyword.name.toList arguments fate := by
  simp only [means_iff, Scan.command, Keyword.ofWord?_name]
  suffices h : (Command.read keyword (arguments.take keyword.forms.length) :
      Except (Ignored α) (Command α)) = Command.read keyword arguments by rw [h]
  cases keyword <;> simp [Command.read, Keyword.forms]

end

/-! ## Pieces -/

/-- The segment that a piece with the given words is read as, wherever that is: a `repeat` that
    is not nested too deep opens a block if the word behind it is a count, and other statements
    have what the grammar says of them. -/
structure Reading (maxDepth : UInt32) (head : Word) (arguments : List Word)
    (segment : Segment α) : Prop where
  single (hend : head ≠ "end".toList) (hrepeat : head ≠ "repeat".toList) :
    ∃ fate, (∀ other, Means head arguments other ↔ other = fate) ∧
      ∀ depth rest, Statement.blockAt maxDepth depth (segment :: rest) =
        (.ofCommand (joinWords (head :: arguments)) fate ::
          (Statement.blockAt maxDepth depth rest).1, (Statement.blockAt maxDepth depth rest).2)
  opening (hrepeat : head = "repeat".toList) :
    ∃ fate : Except (Ignored α) UInt32,
      (∀ other : Except (Ignored α) UInt32, Form.count.Reads arguments.head?
        (other.map Operand.count : Except _ (Operand α)) ↔ other = fate) ∧
      ∀ depth rest, depth < maxDepth.toNat →
        ∃ body behind, Statement.blockAt maxDepth (depth + 1) rest = (body, behind) ∧
          Statement.blockAt maxDepth depth (segment :: rest) =
            (.ofBlock (joinWords (head :: arguments)) body fate ::
              (Statement.blockAt maxDepth depth behind).1,
              (Statement.blockAt maxDepth depth behind).2)

theorem reading_ofWords (maxDepth : UInt32) (head : Word) (arguments : List Word) :
    Reading maxDepth head arguments (Segment.ofWords head arguments : Segment α) := by
  constructor
  · intro hend hrepeat
    have hsegment : (Segment.ofWords head arguments : Segment α) =
        .single (joinWords (head :: arguments)) (Scan.command head arguments) := by
      unfold Segment.ofWords Scan.command
      dsimp only
      rw [if_neg hend, if_neg hrepeat]
      cases Keyword.ofWord? head <;> rfl
    refine ⟨Scan.command head arguments, fun other => means_iff.trans eq_comm, ?_⟩
    intro depth rest
    rw [hsegment, Statement.blockAt_single]
  · rintro rfl
    refine ⟨countArgument arguments.head?, fun other => countArgument_iff.trans eq_comm, ?_⟩
    intro depth rest hdepth
    refine ⟨_, _, rfl, ?_⟩
    rw [List.head?_eq_getElem?]
    exact Statement.blockAt_opening (Nat.not_le.2 hdepth) _

/-- **Every piece of a program is read by the grammar**: it has words, one segment is made of
    them, and the statement of this segment is what the grammar says.  Words behind the arguments
    of a keyword do not matter. -/
theorem pieces_reading (maxDepth : UInt32) (program : String) :
    (parse maxDepth program : List (Statement α)) =
        (Statement.blockAt maxDepth 0 (segments program)).1 ∧
      List.Forall₂ (fun piece (segment : Segment α) =>
        ∃ head arguments, (∀ ws, Runs piece ws ↔ ws = head :: arguments) ∧
          Reading maxDepth head arguments segment) (pieces program) (segments program) ∧
      ∀ (keyword : Keyword) (arguments : List Word) (fate : Except (Ignored α) (Command α)),
        Means keyword.name.toList (arguments.take keyword.forms.length) fate ↔
          Means keyword.name.toList arguments fate := by
  refine ⟨rfl, ?_, fun _ _ _ => means_take_iff⟩
  rw [segments_eq_filterMap]
  have hwords : ∀ piece ∈ pieces program, words piece ≠ [] := by
    intro piece hpiece
    obtain ⟨hne, htight, -⟩ := of_mem_pieces hpiece
    exact words_ne_nil htight hne
  generalize pieces program = texts at hwords ⊢
  induction texts with
  | nil => exact .nil
  | cons piece rest ih =>
    obtain ⟨hpiece, hrest⟩ := List.forall_mem_cons.1 hwords
    obtain ⟨head, arguments, hcons⟩ := List.exists_cons_of_ne_nil hpiece
    rw [List.map_cons, hcons]
    refine .cons ⟨head, arguments, fun ws => ?_, reading_ofWords ..⟩ (ih hrest)
    rw [runs_iff, hcons, eq_comm]

/-- A snowflake whose level has zeros in front, with one more word behind its arguments, and a
    block: the grammar tells what the program is. -/
theorem parse_snowflake_block :
    ("koch".toList ≠ "end".toList ∧ "koch".toList ≠ "repeat".toList ∧ 0 < (64 : UInt32).toNat) ∧
      (parse 64 " KOCH +004294967295 -1.50 fd ;; repeat 03" : List (Statement Float)) =
        [.command "koch +004294967295 -1.50 fd" (.koch 4294967295 (-1.50)),
          .loop "repeat 03" 3 []] := by
  have hend : "koch".toList ≠ "end".toList := by decide
  have hrepeat : "koch".toList ≠ "repeat".toList := by decide
  have hdepth : 0 < (64 : UInt32).toNat := by decide
  refine ⟨⟨hend, hrepeat, hdepth⟩, ?_⟩
  obtain ⟨hparse, hpieces, -⟩ :=
    pieces_reading (α := Float) 64 " KOCH +004294967295 -1.50 fd ;; repeat 03"
  have htexts : pieces " KOCH +004294967295 -1.50 fd ;; repeat 03" =
    ["koch +004294967295 -1.50 fd".toList, "repeat 03".toList] := by decide +kernel
  have hkoch : Runs "koch +004294967295 -1.50 fd".toList
      ["koch".toList, "+004294967295".toList, "-1.50".toList, "fd".toList] :=
    runs_iff.2 (by decide +kernel)
  have hblock : Runs "repeat 03".toList ["repeat".toList, "03".toList] :=
    runs_iff.2 (by decide +kernel)
  rw [htexts] at hpieces
  obtain ⟨first, rest, ⟨head, arguments, hwords, hfirst⟩, hrest, hsegments⟩ :=
    List.forall₂_cons_left_iff.1 hpieces
  obtain ⟨second, rest, ⟨head', arguments', hwords', hsecond⟩, hnil, rfl⟩ :=
    List.forall₂_cons_left_iff.1 hrest
  cases hnil
  obtain ⟨rfl, rfl⟩ := List.cons.inj ((hwords _).1 hkoch)
  obtain ⟨rfl, rfl⟩ := List.cons.inj ((hwords' _).1 hblock)
  obtain ⟨fate, hfate, hread⟩ := hfirst.single hend hrepeat
  obtain ⟨fate', hfate', hread'⟩ := hsecond.opening rfl
  obtain ⟨body, behind, hbody, hloop⟩ := hread' 0 [] hdepth
  have hlevel : CountSpelling "+004294967295".toList 4294967295 :=
    readCount?_eq_some_iff.1 (by decide +kernel)
  have hlength : Numeral.Spelling "-1.50".toList ⟨true, 150, 2⟩ :=
    Numeral.read?_eq_some_iff.1 (by decide +kernel)
  have hthree : CountSpelling "03".toList 3 := readCount?_eq_some_iff.1 (by decide +kernel)
  have hcommand : Means "koch".toList ["+004294967295".toList, "-1.50".toList, "fd".toList]
      (.ok (.koch 4294967295 (-1.50 : Float))) :=
    .command rfl rfl (.cons (.count hlevel) (.cons (.number hlength (by decide +kernel)) .nil))
  rw [Statement.blockAt_nil] at hbody
  cases hbody
  rw [hparse, hsegments, hread, hloop, Statement.blockAt_nil, ← (hfate _).1 hcommand,
    ← (hfate' (.ok 3)).1 (.valid rfl (.count hthree))]
  rfl

end TurtleGraphics
