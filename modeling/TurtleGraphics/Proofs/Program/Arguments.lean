/-
  Arguments: what the words behind a keyword are read as.

  Each keyword takes its arguments in a fixed order, each of one form: any word, a number, or a
  count.  The first argument that is absent or not of its form is the reason for reading no
  command.

  * `Keyword.forms`, `Command.operands`: the forms that a keyword asks for, and the arguments
    that a command has;
  * `Operand.Spelled`: the words that spell an argument;
  * `Form.Reads` is what an argument of a given form is read as, and `Form.read_eq_iff`: it is
    what `wordArgument`, `numberArgument` and `countArgument` answer;
  * `readAll_eq_ok_iff`, `readAll_eq_error_iff`: arguments in a row, and the first that is wrong;
  * `Command.read_eq_ok_iff`, `Command.read_eq_error_iff`: so it is with commands.
-/
import TurtleGraphics.Program.Command
import TurtleGraphics.Proofs.Decimal.Spellings

namespace TurtleGraphics

/-! ## Arguments -/

/-- The forms that an argument may have. -/
inductive Form where
  | word | number | count
deriving DecidableEq

/-- An argument of a command, once it is read. -/
inductive Operand (α : Type) where
  | word (text : String)
  | number (value : α)
  | count (value : UInt32)

variable {α : Type}

def Operand.form : Operand α → Form
  | word _ => .word
  | number _ => .number
  | count _ => .count

/-- The forms of the arguments that a keyword takes, in order. -/
def Keyword.forms : Keyword → List Form
  | .penUp | .penDown | .clearScreen => []
  | .setColor => [.word]
  | .forward | .backward | .right | .left | .up | .down | .setWidth => [.number]
  | .koch | .sierpinski => [.count, .number]

/-- The arguments of a command, in order. -/
def Command.operands : Command α → List (Operand α)
  | .penUp | .penDown | .clearScreen => []
  | .setColor color => [.word color]
  | .forward value | .backward value | .right value | .left value | .up value | .down value
  | .setWidth value => [.number value]
  | .koch level length | .sierpinski level length => [.count level, .number length]

theorem Command.forms_operands (c : Command α) :
    c.operands.map Operand.form = c.keyword.forms := by
  cases c <;> rfl

theorem Command.eq_of_operands_eq {c d : Command α} (hkeyword : c.keyword = d.keyword)
    (hoperands : c.operands = d.operands) : c = d := by
  cases c <;> cases d <;> simp_all [Command.keyword, Command.operands]

variable [Scalar α]

/-- The words that spell an argument: any word itself, the finite numbers, and the counts. -/
inductive Operand.Spelled : Word → Operand α → Prop where
  | word (w : Word) : Spelled w (.word (String.ofList w))
  | number {w : Word} {n : Numeral} (h : n.Spelling w)
      (hfinite : Scalar.isFinite (n.value : α) = true) : Spelled w (.number n.value)
  | count {w : Word} {n : UInt32} (h : CountSpelling w n) : Spelled w (.count n)

/-- What an argument is read as, by its form: a word that spells no value of the form is
    invalid. -/
inductive Form.Reads (form : Form) : Option Word → Except (Ignored α) (Operand α) → Prop where
  | missing : Reads form none (.error .missingArgument)
  | valid {w : Word} {operand : Operand α} (hform : operand.form = form)
      (h : Operand.Spelled w operand) : Reads form (some w) (.ok operand)
  | invalid {w : Word}
      (h : ∀ operand : Operand α, operand.form = form → ¬ Operand.Spelled w operand) :
      Reads form (some w) (.error (.invalidArgument (String.ofList w)))

/-- Reads an argument of the given form. -/
def Form.read (argument : Option Word) : Form → Except (Ignored α) (Operand α)
  | .word => (wordArgument argument).map .word
  | .number => (numberArgument argument).map .number
  | .count => (countArgument argument).map .count

theorem Operand.Spelled.read {w : Word} {operand : Operand α} (h : Spelled w operand) :
    operand.form.read (some w) = .ok operand := by
  cases h with
  | word => rfl
  | number h hfinite =>
    simp only [form, Form.read, numberArgument, h.read?, hfinite, if_true]
    rfl
  | count h =>
    simp only [form, Form.read, countArgument, readCount?_eq_some_iff.2 h]
    rfl

theorem Form.spelled_of_read {form : Form} {w : Word} {operand : Operand α}
    (h : form.read (some w) = .ok operand) : operand.form = form ∧ Operand.Spelled w operand := by
  cases form with
  | word =>
    obtain rfl := Except.ok.inj h
    exact ⟨rfl, .word w⟩
  | number =>
    unfold read numberArgument at h
    dsimp only at h
    split at h
    · next n hread =>
      split at h
      · next hfinite =>
        obtain rfl := Except.ok.inj h
        exact ⟨rfl, .number (Numeral.spelling_of_read? hread) hfinite⟩
      · cases h
    · cases h
  | count =>
    unfold read countArgument at h
    dsimp only at h
    split at h
    · next n hread =>
      obtain rfl := Except.ok.inj h
      exact ⟨rfl, .count (readCount?_eq_some_iff.1 hread)⟩
    · cases h

theorem Form.reason_of_read {form : Form} {w : Word} {reason : Ignored α}
    (h : (form.read (some w) : Except _ (Operand α)) = .error reason) :
    reason = .invalidArgument (String.ofList w) := by
  cases form with
  | word => cases h
  | number =>
    unfold read numberArgument at h
    dsimp only at h
    split at h
    · split at h
      · cases h
      · exact (Except.error.inj h).symm
    · exact (Except.error.inj h).symm
  | count =>
    unfold read countArgument at h
    dsimp only at h
    split at h
    · cases h
    · exact (Except.error.inj h).symm

theorem Form.reads_read (form : Form) (argument : Option Word) :
    Reads form argument (form.read argument : Except (Ignored α) (Operand α)) := by
  cases argument with
  | none => cases form <;> exact .missing
  | some w =>
    cases hread : (form.read (some w) : Except (Ignored α) (Operand α)) with
    | ok operand =>
      obtain ⟨hform, h⟩ := spelled_of_read hread
      exact .valid hform h
    | error reason =>
      obtain rfl := reason_of_read hread
      refine .invalid ?_
      rintro operand rfl h
      rw [h.read] at hread
      cases hread

/-- **What an argument is read as** is told by its form. -/
theorem Form.read_eq_iff {form : Form} {argument : Option Word}
    {result : Except (Ignored α) (Operand α)} :
    form.read argument = result ↔ Reads form argument result := by
  constructor
  · rintro rfl
    exact reads_read form argument
  · intro h
    cases h with
    | missing => cases form <;> rfl
    | valid hform h => exact hform ▸ h.read
    | @invalid w h =>
      cases hread : (form.read (some w) : Except (Ignored α) (Operand α)) with
      | ok operand =>
        obtain ⟨hform, hspelled⟩ := spelled_of_read hread
        exact absurd hspelled (h operand hform)
      | error reason => rw [reason_of_read hread]

/-! ## Arguments in a row -/

/-- Reads arguments of the given forms, up to the first that is wrong. -/
def readAll : List Form → List Word → Except (Ignored α) (List (Operand α))
  | [], _ => .ok []
  | form :: forms, arguments => do
    let operand ← form.read arguments.head?
    let operands ← readAll forms arguments.tail
    return operand :: operands

theorem Command.map_operands_read (keyword : Keyword) (arguments : List Word) :
    (Command.read keyword arguments : Except (Ignored α) (Command α)).map Command.operands =
      readAll keyword.forms arguments := by
  have hsecond : arguments[1]? = arguments.tail.head? := by rw [List.head?_tail]
  unfold read
  rw [hsecond, ← List.head?_eq_getElem?]
  cases keyword with
  | penUp | penDown | clearScreen => rfl
  | forward | backward | right | left | up | down | setWidth =>
    simp only [Keyword.forms, readAll, Form.read]
    cases (numberArgument arguments.head? : Except (Ignored α) α) <;> rfl
  | setColor =>
    simp only [Keyword.forms, readAll, Form.read]
    cases (wordArgument arguments.head? : Except (Ignored α) String) <;> rfl
  | koch | sierpinski =>
    simp only [Keyword.forms, readAll, Form.read]
    cases (countArgument arguments.head? : Except (Ignored α) UInt32) with
    | error reason => rfl
    | ok level =>
      cases (numberArgument arguments.tail.head? : Except (Ignored α) α) <;> rfl

section

variable {form : Form} {forms : List Form} {arguments : List Word} {operand : Operand α}
  {operands : List (Operand α)} {reason : Ignored α}

theorem readAll_cons_eq_ok :
    readAll (form :: forms) arguments = .ok operands ↔ ∃ operand others,
      form.read arguments.head? = .ok operand ∧ readAll forms arguments.tail = .ok others ∧
        operands = operand :: others := by
  rw [readAll]
  cases (form.read arguments.head? : Except (Ignored α) (Operand α)) with
  | error reason => simp [bind, Except.bind]
  | ok operand =>
    cases (readAll forms arguments.tail : Except (Ignored α) (List (Operand α))) <;>
      simp [bind, Except.bind, pure, Except.pure, eq_comm]

theorem readAll_cons_eq_error :
    (readAll (form :: forms) arguments : Except _ (List (Operand α))) = .error reason ↔
      form.read arguments.head? = (.error reason : Except _ (Operand α)) ∨
        ∃ operand : Operand α, form.read arguments.head? = .ok operand ∧
          (readAll forms arguments.tail : Except _ (List (Operand α))) = .error reason := by
  rw [readAll]
  cases (form.read arguments.head? : Except (Ignored α) (Operand α)) with
  | error reason => simp [bind, Except.bind]
  | ok operand =>
    cases (readAll forms arguments.tail : Except (Ignored α) (List (Operand α))) <;>
      simp [bind, Except.bind, pure, Except.pure]

theorem Form.cons_of_read (h : form.read arguments.head? = .ok operand) :
    ∃ w rest, arguments = w :: rest ∧ operand.form = form ∧ Operand.Spelled w operand := by
  cases arguments with
  | nil => cases Form.read_eq_iff.1 h
  | cons w rest => exact ⟨w, rest, rfl, spelled_of_read h⟩

/-- **All arguments are read** if words that spell them stand in front, whatever follows. -/
theorem readAll_eq_ok_iff :
    readAll forms arguments = .ok operands ↔ operands.map Operand.form = forms ∧
      ∃ used further, arguments = used ++ further ∧
        List.Forall₂ Operand.Spelled used operands := by
  induction forms generalizing arguments operands with
  | nil =>
    constructor
    · intro h
      obtain rfl := Except.ok.inj h
      exact ⟨rfl, [], arguments, rfl, .nil⟩
    · rintro ⟨hforms, -⟩
      rw [List.map_eq_nil_iff.1 hforms, readAll]
  | cons form forms ih =>
    rw [readAll_cons_eq_ok]
    constructor
    · rintro ⟨operand, others, hread, hothers, rfl⟩
      obtain ⟨w, rest, rfl, rfl, hw⟩ := Form.cons_of_read hread
      obtain ⟨rfl, used, further, rfl, hspelled⟩ := ih.1 hothers
      exact ⟨rfl, w :: used, further, rfl, .cons hw hspelled⟩
    · rintro ⟨hforms, used, further, rfl, hspelled⟩
      cases hspelled with
      | nil => cases hforms
      | @cons w operand used operands hw hspelled =>
        obtain ⟨rfl, rfl⟩ := List.cons.inj hforms
        exact ⟨operand, operands, hw.read, ih.2 ⟨rfl, used, further, rfl, hspelled⟩, rfl⟩

/-- **The first argument that is wrong** is the reason for reading none of them. -/
theorem readAll_eq_error_iff :
    (readAll forms arguments : Except _ (List (Operand α))) = .error reason ↔
      ∃ (operands : List (Operand α)) (form : Form) (after : List Form) (used behind : List Word),
        forms = operands.map Operand.form ++ form :: after ∧ arguments = used ++ behind ∧
          List.Forall₂ Operand.Spelled used operands ∧
            form.Reads behind.head? (.error reason : Except _ (Operand α)) := by
  induction forms generalizing arguments with
  | nil =>
    constructor
    · intro h
      cases h
    · rintro ⟨operands, form, after, used, behind, hforms, -⟩
      simp at hforms
  | cons form forms ih =>
    rw [readAll_cons_eq_error]
    constructor
    · rintro (hread | ⟨operand, hread, hrest⟩)
      · exact ⟨[], form, forms, [], arguments, rfl, rfl, .nil, Form.read_eq_iff.1 hread⟩
      · obtain ⟨w, rest, rfl, rfl, hw⟩ := Form.cons_of_read hread
        obtain ⟨operands, wrong, after, used, behind, rfl, rfl, hspelled, hwrong⟩ := ih.1 hrest
        exact ⟨operand :: operands, wrong, after, w :: used, behind, rfl, rfl,
          .cons hw hspelled, hwrong⟩
    · rintro ⟨operands, wrong, after, used, behind, hforms, rfl, hspelled, hwrong⟩
      cases hspelled with
      | nil =>
        obtain ⟨rfl, rfl⟩ := List.cons.inj hforms
        exact .inl (Form.read_eq_iff.2 hwrong)
      | @cons w operand used operands hw hspelled =>
        obtain ⟨rfl, rfl⟩ := List.cons.inj hforms
        exact .inr ⟨operand, hw.read,
          ih.2 ⟨operands, wrong, after, used, behind, rfl, rfl, hspelled, hwrong⟩⟩

end

/-! ## Commands -/

section

variable {keyword : Keyword} {arguments : List Word} {c : Command α} {reason : Ignored α}

theorem Command.read_eq_ok_iff :
    Command.read keyword arguments = .ok c ↔ c.keyword = keyword ∧
      ∃ used further, arguments = used ++ further ∧
        List.Forall₂ Operand.Spelled used c.operands := by
  have hmap := Command.map_operands_read (α := α) keyword arguments
  constructor
  · intro h
    rw [h] at hmap
    exact ⟨keyword_of_read h, (readAll_eq_ok_iff.1 hmap.symm).2⟩
  · rintro ⟨rfl, hspelled⟩
    rw [readAll_eq_ok_iff.2 ⟨c.forms_operands, hspelled⟩] at hmap
    cases hread : (Command.read c.keyword arguments : Except (Ignored α) (Command α)) with
    | error reason =>
      rw [hread] at hmap
      cases hmap
    | ok d =>
      rw [hread] at hmap
      rw [eq_of_operands_eq (keyword_of_read hread) (Except.ok.inj hmap)]

theorem Command.read_eq_error_iff :
    (Command.read keyword arguments : Except _ (Command α)) = .error reason ↔
      ∃ (operands : List (Operand α)) (form : Form) (after : List Form) (used behind : List Word),
        keyword.forms = operands.map Operand.form ++ form :: after ∧ arguments = used ++ behind ∧
          List.Forall₂ Operand.Spelled used operands ∧
            form.Reads behind.head? (.error reason : Except _ (Operand α)) := by
  rw [← readAll_eq_error_iff, ← map_operands_read]
  cases (Command.read keyword arguments : Except (Ignored α) (Command α)) <;> simp [Except.map]

theorem countArgument_iff {argument : Option Word} {fate : Except (Ignored α) UInt32} :
    Form.count.Reads argument (fate.map Operand.count : Except _ (Operand α)) ↔
      countArgument argument = fate := by
  rw [← Form.read_eq_iff, Form.read]
  cases (countArgument argument : Except (Ignored α) UInt32) <;> cases fate <;>
    simp [Except.map]

end

end TurtleGraphics
