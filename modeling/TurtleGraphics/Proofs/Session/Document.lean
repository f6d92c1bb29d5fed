/-
  Documents: the markup that a program draws.

  A turtle that draws on a document has only strokes that programs can give it:
  their colors are words, without a semicolon, and usable, without a character
  that means something in markup.  So nothing that a program says gets out of the
  value of an attribute.

  * `Limits.color_of_mem_commandsOf`: the colors of a program are words;
  * `PlaneTurtle.Documented` is the invariant of a turtle that draws on a document;
  * `Settings.draw_svg`: what is drawn with the settings of a configuration;
  * `svg_markup_faithful`: the markup shows the lines, and nothing else.
-/
import TurtleGraphics.Drawing
import TurtleGraphics.Proofs.Decimal.Doubles
import TurtleGraphics.Proofs.Drawing.Markup
import TurtleGraphics.Proofs.Session.Board
import TurtleGraphics.Proofs.Session.Erasure

namespace TurtleGraphics

variable {α : Type}

/-! ## Colors -/

section

variable [Scalar α]

theorem Command.color_of_read {keyword : Keyword} {arguments : List Word} {color : String}
    (h : Command.read keyword arguments = .ok (.setColor color : Command α)) :
    ∃ word ∈ arguments, color = String.ofList word := by
  obtain rfl : Keyword.setColor = keyword := keyword_of_read h
  cases hword : arguments[0]? with
  | none => simp [read, hword, wordArgument, Except.map] at h
  | some word =>
    refine ⟨word, List.mem_of_getElem? hword, ?_⟩
    simpa [read, hword, wordArgument, Except.map, eq_comm] using h

theorem Limits.color_of_mem_commandsOf {limits : Limits} {program color : String}
    (h : (.setColor color : Command α) ∈ limits.commandsOf program) : ';' ∉ color.toList := by
  obtain ⟨head, arguments, hwords, -, hread⟩ := read_of_mem_commandsOf h
  obtain ⟨word, hword, rfl⟩ := Command.color_of_read hread
  rw [String.toList_ofList]
  intro hmem
  have hletters := (normal_of_mem_wordLists hwords).letters word (List.mem_cons_of_mem _ hword)
  exact (hletters ';' hmem).2 rfl

end

/-! ## The invariant -/

theorem inert_of_isUsableColor {color : String} (h : isUsableColor color = true)
    (hcolor : ';' ∉ color.toList) : Inert color := by
  have hall := List.all_eq_true.1 (Bool.and_eq_true_iff.1 h).2
  have hfixed : ∀ c ∈ markupCharacters,
      ¬ (c != '<' && c != '>' && c != '"' && c != '\'' && c != '&') = true :=
    forall_markup (by decide)
  exact ⟨fun c hc hmem => hfixed c hc (hall c hmem), hcolor⟩

/-- A stroke that turtles may have on a document. -/
structure Stroke.Proper [Scalar α] (s : Stroke α) : Prop where
  color : Inert s.color
  width : PlaneTurtle.AllowsWidth s.width

namespace PlaneTurtle

variable [Scalar α] [NumberText α]

/-- **The invariant of a turtle that draws on a document**: the document shows
    the lines, and all strokes are proper. -/
structure Documented (t : PlaneTurtle (SvgDocument α) α) : Prop where
  shows : t.surface.Shows
  lines : ∀ line ∈ t.surface.lines, line.stroke.Proper
  stroke : t.stroke.Proper

namespace Documented

variable {t : PlaneTurtle (SvgDocument α) α}

theorem moveTo (h : t.Documented) (destination : Vec2 α) :
    (t.moveTo destination).2.Documented := by
  rcases t.moveTo_cases destination with heq | ⟨-, heq⟩ <;> rw [heq]
  · exact h
  · cases t.penDown with
    | false => exact ⟨h.shows, h.lines, h.stroke⟩
    | true =>
      refine ⟨h.shows.draw _, ?_, h.stroke⟩
      intro line hline
      rcases Array.mem_push.1 hline with hold | rfl
      · exact h.lines line hold
      · exact h.stroke

theorem setColor (h : t.Documented) {color : String} (hcolor : ';' ∉ color.toList) :
    (t.setColor color).2.Documented := by
  unfold PlaneTurtle.setColor
  split
  · next husable =>
    exact ⟨h.shows, h.lines, inert_of_isUsableColor husable hcolor, h.stroke.width⟩
  · exact h

theorem setWidth (h : t.Documented) (width : α) : (t.setWidth width).2.Documented := by
  unfold PlaneTurtle.setWidth
  split
  · next hallowed => exact ⟨h.shows, h.lines, h.stroke.color, hallowed⟩
  · exact h

theorem keeps : Turtle.Keeps (Documented (α := α)) fun _ => True where
  forward _ _ h := h.moveTo _
  backward _ _ h := h.moveTo _
  turnLeft _ _ h := ⟨h.shows, h.lines, h.stroke⟩
  turnRight _ _ h := ⟨h.shows, h.lines, h.stroke⟩
  liftPen _ h := ⟨h.shows, h.lines, h.stroke⟩
  lowerPen _ h := ⟨h.shows, h.lines, h.stroke⟩
  pose _ _ := trivial
  setPose _ _ h _ := ⟨h.shows, h.lines, h.stroke⟩

/-- **Programs** keep the invariant. -/
theorem run (h : t.Documented) (limits : Limits) (program : String) :
    (limits.run session program t).2.Documented := by
  refine Limits.run_induction (fun c hc t h => ?_) (fun _ h => h) h
  refine keeps_apply keeps h (fun color heq => ?_) fun width _ => h.setWidth width
  subst heq
  exact h.setColor (Limits.color_of_mem_commandsOf hc)

end Documented

end PlaneTurtle

/-! ## Doubles -/

theorem Binary64.faithful : NumberText.Faithful Float where
  plain x := text_plain (ofFloat x)
  injective _ _ h :=
    ofFloat_injective (text_injective (ofFloat_wellFormed _) (ofFloat_wellFormed _) h)

/-- Both coordinates of a point are numbers. -/
def Vec2.IsNumber (p : Vec2 Float) : Prop := p.x.isNaN = false ∧ p.y.isNaN = false

theorem Vec2.Allowed.isNumber {p size : Vec2 Float} (h : p.Allowed size)
    (hx : size.x.isFinite = true) (hy : size.y.isFinite = true) : p.IsNumber := by
  rcases h with rfl | h
  · exact ⟨Binary64.isNaN_half hx, Binary64.isNaN_half hy⟩
  · exact ⟨(Binary64.isNaN_of_lt h.1).2, (Binary64.isNaN_of_lt h.2.2.1).2⟩

/-- A line whose color means nothing in markup, and that has only numbers. -/
structure Line.Proper (line : Line Float) : Prop where
  color : Inert line.stroke.color
  start : line.start.IsNumber
  stop : line.stop.IsNumber
  width : line.stroke.width.isNaN = false

namespace Settings

theorem ofConfiguration_eq_ok {c : Configuration} {s : Settings Float} :
    ofConfiguration c = .ok s ↔ readAll c = .ok s ∧ s.problem? = none := by
  cases hread : readAll c with
  | error problem => simp [ofConfiguration, hread, bind, Except.bind]
  | ok settings =>
    cases hproblem : settings.problem? with
    | some problem =>
      have hwrong : settings = s → s.problem? ≠ none := by
        rintro rfl
        simp [hproblem]
      simpa [ofConfiguration, hread, hproblem, bind, Except.bind] using hwrong
    | none =>
      have hright : settings = s → s.problem? = none := by
        rintro rfl
        exact hproblem
      simpa [ofConfiguration, hread, hproblem, bind, Except.bind, pure, Except.pure] using hright

theorem problem?_of_ofConfiguration {c : Configuration} {s : Settings Float}
    (h : ofConfiguration c = .ok s) : s.problem? = none :=
  (ofConfiguration_eq_ok.1 h).2

theorem size_of_ofConfiguration {c : Configuration} {s : Settings Float}
    (h : ofConfiguration c = .ok s) :
    s.surfaceSize.x.isFinite = true ∧ s.surfaceSize.y.isFinite = true := by
  have hproblem := problem?_of_ofConfiguration h
  have hlengths : s.lengths.find? (fun (_, value) => ¬ IsLength value) = none := by
    unfold problem? at hproblem
    split at hproblem
    · cases hproblem
    · next hnone => exact hnone
  have hlength : ∀ key value, (key, value) ∈ s.lengths → IsLength value := by
    intro key value hmem
    simpa using List.find?_eq_none.1 hlengths (key, value) hmem
  exact ⟨(hlength "surface.width" _ (by simp [lengths])).1,
    (hlength "surface.height" _ (by simp [lengths])).1⟩

/-- **What is drawn as markup**: a document that shows its lines, which are
    proper. -/
theorem draw_svg {c : Configuration} {s : Settings Float} (hs : ofConfiguration c = .ok s)
    (hvariant : s.variant = .svg) (program : String) :
    ∃ document : SvgDocument Float, (s.draw program).markup = some document.markup ∧
      (s.draw program).lines = document.lines ∧ document.size = s.surfaceSize ∧
      document.Shows ∧ ∀ line ∈ document.lines, line.Proper := by
  have hdraw : s.draw program = s.drawSvg program := by rw [draw, hvariant]
  obtain ⟨hx, hy⟩ := size_of_ofConfiguration hs
  let first : SvgDocument Float := .empty s.surfaceSize
  let turtle := PlaneTurtle.start first s.boardExtent svgStroke
  have hstroke : (svgStroke : Stroke Float).Proper :=
    ⟨⟨forall_markup (by decide), by decide⟩, by decide⟩
  have hstart : turtle.Documented :=
    ⟨.empty _, fun line hline => absurd hline (Array.not_mem_empty line), hstroke⟩
  have hdocumented := hstart.run s.limits program
  have hsurface := (PlaneTurtle.OnSurface.start first s.boardExtent svgStroke).run s.limits program
  rw [hdraw]
  refine ⟨_, rfl, rfl, hsurface.size, hdocumented.shows, ?_⟩
  intro line hline
  obtain ⟨hcolor, hwidth⟩ := hdocumented.lines line hline
  have hends : line.start.Allowed s.surfaceSize ∧ line.stop.Allowed s.surfaceSize :=
    (hsurface.lines line hline).resolve_left (Array.not_mem_empty line)
  exact ⟨hcolor, hends.1.isNumber hx hy, hends.2.isNumber hx hy,
    (Binary64.isNaN_of_le hwidth.1).2⟩

end Settings

/-- **Markup is faithful and cannot be broken out of.**  With the settings of a
    configuration that asks for markup, the markup of a program is an opening tag
    for the size of the surface, one element for each line, in order, and the
    closing tag.  No color has a character that means something there, and all
    numbers are numbers; so the characters that begin tags and enclose values
    are only those of the tags and elements, and what is between the tags tells
    the lines, whatever other configuration and program it is drawn with. -/
theorem svg_markup_faithful {c : Configuration} {s : Settings Float}
    (hs : Settings.ofConfiguration c = .ok s) (hvariant : s.variant = .svg) (program : String) :
    let drawing := s.draw program
    (∃ markup, drawing.markup = some markup ∧
      markup = SvgDocument.openingTag s.surfaceSize ++
        String.join (drawing.lines.toList.map SvgDocument.element) ++ SvgDocument.closingTag ∧
      markup.toList.count '<' = drawing.lines.size + 2 ∧
      markup.toList.count '"' = 8 + 10 * drawing.lines.size) ∧
    (∀ line ∈ drawing.lines, line.Proper) ∧
    ∀ {c' : Configuration} {s' : Settings Float}, Settings.ofConfiguration c' = .ok s' →
      s'.variant = .svg → ∀ program' body : String,
        drawing.markup =
          some (SvgDocument.openingTag s.surfaceSize ++ body ++ SvgDocument.closingTag) →
        (s'.draw program').markup =
          some (SvgDocument.openingTag s'.surfaceSize ++ body ++ SvgDocument.closingTag) →
        drawing.lines = (s'.draw program').lines := by
  intro drawing
  obtain ⟨document, hmarkup, hlines, hsize, hshows, hproper⟩ :=
    Settings.draw_svg hs hvariant program
  change drawing.markup = some document.markup at hmarkup
  change drawing.lines = document.lines at hlines
  have hcolors : ∀ line ∈ document.lines, Inert line.stroke.color := fun line hline =>
    (hproper line hline).color
  refine ⟨⟨document.markup, hmarkup, ?_, ?_⟩, ?_, ?_⟩
  · rw [hshows.markup_eq, hsize, hlines]
    rfl
  · rw [hlines]
    exact hshows.count_markup Binary64.faithful hcolors
  · rw [hlines]
    exact hproper
  · intro c' s' hs' hvariant' program' body hbody hbody'
    obtain ⟨document', hmarkup', hlines', hsize', hshows', hproper'⟩ :=
      Settings.draw_svg hs' hvariant' program'
    rw [hmarkup, ← hsize, Option.some.injEq] at hbody
    rw [hmarkup', ← hsize', Option.some.injEq] at hbody'
    rw [hlines, hlines']
    exact hshows.lines_eq Binary64.faithful hshows' hcolors
      (fun line hline => (hproper' line hline).color) hbody hbody'

/-- The markup of a program that asks for a color that is no color, and of two
    programs that draw nothing. -/
theorem standard_svg_markup_faithful :
    let configuration : Configuration := fun key =>
      if key = "command" then some "turtle_svg" else none
    let s : Settings Float := .standard .svg
    let drawing := s.draw "sc Red; fd 10; sc a<b; fd 10"
    Settings.ofConfiguration configuration = .ok s ∧ s.variant = .svg ∧
      (∃ markup, drawing.markup = some markup ∧
        markup = SvgDocument.openingTag s.surfaceSize ++
          String.join (drawing.lines.toList.map SvgDocument.element) ++ SvgDocument.closingTag ∧
        markup.toList.count '<' = drawing.lines.size + 2 ∧
        markup.toList.count '"' = 8 + 10 * drawing.lines.size) ∧
      (∀ line ∈ drawing.lines, line.Proper) ∧
      (s.draw "sc Red; pu").lines = (s.draw "lt 90").lines := by
  intro configuration s drawing
  have hs : Settings.ofConfiguration configuration = .ok s := rfl
  have hmarkup : ∀ program ∈ ["sc Red; pu", "lt 90"], (s.draw program).markup =
      some (SvgDocument.openingTag s.surfaceSize ++ "" ++ SvgDocument.closingTag) := by
    decide +kernel
  have h := svg_markup_faithful hs rfl "sc Red; fd 10; sc a<b; fd 10"
  have hnone := (svg_markup_faithful hs rfl "sc Red; pu").2.2 hs rfl "lt 90" ""
    (hmarkup _ (by simp)) (hmarkup _ (by simp))
  exact ⟨hs, rfl, h.1, h.2.1, hnone⟩

end TurtleGraphics
