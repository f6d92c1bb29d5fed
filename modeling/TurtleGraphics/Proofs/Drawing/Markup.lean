/-
  Markup: documents that can be read again.

  The element of a line has its numbers and its style between quotation marks.
  If no color has one of the characters that mean something there, the lines can
  be told from their elements.

  * `NumberText.Faithful`: numbers are written plainly, and differently;
  * `Inert`: the texts without characters that mean something in markup;
  * `SvgDocument.element_append`: an element can be told from what follows it;
  * `SvgDocument.elements_injective`: so can lines from their elements;
  * `SvgDocument.Shows`: the body of a document has the elements of its lines;
  * `SvgDocument.Shows.count_markup`: how often the characters occur that begin
    tags and enclose values.
-/
import TurtleGraphics.Drawing.Svg

namespace TurtleGraphics

variable {α : Type}

/-! ## Texts -/

/-- Numbers are written with letters, digits, signs and points, and different
    ones are written differently. -/
structure NumberText.Faithful (α : Type) [NumberText α] : Prop where
  plain : ∀ x : α, ∀ c ∈ (NumberText.text x).toList, c.isAlphanum = true ∨ c = '-' ∨ c = '.'
  injective : Function.Injective (NumberText.text : α → String)

/-- The characters that mean something in markup. -/
def markupCharacters : List Char := ['<', '>', '"', '\'', '&']

theorem forall_markup {P : Char → Prop} (h : P '<' ∧ P '>' ∧ P '"' ∧ P '\'' ∧ P '&') :
    ∀ c ∈ markupCharacters, P c := by
  simpa [markupCharacters] using h

/-- A text without characters that mean something in markup, or in a style. -/
structure Inert (text : String) : Prop where
  markup : ∀ c ∈ markupCharacters, c ∉ text.toList
  style : ';' ∉ text.toList

theorem NumberText.Faithful.inert [NumberText α] (h : NumberText.Faithful α) (x : α) :
    Inert (NumberText.text x) := by
  have hplain : ∀ c ∈ markupCharacters, ¬ (c.isAlphanum = true ∨ c = '-' ∨ c = '.') :=
    forall_markup (by decide)
  exact ⟨fun c hc hmem => hplain c hc (h.plain x c hmem),
    fun hmem => absurd (h.plain x ';' hmem) (by decide)⟩

theorem takeWhile_append_mark {mark : Char} {text : String} (h : mark ∉ text.toList)
    (rest : List Char) : (text.toList ++ mark :: rest).takeWhile (· != mark) = text.toList := by
  have hall : ∀ c ∈ text.toList, (c != mark) = true := by
    intro c hc
    rw [bne_iff_ne]
    rintro rfl
    exact h hc
  rw [List.takeWhile_append_of_pos hall, List.takeWhile_cons_of_neg (by simp), List.append_nil]

theorem eq_of_append_mark (mark : Char) {text text' rest rest' : String}
    (h : mark ∉ text.toList) (h' : mark ∉ text'.toList)
    (heq : text ++ (String.singleton mark ++ rest) = text' ++ (String.singleton mark ++ rest')) :
    text = text' ∧ rest = rest' := by
  have hlists := congrArg String.toList heq
  simp only [String.toList_append, String.toList_singleton, List.singleton_append] at hlists
  have htext := takeWhile_append_mark h rest.toList
  rw [hlists, takeWhile_append_mark h'] at htext
  obtain rfl := String.toList_inj.1 htext
  exact ⟨rfl, String.toList_inj.1 (List.cons.inj (List.append_cancel_left hlists)).2⟩

namespace SvgDocument

variable [NumberText α]

/-! ## Reading elements -/

theorem attr_append {name value value' rest rest' : String} (h : '"' ∉ value.toList)
    (h' : '"' ∉ value'.toList) (heq : attr name value ++ rest = attr name value' ++ rest') :
    value = value' ∧ rest = rest' := by
  simp only [attr, String.append_assoc, String.append_right_inj] at heq
  exact eq_of_append_mark '"' h h' heq

variable {stroke stroke' : Stroke α} {line line' : Line α}

theorem not_mem_style (hf : NumberText.Faithful α) (h : Inert stroke.color) {c : Char}
    (hc : c ∈ markupCharacters) : c ∉ (style stroke).toList := by
  have hfixed : ∀ c ∈ markupCharacters, c ∉ "stroke: ".toList ∧ c ∉ "; stroke-width: ".toList :=
    forall_markup (by decide)
  simp only [style, String.toList_append, List.mem_append, not_or]
  exact ⟨⟨⟨(hfixed c hc).1, h.markup c hc⟩, (hfixed c hc).2⟩, (hf.inert _).markup c hc⟩

theorem style_injective (hf : NumberText.Faithful α) (h : Inert stroke.color)
    (h' : Inert stroke'.color) (heq : style stroke = style stroke') : stroke = stroke' := by
  have hrest : "; stroke-width: " = ";" ++ " stroke-width: " := by decide
  simp only [style, hrest, String.append_assoc, String.append_right_inj] at heq
  obtain ⟨hcolor, hwidth⟩ := eq_of_append_mark ';' h.style h'.style heq
  rw [String.append_right_inj] at hwidth
  obtain ⟨color, width⟩ := stroke
  obtain ⟨color', width'⟩ := stroke'
  obtain rfl : color = color' := hcolor
  obtain rfl : width = width' := hf.injective hwidth
  rfl

/-- **A line can be told from what follows its element**. -/
theorem element_append (hf : NumberText.Faithful α) (h : Inert line.stroke.color)
    (h' : Inert line'.stroke.color) {rest rest' : String}
    (heq : element line ++ rest = element line' ++ rest') : line = line' ∧ rest = rest' := by
  have hquote : '"' ∈ markupCharacters := by decide
  have hnumber : ∀ x : α, '"' ∉ (NumberText.text x).toList := fun x => (hf.inert x).markup _ hquote
  simp only [element, String.append_assoc, String.append_right_inj] at heq
  obtain ⟨hstartx, heq⟩ := attr_append (hnumber _) (hnumber _) heq
  obtain ⟨hstarty, heq⟩ := attr_append (hnumber _) (hnumber _) heq
  obtain ⟨hstopx, heq⟩ := attr_append (hnumber _) (hnumber _) heq
  obtain ⟨hstopy, heq⟩ := attr_append (hnumber _) (hnumber _) heq
  obtain ⟨hstyle, hrest⟩ := attr_append (not_mem_style hf h hquote)
    (not_mem_style hf h' hquote) heq
  obtain ⟨start, stop, stroke⟩ := line
  obtain ⟨start', stop', stroke'⟩ := line'
  obtain rfl : start = start' := Vec2.ext (hf.injective hstartx) (hf.injective hstarty)
  obtain rfl : stop = stop' := Vec2.ext (hf.injective hstopx) (hf.injective hstopy)
  obtain rfl : stroke = stroke' := style_injective hf h h' hstyle
  exact ⟨rfl, (String.append_right_inj _).1 hrest⟩

/-- The elements of lines, one behind the other. -/
def elements (lines : List (Line α)) : String := String.join (lines.map element)

theorem elements_cons (line : Line α) (lines : List (Line α)) :
    elements (line :: lines) = element line ++ elements lines := String.join_cons

theorem elements_cons_ne (line : Line α) (lines : List (Line α)) :
    elements (line :: lines) ≠ elements ([] : List (Line α)) := by
  intro heq
  have hlists := congrArg String.toList heq
  rw [elements_cons, element] at hlists
  simp [elements] at hlists

/-- **Lines can be told from their elements**. -/
theorem elements_injective (hf : NumberText.Faithful α) : ∀ {lines lines' : List (Line α)},
    (∀ line ∈ lines, Inert line.stroke.color) → (∀ line ∈ lines', Inert line.stroke.color) →
      elements lines = elements lines' → lines = lines'
  | [], [], _, _, _ => rfl
  | [], line :: lines, _, _, heq => absurd heq.symm (elements_cons_ne line lines)
  | line :: lines, [], _, _, heq => absurd heq (elements_cons_ne line lines)
  | line :: lines, line' :: lines', h, h', heq => by
    obtain ⟨hfirst, hrest⟩ := List.forall_mem_cons.1 h
    obtain ⟨hfirst', hrest'⟩ := List.forall_mem_cons.1 h'
    rw [elements_cons, elements_cons] at heq
    obtain ⟨rfl, hmore⟩ := element_append hf hfirst hfirst' heq
    rw [elements_injective hf hrest hrest' hmore]

/-! ## Counting characters -/

theorem count_attr {c : Char} {value : String} (h : c ∉ value.toList) (name : String) :
    (attr name value).toList.count c = (attr name "").toList.count c := by
  simp only [attr, String.toList_append, List.count_append, List.count_eq_zero_of_not_mem h]
  rfl

/-- An element without its values. -/
def elementFrame : String :=
  "<line" ++ attr "x1" "" ++ attr "y1" "" ++ attr "x2" "" ++ attr "y2" "" ++ attr "style" "" ++ "/>"

/-- The tag that opens a document, without the numbers in it. -/
def openingFrame : String :=
  "<svg" ++ attr "xmlns" "http://www.w3.org/2000/svg" ++ attr "width" "" ++ attr "height" ""
    ++ attr "viewBox" "" ++ ">"

variable {c : Char}

theorem count_element (hf : NumberText.Faithful α) (h : Inert line.stroke.color)
    (hc : c ∈ markupCharacters) : (element line).toList.count c = elementFrame.toList.count c := by
  have hnumber : ∀ x : α, c ∉ (NumberText.text x).toList := fun x => (hf.inert x).markup c hc
  simp only [element, elementFrame, String.toList_append, List.count_append,
    count_attr (hnumber _), count_attr (not_mem_style hf h hc)]

theorem count_openingTag (hf : NumberText.Faithful α) (size : Vec2 α) (hc : c ∈ markupCharacters) :
    (openingTag size).toList.count c = openingFrame.toList.count c := by
  have hnumber : ∀ x : α, c ∉ (NumberText.text x).toList := fun x => (hf.inert x).markup c hc
  have hfixed : ∀ c ∈ markupCharacters, c ∉ "0 0 ".toList ∧ c ∉ " ".toList :=
    forall_markup (by decide)
  have hbox : c ∉ ("0 0 " ++ NumberText.text size.x ++ " " ++ NumberText.text size.y).toList := by
    simp only [String.toList_append, List.mem_append, not_or]
    exact ⟨⟨⟨(hfixed c hc).1, hnumber _⟩, (hfixed c hc).2⟩, hnumber _⟩
  simp only [openingTag, openingFrame, String.toList_append, List.count_append,
    count_attr (hnumber _), count_attr hbox]

theorem count_elements (hf : NumberText.Faithful α) (hc : c ∈ markupCharacters) :
    ∀ {lines : List (Line α)}, (∀ line ∈ lines, Inert line.stroke.color) →
      (elements lines).toList.count c = lines.length * elementFrame.toList.count c
  | [], _ => by simp [elements]
  | line :: lines, h => by
    obtain ⟨hfirst, hrest⟩ := List.forall_mem_cons.1 h
    rw [elements_cons, String.toList_append, List.count_append, count_element hf hfirst hc,
      count_elements hf hc hrest, List.length_cons, Nat.succ_mul, Nat.add_comm]

/-! ## Documents -/

/-- The body of a document has the elements of its lines. -/
def Shows (d : SvgDocument α) : Prop := d.body = elements d.lines.toList

namespace Shows

variable {d : SvgDocument α}

theorem empty (size : Vec2 α) : (SvgDocument.empty size).Shows := by
  rw [Shows, SvgDocument.empty]
  rfl

theorem draw (h : d.Shows) (line : Line α) : Shows (Surface.draw d line) := by
  have hbody : d.body = elements d.lines.toList := h
  rw [Shows]
  simp only [Surface.draw, Array.toList_push, elements, List.map_append, String.join_append, hbody]
  simp

theorem markup_eq (h : d.Shows) :
    d.markup = openingTag d.size ++ elements d.lines.toList ++ closingTag := by
  rw [markup, h]

theorem elements_eq (h : d.Shows) {body : String}
    (hbody : d.markup = openingTag d.size ++ body ++ closingTag) :
    elements d.lines.toList = body := by
  rw [h.markup_eq, String.append_left_inj, String.append_right_inj] at hbody
  exact hbody

/-- **The lines of a document can be told from its body**. -/
theorem lines_eq {d' : SvgDocument α} (hf : NumberText.Faithful α) (h : d.Shows) (h' : d'.Shows)
    (hlines : ∀ line ∈ d.lines, Inert line.stroke.color)
    (hlines' : ∀ line ∈ d'.lines, Inert line.stroke.color) {body : String}
    (hbody : d.markup = openingTag d.size ++ body ++ closingTag)
    (hbody' : d'.markup = openingTag d'.size ++ body ++ closingTag) : d.lines = d'.lines := by
  have helements := (h.elements_eq hbody).trans (h'.elements_eq hbody').symm
  refine Array.toList_inj.1 (elements_injective hf ?_ ?_ helements)
  · exact fun line hline => hlines line (Array.mem_toList_iff.1 hline)
  · exact fun line hline => hlines' line (Array.mem_toList_iff.1 hline)

/-- **Counting characters of a document**: every line has one that begins a tag
    and ten that enclose values. -/
theorem count_markup (h : d.Shows) (hf : NumberText.Faithful α)
    (hlines : ∀ line ∈ d.lines, Inert line.stroke.color) :
    d.markup.toList.count '<' = d.lines.size + 2 ∧
      d.markup.toList.count '"' = 8 + 10 * d.lines.size := by
  have hcount : ∀ c ∈ markupCharacters, d.markup.toList.count c =
      openingFrame.toList.count c + d.lines.size * elementFrame.toList.count c +
        closingTag.toList.count c := by
    intro c hc
    rw [h.markup_eq, String.toList_append, String.toList_append, List.count_append,
      List.count_append, count_openingTag hf _ hc,
      count_elements hf hc fun line hline => hlines line (Array.mem_toList_iff.1 hline),
      Array.length_toList]
  have htags : openingFrame.toList.count '<' = 1 ∧ elementFrame.toList.count '<' = 1 ∧
      closingTag.toList.count '<' = 1 := by decide
  have hquotes : openingFrame.toList.count '"' = 8 ∧ elementFrame.toList.count '"' = 10 ∧
      closingTag.toList.count '"' = 0 := by decide
  constructor
  · rw [hcount '<' (by decide), htags.1, htags.2.1, htags.2.2]
    omega
  · rw [hcount '"' (by decide), hquotes.1, hquotes.2.1, hquotes.2.2]
    omega

end Shows

end SvgDocument

end TurtleGraphics
