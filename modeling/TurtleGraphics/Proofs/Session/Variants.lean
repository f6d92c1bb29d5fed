/-
  Variants: drawings of the plane, with and without markup.

  The two variants draw on surfaces of different kinds and start with different
  strokes.  If they are asked for the same size and the same board, nothing else comes
  of it: programs have the same reports, and draw lines between the same points.  Once
  a program has set both the color and the width, the lines are the same.

  * `Entry.Applies`: something of a kind is applied of some entries, and
    `Session.Simulates.established`: what the first of its kind brings about is true
    from then on;
  * `PlaneTurtle.freeTour`: a history of a turtle that is put anywhere between times;
  * `PlaneTurtle.Abreast.sameColor`, `PlaneTurtle.Abreast.sameWidth`: turtles that have
    taken a color, or a width, have it in common, and `PlaneTurtle.Tracing.drop_eq`: then
    they draw the same;
  * `Settings.readAll_renamed`: configurations that differ in the variant, but do not
    rely on its defaults, have the same settings otherwise;
  * `Settings.drawPlane_drawSvg`: drawings of both variants with the same settings, and
    `PlaneTurtle.tracing_after_freeTour`: turtles of both with the same stroke;
  * `plane_variants_agree`: so it is with every configuration.
-/
import TurtleGraphics.Proofs.Session.Document
import TurtleGraphics.Proofs.Session.Steering

namespace TurtleGraphics

variable {σ τ α : Type}

/-! ## What is established -/

/-- Of some entries, from a state on, a command is applied that `P` is true of. -/
def Entry.Applies (limits : Limits) (session : Session σ α) (P : Command α → Prop) (state : σ)
    (entries : List (Entry α)) : Prop :=
  ∃ e ∈ applied limits session state entries, ∃ c, e.request = .perform c ∧ P c

theorem Entry.verdict_eq_ok {limits : Limits} {e : Entry α} {c : Command α} :
    e.verdict limits = .ok c ↔ e.request = .perform c ∧ limits.refusal? c = none := by
  obtain ⟨text, request⟩ := e
  cases request with
  | perform c' =>
    rw [Request.perform.injEq]
    constructor
    · intro hverdict
      cases hrefusal : limits.refusal? c' with
      | some reason => simp [verdict, hrefusal] at hverdict
      | none =>
        obtain rfl : c' = c := by simpa [verdict, hrefusal] using hverdict
        exact ⟨rfl, hrefusal⟩
    · rintro ⟨rfl, hrefusal⟩
      simp [verdict, hrefusal]
  | ignore reason => simp [verdict]
  | refuse iterations => simp [verdict]

theorem Entry.applies_cons {limits : Limits} {session : Session σ α} {P : Command α → Prop}
    {state : σ} {e : Entry α} {rest : List (Entry α)} :
    Applies limits session P state (e :: rest) ↔
      (∃ c, e.verdict limits = .ok c ∧ P c ∧ (session.apply state c).1 = .applied) ∨
        Applies limits session P (e.settle limits session state).2 rest := by
  have happly : ∀ {c}, e.verdict limits = .ok c →
      e.settle limits session state = session.apply state c := by
    intro c hverdict
    rw [settle, hverdict]
  -- an entry in front is among the applied ones if it is applied itself
  rcases hsettle : e.settle limits session state with ⟨outcome, behind⟩
  constructor
  · rintro ⟨styled, hstyled, c, hrequest, hc⟩
    rw [applied, hsettle] at hstyled
    cases outcome with
    | ignored reason => exact .inr ⟨styled, hstyled, c, hrequest, hc⟩
    | applied =>
      rcases List.mem_cons.1 hstyled with rfl | hstyled
      · cases hverdict : styled.verdict limits with
        | error reason => simp [settle, hverdict] at hsettle
        | ok c' =>
          obtain rfl : c' = c := by simpa [hrequest, eq_comm] using (verdict_eq_ok.1 hverdict).1
          exact .inl ⟨c', rfl, hc, by rw [← happly hverdict, hsettle]⟩
      · exact .inr ⟨styled, hstyled, c, hrequest, hc⟩
  · rintro (⟨c, hverdict, hc, happlied⟩ | ⟨styled, hstyled, c, hrequest, hc⟩)
    · obtain rfl : outcome = .applied := by
        rw [← happlied, ← happly hverdict, hsettle]
      refine ⟨e, ?_, c, (verdict_eq_ok.1 hverdict).1, hc⟩
      rw [applied, hsettle]
      exact List.mem_cons_self ..
    · refine ⟨styled, ?_, c, hrequest, hc⟩
      rw [applied, hsettle]
      cases outcome with
      | ignored reason => exact hstyled
      | applied => exact List.mem_cons_of_mem _ hstyled

/-- **From then on.**  Let a relation be kept of two sessions, and another as soon as it
    is true.  If every applied command of a kind leads from the first relation to the
    second, then the second is true behind all entries of which such a command is
    applied. -/
theorem Session.Simulates.established {first : Session σ α} {second : Session τ α}
    {R R' : σ → τ → Prop} (h : first.Simulates second R) (h' : first.Simulates second R')
    {P : Command α → Prop}
    (hlead : ∀ s t c, R s t → P c → (first.apply s c).1 = .applied →
      R' (first.apply s c).2 (second.apply t c).2)
    (limits : Limits) : ∀ {entries : List (Entry α)} {s : σ} {t : τ}, R s t →
      Entry.Applies limits first P s entries →
        R' (Entry.stateAfter limits first s entries) (Entry.stateAfter limits second t entries)
  | [], _, _, _, hsome => by
    obtain ⟨_, hnone, _⟩ := hsome
    cases hnone
  | e :: rest, s, t, hst, hsome => by
    rw [Entry.stateAfter_cons, Entry.stateAfter_cons]
    rcases Entry.applies_cons.1 hsome with ⟨c, hverdict, hc, happlied⟩ | hsome
    · have hstyled := hlead s t c hst hc happlied
      unfold Entry.settle
      rw [hverdict]
      exact (h'.entries limits rest hstyled).2
    · exact established h h' hlead limits (h.entries limits [e] hst).2 hsome

namespace PlaneTurtle

/-! ## Tours -/

section

variable [Scalar α] [Surface σ α] [Surface τ α]

/-- The tours of turtles that may also be put into any pose. -/
def freeTour : Tour (PlaneTurtle σ α) (Activity α ⊕ PlanePose α) (PlanePose α) where
  act t := Sum.elim t.act t.setPose
  pose := pose
  setPose := setPose

theorem Coupling.freeTour {R : PlaneTurtle σ α → PlaneTurtle τ α → Prop} (h : Coupling R)
    (hreset : ∀ t t', R t t' → R t.reset t'.reset) :
    PlaneTurtle.freeTour.InStep PlaneTurtle.freeTour R where
  act t t' activity ht := by
    rcases activity with activity | pose
    · cases activity with
      | walk moves => exact h.inStep.walk ht moves
      | setColor color => exact (h.setColor ht color).2
      | setWidth width => exact (h.setWidth ht width).2
      | reset => exact hreset t t' ht
      | run limits program => exact (h.run ht limits program).2
    · exact h.setPose t t' pose ht
  pose t t' ht := h.inStep.pose t t' ht
  setPose t t' pose ht := h.setPose t t' pose ht

end

/-! ## Styles -/

theorem color_of_applied {t : PlaneTurtle σ α} {color : String}
    (h : (t.setColor color).1 = .applied) : (t.setColor color).2.stroke.color = color := by
  unfold setColor at h ⊢
  split at h
  · next husable => rw [if_pos husable]
  · cases h

variable [Scalar α]

theorem width_of_applied {t : PlaneTurtle σ α} {width : α}
    (h : (t.setWidth width).1 = .applied) : (t.setWidth width).2.stroke.width = width := by
  unfold setWidth at h ⊢
  split at h
  · next hallowed => rw [if_pos hallowed]
  · cases h

variable [Surface σ α] [Surface τ α] [Recording σ] [Recording τ] {t : PlaneTurtle σ α}
  {t' : PlaneTurtle τ α}

theorem Tracing.reset {S : Stroke α → Stroke α → Prop} {before before' : List (Line α)}
    (h : t.Tracing S before before' t') : t.reset.Tracing S [] [] t'.reset := by
  have hsize : Surface.size (Surface.clear t.surface) =
      Surface.size (Surface.clear t'.surface) := by
    rw [Recording.size_clear, Recording.size_clear, h.size]
  have hmatched : t.reset.Matched S t'.reset :=
    ⟨⟨congrArg Vec2.half h.size, rfl, h.unit, hsize⟩, h.stroke⟩
  exact hmatched.traced h.penDown (congrArg Array.toList (Recording.lines_clear t.surface))
    (congrArg Array.toList (Recording.lines_clear t'.surface))

theorem Tracing.start {S : Stroke α → Stroke α → Prop} (surface : σ) (surface' : τ) (extent : α)
    (hsize : Surface.size surface = Surface.size surface') (hlines : Recording.lines surface = #[])
    (hlines' : Recording.lines surface' = #[]) {stroke stroke' : Stroke α}
    (hstroke : S stroke stroke') :
    Tracing S [] [] (.start surface extent stroke) (.start surface' extent stroke') := by
  have hunit : (Surface.size surface).x / extent = (Surface.size surface').x / extent := by
    rw [hsize]
  have hmatched : Matched S (.start surface extent stroke) (.start surface' extent stroke') :=
    ⟨⟨congrArg Vec2.half hsize, rfl, hunit, hsize⟩, hstroke⟩
  exact hmatched.traced rfl (congrArg Array.toList hlines) (congrArg Array.toList hlines')

variable {limits : Limits}

theorem Abreast.sameColor (h : t.Abreast t') {entries : List (Entry α)}
    (hcolor : Entry.Applies limits session (∃ color, · = .setColor color) t entries) :
    (Entry.stateAfter limits session t entries).Matched (fun s s' => s.color = s'.color)
      (Entry.stateAfter limits session t' entries) := by
  refine coupling.simulates.established (Matched.coupling .sameColor).simulates ?_ limits h hcolor
  rintro t t' c h ⟨color, rfl⟩ happlied
  obtain ⟨houtcome, hcolored⟩ := coupling.setColor h color
  refine ⟨hcolored, ?_⟩
  exact (color_of_applied happlied).trans (color_of_applied (houtcome ▸ happlied)).symm

theorem Abreast.sameWidth (h : t.Abreast t') {entries : List (Entry α)}
    (hwidth : Entry.Applies limits session (∃ width, · = .setWidth width) t entries) :
    (Entry.stateAfter limits session t entries).Matched (fun s s' => s.width = s'.width)
      (Entry.stateAfter limits session t' entries) := by
  refine coupling.simulates.established (Matched.coupling .sameWidth).simulates ?_ limits h hwidth
  rintro t t' c h ⟨width, rfl⟩ happlied
  obtain ⟨houtcome, hwidened⟩ := coupling.setWidth h width
  refine ⟨hwidened, ?_⟩
  exact (width_of_applied happlied).trans (width_of_applied (houtcome ▸ happlied)).symm

/-- **Turtles that have taken a color and a width** draw equal lines from then on. -/
theorem Tracing.drop_eq (h : t.Tracing (fun _ _ => True) [] [] t') {program : String}
    {before after : List (Entry α)}
    (hentries : Statement.unrollAll limits 1 (parse limits.repeatDepth program) = before ++ after)
    (hcolor : Entry.Applies limits session (∃ color, · = .setColor color) t before)
    (hwidth : Entry.Applies limits session (∃ width, · = .setWidth width) t before) :
    let drawn := (Recording.lines (Entry.stateAfter limits session t before).surface).size
    (Recording.lines (limits.run session program t).2.surface).toList.drop drawn =
      (Recording.lines (limits.run session program t').2.surface).toList.drop drawn := by
  intro drawn
  have hstyled := h.toAbreast.sameColor hcolor
  have hstroke := congrArg₂ Stroke.mk hstyled.stroke (h.toAbreast.sameWidth hwidth).stroke
  obtain ⟨-, hbehind⟩ := (coupling .any [] []).simulates.entries limits before h
  obtain ⟨early, early', hearly, hearly', hmatch⟩ := hbehind.lines
  -- from the entries on that set the style, the turtles are traced anew
  have hmatched : Matched (· = ·) _ _ := ⟨hstyled.toAbreast, hstroke⟩
  have hanew : Tracing (· = ·) early early' _ _ := hmatched.traced hbehind.penDown hearly hearly'
  obtain ⟨-, hdone⟩ := (coupling .eq early early').simulates.entries limits after hanew
  obtain ⟨late, late', hlate, hlate', hequal⟩ := hdone.lines
  have hdrawn : drawn = early.length := congrArg List.length hearly
  have hdrawn' : early.length = early'.length := hmatch.length_eq
  have hrun : ∀ {ρ : Type} [Surface ρ α] (t : PlaneTurtle ρ α),
      (limits.run session program t).2 =
        Entry.stateAfter limits session (Entry.stateAfter limits session t before) after := by
    intro ρ _ t
    rw [limits.run_eq, hentries, Entry.stateAfter_append]
    rfl
  rw [hrun, hrun, hlate, hlate', Line.eq_of_matches hequal, hdrawn, List.drop_left, hdrawn',
    List.drop_left]

end PlaneTurtle

/-! ## Configurations -/

/-- Configurations of the two variants of the plane that are the same otherwise.  They do
    not rely on the defaults in which the variants differ. -/
structure Configuration.Counterparts (c c' : Configuration) : Prop where
  plane : c "command" = some Variant.plane.name
  svg : c' "command" = some Variant.svg.name
  others : ∀ key, key ≠ "command" → c' key = c key
  given : ∀ key ∈ ["surface.width", "surface.height", "board.extent"], (c key).isSome = true

namespace Configuration

variable {c c' : Configuration} {β : Type} {read? : List Char → Option β} {key : String}

theorem readOr_congr (h : c' key = c key) (default : β) :
    c'.readOr read? key default = c.readOr read? key default := by
  rw [readOr, readOr, h]

theorem readOr_given (h : (c key).isSome = true) (default default' : β) :
    c.readOr read? key default = c.readOr read? key default' := by
  obtain ⟨value, hvalue⟩ := Option.isSome_iff_exists.1 h
  rw [readOr, readOr, hvalue]

end Configuration

namespace Settings

theorem standard_eq (v v' : Variant) :
    (standard v' : Settings Float) =
      { (standard v : Settings Float) with
        variant := v'
        surfaceSize := (standard v' : Settings Float).surfaceSize
        boardExtent := (standard v' : Settings Float).boardExtent } := by
  cases v <;> cases v' <;> rfl

theorem readAll_renamed {c c' : Configuration} {v v' : Variant} (hname : c "command" = some v.name)
    (hname' : c' "command" = some v'.name) (hothers : ∀ key, key ≠ "command" → c' key = c key)
    (hgiven : ∀ key ∈ ["surface.width", "surface.height", "board.extent"],
      (c key).isSome = true) :
    readAll c' = (fun s : Settings Float => { s with variant := v' }) <$> readAll c := by
  have hok : ∀ name : String, (.ok name : Except ConfigurationError String) = pure name :=
    fun _ => rfl
  have hnumber : ∀ key, key ≠ "command" → ∀ default, c'.number key default = c.number key default :=
    fun key hkey => Configuration.readOr_congr (hothers key hkey)
  have hcount : ∀ key, key ≠ "command" → ∀ default, c'.count key default = c.count key default :=
    fun key hkey => Configuration.readOr_congr (hothers key hkey)
  have hdefault : ∀ key ∈ ["surface.width", "surface.height", "board.extent"],
      ∀ default default', c.number key default = c.number key default' :=
    fun key hkey => Configuration.readOr_given (hgiven key hkey)
  -- the variant decides about three defaults only, and these are not used
  simp only [readAll, Configuration.required, hname, hname', hok, pure_bind, Variant.ofName?_name,
    map_bind, map_pure]
  rw [hnumber "surface.width" (by decide), hnumber "surface.height" (by decide),
    hnumber "board.extent" (by decide), hnumber "camera.distance" (by decide),
    hnumber "view.drag_x" (by decide), hnumber "view.drag_y" (by decide),
    hcount "koch.max_level" (by decide), hcount "sierp.max_level" (by decide),
    hcount "repeat.max_depth" (by decide), hcount "repeat.max_iterations" (by decide),
    hdefault "surface.width" (by decide) _ (standard v).surfaceSize.x,
    hdefault "surface.height" (by decide) _ (standard v).surfaceSize.y,
    hdefault "board.extent" (by decide) _ (standard v).boardExtent, standard_eq v v']

theorem ofConfiguration_counterpart {c c' : Configuration} (h : c.Counterparts c')
    {s : Settings Float} (hs : ofConfiguration c = .ok s) :
    s.variant = .plane ∧ ofConfiguration c' = .ok { s with variant := .svg } := by
  obtain ⟨hread, hproblem⟩ := ofConfiguration_eq_ok.1 hs
  have hplane := readAll_renamed h.plane h.plane (fun _ _ => rfl) h.given
  have hsvg := readAll_renamed h.plane h.svg h.others h.given
  rw [hread] at hplane hsvg
  exact ⟨congrArg variant (Except.ok.inj hplane), ofConfiguration_eq_ok.2 ⟨hsvg, hproblem⟩⟩

end Settings

/-! ## Drawings -/

theorem Drawing.ofConfiguration_eq {c : Configuration} {s : Settings Float} {program : String}
    (hs : Settings.ofConfiguration c = .ok s) (hprogram : c "program" = some program) :
    ofConfiguration c = .ok (s.draw program) := by
  rw [ofConfiguration, hs]
  simp only [Configuration.required, hprogram]
  rfl

section

variable [Scalar α] [NumberText α]

/-- **Drawings with the same settings**, without and with markup.  The turtles have
    strokes of their own at the start, and are abreast all the same. -/
theorem Settings.drawPlane_drawSvg (s : Settings α) (program : String) :
    (s.drawPlane program).reports = (s.drawSvg program).reports ∧
      (s.drawPlane program).lines.toList.map Line.ends =
        (s.drawSvg program).lines.toList.map Line.ends ∧
      let first : PlaneTurtle (LineBuffer α) α :=
        .start (.empty s.surfaceSize) s.boardExtent .initial
      ∀ before after : List (Entry α),
        Statement.unrollAll s.limits 1 (parse s.limits.repeatDepth program) = before ++ after →
        Entry.Applies s.limits PlaneTurtle.session (∃ color, · = .setColor color) first before →
        Entry.Applies s.limits PlaneTurtle.session (∃ width, · = .setWidth width) first before →
          let drawn :=
            (Entry.stateAfter s.limits PlaneTurtle.session first before).surface.lines.size
          (s.drawPlane program).lines.toList.drop drawn =
            (s.drawSvg program).lines.toList.drop drawn := by
  have hstart : PlaneTurtle.Tracing (fun _ _ => True) [] []
      (.start (LineBuffer.empty s.surfaceSize) s.boardExtent .initial)
      (.start (SvgDocument.empty s.surfaceSize) s.boardExtent svgStroke) := by
    refine .start _ _ _ ?_ ?_ ?_ trivial <;> rfl
  obtain ⟨hreports, hdone⟩ := (PlaneTurtle.Tracing.coupling .any [] []).run hstart s.limits program
  obtain ⟨drawn, drawn', hlines, hlines', hmatch⟩ := hdone.lines
  refine ⟨hreports, ?_, ?_⟩
  · exact (congrArg _ hlines).trans ((Line.map_ends_eq hmatch).trans (congrArg _ hlines').symm)
  · intro first before after hentries hcolor hwidth
    exact hstart.drop_eq hentries hcolor hwidth

/-- **Turtles with equal strokes**, on a line buffer and on a document, stay equal on every
    tour. -/
theorem PlaneTurtle.tracing_after_freeTour (size : Vec2 α) (extent : α) (stroke : Stroke α)
    (steps : List (Tour.Step (Activity α ⊕ PlanePose α))) :
    Tracing (· = ·) [] [] (freeTour.after (.start (LineBuffer.empty size) extent stroke) steps)
      (freeTour.after (.start (SvgDocument.empty size) extent stroke) steps) := by
  have hstart : Tracing (· = ·) [] [] (.start (LineBuffer.empty size) extent stroke)
      (.start (SvgDocument.empty size) extent stroke) := by
    refine .start _ _ _ ?_ ?_ ?_ ?_ <;> rfl
  exact ((Tracing.coupling .eq [] []).freeTour fun _ _ h => h.reset).after hstart steps

end

/-- **The two variants of the plane agree.**  If two configurations differ in the variant
    alone, and give size and board, then their drawings have equal reports and lines
    between the same points, one by one; and whatever is drawn behind entries of which a
    color and a width have been applied is equal in both.  Turtles on a line buffer and on
    a document of one size, with equal boards and strokes, stay equal in everything but
    the surface, whatever is done with both of them, and have equal lines. -/
theorem plane_variants_agree :
    (∀ {c c' : Configuration} {s : Settings Float} {program : String}, c.Counterparts c' →
      Settings.ofConfiguration c = .ok s → c "program" = some program →
      ∃ drawing drawing' : Drawing Float, Drawing.ofConfiguration c = .ok drawing ∧
        Drawing.ofConfiguration c' = .ok drawing' ∧ drawing.reports = drawing'.reports ∧
        drawing.lines.toList.map Line.ends = drawing'.lines.toList.map Line.ends ∧
        let first : PlaneTurtle (LineBuffer Float) Float :=
          .start (.empty s.surfaceSize) s.boardExtent .initial
        ∀ before after : List (Entry Float),
          Statement.unrollAll s.limits 1 (parse s.limits.repeatDepth program) = before ++ after →
          Entry.Applies s.limits PlaneTurtle.session (∃ color, · = .setColor color) first before →
          Entry.Applies s.limits PlaneTurtle.session (∃ width, · = .setWidth width) first before →
            let drawn :=
              (Entry.stateAfter s.limits PlaneTurtle.session first before).surface.lines.size
            drawing.lines.toList.drop drawn = drawing'.lines.toList.drop drawn) ∧
    ∀ {α : Type} [Scalar α] [NumberText α] (size : Vec2 α) (extent : α) (stroke : Stroke α)
      (steps : List (Tour.Step (PlaneTurtle.Activity α ⊕ PlanePose α))),
      let t := PlaneTurtle.freeTour.after (.start (LineBuffer.empty size) extent stroke) steps
      let t' := PlaneTurtle.freeTour.after (.start (SvgDocument.empty size) extent stroke) steps
      (t.Abreast t' ∧ t.penDown = t'.penDown ∧ t.stroke = t'.stroke) ∧
        t.surface.lines = t'.surface.lines ∧
        (∀ c, (PlaneTurtle.session.apply t c).1 = (PlaneTurtle.session.apply t' c).1) ∧
        ∀ (limits : Limits) (program : String),
          (limits.run PlaneTurtle.session program t).1 =
            (limits.run PlaneTurtle.session program t').1 := by
  constructor
  · intro c c' s program h hs hprogram
    obtain ⟨hvariant, hs'⟩ := Settings.ofConfiguration_counterpart h hs
    have hprogram' : c' "program" = some program := (h.others _ (by decide)).trans hprogram
    have hdraw : s.draw program = s.drawPlane program := by rw [Settings.draw, hvariant]
    refine ⟨_, _, Drawing.ofConfiguration_eq hs hprogram, Drawing.ofConfiguration_eq hs' hprogram',
      ?_⟩
    rw [hdraw]
    exact s.drawPlane_drawSvg program
  · intro α _ _ size extent stroke steps t t'
    have h : t.Tracing (· = ·) [] [] t' :=
      PlaneTurtle.tracing_after_freeTour size extent stroke steps
    obtain ⟨drawn, drawn', hlines, hlines', hmatch⟩ := h.lines
    have hequal : t.surface.lines.toList = t'.surface.lines.toList :=
      hlines.trans ((Line.eq_of_matches hmatch).trans hlines'.symm)
    refine ⟨⟨h.toAbreast, h.penDown, h.stroke⟩, Array.toList_inj.1 hequal, ?_, ?_⟩
    · intro c
      exact (PlaneTurtle.Tracing.coupling .eq [] []).simulates.outcome t t' c h
    · intro limits program
      exact ((PlaneTurtle.Tracing.coupling .eq [] []).run h limits program).1

theorem plane_variants_agree_restyled :
    let program := "fd 10; ss 3; sc Red; fd 20"
    let c : Configuration := fun key =>
      if key = "command" then some "turtle_2d"
      else if key = "surface.width" then some "640"
      else if key = "surface.height" then some " 480 "
      else if key = "board.extent" then some "320"
      else if key = "program" then some program
      else none
    let c' : Configuration := fun key => if key = "command" then some "turtle_svg" else c key
    let standard : Settings Float := .standard .plane
    let s : Settings Float := { standard with surfaceSize := ⟨640, 480⟩, boardExtent := 320 }
    let first : PlaneTurtle (LineBuffer Float) Float :=
      .start (.empty s.surfaceSize) s.boardExtent .initial
    let before : List (Entry Float) := [⟨"fd 10", .perform (.forward 10)⟩,
      ⟨"ss 3", .perform (.setWidth 3)⟩, ⟨"sc red", .perform (.setColor "red")⟩]
    let drawn := (Entry.stateAfter s.limits PlaneTurtle.session first before).surface.lines.size
    (c.Counterparts c' ∧ Settings.ofConfiguration c = .ok s ∧ c "program" = some program) ∧
      ∃ drawing drawing' : Drawing Float, Drawing.ofConfiguration c = .ok drawing ∧
        Drawing.ofConfiguration c' = .ok drawing' ∧ drawing.reports = drawing'.reports ∧
        drawing.lines.toList.map Line.ends = drawing'.lines.toList.map Line.ends ∧
        drawing.lines.toList.drop drawn = drawing'.lines.toList.drop drawn := by
  -- width and color are taken between the two moves
  have hsegments : (segments "fd 10; ss 3; sc Red; fd 20" : List (Segment Float)) =
      [.single "fd 10" (.ok (.forward (Numeral.value ⟨false, 10, 0⟩))),
        .single "ss 3" (.ok (.setWidth (Numeral.value ⟨false, 3, 0⟩))),
        .single "sc red" (.ok (.setColor "red")),
        .single "fd 20" (.ok (.forward (Numeral.value ⟨false, 20, 0⟩)))] := by
    rfl
  intro program c c' standard s first before drawn
  have hcounterparts : c.Counterparts c' := ⟨rfl, rfl, fun _ hkey => if_neg hkey, by decide⟩
  have hs : Settings.ofConfiguration c = .ok s := rfl
  have hten : (Numeral.value ⟨false, 10, 0⟩ : Float) = 10 := rfl
  have hthree : (Numeral.value ⟨false, 3, 0⟩ : Float) = 3 := rfl
  have hentries : Statement.unrollAll s.limits 1 (parse s.limits.repeatDepth program) =
      before ++ [⟨"fd 20", .perform (.forward (Numeral.value ⟨false, 20, 0⟩))⟩] := by
    rw [Statement.parse_eq, hsegments]
    simp only [Statement.blockAt_single, Statement.blockAt_nil, Statement.ofCommand, hten, hthree]
    rfl
  have hwidth : Entry.Applies s.limits PlaneTurtle.session (∃ width, · = .setWidth width) first
      before := by
    refine Entry.applies_cons.2 (.inr (Entry.applies_cons.2 (.inl ⟨_, rfl, ⟨3, rfl⟩, ?_⟩)))
    exact congrArg Prod.fst (if_pos (by decide +kernel))
  have hcolor : Entry.Applies s.limits PlaneTurtle.session (∃ color, · = .setColor color) first
      before := by
    refine Entry.applies_cons.2 (.inr (Entry.applies_cons.2 (.inr (Entry.applies_cons.2
      (.inl ⟨_, rfl, ⟨"red", rfl⟩, ?_⟩)))))
    exact congrArg Prod.fst (if_pos (by decide))
  obtain ⟨drawing, drawing', hdrawing, hdrawing', hreports, hends, hdrop⟩ :=
    plane_variants_agree.1 hcounterparts hs rfl
  exact ⟨⟨hcounterparts, hs, rfl⟩, drawing, drawing', hdrawing, hdrawing', hreports, hends,
    hdrop before _ hentries hcolor hwidth⟩

end TurtleGraphics
