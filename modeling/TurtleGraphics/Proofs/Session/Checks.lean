/-
  Checks: what can be wrong with a configuration, and in which order.

  A configuration is read as a whole or not at all.  Seventeen things are checked one after the
  other, and the first that is wrong is the error: the variant first, then whether the numbers
  can be read, and when all of them can, whether they are in range.

  * `Configuration.Sets`: the settings that a configuration asks for, and
    `Settings.readAll_eq_ok_iff`: they are what is read;
  * `Settings.InRange`: the settings that nothing is wrong with;
  * `Check.Fails` and `Check.inOrder`: the checks with their errors, and their order;
  * `FirstFailure` is the first check that fails, and `Guards` says that a computation fails by
    it; `Guards.bind` puts computations together;
  * `Configuration.settings_and_errors`: the settings and the errors of all configurations.
-/
import TurtleGraphics.Proofs.Session.Variants

namespace TurtleGraphics

variable {β γ : Type}

/-! ## Settings -/

namespace Configuration

variable {c : Configuration} {read? : List Char → Option β} {key : String} {default value : β}
  {e : ConfigurationError}

/-- The double that a text spells. -/
def readNumber? (text : List Char) : Option Float := (Literal.read? text).map Literal.toFloat

/-- What a key is set to: its default, or what is read of its value without the blanks around. -/
def SetsTo (c : Configuration) (read? : List Char → Option β) (key : String)
    (default value : β) : Prop :=
  match c key with
  | none => value = default
  | some text => read? (trim text.toList) = some value

theorem readOr_eq_ok_iff :
    c.readOr read? key default = .ok value ↔ c.SetsTo read? key default value := by
  unfold readOr SetsTo
  cases c key with
  | none => simp [eq_comm]
  | some text => cases h : read? (trim text.toList) <;> simp [h]

theorem readOr_eq_error_iff :
    c.readOr read? key default = .error e ↔ ∃ text, c key = some text ∧
      read? (trim text.toList) = none ∧ e = .unreadable key text := by
  unfold readOr
  cases c key with
  | none => simp
  | some text => cases h : read? (trim text.toList) <;> simp [h, eq_comm]

/-- **The settings that a configuration asks for**: those of a variant, but for the keys that
    have a value. -/
structure Sets (c : Configuration) (s : Settings Float) : Prop where
  command : c "command" = some s.variant.name
  width : c.SetsTo readNumber? "surface.width"
    (Settings.standard s.variant).surfaceSize.x s.surfaceSize.x
  height : c.SetsTo readNumber? "surface.height"
    (Settings.standard s.variant).surfaceSize.y s.surfaceSize.y
  boardExtent : c.SetsTo readNumber? "board.extent"
    (Settings.standard s.variant).boardExtent s.boardExtent
  koch : c.SetsTo readCount? "koch.max_level"
    (Settings.standard s.variant : Settings Float).limits.koch s.limits.koch
  sierpinski : c.SetsTo readCount? "sierp.max_level"
    (Settings.standard s.variant : Settings Float).limits.sierpinski s.limits.sierpinski
  repeatDepth : c.SetsTo readCount? "repeat.max_depth"
    (Settings.standard s.variant : Settings Float).limits.repeatDepth s.limits.repeatDepth
  repeatIterations : c.SetsTo readCount? "repeat.max_iterations"
    (Settings.standard s.variant : Settings Float).limits.repeatIterations
    s.limits.repeatIterations
  cameraDistance : c.SetsTo readNumber? "camera.distance"
    (Settings.standard s.variant).cameraDistance s.cameraDistance
  dragX : c.SetsTo readNumber? "view.drag_x" (Settings.standard s.variant).drag.x s.drag.x
  dragY : c.SetsTo readNumber? "view.drag_y" (Settings.standard s.variant).drag.y s.drag.y

end Configuration

theorem bind_eq_ok_iff {ε : Type} {x : Except ε β} {f : β → Except ε γ} {z : γ} :
    x >>= f = .ok z ↔ ∃ y, x = .ok y ∧ f y = .ok z := by
  cases x <;> simp [bind, Except.bind]

theorem Variant.ofName?_eq_some_iff {name : String} {v : Variant} :
    ofName? name = some v ↔ name = v.name := by
  constructor
  · intro h
    unfold ofName? at h
    have hname := List.find?_some h
    exact (of_decide_eq_true hname).symm
  · rintro rfl
    exact ofName?_name v

namespace Configuration

variable {c : Configuration} {s s' : Settings Float}

theorem required_eq_ok_iff {key value : String} :
    c.required key = .ok value ↔ c key = some value := by
  unfold required
  cases c key <;> simp

theorem required_eq_error_iff {key : String} {e : ConfigurationError} :
    c.required key = .error e ↔ c key = none ∧ e = .missing key := by
  unfold required
  cases c key <;> simp [eq_comm]

/-- **The settings of a configuration** are those that it asks for. -/
theorem sets_iff : c.Sets s ↔ Settings.readAll c = .ok s := by
  unfold Settings.readAll
  constructor
  · intro h
    -- one key after the other, in the order in which they are read
    refine bind_eq_ok_iff.2 ⟨_, required_eq_ok_iff.2 h.command, ?_⟩
    rw [Variant.ofName?_name]
    refine bind_eq_ok_iff.2 ⟨_, readOr_eq_ok_iff.2 h.width, ?_⟩
    refine bind_eq_ok_iff.2 ⟨_, readOr_eq_ok_iff.2 h.height, ?_⟩
    refine bind_eq_ok_iff.2 ⟨_, readOr_eq_ok_iff.2 h.boardExtent, ?_⟩
    refine bind_eq_ok_iff.2 ⟨_, readOr_eq_ok_iff.2 h.koch, ?_⟩
    refine bind_eq_ok_iff.2 ⟨_, readOr_eq_ok_iff.2 h.sierpinski, ?_⟩
    refine bind_eq_ok_iff.2 ⟨_, readOr_eq_ok_iff.2 h.repeatDepth, ?_⟩
    refine bind_eq_ok_iff.2 ⟨_, readOr_eq_ok_iff.2 h.repeatIterations, ?_⟩
    refine bind_eq_ok_iff.2 ⟨_, readOr_eq_ok_iff.2 h.cameraDistance, ?_⟩
    refine bind_eq_ok_iff.2 ⟨_, readOr_eq_ok_iff.2 h.dragX, ?_⟩
    exact bind_eq_ok_iff.2 ⟨_, readOr_eq_ok_iff.2 h.dragY, rfl⟩
  · intro h
    obtain ⟨name, hname, h⟩ := bind_eq_ok_iff.1 h
    split at h
    · cases h
    · next variant hvariant =>
      obtain rfl := Variant.ofName?_eq_some_iff.1 hvariant
      obtain ⟨width, hwidth, h⟩ := bind_eq_ok_iff.1 h
      obtain ⟨height, hheight, h⟩ := bind_eq_ok_iff.1 h
      obtain ⟨boardExtent, hboardExtent, h⟩ := bind_eq_ok_iff.1 h
      obtain ⟨koch, hkoch, h⟩ := bind_eq_ok_iff.1 h
      obtain ⟨sierpinski, hsierpinski, h⟩ := bind_eq_ok_iff.1 h
      obtain ⟨repeatDepth, hrepeatDepth, h⟩ := bind_eq_ok_iff.1 h
      obtain ⟨repeatIterations, hrepeatIterations, h⟩ := bind_eq_ok_iff.1 h
      obtain ⟨cameraDistance, hcameraDistance, h⟩ := bind_eq_ok_iff.1 h
      obtain ⟨dragX, hdragX, h⟩ := bind_eq_ok_iff.1 h
      obtain ⟨dragY, hdragY, h⟩ := bind_eq_ok_iff.1 h
      obtain rfl := Except.ok.inj h
      exact {
        command := required_eq_ok_iff.1 hname
        width := readOr_eq_ok_iff.1 hwidth
        height := readOr_eq_ok_iff.1 hheight
        boardExtent := readOr_eq_ok_iff.1 hboardExtent
        koch := readOr_eq_ok_iff.1 hkoch
        sierpinski := readOr_eq_ok_iff.1 hsierpinski
        repeatDepth := readOr_eq_ok_iff.1 hrepeatDepth
        repeatIterations := readOr_eq_ok_iff.1 hrepeatIterations
        cameraDistance := readOr_eq_ok_iff.1 hcameraDistance
        dragX := readOr_eq_ok_iff.1 hdragX
        dragY := readOr_eq_ok_iff.1 hdragY }

theorem Sets.unique (h : c.Sets s) (h' : c.Sets s') : s = s' :=
  Except.ok.inj ((sets_iff.1 h).symm.trans (sets_iff.1 h'))

end Configuration

/-- Settings that nothing is wrong with. -/
structure Settings.InRange (s : Settings Float) : Prop where
  width : IsLength s.surfaceSize.x
  height : IsLength s.surfaceSize.y
  boardExtent : IsLength s.boardExtent
  cameraDistance : IsLength s.cameraDistance
  drag : s.drag.x.isFinite = true ∧ s.drag.y.isFinite = true

/-! ## Checks -/

/-- The kinds of numbers in a configuration. -/
inductive NumberKind where
  | number | count
deriving DecidableEq

/-- Whether a text spells a number of a kind. -/
def NumberKind.Reads (text : List Char) : NumberKind → Prop
  | number => (Configuration.readNumber? text).isSome = true
  | count => (readCount? text).isSome = true

/-- The things that are checked of a configuration. -/
inductive Check where
  /-- There is a variant. -/
  | command
  /-- The variant is known. -/
  | variant
  /-- The value of the key spells a number of the kind, if there is a value. -/
  | readable (key : String) (kind : NumberKind)
  /-- The setting with the key is a length. -/
  | length (key : String) (setting : Settings Float → Float)
  /-- The drag is finite. -/
  | drag

namespace Check

/-- **The checks**, in their order. -/
def inOrder : List Check :=
  [.command, .variant,
    .readable "surface.width" .number, .readable "surface.height" .number,
    .readable "board.extent" .number,
    .readable "koch.max_level" .count, .readable "sierp.max_level" .count,
    .readable "repeat.max_depth" .count, .readable "repeat.max_iterations" .count,
    .readable "camera.distance" .number,
    .readable "view.drag_x" .number, .readable "view.drag_y" .number,
    .length "surface.width" fun s => s.surfaceSize.x,
    .length "surface.height" fun s => s.surfaceSize.y,
    .length "board.extent" fun s => s.boardExtent,
    .length "camera.distance" fun s => s.cameraDistance,
    .drag]

/-- **The error of a check** that fails. -/
inductive Fails (c : Configuration) : Check → ConfigurationError → Prop where
  | command (h : c "command" = none) : Fails c .command (.missing "command")
  | variant {name : String} (h : c "command" = some name) (hname : ∀ v : Variant, name ≠ v.name) :
      Fails c .variant (.unknownVariant name)
  | readable {key text : String} {kind : NumberKind} (h : c key = some text)
      (hread : ¬ kind.Reads (trim text.toList)) :
      Fails c (.readable key kind) (.unreadable key text)
  | length {key : String} {setting : Settings Float → Float} {s : Settings Float} (h : c.Sets s)
      (hlength : ¬ Settings.IsLength (setting s)) :
      Fails c (.length key setting) (.outOfRange (.notPositive key (setting s)))
  | drag {s : Settings Float} (h : c.Sets s)
      (hdrag : ¬ (s.drag.x.isFinite = true ∧ s.drag.y.isFinite = true)) :
      Fails c .drag (.outOfRange (.dragNotFinite s.drag))

end Check

/-- The first of some checks that fails, by its error. -/
inductive FirstFailure (c : Configuration) : List Check → ConfigurationError → Prop where
  | here {check : Check} {rest : List Check} {e : ConfigurationError} (h : check.Fails c e) :
      FirstFailure c (check :: rest) e
  | later {check : Check} {rest : List Check} {e : ConfigurationError}
      (hpass : ∀ other, ¬ check.Fails c other) (h : FirstFailure c rest e) :
      FirstFailure c (check :: rest) e

theorem not_firstFailure_nil {c : Configuration} {e : ConfigurationError} :
    ¬ FirstFailure c [] e := by
  intro h
  cases h

theorem firstFailure_append_iff {c : Configuration} {first rest : List Check}
    {e : ConfigurationError} :
    FirstFailure c (first ++ rest) e ↔
      FirstFailure c first e ∨ (∀ other, ¬ FirstFailure c first other) ∧ FirstFailure c rest e := by
  induction first with
  | nil => simp [not_firstFailure_nil]
  | cons check first ih =>
    constructor
    · intro h
      cases h with
      | here h => exact .inl (.here h)
      | later hpass h =>
        rcases ih.1 h with h | ⟨hnone, h⟩
        · exact .inl (.later hpass h)
        · refine .inr ⟨fun other hother => ?_, h⟩
          cases hother with
          | here h => exact hpass other h
          | later _ h => exact hnone other h
    · rintro (h | ⟨hnone, h⟩)
      · cases h with
        | here h => exact .here h
        | later hpass h => exact .later hpass (ih.2 (.inl h))
      · have hpass : ∀ other, ¬ check.Fails c other := fun other h => hnone other (.here h)
        exact .later hpass (ih.2 (.inr ⟨fun other h => hnone other (.later hpass h), h⟩))

/-! ## Computations that check -/

/-- A computation that fails with the first of some checks that fails. -/
def Guards (c : Configuration) (checks : List Check) (x : Except ConfigurationError β) : Prop :=
  ∀ e, x = .error e ↔ FirstFailure c checks e

namespace Guards

variable {c : Configuration} {check : Check} {first rest : List Check}

theorem ok (value : β) : Guards c [] (.ok value) := by
  intro e
  simp [not_firstFailure_nil]

theorem single {x : Except ConfigurationError β} (h : ∀ e, x = .error e ↔ check.Fails c e) :
    Guards c [check] x := by
  intro e
  rw [h]
  constructor
  · exact .here
  · intro h
    cases h with
    | here h => exact h
    | later _ h => exact absurd h not_firstFailure_nil

/-- The second part of a computation makes its checks after those of the first part. -/
theorem bind {x : Except ConfigurationError β} {f : β → Except ConfigurationError γ}
    (hx : Guards c first x) (hf : ∀ value, x = .ok value → Guards c rest (f value)) :
    Guards c (first ++ rest) (x >>= f) := by
  intro e
  rw [firstFailure_append_iff]
  cases x with
  | error wrong =>
    have hwrong : FirstFailure c first wrong := (hx wrong).1 rfl
    constructor
    · intro h
      obtain rfl : wrong = e := Except.error.inj h
      exact .inl hwrong
    · rintro (h | ⟨hnone, -⟩)
      · exact congrArg _ (Except.error.inj ((hx e).2 h))
      · exact absurd hwrong (hnone wrong)
  | ok value =>
    have hnone : ∀ other, ¬ FirstFailure c first other := fun other h => by
      cases (hx other).2 h
    exact (hf value rfl e).trans ⟨fun h => .inr ⟨hnone, h⟩, fun h => (h.resolve_left (hnone e)).2⟩

theorem cons {x : Except ConfigurationError β} {f : β → Except ConfigurationError γ}
    (hx : ∀ e, x = .error e ↔ check.Fails c e)
    (hf : ∀ value, x = .ok value → Guards c rest (f value)) :
    Guards c (check :: rest) (x >>= f) :=
  (single hx).bind hf

end Guards

section

variable {c : Configuration} {key : String} {e : ConfigurationError}

theorem required_fails_iff :
    c.required "command" = .error e ↔ Check.command.Fails c e := by
  rw [Configuration.required_eq_error_iff]
  constructor
  · rintro ⟨h, rfl⟩
    exact .command h
  · intro h
    cases h with
    | command h => exact ⟨h, rfl⟩

/-- The variant with a name, or the error that there is none. -/
def Variant.named (name : String) : Except ConfigurationError Variant :=
  match Variant.ofName? name with
  | none => .error (.unknownVariant name)
  | some v => .ok v

theorem named_fails_iff {name : String} (hname : c "command" = some name) :
    Variant.named name = .error e ↔ Check.variant.Fails c e := by
  have hnone : Variant.ofName? name = none ↔ ∀ v : Variant, name ≠ v.name := by
    rw [Option.eq_none_iff_forall_ne_some]
    exact forall_congr' fun v => not_congr Variant.ofName?_eq_some_iff
  unfold Variant.named
  constructor
  · intro h
    split at h
    · next hofName =>
      obtain rfl := Except.error.inj h
      exact .variant hname (hnone.1 hofName)
    · cases h
  · intro h
    cases h with
    | variant h hunknown =>
      obtain rfl := Option.some.inj (hname.symm.trans h)
      rw [hnone.2 hunknown]

theorem Guards.named {name : String} {rest : List Check} (hname : c "command" = some name)
    {f : Variant → Except ConfigurationError β} (hf : ∀ v, Guards c rest (f v)) :
    Guards c (.variant :: rest)
      (match Variant.ofName? name with
        | none => .error (.unknownVariant name)
        | some v => f v) := by
  have hbind : (match Variant.ofName? name with
      | none => .error (.unknownVariant name)
      | some v => f v) = Variant.named name >>= f := by
    unfold Variant.named
    cases Variant.ofName? name <;> rfl
  rw [hbind]
  exact .cons (fun _ => named_fails_iff hname) fun v _ => hf v

theorem readOr_fails_iff {read? : List Char → Option β} {default : β} {kind : NumberKind}
    (hkind : ∀ text, kind.Reads text ↔ (read? text).isSome = true) :
    c.readOr read? key default = .error e ↔ (Check.readable key kind).Fails c e := by
  rw [Configuration.readOr_eq_error_iff]
  constructor
  · rintro ⟨text, hkey, hread, rfl⟩
    exact .readable hkey (by simp [hkind, hread])
  · intro h
    cases h with
    | readable hkey hread => exact ⟨_, hkey, by simpa [hkind] using hread, rfl⟩

theorem number_fails_iff {default : Float} :
    c.number key default = .error e ↔ (Check.readable key .number).Fails c e :=
  readOr_fails_iff fun _ => Iff.rfl

theorem count_fails_iff {default : UInt32} :
    c.count key default = .error e ↔ (Check.readable key .count).Fails c e :=
  readOr_fails_iff fun _ => Iff.rfl

end

theorem guards_readAll (c : Configuration) :
    Guards c (Check.inOrder.take 12) (Settings.readAll c) := by
  unfold Settings.readAll
  refine .cons (fun _ => required_fails_iff) fun name hname => ?_
  refine .named (Configuration.required_eq_ok_iff.1 hname) fun variant => ?_
  refine .cons (fun _ => number_fails_iff) fun width _ => ?_
  refine .cons (fun _ => number_fails_iff) fun height _ => ?_
  refine .cons (fun _ => number_fails_iff) fun boardExtent _ => ?_
  refine .cons (fun _ => count_fails_iff) fun koch _ => ?_
  refine .cons (fun _ => count_fails_iff) fun sierpinski _ => ?_
  refine .cons (fun _ => count_fails_iff) fun repeatDepth _ => ?_
  refine .cons (fun _ => count_fails_iff) fun repeatIterations _ => ?_
  refine .cons (fun _ => number_fails_iff) fun cameraDistance _ => ?_
  refine .cons (fun _ => number_fails_iff) fun dragX _ => ?_
  refine .cons (fun _ => number_fails_iff) fun dragY _ => ?_
  exact .ok _

/-! ## Ranges -/

namespace Settings

variable {c : Configuration} {s : Settings Float}

/-- Fails if a number is no length. -/
def checkLength (key : String) (value : Float) : Except ConfigurationError Unit :=
  if IsLength value then .ok () else .error (.outOfRange (.notPositive key value))

/-- Fails if the drag is not finite. -/
def checkDrag (drag : Vec2 Float) : Except ConfigurationError Unit :=
  if drag.x.isFinite = true ∧ drag.y.isFinite = true then .ok ()
  else .error (.outOfRange (.dragNotFinite drag))

/-- The settings, if they are in range. -/
def check (s : Settings Float) : Except ConfigurationError (Settings Float) := do
  checkLength "surface.width" s.surfaceSize.x
  checkLength "surface.height" s.surfaceSize.y
  checkLength "board.extent" s.boardExtent
  checkLength "camera.distance" s.cameraDistance
  checkDrag s.drag
  return s

theorem check_eq (s : Settings Float) :
    s.check = match s.problem? with
      | some problem => .error (.outOfRange problem)
      | none => .ok s := by
  unfold check problem? lengths checkLength checkDrag
  by_cases hwidth : IsLength s.surfaceSize.x
  · by_cases hheight : IsLength s.surfaceSize.y
    · by_cases hextent : IsLength s.boardExtent
      · by_cases hdistance : IsLength s.cameraDistance
        · by_cases hdrag : s.drag.x.isFinite = true ∧ s.drag.y.isFinite = true
          · simp [hwidth, hheight, hextent, hdistance, hdrag, Scalar.isFinite, bind, Except.bind,
              pure, Except.pure]
          · simp [hwidth, hheight, hextent, hdistance, hdrag, Scalar.isFinite, bind, Except.bind]
        · simp [hwidth, hheight, hextent, hdistance, bind, Except.bind]
      · simp [hwidth, hheight, hextent, bind, Except.bind]
    · simp [hwidth, hheight, bind, Except.bind]
  · simp [hwidth, bind, Except.bind]

theorem ofConfiguration_eq (c : Configuration) : ofConfiguration c = readAll c >>= check := by
  unfold ofConfiguration
  congr 1
  funext s
  rw [check_eq]
  rfl

theorem checkLength_fails_iff (hs : c.Sets s) {key : String} (setting : Settings Float → Float)
    {e : ConfigurationError} :
    checkLength key (setting s) = .error e ↔ (Check.length key setting).Fails c e := by
  unfold checkLength
  constructor
  · intro h
    split at h
    · cases h
    · next hlength =>
      obtain rfl := Except.error.inj h
      exact .length hs hlength
  · intro h
    cases h with
    | length hs' hlength =>
      obtain rfl := hs.unique hs'
      rw [if_neg hlength]

theorem checkDrag_fails_iff (hs : c.Sets s) {e : ConfigurationError} :
    checkDrag s.drag = .error e ↔ Check.drag.Fails c e := by
  unfold checkDrag
  constructor
  · intro h
    split at h
    · cases h
    · next hdrag =>
      obtain rfl := Except.error.inj h
      exact .drag hs hdrag
  · intro h
    cases h with
    | drag hs' hdrag =>
      obtain rfl := hs.unique hs'
      rw [if_neg hdrag]

theorem guards_check (hs : c.Sets s) : Guards c (Check.inOrder.drop 12) s.check := by
  unfold check
  refine .cons (fun _ => checkLength_fails_iff hs fun s => s.surfaceSize.x) fun _ _ => ?_
  refine .cons (fun _ => checkLength_fails_iff hs fun s => s.surfaceSize.y) fun _ _ => ?_
  refine .cons (fun _ => checkLength_fails_iff hs fun s => s.boardExtent) fun _ _ => ?_
  refine .cons (fun _ => checkLength_fails_iff hs fun s => s.cameraDistance) fun _ _ => ?_
  refine .cons (fun _ => checkDrag_fails_iff hs) fun _ _ => ?_
  exact .ok s

/-- **A configuration fails** with the first check that does. -/
theorem guards_ofConfiguration (c : Configuration) :
    Guards c Check.inOrder (ofConfiguration c) := by
  rw [ofConfiguration_eq, ← List.take_append_drop 12 Check.inOrder]
  exact (guards_readAll c).bind fun s hs => guards_check (Configuration.sets_iff.2 hs)

theorem checkLength_eq_ok_iff {key : String} {value : Float} :
    checkLength key value = .ok () ↔ IsLength value := by
  unfold checkLength
  split <;> simp [*]

theorem checkDrag_eq_ok_iff {drag : Vec2 Float} :
    checkDrag drag = .ok () ↔ drag.x.isFinite = true ∧ drag.y.isFinite = true := by
  unfold checkDrag
  split <;> simp [*]

theorem check_eq_ok_iff {s' : Settings Float} : s.check = .ok s' ↔ s = s' ∧ s.InRange := by
  unfold check
  constructor
  · intro h
    obtain ⟨_, hwidth, h⟩ := bind_eq_ok_iff.1 h
    obtain ⟨_, hheight, h⟩ := bind_eq_ok_iff.1 h
    obtain ⟨_, hextent, h⟩ := bind_eq_ok_iff.1 h
    obtain ⟨_, hdistance, h⟩ := bind_eq_ok_iff.1 h
    obtain ⟨_, hdrag, h⟩ := bind_eq_ok_iff.1 h
    exact ⟨Except.ok.inj h, {
      width := checkLength_eq_ok_iff.1 hwidth
      height := checkLength_eq_ok_iff.1 hheight
      boardExtent := checkLength_eq_ok_iff.1 hextent
      cameraDistance := checkLength_eq_ok_iff.1 hdistance
      drag := checkDrag_eq_ok_iff.1 hdrag }⟩
  · rintro ⟨rfl, h⟩
    refine bind_eq_ok_iff.2 ⟨(), checkLength_eq_ok_iff.2 h.width, ?_⟩
    refine bind_eq_ok_iff.2 ⟨(), checkLength_eq_ok_iff.2 h.height, ?_⟩
    refine bind_eq_ok_iff.2 ⟨(), checkLength_eq_ok_iff.2 h.boardExtent, ?_⟩
    refine bind_eq_ok_iff.2 ⟨(), checkLength_eq_ok_iff.2 h.cameraDistance, ?_⟩
    exact bind_eq_ok_iff.2 ⟨(), checkDrag_eq_ok_iff.2 h.drag, rfl⟩

theorem ofConfiguration_eq_ok_iff : ofConfiguration c = .ok s ↔ c.Sets s ∧ s.InRange := by
  rw [ofConfiguration_eq, bind_eq_ok_iff]
  constructor
  · rintro ⟨s', hread, hcheck⟩
    obtain ⟨rfl, hrange⟩ := check_eq_ok_iff.1 hcheck
    exact ⟨Configuration.sets_iff.2 hread, hrange⟩
  · rintro ⟨hsets, hrange⟩
    exact ⟨s, Configuration.sets_iff.1 hsets, check_eq_ok_iff.2 ⟨rfl, hrange⟩⟩

/-- The keys that settings are read from. -/
def keys : List String :=
  ["command", "surface.width", "surface.height", "board.extent", "koch.max_level",
    "sierp.max_level", "repeat.max_depth", "repeat.max_iterations", "camera.distance",
    "view.drag_x", "view.drag_y"]

theorem readAll_congr {c' : Configuration} (h : ∀ key ∈ keys, c' key = c key) :
    readAll c' = readAll c := by
  have hnumber : ∀ key ∈ keys, ∀ default, c'.number key default = c.number key default :=
    fun key hkey => Configuration.readOr_congr (h key hkey)
  have hcount : ∀ key ∈ keys, ∀ default, c'.count key default = c.count key default :=
    fun key hkey => Configuration.readOr_congr (h key hkey)
  unfold readAll Configuration.required
  simp only [h "command" (by decide), hnumber "surface.width" (by decide),
    hnumber "surface.height" (by decide), hnumber "board.extent" (by decide),
    hnumber "camera.distance" (by decide), hnumber "view.drag_x" (by decide),
    hnumber "view.drag_y" (by decide), hcount "koch.max_level" (by decide),
    hcount "sierp.max_level" (by decide), hcount "repeat.max_depth" (by decide),
    hcount "repeat.max_iterations" (by decide)]

end Settings

theorem Drawing.ofConfiguration_eq_error_iff {c : Configuration} {e : ConfigurationError} :
    ofConfiguration c = .error e ↔ Settings.ofConfiguration c = .error e ∨
      (∃ s, Settings.ofConfiguration c = .ok s) ∧ c "program" = none ∧ e = .missing "program" := by
  unfold ofConfiguration
  cases Settings.ofConfiguration c with
  | error wrong => simp [bind, Except.bind]
  | ok s =>
    rw [← Configuration.required_eq_error_iff]
    cases c.required "program" <;> simp [bind, Except.bind, pure, Except.pure]

/-- **A configuration is read as a whole or not at all**: its settings are those that it asks
    for, if they are in range, and its error is that of the first check that fails.  Nothing
    depends on other keys, but that a drawing needs a program. -/
theorem Configuration.settings_and_errors (c : Configuration) :
    (∀ s, Settings.ofConfiguration c = .ok s ↔ c.Sets s ∧ s.InRange) ∧
    (∀ e, Settings.ofConfiguration c = .error e ↔ FirstFailure c Check.inOrder e) ∧
    (∀ c' : Configuration, (∀ key ∈ Settings.keys, c' key = c key) →
      Settings.ofConfiguration c' = Settings.ofConfiguration c) ∧
    ∀ e, Drawing.ofConfiguration c = .error e ↔ Settings.ofConfiguration c = .error e ∨
      (∃ s, Settings.ofConfiguration c = .ok s) ∧ c "program" = none ∧
        e = .missing "program" := by
  refine ⟨fun s => Settings.ofConfiguration_eq_ok_iff, Settings.guards_ofConfiguration c, ?_,
    fun e => Drawing.ofConfiguration_eq_error_iff⟩
  intro c' h
  rw [Settings.ofConfiguration_eq, Settings.ofConfiguration_eq, Settings.readAll_congr h]

/-- A drag that cannot be read comes before a width that is out of range, whatever else the
    configuration says. -/
theorem unreadable_drag_before_width :
    let c : Configuration := fun key =>
      if key = "command" then some "turtle_svg" else if key = "surface.width" then some "0"
      else if key = "view.drag_y" then some "down" else none
    let c' : Configuration := fun key => if key = "zoom" then some "7" else c key
    (∀ key ∈ Settings.keys, c' key = c key) ∧
      Settings.ofConfiguration c' = .error (.unreadable "view.drag_y" "down") ∧
      FirstFailure c' Check.inOrder (.unreadable "view.drag_y" "down") := by
  intro c c'
  have hkeys : ∀ key ∈ Settings.keys, c' key = c key := by decide +kernel
  have hsame := (Configuration.settings_and_errors c).2.2.1 c' hkeys
  have herror : Settings.ofConfiguration c = .error (.unreadable "view.drag_y" "down") := rfl
  rw [herror] at hsame
  exact ⟨hkeys, hsame, ((Configuration.settings_and_errors c').2.1 _).1 hsame⟩

end TurtleGraphics
