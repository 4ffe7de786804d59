import FleetWatch.Proofs.Screen.Overlay
import Mathlib.Algebra.Group.Nat.Defs

/-! # Where boxes go

A terminal counts its columns and rows in sixteen bits. The place of a box is found within these
numbers, whatever size the box is asked to have and however small the area is that it is to stand
in. What is drawn there covers nothing beside the area, so a screen with a box on it is no larger
than it was.
-/

namespace FleetWatch

/-! ## The numbers of a terminal -/

/-- Addition of columns or rows, where a terminal has a number for the sum. -/
def addCells? (a b : Nat) : Option Nat := if a + b < 2 ^ 16 then some (a + b) else none

theorem addCells?_eq {a b : Nat} (fits : a + b < 2 ^ 16) : addCells? a b = some (a + b) :=
  if_pos fits

namespace Area

/-- Whether a terminal has numbers for the right and the lower edge of an area. -/
structure Fits (a : Area) : Prop where
  right : a.right < 2 ^ 16
  bottom : a.bottom < 2 ^ 16

/-- An area cut off where the numbers of a terminal end. -/
def cut (a : Area) : Area :=
  { a with
    width := min a.right (2 ^ 16 - 1) - a.left
    height := min a.bottom (2 ^ 16 - 1) - a.top }

/-- `centered` in the numbers of a terminal. Its subtractions stop at zero, and the box ends where
the numbers do. -/
def centered? (area : Area) (width height : Nat) : Option Area := do
  let width := min width (area.width - 4)
  let height := min height (area.height - 2)
  let left ← addCells? area.left ((area.width - width) / 2)
  let top ← addCells? area.top ((area.height - height) / 2)
  some (cut ⟨left, top, width, height⟩)

theorem Within.fits {a b : Area} (within : a.Within b) (fits : b.Fits) : a.Fits where
  right := Nat.lt_of_le_of_lt within.2.2.1 fits.right
  bottom := Nat.lt_of_le_of_lt within.2.2.2 fits.bottom

theorem fits_ofSize {width height : Nat} (wide : width < 2 ^ 16) (tall : height < 2 ^ 16) :
    (ofSize width height).Fits where
  right := by rwa [right, ofSize, Nat.zero_add]
  bottom := by rwa [bottom, ofSize, Nat.zero_add]

theorem cut_eq_self {a : Area} (fits : a.Fits) : a.cut = a := by
  have right : min a.right (2 ^ 16 - 1) = a.right := Nat.min_eq_left (Nat.le_pred_of_lt fits.right)
  have bottom : min a.bottom (2 ^ 16 - 1) = a.bottom :=
    Nat.min_eq_left (Nat.le_pred_of_lt fits.bottom)
  rw [cut, right, bottom, Area.right, Area.bottom, Nat.add_sub_cancel_left, Nat.add_sub_cancel_left]

/-- The upper left corner of the box is in the area, so the sums have numbers as its edges do. -/
theorem centered?_eq {area : Area} (fits : area.Fits) (width height : Nat) :
    area.centered? width height = some (area.centered width height) := by
  have inside : (area.centered width height).Fits := (centered_within ..).fits fits
  have left : area.left + (area.width - min width (area.width - 4)) / 2 < 2 ^ 16 :=
    Nat.lt_of_le_of_lt (Nat.le_add_right ..) inside.right
  have top : area.top + (area.height - min height (area.height - 2)) / 2 < 2 ^ 16 :=
    Nat.lt_of_le_of_lt (Nat.le_add_right ..) inside.bottom
  rw [centered?, addCells?_eq left, addCells?_eq top]
  exact congrArg some (cut_eq_self inside)

/-- Whether an area is in the middle of another one as nearly as whole cells allow: as many columns
are free to its right as to its left, or one more, and as many rows below it as above it, or one
more. -/
structure InMiddle (a b : Area) : Prop where
  columns : a.left - b.left ≤ b.right - a.right ∧ b.right - a.right ≤ a.left - b.left + 1
  rows : a.top - b.top ≤ b.bottom - a.bottom ∧ b.bottom - a.bottom ≤ a.top - b.top + 1

theorem centered_inMiddle (area : Area) (width height : Nat) :
    (area.centered width height).InMiddle area := by
  constructor <;> simp only [centered, right, bottom] <;> omega

end Area

/-! ## What is drawn there -/

theorem Row.length_lay {column : Nat} {top base : Row} (fits : column + top.length ≤ base.length) :
    (lay column top base).length = base.length := by
  simp only [lay, List.length_append, List.length_take, List.length_drop]
  omega

namespace Picture

theorem hasSize_blank (width height : Nat) : (blank width height).HasSize width height where
  rows := length_blank ..
  columns row listed := by
    rw [List.eq_of_mem_replicate listed]
    exact Row.length_blank ..

theorem HasSize.place {base : Picture} {width height : Nat} (whole : base.HasSize width height)
    {area : Area} {drawing : Nat → Nat → Picture}
    (box : (drawing area.width area.height).HasSize area.width area.height)
    (within : area.Within (.ofSize width height)) :
    (place area drawing base).HasSize width height := by
  obtain ⟨-, -, right, bottom⟩ := within
  simp only [Area.right, Area.bottom, Area.ofSize, Nat.zero_add] at right bottom
  refine ⟨?_, fun row listed => ?_⟩
  -- The rows that are laid over are as many as the box has only because it ends in the picture.
  · simp only [Picture.place, lay, List.length_append, List.length_take, List.length_zipWith,
      List.length_drop, box.rows, whole.rows]
    omega
  -- Above and below the box a row is the picture's own; across it `Row.lay` keeps the width.
  · rcases List.mem_append.mp listed with front | below
    · rcases List.mem_append.mp front with above | laid
      · exact whole.columns row (List.mem_of_mem_take above)
      · obtain ⟨line, drawn⟩ := List.mem_iff_getElem?.mp laid
        obtain ⟨upper, lower, inBox, inBase, rfl⟩ := List.getElem?_zipWith_eq_some.mp drawn
        have boxWide := box.columns upper (List.mem_of_getElem? inBox)
        have wide := whole.columns lower (List.mem_of_mem_drop (List.mem_of_getElem? inBase))
        rw [Row.length_lay (by omega), wide]
    · exact whole.columns row (List.mem_of_mem_drop below)

end Picture

theorem SizeMessage.area_within (width height : Nat) :
    (SizeMessage.area width height).Within (.ofSize width height) := by
  simp only [SizeMessage.area, Area.ofSize, Area.Within, Area.right, Area.bottom]
  omega

theorem SizeMessage.hasSize_picture (width height : Nat) :
    (SizeMessage.picture width height).HasSize width height :=
  (Picture.hasSize_blank ..).place (Picture.hasSize_ofLabels ..) (area_within ..)

/-- A box in the middle of an area is found within the numbers of a terminal. It is a part of the
area, of the size that was asked for or smaller, and in the middle of it. So the help box and the
message about the size are on the screen on every terminal, and change the size of no picture. -/
theorem boxes_within_screen :
    (∀ area : Area, area.Fits → ∀ width height,
      let box := area.centered width height
      area.centered? width height = some box ∧ box.Within area ∧ box.width ≤ width ∧
        box.height ≤ height ∧ box.InMiddle area) ∧
    ∀ width < 2 ^ 16, ∀ height < 2 ^ 16,
      let screen := Area.ofSize width height
      screen.centered? 42 25 = some (HelpBox.area screen) ∧
        (HelpBox.area screen).Within screen ∧
        (∀ theme base, base.HasSize width height →
          (Picture.place (HelpBox.area screen) (HelpBox.picture theme) base).HasSize width
            height) ∧
        (SizeMessage.area width height).cut = SizeMessage.area width height ∧
        (SizeMessage.area width height).Within screen ∧
        (SizeMessage.picture width height).HasSize width height := by
  constructor
  · intro area fits width height box
    exact ⟨Area.centered?_eq fits width height, Area.centered_within .., Nat.min_le_left ..,
      Nat.min_le_left .., Area.centered_inMiddle ..⟩
  · intro width wide height tall screen
    have fits : screen.Fits := Area.fits_ofSize wide tall
    have help := HelpBox.area_within width height
    have message := SizeMessage.area_within width height
    exact ⟨Area.centered?_eq fits 42 25, help,
      fun theme base whole => whole.place (HelpBox.hasSize_picture ..) help,
      Area.cut_eq_self (message.fits fits), message, SizeMessage.hasSize_picture ..⟩

/-- The last columns and rows that a terminal has numbers for hold a box, and a screen without any
rows holds both boxes. -/
theorem last_corner_holds_box :
    (Area.mk 65525 65530 10 5).Fits ∧
      (Area.mk 65525 65530 10 5).centered? 42 25 = some ⟨65527, 65531, 6, 3⟩ ∧
      (Area.mk 65527 65531 6 3).InMiddle ⟨65525, 65530, 10, 5⟩ ∧
      HelpBox.area (.ofSize 65535 0) = ⟨32746, 0, 42, 0⟩ ∧
      (HelpBox.area (.ofSize 65535 0)).Within (.ofSize 65535 0) ∧
      (SizeMessage.area 65535 0).Within (.ofSize 65535 0) := by
  have fits : (Area.mk 65525 65530 10 5).Fits := ⟨by decide, by decide⟩
  obtain ⟨found, -, -, -, middle⟩ := boxes_within_screen.1 _ fits 42 25
  obtain ⟨-, help, -, -, message, -⟩ := boxes_within_screen.2 65535 (by decide) 0 (by decide)
  exact ⟨fits, found, middle, rfl, help, message⟩

end FleetWatch
