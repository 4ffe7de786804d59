import FleetWatch.Console

/-! # Keyboard and mouse

What each key and each mouse action does. While the help box is open any key only closes it; in
the filter and in the prompt characters are typed; otherwise keys are commands.
-/

namespace FleetWatch

inductive Key where
  | character (c : Char)
  | enter
  | escape
  | backspace
  | tab
  | backTab
  | up
  | down
  | left
  | right
  | pageUp
  | pageDown
  | toStart
  | toEnd
  | delete
  | insert
  | function (number : Nat)
  | null
  | capsLock
  | scrollLock
  | numLock
  | printScreen
  | pause
  | menu
  | keypadBegin
  /-- A key of a player, by its number. -/
  | media (number : Nat)
  /-- A modifier by itself, by its number. -/
  | modifier (number : Nat)
  deriving Repr, DecidableEq, Inhabited

/-- A key with the modifiers held. -/
structure KeyPress where
  key : Key
  control : Bool := false
  shift : Bool := false
  alt : Bool := false
  deriving Repr, DecidableEq, Inhabited

inductive MouseButton where
  | left
  | right
  | middle
  deriving Repr, DecidableEq, Inhabited

inductive MouseAction where
  | press (button : MouseButton)
  | release
  | drag
  | move
  | wheelUp
  | wheelDown
  | wheelLeft
  | wheelRight
  deriving Repr, DecidableEq, Inhabited

/-- A mouse action and the cell of the screen it happens at, counted from the upper left. -/
structure MouseEvent where
  action : MouseAction
  column : Nat
  row : Nat
  deriving Repr, DecidableEq, Inhabited

namespace Console

def pressInFilter (c : Console) (press : KeyPress) : Console :=
  match press.key with
  | .enter | .escape => { c with mode := .normal }
  | .backspace =>
    let popped := c.popFilter
    if popped.filter.isEmpty then { popped with mode := .normal } else popped
  | .character typed => if typed = 'c' && press.control then c.clearFilter else c.pushFilter typed
  | _ => c

def pressInPrompt (c : Console) (press : KeyPress) (now : Moment) : Reaction :=
  match press.key with
  | .enter => c.submitAdd now
  | .escape => ⟨c.cancelAdd, none, none⟩
  | .backspace => ⟨{ c with input := c.input.dropLast }, none, none⟩
  | .character typed =>
    ⟨if typed = 'c' && press.control then c.cancelAdd else { c with input := c.input ++ [typed] },
      none, none⟩
  | _ => ⟨c, none, none⟩

def pressCharacter (c : Console) (typed : Char) (control : Bool) (now : Moment) : Reaction :=
  match typed with
  | 'q' => ⟨c.quit, none, none⟩
  | 'c' =>
    ⟨if control then c.quit else if c.filter.isEmpty then c else c.clearFilter, none, none⟩
  | '1' => ⟨c.showView .overview, none, none⟩
  | '2' => ⟨c.showView .clusters, none, none⟩
  | 'k' => ⟨c.selectPrevious 1, none, none⟩
  | 'j' => ⟨c.selectNext 1, none, none⟩
  | 'h' | 'l' => ⟨c.nextView, none, none⟩
  | ' ' => c.toggleSelected now
  | 'd' => c.run .discover now
  | 'a' => ⟨c.startAdd, none, none⟩
  | 'r' => ⟨c, some .refresh, none⟩
  | '?' => ⟨c.toggleHelp, none, none⟩
  | '/' => ⟨c.startFilter, none, none⟩
  | 'e' => c.save now
  | _ => ⟨c, none, none⟩

def pressCommand (c : Console) (press : KeyPress) (now : Moment) : Reaction :=
  match press.key with
  | .character typed => c.pressCharacter typed press.control now
  | .tab | .backTab | .left | .right => ⟨c.nextView, none, none⟩
  | .up => ⟨c.selectPrevious 1, none, none⟩
  | .down => ⟨c.selectNext 1, none, none⟩
  | .pageUp => ⟨c.selectPrevious 10, none, none⟩
  | .pageDown => ⟨c.selectNext 10, none, none⟩
  | .toStart => ⟨c.selectFirst, none, none⟩
  | .toEnd => ⟨c.selectLast, none, none⟩
  | .enter => c.toggleSelected now
  | .escape | .backspace => ⟨c.goBack, none, none⟩
  | _ => ⟨c, none, none⟩

def press (c : Console) (press : KeyPress) (now : Moment) : Reaction :=
  if c.showsHelp then ⟨{ c with showsHelp := false }, none, none⟩
  else match c.mode with
    | .filter => ⟨c.pressInFilter press, none, none⟩
    | .add => c.pressInPrompt press now
    | .normal => c.pressCommand press now

/-- A key all the way: where it asks for a document to be saved, the way in which saving ends is
told. -/
def strike (c : Console) (press : KeyPress) (saving : Except String Unit) (now : Moment) :
    Reaction :=
  let reaction := c.press press now
  match reaction.document with
  | some _ => { reaction with console := reaction.console.postSaved saving now }
  | none => reaction

/-- A click on a row of the cluster table, whose rows follow the given one, selects the cluster. -/
def clickRow (c : Console) (row tableHeader : Nat) : Console :=
  let aimed := c.scroll + (row - tableHeader - 1)
  if c.view = .clusters && tableHeader < row && aimed < c.visible.length then
    { c with selected := aimed }
  else c

/-- A click on the line of the tabs shows the view whose tab is near. -/
def clickTab (c : Console) (column row : Nat) : Console :=
  if row = 1 then
    if column < 14 then c.showView .overview
    else if column < 28 then c.showView .clusters
    else c
  else c

/-- A click with the left button. -/
def click (c : Console) (column row tableHeader : Nat) : Console :=
  (c.clickRow row tableHeader).clickTab column row

/-- A mouse action; the header of the cluster table stands in the given row of the screen. -/
def mouse (c : Console) (event : MouseEvent) (tableHeader : Nat) : Console :=
  match event.action with
  | .wheelUp => c.selectPrevious 1
  | .wheelDown => c.selectNext 1
  | .press .left => c.click event.column event.row tableHeader
  | .press .right => c.goBack
  | _ => c

end Console

end FleetWatch
