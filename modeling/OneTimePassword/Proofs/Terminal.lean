/-
Module: OneTimePassword.Proofs.Terminal
Purpose: A terminal as far as inverse video goes, and what texts print on it.
Main exports: Terminal, Terminal.display, Terminal.Prints, Terminal.Shows
-/

namespace OneTimePassword

namespace Terminal

/-- A place on the screen: the character in it, and whether it is in inverse video. -/
structure Cell where
  glyph : Char
  isInverse : Bool
deriving Repr, DecidableEq

/-- A line of the screen, and whether inverse video was on when the line ended. -/
structure Line where
  cells : List Cell
  endsInverse : Bool
deriving Repr, DecidableEq

end Terminal

/-- A terminal that takes characters one by one. -/
structure Terminal where
  /-- The lines that have ended. -/
  lines : List Terminal.Line := []
  /-- What stands in the line that has not. -/
  cells : List Terminal.Cell := []
  isInverse : Bool := false
  /-- What has come of a control sequence behind its escape character. -/
  sequence? : Option (List Char) := none
deriving Repr, DecidableEq

namespace Terminal

/-- Whether inverse video is on behind an attribute: `0` turns all attributes off, `27` this one,
and `7` turns it on. The others do not matter to it. -/
def afterAttribute (isInverse : Bool) (code : List Char) : Bool :=
  if code = ['0'] ∨ code = ['2', '7'] then false
  else if code = ['7'] then true
  else isInverse

/-- Carry out a control sequence that ended in `m`: a bracket, then attributes between
semicolons. -/
def obey (terminal : Terminal) : List Char → Terminal
  | '[' :: attributes =>
      { terminal with
        isInverse := (attributes.splitOn ';').foldl afterAttribute terminal.isInverse }
  | _ => terminal

/-- Take a character. -/
def put (terminal : Terminal) (c : Char) : Terminal :=
  match terminal.sequence? with
  | some sequence =>
      if c = 'm' then { terminal.obey sequence with sequence? := none }
      else { terminal with sequence? := some (sequence ++ [c]) }
  | none =>
      if c = '\x1b' then { terminal with sequence? := some [] }
      else if c = '\n' then
        { terminal with
          lines := terminal.lines ++ [⟨terminal.cells, terminal.isInverse⟩], cells := [] }
      else { terminal with cells := terminal.cells ++ [⟨c, terminal.isInverse⟩] }

/-- Take a text. -/
def display (terminal : Terminal) (text : List Char) : Terminal := text.foldl put terminal

theorem display_append (terminal : Terminal) (s t : List Char) :
    terminal.display (s ++ t) = (terminal.display s).display t := List.foldl_append

/-! ### Parts of a line -/

/-- A text that stays within a line prints cells. It takes inverse video as `before` and leaves it
as `after`. -/
def Prints (text : List Char) (before : Bool) (cells : List Cell) (after : Bool) : Prop :=
  ∀ (lines : List Line) (start : List Cell),
    ({ lines, cells := start, isInverse := before } : Terminal).display text =
      { lines, cells := start ++ cells, isInverse := after }

namespace Prints

variable {s t : List Char} {before between after : Bool} {cells more : List Cell}

theorem nil (isInverse : Bool) : Prints [] isInverse [] isInverse := by
  intro lines start
  rw [List.append_nil]
  rfl

theorem append (first : Prints s before cells between) (second : Prints t between more after) :
    Prints (s ++ t) before (cells ++ more) after := by
  intro lines start
  rw [display_append, first, second, List.append_assoc]

theorem glyph {c : Char} (hescape : c ≠ '\x1b') (hnewline : c ≠ '\n') (isInverse : Bool) :
    Prints [c] isInverse [⟨c, isInverse⟩] isInverse := by
  intro lines start
  simp [display, put, hescape, hnewline]

theorem glyphs {glyphs : List Char} (h : ∀ c ∈ glyphs, c ≠ '\x1b' ∧ c ≠ '\n')
    (isInverse : Bool) :
    Prints glyphs isInverse (glyphs.map (⟨·, isInverse⟩)) isInverse := by
  induction glyphs with
  | nil => exact nil isInverse
  | cons c rest ih =>
      obtain ⟨⟨hescape, hnewline⟩, hrest⟩ := List.forall_mem_cons.mp h
      exact (glyph hescape hnewline isInverse).append (ih hrest)

theorem blanks (count : Nat) (isInverse : Bool) :
    Prints (List.replicate count ' ') isInverse (List.replicate count ⟨' ', isInverse⟩)
      isInverse := by
  have hblank : ∀ c ∈ List.replicate count ' ', c ≠ '\x1b' ∧ c ≠ '\n' := by
    intro c hc
    rw [List.eq_of_mem_replicate hc]
    decide
  have h := glyphs hblank isInverse
  rwa [List.map_replicate] at h

end Prints

/-! ### Whole lines -/

/-- A text is one of whole lines. It finds inverse video off and leaves it off. -/
def Shows (text : List Char) (lines : List Line) : Prop :=
  ∀ before : List Line,
    ({ lines := before } : Terminal).display text = { lines := before ++ lines }

namespace Shows

variable {s t : List Char} {lines more : List Line}

theorem append (first : Shows s lines) (second : Shows t more) :
    Shows (s ++ t) (lines ++ more) := by
  intro before
  rw [display_append, first, second, List.append_assoc]

theorem flatMap {α : Type} {l : List α} {text : α → List Char} {line : α → Line}
    (h : ∀ a ∈ l, Shows (text a) [line a]) : Shows (l.flatMap text) (l.map line) := by
  induction l with
  | nil =>
      intro before
      simp [display]
  | cons a rest ih =>
      obtain ⟨hfirst, hrest⟩ := List.forall_mem_cons.mp h
      rw [List.flatMap_cons, List.map_cons, ← List.singleton_append]
      exact hfirst.append (ih hrest)

end Shows

/-- A line ends with inverse video as the text in it leaves it. -/
theorem Prints.shows {text : List Char} {cells : List Cell} (h : Prints text false cells false) :
    Shows (text ++ ['\n']) [⟨cells, false⟩] := by
  intro before
  rw [display_append, h]
  rfl

end Terminal

end OneTimePassword
