/-
Module: OneTimePassword.Proofs.QrCode.Picture
Purpose: What the drawing of a QR code looks like on a terminal, and that the matrix can be read off
  it in every style.
Main exports: QrCode.framed, QrCode.IsAnsiPicture, QrCode.IsHalfBlockPicture, QrCode.readPicture,
  QrCode.draw_shows
-/
import OneTimePassword.Proofs.QrCode.Drawing
import OneTimePassword.Proofs.Terminal

namespace OneTimePassword.QrCode

open Terminal (Cell Line Prints Shows)

/-! ### Pictures -/

/-- As many modules in each row as there are rows. -/
def IsSquare (matrix : Matrix) : Prop := ∀ row ∈ matrix, row.length = matrix.length

instance (matrix : Matrix) : Decidable (IsSquare matrix) :=
  inferInstanceAs (Decidable (∀ row ∈ matrix, row.length = matrix.length))

/-- A row of light modules, as long as the rows of a framed matrix. -/
def lightRow (matrix : Matrix) : List Bool := List.replicate (matrix.length + 4) false

/-- A row with two light modules on either side. -/
def framedRow (row : List Bool) : List Bool := [false, false] ++ row ++ [false, false]

/-- A matrix with two light modules around it. -/
def framed (matrix : Matrix) : Matrix :=
  [lightRow matrix, lightRow matrix] ++ matrix.map framedRow ++ [lightRow matrix, lightRow matrix]

/-- Whether a module is in inverse video. With the colours exchanged, it is the light ones that
are. -/
def Tint.isInverse (tint : Tint) (dark : Bool) : Bool :=
  match tint with
  | .inverse => !dark
  | _ => dark

/-- The lines of a matrix in coloured blanks. -/
structure IsAnsiPicture (tint : Tint) (matrix : Matrix) (lines : List Line) : Prop where
  height : lines.length = matrix.length + 4
  width : ∀ line ∈ lines, line.cells.length = 2 * (matrix.length + 4)
  blank : ∀ line ∈ lines, ∀ cell ∈ line.cells, cell.glyph = ' '
  /-- Each module of the framed matrix is two cells wide. -/
  modules : (lines.map fun line => line.cells.map (·.isInverse)) =
    (framed matrix).map fun row =>
      row.flatMap fun dark => [tint.isInverse dark, tint.isInverse dark]

/-- Whether the upper half of a block is filled. -/
def isUpperFilled (glyph : Char) : Bool := glyph = '█' || glyph = '▀'

/-- Whether the lower half of a block is filled. -/
def isLowerFilled (glyph : Char) : Bool := glyph = '█' || glyph = '▄'

/-- The two rows of modules in a line of half blocks. -/
def rowsOfLine (line : Line) : Matrix :=
  [line.cells.map fun cell => isUpperFilled cell.glyph,
    line.cells.map fun cell => isLowerFilled cell.glyph]

/-- The lines of a matrix in half blocks. -/
structure IsHalfBlockPicture (tint : Tint) (matrix : Matrix) (lines : List Line) : Prop where
  height : lines.length = (matrix.length + 1) / 2 + 2
  width : ∀ line ∈ lines, line.cells.length = matrix.length + 4
  blocks : ∀ line ∈ lines, ∀ cell ∈ line.cells, cell.glyph ∈ ['█', '▀', '▄', ' ']
  /-- The colours are the same all over the picture. -/
  colour : ∀ line ∈ lines, ∀ cell ∈ line.cells, cell.isInverse = decide (tint = .inverse)
  /-- Below an odd number of rows there is one more light row. -/
  modules : lines.flatMap rowsOfLine =
    framed matrix ++ if matrix.length % 2 = 1 then [lightRow matrix] else []

/-! ### Colours -/

theorem prints_reset (isInverse : Bool) : Prints reset isInverse [] false := by
  intro lines start
  rw [List.append_nil]
  rfl

theorem prints_inverseOn (isInverse : Bool) : Prints inverseOn isInverse [] true := by
  intro lines start
  rw [List.append_nil]
  rfl

theorem prints_inverseOff (isInverse : Bool) : Prints inverseOff isInverse [] false := by
  intro lines start
  rw [List.append_nil]
  rfl

theorem prints_blackOnGrey (isInverse : Bool) : Prints blackOnGrey isInverse [] isInverse := by
  intro lines start
  rw [List.append_nil]
  rfl

/-- A line begins in the colours of light modules. -/
theorem prints_setup (tint : Tint) : Prints tint.setup false [] (tint.isInverse false) := by
  cases tint with
  | plain => exact .nil false
  | inverse => exact prints_inverseOn false
  | grey => exact prints_blackOnGrey false

theorem prints_turn (tint : Tint) (present following : Bool) :
    Prints (turn tint present following) (tint.isInverse present) []
      (tint.isInverse following) := by
  unfold turn
  split
  case isTrue hsame =>
    rw [hsame]
    exact .nil _
  case isFalse =>
    cases following with
    | true =>
        cases tint with
        | inverse => exact prints_inverseOff _
        | plain => exact prints_inverseOn _
        | grey => exact prints_inverseOn _
    | false =>
        cases tint with
        | inverse => exact prints_inverseOn _
        | plain => exact prints_inverseOff _
        | grey => exact prints_inverseOff _

/-- Whatever the colours in which its text ends, a line ends with inverse video off. -/
theorem shows_line {tint : Tint} {text : List Char} {cells : List Cell} {after : Bool}
    (h : Prints text (tint.isInverse false) cells after) :
    Shows (line tint text) [⟨cells, false⟩] := by
  have hcells := ((prints_setup tint).append h).append (prints_reset after)
  rw [List.nil_append, List.append_nil] at hcells
  exact hcells.shows

/-! ### Coloured blanks -/

/-- A module in coloured blanks. -/
def Tint.module (tint : Tint) (dark : Bool) : List Cell :=
  List.replicate 2 ⟨' ', tint.isInverse dark⟩

theorem flatMap_module_replicate (tint : Tint) (count : Nat) :
    (List.replicate count false).flatMap tint.module =
      List.replicate (2 * count) ⟨' ', tint.isInverse false⟩ := by
  rw [List.flatMap_replicate, Tint.module, List.flatten_replicate_replicate, Nat.mul_comm]

theorem length_flatMap_module (tint : Tint) (row : List Bool) :
    (row.flatMap tint.module).length = 2 * row.length := by
  induction row with
  | nil => rfl
  | cons dark rest ih =>
      rw [List.flatMap_cons, List.length_append, ih, Tint.module, List.length_replicate,
        List.length_cons]
      omega

/-- A row is carried on in the colours in which it is, and ends in those of light modules. -/
theorem prints_ansiCells (tint : Tint) (present : Bool) (row : List Bool) :
    Prints (ansiCells tint present row) (tint.isInverse present) (row.flatMap tint.module)
      (tint.isInverse false) := by
  induction row generalizing present with
  | nil => exact prints_turn tint present false
  | cons dark rest ih =>
      exact ((prints_turn tint present dark).append (.blanks 2 _)).append (ih dark)

theorem shows_blankLine (tint : Tint) (width : Nat) :
    Shows (blankLine tint width) [⟨List.replicate width ⟨' ', tint.isInverse false⟩, false⟩] :=
  shows_line (.blanks width _)

/-- The line of a row of modules in coloured blanks. -/
def ansiLine (tint : Tint) (row : List Bool) : Line := ⟨row.flatMap tint.module, false⟩

theorem shows_ansiRow (tint : Tint) (row : List Bool) :
    Shows (line tint (List.replicate 4 ' ' ++ ansiCells tint false row ++ List.replicate 4 ' '))
      [ansiLine tint (framedRow row)] := by
  have hcells : (framedRow row).flatMap tint.module =
      List.replicate 4 ⟨' ', tint.isInverse false⟩ ++ row.flatMap tint.module ++
        List.replicate 4 ⟨' ', tint.isInverse false⟩ := by
    rw [framedRow, List.flatMap_append, List.flatMap_append]
    rfl
  have hrow := ((Prints.blanks 4 _).append (prints_ansiCells tint false row)).append (.blanks 4 _)
  rw [ansiLine, hcells]
  exact shows_line hrow

/-- Whatever was on before, a drawing starts with all attributes off. -/
theorem display_reset_append {text : List Char} {lines : List Line} (h : Shows text lines)
    (isInverse : Bool) :
    ({ isInverse } : Terminal).display (reset ++ text) = { lines } := by
  rw [Terminal.display_append, prints_reset isInverse [] []]
  exact h []

theorem display_ansiText (tint : Tint) (matrix : Matrix) (isInverse : Bool) :
    ({ isInverse } : Terminal).display (ansiText tint matrix) =
      { lines := (framed matrix).map (ansiLine tint) } := by
  have hmargin : Shows (blankLine tint (2 * (matrix.length + 4)))
      [ansiLine tint (lightRow matrix)] := by
    rw [ansiLine, lightRow, flatMap_module_replicate]
    exact shows_blankLine tint _
  have hrows := Shows.flatMap fun row (_ : row ∈ matrix) => shows_ansiRow tint row
  have hlines := ((hmargin.append hmargin).append hrows).append (hmargin.append hmargin)
  have hpicture := display_reset_append hlines isInverse
  rw [framed, List.map_append, List.map_append, List.map_map]
  simpa [ansiText, Function.comp_def] using hpicture

theorem length_of_mem_framed {matrix : Matrix} (hsquare : IsSquare matrix) :
    ∀ row ∈ framed matrix, row.length = matrix.length + 4 := by
  have hframed : ∀ row ∈ matrix.map framedRow, row.length = matrix.length + 4 := by
    intro row hrow
    obtain ⟨inner, hinner, rfl⟩ := List.mem_map.mp hrow
    simp [framedRow, hsquare inner hinner]
  have hlight : ∀ row ∈ [lightRow matrix, lightRow matrix], row.length = matrix.length + 4 := by
    simp [lightRow]
  exact List.forall_mem_append.mpr ⟨List.forall_mem_append.mpr ⟨hlight, hframed⟩, hlight⟩

theorem isAnsiPicture (tint : Tint) {matrix : Matrix} (hsquare : IsSquare matrix) :
    IsAnsiPicture tint matrix ((framed matrix).map (ansiLine tint)) := by
  constructor
  case height => simp [framed]
  case width =>
    intro line hline
    obtain ⟨row, hrow, rfl⟩ := List.mem_map.mp hline
    rw [ansiLine, length_flatMap_module, length_of_mem_framed hsquare row hrow]
  case blank =>
    intro line hline cell hcell
    obtain ⟨row, -, rfl⟩ := List.mem_map.mp hline
    obtain ⟨dark, -, hdark⟩ := List.mem_flatMap.mp hcell
    rw [List.eq_of_mem_replicate hdark]
  case modules =>
    rw [List.map_map]
    apply List.map_congr_left
    intro row hrow
    change (row.flatMap tint.module).map (·.isInverse) = _
    rw [List.map_flatMap]
    rfl

/-! ### Half blocks -/

/-- A list is gone through to its end if each of its members has a value. -/
theorem mapM_eq_some_map {α β : Type} {f : α → Option β} {g : α → β} {l : List α}
    (h : ∀ a ∈ l, f a = some (g a)) : l.mapM f = some (l.map g) := by
  induction l with
  | nil => rfl
  | cons a rest ih =>
      obtain ⟨ha, hrest⟩ := List.forall_mem_cons.mp h
      rw [List.mapM_cons, ha, ih hrest]
      rfl

/-- The lower one of two rows. If it is missing, its modules are light. -/
def lowerRow (width : Nat) (lower? : Option (List Bool)) : List Bool :=
  lower?.getD (List.replicate width false)

/-- The characters for two rows. -/
def halfBlocks (upper lower : List Bool) : List Char :=
  (upper.zip lower).map fun (top, bottom) => halfBlock top bottom

theorem halfBlockCells?_eq {width : Nat} {upper : List Bool} {lower? : Option (List Bool)}
    (hupper : upper.length = width) (hlower : (lowerRow width lower?).length = width) :
    halfBlockCells? width upper lower? = some (halfBlocks upper (lowerRow width lower?)) := by
  have hcells : halfBlocks upper (lowerRow width lower?) =
      (List.range width).map fun column =>
        halfBlock (upper[column]?.getD false) ((lowerRow width lower?)[column]?.getD false) := by
    apply List.ext_getElem
    · simp [halfBlocks, hupper, hlower]
    · intro column hleft hright
      simp only [halfBlocks, List.length_map, List.length_zip, Nat.lt_min] at hleft
      simp [halfBlocks, hleft.1, hleft.2]
  rw [hcells]
  apply mapM_eq_some_map
  intro column hcolumn
  have hcolumn := List.mem_range.mp hcolumn
  cases lower? with
  | none => simp [hupper, hcolumn, lowerRow]
  | some lower =>
      have hlower : lower.length = width := hlower
      simp [hupper, hlower, hcolumn, lowerRow]

theorem halfBlock_mem (upper lower : Bool) : halfBlock upper lower ∈ ['█', '▀', '▄', ' '] := by
  cases upper <;> cases lower <;> decide

theorem mem_halfBlocks {upper lower : List Bool} {c : Char} (h : c ∈ halfBlocks upper lower) :
    c ∈ ['█', '▀', '▄', ' '] := by
  obtain ⟨⟨top, bottom⟩, -, rfl⟩ := List.mem_map.mp h
  exact halfBlock_mem top bottom

/-- The frame is one of blanks. -/
theorem halfBlocks_framedRow {upper lower : List Bool} (h : upper.length = lower.length) :
    halfBlocks (framedRow upper) (framedRow lower) =
      [' ', ' '] ++ halfBlocks upper lower ++ [' ', ' '] := by
  rw [halfBlocks, framedRow, framedRow, List.zip_append (by simp [h]), List.zip_append rfl,
    List.map_append, List.map_append]
  rfl

theorem halfBlocks_replicate (count : Nat) :
    halfBlocks (List.replicate count false) (List.replicate count false) =
      List.replicate count ' ' := by
  simp [halfBlocks, List.zip_replicate', halfBlock]

/-- The line of two rows of modules in half blocks. -/
def halfBlockLine (tint : Tint) (rows : List Bool × List Bool) : Line :=
  ⟨(halfBlocks rows.1 rows.2).map (⟨·, tint.isInverse false⟩), false⟩

theorem shows_halfBlocks (tint : Tint) (rows : List Bool × List Bool) :
    Shows (line tint (halfBlocks rows.1 rows.2)) [halfBlockLine tint rows] := by
  apply shows_line
  apply Prints.glyphs
  intro c hc
  -- checked one by one, since deciding it may run through all characters that there are
  have hblocks : ∀ block ∈ ['█', '▀', '▄', ' '], block ≠ '\x1b' ∧ block ≠ '\n' := by simp
  exact hblocks c (mem_halfBlocks hc)

/-- The rows of a framed matrix two by two. Below an odd number of them there is a light one. -/
def framedPairs (matrix : Matrix) : List (List Bool × List Bool) :=
  [(lightRow matrix, lightRow matrix)] ++
    (rowPairs matrix).map (fun pair =>
      (framedRow pair.1, framedRow (lowerRow matrix.length pair.2))) ++
    [(lightRow matrix, lightRow matrix)]

theorem length_of_mem_rowPairs {matrix : Matrix} (hsquare : IsSquare matrix) :
    ∀ pair ∈ rowPairs matrix,
      pair.1.length = matrix.length ∧ (lowerRow matrix.length pair.2).length = matrix.length := by
  rintro ⟨upper, lower?⟩ hpair
  refine ⟨hsquare upper (mem_rowPairs_iff.mpr ⟨_, hpair, .inl rfl⟩), ?_⟩
  cases lower? with
  | none => simp [lowerRow]
  | some lower => exact hsquare lower (mem_rowPairs_iff.mpr ⟨_, hpair, .inr rfl⟩)

theorem halfBlockText?_eq (tint : Tint) {matrix : Matrix} (hsquare : IsSquare matrix) :
    halfBlockText? tint matrix =
      some (reset ++
        (framedPairs matrix).flatMap fun rows => line tint (halfBlocks rows.1 rows.2)) := by
  have hmargin : blankLine tint (matrix.length + 4) =
      line tint (halfBlocks (lightRow matrix) (lightRow matrix)) := by
    rw [lightRow, halfBlocks_replicate, blankLine]
  let row (pair : List Bool × Option (List Bool)) : List Char :=
    line tint (halfBlocks (framedRow pair.1) (framedRow (lowerRow matrix.length pair.2)))
  rw [halfBlockText?, mapM_eq_some_map (g := row), hmargin]
  · simp [framedPairs, row, List.flatMap_def, Function.comp_def]
  · rintro ⟨upper, lower?⟩ hpair
    obtain ⟨hupper, hlower⟩ := length_of_mem_rowPairs hsquare _ hpair
    simp only [row, halfBlockCells?_eq hupper hlower,
      halfBlocks_framedRow (hupper.trans hlower.symm)]
    rfl

theorem display_halfBlockText (tint : Tint) {matrix : Matrix}
    (hsquare : IsSquare matrix) (isInverse : Bool) :
    ∃ text, halfBlockText? tint matrix = some text ∧
      ({ isInverse } : Terminal).display text =
        { lines := (framedPairs matrix).map (halfBlockLine tint) } := by
  refine ⟨_, halfBlockText?_eq tint hsquare, display_reset_append ?_ isInverse⟩
  exact Shows.flatMap fun rows _ => shows_halfBlocks tint rows

theorem length_of_mem_framedPairs {matrix : Matrix} (hsquare : IsSquare matrix) :
    ∀ rows ∈ framedPairs matrix,
      rows.1.length = matrix.length + 4 ∧ rows.2.length = matrix.length + 4 := by
  have hmargin : ∀ rows ∈ [(lightRow matrix, lightRow matrix)],
      rows.1.length = matrix.length + 4 ∧ rows.2.length = matrix.length + 4 := by
    simp [lightRow]
  refine List.forall_mem_append.mpr ⟨List.forall_mem_append.mpr ⟨hmargin, ?_⟩, hmargin⟩
  intro rows hrows
  obtain ⟨pair, hpair, rfl⟩ := List.mem_map.mp hrows
  obtain ⟨hupper, hlower⟩ := length_of_mem_rowPairs hsquare pair hpair
  simp [framedRow, hupper, hlower]

theorem length_rowPairs (matrix : Matrix) :
    (rowPairs matrix).length = (matrix.length + 1) / 2 := by
  fun_induction rowPairs matrix with
  | case1 => rfl
  | case2 row => simp
  | case3 upper lower rest ih =>
      simp only [List.length_cons, ih]
      omega

/-- Both halves of a block are seen. -/
theorem rowsOfLine_halfBlockLine (tint : Tint) {rows : List Bool × List Bool}
    (h : rows.1.length = rows.2.length) :
    rowsOfLine (halfBlockLine tint rows) = [rows.1, rows.2] := by
  have hupper (top bottom : Bool) : isUpperFilled (halfBlock top bottom) = top := by
    cases top <;> cases bottom <;> rfl
  have hlower (top bottom : Bool) : isLowerFilled (halfBlock top bottom) = bottom := by
    cases top <;> cases bottom <;> rfl
  simp only [rowsOfLine, halfBlockLine, halfBlocks, List.map_map, Function.comp_def, hupper, hlower]
  rw [List.map_fst_zip (Nat.le_of_eq h), List.map_snd_zip (Nat.le_of_eq h.symm)]

/-- Rows two by two are the rows one by one. -/
theorem flatMap_rowPairs (matrix : Matrix) (width : Nat) :
    ((rowPairs matrix).flatMap fun pair =>
        [framedRow pair.1, framedRow (lowerRow width pair.2)]) =
      matrix.map framedRow ++
        if matrix.length % 2 = 1 then [framedRow (List.replicate width false)] else [] := by
  fun_induction rowPairs matrix with
  | case1 => rfl
  | case2 row => rfl
  | case3 upper lower rest ih =>
      have hparity : (rest.length + 1 + 1) % 2 = rest.length % 2 := by omega
      rw [List.flatMap_cons, ih, List.length_cons, List.length_cons, hparity]
      rfl

theorem framedRow_replicate (matrix : Matrix) :
    framedRow (List.replicate matrix.length false) = lightRow matrix := by
  change List.replicate 2 false ++ List.replicate matrix.length false ++ List.replicate 2 false = _
  rw [List.replicate_append_replicate, List.replicate_append_replicate, lightRow]
  congr 1
  omega

theorem flatMap_framedPairs (matrix : Matrix) :
    ((framedPairs matrix).flatMap fun rows => [rows.1, rows.2]) =
      framed matrix ++ if matrix.length % 2 = 1 then [lightRow matrix] else [] := by
  rw [framedPairs, List.flatMap_append, List.flatMap_append, List.flatMap_map]
  rw [flatMap_rowPairs, framedRow_replicate, framed]
  by_cases hodd : matrix.length % 2 = 1
  · simp [hodd]
  · simp [hodd]

theorem isHalfBlockPicture (tint : Tint) {matrix : Matrix} (hsquare : IsSquare matrix) :
    IsHalfBlockPicture tint matrix ((framedPairs matrix).map (halfBlockLine tint)) := by
  constructor
  case height =>
    simp [framedPairs, length_rowPairs]
  case width =>
    intro line hline
    obtain ⟨rows, hrows, rfl⟩ := List.mem_map.mp hline
    obtain ⟨hupper, hlower⟩ := length_of_mem_framedPairs hsquare rows hrows
    simp [halfBlockLine, halfBlocks, hupper, hlower]
  case blocks =>
    intro line hline cell hcell
    obtain ⟨rows, -, rfl⟩ := List.mem_map.mp hline
    obtain ⟨c, hc, rfl⟩ := List.mem_map.mp hcell
    exact mem_halfBlocks hc
  case colour =>
    intro line hline cell hcell
    obtain ⟨rows, -, rfl⟩ := List.mem_map.mp hline
    obtain ⟨c, -, rfl⟩ := List.mem_map.mp hcell
    cases tint <;> rfl
  case modules =>
    rw [← flatMap_framedPairs, List.flatMap_map, List.flatMap_def, List.flatMap_def]
    congr 1
    apply List.map_congr_left
    intro rows hrows
    obtain ⟨hupper, hlower⟩ := length_of_mem_framedPairs hsquare rows hrows
    exact rowsOfLine_halfBlockLine tint (hupper.trans hlower.symm)

/-! ### Reading a picture -/

/-- The modules in a row of coloured blanks, two of which are one. -/
def readBlanks (tint : Tint) : List Bool → List Bool
  | isInverse :: _ :: rest => tint.isInverse isInverse :: readBlanks tint rest
  | _ => []

/-- What stands within a frame of two modules. The width of the picture tells how high it is. -/
def unframed (rows : Matrix) : Matrix :=
  let side := (rows.headD []).length - 4
  ((rows.drop 2).take side).map fun row => (row.drop 2).take side

/-- The matrix that a picture shows. -/
def readPicture (style : Style) (lines : List Line) : Matrix :=
  match style.glyphs with
  | .ansi => unframed (lines.map fun line => readBlanks style.tint (line.cells.map (·.isInverse)))
  | .utf8 => unframed (lines.flatMap rowsOfLine)

theorem unframed_framed_append {matrix : Matrix} (more : Matrix) (hsquare : IsSquare matrix) :
    unframed (framed matrix ++ more) = matrix := by
  have hrow : ∀ row ∈ matrix, ((framedRow row).drop 2).take matrix.length = row := by
    intro row hrow
    change (row ++ [false, false]).take matrix.length = row
    exact List.take_left' (hsquare row hrow)
  have hside : ((framed matrix ++ more).headD []).length - 4 = matrix.length := by
    simp [framed, lightRow]
  have hinner : ((framed matrix ++ more).drop 2).take matrix.length = matrix.map framedRow := by
    change ((matrix.map framedRow ++ [lightRow matrix, lightRow matrix]) ++ more).take _ = _
    rw [List.append_assoc]
    exact List.take_left' (List.length_map framedRow)
  rw [unframed, hside, hinner, List.map_map]
  exact (List.map_congr_left hrow).trans (List.map_id matrix)

theorem readBlanks_flatMap (tint : Tint) (row : List Bool) :
    readBlanks tint (row.flatMap fun dark => [tint.isInverse dark, tint.isInverse dark]) = row := by
  induction row with
  | nil => rfl
  | cons dark rest ih =>
      have hdark : tint.isInverse (tint.isInverse dark) = dark := by
        cases tint <;> simp [Tint.isInverse]
      rw [List.flatMap_cons, List.cons_append, List.cons_append, List.nil_append, readBlanks, hdark,
        ih]

theorem IsAnsiPicture.read {tint : Tint} {matrix : Matrix} {lines : List Line}
    (picture : IsAnsiPicture tint matrix lines) (hsquare : IsSquare matrix) :
    readPicture ⟨.ansi, tint⟩ lines = matrix := by
  have hrows : (lines.map fun line => readBlanks tint (line.cells.map (·.isInverse))) =
      framed matrix := by
    have h := congrArg (List.map (readBlanks tint)) picture.modules
    rw [List.map_map, List.map_map] at h
    rw [← List.map_id (framed matrix)]
    refine h.trans (List.map_congr_left fun row _ => ?_)
    exact readBlanks_flatMap tint row
  change unframed (lines.map fun line => readBlanks tint (line.cells.map (·.isInverse))) = matrix
  rw [hrows, ← List.append_nil (framed matrix), unframed_framed_append [] hsquare]

theorem IsHalfBlockPicture.read {tint : Tint} {matrix : Matrix} {lines : List Line}
    (picture : IsHalfBlockPicture tint matrix lines) (hsquare : IsSquare matrix) :
    readPicture ⟨.utf8, tint⟩ lines = matrix := by
  change unframed (lines.flatMap rowsOfLine) = matrix
  rw [picture.modules, unframed_framed_append _ hsquare]

/-! ### Drawings -/

theorem ofName_name (style : Style) : Style.ofName style.name = style := by
  rcases style with ⟨glyphs, tint⟩
  cases glyphs <;> cases tint <;> rfl

/-- On any terminal the drawing of a square matrix shows the matrix in a light frame, in the
characters and colours of its style, and the matrix can be read off it. So all styles show the
same. -/
theorem draw_shows (style : Style) {matrix : Matrix}
    (hsquare : IsSquare matrix) (isInverse : Bool) :
    ∃ text lines, draw (Style.ofName style.name) matrix = .ok text ∧
      ({ isInverse } : Terminal).display text.toList = { lines } ∧
      (∀ line ∈ lines, line.endsInverse = false) ∧
      (match style.glyphs with
        | .ansi => IsAnsiPicture style.tint matrix lines
        | .utf8 => IsHalfBlockPicture style.tint matrix lines) ∧
      readPicture style lines = matrix := by
  rw [ofName_name]
  rcases style with ⟨glyphs, tint⟩
  cases glyphs with
  | ansi =>
      have picture := isAnsiPicture tint hsquare
      refine ⟨_, (framed matrix).map (ansiLine tint), rfl, ?_, ?_, picture, ?_⟩
      · rw [String.toList_ofList]
        exact display_ansiText tint matrix isInverse
      · exact List.forall_mem_map.mpr fun row _ => rfl
      · exact picture.read hsquare
  | utf8 =>
      have picture := isHalfBlockPicture tint hsquare
      obtain ⟨text, htext, hdisplay⟩ := display_halfBlockText tint hsquare isInverse
      refine ⟨String.ofList text, (framedPairs matrix).map (halfBlockLine tint), ?_, ?_, ?_,
        picture, ?_⟩
      · simp only [draw, htext]
      · rw [String.toList_ofList]
        exact hdisplay
      · exact List.forall_mem_map.mpr fun rows _ => rfl
      · exact picture.read hsquare

/-- Three rows of half blocks are drawn in two lines, on a terminal on which inverse video was
on. -/
theorem draw_shows_three_rows :
    let matrix : Matrix := [[true, false, true], [false, false, true], [true, true, false]]
    IsSquare matrix ∧
      ∃ text lines, draw (Style.ofName "UTF8_INVERSE") matrix = .ok text ∧
        ({ isInverse := true } : Terminal).display text.toList = { lines } ∧ lines.length = 4 ∧
        readPicture ⟨.utf8, .inverse⟩ lines = matrix := by
  intro matrix
  have hsquare : IsSquare matrix := by decide
  have hheight : (matrix.length + 1) / 2 + 2 = 4 := by decide
  obtain ⟨text, lines, htext, hdisplay, -, picture, hread⟩ :=
    draw_shows ⟨.utf8, .inverse⟩ hsquare true
  exact ⟨hsquare, text, lines, htext, hdisplay, picture.height.trans hheight, hread⟩

end OneTimePassword.QrCode
