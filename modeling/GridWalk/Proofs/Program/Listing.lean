import GridWalk.Command.Perform
import GridWalk.Proofs.Command.Headless
import GridWalk.Proofs.Grid.Layout
import GridWalk.Proofs.Text.Separator
import Mathlib.Data.List.Nodup

namespace GridWalk

open Text

-- A report that finds room for all of its lines.
theorem stdout_ofReport (lines : List String) :
    (Exit.ofReport .unbounded lines).stdout = String.join (lines.map (· ++ "\n")) := by
  obtain ⟨hall, hlines⟩ := Sink.unbounded.writeAll_eq lines
  rcases hwrite : Sink.unbounded.writeAll lines with ⟨done, after⟩
  rw [hwrite] at hall hlines
  obtain rfl : done = true := by simpa [Sink.unbounded] using hall
  have htaken : after.lines = lines := by simpa [Sink.unbounded, Sink.lines] using hlines
  simp only [Exit.ofReport, hwrite, Sink.text, htaken]

theorem toList_stdout_ofReport (lines : List String) :
    (Exit.ofReport .unbounded lines).stdout.toList = (lines.map String.toList).flatMap (· ++ ['\n']) := by
  simp [stdout_ofReport, String.toList_join, List.flatMap_map]

theorem stdout_ofReport_inj {lines lines' : List String} (h : ∀ line ∈ lines, '\n' ∉ line.toList)
    (h' : ∀ line ∈ lines', '\n' ∉ line.toList)
    (heq : (Exit.ofReport .unbounded lines).stdout = (Exit.ofReport .unbounded lines').stdout) :
    lines = lines' := by
  have hlist := congrArg String.toList heq
  rw [toList_stdout_ofReport, toList_stdout_ofReport] at hlist
  have hwords := closed_words_inj (by simpa using h) (by simpa using h') hlist
  exact List.map_injective_iff.mpr (fun _ _ => String.toList_inj.mp) hwords

namespace Instruction

theorem mem_all (i : Instruction) : i ∈ all := by
  cases i <;> decide

theorem glyph_injective {i j : Instruction} (h : i.glyph = j.glyph) : i = j := by
  have hdistinct : (all.map glyph).Nodup := by decide +kernel
  exact List.inj_on_of_nodup_map hdistinct (mem_all i) (mem_all j) h

-- Every glyph has two characters, none of which ends a line.
theorem length_glyph (i : Instruction) : i.glyph.toList.length = 2 := by
  cases i <;> decide +kernel

theorem newline_not_mem_glyph (i : Instruction) : '\n' ∉ i.glyph.toList := by
  cases i <;> decide +kernel

end Instruction

namespace Program

-- The line in front of the rows.
def heading (width height : Nat) (start : Point) : String :=
  s!"{width}x{height} program, start {start}"

section Heading

variable {width width' height height' : Nat} {start start' : Point}

theorem toList_heading (width height : Nat) (start : Point) :
    (heading width height start).toList =
      width.repr.toList ++ 'x' :: (height.repr.toList ++ ' ' :: ("program, start (".toList ++
        (start.x.toInt.repr.toList ++ ',' :: ' ' :: (start.y.toInt.repr.toList ++ [')'])))) := by
  simp [heading, toString]

-- Each number ends where the first character comes that is no digit, and that is always the
-- same one.
theorem heading_inj (heq : heading width height start = heading width' height' start') :
    width = width' ∧ height = height' ∧ start = start' := by
  have hlist := congrArg String.toList heq
  rw [toList_heading, toList_heading] at hlist
  obtain ⟨hwidth, hrest⟩ :=
    append_separator_inj (not_mem_repr _ (by decide)) (not_mem_repr _ (by decide)) hlist
  obtain ⟨hheight, hrest⟩ :=
    append_separator_inj (not_mem_repr _ (by decide)) (not_mem_repr _ (by decide)) hrest
  obtain ⟨hx, hrest⟩ := append_separator_inj (not_mem_int_repr _ (by decide) (by decide))
    (not_mem_int_repr _ (by decide) (by decide)) (List.append_cancel_left hrest)
  have hy := List.append_cancel_right (List.cons.inj hrest).2
  exact ⟨(digits_repr width).unique (hwidth ▸ digits_repr width'),
    (digits_repr height).unique (hheight ▸ digits_repr height'),
    Point.eq_of_coordinates (eq_of_repr_toInt hx) (eq_of_repr_toInt hy)⟩

theorem newline_not_mem_heading : '\n' ∉ (heading width height start).toList := by
  have hnat : ∀ n : Nat, '\n' ∉ n.repr.toList := fun n => not_mem_repr n (by decide)
  have hint : ∀ z : Int, '\n' ∉ z.repr.toList := fun z => not_mem_int_repr z (by decide) (by decide)
  rw [toList_heading]
  simp [-Nat.toList_repr, hnat, hint]

end Heading

end Program

namespace Grid

-- The points that a row of the listing reads, from left to right.
def rowPoints (g : Grid) (y : Nat) : List Point :=
  (List.range g.width).map fun x => ⟨Int32.ofNat x, Int32.ofNat y⟩

def row (g : Grid) (y : Nat) : List Instruction := (g.rowPoints y).filterMap g.get?

theorem rowText_eq (g : Grid) (y : Nat) :
    g.rowText y = " ".intercalate ((g.rowPoints y).filterMap fun p => (g.get? p).map Instruction.glyph) := by
  rw [rowText, rowPoints, List.filterMap_map]
  rfl

theorem toList_rowText (g : Grid) (y : Nat) :
    (g.rowText y).toList = [' '].intercalate ((g.row y).map fun i => i.glyph.toList) := by
  rw [rowText_eq, String.toList_intercalate, row, List.map_filterMap, List.map_filterMap]
  simp [Function.comp_def]

theorem newline_not_mem_rowText (g : Grid) (y : Nat) : '\n' ∉ (g.rowText y).toList := by
  rw [toList_rowText]
  exact not_mem_intercalate (by decide) (by simp [Instruction.newline_not_mem_glyph])

section Row

variable {g : Grid} {p : Point} {y : Nat}

theorem mem_of_mem_rowPoints (hfits : g.fitsHeader = true) (hy : y < g.height) (hp : p ∈ g.rowPoints y) :
    p ∈ g := by
  obtain ⟨x, hx, rfl⟩ := List.mem_map.mp hp
  exact mem_of_lt hfits (List.mem_range.mp hx) hy

theorem mem_rowPoints_of_mem (hp : p ∈ g) : p ∈ g.rowPoints p.y.toInt.toNat := by
  obtain ⟨⟨_, hx⟩, _⟩ := mem_iff.mp hp
  exact List.mem_map.mpr ⟨p.x.toInt.toNat, List.mem_range.mpr (by omega), eq_of_mem hp⟩

theorem map_some_row (hfits : g.fitsHeader = true) (hy : y < g.height) :
    (g.row y).map some = (g.rowPoints y).map g.get? := by
  have hall : ∀ p ∈ g.rowPoints y, (g.get? p).isSome := fun p hp =>
    (g.get?_isSome_iff p).mpr (mem_of_mem_rowPoints hfits hy hp)
  unfold row
  generalize g.rowPoints y = points at hall
  induction points with
  | nil => rfl
  | cons p rest ih =>
      rw [List.forall_mem_cons] at hall
      obtain ⟨i, hi⟩ := Option.isSome_iff_exists.mp hall.1
      rw [List.filterMap_cons_some hi, List.map_cons, List.map_cons, hi, ih hall.2]

theorem length_row (hfits : g.fitsHeader = true) (hy : y < g.height) : (g.row y).length = g.width := by
  have hlength := congrArg List.length (map_some_row hfits hy)
  simpa [rowPoints] using hlength

end Row

-- Rows of as many cells show the same text only if they hold the same instructions.
theorem row_eq_of_rowText {g g' : Grid} {y : Nat} (hlength : (g.row y).length = (g'.row y).length)
    (htext : g.rowText y = g'.rowText y) : g.row y = g'.row y := by
  have hchars := congrArg String.toList htext
  rw [toList_rowText, toList_rowText] at hchars
  have hwords : ∀ row : List Instruction, ∀ word ∈ row.map (fun i => i.glyph.toList), word.length = 2 := by
    simp [Instruction.length_glyph]
  have hglyphs := equal_words_inj (hwords _) (hwords _) (by simpa using hlength) hchars
  exact List.map_injective_iff.mpr (fun _ _ h => Instruction.glyph_injective (String.toList_inj.mp h)) hglyphs

end Grid

namespace Program

theorem listing_eq (p : Program) :
    p.listing = heading p.grid.width p.grid.height p.start ::
      (List.range p.grid.height).map p.grid.rowText := rfl

theorem newline_not_mem_listing {p : Program} {line : String} (h : line ∈ p.listing) :
    '\n' ∉ line.toList := by
  rw [listing_eq, List.mem_cons, List.mem_map] at h
  rcases h with rfl | ⟨y, _, rfl⟩
  · exact newline_not_mem_heading
  · exact p.grid.newline_not_mem_rowText y

-- The heading tells the shape, and the rows then tell every cell.
theorem eq_of_listing {p q : Program} (hp : p.grid.fitsHeader = true) (hq : q.grid.fitsHeader = true)
    (h : p.listing = q.listing) : p = q := by
  obtain ⟨hheading, hrows⟩ := List.cons.inj h
  obtain ⟨hwidth, hheight, hstart⟩ := heading_inj hheading
  rw [hheight, List.map_inj_left] at hrows
  have hsame : ∀ y < q.grid.height, ∀ point ∈ p.grid.rowPoints y, p.grid.get? point = q.grid.get? point := by
    intro y hy
    have hlength : (p.grid.row y).length = (q.grid.row y).length := by
      rw [Grid.length_row hp (hheight ▸ hy), Grid.length_row hq hy, hwidth]
    have hrow := Grid.row_eq_of_rowText hlength (hrows y (List.mem_range.mpr hy))
    have hpoints : p.grid.rowPoints y = q.grid.rowPoints y := by rw [Grid.rowPoints, Grid.rowPoints, hwidth]
    rw [← List.map_inj_left, ← Grid.map_some_row hp (hheight ▸ hy), hrow, Grid.map_some_row hq hy, hpoints]
  have hget : ∀ point, p.grid.get? point = q.grid.get? point := by
    intro point
    have hmem : point ∈ p.grid ↔ point ∈ q.grid := by rw [Grid.mem_iff, Grid.mem_iff, hwidth, hheight]
    by_cases hpoint : point ∈ p.grid
    · obtain ⟨_, _, hy⟩ := Grid.mem_iff.mp hpoint
      exact hsame _ (by omega) point (Grid.mem_rowPoints_of_mem hpoint)
    · rw [Grid.get?_of_not_mem hpoint, Grid.get?_of_not_mem (fun h => hpoint (hmem.mpr h))]
  obtain ⟨grid, start⟩ := p
  obtain ⟨grid', start'⟩ := q
  cases hstart
  cases Grid.ext_get? hp hwidth hheight hget
  rfl

-- What is printed of a program tells its sides, its start and all of its cells, if the sides are
-- words. Each row then shows the cells on its points, and all of these are on the grid.
theorem listing_is_lossless {p q : Program} (hp : p.grid.fitsHeader = true) (hq : q.grid.fitsHeader = true) :
    ((Exit.ofReport .unbounded p.listing).stdout = (Exit.ofReport .unbounded q.listing).stdout → p = q) ∧
    ∀ y < p.grid.height,
      p.grid.rowText y =
        " ".intercalate ((p.grid.rowPoints y).filterMap fun point =>
          (p.grid.get? point).map Instruction.glyph) ∧
      ∀ point ∈ p.grid.rowPoints y, point ∈ p.grid := by
  constructor
  · intro htext
    exact eq_of_listing hp hq
      (stdout_ofReport_inj (fun _ => newline_not_mem_listing) (fun _ => newline_not_mem_listing) htext)
  · intro y hy
    exact ⟨p.grid.rowText_eq y, fun _ => Grid.mem_of_mem_rowPoints hp hy⟩

-- Two programs that differ in the second character of a glyph, and two without any cells.
theorem listing_is_lossless_lookalike :
    let p : Program := ⟨⟨2, 2, #[.moveLeft, .noOperation, .increment, .isEqual], rfl⟩, ⟨-1, 2⟩⟩
    let q : Program := ⟨⟨2, 2, #[.moveLeftIfTrue, .noOperation, .increment, .isEqual], rfl⟩, ⟨-1, 2⟩⟩
    let wide := ofGrid (Grid.blank 3 0)
    let tall := ofGrid (Grid.blank 0 3)
    (p.grid.fitsHeader = true ∧ q.grid.fitsHeader = true) ∧
      (Exit.ofReport .unbounded p.listing).stdout ≠ (Exit.ofReport .unbounded q.listing).stdout ∧
      p.grid.rowPoints 1 = [⟨0, 1⟩, ⟨1, 1⟩] ∧ (∀ point ∈ p.grid.rowPoints 1, point ∈ p.grid) ∧
      (Exit.ofReport .unbounded wide.listing).stdout ≠ (Exit.ofReport .unbounded tall.listing).stdout := by
  intro p q wide tall
  have hp : p.grid.fitsHeader = true := by decide
  have hq : q.grid.fitsHeader = true := by decide
  obtain ⟨hlookalike, hrows⟩ := listing_is_lossless hp hq
  obtain ⟨hcellless, _⟩ := listing_is_lossless (p := wide) (q := tall) (by decide) (by decide)
  exact ⟨⟨hp, hq⟩, fun htext => absurd (hlookalike htext) (by decide), by decide,
    (hrows 1 (by decide)).2, fun htext => absurd (hcellless htext) (by decide)⟩

end Program

end GridWalk
