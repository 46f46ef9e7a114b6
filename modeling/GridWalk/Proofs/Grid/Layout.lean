import GridWalk.Proofs.Grid.Cells
import GridWalk.Proofs.Program.RoundTrip

namespace GridWalk

-- To the left of the other point, or above it in the same column.
def Point.Precedes (p q : Point) : Prop :=
  p.x.toInt < q.x.toInt ∨ (p.x.toInt = q.x.toInt ∧ p.y.toInt < q.y.toInt)

theorem Point.Precedes.ne {p q : Point} (h : p.Precedes q) : p ≠ q := by
  rintro rfl
  unfold Precedes at h
  omega

namespace Grid

section Place

variable {g : Grid} {p : Point} {k l : Nat} (hfits : g.fitsHeader = true)

include hfits

-- There is a cell only if there are rows, so the divisor is the height.
theorem toInt_place (hk : k < g.cells.size) :
    ((g.place k).x.toInt = (k / g.height : Nat) ∧ (g.place k).y.toInt = (k % g.height : Nat)) ∧
      k / g.height < g.width ∧ k % g.height < g.height := by
  obtain ⟨hwidth, hheight⟩ := fitsHeader_iff.mp hfits
  rw [g.size_cells] at hk
  have hrows : 0 < g.height := Nat.pos_of_mul_pos_left (Nat.zero_lt_of_lt hk)
  have hcolumn : k / g.height < g.width := (Nat.div_lt_iff_lt_mul hrows).mpr hk
  have hrow : k % g.height < g.height := Nat.mod_lt k hrows
  have hdivisor : max g.height 1 = g.height := Nat.max_eq_left hrows
  unfold maxSide at hwidth hheight
  simp only [place, hdivisor]
  exact ⟨⟨Int32.toInt_ofNat_of_lt (by omega), Int32.toInt_ofNat_of_lt (by omega)⟩, hcolumn, hrow⟩

theorem place_mem (hk : k < g.cells.size) : g.place k ∈ g := by
  obtain ⟨⟨hx, hy⟩, hcolumn, hrow⟩ := toInt_place hfits hk
  rw [mem_iff, hx, hy]
  exact ⟨⟨Int.natCast_nonneg _, Int.ofNat_lt.mpr hcolumn⟩, Int.natCast_nonneg _, Int.ofNat_lt.mpr hrow⟩

theorem mem_of_lt {x y : Nat} (hx : x < g.width) (hy : y < g.height) :
    (⟨Int32.ofNat x, Int32.ofNat y⟩ : Point) ∈ g := by
  obtain ⟨hwidth, hheight⟩ := fitsHeader_iff.mp hfits
  unfold maxSide at hwidth hheight
  rw [mem_iff]
  simp only
  rw [Int32.toInt_ofNat_of_lt (by omega), Int32.toInt_ofNat_of_lt (by omega)]
  omega

theorem index_place (hk : k < g.cells.size) : g.index (g.place k) = k := by
  obtain ⟨⟨hx, hy⟩, _, _⟩ := toInt_place hfits hk
  rw [index, hx, hy, Int.toNat_natCast, Int.toNat_natCast]
  exact Nat.div_add_mod' k g.height

theorem place_index (hp : p ∈ g) : g.place (g.index p) = p :=
  eq_of_index_eq (place_mem hfits (index_lt hp)) hp (index_place hfits (index_lt hp))

theorem place_precedes (hlt : k < l) (hl : l < g.cells.size) : (g.place k).Precedes (g.place l) := by
  obtain ⟨⟨hkx, hky⟩, _, _⟩ := toInt_place hfits (Nat.lt_trans hlt hl)
  obtain ⟨⟨hlx, hly⟩, _, _⟩ := toInt_place hfits hl
  rw [Point.Precedes, hkx, hky, hlx, hly]
  rcases Nat.lt_or_eq_of_le (Nat.div_le_div_right (c := g.height) (Nat.le_of_lt hlt)) with hcolumn | hcolumn
  · exact .inl (by omega)
  · have hk := Nat.div_add_mod k g.height
    have hl := Nat.div_add_mod l g.height
    rw [hcolumn] at hk
    exact .inr ⟨by omega, by omega⟩

theorem getElem?_cells (hk : k < g.cells.size) : g.cells[k]? = g.get? (g.place k) := by
  rw [get?_of_mem (place_mem hfits hk), index_place hfits hk]

end Place

-- The column and the row of a point on a grid are natural numbers, and they give it back.
theorem eq_of_mem {g : Grid} {p : Point} (hp : p ∈ g) :
    (⟨Int32.ofNat p.x.toInt.toNat, Int32.ofNat p.y.toInt.toNat⟩ : Point) = p := by
  have hword : ∀ word : Int32, 0 ≤ word.toInt → Int32.ofNat word.toInt.toNat = word := by
    intro word hnonneg
    have hlt := word.toInt_lt
    rw [← Int32.toInt_inj, Int32.toInt_ofNat_of_lt (by omega), Int.toNat_of_nonneg hnonneg]
  obtain ⟨⟨hx, _⟩, hy, _⟩ := mem_iff.mp hp
  exact Point.eq_of_coordinates (hword _ hx) (hword _ hy)

-- Every cell has its place, so a grid is known by its sides and what is found on its points.
theorem ext_get? {g g' : Grid} (hfits : g.fitsHeader = true) (hwidth : g.width = g'.width)
    (hheight : g.height = g'.height) (hget : ∀ p, g.get? p = g'.get? p) : g = g' := by
  have hfits' : g'.fitsHeader = true := by rwa [fitsHeader, ← hwidth, ← hheight]
  have hsize : g.cells.size = g'.cells.size := by rw [g.size_cells, g'.size_cells, hwidth, hheight]
  have hcells : g.cells = g'.cells := by
    apply Array.ext_getElem?
    intro k
    by_cases hk : k < g.cells.size
    · have hplace : g.place k = g'.place k := by simp only [place, hheight]
      rw [getElem?_cells hfits hk, getElem?_cells hfits' (hsize ▸ hk), hplace, hget]
    · rw [Array.getElem?_eq_none (by omega), Array.getElem?_eq_none (by omega)]
  cases g
  cases g'
  cases hwidth
  cases hheight
  cases hcells
  rfl

section Places

variable {g : Grid}

theorem getElem?_places (g : Grid) (k : Nat) :
    g.places[k]? = g.cells[k]?.map fun i => (g.place k, i) := by
  simp [places, Function.comp_def]

theorem mem_places_iff (hfits : g.fitsHeader = true) {p : Point} {i : Instruction} :
    (p, i) ∈ g.places ↔ g.get? p = some i := by
  rw [List.mem_iff_getElem?]
  constructor
  · rintro ⟨k, hk⟩
    rw [getElem?_places, Option.map_eq_some_iff] at hk
    obtain ⟨j, hcell, hpair⟩ := hk
    cases hpair
    obtain ⟨hlt, _⟩ := Array.getElem?_eq_some_iff.mp hcell
    rw [← getElem?_cells hfits hlt, hcell]
  · intro hget
    have hp := mem_of_get? hget
    refine ⟨g.index p, ?_⟩
    rw [getElem?_places, ← get?_of_mem hp, hget, place_index hfits hp]
    rfl

theorem places_ordered (hfits : g.fitsHeader = true) :
    g.places.Pairwise fun a b => a.1.Precedes b.1 := by
  rw [List.pairwise_iff_getElem]
  intro k l hk hl hlt
  have hsize : g.places.length = g.cells.size := by simp [places]
  have hat : ∀ n (hn : n < g.places.length), (g.places[n]).1 = g.place n := by
    intro n hn
    simp [places]
  rw [hat, hat]
  exact place_precedes hfits hlt (by omega)

theorem opcodes_places (g : Grid) : g.places.map (fun cell => cell.2.opcode) = g.opcodes := by
  apply List.ext_getElem?
  intro k
  rw [List.getElem?_map, getElem?_places]
  simp [opcodes, Option.map_map, Function.comp_def]

theorem count_places (hfits : g.fitsHeader = true) (p : Point) :
    (g.places.map Prod.fst).count p = if p ∈ g then 1 else 0 := by
  have hnodup : (g.places.map Prod.fst).Nodup :=
    List.pairwise_map.mpr ((places_ordered hfits).imp Point.Precedes.ne)
  have hlisted : p ∈ g.places.map Prod.fst ↔ p ∈ g := by
    rw [← get?_isSome_iff, Option.isSome_iff_exists]
    simp [mem_places_iff hfits]
  rw [hnodup.count]
  simp only [hlisted]

end Places

-- The grid as a call of `set` leaves it.
def put (g : Grid) (p : Point) (i : Instruction) : Grid :=
  match g.set p i with
  | .ok (_, painted) => painted
  | .error _ => g

section Put

variable {g : Grid} {p : Point}

theorem set_of_mem (hp : p ∈ g) (i : Instruction) :
    ∃ previous, g.get? p = some previous ∧ g.set p i = .ok (previous, g.put p i) := by
  obtain ⟨previous, painted, hset⟩ := exists_set hp i
  refine ⟨previous, (set_eq_ok_iff.mp hset).1, ?_⟩
  rw [put, hset]

theorem set_of_not_mem (hp : p ∉ g) (i : Instruction) : g.set p i = .error (g.outside p) := by
  rw [set, get?_of_not_mem hp]

theorem put_of_not_mem (hp : p ∉ g) (i : Instruction) : g.put p i = g := by
  rw [put, set_of_not_mem hp]

theorem sides_put (g : Grid) (p : Point) (i : Instruction) :
    (g.put p i).width = g.width ∧ (g.put p i).height = g.height := by
  by_cases hp : p ∈ g
  · obtain ⟨_, _, hset⟩ := set_of_mem hp i
    obtain ⟨_, _, hput⟩ := set_eq_ok_iff.mp hset
    rw [hput]
    exact ⟨rfl, rfl⟩
  · rw [put_of_not_mem hp]
    exact ⟨rfl, rfl⟩

end Put

-- The grids of the given sides: a blank one or one that was read, after any calls of `set`.
inductive Built (width height : Nat) : Grid → Prop where
  | blank (hlimit : width * height < cellLimit) : Built width height (.blank width height)
  | read {bytes : List UInt8} {g : Grid} (hread : ofBytes bytes width height = .ok g) :
      Built width height g
  | put {g : Grid} (hbuilt : Built width height g) (p : Point) (i : Instruction) :
      Built width height (g.put p i)

-- What makes flat cells an array of so many columns and rows.
structure Arranged (g : Grid) (width height : Nat) : Prop where
  size : g.cells.size = width * height
  mem : ∀ p, p ∈ g ↔ (0 ≤ p.x.toInt ∧ p.x.toInt < width) ∧ 0 ≤ p.y.toInt ∧ p.y.toInt < height
  index : ∀ p ∈ g, (g.index p : Int) = p.x.toInt * height + p.y.toInt ∧ g.index p < g.cells.size
  fits : ∀ p ∈ g, p.x.toInt * height < cellLimit ∧ p.x.toInt * height + p.y.toInt < cellLimit
  distinct : ∀ p ∈ g, ∀ q ∈ g, p ≠ q → g.index p ≠ g.index q
  get : ∀ p, (g.get? p).isSome ↔ p ∈ g
  set : ∀ p ∈ g, ∀ i, ∃ previous, g.get? p = some previous ∧ g.set p i = .ok (previous, g.put p i) ∧
    (g.put p i).get? p = some i ∧ ∀ q ≠ p, (g.put p i).get? q = g.get? q
  refused : ∀ p, p ∉ g → ∀ i, g.set p i = .error ⟨p, width, height⟩ ∧ g.put p i = g

-- What makes the list of the cells a list of the array, column after column.
structure Listed (g : Grid) : Prop where
  once : ∀ p, (g.places.map Prod.fst).count p = if p ∈ g then 1 else 0
  get : ∀ p i, (p, i) ∈ g.places ↔ g.get? p = some i
  ordered : g.places.Pairwise fun a b => a.1.Precedes b.1
  opcodes : g.places.map (fun cell => cell.2.opcode) = g.opcodes

section Built

variable {width height : Nat} {g : Grid}

theorem Built.sides (hbuilt : Built width height g) :
    g.width = width ∧ g.height = height ∧ width * height < cellLimit := by
  induction hbuilt with
  | blank hlimit => exact ⟨rfl, rfl, hlimit⟩
  | read hread =>
      obtain ⟨hlimit, _, hwidth, hheight, _⟩ := ofBytes_eq_ok_iff.mp hread
      exact ⟨hwidth, hheight, hlimit⟩
  | @put g _ p i ih =>
      obtain ⟨hwidth, hheight⟩ := sides_put g p i
      rw [hwidth, hheight]
      exact ih

theorem toInt_index {p : Point} (hp : p ∈ g) : (g.index p : Int) = p.x.toInt * g.height + p.y.toInt := by
  obtain ⟨⟨hx, _⟩, hy, _⟩ := mem_iff.mp hp
  rw [index, Int.natCast_add, Int.natCast_mul, Int.toNat_of_nonneg hx, Int.toNat_of_nonneg hy]

-- The start of a column is not behind a cell of it, and the cells are fewer than the limit.
theorem index_fits (hlimit : g.width * g.height < cellLimit) {p : Point} (hp : p ∈ g) :
    p.x.toInt * g.height < cellLimit ∧ p.x.toInt * g.height + p.y.toInt < cellLimit := by
  obtain ⟨_, hy, _⟩ := mem_iff.mp hp
  have hindex := toInt_index hp
  have hlt := index_lt hp
  rw [g.size_cells] at hlt
  omega

end Built

-- A grid that was made blank or read, whatever was painted on it since, is an array of its
-- columns and rows. Where its sides are 32-bit words, its list of cells is that array.
theorem built_grid_is_array {width height : Nat} {g : Grid} (hbuilt : Built width height g) :
    Arranged g width height ∧ (g.fitsHeader = true → Listed g) := by
  obtain ⟨rfl, rfl, hlimit⟩ := hbuilt.sides
  constructor
  · constructor
    case size => exact g.size_cells
    case mem => exact fun _ => mem_iff
    case index => exact fun _ hp => ⟨toInt_index hp, index_lt hp⟩
    case fits => exact fun _ => index_fits hlimit
    case distinct => exact fun _ hp _ hq hne hsame => hne (eq_of_index_eq hp hq hsame)
    case get => exact g.get?_isSome_iff
    case set =>
      intro p hp i
      obtain ⟨previous, hget, hset⟩ := set_of_mem hp i
      exact ⟨previous, hget, hset, get?_of_set_self hset, fun _ => get?_of_set_of_ne hset⟩
    case refused => exact fun _ hp i => ⟨set_of_not_mem hp i, put_of_not_mem hp i⟩
  · intro hfits
    constructor
    case once => exact count_places hfits
    case get => exact fun _ _ => mem_places_iff hfits
    case ordered => exact places_ordered hfits
    case opcodes => exact opcodes_places g

-- Two columns of three rows are read, with a byte behind them, and one cell is painted.
theorem built_grid_is_array_painted :
    let g : Grid := ⟨2, 3, #[.moveLeft, .moveRight, .moveUp, .moveDown, .add, .sub], rfl⟩
    let painted := g.put ⟨1, 0⟩ .exit
    ofBytes [1, 2, 3, 4, 5, 6, 99] 2 3 = .ok g ∧ Built 2 3 painted ∧ painted.cells.size = 6 ∧
      painted.get? ⟨1, 0⟩ = some .exit ∧ painted.get? ⟨0, 1⟩ = g.get? ⟨0, 1⟩ ∧
      painted.set ⟨2, 0⟩ .print = .error ⟨⟨2, 0⟩, 2, 3⟩ ∧ painted.put ⟨2, 0⟩ .print = painted ∧
      (⟨1, 0⟩, .exit) ∈ painted.places ∧ (painted.places.map Prod.fst).count ⟨1, 2⟩ = 1 := by
  intro g painted
  have hread : ofBytes [1, 2, 3, 4, 5, 6, 99] 2 3 = .ok g := rfl
  have hbuilt : Built 2 3 painted := .put (.read hread) ⟨1, 0⟩ .exit
  obtain ⟨_, _, _, hself, hothers⟩ := (built_grid_is_array (.read hread)).1.set ⟨1, 0⟩ (by decide) .exit
  obtain ⟨harranged, hlisted⟩ := built_grid_is_array hbuilt
  have hlist := hlisted (by decide)
  obtain ⟨hrefused, hkept⟩ := harranged.refused ⟨2, 0⟩ (by decide) .print
  have honce := hlist.once ⟨1, 2⟩
  rw [if_pos (by decide)] at honce
  exact ⟨hread, hbuilt, harranged.size, hself, hothers _ (by decide), hrefused, hkept,
    (hlist.get _ _).mpr hself, honce⟩

end Grid

end GridWalk
