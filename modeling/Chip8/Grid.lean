/-!
# Grids

Rectangles of values. Whatever is drawn, coloured, blurred or enlarged is a grid, and a grid is
known by the value in each of its rows and columns.
-/

namespace Chip8

/-- Values in `height` rows and `width` columns. -/
structure Grid (α : Type) (height width : Nat) where
  rows : Vector (Vector α width) height
  deriving DecidableEq

namespace Grid

variable {α β γ : Type} {height width : Nat}

/-- The grid whose value in row `r` and column `c` is `f r c`. -/
def ofFn (f : Fin height → Fin width → α) : Grid α height width :=
  ⟨Vector.ofFn fun r => Vector.ofFn (f r)⟩

/-- The grid that holds one value everywhere. -/
def replicate (height width : Nat) (a : α) : Grid α height width :=
  ⟨Vector.replicate height (Vector.replicate width a)⟩

/-- The value in a row and column. -/
def get (g : Grid α height width) (r : Fin height) (c : Fin width) : α :=
  g.rows[r.val][c.val]

/-- Replaces the value in a row and column. -/
def set (g : Grid α height width) (r : Fin height) (c : Fin width) (a : α) :
    Grid α height width :=
  ⟨g.rows.set r (g.rows[r.val].set c a)⟩

/-- The grid of the images of all values. -/
def map (f : α → β) (g : Grid α height width) : Grid β height width :=
  ⟨g.rows.map (Vector.map f)⟩

/-- Combines two grids value by value. -/
def zipWith (f : α → β → γ) (g : Grid α height width) (h : Grid β height width) :
    Grid γ height width :=
  ⟨Vector.zipWith (Vector.zipWith f) g.rows h.rows⟩

/-- Rows become columns. -/
def transpose (g : Grid α height width) : Grid α width height :=
  ofFn fun c r => g.get r c

/-- The index of the block of `k` indices in which an index lies. -/
def block {n k : Nat} (i : Fin (n * k)) : Fin n :=
  ⟨i / k, Nat.div_lt_of_lt_mul (Nat.mul_comm n k ▸ i.isLt)⟩

/-- Every value becomes a block of `k` rows and `k` columns. -/
def enlarge (k : Nat) (g : Grid α height width) : Grid α (height * k) (width * k) :=
  ofFn fun r c => g.get (block r) (block c)

/-! ### What the operations do to the values -/

/-- A grid is known by its values. -/
theorem ext {g h : Grid α height width} (same : ∀ r c, g.get r c = h.get r c) : g = h := by
  cases g with
  | mk rows =>
    cases h with
    | mk rows' =>
      congr 1
      apply Vector.ext
      intro r hr
      apply Vector.ext
      intro c hc
      exact same ⟨r, hr⟩ ⟨c, hc⟩

@[simp] theorem get_ofFn (f : Fin height → Fin width → α) (r : Fin height) (c : Fin width) :
    (ofFn f).get r c = f r c := by
  simp [ofFn, get]

@[simp] theorem get_replicate (a : α) (r : Fin height) (c : Fin width) :
    (replicate height width a).get r c = a := by
  simp [replicate, get]

/-- Only the value that is replaced changes. -/
theorem get_set (g : Grid α height width) (r r' : Fin height) (c c' : Fin width) (a : α) :
    (g.set r c a).get r' c' = if r = r' ∧ c = c' then a else g.get r' c' := by
  by_cases hr : r = r'
  · subst hr
    by_cases hc : c = c'
    · subst hc
      simp [set, get]
    · have : (c : Nat) ≠ c' := fun h => hc (Fin.ext h)
      simp [set, get, hc, this]
  · have : (r : Nat) ≠ r' := fun h => hr (Fin.ext h)
    simp [set, get, hr, this]

@[simp] theorem get_map (f : α → β) (g : Grid α height width) (r : Fin height)
    (c : Fin width) : (g.map f).get r c = f (g.get r c) := by
  simp [map, get]

@[simp] theorem get_zipWith (f : α → β → γ) (g : Grid α height width)
    (h : Grid β height width) (r : Fin height) (c : Fin width) :
    (zipWith f g h).get r c = f (g.get r c) (h.get r c) := by
  simp [zipWith, get]

@[simp] theorem get_transpose (g : Grid α height width) (r : Fin height) (c : Fin width) :
    g.transpose.get c r = g.get r c := by
  simp [transpose]

@[simp] theorem get_enlarge (k : Nat) (g : Grid α height width) (r : Fin (height * k))
    (c : Fin (width * k)) : (g.enlarge k).get r c = g.get (block r) (block c) := by
  simp [enlarge]

/-! ### Lists of rows -/

/-- The rows as lists. -/
def toLists (g : Grid α height width) : List (List α) :=
  g.rows.toList.map Vector.toList

/-- The grid with the given rows, when there are as many as asked and all are as long as asked. -/
def ofLists? (height width : Nat) (rows : List (List α)) : Option (Grid α height width) :=
  if h : rows.length = height ∧ ∀ row ∈ rows, row.length = width then
    some (ofFn fun r c =>
      (rows.get (r.cast h.1.symm)).get
        (c.cast (h.2 _ (List.get_mem rows (r.cast h.1.symm))).symm))
  else none

end Grid

end Chip8
