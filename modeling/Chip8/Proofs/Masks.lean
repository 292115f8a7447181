import Chip8.Proofs.Drawing

/-!
# Drawing inverts under a mask

Which pixels a drawing inverts is decided by the sprite and its place alone, so a drawing puts a
mask over the picture, whatever the picture shows. The mask has at each pixel the last cell of the
sprite that hits it, row by row and from left to right. Masks can be taken off again and put on in
any order. Main statement: all this holds of pictures of any size, of points far outside them, and
of sprites that cover the picture several times.
-/

namespace Chip8

/-- Whoever is last in an ordered list stands behind all others. -/
theorem eq_or_rel_of_getLast? {α : Type} {R : α → α → Prop} {l : List α} (ordered : l.Pairwise R)
    {last : α} (found : l.getLast? = some last) {a : α} (member : a ∈ l) : a = last ∨ R a last := by
  obtain ⟨front, rfl⟩ := List.getLast?_eq_some_iff.mp found
  have before := (List.pairwise_append.mp ordered).2.2
  rcases List.mem_append.mp member with earlier | same
  · exact .inr (before a earlier last List.mem_cons_self)
  · exact .inl (List.mem_singleton.mp same)

/-- Fewer steps than there are indices lead to different ones. -/
theorem Cyclic.steps_unique {n i j : Nat} {start : Int} (few : i < n) (few' : j < n)
    (same : (start + i) % n = (start + j) % n) : i = j := by
  have remainders : (i : Int) % n = (j : Int) % n := Int.emod_add_cancel_left.mp same
  rw [← Int.natCast_emod, ← Int.natCast_emod, Nat.mod_eq_of_lt few, Nat.mod_eq_of_lt few']
    at remainders
  exact Int.ofNat.inj remainders

/-- The index that a number falls on is its remainder. -/
theorem Cyclic.wrap_eq_iff (n : Nat) [Positive n] (k : Int) (i : Fin n) :
    wrap n k = i ↔ k % n = i.val := by
  have positive : 0 < (n : Int) := Int.natCast_pos.mpr Positive.pos
  have low : 0 ≤ k % n := Int.emod_nonneg k (Int.ne_of_gt positive)
  rw [Fin.ext_iff, wrap]
  constructor
  · intro same
    rw [← same, Int.toNat_of_nonneg low]
  · intro same
    show (k % n).toNat = i.val
    rw [same, Int.toNat_natCast]

/-- Far from the ends of 64 bits a number is kept as it is. -/
theorem Signed.ofInt?_small {k : Int} (small : k.natAbs < 0x4000000000000000) :
    ofInt? k = some (Int64.ofInt k) ∧ (Int64.ofInt k).toInt = k := by
  have fit : fits k = true := by
    simp only [fits, Bool.and_eq_true, decide_eq_true_eq]
    omega
  exact ⟨if_pos fit, toInt_ofInt k fit⟩

namespace SpriteCell

/-- Whether a cell comes before another one, row by row and from left to right. -/
def Precedes (a b : SpriteCell) : Prop :=
  a.row < b.row ∨ a.row = b.row ∧ a.column < b.column

/-- The cells of a sprite are listed in this order. -/
theorem pairwise_ofRows (rows : List UInt8) : (ofRows rows).Pairwise Precedes := by
  rw [ofRows, List.pairwise_flatMap]
  constructor
  · rintro ⟨bits, row⟩ _
    rw [List.pairwise_map]
    exact List.pairwise_lt_range.imp fun further => .inr ⟨rfl, further⟩
  · rw [List.pairwise_iff_getElem]
    intro i j hi hj below a first b second
    rw [List.getElem_zipIdx] at first second
    obtain ⟨_, _, rfl⟩ := List.mem_map.mp first
    obtain ⟨_, _, rfl⟩ := List.mem_map.mp second
    exact .inl (Nat.add_lt_add_left below 0)

end SpriteCell

/-! ### Masks -/

namespace Picture

variable {width height : Nat}

/-- Inverts the pixels that a mask lights. -/
def invert (p mask : Picture width height) : Picture width height :=
  Grid.zipWith xor p mask

@[simp] theorem get_invert (p mask : Picture width height) (r : Fin height) (c : Fin width) :
    (p.invert mask).get r c = (p.get r c ^^ mask.get r c) :=
  Grid.get_zipWith xor p mask r c

/-- A mask that is put on twice is taken off. -/
@[simp] theorem invert_invert (p mask : Picture width height) :
    (p.invert mask).invert mask = p := by
  apply Grid.ext
  intro r c
  rw [get_invert, get_invert, Bool.xor_assoc, Bool.xor_self, Bool.xor_false]

/-- Two masks can be put on in any order. -/
theorem invert_right_comm (p a b : Picture width height) :
    (p.invert a).invert b = (p.invert b).invert a := by
  apply Grid.ext
  intro r c
  rw [get_invert, get_invert, get_invert, get_invert, Bool.xor_right_comm]

variable [Cyclic.Positive width] [Cyclic.Positive height]

/-- What a sprite drawn at `(x, y)` inverts. -/
def mask (x y : Int64) (rows : List UInt8) : Picture width height :=
  Grid.ofFn fun r c =>
    match ((SpriteCell.ofRows rows).filter (fallsOn x y r c)).getLast? with
    | some cell => cell.lit
    | none => false

/-- A drawing puts the mask of the sprite over the picture. -/
theorem draw_eq_invert (p : Picture width height) (x y : Int64) (rows : List UInt8) :
    p.draw x y rows = p.invert (mask x y rows) := by
  apply Grid.ext
  intro r c
  rw [get_draw, get_invert, mask, Grid.get_ofFn]
  cases ((SpriteCell.ofRows rows).filter (fallsOn x y r c)).getLast? with
  | none => exact (Bool.xor_false _).symm
  | some cell => rfl

end Picture

/-! ### Sprites at a point -/

/-- A sprite at a point: whole numbers for its upper left corner and for its rows. -/
structure Sprite where
  x : Int
  y : Int
  rows : List Int

namespace Sprite

/-- What makes a sprite drawable: its rows are bytes, and its corner leaves room to count its cells
in 64 bits. -/
structure Drawable (s : Sprite) : Prop where
  x_small : s.x.natAbs < 0x4000000000000000
  y_small : s.y.natAbs < 0x4000000000000000
  bytes : ∀ v ∈ s.rows, 0 ≤ v ∧ v ≤ 255
  /-- No address space has room for more bytes than this, so every sprite in memory is meant; rows
  beyond would be counted past the greatest number of 64 bits. -/
  storable : s.rows.length ≤ 0x4000000000000000

/-- One bit of a sprite, counted from the left of a row. -/
def bit (s : Sprite) (row column : Nat) : Bool :=
  (s.rows.getD row 0).toNat.testBit (7 - column)

/-- The rows of a sprite in eight bits each. -/
def stored (s : Sprite) : List UInt8 :=
  s.rows.map UInt8.ofInt

variable {width height : Nat}

/-- Whether a cell of a sprite falls on a pixel of the endlessly repeated picture. -/
structure Hits (s : Sprite) (r : Fin height) (c : Fin width) (row column : Nat) : Prop where
  row_lt : row < s.rows.length
  column_lt : column < 8
  vertical : (s.y + row) % height = r
  horizontal : (s.x + column) % width = c

/-- Whether a cell is the last that falls on a pixel, row by row and from left to right. -/
structure HitsLast (s : Sprite) (r : Fin height) (c : Fin width) (row column : Nat) : Prop
    extends s.Hits r c row column where
  last : ∀ row' column', s.Hits r c row' column' → row' < row ∨ row' = row ∧ column' ≤ column

/-- Whether a mask has at each pixel the bit of the last cell that hits it, and else is dark. -/
def Masks (s : Sprite) (mask : Picture width height) : Prop :=
  ∀ r c, (∃ row column, s.HitsLast r c row column ∧ mask.get r c = s.bit row column) ∨
    (∀ row column, ¬s.Hits r c row column) ∧ mask.get r c = false

/-- Draws a sprite, and tells whether it collides. -/
def drawOn (s : Sprite) (p : Picture width height) :
    Except DrawError (Bool × Picture width height) :=
  p.tryDraw s.x s.y s.rows

/-- Whether drawing a sprite succeeds and makes one picture of another. -/
def Turns (s : Sprite) (p q : Picture width height) : Prop :=
  ∃ collided, s.drawOn p = .ok (collided, q)

variable {s : Sprite} {r : Fin height} {c : Fin width} {row column row' column' : Nat}

/-- On a picture that is wide and high enough, no pixel is hit twice. -/
theorem Hits.unique (wide : 8 ≤ width) (tall : s.rows.length ≤ height)
    (hits : s.Hits r c row column) (too : s.Hits r c row' column') :
    row = row' ∧ column = column' := by
  have rows := hits.row_lt
  have rows' := too.row_lt
  have columns := hits.column_lt
  have columns' := too.column_lt
  constructor
  · exact Cyclic.steps_unique (by omega) (by omega) (hits.vertical.trans too.vertical.symm)
  · exact Cyclic.steps_unique (by omega) (by omega) (hits.horizontal.trans too.horizontal.symm)

/-- Where no pixel is hit twice, a set bit falls on a lit pixel exactly when a pixel goes out. -/
theorem Masks.goes_out_iff {mask : Picture width height} (masks : s.Masks mask) (wide : 8 ≤ width)
    (tall : s.rows.length ≤ height) (p : Picture width height) :
    (∃ r c row column, s.Hits r c row column ∧ s.bit row column = true ∧ p.get r c = true) ↔
      ∃ r c, p.get r c = true ∧ (p.invert mask).get r c = false := by
  constructor
  · rintro ⟨r, c, row, column, hits, set, lit⟩
    refine ⟨r, c, lit, ?_⟩
    rcases masks r c with ⟨row', column', last, shown⟩ | ⟨beside, _⟩
    · obtain ⟨rfl, rfl⟩ := hits.unique wide tall last.toHits
      rw [Picture.get_invert, lit, shown, set]
      rfl
    · exact absurd hits (beside row column)
  · rintro ⟨r, c, lit, dark⟩
    have masked : mask.get r c = true := by
      rw [Picture.get_invert, lit, Bool.true_xor, Bool.not_eq_false'] at dark
      exact dark
    rcases masks r c with ⟨row, column, last, shown⟩ | ⟨_, blank⟩
    · exact ⟨r, c, row, column, last.toHits, shown.symm.trans masked, lit⟩
    · rw [masked] at blank
      cases blank

/-! ### What is drawn -/

/-- The rows of a drawable sprite are stored as they are. -/
theorem Drawable.spriteRows_eq (drawable : s.Drawable) :
    spriteRows s.rows = .ok s.stored := by
  apply if_pos
  rw [List.all_eq_true]
  intro v member
  have bounds := drawable.bytes v member
  simp only [Bool.and_eq_true, decide_eq_true_eq]
  omega

/-- The cells of a drawable sprite are its bits. -/
theorem Drawable.mem_cells (drawable : s.Drawable) (cell : SpriteCell) :
    cell ∈ SpriteCell.ofRows s.stored ↔
      cell.row < s.rows.length ∧ cell.column < 8 ∧ cell.lit = s.bit cell.row cell.column := by
  have kept : ∀ v ∈ s.rows, (UInt8.ofInt v).toNat = v.toNat := by
    intro v member
    have bounds := drawable.bytes v member
    rw [UInt8.ofInt, UInt8.toNat_ofNat']
    omega
  rw [SpriteCell.mem_ofRows, stored, List.getElem?_map]
  constructor
  · rintro ⟨column, bits, listed, lit⟩
    obtain ⟨v, found, rfl⟩ := Option.map_eq_some_iff.mp listed
    obtain ⟨inside, _⟩ := List.getElem?_eq_some_iff.mp found
    refine ⟨inside, column, ?_⟩
    rw [lit, SpriteCell.bit, bit, kept v (List.mem_of_getElem? found),
      List.getD_eq_getElem?_getD, found, Option.getD_some]
  · rintro ⟨inside, column, lit⟩
    have found : s.rows[cell.row]? = some s.rows[cell.row] := List.getElem?_eq_getElem inside
    refine ⟨column, _, congrArg (Option.map UInt8.ofInt) found, ?_⟩
    rw [lit, SpriteCell.bit, bit, kept _ (List.getElem_mem inside),
      List.getD_eq_getElem?_getD, found, Option.getD_some]

variable [Cyclic.Positive width] [Cyclic.Positive height]

/-- Whether a cell of a sprite, drawn where the sprite is, falls on a pixel. -/
def falls (s : Sprite) (r : Fin height) (c : Fin width) : SpriteCell → Bool :=
  Picture.fallsOn (Int64.ofInt s.x) (Int64.ofInt s.y) r c

/-- What a sprite inverts, drawn where it is. -/
def mask (s : Sprite) : Picture width height :=
  Picture.mask (Int64.ofInt s.x) (Int64.ofInt s.y) s.stored

/-- Whether a sprite collides, drawn where it is. -/
def collides (s : Sprite) (p : Picture width height) : Bool :=
  p.collides (Int64.ofInt s.x) (Int64.ofInt s.y) s.stored

/-- A pixel of the mask is as the last cell that falls on it. -/
theorem get_mask (s : Sprite) (r : Fin height) (c : Fin width) :
    s.mask.get r c =
      match ((SpriteCell.ofRows s.stored).filter (s.falls r c)).getLast? with
      | some cell => cell.lit
      | none => false :=
  Grid.get_ofFn _ r c

/-- Of the cells of a drawable sprite, those fall on a pixel that hit it. -/
theorem Drawable.mem_filter_falls (drawable : s.Drawable) (r : Fin height) (c : Fin width)
    (cell : SpriteCell) :
    cell ∈ (SpriteCell.ofRows s.stored).filter (s.falls r c) ↔
      s.Hits r c cell.row cell.column ∧ cell.lit = s.bit cell.row cell.column := by
  have xSmall := drawable.x_small
  have ySmall := drawable.y_small
  have storable := drawable.storable
  have x := (Signed.ofInt?_small xSmall).2
  have y := (Signed.ofInt?_small ySmall).2
  have place : cell.row < s.rows.length → cell.column < 8 →
      (s.falls r c cell = true ↔
        (s.y + cell.row) % height = r ∧ (s.x + cell.column) % width = c) := by
    intro inside within
    rw [falls, Picture.fallsOn_iff, Picture.indexFrom_eq_wrap height _ _ (by omega),
      Picture.indexFrom_eq_wrap width _ _ (by omega), x, y, Cyclic.wrap_eq_iff,
      Cyclic.wrap_eq_iff]
  rw [List.mem_filter, drawable.mem_cells]
  constructor
  · rintro ⟨⟨inside, within, lit⟩, here⟩
    obtain ⟨vertical, horizontal⟩ := (place inside within).mp here
    exact ⟨⟨inside, within, vertical, horizontal⟩, lit⟩
  · rintro ⟨hits, lit⟩
    exact ⟨⟨hits.row_lt, hits.column_lt, lit⟩,
      (place hits.row_lt hits.column_lt).mpr ⟨hits.vertical, hits.horizontal⟩⟩

/-- What a drawable sprite inverts are the last bits that hit. -/
theorem Drawable.masks (drawable : s.Drawable) : s.Masks (s.mask : Picture width height) := by
  intro r c
  have falling := drawable.mem_filter_falls r c
  have ordered := (SpriteCell.pairwise_ofRows s.stored).filter (s.falls r c)
  rw [get_mask]
  generalize (SpriteCell.ofRows s.stored).filter (s.falls r c) = cells at falling ordered ⊢
  cases found : cells.getLast? with
  | none =>
    refine .inr ⟨fun row column hits => ?_, rfl⟩
    have empty : cells = [] := List.getLast?_eq_none_iff.mp found
    have member := (falling ⟨row, column, s.bit row column⟩).mpr ⟨hits, rfl⟩
    rw [empty] at member
    cases member
  | some cell =>
    obtain ⟨hits, lit⟩ := (falling cell).mp (List.mem_of_getLast? found)
    refine .inl ⟨cell.row, cell.column, ⟨hits, fun row column too => ?_⟩, lit⟩
    have member := (falling ⟨row, column, s.bit row column⟩).mpr ⟨too, rfl⟩
    rcases eq_or_rel_of_getLast? ordered found member with rfl | above | ⟨same, left⟩
    · exact .inr ⟨rfl, Nat.le_refl _⟩
    · exact .inl above
    · exact .inr ⟨same, Nat.le_of_lt left⟩

/-- A drawable sprite collides when one of its set bits hits a lit pixel. -/
theorem Drawable.collides_iff_hits (drawable : s.Drawable) (p : Picture width height) :
    s.collides p = true ↔
      ∃ r c row column, s.Hits r c row column ∧ s.bit row column = true ∧ p.get r c = true := by
  rw [collides, Picture.collides_iff]
  constructor
  · rintro ⟨r, c, marked, lit⟩
    obtain ⟨cell, member, both⟩ := List.any_eq_true.mp marked
    obtain ⟨here, set⟩ := Bool.and_eq_true_iff.mp both
    have falling : cell ∈ (SpriteCell.ofRows s.stored).filter (s.falls r c) :=
      List.mem_filter.mpr ⟨member, here⟩
    obtain ⟨hits, bit⟩ := (drawable.mem_filter_falls r c cell).mp falling
    exact ⟨r, c, cell.row, cell.column, hits, bit.symm.trans set, lit⟩
  · rintro ⟨r, c, row, column, hits, set, lit⟩
    have falling := (drawable.mem_filter_falls r c ⟨row, column, true⟩).mpr ⟨hits, set.symm⟩
    obtain ⟨member, here⟩ := List.mem_filter.mp falling
    exact ⟨r, c, List.any_eq_true.mpr ⟨_, member, Bool.and_eq_true_iff.mpr ⟨here, rfl⟩⟩, lit⟩

/-- Drawing a drawable sprite puts its mask over the picture. -/
theorem Drawable.drawOn_eq (drawable : s.Drawable) (p : Picture width height) :
    s.drawOn p = .ok (s.collides p, p.invert s.mask) := by
  have x := (Signed.ofInt?_small drawable.x_small).1
  have y := (Signed.ofInt?_small drawable.y_small).1
  have wide : 0 < width := Cyclic.Positive.pos
  have tall : 0 < height := Cyclic.Positive.pos
  rw [mask, ← Picture.draw_eq_invert, collides, drawOn, Picture.tryDraw,
    drawable.spriteRows_eq, x, y]
  cases s.stored with
  | nil => rfl
  | cons first rest => simp only [dif_pos wide, dif_pos tall]

/-- Drawing a drawable sprite succeeds. -/
theorem Drawable.turns (drawable : s.Drawable) (p : Picture width height) :
    s.Turns p (p.invert s.mask) :=
  ⟨s.collides p, drawable.drawOn_eq p⟩

end Sprite

namespace Picture

variable {width height : Nat}

/-- A row that is no byte is refused before anything else is looked at. -/
theorem tryDraw_of_outside (p : Picture width height) (x y : Int) {values : List Int}
    (outside : ∃ v ∈ values, v < 0 ∨ 255 < v) : p.tryDraw x y values = .error .rowOutOfRange := by
  obtain ⟨v, member, out⟩ := outside
  have refused : spriteRows values = .error .rowOutOfRange := by
    apply if_neg
    rw [List.all_eq_true]
    intro bytes
    have byte := bytes v member
    simp only [Bool.and_eq_true, decide_eq_true_eq] at byte
    omega
  rw [tryDraw, refused]

/-- A sprite that is drawable has a mask that every drawing puts over the picture. It collides when
a set bit hits a lit pixel; on a picture that is wide and high enough no pixel is hit twice, and it
collides when a pixel goes out. A second drawing restores the picture, two sprites can be drawn in
any order, and a row that is no byte is refused. -/
theorem tryDraw_masks (wide : 1 ≤ width) (tall : 1 ≤ height) :
    (∀ s : Sprite, s.Drawable → ∃ mask : Picture width height, s.Masks mask ∧
      ∀ p, ∃ collided, s.drawOn p = .ok (collided, p.invert mask) ∧
        (collided = true ↔
          ∃ r c row column, s.Hits r c row column ∧ s.bit row column = true ∧
            p.get r c = true) ∧
        (8 ≤ width → s.rows.length ≤ height →
          (∀ (r : Fin height) (c : Fin width) row column row' column',
            s.Hits r c row column → s.Hits r c row' column' →
              row = row' ∧ column = column') ∧
          (collided = true ↔
            ∃ r c, p.get r c = true ∧ (p.invert mask).get r c = false))) ∧
    (∀ s : Sprite, s.Drawable → ∀ p : Picture width height, ∃ q, s.Turns p q ∧ s.Turns q p) ∧
    (∀ s t : Sprite, s.Drawable → t.Drawable → ∀ p : Picture width height, ∃ q q' both,
      s.Turns p q ∧ t.Turns q both ∧ t.Turns p q' ∧ s.Turns q' both) ∧
    ∀ (p : Picture width height) x y values, (∃ v ∈ values, v < 0 ∨ 255 < v) →
      p.tryDraw x y values = .error .rowOutOfRange := by
  have : Cyclic.Positive width := ⟨wide⟩
  have : Cyclic.Positive height := ⟨tall⟩
  refine ⟨?_, ?_, ?_, fun p x y values outside => p.tryDraw_of_outside x y outside⟩
  · intro s drawable
    refine ⟨s.mask, drawable.masks, fun p => ?_⟩
    refine ⟨s.collides p, drawable.drawOn_eq p, drawable.collides_iff_hits p, ?_⟩
    intro broad high
    refine ⟨fun r c row column row' column' hits too => hits.unique broad high too, ?_⟩
    rw [drawable.collides_iff_hits p]
    exact drawable.masks.goes_out_iff broad high p
  · intro s drawable p
    have back := drawable.turns (p.invert s.mask)
    rw [invert_invert] at back
    exact ⟨p.invert s.mask, drawable.turns p, back⟩
  · intro s t first second p
    have other := first.turns (p.invert t.mask)
    rw [invert_right_comm] at other
    exact ⟨p.invert s.mask, p.invert t.mask, (p.invert s.mask).invert t.mask,
      first.turns p, second.turns (p.invert s.mask), second.turns p, other⟩

/-- On a picture of two rows, a sprite of three rows far outside it, which hits itself, and a sprite
of two rows, which does not. -/
theorem tryDraw_masks_overlapping :
    let s : Sprite := ⟨-1, 0x2000000000000001, [0xFF, 0x81, 0x18]⟩
    let t : Sprite := ⟨5, -3, [0xC0, 0x01]⟩
    let dark := Picture.blank 8 2
    1 ≤ 8 ∧ 1 ≤ 2 ∧ s.Drawable ∧ t.Drawable ∧ t.rows.length ≤ 2 ∧
    (∃ mask : Picture 8 2, s.Masks mask ∧ s.drawOn dark = .ok (false, dark.invert mask)) ∧
    (∃ collided q, t.drawOn dark = .ok (collided, q) ∧
      (collided = true ↔ ∃ r c, dark.get r c = true ∧ q.get r c = false)) ∧
    (∃ q, s.Turns dark q ∧ s.Turns q dark) ∧
    (∃ q q' both, s.Turns dark q ∧ t.Turns q both ∧ t.Turns dark q' ∧ s.Turns q' both) ∧
    dark.tryDraw 0 0 [0xFF, 0x100] = .error .rowOutOfRange := by
  intro s t dark
  have wide : 1 ≤ 8 := by decide
  have tall : 1 ≤ 2 := by decide
  have first : s.Drawable := ⟨by decide, by decide, by decide, by decide⟩
  have second : t.Drawable := ⟨by decide, by decide, by decide, by decide⟩
  have fits : t.rows.length ≤ 2 := by decide
  have outside : ∃ v ∈ ([0xFF, 0x100] : List Int), v < 0 ∨ 255 < v := by decide
  obtain ⟨draws, twice, either, refuses⟩ := tryDraw_masks wide tall
  refine ⟨wide, tall, first, second, fits, ?_, ?_, twice s first dark, either s t first second dark,
    refuses dark 0 0 _ outside⟩
  · obtain ⟨mask, masks, drawn⟩ := draws s first
    obtain ⟨collided, answer, hits, _⟩ := drawn dark
    refine ⟨mask, masks, ?_⟩
    cases collided with
    | false => exact answer
    | true =>
      obtain ⟨r, c, _, _, _, _, lit⟩ := hits.mp rfl
      rw [show dark.get r c = false from Grid.get_replicate false r c] at lit
      cases lit
  · obtain ⟨mask, _, drawn⟩ := draws t second
    obtain ⟨collided, answer, _, single⟩ := drawn dark
    exact ⟨collided, dark.invert mask, answer, (single (by decide) fits).2⟩

end Picture

end Chip8
