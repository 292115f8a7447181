import Chip8.Proofs.BaseLayer

/-!
# Turning a picture around

Opposite edges of a grid meet, so a grid can be turned: every value moves on by so many rows and
columns, and what leaves at one edge comes in at the other. Whatever is made of a grid is turned
along with it, since every value is made of the values at fixed distances from it. Main statement:
a turned picture is blurred to the turned blur, whatever the arithmetic of its values is, and its
two layers are the turned layers; the edges of the screen leave no seam.
-/

namespace Chip8

namespace Cyclic

variable {n : Nat}

/-- The index `d` steps before `i`. -/
def back (d : Int) (i : Fin n) : Fin n :=
  have : Positive n := ⟨i.pos⟩
  wrap n (i.val - d)

/-- Going back is subtracting, with as many rounds as it takes. -/
theorem val_back (d : Int) (i : Fin n) : ((back d i).val : Int) = (i.val - d) % n := by
  have positive := i.pos
  have low : 0 ≤ ((i.val : Int) - d) % n := Int.emod_nonneg _ (by omega)
  exact Int.toNat_of_nonneg low

/-- An index is known by the number it is. -/
theorem eq_of_val_int {i j : Fin n} (same : (i.val : Int) = j.val) : i = j :=
  Fin.ext (Int.ofNat.inj same)

/-- Steps back add up. -/
theorem back_back (d e : Int) (i : Fin n) : back d (back e i) = back (e + d) i := by
  apply eq_of_val_int
  rw [val_back, val_back, val_back, Int.emod_sub_emod]
  congr 1
  omega

/-- The order of steps back makes no difference. -/
theorem back_comm (d e : Int) (i : Fin n) : back d (back e i) = back e (back d i) := by
  rw [back_back, back_back, Int.add_comm]

/-- The index before another is one step back. -/
theorem before_eq_back (i : Fin n) : before i = back 1 i := by
  have positive := i.pos
  have number : ((i.val + (n - 1) : Nat) : Int) = (i.val : Int) - 1 + n := by omega
  apply eq_of_val_int
  rw [val_back]
  show (((i.val + (n - 1)) % n : Nat) : Int) = _
  rw [Int.natCast_emod, number, Int.add_emod_right]

/-- The index after another is a step back the other way. -/
theorem after_eq_back (i : Fin n) : after i = back (-1) i := by
  have number : ((i.val + 1 : Nat) : Int) = (i.val : Int) - -1 := by omega
  apply eq_of_val_int
  rw [val_back]
  show (((i.val + 1) % n : Nat) : Int) = _
  rw [Int.natCast_emod, number]

/-- A number that is cut down to `n` blocks of `k` lies in its block, cut down to `n`. -/
theorem emod_mul_ediv (a : Int) (n k : Nat) (positive : 0 < k) :
    a % ((n * k : Nat) : Int) / k = a / k % n := by
  have nonneg : ¬(k : Int) < 0 := by omega
  have rounds : a / ((k : Int) * n) = a / k / n := by
    rw [Int.ediv_ediv, if_neg fun both => nonneg both.1, Int.sub_zero]
  calc
    a % ((n * k : Nat) : Int) / k = (a - k * (n * (a / k / n))) / k := by
      rw [Int.emod_def, Int.natCast_mul, Int.mul_comm (n : Int) k, rounds, Int.mul_assoc]
    _ = a / k - n * (a / k / n) := Int.sub_mul_ediv_left a _ (by omega)
    _ = a / k % n := (Int.emod_def _ _).symm

end Cyclic

namespace Grid

open Cyclic (back)

/-- A step between blocks is as many steps as a block has indices. -/
theorem block_back {n k : Nat} (d : Int) (i : Fin (n * k)) :
    block (back (k * d) i) = back d (block i) := by
  have positive : 0 < k := Nat.pos_of_mul_pos_left i.pos
  apply Cyclic.eq_of_val_int
  rw [Cyclic.val_back]
  show (((back (k * d) i).val / k : Nat) : Int) = ((i.val / k : Nat) - d) % n
  rw [Int.natCast_ediv, Cyclic.val_back, Cyclic.emod_mul_ediv _ n k positive,
    Int.sub_mul_ediv_left _ _ (by omega), Int.natCast_ediv]

variable {α β : Type} {height width : Nat}

/-- Turns a grid: every value moves down and to the right by so many rows and columns. -/
def roll (down right : Int) (g : Grid α height width) : Grid α height width :=
  ofFn fun r c => g.get (back down r) (back right c)

@[simp] theorem get_roll (down right : Int) (g : Grid α height width) (r : Fin height)
    (c : Fin width) : (g.roll down right).get r c = g.get (back down r) (back right c) :=
  get_ofFn _ r c

/-- The last row comes in at the top. -/
example : ((ofFn fun (r : Fin 3) (c : Fin 2) => (r.val, c.val)).roll 1 0).toLists =
    [[(2, 0), (2, 1)], [(0, 0), (0, 1)], [(1, 0), (1, 1)]] := by decide

section Turned

variable (down right : Int) (g : Grid α height width)

/-- Turning and changing every value on its own can be exchanged. -/
theorem map_roll (f : α → β) : (g.roll down right).map f = (g.map f).roll down right := by
  apply ext
  intro r c
  rw [get_map, get_roll, get_roll, get_map]

/-- When rows become columns, the two turns change places. -/
theorem transpose_roll : (g.roll down right).transpose = g.transpose.roll right down := by
  apply ext
  intro c r
  rw [get_transpose, get_roll, get_roll, get_transpose]

/-- An enlarged grid turns by blocks. -/
theorem enlarge_roll (k : Nat) :
    (g.roll down right).enlarge k = (g.enlarge k).roll (k * down) (k * right) := by
  apply ext
  intro r c
  rw [get_enlarge, get_roll, get_roll, get_enlarge, block_back, block_back]

variable [Add α] [Div α] (three : α)

/-- The neighbours of a value in its column turn with it. -/
theorem blurColumns_roll :
    (g.roll down right).blurColumns three = (g.blurColumns three).roll down right := by
  apply ext
  intro r c
  have above : back down (Cyclic.before r) = Cyclic.before (back down r) := by
    rw [Cyclic.before_eq_back, Cyclic.before_eq_back, Cyclic.back_comm]
  have below : back down (Cyclic.after r) = Cyclic.after (back down r) := by
    rw [Cyclic.after_eq_back, Cyclic.after_eq_back, Cyclic.back_comm]
  simp only [blurColumns, get_ofFn, get_roll, above, below]

/-- Rows are blurred as columns are, after turning rows into columns. -/
theorem blurRows_eq : g.blurRows three = (g.transpose.blurColumns three).transpose := by
  apply ext
  intro r c
  simp only [blurColumns, blurRows, get_ofFn, get_transpose]

/-- The neighbours of a value in its row turn with it. -/
theorem blurRows_roll :
    (g.roll down right).blurRows three = (g.blurRows three).roll down right := by
  rw [blurRows_eq, blurRows_eq, transpose_roll, blurColumns_roll, transpose_roll]

/-- One pass turns with the grid. -/
theorem blurOnce_roll :
    (g.roll down right).blurOnce three = (g.blurOnce three).roll down right := by
  rw [blurOnce, blurOnce, blurColumns_roll, blurRows_roll]

/-- Any number of passes turns with the grid. -/
theorem blur_roll (passes : Nat) :
    (g.roll down right).blur three passes = (g.blur three passes).roll down right := by
  induction passes with
  | zero => rfl
  | succ passes ih =>
    show ((g.roll down right).blur three passes).blurOnce three =
      ((g.blur three passes).blurOnce three).roll down right
    rw [ih, blurOnce_roll]

end Turned

end Grid

/-! ### The layers of a turned screen -/

namespace Surface

variable {width height : Nat} (down right : Int) (p : Picture width height)
  (foreground background : Colour)

/-- The base layer turns by blocks. -/
theorem base_roll (scale : Nat) :
    base foreground background scale (p.roll down right) =
      (base foreground background scale p).roll (scale * right) (scale * down) := by
  rw [base, base, ofPicture, ofPicture, Grid.transpose_roll, Grid.map_roll, Grid.enlarge_roll]

/-- The glow turns by blocks. -/
theorem glow_roll :
    glow (p.roll down right) foreground =
      (glow p foreground).roll (glowScale * right) (glowScale * down) := by
  simp only [glow, luminance, Grid.transpose_roll, Grid.map_roll, Grid.enlarge_roll,
    Grid.blur_roll]

end Surface

namespace Layers

/-- A blur of a turned grid is the turned blur, for grids of any size and values of any kind. Four
times as large, where the glow is not smoothed, the layers of a turned screen are the turned layers,
in all colours. -/
theorem turned_screen_turns_layers :
    (∀ {α : Type} [Add α] [Div α] {height width : Nat} (three : α) (passes : Nat)
        (g : Grid α height width) (down right : Int),
      (g.roll down right).blur three passes = (g.blur three passes).roll down right) ∧
    ∀ (scaling : Scaling), scaling.CopiesBlocks 4 → scaling.KeepsGlow →
      ∀ (screen : Screen) (foreground background : Colour) (right down : Int),
        ∃ base glow : Surface 256 128,
          ofScreen scaling screen 4 foreground.shade background.shade =
            .ok ⟨256, 128, base, glow⟩ ∧
          ofScreen scaling (screen.roll down right) 4 foreground.shade background.shade =
            .ok ⟨256, 128, base.roll (4 * right) (4 * down),
              glow.roll (4 * right) (4 * down)⟩ := by
  constructor
  · intro α _ _ height width three passes g down right
    exact g.blur_roll down right three passes
  · intro scaling copies keeps screen foreground background right down
    have shown (screen : Screen) :
        ofScreen scaling screen 4 foreground.shade background.shade =
          .ok ⟨256, 128, Surface.base foreground background 4 screen,
            Surface.glow screen foreground⟩ := by
      rw [← keeps (Surface.glow screen foreground)]
      exact ofScreen_eq_ok copies screen foreground background
    have turned := shown (screen.roll down right)
    rw [Surface.base_roll, Surface.glow_roll] at turned
    exact ⟨_, _, shown screen, turned⟩

/-- A sprite over a corner of the screen, turned by three columns to the left and by five rows. -/
theorem turned_screen_turns_layers_corner :
    Scaling.desktop.CopiesBlocks 4 ∧ Scaling.desktop.KeepsGlow ∧
    let screen : Screen := (Picture.blank 64 32).draw 60 30 [0xF0, 0x90, 0x81]
    ∃ base glow : Surface 256 128,
      ofScreen .desktop screen 4 Palette.green.shade Palette.dark.shade =
        .ok ⟨256, 128, base, glow⟩ ∧
      ofScreen .desktop (screen.roll 5 (-3)) 4 Palette.green.shade Palette.dark.shade =
        .ok ⟨256, 128, base.roll (-12) 20, glow.roll (-12) 20⟩ := by
  have copies : Scaling.desktop.CopiesBlocks 4 := Scaling.desktop_copiesBlocks (by decide)
  refine ⟨copies, Scaling.desktop_keepsGlow, ?_⟩
  obtain ⟨-, turns⟩ := turned_screen_turns_layers
  exact turns .desktop copies Scaling.desktop_keepsGlow _ Palette.green Palette.dark (-3) 5

/-- What is bright in a corner spreads over the edges. -/
example :
    ((Grid.ofFn fun (r : Fin 4) (c : Fin 5) =>
      if r.val = 0 ∧ c.val = 0 then 81 else 0).blur 3 1).toLists =
        [[9, 9, 0, 0, 9], [9, 9, 0, 0, 9], [0, 0, 0, 0, 0], [9, 9, 0, 0, 9]] := by decide

end Layers

end Chip8
