import Chip8.Memory
import Mathlib.Data.List.Basic

/-!
# Blocks and single bytes

Memory is read and written byte by byte or in blocks, and a program is loaded as a block. Main
statement: a block is read as its bytes are one after the other, and refused for the first of them
that is refused; a block is written as its bytes are, but for a refused block nothing is written;
and what any accesses leave is what the same edits make of a list of bytes that has no fixed length,
which stays as long as memory is.
-/

namespace Chip8

/-- What may be done with memory. -/
inductive Access where
  | read (address : Int)
  | write (address value : Int)
  | readBlock (address length : Int)
  | writeBlock (address : Int) (values : List Int)
  | load (program : List UInt8)

namespace Memory

/-- The bytes that an access answers, and memory behind it. After a refusal memory is as before. -/
def perform (m : Memory) : Access → Except Fault (List UInt8) × Memory
  | .read address => ((m.read address).map fun byte => [byte], m)
  | .write address value => stored (m.write address value)
  | .readBlock address length => (m.readBlock address length, m)
  | .writeBlock address values => stored (m.writeBlock address values)
  | .load program => stored (m.loadProgram program)
where
  /-- An access that answers nothing. -/
  stored : Except Fault Memory → Except Fault (List UInt8) × Memory
    | .ok next => (.ok [], next)
    | .error fault => (.error fault, m)

/-- Accesses one after the other, up to the first that is refused, with all that they answer. What
is written before a refusal stays. -/
def performAll (m : Memory) : List Access → Except Fault (List UInt8) × Memory
  | [] => (.ok [], m)
  | access :: rest =>
    match m.perform access with
    | (.error fault, next) => (.error fault, next)
    | (.ok bytes, next) =>
      let behind := next.performAll rest
      (behind.1.map (bytes ++ ·), behind.2)

/-- Memory after accesses of which each is made whether or not those before it were refused. -/
def after (m : Memory) (accesses : List Access) : Memory :=
  accesses.foldl (fun m access => (m.perform access).2) m

end Memory

namespace Access

/-- The reads of so many addresses in a row. -/
def reads (address : Int) : Nat → List Access
  | 0 => []
  | n + 1 => .read address :: reads (address + 1) n

/-- The writes of values to addresses in a row. -/
def writes (address : Int) : List Int → List Access
  | [] => []
  | value :: values => .write address value :: writes (address + 1) values

/-- The check that an access has to pass. -/
def check : Access → Except Fault Unit
  | .read address | .write address _ => Memory.check address 1
  | .readBlock address length => Memory.check address length
  | .writeBlock address values => Memory.check address values.length
  | .load program => Memory.checkProgram program

/-- Puts other bytes in the place of those from `start` up to `stop`. The list gets longer or
shorter when they are not as many. -/
def splice (data : List UInt8) (start stop : Nat) (bytes : List UInt8) : List UInt8 :=
  data.take start ++ bytes ++ data.drop stop

/-- What an access makes of a list of bytes. -/
def edit (data : List UInt8) : Access → List UInt8
  | .read _ | .readBlock .. => data
  | .write address value => data.set address.toNat (UInt8.ofInt value)
  | .writeBlock address values =>
    splice data address.toNat (address + values.length).toNat (values.map UInt8.ofInt)
  | .load program =>
    splice data Memory.programStart (Memory.programStart + program.length) program

/-- What accesses make of a list of bytes, when those that do not pass their check do nothing. -/
def editAll (data : List UInt8) (accesses : List Access) : List UInt8 :=
  accesses.foldl (fun data access => if access.check = .ok () then access.edit data else data) data

end Access

namespace Memory

/-! ### The check of a block -/

/-- A block passes the check when its first byte and the block of the others do, and the fault is
that of whichever of them fails first. -/
theorem check_succ (a : Int) (n : Nat) :
    check a (n + 1 : Nat) = (check a 1).bind fun _ => check (a + 1) n := by
  by_cases below : a < 0
  · simp only [check, if_pos below, Except.bind]
  by_cases beyond : 4096 ≤ a
  · have first : check a 1 = .error (.outOfBounds (max a 4096)) := by
      rw [check, if_neg below, if_pos (by omega)]
    have block : check a (n + 1 : Nat) = .error (.outOfBounds (max a 4096)) := by
      rw [check, if_neg below, if_pos (by omega)]
    rw [first, block, Except.bind]
  have first : check a 1 = .ok () := (check_eq_ok_iff a 1).mpr (by omega)
  rw [first, Except.bind, check, check, if_neg below, if_neg (show ¬a + 1 < 0 by omega)]
  -- A block that ends beyond memory fails at the end of memory, wherever in memory it begins.
  by_cases long : 4096 < a + 1 + n
  · rw [if_pos long, if_pos (by omega), Int.max_eq_right (by omega), Int.max_eq_right (by omega)]
  · rw [if_neg long, if_neg (by omega)]

/-! ### Reading -/

/-- The bytes of a block are its first byte and those of the block behind it. -/
theorem bytesAt_succ (m : Memory) (a n : Nat) :
    m.bytesAt a (n + 1) = m.byteAt a :: m.bytesAt (a + 1) n := by
  simp only [bytesAt, List.range_succ_eq_map, List.map_cons, List.map_map]
  congr 1
  apply List.map_congr_left
  intro k _
  simp only [Function.comp_apply]
  congr 1
  omega

/-- Reading a block of a length that is not negative. -/
theorem readBlock_eq (m : Memory) (a : Int) (n : Nat) :
    m.readBlock a n = (check a n).map fun _ => m.bytesAt a.toNat n := by
  rw [readBlock]
  cases checked : check a n with
  | error fault => rfl
  | ok =>
    obtain ⟨low, high⟩ := (check_eq_ok_iff a n).mp checked
    have length : blockEnd (a + n) - a.toNat = n := by
      rw [blockEnd, if_neg (by omega)]
      omega
    simp only [length]
    rfl

/-- Reads in a row answer the bytes of the block that they make up, or the fault of that block. -/
theorem performAll_reads (m : Memory) (a : Int) (n : Nat) :
    m.performAll (Access.reads a (n + 1)) =
      ((check a (n + 1 : Nat)).map fun _ => m.bytesAt a.toNat (n + 1), m) := by
  induction n generalizing a with
  | zero =>
    have single : check a (0 + 1 : Nat) = check a 1 := rfl
    rw [single, Access.reads, Access.reads, performAll, perform, read]
    cases check a 1 with
    | error fault => rfl
    | ok => rfl
  | succ n ih =>
    rw [Access.reads, performAll, perform, read, check_succ, bytesAt_succ]
    cases checked : check a 1 with
    | error fault => rfl
    | ok =>
      obtain ⟨low, -⟩ := (check_eq_ok_iff a 1).mp checked
      have next : (a + 1).toNat = a.toNat + 1 := by omega
      rw [← next]
      simp only [Except.map, ih, Except.bind]
      cases check (a + 1) (n + 1 : Nat) with
      | error fault => rfl
      | ok => rfl

/-! ### Writing -/

/-- Writing a block. -/
theorem writeBlock_eq (m : Memory) (a : Int) (values : List Int) :
    m.writeBlock a values =
      (check a values.length).map fun _ => m.putAll a.toNat (values.map UInt8.ofInt) := by
  rw [writeBlock, writeBytes, List.length_map]
  cases check a values.length with
  | error fault => rfl
  | ok => rfl

/-- Writes in a row leave the block that they make up, or fail as that block does. -/
theorem performAll_writes (m : Memory) (a value : Int) (values : List Int) :
    let single := m.performAll (Access.writes a (value :: values))
    match check a (values.length + 1 : Nat) with
    | .ok () => single = (.ok [], m.putAll a.toNat ((value :: values).map UInt8.ofInt))
    | .error fault => single.1 = .error fault := by
  intro single
  induction values generalizing m a value with
  | nil =>
    have first : check a (List.length ([] : List Int) + 1 : Nat) = check a 1 := rfl
    have only : single = m.performAll [.write a value] := rfl
    rw [first, only, performAll, perform, write]
    cases check a 1 with
    | error fault => rfl
    | ok => rfl
  | cons next values ih =>
    -- The writes behind the first one go on in the memory that it leaves.
    have rest := ih (m.put a.toNat (UInt8.ofInt value)) (a + 1) next
    have both : single = m.performAll (.write a value :: Access.writes (a + 1) (next :: values)) :=
      rfl
    rw [check_succ, both, performAll, perform, write]
    cases checked : check a 1 with
    | error fault => rfl
    | ok =>
      obtain ⟨low, -⟩ := (check_eq_ok_iff a 1).mp checked
      have behind : (a + 1).toNat = a.toNat + 1 := by omega
      rw [behind] at rest
      rw [Except.bind, List.length_cons]
      simp only [perform.stored]
      cases block : check (a + 1) (values.length + 1 : Nat) with
      | error fault =>
        rw [block] at rest
        rw [rest]
        rfl
      | ok =>
        rw [block] at rest
        rw [rest]
        rfl

/-! ### The bytes behind memory -/

/-- Replacing a byte. -/
theorem toList_put (m : Memory) (a : Nat) (b : UInt8) :
    (m.put a b).cells.toList = m.cells.toList.set a b := by
  simp [put]

/-- Replacing a block that ends in memory. -/
theorem toList_putAll (m : Memory) (a : Nat) (bytes : List UInt8)
    (inside : a + bytes.length ≤ 4096) :
    (m.putAll a bytes).cells.toList =
      Access.splice m.cells.toList a (a + bytes.length) bytes := by
  induction bytes generalizing m a with
  | nil => simp [putAll, Access.splice]
  | cons b bytes ih =>
    rw [List.length_cons] at inside
    rw [putAll, ih _ _ (by omega), toList_put, Access.splice, Access.splice]
    have whole : m.cells.toList.length = 4096 := Vector.length_toList
    have front : (m.cells.toList.set a b).take (a + 1) = m.cells.toList.take a ++ [b] := by
      rw [List.take_add_one, List.take_set_of_le (Nat.le_refl a),
        List.getElem?_set_self (by omega), Option.toList_some]
    have back : (m.cells.toList.set a b).drop (a + 1 + bytes.length) =
        m.cells.toList.drop (a + (b :: bytes).length) := by
      rw [List.drop_set_of_lt (by omega), List.length_cons]
      congr 1
      omega
    rw [front, back, List.append_assoc _ [b], List.singleton_append]

/-- An access passes exactly when its check does, and then memory is edited. -/
theorem perform_spec (m : Memory) (access : Access) :
    match access.check with
    | .ok () => (∃ bytes, (m.perform access).1 = .ok bytes) ∧
        (m.perform access).2.cells.toList = access.edit m.cells.toList
    | .error fault => m.perform access = (.error fault, m) := by
  cases access with
  | read address =>
    rw [Access.check, perform, read]
    cases check address 1 with
    | error fault => rfl
    | ok => exact ⟨⟨_, rfl⟩, rfl⟩
  | write address value =>
    rw [Access.check, perform, write]
    cases check address 1 with
    | error fault => rfl
    | ok => exact ⟨⟨_, rfl⟩, toList_put _ _ _⟩
  | readBlock address length =>
    rw [Access.check, perform, readBlock]
    cases check address length with
    | error fault => rfl
    | ok => exact ⟨⟨_, rfl⟩, rfl⟩
  | writeBlock address values =>
    rw [Access.check, perform, writeBlock_eq]
    cases checked : check address values.length with
    | error fault => rfl
    | ok =>
      obtain ⟨low, high⟩ := (check_eq_ok_iff address values.length).mp checked
      refine ⟨⟨_, rfl⟩, (toList_putAll _ _ _ ?_).trans ?_⟩
      · rw [List.length_map]
        omega
      · rw [Access.edit, List.length_map]
        congr 1
        omega
  | load program =>
    rw [Access.check, perform, loadProgram]
    cases checked : checkProgram program with
    | error fault => rfl
    | ok =>
      have fits : program.length ≤ programLimit := by
        rw [checkProgram] at checked
        split at checked
        · cases checked
        · omega
      have inside : programStart + program.length ≤ 4096 := by
        rw [programLimit] at fits
        rw [programStart]
        omega
      exact ⟨⟨_, rfl⟩, toList_putAll _ _ _ inside⟩

/-- Accesses leave the bytes that their edits make. -/
theorem toList_after (m : Memory) (accesses : List Access) :
    (m.after accesses).cells.toList = Access.editAll m.cells.toList accesses := by
  induction accesses generalizing m with
  | nil => rfl
  | cons access rest ih =>
    have spec := m.perform_spec access
    have step : (m.perform access).2.cells.toList =
        if access.check = .ok () then access.edit m.cells.toList else m.cells.toList := by
      cases checked : access.check with
      | ok =>
        rw [checked] at spec
        rw [if_pos rfl, spec.2]
      | error fault =>
        rw [checked] at spec
        rw [if_neg (by simp), spec]
    exact (ih (m.perform access).2).trans (congrArg (Access.editAll · rest) step)

/-- Blocks are accessed as single bytes are, wherever they begin and whatever has been done with
memory before. A block is read as its bytes are one after the other, and refused with the fault of
the first of them that is refused. A block of values is written as they are one after the other,
unless one of them is refused: then the block is refused with the same fault, and memory is as it
was. What the accesses before have left is what their edits make of the bytes that were there, and
there are as many. -/
theorem block_access_is_byte_access (start : Memory) (accesses : List Access) (a : Int) :
    let m := start.after accesses
    (∀ n : Nat, 1 ≤ n → m.perform (.readBlock a n) = m.performAll (Access.reads a n)) ∧
    (∀ values, values ≠ [] →
      let single := m.performAll (Access.writes a values)
      (∀ bytes, single.1 = .ok bytes → m.perform (.writeBlock a values) = single) ∧
      (∀ fault, single.1 = .error fault →
        m.perform (.writeBlock a values) = (.error fault, m))) ∧
    m.cells.toList = Access.editAll start.cells.toList accesses ∧
    (Access.editAll start.cells.toList accesses).length = 4096 := by
  intro m
  have bytes := start.toList_after accesses
  refine ⟨?_, ?_, bytes, ?_⟩
  · intro n positive
    obtain ⟨k, rfl⟩ : ∃ k, n = k + 1 := ⟨n - 1, by omega⟩
    rw [performAll_reads, perform, readBlock_eq]
  · intro values nonempty single
    obtain ⟨value, rest, rfl⟩ := List.exists_cons_of_ne_nil nonempty
    have each := m.performAll_writes a value rest
    have length : (value :: rest).length = rest.length + 1 := rfl
    rw [perform, writeBlock_eq, length]
    cases checked : check a (rest.length + 1 : Nat) with
    | ok =>
      rw [checked] at each
      have written : single = (.ok [], m.putAll a.toNat ((value :: rest).map UInt8.ofInt)) := each
      refine ⟨fun _ _ => written.symm, fun fault failed => ?_⟩
      rw [written] at failed
      cases failed
    | error fault =>
      rw [checked] at each
      have failed : single.1 = .error fault := each
      refine ⟨fun bytes done => ?_, fun other refused => ?_⟩
      · rw [failed] at done
        cases done
      · rw [failed] at refused
        cases refused
        rfl
  · rw [← bytes]
    exact Vector.length_toList

/-- A block that begins in memory and ends beyond it is refused for its third byte, and of three
values to be written there none is. -/
theorem block_access_is_byte_access_end :
    let m := Memory.initial.after [.load [1, 2, 3], .write 4095 (-1)]
    m.perform (.readBlock 4094 3) = m.performAll (Access.reads 4094 3) ∧
      m.perform (.writeBlock 4094 [256, -1, 7]) = (.error (.outOfBounds 4096), m) := by
  intro m
  obtain ⟨reads, writes, -, -⟩ :=
    block_access_is_byte_access Memory.initial [.load [1, 2, 3], .write 4095 (-1)] 4094
  have refused := (writes [256, -1, 7] (List.cons_ne_nil _ _)).2 (.outOfBounds 4096) (by
    decide +kernel)
  exact ⟨reads 3 (by decide), refused⟩

end Memory

end Chip8
