/-!
Memory: a byte at every address, changed a range at a time. Zero is the address of nothing. The view
of a memory is the byte at each address; `get_write` and `read_eq` state the operations by it.
-/

namespace ArenaThreads

structure Write where
  start : Nat
  length : Nat
  bytes : Nat → UInt8

namespace Write

def covers (address : Nat) (write : Write) : Bool :=
  write.start ≤ address && address < write.start + write.length

def meets (start length : Nat) (write : Write) : Bool :=
  write.start < start + length && start < write.start + write.length

def byteAt (writes : List Write) (address : Nat) : UInt8 :=
  match writes with
  | [] => 0
  | write :: older =>
    if write.covers address then write.bytes (address - write.start) else byteAt older address

theorem byteAt_filter_meets (writes : List Write) {start length address : Nat} (low : start ≤ address)
    (high : address < start + length) :
    byteAt (writes.filter (meets start length)) address = byteAt writes address := by
  induction writes with
  | nil => rfl
  | cons write older ih =>
    by_cases near : write.meets start length
    · simp [near, byteAt, ih]
    · have absent : write.covers address = false := by
        simp only [meets, covers, Bool.and_eq_true, decide_eq_true_eq, Bool.and_eq_false_iff,
          decide_eq_false_iff_not] at near ⊢
        omega
      simp [near, byteAt, ih, absent]

/-- The bytes of a range, half by half so that each part looks only at the writes that meet it. -/
def bytesIn (depth : Nat) (writes : List Write) (start length : Nat) : List UInt8 :=
  let near := writes.filter (meets start length)
  match depth with
  | 0 => (List.range length).map fun i => byteAt near (start + i)
  | depth + 1 =>
    let half := length / 2
    bytesIn depth near start half ++ bytesIn depth near (start + half) (length - half)

theorem bytesIn_eq (depth : Nat) (writes : List Write) (start length : Nat) :
    bytesIn depth writes start length =
      (List.range length).map fun i => byteAt writes (start + i) := by
  have nearBy (i : Nat) (bound : i < length) :
      byteAt (writes.filter (meets start length)) (start + i) = byteAt writes (start + i) :=
    byteAt_filter_meets writes (by omega) (by omega)
  induction depth generalizing writes start length with
  | zero => exact List.map_congr_left fun i member => nearBy i (List.mem_range.mp member)
  | succ depth ih =>
    have whole : length = length / 2 + (length - length / 2) := by omega
    rw [bytesIn, ih, ih]
    · conv => rhs; rw [whole, List.range_add, List.map_append, List.map_map]
      congr 1
      · refine List.map_congr_left fun i member => ?_
        have bound := List.mem_range.mp member
        exact nearBy i (by omega)
      · refine List.map_congr_left fun i member => ?_
        have bound := List.mem_range.mp member
        rw [Function.comp_apply, Nat.add_assoc]
        exact nearBy (length / 2 + i) (by omega)
    all_goals exact fun i bound => byteAt_filter_meets _ (by omega) (by omega)

end Write

/-- What has been written, the newest first; all other bytes are zero. -/
structure Memory where
  writes : List Write := []

namespace Memory

def get (memory : Memory) (address : Nat) : UInt8 := Write.byteAt memory.writes address

instance : CoeFun Memory fun _ => Nat → UInt8 := ⟨get⟩

def write (memory : Memory) (start length : Nat) (bytes : Nat → UInt8) : Memory :=
  ⟨⟨start, length, bytes⟩ :: memory.writes⟩

def fill (memory : Memory) (start length : Nat) (byte : UInt8) : Memory :=
  memory.write start length fun _ => byte

def copy (memory : Memory) (source target length : Nat) : Memory :=
  memory.write target length fun i => memory (source + i)

def read (memory : Memory) (start length : Nat) : List UInt8 :=
  Write.bytesIn (length / 16).log2 memory.writes start length

theorem get_write (memory : Memory) (start length address : Nat) (bytes : Nat → UInt8) :
    memory.write start length bytes address =
      if start ≤ address ∧ address < start + length then bytes (address - start)
      else memory address := by
  simp [write, get, Write.byteAt, Write.covers]

theorem read_eq (memory : Memory) (start length : Nat) :
    memory.read start length = (List.range length).map fun i => memory (start + i) :=
  Write.bytesIn_eq ..

theorem write_inside (memory : Memory) {start length address : Nat} (bytes : Nat → UInt8)
    (low : start ≤ address) (high : address < start + length) :
    memory.write start length bytes address = bytes (address - start) := by
  rw [get_write, if_pos ⟨low, high⟩]

theorem write_outside (memory : Memory) {start length address : Nat} (bytes : Nat → UInt8)
    (outside : address < start ∨ start + length ≤ address) :
    memory.write start length bytes address = memory address := by
  rw [get_write, if_neg (by omega)]

theorem length_read (memory : Memory) (start length : Nat) :
    (memory.read start length).length = length := by
  simp [read_eq]

theorem read_write (memory : Memory) (start length : Nat) (bytes : Nat → UInt8) :
    (memory.write start length bytes).read start length = (List.range length).map bytes := by
  rw [read_eq]
  apply List.map_congr_left
  intro i member
  have bound := List.mem_range.mp member
  rw [write_inside memory bytes (Nat.le_add_right start i) (by omega), Nat.add_sub_cancel_left]

end Memory

namespace WordBytes

def byte (word i : Nat) : UInt8 := UInt8.ofNat (word / Nat.pow 256 i)

def value (bytes : List UInt8) : Nat := bytes.foldr (fun byte high => byte.toNat + 256 * high) 0

theorem byte_zero (word : Nat) : (byte word 0).toNat = word % 256 := by
  simp [byte]

theorem byte_succ (word i : Nat) : byte word (i + 1) = byte (word / 256) i := by
  simp [byte, Nat.pow_succ', Nat.div_div_eq_div_mul]

theorem value_bytes (word count : Nat) :
    value ((List.range count).map (byte word)) = word % Nat.pow 256 count := by
  induction count generalizing word with
  | zero => simp [value, Nat.mod_one]
  | succ count ih =>
    have shifted : (fun i => byte word (i + 1)) = byte (word / 256) := funext (byte_succ word)
    have high := ih (word / 256)
    simp only [value] at high
    simp only [value, List.range_succ_eq_map, List.map_cons, List.map_map, List.foldr_cons,
      Function.comp_def, Nat.succ_eq_add_one, shifted, high, byte_zero, Nat.pow_eq, Nat.pow_succ',
      Nat.mod_mul]

end WordBytes

end ArenaThreads
