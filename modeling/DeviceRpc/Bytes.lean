/-!
# Bytes and little-endian words

A frame, a carrier and a payload are lists of bytes. The two views every codec
of this library is built from stand here: a run of bytes as a number, least
significant byte first, and the window of a byte string that starts at an
offset. Writing a number and reading it back loses nothing that fits
(`toNat_ofNat`); a window that has just been written reads as what was written
(`window_splice`).
-/

namespace DeviceRpc

/-- A byte string. -/
abbrev Bytes := List UInt8

namespace Bytes

/-- The `n` low bytes of a number, least significant first. -/
def ofNat : (n : Nat) → Nat → Bytes
  | 0, _ => []
  | n + 1, v => UInt8.ofNat v :: ofNat n (v / 256)

/-- The number that the bytes spell, least significant first. -/
def toNat : Bytes → Nat
  | [] => 0
  | b :: bs => b.toNat + 256 * toNat bs

@[simp] theorem length_ofNat (n v : Nat) : (ofNat n v).length = n := by
  induction n generalizing v with
  | zero => rfl
  | succ n ih => simp [ofNat, ih]

theorem toNat_ofNat (n v : Nat) : toNat (ofNat n v) = v % Nat.pow 256 n := by
  induction n generalizing v with
  | zero => simp [ofNat, toNat, Nat.mod_one]
  | succ n ih =>
    have low : (UInt8.ofNat v).toNat = v % 256 := by simp
    have step : Nat.pow 256 (n + 1) = 256 * Nat.pow 256 n := Nat.mul_comm _ _
    rw [ofNat, toNat, ih, low, step, Nat.mod_mul]

/-- The `n` bytes from offset `off` on, fewer where the string ends. -/
def window (off n : Nat) (bs : Bytes) : Bytes := (bs.drop off).take n

/-- The string with `new` written over what stood from offset `off` on. -/
def splice (off : Nat) (new bs : Bytes) : Bytes :=
  bs.take off ++ new ++ bs.drop (off + new.length)

theorem length_splice {off : Nat} {new bs : Bytes} (h : off + new.length ≤ bs.length) :
    (splice off new bs).length = bs.length := by
  simp only [splice, List.length_append, List.length_take, List.length_drop]
  omega

theorem window_splice {off : Nat} {new bs : Bytes} (h : off ≤ bs.length) :
    window off new.length (splice off new bs) = new := by
  simp [window, splice, Nat.min_eq_left h]

/-- The string grown with zeros to at least `n` bytes. -/
def grow (n : Nat) (bs : Bytes) : Bytes :=
  bs ++ List.replicate (n - bs.length) 0

theorem length_grow (n : Nat) (bs : Bytes) : (grow n bs).length = max bs.length n := by
  simp only [grow, List.length_append, List.length_replicate]
  omega

/-- The bytes before the first zero, all of them when there is none. -/
def untilZero (bs : Bytes) : Bytes := bs.takeWhile (· ≠ 0)

end Bytes

end DeviceRpc
