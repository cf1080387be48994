import Mathlib
import StreamSource.Proofs.Protocol.Kinds

/-! Reads from memory. A read gives the bytes between two bounds, which are the position and the end
of what is asked for, each at most the end of the body; they can be found with words of 64 bits,
since the sum that the second needs is cut off there anyway. Reading piece by piece gives what one
read of the whole length gives, and a read from where a seek leads gives what a read from the
position gives. -/

namespace StreamSource

open ByteStream

namespace Bytes

variable (bs : Bytes)

theorem slice_eq_extract (position : UInt64) (length : Nat) :
    bs.slice position length =
      bs.extract (min position.toNat bs.length)
        (min (min position.toNat bs.length + length) bs.length) := by
  rw [slice, List.extract_eq_take_drop]
  by_cases hbeyond : bs.length ≤ position.toNat
  · rw [List.drop_of_length_le hbeyond, Nat.min_eq_right hbeyond, List.drop_length,
      List.take_nil, List.take_nil]
  · have hstart : min position.toNat bs.length = position.toNat := Nat.min_eq_left (by omega)
    have hlength : min length (bs.drop position.toNat).length =
        min (position.toNat + length) bs.length - position.toNat := by
      rw [List.length_drop]
      omega
    rw [hstart, ← hlength, ← List.take_eq_take_min]

/-- Where one slice ends the next one starts. -/
theorem slice_append_slice {p q : UInt64} {m n : Nat} (h : q.toNat = p.toNat + m) :
    bs.slice p m ++ bs.slice q n = bs.slice p (m + n) := by
  rw [slice, slice, slice, h, List.take_add, List.drop_drop]

theorem toNat_clamp (position : UInt64) :
    (bs.clamp position).toNat = min position.toNat bs.length := by
  have hposition := position.toNat_lt
  unfold clamp
  split
  next hbeyond =>
    have hword : bs.length < 2 ^ 64 := by omega
    rw [UInt64.toNat_ofNat_of_lt' hword]
    omega
  next hwithin => omega

theorem slice_clamp (position : UInt64) (length : Nat) :
    bs.slice (bs.clamp position) length = bs.slice position length := by
  rw [slice_eq_extract, slice_eq_extract, toNat_clamp, Nat.min_assoc, Nat.min_self]

/-! ### Bounds in words -/

/-- The sum of two words, or the greatest word where the sum is none. -/
def saturatingAdd (a b : UInt64) : UInt64 :=
  if a.toNat + b.toNat < 2 ^ 64 then a + b else UInt64.ofNat (2 ^ 64 - 1)

/-- The index of the first byte of a read, in a body of this size. -/
def readStart (size position : UInt64) : UInt64 := min position size

/-- The index behind the last byte of a read. -/
def readStop (size position length : UInt64) : UInt64 :=
  min (saturatingAdd (readStart size position) length) size

theorem toNat_saturatingAdd (a b : UInt64) :
    (saturatingAdd a b).toNat = min (a.toNat + b.toNat) (2 ^ 64 - 1) := by
  unfold saturatingAdd
  split
  next hfits =>
    rw [UInt64.toNat_add, Nat.mod_eq_of_lt hfits]
    omega
  next hbeyond =>
    rw [UInt64.toNat_ofNat_of_lt' (by decide)]
    omega

theorem toNat_readStart (size position : UInt64) :
    (readStart size position).toNat = min position.toNat size.toNat :=
  UInt64.toNat_min position size

/-- The sum is not seen to be cut off, since no body is longer than the greatest word. -/
theorem toNat_readStop (size position length : UInt64) :
    (readStop size position length).toNat =
      min ((readStart size position).toNat + length.toNat) size.toNat := by
  have hsize := size.toNat_lt
  rw [readStop, UInt64.toNat_min, toNat_saturatingAdd]
  omega

theorem readStart_le_readStop (size position length : UInt64) :
    readStart size position ≤ readStop size position length := by
  rw [UInt64.le_iff_toNat_le, toNat_readStop, toNat_readStart]
  omega

theorem readStop_le_size (size position length : UInt64) :
    readStop size position length ≤ size := by
  rw [UInt64.le_iff_toNat_le, toNat_readStop]
  exact Nat.min_le_right _ _

end Bytes

namespace MemoryProtocol

open Bytes (readStart readStop)

variable {p : MemoryProtocol}

theorem read_of_isOpen (h : p.isOpen = true) (position : UInt64) (length : Nat) :
    ByteStream.read position length p = (.ok (p.body.slice position length), p) := by
  rw [read_eq, if_pos h]

/-- Reads one after the other, each from where the one before it ends. -/
def inPieces (position : UInt64) : List Nat → List StreamStep
  | [] => []
  | n :: ns => .read position n :: inPieces (position + UInt64.ofNat n) ns

theorem exists_pieces (h : p.isOpen = true) {position : UInt64} {ns : List Nat}
    (hfits : position.toNat + ns.sum < 2 ^ 64) :
    ∃ pieces : List Bytes, answers p (inPieces position ns) = pieces.map .bytes ∧
      after p (inPieces position ns) = p ∧ pieces.flatten = p.body.slice position ns.sum := by
  -- the sum of all lengths is within words, so no position of a piece wraps around
  induction ns generalizing position with
  | nil => exact ⟨[], rfl, rfl, rfl⟩
  | cons n ns ih =>
    rw [List.sum_cons] at hfits
    have hword : n < 2 ^ 64 := by omega
    have hnext : (position + UInt64.ofNat n).toNat = position.toNat + n := by
      rw [UInt64.toNat_add, UInt64.toNat_ofNat_of_lt' hword]
      exact Nat.mod_eq_of_lt (by omega)
    have hrest : (position + UInt64.ofNat n).toNat + ns.sum < 2 ^ 64 := by omega
    obtain ⟨pieces, hanswers, hafter, hflatten⟩ := ih hrest
    have hstep : step p (.read position n) = (.bytes (p.body.slice position n), p) := by
      rw [step_read, read_of_isOpen h]
      rfl
    refine ⟨p.body.slice position n :: pieces, ?_, ?_, ?_⟩
    · rw [inPieces, answers, hstep, hanswers, List.map_cons]
    · rw [inPieces, after_cons, hstep, hafter]
    · rw [List.flatten_cons, hflatten, Bytes.slice_append_slice _ hnext, List.sum_cons]

/-- An open protocol answers reads of neighbouring pieces with the parts of what it answers to one
read of them all. A read gives the bytes from the position, or the end of the body if this comes
first, over the length, or to the end; words of 64 bits hold both bounds, and these are in order and
within the body. A read does not show whether its position was sought first. -/
theorem read_in_pieces_and_bounds (h : p.isOpen = true) :
    (∀ (position : UInt64) (ns : List Nat), position.toNat + ns.sum < 2 ^ 64 →
      ∃ pieces : List Bytes, answers p (inPieces position ns) = pieces.map .bytes ∧
        after p (inPieces position ns) = p ∧
        ByteStream.read position ns.sum p = (.ok pieces.flatten, p)) ∧
    (∀ (position : UInt64) (length : Nat), ByteStream.read position length p =
      (.ok (p.body.extract (min position.toNat p.body.length)
        (min (min position.toNat p.body.length + length) p.body.length)), p)) ∧
    (∀ size position length : UInt64, p.body.length = size.toNat →
      readStart size position ≤ readStop size position length ∧
      readStop size position length ≤ size ∧
      (readStop size position length).toNat =
        min ((readStart size position).toNat + length.toNat) size.toNat ∧
      ByteStream.read position length.toNat p =
        (.ok (p.body.extract (readStart size position).toNat
          (readStop size position length).toNat), p)) ∧
    ∀ (position : UInt64) (length : Nat), ∃ target, ByteStream.seek position p = (.ok target, p) ∧
      ByteStream.read target length p = ByteStream.read position length p := by
  refine ⟨fun position ns hfits => ?_, fun position length => ?_,
    fun size position length hsize => ⟨Bytes.readStart_le_readStop size position length,
      Bytes.readStop_le_size size position length, Bytes.toNat_readStop size position length, ?_⟩,
    fun position length => ⟨p.body.clamp position, rfl, ?_⟩⟩
  · obtain ⟨pieces, hanswers, hafter, hflatten⟩ := exists_pieces h hfits
    exact ⟨pieces, hanswers, hafter, by rw [read_of_isOpen h, hflatten]⟩
  · rw [read_of_isOpen h, Bytes.slice_eq_extract]
  · rw [read_of_isOpen h, Bytes.slice_eq_extract, hsize, Bytes.toNat_readStop,
      Bytes.toNat_readStart]
  · rw [read_of_isOpen h, read_of_isOpen h, Bytes.slice_clamp]

/-- A protocol that was opened, with six bytes to read. -/
def sixBytes : MemoryProtocol :=
  (ByteStream.openUrl "mem://six"
    { name := "memory", schemes := ["mem"], body := [10, 11, 12, 13, 14, 15] : MemoryProtocol }).2

/-- The last piece goes beyond the end of the body. -/
theorem read_sixBytes_in_pieces :
    sixBytes.isOpen = true ∧ (2 : UInt64).toNat + [3, 0, 10].sum < 2 ^ 64 ∧
      ∃ pieces : List Bytes, answers sixBytes (inPieces 2 [3, 0, 10]) = pieces.map .bytes ∧
        after sixBytes (inPieces 2 [3, 0, 10]) = sixBytes ∧
        ByteStream.read 2 13 sixBytes = (.ok pieces.flatten, sixBytes) := by
  have hopen : sixBytes.isOpen = true := rfl
  have hfits : (2 : UInt64).toNat + [3, 0, 10].sum < 2 ^ 64 := by decide
  exact ⟨hopen, hfits, (read_in_pieces_and_bounds hopen).1 2 [3, 0, 10] hfits⟩

end MemoryProtocol

end StreamSource
