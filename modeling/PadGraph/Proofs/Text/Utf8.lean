import Mathlib.Algebra.Group.Nat.Defs
import Mathlib.Data.List.Flatten
import PadGraph.Text.Utf8

/-!
# Bytes and texts

Reading the bytes of a text gives the text back, and nothing else is read as a text. Both rest on one
description of a character by its number: a first byte that tells how many bytes follow, and six bits
in each of those.

* `firstByte`, `tailCount`, `continuations`, `encodeChar_ofNat` — the bytes of a character by its
  number.
* `Unfinished.Awaits`, `first?_spec` — the numbers that a character may still have of which some
  bytes have been read.
* `decodeFrom_continuations`, `decodeFrom_encode` — the bytes of a text are read as the text.
* `Unfinished.Follows`, `encode_of_decodeFrom` — what has been read are the first bytes of every
  character that may come of it.
* **`decode_eq_ok_iff`** — bytes are read as a text exactly when they are the bytes of the text.
* `length_encode`, `byteLength_le_of_sublist` — how many bytes a text takes.
-/

namespace PadGraph

namespace Utf8

/-! ### The bytes of a character by its number -/

/-- How many bytes follow the first byte of the character with a given number. -/
def tailCount (n : Nat) : Nat :=
  if n < 0x80 then 0 else if n < 0x800 then 1 else if n < 0x10000 then 2 else 3

/-- What is added to the first byte of a character to tell how many bytes follow. -/
def leadMark : (count : Nat) → Nat
  | 0 => 0
  | 1 => 0xC0
  | 2 => 0xE0
  | _ => 0xF0

/-- The number of the first byte of the character with a given number. -/
def firstByte (n : Nat) : Nat := leadMark (tailCount n) + n / 0x40 ^ tailCount n

/-- The last `count` bytes of the character with a given number, each with six bits of it. -/
def continuations (n : Nat) : (count : Nat) → List UInt8
  | 0 => []
  | count + 1 => (0x80 + n / 0x40 ^ count % 0x40).toUInt8 :: continuations n count

theorem encodeChar_eq (c : Char) :
    encodeChar c =
      (firstByte c.toNat).toUInt8 :: continuations c.toNat (tailCount c.toNat) := by
  simp only [encodeChar, firstByte, tailCount]
  split
  · simp [leadMark, continuations]
  split
  · simp [leadMark, continuations]
  split
  · simp [leadMark, continuations]
  · simp [leadMark, continuations]

theorem encodeChar_ofNat {n : Nat} (h : n.isValidChar) :
    encodeChar (Char.ofNat n) = (firstByte n).toUInt8 :: continuations n (tailCount n) := by
  have hnumber : (Char.ofNat n).toNat = n := by
    rw [Char.ofNat, dif_pos h]
    rfl
  rw [encodeChar_eq, hnumber]

/-- The four lengths of a character. -/
theorem firstByte_cases (n : Nat) :
    (n < 0x80 ∧ tailCount n = 0 ∧ firstByte n = n) ∨
    (0x80 ≤ n ∧ n < 0x800 ∧ tailCount n = 1 ∧ firstByte n = 0xC0 + n / 0x40) ∨
    (0x800 ≤ n ∧ n < 0x10000 ∧ tailCount n = 2 ∧ firstByte n = 0xE0 + n / 0x1000) ∨
    (0x10000 ≤ n ∧ tailCount n = 3 ∧ firstByte n = 0xF0 + n / 0x40000) := by
  by_cases h1 : n < 0x80
  · simp [firstByte, tailCount, leadMark, h1]
  by_cases h2 : n < 0x800
  · simp [firstByte, tailCount, leadMark, h1, h2]
    omega
  by_cases h3 : n < 0x10000
  · simp [firstByte, tailCount, leadMark, h1, h2, h3]
    omega
  · simp [firstByte, tailCount, leadMark, h1, h2, h3]
    omega

theorem firstByte_lt {n : Nat} (h : n.isValidChar) : firstByte n < 256 := by
  have hcases := firstByte_cases n
  simp only [Nat.isValidChar] at h
  omega

theorem toNat_toUInt8 {n : Nat} (h : n < 256) : n.toUInt8.toNat = n := by
  show n % 2 ^ 8 = n
  omega

/-! ### What may come of the bytes read -/

/-- Whether the character being read may turn out to have the number `n`: what has been read are the
first bits of `n`, and the next ones are among those that may follow. -/
def Unfinished.Awaits (u : Unfinished) (n : Nat) : Prop :=
  n / 0x40 ^ (u.owed + 1) = u.bits ∧
    u.low ≤ 0x80 + n / 0x40 ^ u.owed % 0x40 ∧ 0x80 + n / 0x40 ^ u.owed % 0x40 ≤ u.high

/-- **What a first byte starts.** The characters that may come of it are those of which it is the
first byte, and any byte that may follow has the mark of a continuation. -/
theorem first?_spec {index byte : Nat} {u : Unfinished} (h : first? index byte = some u) :
    0x80 ≤ u.low ∧ u.high ≤ 0xBF ∧
      ∀ n, u.Awaits n ↔ n.isValidChar ∧ firstByte n = byte ∧ tailCount n = u.owed + 1 := by
  simp only [first?] at h
  repeat' split at h
  all_goals
    first
    | obtain rfl := Option.some.inj h
    | cases h
  all_goals
    refine ⟨by simp, by simp, fun n => ?_⟩
    have hcases := firstByte_cases n
    simp only [Unfinished.Awaits, Nat.isValidChar, Nat.reduceAdd, Nat.reducePow, Nat.div_one]
    omega

/-- The first byte of a character that has more of them starts a character with as many. -/
theorem exists_first {n : Nat} (hn : n.isValidChar) (hcount : tailCount n ≠ 0) (index : Nat) :
    ∃ u, first? index (firstByte n) = some u ∧ u.owed + 1 = tailCount n ∧ u.Awaits n := by
  have hcases := firstByte_cases n
  have howed : ∃ u, first? index (firstByte n) = some u ∧ u.owed + 1 = tailCount n := by
    simp only [Nat.isValidChar] at hn
    simp only [first?]
    repeat' split
    all_goals
      first
      | (refine ⟨_, rfl, ?_⟩; simp only; omega)
      | omega
  obtain ⟨u, hu, howed⟩ := howed
  obtain ⟨-, -, hawaits⟩ := first?_spec hu
  exact ⟨u, hu, howed, (hawaits n).mpr ⟨hn, rfl, howed.symm⟩⟩

/-- The byte that an awaited number has next may follow, and it gives the next six bits. -/
theorem Unfinished.Awaits.next_byte {u : Unfinished} {n : Nat} (h : u.Awaits n) :
    (0x80 + n / 0x40 ^ u.owed % 0x40).toUInt8.toNat = 0x80 + n / 0x40 ^ u.owed % 0x40 ∧
      u.bits * 0x40 + (0x80 + n / 0x40 ^ u.owed % 0x40 - 0x80) = n / 0x40 ^ u.owed := by
  have hbits : n / 0x40 ^ u.owed / 0x40 = u.bits := by
    rw [Nat.div_div_eq_div_mul, ← Nat.pow_succ]
    exact h.1
  exact ⟨toNat_toUInt8 (by omega), by omega⟩

/-! ### The bytes of a text are read -/

/-- The bytes that an unfinished character awaits finish it. -/
theorem decodeFrom_continuations {n : Nat} (u : Unfinished) (h : u.Awaits n) (index : Nat)
    (rest : List UInt8) :
    decodeFrom index (some u) (continuations n (u.owed + 1) ++ rest) =
      (decodeFrom (index + u.owed + 1) none rest).map (Char.ofNat n :: ·) := by
  obtain ⟨start, seen, owed, bits, low, high⟩ := u
  induction owed generalizing index seen bits low high with
  | zero =>
      obtain ⟨hbyte, hbits⟩ := h.next_byte
      obtain ⟨-, hlow, hhigh⟩ := h
      simp only [Nat.pow_zero, Nat.div_one] at hbyte hbits hlow hhigh
      simp only [continuations, List.cons_append, List.nil_append, decodeFrom, Unfinished.next,
        Nat.pow_zero, Nat.div_one, hbyte, hbits, hlow, hhigh, and_self, if_true]
  | succ owed ih =>
      obtain ⟨hbyte, hbits⟩ := h.next_byte
      obtain ⟨-, hlow, hhigh⟩ := h
      have hrest : Unfinished.Awaits
          ⟨start, seen + 1, owed, n / 0x40 ^ (owed + 1), 0x80, 0xBF⟩ n := by
        refine ⟨rfl, ?_, ?_⟩
        · show 0x80 ≤ 0x80 + n / 0x40 ^ owed % 0x40
          omega
        · show 0x80 + n / 0x40 ^ owed % 0x40 ≤ 0xBF
          omega
      rw [continuations, List.cons_append, decodeFrom]
      simp only [Unfinished.next, hbyte, hbits, hlow, hhigh, and_self, if_true]
      refine (ih (index + 1) (seen + 1) _ _ _ hrest).trans ?_
      show (decodeFrom (index + 1 + owed + 1) none rest).map _ = _
      rw [show index + 1 + owed + 1 = index + (owed + 1) + 1 by omega]

theorem isValidChar_toNat (c : Char) : c.toNat.isValidChar := c.valid

/-- The bytes of a character are read as the character. -/
theorem decodeFrom_encodeChar (c : Char) (index : Nat) (rest : List UInt8) :
    decodeFrom index none (encodeChar c ++ rest) =
      (decodeFrom (index + (tailCount c.toNat + 1)) none rest).map (c :: ·) := by
  have hvalid := isValidChar_toNat c
  have hbyte := toNat_toUInt8 (firstByte_lt hvalid)
  rw [encodeChar_eq, List.cons_append, decodeFrom]
  simp only [start, hbyte]
  by_cases hcount : tailCount c.toNat = 0
  · have hcases := firstByte_cases c.toNat
    have hfirst : firstByte c.toNat = c.toNat := by omega
    rw [hcount, hfirst, if_pos (by omega), Char.ofNat_toNat]
    rfl
  · obtain ⟨u, hu, howed, hawaits⟩ := exists_first hvalid hcount index
    have hcases := firstByte_cases c.toNat
    rw [if_neg (by omega), hu, ← howed]
    refine (decodeFrom_continuations u hawaits (index + 1) rest).trans ?_
    rw [Char.ofNat_toNat, show index + 1 + u.owed + 1 = index + (u.owed + 1 + 1) by omega]

theorem decodeFrom_encode (text : Text) (index : Nat) :
    decodeFrom index none (encode text) = .ok text := by
  induction text generalizing index with
  | nil => rfl
  | cons c text ih =>
      show decodeFrom index none (encodeChar c ++ encode text) = .ok (c :: text)
      rw [decodeFrom_encodeChar, ih]
      rfl

/-! ### Nothing else is read -/

/-- What has been read are the first bytes of every character that may come of it. -/
structure Unfinished.Follows (u : Unfinished) (front : List UInt8) : Prop where
  low_le : 0x80 ≤ u.low
  high_le : u.high ≤ 0xBF
  encode_eq : ∀ n, u.Awaits n →
    n.isValidChar ∧ encodeChar (Char.ofNat n) = front ++ continuations n (u.owed + 1)

theorem follows_of_first? {index : Nat} {byte : UInt8} {u : Unfinished}
    (h : first? index byte.toNat = some u) : u.Follows [byte] := by
  obtain ⟨hlow, hhigh, hawaits⟩ := first?_spec h
  refine ⟨hlow, hhigh, ?_⟩
  intro n hn
  obtain ⟨hvalid, hfirst, hcount⟩ := (hawaits n).mp hn
  refine ⟨hvalid, ?_⟩
  rw [encodeChar_ofNat hvalid, hfirst, hcount]
  simp

namespace Unfinished

variable {u u' : Unfinished} {front : List UInt8} {byte : UInt8}

/-- Of the numbers that have the bits of a byte that may follow, this byte is the next one. -/
theorem Follows.awaits_of_byte (h : u.Follows front) (hlow : u.low ≤ byte.toNat)
    (hhigh : byte.toNat ≤ u.high) {n : Nat}
    (hn : n / 0x40 ^ u.owed = u.bits * 0x40 + (byte.toNat - 0x80)) :
    u.Awaits n ∧ continuations n (u.owed + 1) = byte :: continuations n u.owed := by
  have h1 := h.low_le
  have h2 := h.high_le
  have hbyte : 0x80 + n / 0x40 ^ u.owed % 0x40 = byte.toNat := by omega
  refine ⟨⟨?_, by omega, by omega⟩, ?_⟩
  · rw [Nat.pow_succ, ← Nat.div_div_eq_div_mul, hn]
    omega
  · rw [continuations, hbyte]
    simp

/-- The last byte of a character. -/
theorem Follows.encodeChar_of_next (h : u.Follows front) {c : Char}
    (hc : u.next byte.toNat = .character c) : encodeChar c = front ++ [byte] := by
  rw [Unfinished.next] at hc
  split at hc
  · next hbyte =>
    obtain ⟨start, seen, owed, bits, low, high⟩ := u
    cases owed with
    | succ owed => cases hc
    | zero =>
        obtain rfl := Next.character.inj hc
        obtain ⟨hawaits, hcontinuations⟩ :=
          h.awaits_of_byte hbyte.1 hbyte.2 (n := bits * 0x40 + (byte.toNat - 0x80)) (by simp)
        obtain ⟨-, hencode⟩ := h.encode_eq _ hawaits
        rw [hencode, hcontinuations]
        rfl
  · cases hc

/-- Any other byte of a character. -/
theorem Follows.next (h : u.Follows front) (hu : u.next byte.toNat = .unfinished u') :
    u'.Follows (front ++ [byte]) := by
  rw [Unfinished.next] at hu
  split at hu
  · next hbyte =>
    obtain ⟨start, seen, owed, bits, low, high⟩ := u
    cases owed with
    | zero => cases hu
    | succ owed =>
        obtain rfl := Next.unfinished.inj hu
        refine ⟨Nat.le_refl 0x80, Nat.le_refl 0xBF, ?_⟩
        intro n hn
        obtain ⟨hawaits, hcontinuations⟩ := h.awaits_of_byte hbyte.1 hbyte.2 hn.1
        obtain ⟨hvalid, hencode⟩ := h.encode_eq n hawaits
        refine ⟨hvalid, ?_⟩
        rw [hencode, hcontinuations, List.append_assoc, List.singleton_append]
  · cases hu

end Unfinished

/-- A byte between characters that is one on its own. -/
theorem encodeChar_of_start {index : Nat} {byte : UInt8} {c : Char}
    (h : start index byte.toNat = .character c) : encodeChar c = [byte] := by
  rw [start] at h
  split at h
  · next hbyte =>
    obtain rfl := Next.character.inj h
    have hvalid : byte.toNat.isValidChar := .inl (by omega)
    have hcases := firstByte_cases byte.toNat
    have hcount : tailCount byte.toNat = 0 := by omega
    have hfirst : firstByte byte.toNat = byte.toNat := by omega
    rw [encodeChar_ofNat hvalid, hcount, hfirst, continuations]
    simp
  · split at h <;> cases h

theorem follows_of_start {index : Nat} {byte : UInt8} {u : Unfinished}
    (h : start index byte.toNat = .unfinished u) : u.Follows [byte] := by
  rw [start] at h
  split at h
  · cases h
  · split at h
    · next hu =>
      obtain rfl := Next.unfinished.inj h
      exact follows_of_first? hu
    · cases h

/-- What has been read since the last character: nothing, or the first bytes of one. -/
def Reads (unfinished : Option Unfinished) (front : List UInt8) : Prop :=
  match unfinished with
  | none => front = []
  | some u => u.Follows front

/-- The next byte ends a character or is one more byte of it, unless it is refused. -/
theorem exists_next_of_reads {unfinished : Option Unfinished} {front : List UInt8}
    (h : Reads unfinished front) (index : Nat) (byte : UInt8) (bytes : List UInt8) :
    ∃ next : Next,
      decodeFrom index unfinished (byte :: bytes) =
        (match next with
        | .character c => (decodeFrom (index + 1) none bytes).map (c :: ·)
        | .unfinished u => decodeFrom (index + 1) (some u) bytes
        | .refused fault => .error fault) ∧
      (∀ c, next = .character c → encodeChar c = front ++ [byte]) ∧
      ∀ u, next = .unfinished u → u.Follows (front ++ [byte]) := by
  cases unfinished with
  | none =>
      rw [show front = [] from h]
      exact ⟨_, rfl, fun _ => encodeChar_of_start, fun _ => follows_of_start⟩
  | some u => exact ⟨_, rfl, fun _ => h.encodeChar_of_next, fun _ => h.next⟩

/-- What is read as a text are the bytes of the text, behind those that were read before. -/
theorem encode_of_decodeFrom {bytes front : List UInt8} {text : Text} {index : Nat}
    {unfinished : Option Unfinished} (hfront : Reads unfinished front)
    (h : decodeFrom index unfinished bytes = .ok text) : encode text = front ++ bytes := by
  induction bytes generalizing index unfinished front text with
  | nil =>
      cases unfinished with
      | none =>
          obtain rfl := Except.ok.inj h
          rw [show front = [] from hfront]
          rfl
      | some u => cases h
  | cons byte bytes ih =>
      obtain ⟨next, hnext, hcharacter, hunfinished⟩ := exists_next_of_reads hfront index byte bytes
      rw [hnext] at h
      cases next with
      | character c =>
          obtain ⟨rest, hrest, rfl⟩ : ∃ rest, decodeFrom (index + 1) none bytes = .ok rest ∧
              c :: rest = text := by
            cases hdecode : decodeFrom (index + 1) none bytes with
            | ok rest => exact ⟨rest, rfl, by simpa [hdecode, Except.map] using h⟩
            | error fault => simp [hdecode, Except.map] at h
          have hnone : Reads none [] := rfl
          have hbytes : encode rest = [] ++ bytes := ih hnone hrest
          show encodeChar c ++ encode rest = front ++ byte :: bytes
          rw [hcharacter c rfl, hbytes]
          simp
      | unfinished u =>
          have hmore : Reads (some u) (front ++ [byte]) := hunfinished u rfl
          rw [ih hmore h]
          simp
      | refused fault => cases h

/-- **Bytes and texts.** Bytes are read as a text exactly when they are the bytes of the text. -/
theorem decode_eq_ok_iff {bytes : List UInt8} {text : Text} :
    decode bytes = .ok text ↔ encode text = bytes := by
  constructor
  · intro h
    have hnone : Reads none [] := rfl
    exact encode_of_decodeFrom hnone h
  · intro h
    rw [← h]
    exact decodeFrom_encode text 0

/-! ### How many bytes a text takes -/

theorem length_continuations (n count : Nat) : (continuations n count).length = count := by
  induction count with
  | zero => rfl
  | succ count ih => rw [continuations, List.length_cons, ih]

theorem length_encodeChar (c : Char) : (encodeChar c).length = c.utf8Size := by
  have hsize : c.utf8Size = if c.toNat ≤ 127 then 1 else if c.toNat ≤ 2047 then 2 else
      if c.toNat ≤ 65535 then 3 else 4 := by
    simp only [Char.utf8Size, UInt32.le_iff_toNat_le]
    rfl
  have hcases := firstByte_cases c.toNat
  rw [encodeChar_eq, List.length_cons, length_continuations, hsize]
  repeat' split
  all_goals omega

theorem length_encode (text : Text) : (encode text).length = byteLength text := by
  suffices h : ∀ n, text.foldl (fun n c => n + c.utf8Size) n = n + (encode text).length by
    rw [byteLength, h, Nat.zero_add]
  induction text with
  | nil =>
      intro n
      rfl
  | cons c text ih =>
      intro n
      show text.foldl _ (n + c.utf8Size) = n + (encodeChar c ++ encode text).length
      rw [ih, List.length_append, length_encodeChar, Nat.add_assoc]

/-- A text without some of its characters takes no more bytes. -/
theorem byteLength_le_of_sublist {kept text : Text} (h : kept.Sublist text) :
    byteLength kept ≤ byteLength text := by
  have hbytes : (encode kept).Sublist (encode text) := h.flatMap encodeChar
  rw [← length_encode, ← length_encode]
  exact hbytes.length_le

end Utf8

end PadGraph
