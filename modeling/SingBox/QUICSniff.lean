import Mathlib

/-!
# The QUIC Initial sniffer after decryption

`common/sniff/quic.go`, from the decrypted payload of an Initial packet on. The Initial
keys come from the packet's public destination connection id, so whoever sends the
packet chooses the payload: here it is any byte string. The frame loop reads it with a
`bytes.Reader`, keeps the CRYPTO frames as fragments, and then the `find` loop writes
the fragments into one buffer, starting at offset 0 and going on at the end of each
fragment it writes, until no fragment starts there. The buffer goes to `ja3.Compute`,
which is not modelled.

`decrypted` is a slice into the packet copy, so slicing it may go past its length up to
its capacity: `spare` are the bytes after it there (the AEAD tag and what follows the
packet), and a CRYPTO frame longer than what is left of both panics.

The `find` loop is modelled with fuel. It ends when every fragment has a length
(`reassemble_terminates`), and runs forever as soon as it reaches an empty fragment
(`reassemble_of_empty`).
-/

namespace SingBox

/-- `qCryptoFragment`. -/
structure QCryptoFragment where
  offset : Nat
  length : Nat
  payload : List UInt8
deriving DecidableEq, Repr

namespace QUICSniff

/-- A big-endian number. -/
def bigEndian (bytes : List UInt8) : Nat :=
  bytes.foldl (fun acc b => acc * 256 + b.toNat) 0

/-- `qtls.ReadUvarint` over the bytes a reader has left: the two top bits of the first
byte give the length, 1, 2, 4 or 8 bytes, and the rest is the big-endian value; `none`
is a short read. -/
def readUvarint : List UInt8 → Option (Nat × List UInt8)
  | [] => none
  | first :: rest =>
    let len := 2 ^ ((first &&& 0xc0) >>> 6).toNat
    if len - 1 ≤ rest.length then
      some (bigEndian ((first &&& 0x3f) :: rest.take (len - 1)), rest.drop (len - 1))
    else none

/-- The `Gap` and `ACK Range Length` pairs of an ACK frame. -/
def readAckRanges : Nat → List UInt8 → Option (List UInt8)
  | 0, rest => some rest
  | count + 1, rest =>
    match readUvarint rest with
    | none => none
    | some (_, rest) =>
      match readUvarint rest with
      | none => none
      | some (_, rest) => readAckRanges count rest

/-- `n` varints read and dropped. -/
def skipUvarints : Nat → List UInt8 → Option (List UInt8)
  | 0, rest => some rest
  | n + 1, rest =>
    match readUvarint rest with
    | none => none
    | some (_, rest) => skipUvarints n rest

/-- An ACK frame after its type: Largest Acknowledged, ACK Delay, ACK Range Count,
First ACK Range, the ranges, and for type 0x03 the three ECN counts. -/
def readAck (ecn : Bool) (rest : List UInt8) : Option (List UInt8) :=
  match skipUvarints 2 rest with
  | none => none
  | some rest =>
    match readUvarint rest with
    | none => none
    | some (ackRangeCount, rest) =>
      match skipUvarints 1 rest with
      | none => none
      | some rest =>
        match readAckRanges ackRangeCount rest with
        | none => none
        | some rest => if ecn then skipUvarints 3 rest else some rest

/-- What the frame loop ends with. -/
inductive FrameOutcome where
  | ok (fragments : List QCryptoFragment) (frameTypes : List UInt8)
  | error
  | panic
deriving DecidableEq, Repr

theorem length_of_readUvarint {rest rest' : List UInt8} {v : Nat}
    (h : readUvarint rest = some (v, rest')) : rest'.length < rest.length := by
  cases rest with
  | nil => cases h
  | cons first rest =>
    simp only [readUvarint] at h
    split_ifs at h
    cases h
    simp only [List.length_drop, List.length_cons]
    omega

theorem length_of_skipUvarints {n : Nat} {rest rest' : List UInt8}
    (h : skipUvarints n rest = some rest') : rest'.length ≤ rest.length := by
  induction n generalizing rest with
  | zero =>
    cases h
    exact le_refl _
  | succ n ih =>
    rcases h₁ : readUvarint rest with _ | ⟨v, rest₁⟩
    · simp [skipUvarints, h₁] at h
    · simp only [skipUvarints, h₁] at h
      exact (ih h).trans (length_of_readUvarint h₁).le

theorem length_of_readAckRanges {count : Nat} {rest rest' : List UInt8}
    (h : readAckRanges count rest = some rest') : rest'.length ≤ rest.length := by
  induction count generalizing rest with
  | zero =>
    cases h
    exact le_refl _
  | succ count ih =>
    rcases h₁ : readUvarint rest with _ | ⟨v₁, rest₁⟩
    · simp [readAckRanges, h₁] at h
    · rcases h₂ : readUvarint rest₁ with _ | ⟨v₂, rest₂⟩
      · simp [readAckRanges, h₁, h₂] at h
      · simp only [readAckRanges, h₁, h₂] at h
        exact (ih h).trans ((length_of_readUvarint h₂).trans (length_of_readUvarint h₁)).le

theorem length_of_readAck {ecn : Bool} {rest rest' : List UInt8}
    (h : readAck ecn rest = some rest') : rest'.length ≤ rest.length := by
  rcases h₁ : skipUvarints 2 rest with _ | rest₁
  · simp [readAck, h₁] at h
  rcases h₂ : readUvarint rest₁ with _ | ⟨count, rest₂⟩
  · simp [readAck, h₁, h₂] at h
  rcases h₃ : skipUvarints 1 rest₂ with _ | rest₃
  · simp [readAck, h₁, h₂, h₃] at h
  rcases h₄ : readAckRanges count rest₃ with _ | rest₄
  · simp [readAck, h₁, h₂, h₃, h₄] at h
  have hle : rest₄.length ≤ rest.length :=
    ((length_of_readAckRanges h₄).trans (length_of_skipUvarints h₃)).trans
      ((length_of_readUvarint h₂).le.trans (length_of_skipUvarints h₁))
  simp only [readAck, h₁, h₂, h₃, h₄] at h
  cases ecn
  · cases h
    exact hle
  · exact (length_of_skipUvarints h).trans hle

/-- The frame loop of `QUICClientHello` over the bytes the reader has left of
`decrypted`, with the fragments and frame types so far. -/
def readFrames (decrypted spare : List UInt8) (fragments : List QCryptoFragment)
    (frameTypes : List UInt8) : List UInt8 → FrameOutcome
  | [] => .ok fragments frameTypes
  | frameType :: rest =>
    let frameTypes := frameTypes ++ [frameType]
    -- PADDING and PING
    if frameType = 0x00 ∨ frameType = 0x01 then
      readFrames decrypted spare fragments frameTypes rest
    -- ACK
    else if frameType = 0x02 ∨ frameType = 0x03 then
      match h : readAck (frameType == 0x03) rest with
      | none => .error
      | some rest' =>
        have : rest'.length ≤ rest.length := length_of_readAck h
        readFrames decrypted spare fragments frameTypes rest'
    -- CRYPTO: `decrypted[index : index+int(length)]`, then `Seek(length)`
    else if frameType = 0x06 then
      match h₁ : readUvarint rest with
      | none => .error
      | some (offset, rest₁) =>
        match h₂ : readUvarint rest₁ with
        | none => .error
        | some (length, rest₂) =>
          let index := decrypted.length - rest₂.length
          if index + length > decrypted.length + spare.length then .panic
          else
            have : rest₂.length < rest.length :=
              (length_of_readUvarint h₂).trans (length_of_readUvarint h₁)
            readFrames decrypted spare
              (fragments ++ [⟨offset, length, ((decrypted ++ spare).drop index).take length⟩])
              frameTypes (rest₂.drop length)
    -- CONNECTION_CLOSE: Error Code, Frame Type, Reason Phrase Length, `Seek(length)`
    else if frameType = 0x1c then
      match h₁ : skipUvarints 2 rest with
      | none => .error
      | some rest₁ =>
        match h₂ : readUvarint rest₁ with
        | none => .error
        | some (length, rest₂) =>
          have : rest₂.length < rest.length :=
            (length_of_readUvarint h₂).trans_le (length_of_skipUvarints h₁)
          readFrames decrypted spare fragments frameTypes (rest₂.drop length)
    else .error
termination_by rest => rest.length
decreasing_by
  all_goals simp only [List.length_drop, List.length_cons]
  all_goals omega

/-- A CRYPTO frame that fits keeps its fragment and goes on after it. -/
theorem readFrames_crypto {decrypted spare : List UInt8} {fragments : List QCryptoFragment}
    {frameTypes rest rest₁ rest₂ : List UInt8} {offset length : Nat}
    (h₁ : readUvarint rest = some (offset, rest₁)) (h₂ : readUvarint rest₁ = some (length, rest₂))
    (hfit : decrypted.length - rest₂.length + length ≤ decrypted.length + spare.length) :
    readFrames decrypted spare fragments frameTypes (0x06 :: rest) =
      readFrames decrypted spare
        (fragments ++ [⟨offset, length,
          ((decrypted ++ spare).drop (decrypted.length - rest₂.length)).take length⟩])
        (frameTypes ++ [0x06]) (rest₂.drop length) := by
  rw [readFrames]
  simp only [show ¬((0x06 : UInt8) = 0x00 ∨ (0x06 : UInt8) = 0x01) by decide,
    show ¬((0x06 : UInt8) = 0x02 ∨ (0x06 : UInt8) = 0x03) by decide, if_true, if_false]
  split
  · rename_i hnone
    rw [h₁] at hnone
    cases hnone
  · rename_i offset' rest₁' hsome
    rw [h₁] at hsome
    cases hsome
    split
    · rename_i hnone
      rw [h₂] at hnone
      cases hnone
    · rename_i length' rest₂' hsome
      rw [h₂] at hsome
      cases hsome
      rw [if_neg (by omega)]

/-- The `find` loop, with `fuel` passes: the first fragment that starts at `index` is
written and the loop goes on at its end; with none, the bytes written. `none` when the
passes run out. -/
def reassemble : Nat → List QCryptoFragment → Nat → List UInt8 → Option (List UInt8)
  | 0, _, _, _ => none
  | fuel + 1, fragments, index, written =>
    match fragments.find? (·.offset == index) with
    | some fragment =>
      reassemble fuel fragments (fragment.offset + fragment.length) (written ++ fragment.payload)
    | none => some written

/-- What `QUICClientHello` does after decryption, with `fuel` passes of the `find`
loop: the frame loop over `decrypted`, then the `find` loop over its fragments and those
an earlier call left in `metadata.SniffContext`. -/
inductive Outcome where
  | reassembled (handshake : List UInt8) (frameTypes : List UInt8)
  | error
  | panic
  | outOfFuel
deriving DecidableEq, Repr

def afterDecrypt (fuel : Nat) (decrypted spare : List UInt8)
    (sniffContext : List QCryptoFragment) : Outcome :=
  match readFrames decrypted spare [] [] decrypted with
  | .error => .error
  | .panic => .panic
  | .ok fragments frameTypes =>
    match reassemble fuel (fragments ++ sniffContext) 0 [] with
    | some handshake => .reassembled handshake frameTypes
    | none => .outOfFuel

/-! ### The `find` loop -/

/-- The fragments that start at `index` or later. -/
def countFrom (fragments : List QCryptoFragment) (index : Nat) : Nat :=
  (fragments.filter fun fragment => index ≤ fragment.offset).length

theorem countFrom_lt {fragments : List QCryptoFragment} {fragment : QCryptoFragment}
    (hmem : fragment ∈ fragments) (hlen : 0 < fragment.length) :
    countFrom fragments (fragment.offset + fragment.length) < countFrom fragments fragment.offset := by
  have hsub : (fragments.filter fun f => fragment.offset + fragment.length ≤ f.offset) =
      (fragments.filter fun f => fragment.offset ≤ f.offset).filter
        fun f => fragment.offset + fragment.length ≤ f.offset := by
    rw [List.filter_filter]
    apply List.filter_congr
    intro f _
    by_cases h : fragment.offset + fragment.length ≤ f.offset
    · simp [h, show fragment.offset ≤ f.offset by omega]
    · simp [h]
  unfold countFrom
  rw [hsub, List.length_filter_lt_length_iff_exists]
  exact ⟨fragment, List.mem_filter.mpr ⟨hmem, by simp⟩, by simp; omega⟩

/-- When every fragment has a length, the `find` loop ends within one pass more than
there are fragments at or after its index. -/
theorem reassemble_terminates {fragments : List QCryptoFragment}
    (hlen : ∀ fragment ∈ fragments, 0 < fragment.length) :
    ∀ fuel index written, countFrom fragments index < fuel →
      ∃ handshake, reassemble fuel fragments index written = some handshake := by
  intro fuel
  induction fuel with
  | zero => intro _ _ h; omega
  | succ fuel ih =>
    intro index written hcount
    simp only [reassemble]
    split
    · rename_i fragment hfind
      have hmem := List.mem_of_find?_eq_some hfind
      have hoffset : fragment.offset = index := by
        simpa using List.find?_some hfind
      subst hoffset
      exact ih _ _ (by have := countFrom_lt hmem (hlen fragment hmem); omega)
    · exact ⟨written, rfl⟩

theorem countFrom_le_length (fragments : List QCryptoFragment) (index : Nat) :
    countFrom fragments index ≤ fragments.length :=
  List.length_filter_le _ _

/-- Once the `find` loop reaches an empty fragment it writes it again and again: no
number of passes is enough. -/
theorem reassemble_of_empty {fragments : List QCryptoFragment} {index : Nat}
    {fragment : QCryptoFragment} (hfind : fragments.find? (·.offset == index) = some fragment)
    (hempty : fragment.length = 0) :
    ∀ fuel written, reassemble fuel fragments index written = none := by
  have hoffset : fragment.offset = index := by
    simpa using List.find?_some hfind
  intro fuel
  induction fuel with
  | zero => intro _; rfl
  | succ fuel ih =>
    intro written
    simp only [reassemble, hfind, hoffset, hempty, Nat.add_zero]
    exact ih _

theorem afterDecrypt_ne_outOfFuel {decrypted spare : List UInt8}
    {sniffContext : List QCryptoFragment} {fragments : List QCryptoFragment}
    {frameTypes : List UInt8}
    (hframes : readFrames decrypted spare [] [] decrypted = .ok fragments frameTypes)
    (hlen : ∀ fragment ∈ fragments ++ sniffContext, 0 < fragment.length) {fuel : Nat}
    (hfuel : (fragments ++ sniffContext).length < fuel) :
    afterDecrypt fuel decrypted spare sniffContext ≠ .outOfFuel := by
  obtain ⟨handshake, h⟩ := reassemble_terminates hlen fuel 0 []
    ((countFrom_le_length _ 0).trans_lt hfuel)
  simp [afterDecrypt, hframes, h]

/-- 06 00 00 as the decrypted payload: one CRYPTO frame at offset 0 of length 0. The
frame loop keeps it as an empty fragment, and the `find` loop writes it for ever,
whatever an earlier call left and however many passes it is given. -/
theorem afterDecrypt_emptyCrypto (spare : List UInt8) (sniffContext : List QCryptoFragment)
    (fuel : Nat) : afterDecrypt fuel [0x06, 0x00, 0x00] spare sniffContext = .outOfFuel := by
  have h₁ : readUvarint [0x00, 0x00] = some (0, [0x00]) := by decide
  have h₂ : readUvarint [0x00] = some (0, []) := by decide
  have hframes : readFrames [0x06, 0x00, 0x00] spare [] [] [0x06, 0x00, 0x00] =
      .ok [⟨0, 0, []⟩] [0x06] := by
    rw [readFrames_crypto h₁ h₂ (by simp)]
    simp [readFrames]
  have hfind : ((⟨0, 0, []⟩ : QCryptoFragment) :: sniffContext).find?
      (fun fragment => fragment.offset == 0) = some ⟨0, 0, []⟩ := by
    simp
  simp [afterDecrypt, hframes, reassemble_of_empty hfind rfl fuel []]

end QUICSniff

end SingBox
