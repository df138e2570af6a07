import Mathlib

/-!
# The server name of a ClientHello

`common/tlsfragment/index.go`. `IndexTLSServerName` walks the record header, the handshake
header up to the extensions, and the extension list, and returns where the server name
extension's name starts (`Index`), the length its header declares (`Length`), and the bytes
after that header (`ServerName`). The extension loop skips an extension by `4 + exLen` in
`uint16` arithmetic on the slice and in `int` on the index; it runs on explicit fuel.

On payloads shorter than 2^16 bytes the loop always ends (`IndexTLSServerName_isSome`) and
`ServerName` is the bytes of the payload at `Index` (`IndexTLSServerName_serverName`). The
declared `Length` is not tied to them: a server name list with a second entry gives a
`ServerName` longer than `Length` (`IndexTLSServerName_twoNames`). An extension of length
65532 skips by `0` and the loop never ends (`extensionsLoop_stuck`).
-/

namespace SingBox

namespace TLSIndex

def recordLayerHeaderLen : Nat := 5
def handshakeHeaderLen : Nat := 6
def randomDataLen : Nat := 32
def sessionIDHeaderLen : Nat := 1
def cipherSuiteHeaderLen : Nat := 2
def compressMethodHeaderLen : Nat := 1
def extensionsHeaderLen : Nat := 2
def extensionHeaderLen : Nat := 4
def sniExtensionHeaderLen : Nat := 5
def contentType : UInt8 := 22
def handshakeType : UInt8 := 1
def sniExtensionType : Nat := 0
def sniNameDNSHostnameType : UInt8 := 0
def tlsVersionBitmask : Nat := 0xFFFC
def tls13 : Nat := 0x0304

structure MyServerName where
  Index : Nat
  Length : Nat
  ServerName : List UInt8
  ExtensionsListLengthIndex : Nat
deriving DecidableEq, Repr

/-- `uint16(bytes[i])<<8 | uint16(bytes[i+1])`, at an index the caller has checked. -/
def uint16At (bytes : List UInt8) (i : Nat) : Nat :=
  (bytes.getD i 0).toNat * 256 + (bytes.getD (i + 1) 0).toNat

/-- The server name extension's data, `sex`, at the loop's `currentIndex`. -/
def sniServerName (sex : List UInt8) (currentIndex : Nat) : Option MyServerName :=
  if sex.length < sniExtensionHeaderLen then none
  else if sex.getD 2 0 ≠ sniNameDNSHostnameType then none
  else some ⟨currentIndex + extensionHeaderLen + sniExtensionHeaderLen, uint16At sex 3,
    sex.drop sniExtensionHeaderLen, 0⟩

/-- The body of the extension loop: a return, or the extensions left and the next index. -/
def extensionStep (exs : List UInt8) (currentIndex : Nat) :
    Option MyServerName ⊕ (List UInt8 × Nat) :=
  if exs.length < extensionHeaderLen then .inl none
  else
    let exType := uint16At exs 0
    let exLen := uint16At exs 2
    if exs.length < extensionHeaderLen + exLen then .inl none
    else if exType = sniExtensionType then
      .inl (sniServerName ((exs.drop extensionHeaderLen).take exLen) currentIndex)
    else .inr (exs.drop ((4 + exLen) % 65536), currentIndex + 4 + exLen)

/-- The extension loop, one turn a unit of fuel; `none` when the fuel runs out. -/
def extensionsLoop : Nat → List UInt8 → Nat → Option (Option MyServerName)
  | 0, _, _ => none
  | fuel + 1, exs, currentIndex =>
    if exs.length > 0 then
      match extensionStep exs currentIndex with
      | .inl result => some result
      | .inr next => extensionsLoop fuel next.1 next.2
    else some none

def indexTLSServerNameFromExtensions (fuel : Nat) (exs : List UInt8) :
    Option (Option MyServerName) :=
  if exs.length = 0 then some none
  else if exs.length < extensionsHeaderLen then some none
  else
    let exsLen := uint16At exs 0
    if (exs.drop extensionsHeaderLen).length < exsLen then some none
    else extensionsLoop fuel (exs.drop extensionsHeaderLen) extensionsHeaderLen

/-- The checks of `indexTLSServerNameFromHandshake` before the extensions, and the index of
the extensions in the handshake. -/
def extensionsIndex (handshake : List UInt8) : Option Nat :=
  if handshake.length < handshakeHeaderLen + randomDataLen + sessionIDHeaderLen then none
  else if handshake.getD 0 0 ≠ handshakeType then none
  else
    let handshakeLen := (handshake.getD 1 0).toNat * 65536 + (handshake.getD 2 0).toNat * 256 +
      (handshake.getD 3 0).toNat
    if handshake.length - 4 ≠ handshakeLen then none
    else
      let tlsVersion := uint16At handshake 4
      if tlsVersion &&& tlsVersionBitmask ≠ 0x0300 ∧ tlsVersion ≠ tls13 then none
      else
        let currentIndex := handshakeHeaderLen + randomDataLen + sessionIDHeaderLen +
          (handshake.getD 38 0).toNat
        if handshake.length < currentIndex then none
        else
          let cipherSuites := handshake.drop currentIndex
          if cipherSuites.length < cipherSuiteHeaderLen then none
          else
            let csLen := uint16At cipherSuites 0
            if cipherSuites.length < cipherSuiteHeaderLen + csLen + compressMethodHeaderLen then none
            else
              let compressMethodLen := (cipherSuites.getD (cipherSuiteHeaderLen + csLen) 0).toNat
              let currentIndex := currentIndex + cipherSuiteHeaderLen + csLen +
                compressMethodHeaderLen + compressMethodLen
              if handshake.length < currentIndex then none else some currentIndex

def indexTLSServerNameFromHandshake (fuel : Nat) (handshake : List UInt8) :
    Option (Option MyServerName) :=
  match extensionsIndex handshake with
  | none => some none
  | some currentIndex =>
    (indexTLSServerNameFromExtensions fuel (handshake.drop currentIndex)).map
      (Option.map fun serverName =>
        { serverName with Index := serverName.Index + currentIndex,
                          ExtensionsListLengthIndex := currentIndex })

def IndexTLSServerName (fuel : Nat) (payload : List UInt8) : Option (Option MyServerName) :=
  if payload.length < recordLayerHeaderLen ∨ payload.getD 0 0 ≠ contentType then some none
  else
    let segmentLen := uint16At payload 3
    if payload.length < recordLayerHeaderLen + segmentLen then some none
    else
      (indexTLSServerNameFromHandshake fuel (payload.drop recordLayerHeaderLen)).map
        (Option.map fun serverName =>
          { serverName with
            Index := serverName.Index + recordLayerHeaderLen,
            ExtensionsListLengthIndex := serverName.ExtensionsListLengthIndex + recordLayerHeaderLen })

theorem sniServerName_eq_some {sex : List UInt8} {currentIndex : Nat} {serverName : MyServerName}
    (h : sniServerName sex currentIndex = some serverName) :
    5 ≤ sex.length ∧ serverName.Index = currentIndex + 9 ∧ serverName.ServerName = sex.drop 5 ∧
      serverName.ExtensionsListLengthIndex = 0 := by
  unfold sniServerName at h
  split_ifs at h with hheader
  cases h
  exact ⟨Nat.le_of_not_lt hheader, rfl, rfl, rfl⟩

/-- Everything one turn of the extension loop can do on a short list: return what the
server name extension holds, bytes of the list after the two headers, or skip a whole
extension. -/
theorem extensionStep_cases {exs : List UInt8} {currentIndex : Nat} (hsmall : exs.length < 65536) :
    (∃ result, extensionStep exs currentIndex = .inl result ∧
      ∀ serverName, result = some serverName →
        serverName.Index = currentIndex + 9 ∧ serverName.ExtensionsListLengthIndex = 0 ∧
          ∃ n, 9 + n ≤ exs.length ∧ serverName.ServerName = (exs.drop 9).take n) ∨
    ∃ k, 4 ≤ k ∧ k ≤ exs.length ∧ extensionStep exs currentIndex = .inr (exs.drop k, currentIndex + k) := by
  unfold extensionStep
  by_cases hshort : exs.length < extensionHeaderLen
  · exact .inl ⟨none, if_pos hshort, by simp⟩
  rw [if_neg hshort]
  dsimp only
  by_cases hlong : exs.length < extensionHeaderLen + uint16At exs 2
  · exact .inl ⟨none, if_pos hlong, by simp⟩
  rw [if_neg hlong]
  simp only [extensionHeaderLen] at hlong
  by_cases hsni : uint16At exs 0 = sniExtensionType
  · refine .inl ⟨_, if_pos hsni, fun serverName h => ?_⟩
    obtain ⟨hheader, hindex, hname, hlist⟩ := sniServerName_eq_some h
    have hsex : ((exs.drop extensionHeaderLen).take (uint16At exs 2)).length = uint16At exs 2 := by
      simp only [extensionHeaderLen, List.length_take, List.length_drop]
      omega
    rw [hsex] at hheader
    refine ⟨hindex, hlist, uint16At exs 2 - 5, by omega, ?_⟩
    rw [hname, extensionHeaderLen, List.drop_take, List.drop_drop]
  · rw [if_neg hsni]
    refine .inr ⟨4 + uint16At exs 2, by omega, by omega, ?_⟩
    rw [Nat.mod_eq_of_lt (by omega), Nat.add_assoc]

theorem extensionsLoop_succ (fuel : Nat) {exs : List UInt8} (hexs : 0 < exs.length)
    (currentIndex : Nat) :
    extensionsLoop (fuel + 1) exs currentIndex =
      (extensionStep exs currentIndex).elim some fun next => extensionsLoop fuel next.1 next.2 := by
  rw [extensionsLoop, if_pos hexs]
  cases extensionStep exs currentIndex <;> rfl

/-- The name `IndexTLSServerName` and its layers return, as bytes of their input at the
returned index. -/
def Locates (input : List UInt8) (serverName : MyServerName) : Prop :=
  ∃ n, serverName.Index + n ≤ input.length ∧
    serverName.ServerName = (input.drop serverName.Index).take n

theorem Locates.drop {input : List UInt8} {offset : Nat} (hoffset : offset ≤ input.length)
    {serverName : MyServerName} (h : Locates (input.drop offset) serverName) :
    Locates input { serverName with Index := serverName.Index + offset } := by
  obtain ⟨n, hbound, hname⟩ := h
  refine ⟨n, ?_, ?_⟩
  · simp only [List.length_drop] at hbound
    dsimp only
    omega
  · rw [hname, List.drop_drop, Nat.add_comm]

/-- The loop reads the extension block at its index: the returned name is the block's bytes
at the returned index. -/
theorem extensionsLoop_locates {block : List UInt8} (hsmall : block.length < 65536) :
    ∀ fuel currentIndex serverName,
      extensionsLoop fuel (block.drop currentIndex) currentIndex = some (some serverName) →
      Locates block serverName ∧ serverName.ExtensionsListLengthIndex = 0 := by
  intro fuel
  induction fuel with
  | zero => intro _ _ h; cases h
  | succ fuel ih =>
    intro currentIndex serverName h
    have hlen : (block.drop currentIndex).length < 65536 := by simp; omega
    by_cases hempty : 0 < (block.drop currentIndex).length
    · rw [extensionsLoop_succ fuel hempty] at h
      rcases @extensionStep_cases _ currentIndex hlen with
        ⟨result, hstep, hresult⟩ | ⟨k, -, hk, hstep⟩
      · rw [hstep] at h
        obtain ⟨hindex, hlist, n, hbound, hname⟩ := hresult serverName (Option.some.inj h)
        simp only [List.length_drop, List.drop_drop] at hbound hname
        refine ⟨⟨n, by omega, ?_⟩, hlist⟩
        rw [hname, hindex, Nat.add_comm]
      · rw [hstep, List.drop_drop] at h
        exact ih _ serverName h
    · rw [extensionsLoop, if_neg hempty] at h
      cases h

theorem extensionsLoop_isSome :
    ∀ fuel {exs : List UInt8} currentIndex, exs.length < 65536 → exs.length < 4 * fuel →
      (extensionsLoop fuel exs currentIndex).isSome := by
  intro fuel
  induction fuel with
  | zero => intro exs _ _ h; omega
  | succ fuel ih =>
    intro exs currentIndex hsmall hfuel
    by_cases hempty : 0 < exs.length
    · rw [extensionsLoop_succ fuel hempty]
      rcases @extensionStep_cases _ currentIndex hsmall with
        ⟨result, hstep, -⟩ | ⟨k, hk, hle, hstep⟩
      · rw [hstep]
        rfl
      · rw [hstep]
        exact ih _ (by simp; omega) (by simp; omega)
    · rw [extensionsLoop, if_neg hempty]
      rfl

/-- An extension of length 65532 is skipped by `uint16(4 + 65532) = 0` bytes: the loop
comes back to it on every turn. -/
theorem extensionsLoop_stuck {exs : List UInt8} (hlong : 65536 ≤ exs.length)
    (htype : uint16At exs 0 ≠ sniExtensionType) (hexLen : uint16At exs 2 = 65532) :
    ∀ fuel currentIndex, extensionsLoop fuel exs currentIndex = none := by
  intro fuel
  induction fuel with
  | zero => intro _; rfl
  | succ fuel ih =>
    intro currentIndex
    have hstep : extensionStep exs currentIndex = .inr (exs, currentIndex + 4 + 65532) := by
      simp only [extensionStep, extensionHeaderLen, hexLen, if_neg htype]
      rw [if_neg (by omega), if_neg (by omega)]
      simp
    rw [extensionsLoop_succ fuel (by omega), hstep]
    exact ih _

theorem indexTLSServerNameFromExtensions_locates {fuel : Nat} {exs : List UInt8}
    (hsmall : exs.length < 65536) {serverName : MyServerName}
    (h : indexTLSServerNameFromExtensions fuel exs = some (some serverName)) :
    Locates exs serverName := by
  unfold indexTLSServerNameFromExtensions at h
  dsimp only at h
  split_ifs at h
  · cases h
  · cases h
  · cases h
  · exact (extensionsLoop_locates hsmall fuel _ serverName h).1

theorem extensionsIndex_le {handshake : List UInt8} {currentIndex : Nat}
    (h : extensionsIndex handshake = some currentIndex) : currentIndex ≤ handshake.length := by
  unfold extensionsIndex at h
  dsimp only at h
  split_ifs at h with hlast
  cases h
  omega

theorem indexTLSServerNameFromHandshake_locates {fuel : Nat} {handshake : List UInt8}
    (hsmall : handshake.length < 65536) {serverName : MyServerName}
    (h : indexTLSServerNameFromHandshake fuel handshake = some (some serverName)) :
    Locates handshake serverName := by
  unfold indexTLSServerNameFromHandshake at h
  split at h
  · cases h
  · rename_i currentIndex hindex
    obtain ⟨found, hfound, hmap⟩ := Option.map_eq_some_iff.mp h
    obtain ⟨inner, rfl, rfl⟩ := Option.map_eq_some_iff.mp hmap
    have hle := extensionsIndex_le hindex
    exact Locates.drop hle (indexTLSServerNameFromExtensions_locates (by simp; omega) hfound)

theorem IndexTLSServerName_locates {fuel : Nat} {payload : List UInt8}
    (hsmall : payload.length < 65536) {serverName : MyServerName}
    (h : IndexTLSServerName fuel payload = some (some serverName)) :
    Locates payload serverName := by
  unfold IndexTLSServerName at h
  dsimp only at h
  split_ifs at h with hheader hsegment
  · cases h
  · cases h
  · obtain ⟨found, hfound, hmap⟩ := Option.map_eq_some_iff.mp h
    obtain ⟨inner, rfl, rfl⟩ := Option.map_eq_some_iff.mp hmap
    have hle : recordLayerHeaderLen ≤ payload.length := by
      simp only [not_or] at hheader
      omega
    exact Locates.drop hle (indexTLSServerNameFromHandshake_locates (by simp; omega) hfound)

/-- On a payload shorter than 2^16 bytes, `ServerName` is the bytes of the payload from
`Index` on, as many as it holds. -/
theorem IndexTLSServerName_serverName {fuel : Nat} {payload : List UInt8}
    (hsmall : payload.length < 65536) {serverName : MyServerName}
    (h : IndexTLSServerName fuel payload = some (some serverName)) :
    serverName.Index + serverName.ServerName.length ≤ payload.length ∧
      (payload.drop serverName.Index).take serverName.ServerName.length =
        serverName.ServerName := by
  obtain ⟨n, hbound, hname⟩ := IndexTLSServerName_locates hsmall h
  have hlength : serverName.ServerName.length = n := by
    rw [hname, List.length_take, List.length_drop]
    omega
  rw [hlength]
  exact ⟨hbound, hname.symm⟩

theorem indexTLSServerNameFromExtensions_isSome {fuel : Nat} {exs : List UInt8}
    (hsmall : exs.length < 65536) (hfuel : exs.length ≤ fuel) (hpos : 0 < fuel) :
    (indexTLSServerNameFromExtensions fuel exs).isSome := by
  unfold indexTLSServerNameFromExtensions
  dsimp only
  split_ifs
  · rfl
  · rfl
  · rfl
  · exact extensionsLoop_isSome fuel _ (by simp; omega) (by simp; omega)

theorem indexTLSServerNameFromHandshake_isSome {fuel : Nat} {handshake : List UInt8}
    (hsmall : handshake.length < 65536) (hfuel : handshake.length ≤ fuel) (hpos : 0 < fuel) :
    (indexTLSServerNameFromHandshake fuel handshake).isSome := by
  unfold indexTLSServerNameFromHandshake
  split
  · rfl
  · rw [Option.isSome_map]
    exact indexTLSServerNameFromExtensions_isSome (by simp; omega) (by simp; omega) hpos

/-- On a payload shorter than 2^16 bytes the extension loop ends: a unit of fuel for each
byte gives `IndexTLSServerName` its result. -/
theorem IndexTLSServerName_isSome {fuel : Nat} {payload : List UInt8}
    (hsmall : payload.length < 65536) (hfuel : payload.length ≤ fuel) :
    (IndexTLSServerName fuel payload).isSome := by
  unfold IndexTLSServerName
  dsimp only
  split_ifs with hheader
  · rfl
  · rfl
  · simp only [not_or, recordLayerHeaderLen] at hheader
    rw [Option.isSome_map]
    exact indexTLSServerNameFromHandshake_isSome (by simp; omega) (by simp; omega) (by omega)

/-- A ClientHello whose server name list holds two host names, `a` and `b`. -/
def twoNameClientHello : List UInt8 :=
  [22, 3, 1, 0, 61] ++ [1, 0, 0, 57, 3, 3] ++ List.replicate 32 0 ++
    [0, 0, 2, 19, 1, 1, 0] ++ [0, 14, 0, 0, 0, 10, 0, 8, 0, 0, 1, 97, 0, 0, 1, 98]

/-- The name's declared length is one byte, `a`; `ServerName` is the rest of the list. -/
theorem IndexTLSServerName_twoNames :
    IndexTLSServerName 1 twoNameClientHello = some (some ⟨61, 1, [97, 0, 0, 1, 98], 50⟩) ∧
      (twoNameClientHello.drop 61).take 1 = [97] := by
  decide

end TLSIndex

end SingBox
