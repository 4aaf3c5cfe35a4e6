import PamCertauth.DerRoundTrips

/-!
# The bits of keyUsage

`key_usage_bit` (`x509/ext.rs`) reads one bit of a BIT STRING. For a value that is one
whole BIT STRING with at most seven unused bits the answer is the right one. Everything
else that begins with a BIT STRING is answered too: an empty content, a count of unused
bits that no byte has, and bytes behind the element are not reported, and a count above 8
is subtracted from 8 in eight bits.
-/

namespace PamCertauth.X509

open CryptoLibrary

variable {X509 : Type} [CryptoLibrary X509]

/-- `bitStringBit`, where a subtraction that overflows panics. -/
def bitStringBitChecked (content : Bytes) (bit : UInt8) : Except (Halt TrustError) Bool :=
  match content with
  | [] => .ok false
  | unused :: bytes =>
    let byteIndex := (bit / 8).toNat
    let bitInByte := bit % 8
    let mask : UInt8 := 0x80 >>> bitInByte
    match bytes[byteIndex]? with
    | none => .ok false
    | some byte =>
      if byteIndex = bytes.length - 1 then
        if unused > 8 then .error (.panicked "attempt to subtract with overflow")
        else if bitInByte ≥ 8 - unused then .ok false
        else .ok (byte &&& mask ≠ 0)
      else .ok (byte &&& mask ≠ 0)

/-- `keyUsageBit`, where a subtraction that overflows panics. -/
def keyUsageBitChecked (cert : X509) (bit : UInt8) : Except (Halt TrustError) Bool := do
  match ← (extensionValue cert oidKeyUsage).mapError .error with
  | none => .ok false
  | some value =>
    let bs ← (readTlvExpect value tagBitString).mapError .error
    bitStringBitChecked bs.value bit

/-- The value is one BIT STRING and nothing else. -/
def IsBitString (value : Bytes) (unused : UInt8) (bytes : Bytes) : Prop :=
  readTlv value = .ok ⟨tagBitString, unused :: bytes, []⟩

/-- The bit lies before the unused ones and is set. Bit 0 is the most significant bit of
the first byte. -/
def UsedBitSet (unused : ℕ) (bytes : Bytes) (bit : ℕ) : Prop :=
  bit + unused < 8 * bytes.length ∧
    ∃ byte, bytes[bit / 8]? = some byte ∧ byte.toNat.testBit (7 - bit % 8) = true

theorem and_mask_ne_zero_iff {byte k : UInt8} (hk : k.toNat < 8) :
    byte &&& (0x80 >>> k) ≠ 0 ↔ byte.toNat.testBit (7 - k.toNat) = true := by
  have hmask : (0x80 >>> k : UInt8).toNat = 2 ^ (7 - k.toNat) := by
    rw [UInt8.toNat_shiftRight, Nat.mod_eq_of_lt hk]
    generalize k.toNat = n at hk
    interval_cases n <;> rfl
  rw [ne_eq, ← UInt8.toNat_inj, UInt8.toNat_and, hmask, Nat.and_two_pow]
  cases byte.toNat.testBit (7 - k.toNat) <;> simp

theorem le_sub_iff_of_le_seven {unused k : UInt8} (h : unused ≤ 7) :
    k ≥ 8 - unused ↔ 8 ≤ k.toNat + unused.toNat := by
  have hunused : unused.toNat ≤ 7 := h
  have hsub : (8 - unused).toNat = 8 - unused.toNat :=
    UInt8.toNat_sub_of_le 8 unused (UInt8.le_iff_toNat_le.mpr (hunused.trans (by decide)))
  rw [ge_iff_le, UInt8.le_iff_toNat_le, hsub]
  omega

/-- With a proper count of unused bits the answer is the used bit. -/
theorem bitStringBit_iff {unused : UInt8} (h : unused ≤ 7) (bytes : Bytes) (bit : UInt8) :
    bitStringBit (unused :: bytes) bit = true ↔ UsedBitSet unused.toNat bytes bit.toNat := by
  have hdiv : (bit / 8).toNat = bit.toNat / 8 := UInt8.toNat_div bit 8
  have hmod : (bit % 8).toNat = bit.toNat % 8 := UInt8.toNat_mod bit 8
  have hunused : unused.toNat ≤ 7 := h
  rw [bitStringBit, UsedBitSet]
  simp only [hdiv]
  cases hbyte : bytes[bit.toNat / 8]? with
  | none => simp
  | some byte =>
    obtain ⟨hindex, -⟩ := List.getElem?_eq_some_iff.mp hbyte
    have hlast : (bit.toNat / 8 = bytes.length - 1 ∧ bit % 8 ≥ 8 - unused) ↔
        ¬ bit.toNat + unused.toNat < 8 * bytes.length := by
      rw [le_sub_iff_of_le_seven h, hmod]
      omega
    have hset : byte &&& (0x80 >>> (bit % 8)) ≠ 0 ↔
        byte.toNat.testBit (7 - bit.toNat % 8) = true := by
      rw [and_mask_ne_zero_iff (by omega), hmod]
    simp only [hlast, Option.some.injEq, exists_eq_left']
    by_cases hused : bit.toNat + unused.toNat < 8 * bytes.length
    · simp only [hused, not_true_eq_false, if_false, decide_eq_true_eq, true_and]
      exact hset
    · simp [hused]

theorem bitStringBitChecked_ne_panicked {unused : UInt8} (h : unused ≤ 7) (bytes : Bytes)
    (bit : UInt8) (m : String) :
    bitStringBitChecked (unused :: bytes) bit ≠ .error (.panicked m) := by
  have hcount : ¬ unused > 8 := by
    intro hgt
    have hle : unused.toNat ≤ 7 := h
    have hlt : 8 < unused.toNat := hgt
    omega
  intro hpanic
  rw [bitStringBitChecked] at hpanic
  split at hpanic
  · cases hpanic
  · rw [if_neg hcount] at hpanic
    split at hpanic
    · split at hpanic <;> cases hpanic
    · cases hpanic

/-- The reading of one bit is exact, reports every value that is not a BIT STRING with at
most seven unused bits, and computes without an overflow, exactly if the value has such a
BIT STRING and nothing behind it whenever it begins with a BIT STRING. -/
theorem keyUsageBit_exact_iff (cert : X509) (value : Bytes)
    (hvalue : extensionValue cert oidKeyUsage = .ok (some value)) (bit : UInt8) :
    ((∀ b, keyUsageBit cert bit = .ok b →
          ∃ unused bytes, IsBitString value unused bytes ∧ unused ≤ 7 ∧
            (b = true ↔ UsedBitSet unused.toNat bytes bit.toNat)) ∧
        ((¬ ∃ unused bytes, IsBitString value unused bytes ∧ unused ≤ 7) →
          ∃ e, keyUsageBit cert bit = .error e) ∧
        ∀ m, keyUsageBitChecked cert bit ≠ .error (.panicked m)) ↔
      ∀ tlv, readTlv value = .ok tlv → tlv.tag = tagBitString →
        tlv.rest = [] ∧ ∃ unused bytes, tlv.value = unused :: bytes ∧ unused ≤ 7 := by
  have hrelease : keyUsageBit cert bit = (do
      let bs ← readTlvExpect value tagBitString
      .ok (bitStringBit bs.value bit)) := by
    simp only [keyUsageBit, hvalue, bind, Except.bind]
  have hchecked : keyUsageBitChecked cert bit = (do
      let bs ← (readTlvExpect value tagBitString).mapError Halt.error
      bitStringBitChecked bs.value bit) := by
    simp only [keyUsageBitChecked, hvalue, Except.mapError, bind, Except.bind]
  rw [hrelease, hchecked]
  constructor
  · rintro ⟨hexact, -, -⟩ tlv hread htag
    rw [readTlvExpect_eq_ok_iff.mpr ⟨hread, htag⟩] at hexact
    obtain ⟨unused, bytes, hbits, hle, -⟩ := hexact _ rfl
    rw [IsBitString, hread, Except.ok.injEq] at hbits
    subst hbits
    exact ⟨rfl, unused, bytes, rfl, hle⟩
  · intro h
    cases hread : readTlvExpect value tagBitString with
    | error e =>
      refine ⟨fun b hb => ?_, fun _ => ⟨e, rfl⟩, fun m hm => ?_⟩
      · cases hb
      · cases hm
    | ok tlv =>
      obtain ⟨hok, htag⟩ := readTlvExpect_eq_ok_iff.mp hread
      obtain ⟨hrest, unused, bytes, hcontent, hle⟩ := h tlv hok htag
      have hbits : IsBitString value unused bytes := by
        obtain ⟨tag, content, rest⟩ := tlv
        simp only at hrest htag hcontent
        rw [IsBitString, hok, htag, hcontent, hrest]
      simp only [Except.mapError, bind, Except.bind, hcontent]
      refine ⟨fun b hb => ?_, fun hnone => absurd ⟨unused, bytes, hbits, hle⟩ hnone,
        bitStringBitChecked_ne_panicked hle bytes bit⟩
      cases hb
      exact ⟨unused, bytes, hbits, hle, bitStringBit_iff hle bytes bit⟩

namespace RecordX509

/-- A leaf with this value of keyUsage. -/
def leafWithUsage (value : Bytes) : RecordX509 :=
  { leafUnbound with extensions := [([0x55, 0x1D, 0x0F], value)] }

theorem usage_facts :
    extensionValue (leafWithUsage (derElement tagBitString [0x07, 0x80])) oidKeyUsage =
        .ok (some (derElement tagBitString [0x07, 0x80])) ∧
      extensionValue (leafWithUsage (derElement tagBitString [0x09, 0x80])) oidKeyUsage =
        .ok (some (derElement tagBitString [0x09, 0x80])) ∧
      keyUsageBit (leafWithUsage (derElement tagBitString [0x09, 0x80])) 0 = .ok true ∧
      keyUsageBitChecked (leafWithUsage (derElement tagBitString [0x09, 0x80])) 0 =
        .error (.panicked "attempt to subtract with overflow") ∧
      keyUsageBit (leafWithUsage (derElement tagBitString [])) 0 = .ok false ∧
      keyUsageBit (leafWithUsage (derElement tagBitString [0x07, 0x80] ++ [0x00])) 0 =
        .ok true := by
  decide +kernel

end RecordX509

open RecordX509 in
theorem keyUsageBit_exact_iff_digitalSignature :
    extensionValue (leafWithUsage (derElement tagBitString [0x07, 0x80])) oidKeyUsage =
        .ok (some (derElement tagBitString [0x07, 0x80])) ∧
      keyUsageBitChecked (leafWithUsage (derElement tagBitString [0x07, 0x80])) 0 ≠
        .error (.panicked "attempt to subtract with overflow") := by
  have hread : readTlv (derElement tagBitString [0x07, 0x80]) =
      .ok ⟨tagBitString, [0x07, 0x80], []⟩ := by decide
  refine ⟨usage_facts.1, ((keyUsageBit_exact_iff (leafWithUsage (derElement tagBitString
    [0x07, 0x80])) (derElement tagBitString [0x07, 0x80]) usage_facts.1 0).mpr ?_).2.2 _⟩
  intro tlv htlv _
  rw [hread] at htlv
  cases htlv
  exact ⟨rfl, 0x07, [0x80], rfl, by decide⟩

open RecordX509 in
/-- A count of nine unused bits is answered, after an overflow; so are a BIT STRING
without content and one with a byte behind it. -/
theorem keyUsageBit_malformed_answered :
    extensionValue (leafWithUsage (derElement tagBitString [0x09, 0x80])) oidKeyUsage =
        .ok (some (derElement tagBitString [0x09, 0x80])) ∧
      keyUsageBit (leafWithUsage (derElement tagBitString [0x09, 0x80])) 0 = .ok true ∧
      keyUsageBitChecked (leafWithUsage (derElement tagBitString [0x09, 0x80])) 0 =
        .error (.panicked "attempt to subtract with overflow") ∧
      keyUsageBit (leafWithUsage (derElement tagBitString [])) 0 = .ok false ∧
      keyUsageBit (leafWithUsage (derElement tagBitString [0x07, 0x80] ++ [0x00])) 0 =
        .ok true := by
  obtain ⟨-, hvalue, hanswer, hpanic, hempty, hbehind⟩ := usage_facts
  exact ⟨hvalue, hanswer, hpanic, hempty, hbehind⟩

end PamCertauth.X509
