import PamCertauth.PathBuilding
import PamCertauth.RecordCertificates

/-!
# Revocation lists

Parsing of revocation lists and the revocation pass over a chain, after
`crl/store.rs`. The pass compares serial numbers alone: it looks up every
certificate of the chain in every list of the store, and the first hit is what it
reports. `checkRevocation_eq_ok_iff` says when it succeeds, and
`checkRevocation_exact_iff` when its verdict, with the serial number in it, is the one
that the issuers of the certificates have given.
-/

namespace PamCertauth.X509

open CryptoLibrary

variable {X509 : Type} [CryptoLibrary X509]

/-- A parsed revocation list. Serial numbers are in lowercase hexadecimal. -/
structure Crl where
  thisUpdate : SystemTime
  nextUpdate : Option SystemTime
  revoked : List String
  issuerDnDer : Bytes
  deriving DecidableEq, Repr

abbrev CrlStore := List Crl

structure RevocationConfig where
  crlStrict : Bool
  deriving DecidableEq, Repr

namespace Crl

/-- Offsets that OpenSSL cannot compute make the list unusable. -/
def asn1ToSystem : Except ErrorStack (ℤ × ℤ) → Except TrustError SystemTime
  | .error e => .error (.crl e.text)
  | .ok (days, secs) => .ok ((days * 86400 + secs) * 10 ^ 9)

def fromInner (inner : X509Crl X509) : Except TrustError Crl := do
  let thisUpdate ← asn1ToSystem (crlLastUpdate inner)
  let nextUpdate ←
    match crlNextUpdate inner with
    | some t => some <$> asn1ToSystem t
    | none => .ok none
  let revoked := ((crlRevokedHex inner).getD []).filterMap
    fun serial => serial.toOption.map String.toLower
  let issuerDnDer ← (nameToDer (crlIssuerName inner)).mapError fun e => .crl e.text
  .ok ⟨thisUpdate, nextUpdate, revoked, issuerDnDer⟩

variable (X509) in
def fromPem (pem : Bytes) : Except TrustError Crl := do
  let inner : X509Crl X509 ← (crlFromPem pem).mapError fun e => .crl e.text
  fromInner inner

/-- The list names an update time that has passed. -/
def ExpiredAt (crl : Crl) (now : SystemTime) : Prop := ∃ nu ∈ crl.nextUpdate, nu ≤ now

instance (crl : Crl) (now : SystemTime) : Decidable (crl.ExpiredAt now) := by
  unfold ExpiredAt
  infer_instance

end Crl

variable (X509) in
def CrlStore.fromPems (pems : List Bytes) : Except TrustError CrlStore := pems.mapM (Crl.fromPem X509)

/-- The serial number of a certificate as revocation lists spell it. -/
def Certificate.crlSerial (cert : Certificate X509) : String := cert.serialHex.toLower

def checkCrls (chain : List (Certificate X509)) (cfg : RevocationConfig) (now : SystemTime) :
    CrlStore → Except TrustError Unit
  | [] => .ok ()
  | crl :: crls =>
    if crl.ExpiredAt now then
      if cfg.crlStrict then .error (.crl "CRL expired") else checkCrls chain cfg now crls
    else
      match chain.find? (·.crlSerial ∈ crl.revoked) with
      | some cert => .error (.revoked cert.crlSerial)
      | none => checkCrls chain cfg now crls

/-- Reject a chain in which some list of the store names a serial number. -/
def checkRevocation (chain : List (Certificate X509)) (store : CrlStore) (cfg : RevocationConfig)
    (now : SystemTime) : Except TrustError Unit :=
  if store = [] then .ok () else checkCrls chain cfg now store

@[simp] theorem checkRevocation_eq_checkCrls (chain : List (Certificate X509)) (store : CrlStore)
    (cfg : RevocationConfig) (now : SystemTime) :
    checkRevocation chain store cfg now = checkCrls chain cfg now store := by
  cases store <;> simp [checkRevocation, checkCrls]

/-- The pass succeeds when no list in force names a certificate of the chain, and
in strict mode every list is in force. -/
theorem checkRevocation_eq_ok_iff {chain : List (Certificate X509)} {store : CrlStore}
    {cfg : RevocationConfig} {now : SystemTime} :
    checkRevocation chain store cfg now = .ok () ↔
      (cfg.crlStrict = true → ∀ crl ∈ store, ¬ crl.ExpiredAt now) ∧
        ∀ crl ∈ store, ¬ crl.ExpiredAt now → ∀ cert ∈ chain, cert.crlSerial ∉ crl.revoked := by
  rw [checkRevocation_eq_checkCrls]
  induction store with
  | nil => simp [checkCrls]
  | cons crl store ih =>
    by_cases hexp : crl.ExpiredAt now
    · by_cases hstrict : cfg.crlStrict = true
      · simp [checkCrls, hexp, hstrict]
      · simp [checkCrls, hexp, hstrict, ih]
    · cases hfind : chain.find? (·.crlSerial ∈ crl.revoked) with
      | none =>
        have hnone := List.find?_eq_none.mp hfind
        simp only [decide_eq_true_eq] at hnone
        simp only [checkCrls, hexp, if_false, hfind, ih, List.forall_mem_cons, not_false_eq_true,
          forall_const, true_and]
        exact ⟨fun h => ⟨h.1, hnone, h.2⟩, fun h => ⟨h.1, h.2.2⟩⟩
      | some cert =>
        have hmem := List.mem_of_find?_eq_some hfind
        have hlisted : cert.crlSerial ∈ crl.revoked := by simpa using List.find?_some hfind
        simp only [checkCrls, hexp, if_false, hfind, reduceCtorEq, false_iff, not_and]
        exact fun _ h => h crl (by simp) hexp cert hmem hlisted

/-- While every list is in force, the pass fails only with a revoked serial number. -/
theorem checkRevocation_ok_or_revoked {chain : List (Certificate X509)} {store : CrlStore}
    {cfg : RevocationConfig} {now : SystemTime} (h : ∀ crl ∈ store, ¬ crl.ExpiredAt now) :
    checkRevocation chain store cfg now = .ok () ∨
      ∃ serial, checkRevocation chain store cfg now = .error (.revoked serial) := by
  rw [checkRevocation_eq_checkCrls]
  induction store with
  | nil => exact .inl rfl
  | cons crl store ih =>
    have hexp := h crl (by simp)
    simp only [checkCrls, hexp, if_false]
    split
    · exact .inr ⟨_, rfl⟩
    · exact ih fun crl hcrl => h crl (by simp [hcrl])

/-- The list was issued by the issuer of the certificate. -/
def Crl.IssuedFor (crl : Crl) (cert : Certificate X509) : Prop :=
  nameToDer (issuerName cert.inner) = .ok crl.issuerDnDer

/-- Some certificate below the anchor is named in a list of its own issuer. -/
def RevokedByIssuer (chain : List (Certificate X509)) (store : CrlStore) : Prop :=
  ∃ cert ∈ chain.dropLast, ∃ crl ∈ store, crl.IssuedFor cert ∧ cert.crlSerial ∈ crl.revoked

instance (chain : List (Certificate X509)) (store : CrlStore) :
    Decidable (RevokedByIssuer chain store) := by
  unfold RevokedByIssuer Crl.IssuedFor
  infer_instance

/-- Some certificate below the anchor has this serial number, and a list of its own issuer
names it. -/
def RevokedSerial (chain : List (Certificate X509)) (store : CrlStore) (serial : String) : Prop :=
  ∃ cert ∈ chain.dropLast, cert.crlSerial = serial ∧
    ∃ crl ∈ store, crl.IssuedFor cert ∧ serial ∈ crl.revoked

instance (chain : List (Certificate X509)) (store : CrlStore) (serial : String) :
    Decidable (RevokedSerial chain store serial) := by
  unfold RevokedSerial Crl.IssuedFor
  infer_instance

theorem RevokedSerial.revokedByIssuer {chain : List (Certificate X509)} {store : CrlStore}
    {serial : String} (h : RevokedSerial chain store serial) : RevokedByIssuer chain store := by
  obtain ⟨cert, hcert, rfl, crl, hcrl, hissued, hserial⟩ := h
  exact ⟨cert, hcert, crl, hcrl, hissued, hserial⟩

/-- The pass rejects a chain as revoked if the issuers say so, with a serial number that they
have revoked, and accepts it otherwise. -/
structure ExactVerdict (chain : List (Certificate X509)) (store : CrlStore)
    (cfg : RevocationConfig) (now : SystemTime) : Prop where
  revoked_iff : (∃ serial, checkRevocation chain store cfg now = .error (.revoked serial)) ↔
    RevokedByIssuer chain store
  reported : ∀ serial, checkRevocation chain store cfg now = .error (.revoked serial) →
    RevokedSerial chain store serial
  accepted : ¬ RevokedByIssuer chain store → checkRevocation chain store cfg now = .ok ()

/-- `crl` is the first list of the store that names a certificate of the chain, and `cert` the
first certificate of the chain that it names. -/
def FirstListed (chain : List (Certificate X509)) (store : CrlStore) (crl : Crl)
    (cert : Certificate X509) : Prop :=
  ∃ skipped rest, store = skipped ++ crl :: rest ∧
    (∀ earlier ∈ skipped, ∀ c ∈ chain, c.crlSerial ∉ earlier.revoked) ∧
    chain.find? (·.crlSerial ∈ crl.revoked) = some cert

theorem firstListed_cons_of_listed {chain : List (Certificate X509)} {first crl : Crl}
    {store : CrlStore} {listed cert : Certificate X509}
    (hfind : chain.find? (·.crlSerial ∈ first.revoked) = some listed) :
    FirstListed chain (first :: store) crl cert ↔ crl = first ∧ cert = listed := by
  constructor
  · rintro ⟨skipped, rest, hsplit, hskipped, hfirst⟩
    cases skipped with
    | nil =>
      cases hsplit
      exact ⟨rfl, Option.some.inj (hfirst.symm.trans hfind)⟩
    | cons _ skipped =>
      cases hsplit
      have hlisted : listed.crlSerial ∈ first.revoked := by simpa using List.find?_some hfind
      exact absurd hlisted (hskipped first List.mem_cons_self listed
        (List.mem_of_find?_eq_some hfind))
  · rintro ⟨rfl, rfl⟩
    exact ⟨[], store, rfl, by simp, hfind⟩

theorem firstListed_cons_of_unlisted {chain : List (Certificate X509)} {first crl : Crl}
    {store : CrlStore} {cert : Certificate X509}
    (hfind : chain.find? (·.crlSerial ∈ first.revoked) = none) :
    FirstListed chain (first :: store) crl cert ↔ FirstListed chain store crl cert := by
  constructor
  · rintro ⟨skipped, rest, hsplit, hskipped, hfirst⟩
    cases skipped with
    | nil =>
      cases hsplit
      cases hfind.symm.trans hfirst
    | cons _ skipped =>
      cases hsplit
      exact ⟨skipped, rest, rfl, fun c hc => hskipped c (List.mem_cons_of_mem _ hc), hfirst⟩
  · rintro ⟨skipped, rest, rfl, hskipped, hfirst⟩
    have hnone : ∀ c ∈ chain, c.crlSerial ∉ first.revoked := by
      simpa using List.find?_eq_none.mp hfind
    exact ⟨first :: skipped, rest, rfl, List.forall_mem_cons.mpr ⟨hnone, hskipped⟩, hfirst⟩

/-- While every list is in force, the pass reports the certificate that is listed first. -/
theorem checkRevocation_eq_revoked_iff {chain : List (Certificate X509)} {store : CrlStore}
    {cfg : RevocationConfig} {now : SystemTime} (h : ∀ crl ∈ store, ¬ crl.ExpiredAt now)
    {serial : String} :
    checkRevocation chain store cfg now = .error (.revoked serial) ↔
      ∃ crl cert, FirstListed chain store crl cert ∧ cert.crlSerial = serial := by
  rw [checkRevocation_eq_checkCrls]
  induction store with
  | nil => simp [checkCrls, FirstListed]
  | cons first store ih =>
    have ih := ih fun crl hcrl => h crl (List.mem_cons_of_mem first hcrl)
    have hexp := h first List.mem_cons_self
    rw [checkCrls, if_neg hexp]
    cases hfind : chain.find? (·.crlSerial ∈ first.revoked) with
    | some cert => simp [firstListed_cons_of_listed hfind]
    | none =>
      simp only [firstListed_cons_of_unlisted hfind]
      exact ih

/-- While every list is in force, the verdict is exact for the chains of which no list names a
serial number, and for those where the serial number that is named first has been revoked by
the issuer of a certificate below the anchor. -/
theorem checkRevocation_exact_iff (chain : List (Certificate X509)) (store : CrlStore)
    (cfg : RevocationConfig) (now : SystemTime) (h : ∀ crl ∈ store, ¬ crl.ExpiredAt now) :
    ExactVerdict chain store cfg now ↔
      ∀ crl cert, FirstListed chain store crl cert → RevokedSerial chain store cert.crlSerial := by
  constructor
  · intro hexact crl cert hfirst
    exact hexact.reported _ ((checkRevocation_eq_revoked_iff h).mpr ⟨crl, cert, hfirst, rfl⟩)
  · intro hlisted
    have hreported : ∀ serial, checkRevocation chain store cfg now = .error (.revoked serial) →
        RevokedSerial chain store serial := by
      intro serial hserial
      obtain ⟨crl, cert, hfirst, rfl⟩ := (checkRevocation_eq_revoked_iff h).mp hserial
      exact hlisted crl cert hfirst
    have hcases : checkRevocation chain store cfg now = .ok () ∨
        ∃ serial, checkRevocation chain store cfg now = .error (.revoked serial) :=
      checkRevocation_ok_or_revoked h
    have hrefused : RevokedByIssuer chain store → checkRevocation chain store cfg now ≠ .ok () := by
      rintro ⟨cert, hcert, crl, hcrl, -, hserial⟩ hok
      exact (checkRevocation_eq_ok_iff.mp hok).2 crl hcrl (h crl hcrl) cert
        (List.dropLast_subset chain hcert) hserial
    refine ⟨⟨?_, ?_⟩, hreported, ?_⟩
    · rintro ⟨serial, hserial⟩
      exact (hreported serial hserial).revokedByIssuer
    · intro hrevoked
      exact hcases.resolve_left (hrefused hrevoked)
    · intro hnot
      rcases hcases with hok | ⟨serial, hserial⟩
      · exact hok
      · exact absurd (hreported serial hserial).revokedByIssuer hnot

section Sample

open RecordX509

/-- A list of the root that names the serial number of a leaf of the root. -/
def issuerCrl : Crl := ⟨0, some 500, ["0a"], derUtf8 "root"⟩

theorem checkRevocation_exact_iff_issuerCrl :
    (∀ crl ∈ [issuerCrl], ¬ crl.ExpiredAt 5) ∧
      checkRevocation [leafUnbound.certificate, root.certificate] [issuerCrl] ⟨true⟩ 5 =
        .error (.revoked "0a") ∧
      ExactVerdict [leafUnbound.certificate, root.certificate] [issuerCrl] ⟨true⟩ 5 := by
  have hforce : ∀ crl ∈ [issuerCrl], ¬ crl.ExpiredAt 5 := by decide +kernel
  have hrevoked : checkRevocation [leafUnbound.certificate, root.certificate] [issuerCrl] ⟨true⟩ 5 =
      .error (.revoked "0a") := by
    decide +kernel
  refine ⟨hforce, hrevoked, (checkRevocation_exact_iff _ _ _ _ hforce).mpr ?_⟩
  intro crl cert hfirst
  have hreported : checkRevocation [leafUnbound.certificate, root.certificate] [issuerCrl] ⟨true⟩ 5 =
      .error (.revoked cert.crlSerial) :=
    (checkRevocation_eq_revoked_iff hforce).mpr ⟨crl, cert, hfirst, rfl⟩
  rw [hrevoked] at hreported
  have hserial : "0a" = cert.crlSerial := by simpa using hreported
  rw [← hserial]
  decide +kernel

/-- A list of another authority that names the serial numbers of two leaves. -/
def foreignCrl : Crl := ⟨0, some 500, ["0a", "0d"], derUtf8 "other"⟩

/-- A list of the root that names the serial number of the root itself. -/
def anchorCrl : Crl := ⟨0, some 500, ["01"], derUtf8 "root"⟩

/-- A list of the root that names the serial number of its intermediate. -/
def intermediateCrl : Crl := ⟨0, some 500, ["02"], derUtf8 "root"⟩

/-- A serial number of another authority, or of the anchor, is reported as revoked although no
issuer revoked a certificate of the chain, or revoked another one. -/
theorem checkRevocation_not_exact :
    (∀ store ∈ [[foreignCrl], [anchorCrl]],
      (∀ crl ∈ store, ¬ crl.ExpiredAt 5) ∧
        ¬ RevokedByIssuer [leafUnbound.certificate, root.certificate] store ∧
        ¬ ExactVerdict [leafUnbound.certificate, root.certificate] store ⟨true⟩ 5) ∧
    ∀ store ∈ [[foreignCrl, intermediateCrl], [anchorCrl, intermediateCrl]],
      (∀ crl ∈ store, ¬ crl.ExpiredAt 5) ∧
        RevokedByIssuer [leafBelow.certificate, intermediate.certificate, root.certificate] store ∧
        ¬ ExactVerdict [leafBelow.certificate, intermediate.certificate, root.certificate] store
          ⟨true⟩ 5 := by
  constructor
  · intro store hstore
    have hcheck : (∀ crl ∈ store, ¬ crl.ExpiredAt 5) ∧
        ¬ RevokedByIssuer [leafUnbound.certificate, root.certificate] store ∧
        checkRevocation [leafUnbound.certificate, root.certificate] store ⟨true⟩ 5 ≠ .ok () := by
      revert store
      decide +kernel
    exact ⟨hcheck.1, hcheck.2.1, fun hexact => hcheck.2.2 (hexact.accepted hcheck.2.1)⟩
  · intro store hstore
    have hcheck : (∀ crl ∈ store, ¬ crl.ExpiredAt 5) ∧
        RevokedByIssuer [leafBelow.certificate, intermediate.certificate, root.certificate] store ∧
        ∃ serial ∈ ["0d", "01"], ¬ RevokedSerial
            [leafBelow.certificate, intermediate.certificate, root.certificate] store serial ∧
          checkRevocation [leafBelow.certificate, intermediate.certificate, root.certificate] store
            ⟨true⟩ 5 = .error (.revoked serial) := by
      revert store
      decide +kernel
    obtain ⟨hforce, hrevoked, serial, -, hforeign, hreported⟩ := hcheck
    exact ⟨hforce, hrevoked, fun hexact => hforeign (hexact.reported serial hreported)⟩

end Sample

end PamCertauth.X509
