import PamCertauth.PathChecks
import PamCertauth.RecordCertificates

/-!
# Names of signature algorithms

A signature algorithm has several names: the ones that the documentation gives for the
whitelist of the configuration, its dotted object identifier, and the name by which OpenSSL
shows it. `SignatureAlg.fromOidString` knows all of them but the long names of the GOST
algorithms; the whitelist of the leaf checks is compared with what OpenSSL shows, letter by
letter. So a list that is written as documented admits nobody, and only the long name, which
for GOST denotes nothing, admits a leaf (`whitelist_denotes_iff`).
-/

namespace PamCertauth.X509

open CryptoLibrary

variable {X509 : Type} [CryptoLibrary X509]

namespace SignatureAlg

/-- The names of the documentation of `allowed_signature_algorithms`. -/
def documentedNames : List String :=
  ["rsa-with-sha256", "rsa-with-sha384", "rsa-with-sha512", "ecdsa-with-sha256",
    "ecdsa-with-sha384", "ecdsa-with-sha512", "1.2.643.7.1.1.3.2", "1.2.643.7.1.1.3.3"]

/-- The name by which OpenSSL shows an algorithm. -/
def longName : SignatureAlg → Option String
  | rsaWithSha256 => some "sha256WithRSAEncryption"
  | rsaWithSha384 => some "sha384WithRSAEncryption"
  | rsaWithSha512 => some "sha512WithRSAEncryption"
  | ecdsaWithSha256 => some "ecdsa-with-SHA256"
  | ecdsaWithSha384 => some "ecdsa-with-SHA384"
  | ecdsaWithSha512 => some "ecdsa-with-SHA512"
  | idTc26SignWithDigestGostR341012_256 =>
      some "GOST R 34.10-2012 with GOST R 34.11-2012 (256 bit)"
  | idTc26SignWithDigestGostR341012_512 =>
      some "GOST R 34.10-2012 with GOST R 34.11-2012 (512 bit)"
  | other _ => none

theorem longName_notMem_documentedNames {alg : SignatureAlg} {name : String}
    (h : alg.longName = some name) : name ∉ documentedNames := by
  cases alg <;> simp only [longName, Option.some.injEq, reduceCtorEq] at h <;> subst h <;> decide

/-- The algorithm that OpenSSL shows by this name. -/
def ofShown (name : String) : SignatureAlg :=
  if idTc26SignWithDigestGostR341012_256.longName = some name then
    idTc26SignWithDigestGostR341012_256
  else if idTc26SignWithDigestGostR341012_512.longName = some name then
    idTc26SignWithDigestGostR341012_512
  else fromOidString name

theorem ofShown_of_longName {alg : SignatureAlg} {name : String} (h : alg.longName = some name) :
    ofShown name = alg := by
  cases alg <;> simp only [longName, Option.some.injEq, reduceCtorEq] at h <;> subst h <;> decide

/-- Only the names of the GOST algorithms are read in another way than they are shown. -/
theorem ofShown_eq_fromOidString {name : String} (h : ¬ (ofShown name).isGost = true) :
    ofShown name = fromOidString name := by
  unfold ofShown at h ⊢
  split at h
  · exact absurd rfl h
  · next h256 =>
    split at h
    · exact absurd rfl h
    · next h512 => rw [if_neg h256, if_neg h512]

end SignatureAlg

open SignatureAlg

/-- The algorithm that the leaf is signed with, by the name under which it is shown. -/
def Certificate.signedWith (leaf : Certificate X509) : SignatureAlg := ofShown leaf.signatureAlgorithm

/-- Some entry of the whitelist denotes the algorithm. -/
def Denoted (whitelist : List String) (alg : SignatureAlg) : Prop :=
  ∃ entry ∈ whitelist, fromOidString entry = alg

/-- The check of the whitelist and the meaning of its entries agree about a leaf. -/
def WhitelistDenotes (whitelist : List String) (leaf : Certificate X509) : Prop :=
  checkSignatureAlgorithm leaf whitelist = .ok () ↔ Denoted whitelist leaf.signedWith

/-- A non-empty whitelist admits the leaves whose algorithm it denotes exactly if it has the
name that OpenSSL shows or denotes the algorithm by no entry, and if, for GOST, the name that
is shown does not stand in it without an entry that denotes the algorithm. While OpenSSL shows
the algorithms by their long names, a whitelist of documented names admits no leaf that is
signed with one of them. -/
theorem whitelist_denotes_iff {whitelist : List String} (hne : whitelist ≠ [])
    (leaf : Certificate X509) :
    (WhitelistDenotes whitelist leaf ↔
        (leaf.signatureAlgorithm ∈ whitelist ∨ ¬ Denoted whitelist leaf.signedWith) ∧
          (leaf.signedWith.isGost = true → leaf.signatureAlgorithm ∈ whitelist →
            Denoted whitelist leaf.signedWith)) ∧
      ∀ alg : SignatureAlg, alg.longName = some leaf.signatureAlgorithm →
        leaf.signedWith = alg ∧
          ((∀ entry ∈ whitelist, entry ∈ documentedNames) →
            checkSignatureAlgorithm leaf whitelist =
              .error (.signatureAlgorithm leaf.signatureAlgorithm)) := by
  constructor
  · rw [WhitelistDenotes, checkSignatureAlgorithm_eq_ok_iff, forall_prop_of_true hne]
    constructor
    · intro hdenotes
      refine ⟨?_, fun _ => hdenotes.mp⟩
      by_cases hmem : leaf.signatureAlgorithm ∈ whitelist
      · exact .inl hmem
      · exact .inr fun hdenoted => hmem (hdenotes.mpr hdenoted)
    · rintro ⟨hlisted, hgost⟩
      refine ⟨fun hmem => ?_, fun hdenoted => hlisted.resolve_right (not_not_intro hdenoted)⟩
      by_cases hisGost : leaf.signedWith.isGost = true
      · exact hgost hisGost hmem
      · exact ⟨_, hmem, (ofShown_eq_fromOidString hisGost).symm⟩
  · intro alg halg
    refine ⟨ofShown_of_longName halg, fun hdocumented => ?_⟩
    have hmem : leaf.signatureAlgorithm ∉ whitelist :=
      fun hmem => longName_notMem_documentedNames halg (hdocumented _ hmem)
    rw [checkSignatureAlgorithm, if_pos ⟨hne, hmem⟩]

section Sample

open RecordX509

theorem whitelist_denotes_shown :
    WhitelistDenotes ["sha256WithRSAEncryption"] leafUnbound.certificate := by
  refine (whitelist_denotes_iff (by decide) leafUnbound.certificate).1.mpr ⟨.inl (by decide), ?_⟩
  intro hgost
  exact absurd hgost (by decide)

/-- A leaf whose signature is made with the smaller of the GOST algorithms. -/
def leafGost : RecordX509 :=
  { leafUnbound with
    serial := "0F"
    signatureAlgorithm := "GOST R 34.10-2012 with GOST R 34.11-2012 (256 bit)" }

/-- The leaves are signed with the algorithms that the documented names denote. -/
theorem documented_name_refused :
    (fromOidString "rsa-with-sha256" = leafUnbound.certificate.signedWith ∧
      longName .rsaWithSha256 = some leafUnbound.certificate.signatureAlgorithm ∧
      preValidateEndEntity leafUnbound.certificate ⟨Duration.fromSecs 60, ["rsa-with-sha256"]⟩ 5 =
        .error (.signatureAlgorithm "sha256WithRSAEncryption") ∧
      ¬ WhitelistDenotes ["rsa-with-sha256"] leafUnbound.certificate) ∧
    fromOidString "1.2.643.7.1.1.3.2" = leafGost.certificate.signedWith ∧
      preValidateEndEntity leafGost.certificate ⟨Duration.fromSecs 60, ["1.2.643.7.1.1.3.2"]⟩ 5 =
        .error (.signatureAlgorithm leafGost.signatureAlgorithm) ∧
      ¬ WhitelistDenotes ["1.2.643.7.1.1.3.2"] leafGost.certificate := by
  have hrsa : fromOidString "rsa-with-sha256" = leafUnbound.certificate.signedWith := by decide
  have hgost : fromOidString "1.2.643.7.1.1.3.2" = leafGost.certificate.signedWith := by decide
  refine ⟨⟨hrsa, by decide, by decide +kernel, ?_⟩, hgost, by decide +kernel, ?_⟩
  · intro hdenotes
    have hpasses := hdenotes.mpr ⟨_, List.mem_singleton_self _, hrsa⟩
    exact absurd hpasses (by decide)
  · intro hdenotes
    have hpasses := hdenotes.mpr ⟨_, List.mem_singleton_self _, hgost⟩
    exact absurd hpasses (by decide)

end Sample

end PamCertauth.X509
