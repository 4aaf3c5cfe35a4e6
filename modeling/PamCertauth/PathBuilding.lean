import PamCertauth.Certificates
import Mathlib.Data.List.Chain

/-!
# Path building

The greedy search of `x509/chain.rs` for a chain from a leaf certificate to a
trust anchor. An issuer is recognised by its distinguished name and, where the
child names one, by its key identifier; anchors are tried before the presented
certificates and these before the local pool. `buildChain_spec` describes every
chain that the search returns.
-/

namespace PamCertauth.X509

open CryptoLibrary

variable {X509 : Type} [CryptoLibrary X509]

/-- Two names that OpenSSL finds equal. -/
def dnEq (a b : Name X509) : Bool :=
  match tryCmp a b with
  | .ok .eq => true
  | _ => false

/-- `cand` has the issuer name of `cert`, and its key identifier if `cert` names one. -/
def issues (cert cand : Certificate X509) : Bool :=
  let akiSkiOk :=
    match cert.aki, cand.ski with
    | some a, some s => a == s
    | _, _ => false
  dnEq (issuerName cert.inner) (subjectName cand.inner) && (cert.aki.isNone || akiSkiOk)

def findIssuer (cert : Certificate X509) (haystack : List (Certificate X509)) :
    Option (Certificate X509) :=
  haystack.find? (issues cert)

def isSelfSigned (cert : Certificate X509) : Bool :=
  if !dnEq (issuerName cert.inner) (subjectName cert.inner) then false
  else
    match cert.aki, cert.ski with
    | some aki, some ski => aki == ski
    | none, _ => true
    | _, _ => false

/-- Extend the chain until an anchor issued its last certificate. The bound on the
length is tested after each certificate that is not an anchor. -/
def buildChainLoop (presented pool anchors : List (Certificate X509)) (maxDepth : ℕ)
    (chain : List (Certificate X509)) : Except TrustError (List (Certificate X509)) :=
  match chain.getLast? with
  | none => .error (.pathBuild "internal: empty chain")
  | some current =>
    match findIssuer current anchors with
    | some anchor =>
      if !isSelfSigned anchor then .error (.pathBuild "anchor not self-signed")
      else .ok (chain ++ [anchor])
    | none =>
      match (findIssuer current presented).or (findIssuer current pool) with
      | none => .error (.pathBuild "no issuer found")
      | some parent =>
        if (chain ++ [parent]).length > maxDepth then
          .error (.depthExceeded (chain ++ [parent]).length maxDepth)
        else buildChainLoop presented pool anchors maxDepth (chain ++ [parent])
termination_by maxDepth + 1 - chain.length
decreasing_by simp only [List.length_append, List.length_singleton] at *; omega

/-- A leaf-first chain that ends in a trust anchor. -/
def buildChain (leaf : Certificate X509) (presented pool anchors : List (Certificate X509))
    (maxDepth : ℕ) : Except TrustError (List (Certificate X509)) :=
  if maxDepth = 0 then .error (.depthExceeded 1 0)
  else buildChainLoop presented pool anchors maxDepth [leaf]

/-- `parent` stands behind `child` in a chain: its subject is the issuer of `child`,
and a key identifier that `child` names is the one of `parent`. -/
structure IssuedBy (child parent : Certificate X509) : Prop where
  issuer_eq_subject : dnEq (issuerName child.inner) (subjectName parent.inner) = true
  aki_eq_ski : ∀ aki, child.aki = some aki → parent.ski = some aki

theorem issuedBy_of_issues {cert cand : Certificate X509} (h : issues cert cand = true) :
    IssuedBy cert cand := by
  simp only [issues, Bool.and_eq_true, Bool.or_eq_true] at h
  refine ⟨h.1, fun aki haki => ?_⟩
  rcases h.2 with hnone | hmatch
  · simp [haki] at hnone
  · rw [haki] at hmatch
    split at hmatch
    · next a s ha hs =>
      cases ha
      rw [hs, eq_of_beq hmatch]
    · cases hmatch

theorem findIssuer_spec {cert parent : Certificate X509} {haystack : List (Certificate X509)}
    (h : findIssuer cert haystack = some parent) : parent ∈ haystack ∧ IssuedBy cert parent :=
  ⟨List.mem_of_find?_eq_some h, issuedBy_of_issues (List.find?_some h)⟩

theorem isSelfSigned_issuer_eq_subject {cert : Certificate X509} (h : isSelfSigned cert = true) :
    dnEq (issuerName cert.inner) (subjectName cert.inner) = true := by
  simp only [isSelfSigned] at h
  split at h
  · cases h
  · next hdn => simpa using hdn

/-- One round of the search: it ends with an anchor, or it continues with a parent
that was presented or is in the pool. -/
theorem buildChainLoop_cases {presented pool anchors chain result : List (Certificate X509)}
    {maxDepth : ℕ} (h : buildChainLoop presented pool anchors maxDepth chain = .ok result) :
    ∃ current, chain.getLast? = some current ∧
      ((∃ anchor ∈ anchors, IssuedBy current anchor ∧ isSelfSigned anchor = true ∧
          result = chain ++ [anchor]) ∨
       (∃ parent, (parent ∈ presented ∨ parent ∈ pool) ∧ IssuedBy current parent ∧
          (chain ++ [parent]).length ≤ maxDepth ∧
          buildChainLoop presented pool anchors maxDepth (chain ++ [parent]) = .ok result)) := by
  rw [buildChainLoop] at h
  split at h
  · cases h
  · next current hcurrent =>
    refine ⟨current, hcurrent, ?_⟩
    split at h
    · next anchor hanchor =>
      obtain ⟨hmem, hissued⟩ := findIssuer_spec hanchor
      split at h
      · cases h
      · next hself =>
        exact .inl ⟨anchor, hmem, hissued, by simpa using hself, by simpa using h.symm⟩
    · split at h
      · cases h
      · next parent hparent =>
        split at h
        · cases h
        · next hlen =>
          have hfound : (parent ∈ presented ∨ parent ∈ pool) ∧ IssuedBy current parent := by
            rcases Option.or_eq_some_iff.mp hparent with hp | ⟨-, hp⟩
            · exact ⟨.inl (findIssuer_spec hp).1, (findIssuer_spec hp).2⟩
            · exact ⟨.inr (findIssuer_spec hp).1, (findIssuer_spec hp).2⟩
          exact .inr ⟨parent, hfound.1, hfound.2, by omega, h⟩

/-- What the search guarantees about its result: the certificates between the leaf and
the anchor were offered to it, and each certificate is issued by the next one. -/
structure BuiltChain (leaf : Certificate X509) (presented pool anchors : List (Certificate X509))
    (middle : List (Certificate X509)) (anchor : Certificate X509) : Prop where
  anchor_mem : anchor ∈ anchors
  anchor_selfSigned : isSelfSigned anchor = true
  middle_mem : ∀ c ∈ middle, c ∈ presented ∨ c ∈ pool
  isChain : (leaf :: middle ++ [anchor]).IsChain IssuedBy

theorem buildChainLoop_spec {leaf : Certificate X509}
    {presented pool anchors result : List (Certificate X509)} {maxDepth : ℕ}
    (middle : List (Certificate X509))
    (hmem : ∀ c ∈ middle, c ∈ presented ∨ c ∈ pool)
    (hchain : (leaf :: middle).IsChain IssuedBy)
    (h : buildChainLoop presented pool anchors maxDepth (leaf :: middle) = .ok result) :
    ∃ middle anchor, result = leaf :: middle ++ [anchor] ∧
      BuiltChain leaf presented pool anchors middle anchor := by
  obtain ⟨current, hlast, hstep⟩ := buildChainLoop_cases h
  have extend : ∀ c, IssuedBy current c → (leaf :: middle ++ [c]).IsChain IssuedBy := by
    intro c hc
    refine hchain.append (List.isChain_singleton c) ?_
    simpa [hlast] using hc
  rcases hstep with ⟨anchor, hanchor, hissued, hself, rfl⟩ | ⟨parent, hparent, hissued, hlen, hrec⟩
  · exact ⟨middle, anchor, rfl, hanchor, hself, hmem, extend anchor hissued⟩
  · refine buildChainLoop_spec (middle ++ [parent]) ?_ (by simpa using extend parent hissued) hrec
    intro c hc
    rcases List.mem_append.mp hc with hc | hc
    · exact hmem c hc
    · rwa [List.mem_singleton.mp hc]
termination_by maxDepth + 1 - middle.length
decreasing_by simp only [List.length_append, List.length_cons] at *; omega

/-- Every chain that the search returns runs from the leaf over offered certificates
to one of the anchors. -/
theorem buildChain_spec {leaf : Certificate X509}
    {presented pool anchors result : List (Certificate X509)} {maxDepth : ℕ}
    (h : buildChain leaf presented pool anchors maxDepth = .ok result) :
    ∃ middle anchor, result = leaf :: middle ++ [anchor] ∧
      BuiltChain leaf presented pool anchors middle anchor := by
  rw [buildChain, guard_bind_eq_ok_iff] at h
  exact buildChainLoop_spec [] (by simp) (List.isChain_singleton leaf) h.2

end PamCertauth.X509
