import PamCertauth.GreedySearch
import PamCertauth.TrustVerifier

/-!
# What path building searches

`build_chain` (`x509/chain.rs`) is a greedy search: the successor of a certificate is the
first one among the presented certificates, and behind them in the pool, that bears the
name and the key identifier of its issuer. The loop is followed round by round, with the
vector it grows, and every exit is described by the trail of issuers from the leaf. The
bound on the depth is tested on one of the two places where the vector grows, and a
certificate is chosen before anything but its names is looked at: both have consequences
for the verifier, which are stated last. Certificates that are presented in addition do no
harm while none of them stands in front of an issuer that was taken before; one that does
decides about the rest of the way.
-/

namespace PamCertauth.X509

open CryptoLibrary GreedySearch

variable {X509 : Type} [CryptoLibrary X509]

section

variable (presented pool anchors : List (Certificate X509)) (maxDepth : ℕ)

/-- The certificate with which the loop continues if no anchor is an issuer. -/
def nextIssuer (cert : Certificate X509) : Option (Certificate X509) :=
  (findIssuer cert presented).or (findIssuer cert pool)

/-- The anchor with which the loop ends. -/
def anchorIssuer (cert : Certificate X509) : Option (Certificate X509) := findIssuer cert anchors

/-- The certificates that following the issuers from the leaf yields. -/
def issuerTrail (n : ℕ) (leaf : Certificate X509) : List (Certificate X509) :=
  trail (nextIssuer presented pool) n leaf

/-- How `build_chain` returns: the vector as it is then, and the result. Nothing is ever
taken from the vector, so its length is the number of pushes. -/
structure SearchExit (X509 : Type) where
  chain : List (Certificate X509)
  result : Except TrustError (List (Certificate X509))

/-- The body of the loop: it returns, or it goes into the next round. -/
def buildChainRound (chain : List (Certificate X509)) :
    SearchExit X509 ⊕ List (Certificate X509) :=
  match chain.getLast? with
  | none => .inl ⟨chain, .error (.pathBuild "internal: empty chain")⟩
  | some current =>
    match anchorIssuer anchors current with
    | some anchor =>
      if !isSelfSigned anchor then .inl ⟨chain, .error (.pathBuild "anchor not self-signed")⟩
      else .inl ⟨chain ++ [anchor], .ok (chain ++ [anchor])⟩
    | none =>
      match nextIssuer presented pool current with
      | none => .inl ⟨chain, .error (.pathBuild "no issuer found")⟩
      | some parent =>
        if (chain ++ [parent]).length > maxDepth then
          .inl ⟨chain ++ [parent], .error (.depthExceeded (chain ++ [parent]).length maxDepth)⟩
        else .inr (chain ++ [parent])

def runRounds : ℕ → List (Certificate X509) → Option (SearchExit X509)
  | 0, _ => none
  | rounds + 1, chain =>
    match buildChainRound presented pool anchors maxDepth chain with
    | .inl exit => some exit
    | .inr chain => runRounds rounds chain

/-- `build_chain`, cut off if it has not returned after so many rounds. -/
def buildChainRounds (rounds : ℕ) (leaf : Certificate X509) : Option (SearchExit X509) :=
  if maxDepth = 0 then some ⟨[], .error (.depthExceeded 1 0)⟩
  else runRounds presented pool anchors maxDepth rounds [leaf]

/-- How the function returns for each outcome of the search. -/
def exitOf (maxDepth : ℕ) : Outcome (Certificate X509) (Certificate X509) → SearchExit X509
  | .reached path anchor =>
    if !isSelfSigned anchor then ⟨path, .error (.pathBuild "anchor not self-signed")⟩
    else ⟨path ++ [anchor], .ok (path ++ [anchor])⟩
  | .stuck path => ⟨path, .error (.pathBuild "no issuer found")⟩
  | .exhausted path => ⟨path, .error (.depthExceeded path.length maxDepth)⟩

/-- The outcome of the search from a certificate behind those already in the vector. -/
def outcome (before : List (Certificate X509)) (current : Certificate X509) :
    Outcome (Certificate X509) (Certificate X509) :=
  search (nextIssuer presented pool) (anchorIssuer anchors) (maxDepth - (before.length + 1))
    before current

end

section

variable {presented pool anchors : List (Certificate X509)} {maxDepth : ℕ}

/-- A round returns with the outcome of the search, or leaves it to the next round. -/
theorem buildChainRound_cases (before : List (Certificate X509)) (current : Certificate X509)
    (hdepth : before.length + 1 ≤ maxDepth) :
    buildChainRound presented pool anchors maxDepth (before ++ [current]) =
        .inl (exitOf maxDepth (outcome presented pool anchors maxDepth before current)) ∨
      ∃ parent, (before ++ [current]).length + 1 ≤ maxDepth ∧
        buildChainRound presented pool anchors maxDepth (before ++ [current]) =
          .inr (before ++ [current] ++ [parent]) ∧
        outcome presented pool anchors maxDepth before current =
          outcome presented pool anchors maxDepth (before ++ [current]) parent := by
  have hlen : (before ++ [current]).length = before.length + 1 := by simp
  rw [buildChainRound, outcome]
  simp only [List.getLast?_concat]
  cases hanchor : anchorIssuer anchors current with
  | some anchor =>
    left
    rw [search_of_goal hanchor, exitOf]
    simp only
    split <;> rfl
  | none =>
    cases hparent : nextIssuer presented pool current with
    | none =>
      left
      rw [search_of_stuck hanchor hparent, exitOf]
    | some parent =>
      by_cases hfull : (before ++ [current] ++ [parent]).length > maxDepth
      · left
        have hzero : maxDepth - (before.length + 1) = 0 := by
          rw [List.length_append, List.length_singleton] at hfull
          omega
        simp only [hfull, if_true, hzero, search_zero hanchor hparent, exitOf]
      · right
        rw [List.length_append, List.length_singleton] at hfull
        obtain ⟨budget, hbudget⟩ : ∃ n, maxDepth - (before.length + 1) = n + 1 :=
          ⟨maxDepth - (before.length + 1) - 1, by omega⟩
        refine ⟨parent, by omega, by simp; omega, ?_⟩
        rw [outcome, hbudget, search_succ hanchor hparent,
          show maxDepth - ((before ++ [current]).length + 1) = budget by omega]

/-- The loop computes the outcome of the search, and one round for each certificate that
may still be pushed is enough. -/
theorem runRounds_eq {rounds : ℕ} {before : List (Certificate X509)}
    {current : Certificate X509} (hdepth : before.length + 1 ≤ maxDepth)
    (hrounds : maxDepth ≤ before.length + rounds) :
    runRounds presented pool anchors maxDepth rounds (before ++ [current]) =
      some (exitOf maxDepth (outcome presented pool anchors maxDepth before current)) := by
  induction rounds generalizing before current with
  | zero => omega
  | succ rounds ih =>
    rw [runRounds]
    rcases buildChainRound_cases before current hdepth with hexit | ⟨parent, hlen, hnext, hsame⟩
    · rw [hexit]
    · rw [hnext, hsame]
      refine ih hlen ?_
      rw [List.length_append, List.length_singleton]
      omega

theorem buildChainLoop_eq_round (chain : List (Certificate X509)) :
    buildChainLoop presented pool anchors maxDepth chain =
      (buildChainRound presented pool anchors maxDepth chain).elim SearchExit.result
        (buildChainLoop presented pool anchors maxDepth) := by
  rw [buildChainLoop, buildChainRound]
  cases chain.getLast? with
  | none => rfl
  | some current =>
    simp only [anchorIssuer, nextIssuer]
    cases findIssuer current anchors with
    | some anchor =>
      simp only
      split <;> rfl
    | none =>
      cases (findIssuer current presented).or (findIssuer current pool) with
      | none => rfl
      | some parent =>
        simp only
        split <;> rfl

theorem buildChainLoop_eq {before : List (Certificate X509)} {current : Certificate X509}
    (hdepth : before.length + 1 ≤ maxDepth) :
    buildChainLoop presented pool anchors maxDepth (before ++ [current]) =
      (exitOf maxDepth (outcome presented pool anchors maxDepth before current)).result := by
  rw [buildChainLoop_eq_round]
  rcases buildChainRound_cases before current hdepth with hexit | ⟨parent, hlen, hnext, hsame⟩
  · rw [hexit]
    rfl
  · rw [hnext, hsame, ← buildChainLoop_eq hlen]
    rfl
termination_by maxDepth - before.length
decreasing_by simp only [List.length_append, List.length_singleton] at *; omega

theorem buildChain_zero (leaf : Certificate X509) :
    buildChain leaf presented pool anchors 0 = .error (.depthExceeded 1 0) := by
  rw [buildChain, if_pos rfl]

theorem buildChain_eq (leaf : Certificate X509) (hpos : maxDepth ≠ 0) :
    buildChain leaf presented pool anchors maxDepth =
      (exitOf maxDepth (outcome presented pool anchors maxDepth [] leaf)).result := by
  rw [buildChain, if_neg hpos]
  have hdepth : ([] : List (Certificate X509)).length + 1 ≤ maxDepth := by
    rw [List.length_nil]
    omega
  exact buildChainLoop_eq hdepth

/-- The chains that are returned: the trail up to the first certificate that an anchor
has issued, and this anchor. -/
theorem buildChain_eq_ok_iff {leaf : Certificate X509} {chain : List (Certificate X509)} :
    buildChain leaf presented pool anchors maxDepth = .ok chain ↔
      ∃ k anchor, k + 1 ≤ maxDepth ∧
        FirstGoal (nextIssuer presented pool) (anchorIssuer anchors) leaf k anchor ∧
        isSelfSigned anchor = true ∧
        chain = issuerTrail presented pool (k + 1) leaf ++ [anchor] := by
  by_cases hpos : maxDepth = 0
  · subst hpos
    simp [buildChain_zero]
  rw [buildChain_eq leaf hpos]
  constructor
  · intro h
    cases hout : outcome presented pool anchors maxDepth [] leaf with
    | reached path anchor =>
      obtain ⟨k, hk, hfirst, rfl⟩ := search_eq_reached_iff.mp hout
      rw [hout, exitOf] at h
      split at h
      · cases h
      · next hself =>
        cases h
        rw [List.length_nil] at hk
        exact ⟨k, anchor, by omega, hfirst, by simpa using hself, rfl⟩
    | stuck path => rw [hout, exitOf] at h; cases h
    | exhausted path => rw [hout, exitOf] at h; cases h
  · rintro ⟨k, anchor, hk, hfirst, hself, rfl⟩
    have hout : outcome presented pool anchors maxDepth [] leaf =
        .reached (issuerTrail presented pool (k + 1) leaf) anchor :=
      search_eq_reached_iff.mpr ⟨k, by rw [List.length_nil]; omega, hfirst, rfl⟩
    rw [hout, exitOf, hself]
    rfl

theorem buildChain_depthExceeded {leaf : Certificate X509} {len bound : ℕ}
    (h : buildChain leaf presented pool anchors maxDepth = .error (.depthExceeded len bound))
    (hpos : maxDepth ≠ 0) :
    (issuerTrail presented pool (maxDepth + 1) leaf).length = maxDepth + 1 ∧
      ∀ cert ∈ issuerTrail presented pool maxDepth leaf, findIssuer cert anchors = none := by
  rw [buildChain_eq leaf hpos] at h
  cases hout : outcome presented pool anchors maxDepth [] leaf with
  | reached path anchor =>
    rw [hout, exitOf] at h
    split at h <;> cases h
  | stuck path => rw [hout, exitOf] at h; cases h
  | exhausted path =>
    obtain ⟨hlen, hnone, -⟩ := search_eq_exhausted_iff.mp hout
    have hdepth : maxDepth - (([] : List (Certificate X509)).length + 1) + 1 = maxDepth := by
      rw [List.length_nil]
      omega
    rw [show ∀ n, n + 2 = n + 1 + 1 from fun _ => rfl, hdepth] at hlen
    rw [hdepth] at hnone
    exact ⟨hlen, hnone⟩

/-- No exit leaves more than one certificate beyond the bound in the vector. -/
theorem length_exitOf_le (leaf : Certificate X509) (hpos : maxDepth ≠ 0) :
    (exitOf maxDepth (outcome presented pool anchors maxDepth [] leaf)).chain.length ≤
      maxDepth + 1 := by
  have hcases := search_cases (nextIssuer presented pool) (anchorIssuer anchors)
    (maxDepth - 1) [] leaf
  rw [outcome]
  simp only [List.length_nil, Nat.zero_add] at hcases ⊢
  rcases hcases with ⟨path, anchor, h, hlen⟩ | ⟨path, h, hlen⟩ | ⟨path, h, hlen⟩
  · rw [h, exitOf]
    split
    · simp only
      omega
    · simp only [List.length_append, List.length_singleton]
      omega
  · rw [h, exitOf]
    simp only
    omega
  · rw [h, exitOf]
    simp only
    omega

end

/-- The bound counts the leaf and the anchor, and it holds for every chain unless the
certificate that fills the last admitted place is the first one an anchor has issued. -/
theorem length_le_maxDepth_iff (leaf : Certificate X509)
    (presented pool anchors : List (Certificate X509)) (maxDepth : ℕ) :
    (∀ chain, buildChain leaf presented pool anchors maxDepth = .ok chain →
        chain.length ≤ maxDepth) ↔
      ¬ ∃ k anchor, maxDepth = k + 1 ∧
        FirstGoal (nextIssuer presented pool) (anchorIssuer anchors) leaf k anchor ∧
        isSelfSigned anchor = true := by
  constructor
  · rintro hall ⟨k, anchor, rfl, hfirst, hself⟩
    have hlen := hall _ (buildChain_eq_ok_iff.mpr ⟨k, anchor, le_refl _, hfirst, hself, rfl⟩)
    rw [List.length_append, issuerTrail, hfirst.length_eq, List.length_singleton] at hlen
    omega
  · intro hnone chain hchain
    obtain ⟨k, anchor, hk, hfirst, hself, rfl⟩ := buildChain_eq_ok_iff.mp hchain
    rw [List.length_append, issuerTrail, hfirst.length_eq, List.length_singleton]
    rcases Nat.lt_or_eq_of_le hk with hlt | heq
    · omega
    · exact absurd ⟨k, anchor, heq.symm, hfirst, hself⟩ hnone

open RecordX509 in
/-- With a bound of one certificate a chain of two is returned. -/
theorem buildChain_beyond_maxDepth :
    buildChain leafUnbound.certificate [] [] [root.certificate] 1 =
        .ok [leafUnbound.certificate, root.certificate] ∧
      ¬ [leafUnbound.certificate, root.certificate].length ≤ 1 := by
  decide +kernel

theorem issues_iff {cert cand : Certificate X509} : issues cert cand = true ↔ IssuedBy cert cand := by
  refine ⟨issuedBy_of_issues, fun h => ?_⟩
  have hdn := h.issuer_eq_subject
  cases haki : cert.aki with
  | none => simp [issues, hdn, haki]
  | some aki => simp [issues, hdn, haki, h.aki_eq_ski aki haki]

theorem findIssuer_eq_none_iff {cert : Certificate X509} {haystack : List (Certificate X509)} :
    findIssuer cert haystack = none ↔ ∀ cand ∈ haystack, ¬ IssuedBy cert cand := by
  simp only [findIssuer, List.find?_eq_none, issues_iff]

theorem findIssuer_eq_some_iff {cert parent : Certificate X509}
    {haystack : List (Certificate X509)} :
    findIssuer cert haystack = some parent ↔
      ∃ skipped rest, haystack = skipped ++ parent :: rest ∧ IssuedBy cert parent ∧
        ∀ cand ∈ skipped, ¬ IssuedBy cert cand := by
  rw [findIssuer, List.find?_eq_some_iff_append, issues_iff]
  simp only [Bool.not_eq_true', ← Bool.not_eq_true, issues_iff]
  constructor
  · rintro ⟨hissued, skipped, rest, hsplit, hnone⟩
    exact ⟨skipped, rest, hsplit, hissued, hnone⟩
  · rintro ⟨skipped, rest, hsplit, hissued, hnone⟩
    exact ⟨hissued, skipped, rest, hsplit, hnone⟩

/-- The chain of a greedy search from the leaf over `middle` to `anchor`. -/
structure GreedyChain (leaf : Certificate X509) (presented pool anchors : List (Certificate X509))
    (middle : List (Certificate X509)) (anchor : Certificate X509) : Prop where
  issued : (leaf :: middle ++ [anchor]).IsChain IssuedBy
  middle_mem : ∀ cert ∈ middle, cert ∈ presented ∨ cert ∈ pool
  no_earlier_anchor : ∀ cert ∈ (leaf :: middle).dropLast, ∀ cand ∈ anchors, ¬ IssuedBy cert cand
  first_anchor : ∃ skipped rest, anchors = skipped ++ anchor :: rest ∧
    ∀ last, (leaf :: middle).getLast? = some last →
      IssuedBy last anchor ∧ ∀ cand ∈ skipped, ¬ IssuedBy last cand

theorem greedyChain_of_buildChain {leaf : Certificate X509}
    {presented pool anchors chain : List (Certificate X509)} {maxDepth : ℕ}
    (h : buildChain leaf presented pool anchors maxDepth = .ok chain) :
    ∃ middle anchor, chain = leaf :: middle ++ [anchor] ∧
      GreedyChain leaf presented pool anchors middle anchor := by
  obtain ⟨k, anchor, -, hfirst, -, hchain⟩ := buildChain_eq_ok_iff.mp h
  obtain ⟨middle, anchor', hchain', hbuilt⟩ := buildChain_spec h
  have hparts : issuerTrail presented pool (k + 1) leaf = leaf :: middle ∧ anchor = anchor' := by
    rw [hchain'] at hchain
    exact ((List.append_inj' hchain rfl).imp Eq.symm fun h => by simpa using h.symm)
  obtain ⟨htrail, rfl⟩ := hparts
  refine ⟨middle, anchor, hchain', hbuilt.isChain, hbuilt.middle_mem, ?_, ?_⟩
  · intro cert hcert
    have hlen := hfirst.length_eq
    rw [issuerTrail] at htrail
    rw [htrail] at hlen
    -- all but the last certificate of a trail of length k + 1 are the trail of length k
    have hdrop : (leaf :: middle).dropLast = trail (nextIssuer presented pool) k leaf := by
      rw [List.dropLast_eq_take, hlen, ← htrail]
      exact take_trail (Nat.le_succ k) leaf
    exact findIssuer_eq_none_iff.mp (hfirst.before_none cert (hdrop ▸ hcert))
  · obtain ⟨last, hlast, hanchor⟩ := hfirst.last_goal
    obtain ⟨skipped, rest, hsplit, hissued, hnone⟩ := findIssuer_eq_some_iff.mp hanchor
    refine ⟨skipped, rest, hsplit, fun last' hlast' => ?_⟩
    rw [issuerTrail] at htrail
    rw [htrail, hlast'] at hlast
    cases hlast
    exact ⟨hissued, hnone⟩

/-- Path building returns, whatever the issuers of the given certificates are. It goes
through its loop at most `max_depth` times and pushes at most one certificate more than
that; a returned chain is the one of a greedy search; and the depth is exceeded only if
the issuers lead beyond it before one of the admitted certificates is issued by an anchor. -/
theorem buildChain_greedy (leaf : Certificate X509)
    (presented pool anchors : List (Certificate X509)) (maxDepth : ℕ) :
    (∃ exit, buildChainRounds presented pool anchors maxDepth maxDepth leaf = some exit ∧
        exit.result = buildChain leaf presented pool anchors maxDepth ∧
        exit.chain.length ≤ maxDepth + 1) ∧
      (∀ chain, buildChain leaf presented pool anchors maxDepth = .ok chain →
        ∃ middle anchor, chain = leaf :: middle ++ [anchor] ∧
          GreedyChain leaf presented pool anchors middle anchor) ∧
      ∀ len bound,
        buildChain leaf presented pool anchors maxDepth = .error (.depthExceeded len bound) →
          maxDepth = 0 ∨
            (issuerTrail presented pool (maxDepth + 1) leaf).length = maxDepth + 1 ∧
              ∀ cert ∈ issuerTrail presented pool maxDepth leaf, ∀ cand ∈ anchors,
                ¬ IssuedBy cert cand := by
  refine ⟨?_, fun chain h => greedyChain_of_buildChain h, ?_⟩
  · by_cases hpos : maxDepth = 0
    · subst hpos
      exact ⟨_, by rw [buildChainRounds, if_pos rfl], (buildChain_zero leaf).symm, by simp⟩
    · have hrun : runRounds presented pool anchors maxDepth maxDepth ([] ++ [leaf]) = _ :=
        runRounds_eq (by rw [List.length_nil]; omega) (by rw [List.length_nil]; omega)
      exact ⟨_, by rw [buildChainRounds, if_neg hpos]; exact hrun, (buildChain_eq leaf hpos).symm,
        length_exitOf_le leaf hpos⟩
  · intro len bound h
    by_cases hpos : maxDepth = 0
    · exact .inl hpos
    · obtain ⟨hlen, hnone⟩ := buildChain_depthExceeded h hpos
      exact .inr ⟨hlen, fun cert hcert => findIssuer_eq_none_iff.mp (hnone cert hcert)⟩

namespace OpensslVerifier

/-- What the passes behind path building ask of a path, from the leaf to the anchor. -/
structure Vouches (verifier : OpensslVerifier X509) (now : SystemTime)
    (path : List (Certificate X509)) (anchor : Certificate X509) : Prop where
  signed : path.IsChain SignedBy
  anchor_selfSigned : SignedBy anchor anchor
  isCa : ∀ (i : ℕ) (h : i < path.length), 1 ≤ i →
    ∃ bc, path[i].basicConstraints = .ok (some bc) ∧ bc.isCa = true ∧
      ∀ allowed ∈ bc.pathLen, i - 1 ≤ allowed
  validAt : ∀ cert ∈ path.drop 1, cert.ValidAt verifier.preCfg.clockSkew now
  keyCertSign : ∀ cert ∈ path.drop 1, cert.keyUsageKeyCertSign = .ok true
  crlsInForce : verifier.revCfg.crlStrict = true → ∀ crl ∈ verifier.crlStore, ¬ crl.ExpiredAt now
  unrevoked : ∀ crl ∈ verifier.crlStore, ¬ crl.ExpiredAt now →
    ∀ cert ∈ path, cert.crlSerial ∉ crl.revoked
  pinned : verifier.pins ≠ [] → ∃ pin ∈ verifier.pins, spkiSha256 anchor = .ok pin

theorem vouches_iff {verifier : OpensslVerifier X509} {now : SystemTime}
    {front : List (Certificate X509)} {anchor : Certificate X509} (hfront : front ≠ []) :
    verifier.Vouches now (front ++ [anchor]) anchor ↔
      verifyChainSignatures (front ++ [anchor]) = .ok () ∧
        verifyBasicConstraints (front ++ [anchor]) = .ok () ∧
        verifyIntermediateConstraints (front ++ [anchor]) now verifier.preCfg.clockSkew = .ok () ∧
        checkRevocation (front ++ [anchor]) verifier.crlStore verifier.revCfg now = .ok () ∧
        verifyPinning anchor verifier.pins = .ok () := by
  have hlen : 2 ≤ (front ++ [anchor]).length := by
    have hpos := List.length_pos_iff.mpr hfront
    rw [List.length_append, List.length_singleton]
    omega
  rw [verifyChainSignatures_eq_ok_iff, verifyBasicConstraints_eq_ok_iff,
    verifyIntermediateConstraints_eq_ok_iff, checkRevocation_eq_ok_iff, verifyPinning_eq_ok_iff]
  constructor
  · intro h
    refine ⟨⟨hlen, h.signed, anchor, List.getLast?_concat, h.anchor_selfSigned⟩, ⟨hlen, h.isCa⟩,
      ⟨hlen, fun cert hcert => ⟨h.validAt cert hcert, ?_, h.keyCertSign cert hcert⟩⟩,
      ⟨h.crlsInForce, h.unrevoked⟩, h.pinned⟩
    obtain ⟨i, hi, rfl⟩ := List.mem_iff_getElem.mp hcert
    rw [List.length_drop] at hi
    obtain ⟨bc, hbc, hca, -⟩ := h.isCa (1 + i) (by omega) (by omega)
    exact ⟨bc, by rwa [List.getElem_drop], hca⟩
  · rintro ⟨⟨-, hsigned, last, hlast, hself⟩, ⟨-, hca⟩, ⟨-, hint⟩, ⟨hforce, hrevoked⟩, hpin⟩
    rw [List.getLast?_concat] at hlast
    cases hlast
    exact ⟨hsigned, hself, hca, fun cert hcert => (hint cert hcert).1,
      fun cert hcert => (hint cert hcert).2.2, hforce, hrevoked, hpin⟩

/-- The engine is there if one of the certificates needs it. -/
def EngineReady (verifier : OpensslVerifier X509) (certs : List (Certificate X509)) : Prop :=
  ∀ cert ∈ certs, cert.signatureAlg.isGost = true →
    ensureEngineLoaded X509 verifier.gostEnginePath = .ok ()

theorem ensureLoadedIfAnyGost_eq_ok_iff {verifier : OpensslVerifier X509}
    {certs : List (Certificate X509)} :
    ensureLoadedIfAnyGost certs verifier.gostEnginePath = .ok () ↔ verifier.EngineReady certs := by
  rw [ensureLoadedIfAnyGost, EngineReady]
  split
  · next hany =>
    obtain ⟨cert, hcert, hgost⟩ := List.any_eq_true.mp hany
    exact ⟨fun h _ _ _ => h, fun h => h cert hcert hgost⟩
  · next hany =>
    simp only [List.any_eq_true, not_exists, not_and] at hany
    exact ⟨fun _ cert hcert hgost => absurd hgost (hany cert hcert), fun _ => rfl⟩

/-- The path that the issuers lead to from the leaf is one that the passes admit. -/
def FollowsToVouched (verifier : OpensslVerifier X509) (leaf : Certificate X509)
    (presented : List (Certificate X509)) (now : SystemTime) : Prop :=
  ∃ k anchor, k + 1 ≤ verifier.maxDepth ∧
    FirstGoal (nextIssuer presented verifier.intermediates) (anchorIssuer verifier.anchors) leaf k
      anchor ∧
    isSelfSigned anchor = true ∧
    verifier.Vouches now
      (issuerTrail presented verifier.intermediates (k + 1) leaf ++ [anchor]) anchor

/-- A leaf is accepted exactly if the engine is there for every certificate that is
offered, the leaf passes its own checks, and the passes admit the path to which the
issuers lead. -/
theorem exists_verifyAt_eq_ok_iff {verifier : OpensslVerifier X509} {leaf : Certificate X509}
    {presented : List (Certificate X509)} {now : SystemTime} :
    (∃ v, verifier.verifyAt leaf presented now = .ok v) ↔
      verifier.EngineReady (leaf :: presented ++ verifier.intermediates ++ verifier.anchors) ∧
        AcceptableLeaf leaf verifier.preCfg now ∧
        verifier.FollowsToVouched leaf presented now := by
  simp only [verifyAt, bind_eq_ok_iff, mapError_eq_ok_iff, FollowsToVouched]
  constructor
  · rintro ⟨v, ⟨⟩, hengine, ⟨⟩, hleaf, chain, hbuild, ⟨⟩, hsig, ⟨⟩, hbc, ⟨⟩, hint, ⟨⟩, hrev, htail⟩
    obtain ⟨k, anchor, hk, hfirst, hself, rfl⟩ := buildChain_eq_ok_iff.mp hbuild
    have hne : issuerTrail presented verifier.intermediates (k + 1) leaf ≠ [] := by
      rw [issuerTrail, ← List.length_pos_iff, hfirst.length_eq]
      omega
    have hpin : verifyPinning anchor verifier.pins = .ok () := by
      rw [List.getLast?_concat] at htail
      split at htail
      · next anchor' _ hlast _ =>
        cases hlast
        exact (seq_eq_ok_iff.mp htail).1
      · cases htail
    exact ⟨ensureLoadedIfAnyGost_eq_ok_iff.mp hengine, preValidateEndEntity_eq_ok_iff.mp hleaf, k,
      anchor, hk, hfirst, hself, (vouches_iff hne).mpr ⟨hsig, hbc, hint, hrev, hpin⟩⟩
  · rintro ⟨hengine, hleaf, k, anchor, hk, hfirst, hself, hvouched⟩
    have hhead : ∃ tail, issuerTrail presented verifier.intermediates (k + 1) leaf =
        leaf :: tail := by
      apply List.head?_eq_some_iff.mp
      exact head?_trail k leaf
    obtain ⟨tail, htrail⟩ := hhead
    have hbuild := buildChain_eq_ok_iff.mpr ⟨k, anchor, hk, hfirst, hself, rfl⟩
    rw [htrail] at hvouched hbuild
    obtain ⟨hsig, hbc, hint, hrev, hpin⟩ := (vouches_iff (List.cons_ne_nil _ _)).mp hvouched
    let chain := leaf :: tail ++ [anchor]
    let middle := if chain.length > 2 then (chain.drop 1).take (chain.length - 2) else []
    refine ⟨⟨leaf, middle, anchor⟩, (), ensureLoadedIfAnyGost_eq_ok_iff.mpr hengine, (),
      preValidateEndEntity_eq_ok_iff.mpr hleaf, chain, hbuild, (), hsig, (), hbc, (), hint, (), hrev,
      ?_⟩
    rw [show chain.getLast? = some anchor from List.getLast?_concat]
    exact seq_eq_ok_iff.mpr ⟨hpin, rfl⟩

/-- The certificates that are presented with `presented` give `cert` the issuer `rival`: it is
the first of `extended` with the name and the key identifier of the issuer, and it is not the
one that the search takes with `presented` alone. -/
def Overtakes (verifier : OpensslVerifier X509) (presented extended : List (Certificate X509))
    (cert rival : Certificate X509) : Prop :=
  findIssuer cert extended = some rival ∧
    nextIssuer presented verifier.intermediates cert ≠ some rival

/-- The search with `presented` leads from the leaf over `front` to `cert`, which no anchor has
issued, and this is the first certificate on its way that is given another issuer. -/
structure FirstOvertaken (verifier : OpensslVerifier X509) (leaf : Certificate X509)
    (presented extended front : List (Certificate X509)) (cert rival : Certificate X509) :
    Prop where
  leads : Leads (nextIssuer presented verifier.intermediates) (anchorIssuer verifier.anchors) cert
    leaf front
  no_anchor : anchorIssuer verifier.anchors cert = none
  before : ∀ c ∈ front, ∀ r, ¬ verifier.Overtakes presented extended c r
  overtakes : verifier.Overtakes presented extended cert rival

/-- What the passes ask of the certificates behind `cert`, which has `depth` certificates in
front of it, up to the anchor. -/
structure AdmitsDetour (verifier : OpensslVerifier X509) (now : SystemTime) (depth : ℕ)
    (cert : Certificate X509) (detour : List (Certificate X509)) (anchor : Certificate X509) :
    Prop where
  signed : (cert :: detour).IsChain SignedBy
  anchor_selfSigned : SignedBy anchor anchor
  isCa : ∀ (j : ℕ) (h : j < detour.length),
    ∃ bc, detour[j].basicConstraints = .ok (some bc) ∧ bc.isCa = true ∧
      ∀ allowed ∈ bc.pathLen, depth + j ≤ allowed
  validAt : ∀ c ∈ detour, c.ValidAt verifier.preCfg.clockSkew now
  keyCertSign : ∀ c ∈ detour, c.keyUsageKeyCertSign = .ok true
  unrevoked : ∀ crl ∈ verifier.crlStore, ¬ crl.ExpiredAt now →
    ∀ c ∈ detour, c.crlSerial ∉ crl.revoked
  pinned : verifier.pins ≠ [] → ∃ pin ∈ verifier.pins, spkiSha256 anchor = .ok pin

/-- From `rival`, the issuers among `extended` and the pool lead to an anchor within the bound
on the depth, and the passes admit the certificates on this way. -/
def DetourAdmitted (verifier : OpensslVerifier X509) (extended : List (Certificate X509))
    (now : SystemTime) (depth : ℕ) (cert rival : Certificate X509) : Prop :=
  ∃ m anchor, depth + 1 + m + 1 ≤ verifier.maxDepth ∧
    FirstGoal (nextIssuer extended verifier.intermediates) (anchorIssuer verifier.anchors) rival m
      anchor ∧
    isSelfSigned anchor = true ∧
    verifier.AdmitsDetour now depth cert
      (issuerTrail extended verifier.intermediates (m + 1) rival ++ [anchor]) anchor

section Detours

variable {verifier : OpensslVerifier X509} {now : SystemTime}
  {presented extended : List (Certificate X509)} {leaf cert rival : Certificate X509}

theorem Overtakes.nextIssuer_eq (h : verifier.Overtakes presented extended cert rival) :
    nextIssuer extended verifier.intermediates cert = some rival := by
  rw [nextIssuer, h.1, Option.some_or]

/-- More certificates leave the issuer as it was, unless one of them overtakes it. -/
theorem nextIssuer_eq_or_overtaken (hsub : presented.Sublist extended)
    (cert : Certificate X509) :
    nextIssuer extended verifier.intermediates cert =
        nextIssuer presented verifier.intermediates cert ∨
      ∃ rival, verifier.Overtakes presented extended cert rival := by
  cases hfound : findIssuer cert extended with
  | none =>
    have hnone : findIssuer cert presented = none := by
      rw [findIssuer_eq_none_iff] at hfound ⊢
      exact fun cand hcand => hfound cand (hsub.subset hcand)
    left
    rw [nextIssuer, nextIssuer, hfound, hnone]
  | some rival =>
    by_cases hsame : nextIssuer presented verifier.intermediates cert = some rival
    · left
      rw [hsame, nextIssuer, hfound, Option.some_or]
    · exact .inr ⟨rival, hfound, hsame⟩

theorem FirstOvertaken.leads_extended (hsub : presented.Sublist extended)
    {front : List (Certificate X509)}
    (h : verifier.FirstOvertaken leaf presented extended front cert rival) :
    Leads (nextIssuer extended verifier.intermediates) (anchorIssuer verifier.anchors) rival leaf
      (front ++ [cert]) := by
  have hcert := h.leads.congr fun c hc => (nextIssuer_eq_or_overtaken hsub c).resolve_right
    fun ⟨r, hr⟩ => h.before c hc r hr
  exact hcert.trans (.step h.no_anchor h.overtakes.nextIssuer_eq .here)

omit [CryptoLibrary X509] in
theorem mem_drop_one_detour {front tail : List (Certificate X509)} {c : Certificate X509} :
    c ∈ (front ++ cert :: tail).drop 1 ↔ c ∈ (front ++ [cert]).drop 1 ∨ c ∈ tail := by
  rw [List.append_cons, List.drop_append_of_le_length (by simp), List.mem_append]

theorem Vouches.admitsDetour {front detour : List (Certificate X509)} {anchor : Certificate X509}
    (h : verifier.Vouches now (front ++ cert :: detour) anchor) :
    verifier.AdmitsDetour now front.length cert detour anchor := by
  refine ⟨(List.isChain_split.mp h.signed).2, h.anchor_selfSigned, ?_,
    fun c hc => h.validAt c (mem_drop_one_detour.mpr (.inr hc)),
    fun c hc => h.keyCertSign c (mem_drop_one_detour.mpr (.inr hc)),
    fun crl hcrl hforce c hc => h.unrevoked crl hcrl hforce c (by simp [hc]), h.pinned⟩
  intro j hj
  obtain ⟨bc, hbc, hca, hlen⟩ := h.isCa (front.length + 1 + j) (by simp; omega) (by omega)
  rw [getElem_behind hj] at hbc
  refine ⟨bc, hbc, hca, fun allowed hallowed => ?_⟩
  have hbound := hlen allowed hallowed
  omega

theorem Vouches.with_detour {front rest detour : List (Certificate X509)}
    {anchor anchor' : Certificate X509} (h : verifier.Vouches now (front ++ cert :: rest) anchor)
    (hdetour : verifier.AdmitsDetour now front.length cert detour anchor') :
    verifier.Vouches now (front ++ cert :: detour) anchor' := by
  refine ⟨List.isChain_split.mpr ⟨(List.isChain_split.mp h.signed).1, hdetour.signed⟩,
    hdetour.anchor_selfSigned, ?_, ?_, ?_, h.crlsInForce, ?_, hdetour.pinned⟩
  · intro i hi hpos
    rcases Nat.lt_or_ge i (front.length + 1) with hlt | hge
    · have hi' : i < (front ++ cert :: rest).length := by
        rw [List.length_append, List.length_cons]
        omega
      rw [getElem_in_front hlt hi hi']
      exact h.isCa i hi' hpos
    · obtain ⟨j, rfl⟩ := Nat.exists_eq_add_of_le hge
      have hj : j < detour.length := by
        rw [List.length_append, List.length_cons] at hi
        omega
      obtain ⟨bc, hbc, hca, hlen⟩ := hdetour.isCa j hj
      refine ⟨bc, by rw [getElem_behind hj, hbc], hca, fun allowed hallowed => ?_⟩
      have hbound := hlen allowed hallowed
      omega
  · intro c hc
    rcases mem_drop_one_detour.mp hc with hc | hc
    · exact h.validAt c (mem_drop_one_detour.mpr (.inl hc))
    · exact hdetour.validAt c hc
  · intro c hc
    rcases mem_drop_one_detour.mp hc with hc | hc
    · exact h.keyCertSign c (mem_drop_one_detour.mpr (.inl hc))
    · exact hdetour.keyCertSign c hc
  · intro crl hcrl hforce c hc
    rcases List.mem_append.mp hc with hc | hc
    · exact h.unrevoked crl hcrl hforce c (by simp [hc])
    · rcases List.mem_cons.mp hc with rfl | hc
      · exact h.unrevoked crl hcrl hforce c (by simp)
      · exact hdetour.unrevoked crl hcrl hforce c hc

/-- Behind a part of an admitted path, the passes look at the detour alone. -/
theorem vouches_detour_iff {front rest detour : List (Certificate X509)}
    {anchor anchor' : Certificate X509} (h : verifier.Vouches now (front ++ cert :: rest) anchor) :
    verifier.Vouches now (front ++ cert :: detour) anchor' ↔
      verifier.AdmitsDetour now front.length cert detour anchor' :=
  ⟨Vouches.admitsDetour, h.with_detour⟩

/-- While no certificate on the way is overtaken, more certificates lead the same way. -/
theorem firstGoal_of_not_overtaken (hsub : presented.Sublist extended)
    (hnone : ∀ front cert rival,
      ¬ verifier.FirstOvertaken leaf presented extended front cert rival)
    {k : ℕ} {anchor : Certificate X509}
    (h : FirstGoal (nextIssuer presented verifier.intermediates) (anchorIssuer verifier.anchors)
      leaf k anchor) :
    FirstGoal (nextIssuer extended verifier.intermediates) (anchorIssuer verifier.anchors) leaf k
        anchor ∧
      issuerTrail extended verifier.intermediates (k + 1) leaf =
        issuerTrail presented verifier.intermediates (k + 1) leaf := by
  obtain ⟨front, last, rfl, hleads, hanchor⟩ := h.leads
  rcases hleads.same_or_parts (nextIssuer extended verifier.intermediates) with
    hsame | ⟨before, cert, hcert, hbefore, hgoal, hparts⟩
  · have hleads' := hleads.congr hsame
    refine ⟨hleads'.firstGoal_iff.mpr ⟨0, rfl, firstGoal_zero.mpr hanchor⟩, ?_⟩
    rw [issuerTrail, issuerTrail, hleads'.trail_eq 1, hleads.trail_eq 1, trail_one, trail_one]
  · obtain ⟨rival, hrival⟩ := (nextIssuer_eq_or_overtaken hsub cert).resolve_left hparts
    refine absurd ⟨hcert, hgoal, fun c hc r hr => ?_, hrival⟩ (hnone before cert rival)
    exact hr.2 ((hbefore c hc).symm.trans hr.nextIssuer_eq)

/-- A path of an accepted leaf that is overtaken begins with the certificates up to the first
one that is. -/
theorem FirstOvertaken.vouched {front : List (Certificate X509)} {k : ℕ}
    {anchor : Certificate X509}
    (h : verifier.FirstOvertaken leaf presented extended front cert rival)
    (hfirst : FirstGoal (nextIssuer presented verifier.intermediates)
      (anchorIssuer verifier.anchors) leaf k anchor)
    (hvouched : verifier.Vouches now
      (issuerTrail presented verifier.intermediates (k + 1) leaf ++ [anchor]) anchor) :
    ∃ rest, verifier.Vouches now (front ++ cert :: rest) anchor := by
  obtain ⟨m, rfl, -⟩ := h.leads.firstGoal_iff.mp hfirst
  obtain ⟨rest, hrest⟩ := List.head?_eq_some_iff.mp
    (head?_trail m cert : (trail (nextIssuer presented verifier.intermediates) (m + 1) cert).head? = _)
  rw [issuerTrail, Nat.add_assoc, h.leads.trail_eq, hrest] at hvouched
  exact ⟨rest ++ [anchor], by simpa using hvouched⟩

theorem followsToVouched_extended_iff (hsub : presented.Sublist extended)
    (h : verifier.FollowsToVouched leaf presented now) :
    verifier.FollowsToVouched leaf extended now ↔
      ∀ front cert rival, verifier.FirstOvertaken leaf presented extended front cert rival →
        verifier.DetourAdmitted extended now front.length cert rival := by
  obtain ⟨k, anchor, hdepth, hfirst, hself, hvouched⟩ := h
  constructor
  · rintro ⟨k', anchor', hdepth', hfirst', hself', hvouched'⟩ front cert rival hover
    have hleads := hover.leads_extended hsub
    obtain ⟨rest, hpart⟩ := hover.vouched hfirst hvouched
    obtain ⟨m, rfl, hm⟩ := hleads.firstGoal_iff.mp hfirst'
    rw [List.length_append, List.length_singleton] at hdepth'
    rw [issuerTrail, Nat.add_assoc, hleads.trail_eq, List.append_assoc, List.append_assoc] at hvouched'
    exact ⟨m, anchor', hdepth', hm, hself', (vouches_detour_iff hpart).mp hvouched'⟩
  · intro hall
    by_cases hnone : ∀ front cert rival,
        ¬ verifier.FirstOvertaken leaf presented extended front cert rival
    · obtain ⟨hfirst', htrail⟩ := firstGoal_of_not_overtaken hsub hnone hfirst
      exact ⟨k, anchor, hdepth, hfirst', hself, by rwa [htrail]⟩
    · simp only [not_forall, not_not] at hnone
      obtain ⟨front, cert, rival, hover⟩ := hnone
      have hleads := hover.leads_extended hsub
      obtain ⟨rest, hpart⟩ := hover.vouched hfirst hvouched
      obtain ⟨m, anchor', hdepth', hm, hself', hadmits⟩ := hall front cert rival hover
      refine ⟨(front ++ [cert]).length + m, anchor', ?_, hleads.firstGoal_iff.mpr ⟨m, rfl, hm⟩, hself',
        ?_⟩
      · rw [List.length_append, List.length_singleton]
        exact hdepth'
      · rw [issuerTrail, Nat.add_assoc, hleads.trail_eq, List.append_assoc, List.append_assoc]
        exact (vouches_detour_iff hpart).mpr hadmits

end Detours

end OpensslVerifier

/-- The engine is there if one of the further certificates needs it. -/
def OpensslVerifier.ReadyForExtra (verifier : OpensslVerifier X509)
    (presented extended : List (Certificate X509)) : Prop :=
  ∀ cert ∈ extended, cert ∉ presented → cert.signatureAlg.isGost = true →
    ensureEngineLoaded X509 verifier.gostEnginePath = .ok ()

theorem OpensslVerifier.engineReady_extended_iff {verifier : OpensslVerifier X509}
    {leaf : Certificate X509} {presented extended : List (Certificate X509)}
    (h : verifier.EngineReady
      (leaf :: presented ++ verifier.intermediates ++ verifier.anchors)) :
    verifier.EngineReady (leaf :: extended ++ verifier.intermediates ++ verifier.anchors) ↔
      verifier.ReadyForExtra presented extended := by
  constructor
  · intro hready cert hcert _
    exact hready cert (by simp [hcert])
  · intro hready cert hcert
    by_cases hold : cert ∈ leaf :: presented ++ verifier.intermediates ++ verifier.anchors
    · exact h cert hold
    · simp only [List.cons_append, List.mem_cons, List.mem_append, not_or] at hcert hold
      exact hready cert (by tauto) hold.2.1.1

/-- Certificates that are presented besides those of an accepted leaf change nothing while the
engine is there for those of them that need it and none stands in front of an issuer that was
taken. In general the leaf is still accepted exactly if the engine is there and, at the first
certificate that is given another issuer, the way from that issuer on is one that the passes
admit. -/
theorem verifyAt_extra_iff (verifier : OpensslVerifier X509) (leaf : Certificate X509)
    (now : SystemTime) (presented extended : List (Certificate X509))
    (hsub : presented.Sublist extended)
    (haccepted : ∃ v, verifier.verifyAt leaf presented now = .ok v) :
    (verifier.ReadyForExtra presented extended →
      (∀ front cert rival,
        ¬ verifier.FirstOvertaken leaf presented extended front cert rival) →
      verifier.verifyAt leaf extended now = verifier.verifyAt leaf presented now) ∧
    ((∃ v, verifier.verifyAt leaf extended now = .ok v) ↔
      verifier.ReadyForExtra presented extended ∧
        ∀ front cert rival, verifier.FirstOvertaken leaf presented extended front cert rival →
          verifier.DetourAdmitted extended now front.length cert rival) := by
  obtain ⟨hengine, hleaf, hfollows⟩ := OpensslVerifier.exists_verifyAt_eq_ok_iff.mp haccepted
  have hready : verifier.EngineReady
      (leaf :: extended ++ verifier.intermediates ++ verifier.anchors) ↔
        verifier.ReadyForExtra presented extended :=
    OpensslVerifier.engineReady_extended_iff hengine
  constructor
  · -- nothing is overtaken, so both searches build the same chain
    intro hextra hnone
    obtain ⟨k, anchor, hdepth, hfirst, hself, -⟩ := hfollows
    obtain ⟨hfirst', htrail⟩ := OpensslVerifier.firstGoal_of_not_overtaken hsub hnone hfirst
    have hbuild := buildChain_eq_ok_iff.mpr ⟨k, anchor, hdepth, hfirst, hself, rfl⟩
    have hbuild' := buildChain_eq_ok_iff.mpr ⟨k, anchor, hdepth, hfirst', hself, rfl⟩
    rw [htrail] at hbuild'
    rw [OpensslVerifier.verifyAt, OpensslVerifier.verifyAt, hbuild, hbuild',
      OpensslVerifier.ensureLoadedIfAnyGost_eq_ok_iff.mpr hengine,
      OpensslVerifier.ensureLoadedIfAnyGost_eq_ok_iff.mpr (hready.mpr hextra)]
  · rw [OpensslVerifier.exists_verifyAt_eq_ok_iff, hready,
      OpensslVerifier.followsToVouched_extended_iff hsub hfollows]
    constructor
    · rintro ⟨hextra, -, hdetours⟩
      exact ⟨hextra, hdetours⟩
    · rintro ⟨hextra, hdetours⟩
      exact ⟨hextra, hleaf, hdetours⟩

namespace RecordX509

/-- The deployment with the intermediate in its local store. -/
def poolVerifier : OpensslVerifier RecordX509 :=
  { deploymentVerifier with intermediates := [intermediate.certificate] }

/-- A sibling of the intermediate that has expired. -/
def expiredSibling : RecordX509 :=
  { intermediate with serial := "12", notBefore := -200, notAfter := -100 }

/-- A sibling of the intermediate with another key. -/
def rekeyedSibling : RecordX509 := { intermediate with serial := "22", key := "rekeyed" }

end RecordX509

open RecordX509 in
theorem poolVerifier_verdicts :
    (poolVerifier.verifyAt leafBelow.certificate [] 5).isOk = true ∧
      poolVerifier.verifyAt leafBelow.certificate [expiredSibling.certificate] 5 =
        .error (.validity "intermediate expired") ∧
      poolVerifier.verifyAt leafBelow.certificate [rekeyedSibling.certificate] 5 =
        .error (.badSignature 0) := by
  decide +kernel

open RecordX509 in
/-- The expired sibling stands in front of the local intermediate. -/
theorem expiredSibling_overtakes :
    poolVerifier.FirstOvertaken leafBelow.certificate [] [expiredSibling.certificate] []
      leafBelow.certificate expiredSibling.certificate :=
  ⟨.here, by decide +kernel, fun c hc => absurd hc List.not_mem_nil, by decide +kernel,
    by decide +kernel⟩

open RecordX509 in
theorem verifyAt_extra_iff_expiredSibling :
    List.Sublist [] [expiredSibling.certificate] ∧
      (∃ v, poolVerifier.verifyAt leafBelow.certificate [] 5 = .ok v) ∧
      ¬ (poolVerifier.ReadyForExtra [] [expiredSibling.certificate] ∧
        ∀ front cert rival,
          poolVerifier.FirstOvertaken leafBelow.certificate [] [expiredSibling.certificate] front
              cert rival →
            poolVerifier.DetourAdmitted [expiredSibling.certificate] 5 front.length cert rival) := by
  obtain ⟨haccepted, hexpired, -⟩ := poolVerifier_verdicts
  have haccepted := exists_ok_of_isOk haccepted
  refine ⟨List.nil_sublist _, haccepted, fun hcondition => ?_⟩
  obtain ⟨v, hv⟩ := (verifyAt_extra_iff poolVerifier leafBelow.certificate 5 []
    [expiredSibling.certificate] (List.nil_sublist _) haccepted).2.mpr hcondition
  rw [hexpired] at hv
  cases hv

open RecordX509 in
/-- The leaf is accepted over the local intermediate. It is refused if an expired or a
re-keyed sibling of the intermediate is presented with it. -/
theorem verifyAt_defeated_by_sibling :
    (∃ v, poolVerifier.verifyAt leafBelow.certificate [] 5 = .ok v) ∧
      poolVerifier.FirstOvertaken leafBelow.certificate [] [expiredSibling.certificate] []
        leafBelow.certificate expiredSibling.certificate ∧
      (¬ ∃ v, poolVerifier.verifyAt leafBelow.certificate [expiredSibling.certificate] 5 = .ok v) ∧
      ¬ ∃ v, poolVerifier.verifyAt leafBelow.certificate [rekeyedSibling.certificate] 5 = .ok v := by
  obtain ⟨haccepted, hexpired, hrekeyed⟩ := poolVerifier_verdicts
  refine ⟨exists_ok_of_isOk haccepted, expiredSibling_overtakes, ?_, ?_⟩
  · rw [hexpired]
    simp
  · rw [hrekeyed]
    simp

end PamCertauth.X509
