import PamCertauth.AuthContexts
import PamCertauth.TracedPrograms
import Mathlib.Data.Fintype.Basic
import Mathlib.Order.Bounds.Basic
import Mathlib.Order.Lattice

/-!
# The integrity policy of a session

Which integrity label a session gets (`mac/orchestrator.rs`). Labels are ordered by their
level and by their set of categories (`mac/label.rs`), and this order has meets. The
orchestrator asks a backend (`mac/backend.rs`) for the label of the user, bounds it by the
label of the certificate or by the configured fallback, and applies the meet. The runs of
the orchestrator are listed once, in `Decision`; its contract is
`applySessionPolicy_contract`.
-/

namespace PamCertauth

namespace IntegrityLabel

/-- The categories of a mask. -/
def categorySet (mask : UInt64) : Finset (Fin 64) :=
  Finset.univ.filter fun i => mask.toBitVec.getLsbD i

theorem mem_categorySet {mask : UInt64} {i : Fin 64} :
    i ∈ categorySet mask ↔ mask.toBitVec.getLsbD i = true := by
  simp [categorySet]

theorem categorySet_injective : Function.Injective categorySet := by
  intro a b h
  apply UInt64.toBitVec_inj.mp
  apply BitVec.eq_of_getLsbD_eq
  intro i hi
  have hmem : (⟨i, hi⟩ : Fin 64) ∈ categorySet a ↔ (⟨i, hi⟩ : Fin 64) ∈ categorySet b := by rw [h]
  rw [mem_categorySet, mem_categorySet] at hmem
  exact Bool.eq_iff_iff.mpr hmem

theorem categorySet_and (a b : UInt64) : categorySet (a &&& b) = categorySet a ∩ categorySet b := by
  ext i
  simp [mem_categorySet]

/-- The test of the source for a smaller set of categories. -/
theorem and_eq_left_iff {a b : UInt64} : a &&& b = a ↔ categorySet a ⊆ categorySet b := by
  rw [← Finset.inter_eq_left, ← categorySet_and]
  exact categorySet_injective.eq_iff.symm

def intersect (a b : IntegrityLabel) : IntegrityLabel where
  level := min a.level b.level
  categories := a.categories &&& b.categories

/-- The bound `a` of a certificate against the label `b` of the user. A bound without
categories does not restrict them. -/
def intersectCertWithUser (a b : IntegrityLabel) : IntegrityLabel where
  level := min a.level b.level
  categories := if a.categories = 0 then b.categories else a.categories &&& b.categories

def strictlyBelow (a b : IntegrityLabel) : Bool :=
  let catsSubset := a.categories &&& b.categories = a.categories
  (a.level < b.level ∧ catsSubset) ∨
    (a.level ≤ b.level ∧ a.categories ≠ b.categories ∧ catsSubset)

/-- Labels are ordered by level and categories, and the intersection is the meet. -/
instance : SemilatticeInf IntegrityLabel where
  le a b := a.level ≤ b.level ∧ categorySet a.categories ⊆ categorySet b.categories
  le_refl a := ⟨Int8.le_refl a.level, Finset.Subset.refl _⟩
  le_trans a b c hab hbc := ⟨Int8.le_trans hab.1 hbc.1, hab.2.trans hbc.2⟩
  le_antisymm a b hab hba := by
    have hlevel : a.level = b.level := Int8.le_antisymm hab.1 hba.1
    have hcategories := categorySet_injective (hab.2.antisymm hba.2)
    cases a
    cases b
    cases hlevel
    cases hcategories
    rfl
  inf := intersect
  inf_le_left a b := by
    refine ⟨Std.min_le_left, ?_⟩
    rw [intersect, categorySet_and]
    exact Finset.inter_subset_left
  inf_le_right a b := by
    refine ⟨Std.min_le_right, ?_⟩
    rw [intersect, categorySet_and]
    exact Finset.inter_subset_right
  le_inf a b c hab hac := by
    refine ⟨Std.le_min_iff.mpr ⟨hab.1, hac.1⟩, ?_⟩
    rw [intersect, categorySet_and]
    exact Finset.subset_inter hab.2 hac.2

/-- Below a label, the test of the source says that the labels differ. -/
theorem strictlyBelow_iff_ne {a b : IntegrityLabel} (h : a ≤ b) :
    a.strictlyBelow b = true ↔ a ≠ b := by
  have hsubset := and_eq_left_iff.mpr h.2
  have hlevel : a.level ≤ b.level := h.1
  have hlt : a.level < b.level ↔ a.level ≠ b.level := by
    rw [Int8.lt_iff_le_and_ne]
    exact and_iff_right hlevel
  have hne : a ≠ b ↔ a.level ≠ b.level ∨ a.categories ≠ b.categories := by
    cases a
    cases b
    rw [Ne, IntegrityLabel.mk.injEq]
    exact Decidable.not_and_iff_not_or_not
  simp only [strictlyBelow, decide_eq_true_eq]
  rw [hne, hlt]
  simp only [hsubset, hlevel, true_and, and_true]

/-- What a bound leaves of the label `m`: the labels below `m` that keep to the level of the
bound and, unless the bound names no category, to its categories. -/
def Within (bound : Option IntegrityLabel) (m l : IntegrityLabel) : Prop :=
  l ≤ m ∧ ∀ b ∈ bound, l.level ≤ b.level ∧
    (b.categories = 0 ∨ categorySet l.categories ⊆ categorySet b.categories)

theorem isGreatest_within_none (m : IntegrityLabel) : IsGreatest {l | Within none m l} m := by
  refine ⟨⟨le_refl m, ?_⟩, fun l hl => hl.1⟩
  intro b hb
  cases hb

theorem isGreatest_within_some (b m : IntegrityLabel) :
    IsGreatest {l | Within (some b) m l} (b.intersectCertWithUser m) := by
  by_cases hfree : b.categories = 0
  · -- the categories of the user survive
    have heq : b.intersectCertWithUser m = ⟨min b.level m.level, m.categories⟩ := by
      rw [intersectCertWithUser, if_pos hfree]
    rw [heq]
    refine ⟨⟨⟨Std.min_le_right, Finset.Subset.refl _⟩, ?_⟩, ?_⟩
    · intro b' hb'
      cases hb'
      exact ⟨Std.min_le_left, .inl hfree⟩
    · intro l hl
      have hlevel := (hl.2 b rfl).1
      exact ⟨Std.le_min_iff.mpr ⟨hlevel, hl.1.1⟩, hl.1.2⟩
  · -- the bound restricts both components: the meet of the labels
    have heq : b.intersectCertWithUser m = b ⊓ m := by
      rw [intersectCertWithUser, if_neg hfree]
      rfl
    rw [heq]
    refine ⟨⟨inf_le_right, ?_⟩, ?_⟩
    · intro b' hb'
      cases hb'
      exact ⟨(inf_le_left : b ⊓ m ≤ b).1, .inr (inf_le_left : b ⊓ m ≤ b).2⟩
    · intro l hl
      obtain ⟨hlevel, hcategories⟩ := hl.2 b rfl
      exact le_inf ⟨hlevel, hcategories.resolve_left hfree⟩ hl.1

end IntegrityLabel
end PamCertauth

namespace PamCertauth.Mac

open X509

inductive MacError where
  | parsec (op : String) (rc : Int32)
  | userUnknown (user : String)
  | unavailable
  | io (detail : String)
  | textFormat (detail : String)
  | capMissing
  deriving DecidableEq, Repr

def MacError.toText : MacError → String
  | parsec op rc => "parsec error: op=" ++ op ++ " rc=" ++ toString rc
  | userUnknown user => "user unknown in mic db: " ++ user
  | unavailable => "MAC subsystem unavailable"
  | io detail => "io error: " ++ detail
  | textFormat detail => "text format error: " ++ detail
  | capMissing => "missing CHMAC capability"

inductive MacRuntime where
  | active
  | disabled
  | unavailable
  deriving DecidableEq, Repr

def MacRuntime.debug : MacRuntime → String
  | active => "Active"
  | disabled => "Disabled"
  | unavailable => "Unavailable"

/-- Which backend the module uses, whatever it was built with. -/
inductive MacRuntimeMode where
  | required
  | auto
  | disabled
  deriving DecidableEq, Repr

/-- What is made of the integrity extension of the certificate. -/
inductive CertIntegrityMode where
  | required
  | optional
  | ignore
  deriving DecidableEq, Repr

structure MacPolicy where
  certIntegrity : CertIntegrityMode
  fallbackMaxIntegrity : Option IntegrityLabel
  warnOnHomedirLabelMismatch : Bool
  runtime : MacRuntimeMode
  deriving DecidableEq, Repr

def MacPolicy.default : MacPolicy where
  certIntegrity := .optional
  fallbackMaxIntegrity := none
  warnOnHomedirLabelMismatch := true
  runtime := .auto

/-- The methods of a backend that a session uses. -/
structure MacBackend (σ : Type) where
  probe : σ → MacRuntime × σ
  getUserMnkc : String → σ → Except MacError IntegrityLabel × σ
  applySession : IntegrityLabel → σ → Except MacError Unit × σ
  getFileLabel : String → σ → Except MacError IntegrityLabel × σ

/-- The backend of hosts without the kernel subsystem. -/
def stubBackend (σ : Type) : MacBackend σ where
  probe s := (.unavailable, s)
  getUserMnkc _ s := (.ok ⟨Int8.maxValue, -1⟩, s)
  applySession _ s := (.ok (), s)
  getFileLabel _ s := (.ok ⟨0, 0⟩, s)

structure SessionContext where
  pamUser : String
  pamService : String
  certIdent : CertIdent
  homeDir : Option String
  deriving DecidableEq, Repr

inductive OutcomeKind where
  | applied (label : IntegrityLabel)
  | skipped (reason : String)
  deriving DecidableEq, Repr

structure Outcome where
  kind : OutcomeKind
  deriving DecidableEq, Repr

inductive OrchestratorError where
  | certLacksExt
  | runtimeRequired (runtime : MacRuntime)
  | applyFailed (e : MacError)
  deriving DecidableEq, Repr

/-- The audit events of the orchestrator and of the choice of a backend. -/
inductive MacAudit where
  | macSkipped (reason : String)
  | macRuntimeRequired (runtime : String)
  | certLacksExt (ident : CertIdent) (pamUser pamService : String)
  | userUnknown (pamUser pamService : String)
  | fallbackUsed (pamUser pamService : String) (fallback : IntegrityLabel)
  | integrityCapped (ident : CertIdent) (pamUser pamService : String)
      (effective userMnkc : IntegrityLabel)
  | homedirLabelAbove (pamUser pamService homeDir : String) (homeLabel effective : IntegrityLabel)
  | integrityApplied (ident : CertIdent) (pamUser pamService : String) (label : IntegrityLabel)
  | applyFailed (ident : CertIdent) (pamUser pamService detail : String)
  | runtimeFallback (reason : String)
  | runtimeDisabled
  deriving DecidableEq, Repr

/-- A call of the backend with its answer, or an audit event. -/
inductive MacEvent where
  | probe (answer : MacRuntime)
  | getUserMnkc (user : String) (answer : Except MacError IntegrityLabel)
  | applySession (label : IntegrityLabel) (answer : Except MacError Unit)
  | getFileLabel (path : String) (answer : Except MacError IntegrityLabel)
  | audit (event : MacAudit)
  deriving DecidableEq

abbrev MacProg (σ : Type) := Prog σ MacEvent OrchestratorError

/-- The services for which the label of the home directory is looked at. -/
def isInteractiveService (svc : String) : Bool :=
  svc ∈ ["login", "gdm-password", "lightdm", "sddm", "kdm", "sshd", "fly-dm"]

section Orchestrator

variable {σ : Type} (backend : MacBackend σ) (policy : MacPolicy)
  (certMax : Option IntegrityLabel) (ctx : SessionContext)

def emit {ε : Type} (event : MacAudit) : Prog σ MacEvent ε Unit :=
  Prog.call (fun s => ((), s)) fun _ => .audit event

/-- Step 4: the label of the user. -/
def lookUpUser : MacProg σ IntegrityLabel := do
  let answer ← Prog.call (backend.getUserMnkc ctx.pamUser) (.getUserMnkc ctx.pamUser)
  match answer with
  | .ok m => pure m
  | .error (.userUnknown _) =>
    emit (.userUnknown ctx.pamUser ctx.pamService)
    Prog.fail (.applyFailed (.userUnknown ctx.pamUser))
  | .error e => Prog.fail (.applyFailed e)

/-- Step 5: the label of the user within the bound of the certificate, or else within the
fallback. -/
def computeEffective (userMnkc : IntegrityLabel) : MacProg σ IntegrityLabel :=
  match certMax with
  | some certBound => pure (certBound.intersectCertWithUser userMnkc)
  | none =>
    match policy.fallbackMaxIntegrity with
    | some fallback => do
      emit (.fallbackUsed ctx.pamUser ctx.pamService fallback)
      pure (fallback.intersectCertWithUser userMnkc)
    | none => pure userMnkc

/-- Step 6. -/
def auditCapping (effective userMnkc : IntegrityLabel) : MacProg σ Unit :=
  if effective.strictlyBelow userMnkc then
    emit (.integrityCapped ctx.certIdent ctx.pamUser ctx.pamService effective userMnkc)
  else pure ()

/-- Step 7: a home directory above the session is reported, and an unreadable one passed over. -/
def adviseHomeDir (effective : IntegrityLabel) : MacProg σ Unit :=
  if policy.warnOnHomedirLabelMismatch && isInteractiveService ctx.pamService then
    match ctx.homeDir with
    | none => pure ()
    | some home => do
      let answer ← Prog.call (backend.getFileLabel home) (.getFileLabel home)
      match answer with
      | .error _ => pure ()
      | .ok homeLabel =>
        if homeLabel.level > effective.level then
          emit (.homedirLabelAbove ctx.pamUser ctx.pamService home homeLabel effective)
        else pure ()
  else pure ()

/-- Step 8. -/
def applyEffective (effective : IntegrityLabel) : MacProg σ Outcome := do
  let answer ← Prog.call (backend.applySession effective) (.applySession effective)
  match answer with
  | .ok () =>
    emit (.integrityApplied ctx.certIdent ctx.pamUser ctx.pamService effective)
    pure ⟨.applied effective⟩
  | .error e =>
    emit (.applyFailed ctx.certIdent ctx.pamUser ctx.pamService e.toText)
    Prog.fail (.applyFailed e)

/-- Steps 4 to 8, behind the checks of the runtime and of the extension. -/
def enforce : MacProg σ Outcome := do
  let userMnkc ← lookUpUser backend ctx
  let effective ← computeEffective policy certMax ctx userMnkc
  auditCapping ctx effective userMnkc
  adviseHomeDir backend policy ctx effective
  applyEffective backend ctx effective

def applySessionPolicy : MacProg σ Outcome :=
  if policy.certIntegrity = .ignore then do
    emit (.macSkipped "policy_ignore")
    pure ⟨.skipped "policy_ignore"⟩
  else do
    let runtime ← Prog.call backend.probe .probe
    if runtime ≠ .active then
      -- the mode is required or optional here
      if policy.certIntegrity = .required then
        emit (.macRuntimeRequired runtime.debug)
        Prog.fail (.runtimeRequired runtime)
      else
        emit (.macSkipped "runtime_inactive")
        pure ⟨.skipped "runtime_inactive"⟩
    else if certMax = none ∧ policy.certIntegrity = .required then
      emit (.certLacksExt ctx.certIdent ctx.pamUser ctx.pamService)
      Prog.fail .certLacksExt
    else enforce backend policy certMax ctx

end Orchestrator

namespace MacEvent

def isProbe : MacEvent → Bool
  | probe _ => true
  | _ => false

def isGetUserMnkc : MacEvent → Bool
  | getUserMnkc _ _ => true
  | _ => false

def isApplySession : MacEvent → Bool
  | applySession _ _ => true
  | _ => false

def isCapped : MacEvent → Bool
  | audit (.integrityCapped _ _ _ _ _) => true
  | _ => false

def isBackendCall : MacEvent → Bool
  | audit _ => false
  | _ => true

/-- The event has no part in the choice of the label. -/
structure Aside (e : MacEvent) : Prop where
  probe : e.isProbe = false
  getUserMnkc : e.isGetUserMnkc = false
  applySession : e.isApplySession = false
  capped : e.isCapped = false

end MacEvent

section Runs

variable {σ : Type} (backend : MacBackend σ) (policy : MacPolicy)
  (certMax : Option IntegrityLabel) (ctx : SessionContext)

/-- The bound on the label of the user. -/
def bound : Option IntegrityLabel :=
  certMax.or policy.fallbackMaxIntegrity

/-- The label that step 5 computes. -/
def effectiveLabel (userMnkc : IntegrityLabel) : IntegrityLabel :=
  match bound policy certMax with
  | some b => b.intersectCertWithUser userMnkc
  | none => userMnkc

theorem effectiveLabel_isGreatest (m : IntegrityLabel) :
    IsGreatest {l | IntegrityLabel.Within (bound policy certMax) m l}
      (effectiveLabel policy certMax m) := by
  rw [effectiveLabel]
  rcases bound policy certMax with _ | b
  · exact IntegrityLabel.isGreatest_within_none m
  · exact IntegrityLabel.isGreatest_within_some b m

theorem effectiveLabel_le (m : IntegrityLabel) : effectiveLabel policy certMax m ≤ m :=
  (effectiveLabel_isGreatest policy certMax m).1.1

theorem computeEffective_run (m : IntegrityLabel) (s : σ) :
    ∃ notes, computeEffective policy certMax ctx m s =
        ⟨.ok (effectiveLabel policy certMax m), s, notes⟩ ∧ ∀ e ∈ notes, e.Aside := by
  rcases certMax with _ | b
  · rcases hfallback : policy.fallbackMaxIntegrity with _ | b
    · refine ⟨[], ?_, by simp⟩
      simp only [computeEffective, effectiveLabel, bound, hfallback]
      rfl
    · refine ⟨[.audit (.fallbackUsed ctx.pamUser ctx.pamService b)], ?_, ?_⟩
      · simp only [computeEffective, effectiveLabel, bound, hfallback]
        rfl
      · exact List.forall_mem_singleton.mpr ⟨rfl, rfl, rfl, rfl⟩
  · exact ⟨[], rfl, by simp⟩

/-- The report of a label that differs from the label of the user. -/
def cappingLog (effective m : IntegrityLabel) : List MacEvent :=
  if effective = m then [] else
    [.audit (.integrityCapped ctx.certIdent ctx.pamUser ctx.pamService effective m)]

theorem auditCapping_run {effective m : IntegrityLabel} (h : effective ≤ m) (s : σ) :
    auditCapping ctx effective m s = ⟨.ok (), s, cappingLog ctx effective m⟩ := by
  have hbelow := IntegrityLabel.strictlyBelow_iff_ne h
  by_cases heq : effective = m
  · rw [auditCapping, if_neg (by rw [hbelow]; exact not_not_intro heq), cappingLog, if_pos heq]
    rfl
  · rw [auditCapping, if_pos (hbelow.mpr heq), cappingLog, if_neg heq]
    rfl

theorem adviseHomeDir_run (effective : IntegrityLabel) (s : σ) :
    ∃ s' advice, adviseHomeDir backend policy ctx effective s = ⟨.ok (), s', advice⟩ ∧
      ∀ e ∈ advice, e.Aside := by
  rw [adviseHomeDir]
  split
  · rcases ctx.homeDir with _ | home
    · exact ⟨s, [], rfl, by simp⟩
    · simp only [Prog.call_bind_apply]
      have hread : ∀ answer, (MacEvent.getFileLabel home answer).Aside := fun answer =>
        ⟨rfl, rfl, rfl, rfl⟩
      rcases hanswer : backend.getFileLabel home s with ⟨e | homeLabel, s₁⟩
      · exact ⟨s₁, _, rfl, by simpa using hread _⟩
      · by_cases habove : homeLabel.level > effective.level
        · simp only [if_pos habove]
          refine ⟨s₁, _, rfl, List.forall_mem_cons.mpr ⟨hread _, ?_⟩⟩
          exact List.forall_mem_singleton.mpr ⟨rfl, rfl, rfl, rfl⟩
        · simp only [if_neg habove]
          exact ⟨s₁, _, rfl, by simpa using hread _⟩
  · exact ⟨s, [], rfl, by simp⟩

/-- What is reported once the backend has answered. -/
def verdict (label : IntegrityLabel) : Except MacError Unit → MacAudit
  | .ok () => .integrityApplied ctx.certIdent ctx.pamUser ctx.pamService label
  | .error e => .applyFailed ctx.certIdent ctx.pamUser ctx.pamService e.toText

/-- What the orchestrator returns once the backend has answered. -/
def conclusion (label : IntegrityLabel) : Except MacError Unit → Except OrchestratorError Outcome
  | .ok () => .ok ⟨.applied label⟩
  | .error e => .error (.applyFailed e)

theorem applyEffective_run (effective : IntegrityLabel) (s : σ) :
    applyEffective backend ctx effective s =
      ⟨conclusion effective (backend.applySession effective s).1,
        (backend.applySession effective s).2,
        [.applySession effective (backend.applySession effective s).1,
          .audit (verdict ctx effective (backend.applySession effective s).1)]⟩ := by
  simp only [applyEffective, Prog.call_bind_apply]
  rcases backend.applySession effective s with ⟨e | ⟨⟩, s₁⟩
  · rfl
  · rfl

/-- The answer of the backend to the label that is computed for the user with the label `m`. -/
def applyAnswer (m : IntegrityLabel) (s : σ) : Except MacError Unit :=
  (backend.applySession (effectiveLabel policy certMax m)
    (adviseHomeDir backend policy ctx (effectiveLabel policy certMax m) s).env).1

/-- Once the user is known, the answer of the backend to the computed label decides. -/
theorem enforce_run {m : IntegrityLabel} {s s₁ : σ} {t : List MacEvent}
    (h : lookUpUser backend ctx s = ⟨.ok m, s₁, t⟩) :
    ∃ s' notes advice, enforce backend policy certMax ctx s =
        ⟨conclusion (effectiveLabel policy certMax m)
            (applyAnswer backend policy certMax ctx m s₁), s',
          t ++ (notes ++ (cappingLog ctx (effectiveLabel policy certMax m) m ++
            (advice ++ [.applySession (effectiveLabel policy certMax m)
                (applyAnswer backend policy certMax ctx m s₁),
              .audit (verdict ctx (effectiveLabel policy certMax m)
                (applyAnswer backend policy certMax ctx m s₁))])))⟩ ∧
      (∀ n ∈ notes, n.Aside) ∧ ∀ n ∈ advice, n.Aside := by
  obtain ⟨notes, heffective, hnotes⟩ := computeEffective_run policy certMax ctx m s₁
  have hcapping := auditCapping_run ctx (effectiveLabel_le policy certMax m) s₁
  obtain ⟨s₂, advice, hhome, hadvice⟩ := adviseHomeDir_run backend policy ctx
    (effectiveLabel policy certMax m) s₁
  refine ⟨(backend.applySession (effectiveLabel policy certMax m) s₂).2, notes, advice, ?_, hnotes,
    hadvice⟩
  rw [enforce, Prog.bind_of_ok h, Prog.bind_of_ok heffective, Prog.bind_of_ok hcapping,
    Prog.bind_of_ok hhome, applyEffective_run, applyAnswer, hhome]

/-- The bound is settled before the backend is asked: a certificate that needs the extension
has it. -/
def Admitted : Prop :=
  policy.certIntegrity = .optional ∨ policy.certIntegrity = .required ∧ certMax ≠ none

/-- The log of a run in which the label `l` was passed to the backend. -/
def reachedLog (m l : IntegrityLabel) (notes advice : List MacEvent)
    (answer : Except MacError Unit) : List MacEvent :=
  .probe .active :: .getUserMnkc ctx.pamUser (.ok m) ::
    (notes ++ (cappingLog ctx l m ++
      (advice ++ [.applySession l answer, .audit (verdict ctx l answer)])))

/-- The runs of the orchestrator: what it returns and what it logs on the way. -/
inductive Decision : Except OrchestratorError Outcome → List MacEvent → Prop
  | ignored (hmode : policy.certIntegrity = .ignore) :
      Decision (.ok ⟨.skipped "policy_ignore"⟩)
        [.audit (.macSkipped "policy_ignore")]
  | inactive (runtime : MacRuntime) (hruntime : runtime ≠ .active)
      (hmode : policy.certIntegrity = .optional) :
      Decision (.ok ⟨.skipped "runtime_inactive"⟩)
        [.probe runtime, .audit (.macSkipped "runtime_inactive")]
  | runtimeRequired (runtime : MacRuntime) (hruntime : runtime ≠ .active)
      (hmode : policy.certIntegrity = .required) :
      Decision (.error (.runtimeRequired runtime))
        [.probe runtime, .audit (.macRuntimeRequired runtime.debug)]
  | certLacksExt (hmode : policy.certIntegrity = .required) (hcert : certMax = none) :
      Decision (.error .certLacksExt)
        [.probe .active, .audit (.certLacksExt ctx.certIdent ctx.pamUser ctx.pamService)]
  | lookupFailed (e shown : MacError) (notes : List MacEvent) (hnotes : ∀ n ∈ notes, n.Aside)
      (hadmitted : Admitted policy certMax) :
      Decision (.error (.applyFailed shown))
        (.probe .active :: .getUserMnkc ctx.pamUser (.error e) :: notes)
  | reached (m : IntegrityLabel) (answer : Except MacError Unit) (notes advice : List MacEvent)
      (hnotes : ∀ n ∈ notes, n.Aside) (hadvice : ∀ n ∈ advice, n.Aside)
      (hadmitted : Admitted policy certMax) :
      Decision (conclusion (effectiveLabel policy certMax m) answer)
        (reachedLog ctx m (effectiveLabel policy certMax m) notes advice answer)

theorem lookUpUser_run (s : σ) :
    (∃ m s', lookUpUser backend ctx s = ⟨.ok m, s', [.getUserMnkc ctx.pamUser (.ok m)]⟩) ∨
      ∃ e shown s' notes, lookUpUser backend ctx s =
          ⟨.error (.applyFailed shown), s', .getUserMnkc ctx.pamUser (.error e) :: notes⟩ ∧
        ∀ n ∈ notes, n.Aside := by
  simp only [lookUpUser, Prog.call_bind_apply]
  rcases hanswer : backend.getUserMnkc ctx.pamUser s with ⟨e | m, s₁⟩
  · right
    cases e with
    | userUnknown user =>
      refine ⟨.userUnknown user, _, s₁, _, rfl, ?_⟩
      exact List.forall_mem_singleton.mpr ⟨rfl, rfl, rfl, rfl⟩
    | _ => exact ⟨_, _, s₁, [], rfl, by simp⟩
  · exact .inl ⟨m, s₁, rfl⟩

theorem applySessionPolicy_decision (s : σ) :
    Decision policy certMax ctx (applySessionPolicy backend policy certMax ctx s).result
      (applySessionPolicy backend policy certMax ctx s).calls := by
  rw [applySessionPolicy]
  by_cases hignore : policy.certIntegrity = .ignore
  · rw [if_pos hignore]
    exact .ignored hignore
  rw [if_neg hignore, Prog.call_bind_apply]
  rcases hprobe : backend.probe s with ⟨runtime, s₁⟩
  by_cases hruntime : runtime ≠ .active
  · rw [if_pos hruntime]
    by_cases hrequired : policy.certIntegrity = .required
    · rw [if_pos hrequired]
      exact .runtimeRequired runtime hruntime hrequired
    · have hoptional : policy.certIntegrity = .optional := by
        cases hmode : policy.certIntegrity <;> simp_all
      rw [if_neg hrequired]
      exact .inactive runtime hruntime hoptional
  rw [if_neg hruntime]
  obtain rfl : runtime = .active := not_not.mp hruntime
  by_cases hlacks : certMax = none ∧ policy.certIntegrity = .required
  · rw [if_pos hlacks]
    exact .certLacksExt hlacks.2 hlacks.1
  have hadmitted : Admitted policy certMax := by
    rw [Admitted]
    cases hmode : policy.certIntegrity <;> simp_all
  rw [if_neg hlacks]
  rcases lookUpUser_run backend ctx s₁ with
    ⟨m, s₂, hlookup⟩ | ⟨e, shown, s₂, notes, hlookup, hnotes⟩
  · obtain ⟨s₃, notes, advice, henforce, hnotes, hadvice⟩ :=
      enforce_run backend policy certMax ctx hlookup
    rw [henforce]
    exact .reached m _ notes advice hnotes hadvice hadmitted
  · rw [enforce, Prog.bind_of_error hlookup]
    exact .lookupFailed e shown notes hnotes hadmitted

variable {backend policy certMax ctx} {s s₁ : σ}

/-- On an active backend the policy is enforced, unless a certificate lacks the label it needs. -/
theorem applySessionPolicy_of_active (hprobe : backend.probe s = (.active, s₁))
    (hadmitted : Admitted policy certMax) :
    (applySessionPolicy backend policy certMax ctx s).result =
      (enforce backend policy certMax ctx s₁).result := by
  have hmode : ¬ policy.certIntegrity = .ignore := by
    rcases hadmitted with hmode | ⟨hmode, -⟩ <;> simp [hmode]
  have hcert : ¬ (certMax = none ∧ policy.certIntegrity = .required) := by
    rcases hadmitted with hmode | ⟨-, hcert⟩
    · simp [hmode]
    · exact fun hlacks => hcert hlacks.1
  rw [applySessionPolicy, if_neg hmode, Prog.call_bind_apply, hprobe]
  simp only [ne_eq, not_true_eq_false, if_false, if_neg hcert]

theorem enforce_of_known {m : IntegrityLabel}
    (h : backend.getUserMnkc ctx.pamUser s = (.ok m, s₁)) :
    (enforce backend policy certMax ctx s).result =
      conclusion (effectiveLabel policy certMax m) (applyAnswer backend policy certMax ctx m s₁) := by
  have hlookup : lookUpUser backend ctx s = ⟨.ok m, s₁, [.getUserMnkc ctx.pamUser (.ok m)]⟩ := by
    rw [lookUpUser, Prog.call_bind_apply, h]
    rfl
  obtain ⟨s₂, notes, advice, henforce, -, -⟩ := enforce_run backend policy certMax ctx hlookup
  rw [henforce]

theorem enforce_of_lookup_error {e : MacError}
    (h : backend.getUserMnkc ctx.pamUser s = (.error e, s₁)) :
    ∃ shown, (enforce backend policy certMax ctx s).result = .error (.applyFailed shown) := by
  rcases lookUpUser_run backend ctx s with ⟨m, s₂, hlookup⟩ | ⟨e', shown, s₂, notes, hlookup, -⟩
  · rw [lookUpUser, Prog.call_bind_apply, h] at hlookup
    cases e <;> cases hlookup
  · exact ⟨shown, by rw [enforce, Prog.bind_of_error hlookup]⟩

end Runs

section Contract

variable {σ : Type} {policy : MacPolicy} {certMax : Option IntegrityLabel} {ctx : SessionContext}

/-- What a session may rely on. The greatest label within a bound satisfies it, and lies
above every other label that does. -/
structure PolicyContract (policy : MacPolicy) (certMax : Option IntegrityLabel)
    (ctx : SessionContext) (run : Run σ MacEvent OrchestratorError Outcome) : Prop where
  ignored : policy.certIntegrity = .ignore →
    (∀ e ∈ run.calls, e.isBackendCall = false) ∧ ∃ reason, run.result = .ok ⟨.skipped reason⟩
  applied : ∀ l, run.result = .ok ⟨.applied l⟩ → ∃ m,
    run.calls.filter MacEvent.isProbe = [.probe .active] ∧
    run.calls.filter MacEvent.isGetUserMnkc = [.getUserMnkc ctx.pamUser (.ok m)] ∧
    run.calls.filter MacEvent.isApplySession = [.applySession l (.ok ())] ∧
    IsGreatest {l' | IntegrityLabel.Within (bound policy certMax) m l'} l
  required : policy.certIntegrity = .required →
    (∀ reason, run.result ≠ .ok ⟨.skipped reason⟩) ∧
    ∀ l, run.result = .ok ⟨.applied l⟩ → certMax.isSome
  failed : ∀ e, run.result = .error e → ∀ l, .applySession l (.ok ()) ∉ run.calls
  capped : (∃ e ∈ run.calls, e.isCapped = true) ↔
    ∃ l m answer, .applySession l answer ∈ run.calls ∧
      .getUserMnkc ctx.pamUser (.ok m) ∈ run.calls ∧ l ≠ m

theorem conclusion_eq_applied_iff {label l : IntegrityLabel} {answer : Except MacError Unit} :
    conclusion label answer = .ok ⟨.applied l⟩ ↔ answer = .ok () ∧ label = l := by
  rcases answer with e | ⟨⟩ <;> simp [conclusion]

theorem conclusion_ne_skipped (label : IntegrityLabel) (answer : Except MacError Unit)
    (reason : String) : conclusion label answer ≠ .ok ⟨.skipped reason⟩ := by
  rcases answer with e | ⟨⟩ <;> simp [conclusion]

theorem filter_asides {p : MacEvent → Bool} (hp : ∀ n : MacEvent, n.Aside → p n = false)
    {notes : List MacEvent} (h : ∀ n ∈ notes, n.Aside) : notes.filter p = [] := by
  rw [List.filter_eq_nil_iff]
  intro n hn
  rw [hp n (h n hn)]
  exact Bool.false_ne_true

/-- Of the calls that decide about the label, a run that reached the backend made one each. -/
theorem filter_reachedLog {p : MacEvent → Bool} (hp : ∀ n : MacEvent, n.Aside → p n = false)
    (haudit : ∀ a, p (.audit a) = false) {m l : IntegrityLabel} {notes advice : List MacEvent}
    (hnotes : ∀ n ∈ notes, n.Aside) (hadvice : ∀ n ∈ advice, n.Aside)
    (answer : Except MacError Unit) :
    (reachedLog ctx m l notes advice answer).filter p =
      [.probe .active, .getUserMnkc ctx.pamUser (.ok m), .applySession l answer].filter p := by
  have hcapping : (cappingLog ctx l m).filter p = [] := by
    rw [cappingLog]
    split
    · rfl
    · rw [List.filter_singleton, haudit]
      rfl
  simp only [reachedLog, List.filter_cons, List.filter_append, filter_asides hp hnotes,
    filter_asides hp hadvice, hcapping, haudit, List.nil_append]
  rfl

theorem mem_cappingLog {m l : IntegrityLabel} (h : l ≠ m) :
    .audit (.integrityCapped ctx.certIdent ctx.pamUser ctx.pamService l m) ∈
      cappingLog ctx l m := by
  rw [cappingLog, if_neg h]
  exact List.mem_singleton_self _

theorem mem_reachedLog_of {m l : IntegrityLabel} {notes advice : List MacEvent}
    {answer : Except MacError Unit} {e : MacEvent}
    (h : e ∈ cappingLog ctx l m ∨ e = .applySession l answer ∨
      e = .getUserMnkc ctx.pamUser (.ok m)) :
    e ∈ reachedLog ctx m l notes advice answer := by
  simp only [reachedLog, List.mem_cons, List.mem_append]
  rcases h with h | rfl | rfl <;> simp [*]

theorem isCapped_of_mem_reachedLog {m l : IntegrityLabel} {notes advice : List MacEvent}
    {answer : Except MacError Unit} (hnotes : ∀ n ∈ notes, n.Aside)
    (hadvice : ∀ n ∈ advice, n.Aside) {e : MacEvent}
    (he : e ∈ reachedLog ctx m l notes advice answer) (hcapped : e.isCapped = true) :
    e ∈ cappingLog ctx l m := by
  simp only [reachedLog, List.mem_cons, List.mem_append, List.not_mem_nil, or_false] at he
  rcases he with rfl | rfl | he | he | he | rfl | rfl
  · cases hcapped
  · cases hcapped
  · rw [(hnotes e he).capped] at hcapped
    cases hcapped
  · exact he
  · rw [(hadvice e he).capped] at hcapped
    cases hcapped
  · cases hcapped
  · rcases answer with e | ⟨⟩ <;> cases hcapped

namespace Decision

variable {result : Except OrchestratorError Outcome} {calls : List MacEvent}

theorem ignored_silent (h : Decision policy certMax ctx result calls)
    (hmode : policy.certIntegrity = .ignore) :
    (∀ e ∈ calls, e.isBackendCall = false) ∧ ∃ reason, result = .ok ⟨.skipped reason⟩ := by
  have hclosed : ¬ Admitted policy certMax := by simp [Admitted, hmode]
  cases h with
  | ignored _ =>
    refine ⟨?_, _, rfl⟩
    intro e he
    rw [List.mem_singleton.mp he]
    rfl
  | inactive _ _ hmode' => simp [hmode] at hmode'
  | runtimeRequired _ _ hmode' => simp [hmode] at hmode'
  | certLacksExt hmode' _ => simp [hmode] at hmode'
  | lookupFailed _ _ _ _ hadmitted => exact absurd hadmitted hclosed
  | reached _ _ _ _ _ _ hadmitted => exact absurd hadmitted hclosed

theorem applied (h : Decision policy certMax ctx result calls) {l : IntegrityLabel}
    (hresult : result = .ok ⟨.applied l⟩) : Admitted policy certMax ∧ ∃ m,
      calls.filter MacEvent.isProbe = [.probe .active] ∧
      calls.filter MacEvent.isGetUserMnkc = [.getUserMnkc ctx.pamUser (.ok m)] ∧
      calls.filter MacEvent.isApplySession = [.applySession l (.ok ())] ∧
      l = effectiveLabel policy certMax m := by
  cases h with
  | reached m answer notes advice hnotes hadvice hadmitted =>
    obtain ⟨rfl, rfl⟩ := conclusion_eq_applied_iff.mp hresult
    refine ⟨hadmitted, m, ?_, ?_, ?_, rfl⟩
    · rw [filter_reachedLog (fun n hn => hn.probe) (fun _ => rfl) hnotes hadvice]
      rfl
    · rw [filter_reachedLog (fun n hn => hn.getUserMnkc) (fun _ => rfl) hnotes hadvice]
      rfl
    · rw [filter_reachedLog (fun n hn => hn.applySession) (fun _ => rfl) hnotes hadvice]
      rfl
  | _ => cases hresult

theorem ne_skipped (h : Decision policy certMax ctx result calls)
    (hmode : policy.certIntegrity = .required) (reason : String) :
    result ≠ .ok ⟨.skipped reason⟩ := by
  cases h with
  | ignored hmode' => simp [hmode] at hmode'
  | inactive _ _ hmode' => simp [hmode] at hmode'
  | reached m answer => exact conclusion_ne_skipped _ answer reason
  | _ => simp

/-- The calls of `apply_session`, with their answers. -/
theorem mem_applySession (h : Decision policy certMax ctx result calls) {l : IntegrityLabel}
    {answer : Except MacError Unit} (hmem : .applySession l answer ∈ calls) :
    result = conclusion l answer := by
  have hfilter := List.mem_filter.mpr ⟨hmem, (rfl : MacEvent.isApplySession _ = true)⟩
  cases h with
  | reached m answer' notes advice hnotes hadvice hadmitted =>
    rw [filter_reachedLog (fun n hn => hn.applySession) (fun _ => rfl) hnotes hadvice] at hfilter
    cases List.mem_singleton.mp hfilter
    rfl
  | lookupFailed e shown notes hnotes hadmitted =>
    rw [List.filter_cons, List.filter_cons, filter_asides (fun n hn => hn.applySession) hnotes]
      at hfilter
    cases hfilter
  | _ => simp at hmem

theorem capped_iff (h : Decision policy certMax ctx result calls) :
    (∃ e ∈ calls, e.isCapped = true) ↔
      ∃ l m answer, .applySession l answer ∈ calls ∧
        .getUserMnkc ctx.pamUser (.ok m) ∈ calls ∧ l ≠ m := by
  cases h with
  | reached m answer notes advice hnotes hadvice hadmitted =>
    constructor
    · rintro ⟨e, he, hcapped⟩
      have hmem := isCapped_of_mem_reachedLog hnotes hadvice he hcapped
      have hne : effectiveLabel policy certMax m ≠ m := by
        intro heq
        rw [cappingLog, if_pos heq] at hmem
        cases hmem
      exact ⟨_, m, answer, mem_reachedLog_of (.inr (.inl rfl)), mem_reachedLog_of (.inr (.inr rfl)),
        hne⟩
    · rintro ⟨l, m', answer', happly, hlookup, hne⟩
      have happly' := List.mem_filter.mpr ⟨happly, (rfl : MacEvent.isApplySession _ = true)⟩
      have hlookup' := List.mem_filter.mpr ⟨hlookup, (rfl : MacEvent.isGetUserMnkc _ = true)⟩
      rw [filter_reachedLog (fun n hn => hn.applySession) (fun _ => rfl) hnotes hadvice] at happly'
      rw [filter_reachedLog (fun n hn => hn.getUserMnkc) (fun _ => rfl) hnotes hadvice] at hlookup'
      cases List.mem_singleton.mp happly'
      cases List.mem_singleton.mp hlookup'
      refine ⟨_, mem_reachedLog_of (.inl (mem_cappingLog hne)), rfl⟩
  | lookupFailed e shown notes hnotes hadmitted =>
    constructor
    · rintro ⟨n, hn, hcapped⟩
      rcases List.mem_cons.mp hn with rfl | hn
      · cases hcapped
      · rcases List.mem_cons.mp hn with rfl | hn
        · cases hcapped
        · rw [(hnotes n hn).capped] at hcapped
          cases hcapped
    · rintro ⟨l, m, answer, happly, -, -⟩
      rcases List.mem_cons.mp happly with heq | happly
      · cases heq
      · rcases List.mem_cons.mp happly with heq | happly
        · cases heq
        · cases (hnotes _ happly).applySession
  | _ => simp [MacEvent.isCapped]

end Decision

end Contract

/-- The contract of `apply_session_policy`. -/
theorem applySessionPolicy_contract {σ : Type} (backend : MacBackend σ) (policy : MacPolicy)
    (certMax : Option IntegrityLabel) (ctx : SessionContext) (s : σ) :
    PolicyContract policy certMax ctx (applySessionPolicy backend policy certMax ctx s) := by
  have hdecision := applySessionPolicy_decision backend policy certMax ctx s
  refine ⟨hdecision.ignored_silent, ?_, ?_, ?_, hdecision.capped_iff⟩
  · intro l hresult
    obtain ⟨-, m, hprobe, hlookup, happly, rfl⟩ := hdecision.applied hresult
    exact ⟨m, hprobe, hlookup, happly, effectiveLabel_isGreatest policy certMax m⟩
  · intro hrequired
    refine ⟨hdecision.ne_skipped hrequired, ?_⟩
    intro l hresult
    rcases (hdecision.applied hresult).1 with hoptional | ⟨-, hcert⟩
    · rw [hrequired] at hoptional
      cases hoptional
    · exact Option.isSome_iff_ne_none.mpr hcert
  · intro e hresult l hmem
    have hok := hdecision.mem_applySession hmem
    rw [hresult] at hok
    cases hok

/-- An active backend that knows one label and refuses nothing. -/
def labelledBackend (m : IntegrityLabel) : MacBackend Unit where
  probe s := (.active, s)
  getUserMnkc _ s := (.ok m, s)
  applySession _ s := (.ok (), s)
  getFileLabel _ s := (.ok ⟨0, 0⟩, s)

def aliceContext : SessionContext := ⟨"alice", "login", ⟨"0A", "root", "engineer", "f1"⟩, none⟩

/-- A certificate for level 1 that names no category lowers the level and leaves the
categories of the user. -/
theorem applySessionPolicy_contract_lowered :
    IsGreatest {l | IntegrityLabel.Within (some ⟨1, 0⟩) ⟨3, 5⟩ l} ⟨1, 5⟩ ∧
      ∃ e ∈ (applySessionPolicy (labelledBackend ⟨3, 5⟩) .default (some ⟨1, 0⟩) aliceContext
        ()).calls, e.isCapped = true := by
  have hcontract := applySessionPolicy_contract (labelledBackend ⟨3, 5⟩) .default (some ⟨1, 0⟩)
    aliceContext ()
  obtain ⟨m, -, hlookup, -, hgreatest⟩ := hcontract.applied ⟨1, 5⟩ (by decide +kernel)
  have hm : [MacEvent.getUserMnkc "alice" (.ok ⟨3, 5⟩)] = [.getUserMnkc "alice" (.ok m)] := hlookup
  cases hm
  exact ⟨hgreatest, hcontract.capped.mpr
    ⟨⟨1, 5⟩, ⟨3, 5⟩, .ok (), by decide +kernel, by decide +kernel, by decide⟩⟩

end PamCertauth.Mac
