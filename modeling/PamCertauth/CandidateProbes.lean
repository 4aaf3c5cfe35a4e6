import PamCertauth.CredentialPaths
import PamCertauth.MountGuards
import PamCertauth.PinPrompts
import PamCertauth.UserAuthorization

/-!
# Candidates that cannot be used

What trying a candidate shows, in the environment that the candidates before it have left.
The loop of `authenticate_pkcs12` passes over candidates without a bundle and over bundles
that are none. A candidate that does not mount ends it, so that a usable one behind it is
never reached (`authenticatePkcs12_reaches_pin_iff`).
-/

namespace PamCertauth.Flow

open X509 X509.CryptoLibrary

variable {σ X509 : Type} [CryptoLibrary X509]

/-- What trying a candidate shows. -/
inductive Probe where
  | unmountable (e : MountError)
  | missing (path : String)
  | invalid (e : Pkcs12.P12EnvelopeError)
  | unreadable (e : DiscoveryError)
  | usable (session : MountSession) (creds : DiscoveredCreds)
  deriving DecidableEq

namespace Probe

/-- The candidate does not mount, has no bundle or has one that is none. -/
def PassedOver : Probe → Prop
  | unmountable _ => True
  | missing _ => True
  | invalid _ => True
  | unreadable _ => False
  | usable _ _ => False

def Mounts : Probe → Prop
  | unmountable _ => False
  | _ => True

end Probe

section

variable (X509) (io : FlowIo σ) (pattern pamUser : String)

/-- Try one candidate; only one that is usable stays mounted. -/
def probe (dev : UsbDevice) (s : σ) : Probe × σ :=
  match io.mount dev s with
  | (.error e, s₁) => (.unmountable e, s₁)
  | (.ok session, s₁) =>
    match io.discover session.mountpoint pattern pamUser s₁ with
    | (.error (.p12NotFound path), s₂) => (.missing path, io.unmount session s₂)
    | (.error other, s₂) => (.unreadable other, io.unmount session s₂)
    | (.ok creds, s₂) =>
      match Pkcs12.validateP12Envelope X509 creds.p12Bytes with
      | .error e => (.invalid e, io.unmount session s₂)
      | .ok () => (.usable session creds, s₂)

/-- Try all of them in turn, whatever each of them shows. -/
def probes : List UsbDevice → σ → List Probe × σ
  | [], s => ([], s)
  | dev :: devs, s =>
    let first := probe X509 io pattern pamUser dev s
    let rest := probes devs first.2
    (first.1 :: rest.1, rest.2)

end

section

variable {io : FlowIo σ} {login : Login} {pattern : String} {dev : UsbDevice}
  {devs : List UsbDevice} {lastDiscoveryErr : Option DiscoveryError}
  {lastEnvelopeErr : Option Pkcs12.P12EnvelopeError} {s s₁ : σ}

/-- A candidate that does not mount ends the loop. -/
theorem bindCandidate_of_unmountable {e : MountError}
    (h : probe X509 io pattern login.pamUser dev s = (.unmountable e, s₁)) :
    ∃ s' log, (bindCandidate io login pattern (dev :: devs) lastDiscoveryErr lastEnvelopeErr :
      FlowProg σ X509 _) s = ⟨.error (.error (.mount e)), s', log⟩ := by
  rw [probe] at h
  split at h
  · rename_i e' s' hmount
    cases h
    exact ⟨_, _, Prog.bind_of_error (Prog.request_of_error hmount)⟩
  · split at h
    · cases h
    · cases h
    · split at h <;> cases h

/-- A candidate without a usable bundle that mounts does not. -/
theorem bindCandidate_of_passedOver {p : Probe}
    (h : probe X509 io pattern login.pamUser dev s = (p, s₁)) (hpassed : p.PassedOver)
    (hmounts : p.Mounts) :
    ∃ lastDiscoveryErr' lastEnvelopeErr' t,
      let rest : FlowProg σ X509 _ :=
        bindCandidate io login pattern devs lastDiscoveryErr' lastEnvelopeErr'
      (bindCandidate io login pattern (dev :: devs) lastDiscoveryErr lastEnvelopeErr :
        FlowProg σ X509 _) s = ⟨(rest s₁).result, (rest s₁).env, t ++ (rest s₁).calls⟩ := by
  rw [probe] at h
  split at h
  · cases h
    exact hmounts.elim
  · rename_i session s₂ hmount
    split at h
    · rename_i path s₃ hfound
      cases h
      refine ⟨some (.p12NotFound path), lastEnvelopeErr,
        lookedAt X509 pattern login.pamUser dev session (.error (.p12NotFound path)), ?_⟩
      rw [bindCandidate, ask, Prog.bind_of_ok (Prog.request_of_ok hmount), Prog.call_bind_apply,
        hfound]
      rfl
    · cases h
      exact hpassed.elim
    · rename_i creds s₃ hfound
      split at h
      · rename_i e henvelope
        cases h
        refine ⟨lastDiscoveryErr, some e,
          lookedAt X509 pattern login.pamUser dev session (.ok creds), ?_⟩
        rw [bindCandidate, ask, Prog.bind_of_ok (Prog.request_of_ok hmount), Prog.call_bind_apply,
          hfound]
        simp only [henvelope]
        rfl
      · cases h
        exact hpassed.elim

theorem bindCandidate_of_usable {session : MountSession} {creds : DiscoveredCreds}
    (h : probe X509 io pattern login.pamUser dev s = (.usable session creds, s₁)) :
    ∃ log, (bindCandidate io login pattern (dev :: devs) lastDiscoveryErr lastEnvelopeErr :
      FlowProg σ X509 _) s = ⟨.ok (dev, session, creds), s₁, log⟩ := by
  rw [probe] at h
  split at h
  · cases h
  · rename_i session' s₂ hmount
    split at h
    · cases h
    · cases h
    · rename_i creds' s₃ hfound
      split at h
      · cases h
      · rename_i henvelope
        cases h
        refine ⟨taken X509 pattern login.pamUser dev session creds, ?_⟩
        rw [bindCandidate, ask, Prog.bind_of_ok (Prog.request_of_ok hmount), Prog.call_bind_apply,
          hfound]
        simp only [henvelope]
        rfl

end

section

variable {io : FlowIo σ} {login : Login} {pattern : String} {before : List UsbDevice}
  {s : σ}

/-- While the candidates mount, the loop gets past them. -/
theorem bindCandidate_of_mounts {dev : UsbDevice} {session : MountSession}
    {creds : DiscoveredCreds} {s' : σ}
    (hpassed : ∀ p ∈ (probes X509 io pattern login.pamUser before s).1, p.PassedOver)
    (hmounts : ∀ p ∈ (probes X509 io pattern login.pamUser before s).1, p.Mounts)
    (husable : probe X509 io pattern login.pamUser dev
      (probes X509 io pattern login.pamUser before s).2 = (.usable session creds, s'))
    (after : List UsbDevice) (lastDiscoveryErr : Option DiscoveryError)
    (lastEnvelopeErr : Option Pkcs12.P12EnvelopeError) :
    ∃ log, (bindCandidate io login pattern (before ++ dev :: after) lastDiscoveryErr
      lastEnvelopeErr : FlowProg σ X509 _) s = ⟨.ok (dev, session, creds), s', log⟩ := by
  induction before generalizing s lastDiscoveryErr lastEnvelopeErr with
  | nil => exact bindCandidate_of_usable husable
  | cons first before ih =>
    rw [probes, List.forall_mem_cons] at hpassed hmounts
    rcases hfirst : probe X509 io pattern login.pamUser first s with ⟨p, s₁⟩
    rw [hfirst] at hpassed hmounts
    rw [probes, hfirst] at husable
    obtain ⟨lastDiscoveryErr', lastEnvelopeErr', t, hstep⟩ :=
      bindCandidate_of_passedOver hfirst hpassed.1 hmounts.1
    obtain ⟨log, hrest⟩ := ih hpassed.2 hmounts.2 husable lastDiscoveryErr' lastEnvelopeErr'
    refine ⟨t ++ log, ?_⟩
    rw [List.cons_append, hstep, hrest]

/-- One that does not mount ends the flow. -/
theorem bindCandidate_of_not_mounts
    (hpassed : ∀ p ∈ (probes X509 io pattern login.pamUser before s).1, p.PassedOver)
    (hmounts : ¬ ∀ p ∈ (probes X509 io pattern login.pamUser before s).1, p.Mounts)
    (behind : List UsbDevice) (lastDiscoveryErr : Option DiscoveryError)
    (lastEnvelopeErr : Option Pkcs12.P12EnvelopeError) :
    ∃ e s' log, (bindCandidate io login pattern (before ++ behind) lastDiscoveryErr
      lastEnvelopeErr : FlowProg σ X509 _) s = ⟨.error (.error (.mount e)), s', log⟩ := by
  induction before generalizing s lastDiscoveryErr lastEnvelopeErr with
  | nil => exact absurd (by simp [probes]) hmounts
  | cons first before ih =>
    rw [probes, List.forall_mem_cons] at hpassed hmounts
    rcases hfirst : probe X509 io pattern login.pamUser first s with ⟨p, s₁⟩
    rw [hfirst] at hpassed hmounts
    by_cases hp : p.Mounts
    · obtain ⟨lastDiscoveryErr', lastEnvelopeErr', t, hstep⟩ :=
        bindCandidate_of_passedOver hfirst hpassed.1 hp
      obtain ⟨e, s', log, hrest⟩ :=
        ih hpassed.2 (fun h => hmounts ⟨hp, h⟩) lastDiscoveryErr' lastEnvelopeErr'
      refine ⟨e, s', t ++ log, ?_⟩
      rw [List.cons_append, hstep, hrest]
    · cases p with
      | unmountable e => exact ⟨e, bindCandidate_of_unmountable hfirst⟩
      | missing path => exact absurd trivial hp
      | invalid e => exact absurd trivial hp
      | unreadable e => exact hpassed.1.elim
      | usable session creds => exact hpassed.1.elim

end

/-- The first prompt for a PIN is about these bytes: the PIN that is entered is tried on
them. -/
def AsksPinFor (bytes : Bytes) (log : List (PinEvent X509)) : Prop :=
  ∃ (before : List (Call X509)) (answer : Except PamConvError String)
    (rest : List (PinEvent X509)),
    log = before.map .call ++ .call (.prompt "Smart-card PIN: " answer) :: rest ∧
      (∀ c ∈ before, ¬ c.AsksPin) ∧
      ∀ pin, answer = .ok pin → ∃ rest', rest = .tried bytes pin :: rest'

theorem not_asksPinFor_map {bytes : Bytes} {log : List (Call X509)}
    (h : ∀ c ∈ log, ¬ c.AsksPin) : ¬ AsksPinFor bytes (log.map .call) := by
  rintro ⟨before, answer, rest, hlog, -, -⟩
  have hmem : PinEvent.call (.prompt "Smart-card PIN: " answer) ∈ log.map .call := by
    rw [hlog]
    simp
  obtain ⟨c, hc, hprompt⟩ := List.mem_map.mp hmem
  cases hprompt
  exact h _ hc trivial

variable (X509) in
theorem acquireObserved_asks (promptPin : PinPrompter σ) (bytes : Bytes) (tries : ℕ) (s : σ) :
    ∃ answer rest, ((acquireObserved promptPin bytes (tries + 1) :
        Prog σ (PinEvent X509) _ (Pkcs12.LoadedKeyMaterial X509)) s).calls =
          .call (.prompt "Smart-card PIN: " answer) :: rest ∧
      ∀ pin, answer = .ok pin → ∃ rest', rest = .tried bytes pin :: rest' := by
  rw [acquireObserved]
  rcases hprompt : promptPin "Smart-card PIN: " s with ⟨e | pin, s₁⟩
  · rw [Prog.bind_of_error (observe_apply (Prog.request_of_error hprompt))]
    exact ⟨.error e, [], rfl, fun pin hpin => by cases hpin⟩
  · rw [Prog.bind_of_ok (observe_apply (Prog.request_of_ok hprompt))]
    refine ⟨.ok pin, _, rfl, fun pin' hpin => ?_⟩
    cases hpin
    exact ⟨_, rfl⟩

section

variable (deps : Deps σ X509) (platform : Platform σ X509) (io : FlowIo σ)
  (promptPin : PinPrompter σ) (login : Login)

/-- Behind the loop the first thing that happens is the prompt. -/
theorem withBoundDeviceObserved_asks (dev : UsbDevice) (session : MountSession)
    (creds : DiscoveredCreds) (s : σ) :
    ∃ answer rest,
      (withBoundDeviceObserved deps platform io promptPin login dev session creds s).calls =
        .call (.prompt "Smart-card PIN: " answer) :: rest ∧
      ∀ pin, answer = .ok pin → ∃ rest', rest = .tried creds.p12Bytes pin :: rest' := by
  obtain ⟨answer, rest, hcalls, htried⟩ :=
    acquireObserved_asks X509 promptPin creds.p12Bytes 2 s
  obtain ⟨-, extra, hbody⟩ := Prog.continues_onFailure
    (Prog.attempt (acquireObserved promptPin creds.p12Bytes 3) >>= fun acquired =>
      observe (afterAttempts io creds.p12Bytes acquired >>=
        afterPin deps platform io login dev session creds))
    (observe (notify (io.unmount session) (.unmount session))) s
  rw [Prog.attempt_bind_apply, hcalls] at hbody
  refine ⟨answer, _, hbody, fun pin hpin => ?_⟩
  obtain ⟨rest', rfl⟩ := htried pin hpin
  exact ⟨_, rfl⟩

/-- Behind candidates that are passed over, the flow asks for the PIN of a usable one exactly
if all of them have mounted; otherwise it asks for no PIN at all. -/
theorem authenticatePkcs12_reaches_pin_iff {s s₁ s₂ s₃ : σ}
    {hooks : List (Call X509)} {before after : List UsbDevice} {dev : UsbDevice}
    {session : MountSession} {creds : DiscoveredCreds} {pattern : String}
    (hpattern : pattern = deps.cfg.pkcs12PathPattern.getD defaultPkcs12PathPattern)
    (hhooks : preAuthHooks deps login s = ⟨.ok (), s₁, hooks⟩)
    (hwait : io.waitForUsb s₁ = (.ok (before ++ dev :: after), s₂))
    (hpassed : ∀ p ∈ (probes X509 io pattern login.pamUser before s₂).1, p.PassedOver)
    (husable : probe X509 io pattern login.pamUser dev
      (probes X509 io pattern login.pamUser before s₂).2 = (.usable session creds, s₃)) :
    let r := authenticatePkcs12Observed deps platform io promptPin login s
    authenticatePkcs12 deps platform io promptPin login s = ⟨r.result, r.env, callsOf r.calls⟩ ∧
      (AsksPinFor creds.p12Bytes r.calls ↔
        ∀ p ∈ (probes X509 io pattern login.pamUser before s₂).1, p.Mounts) := by
  intro r
  have hsame : authenticatePkcs12 deps platform io promptPin login s =
      ⟨r.result, r.env, callsOf r.calls⟩ := by
    rw [← authenticatePkcs12Observed_project]
    rfl
  refine ⟨hsame, ?_⟩
  have hisHook : ∀ c ∈ (preAuthHooks deps login s).calls, c.IsHook := preAuthHooks_isHook s
  rw [hhooks] at hisHook
  -- Nothing up to the end of the loop is a prompt.
  have hquiet {log : List (Call X509)} (hlog : ∀ c ∈ log, c.OnDevice) :
      ∀ c ∈ hooks ++ .waitForUsb (.ok (before ++ dev :: after)) :: log, ¬ c.AsksPin := by
    intro c hc
    rcases List.mem_append.mp hc with hc | hc
    · exact (hisHook c hc).not_asksPin
    · rcases List.mem_cons.mp hc with rfl | hc
      · exact not_false
      · exact (hlog c hc).not_asksPin
  have hask : (ask io.waitForUsb .waitForUsb .usb : FlowProg σ X509 _) s₁ =
      ⟨.ok (before ++ dev :: after), s₂, [.waitForUsb (.ok (before ++ dev :: after))]⟩ :=
    Prog.request_of_ok hwait
  have hr : r = _ := Prog.bind_of_ok (observe_apply hhooks)
  rw [Prog.bind_of_ok (observe_apply hask), ← hpattern] at hr
  have hloop := bindCandidate_loopRun X509 io login pattern (before ++ dev :: after) none none s₂
  by_cases hmounts : ∀ p ∈ (probes X509 io pattern login.pamUser before s₂).1, p.Mounts
  · refine iff_of_true ?_ hmounts
    obtain ⟨log, hbind⟩ := bindCandidate_of_mounts hpassed hmounts husable after none none
    rw [hbind] at hloop
    rw [Prog.bind_of_ok (observe_apply hbind)] at hr
    obtain ⟨answer, rest, hcalls, htried⟩ :=
      withBoundDeviceObserved_asks deps platform io promptPin login dev session creds s₃
    refine ⟨_, answer, rest, ?_, hquiet hloop.onDevice, htried⟩
    rw [hr, hcalls]
    simp
  · refine iff_of_false ?_ hmounts
    obtain ⟨e, s', log, hbind⟩ :=
      bindCandidate_of_not_mounts hpassed hmounts (dev :: after) none none
    rw [hbind] at hloop
    rw [Prog.bind_of_error (observe_apply hbind)] at hr
    have hcalls : r.calls =
        (hooks ++ .waitForUsb (.ok (before ++ dev :: after)) :: log).map .call := by
      rw [hr]
      simp
    rw [hcalls]
    exact not_asksPinFor_map (hquiet hloop.onDevice)

end

section Sample

open RecordX509

/-- A kernel that mounts everything. -/
def obligingOs : MountOs Unit where
  pathExists _ _ := true
  mount _ _ _ s := (.ok (), s)

def isoImage : UsbDevice := ⟨"/dev/sda", none, 0x0951, 0x1666, some "iso9660"⟩

def emptyPartition : UsbDevice := ⟨"/dev/sdb1", none, 0x0951, 0x1666, some "vfat"⟩

def bundlePartition : UsbDevice := ⟨"/dev/sdb2", none, 0x0951, 0x1666, some "vfat"⟩

/-- Only the partition with the bundle has a file. -/
def partitionFs : Discovery.DiscoveryFs Unit where
  isFile path s := (path = "/run/usb/dev/sdb2/certs/user.p12", s)
  metadataLen _ s := (.ok 2, s)
  read _ s := (.ok (utf8Bytes leafUnbound.serial), s)

def partitionIo (devices : List UsbDevice) : FlowIo Unit where
  waitForUsb s := (.ok devices, s)
  mount dev s :=
    let mountpoint := "/run/usb" ++ dev.devnode
    let answer := mountUsbDevice obligingOs dev mountpoint s
    (answer.1.map fun _ => ⟨mountpoint, 0⟩, answer.2)
  unmount _ s := s
  discover := Discovery.discover partitionFs
  showInfo _ s := s

def bundleSession : MountSession := ⟨"/run/usb/dev/sdb2", 0⟩

def bundleCreds : DiscoveredCreds :=
  ⟨"/run/usb/dev/sdb2/certs/user.p12", utf8Bytes leafUnbound.serial, none⟩

theorem probe_bundlePartition (devices : List UsbDevice) :
    probe RecordX509 (partitionIo devices) "certs/user.p12" "alice" bundlePartition () =
      (.usable bundleSession bundleCreds, ()) := by
  -- The list of devices plays no part in trying one of them.
  change probe RecordX509 (partitionIo []) "certs/user.p12" "alice" bundlePartition () = _
  decide +kernel

theorem reaches_pin_behind_emptyPartition :
    AsksPinFor bundleCreds.p12Bytes
      (authenticatePkcs12Observed (recordDeps []) recordPlatform
        (partitionIo [emptyPartition, bundlePartition]) recordPin aliceLogin ()).calls := by
  have hwait : (partitionIo [emptyPartition, bundlePartition]).waitForUsb () =
      (.ok ([emptyPartition] ++ bundlePartition :: []), ()) := rfl
  have hprobes : (probes RecordX509 (partitionIo [emptyPartition, bundlePartition])
      "certs/user.p12" "alice" [emptyPartition] ()).1 = [.missing "certs/user.p12"] := by
    decide +kernel
  have hmem : ∀ p ∈ (probes RecordX509 (partitionIo [emptyPartition, bundlePartition])
      "certs/user.p12" "alice" [emptyPartition] ()).1, p.PassedOver ∧ p.Mounts := by
    rw [hprobes]
    exact List.forall_mem_singleton.mpr ⟨trivial, trivial⟩
  refine (authenticatePkcs12_reaches_pin_iff (recordDeps []) recordPlatform
    (partitionIo [emptyPartition, bundlePartition]) recordPin aliceLogin rfl rfl hwait
    (fun p hp => (hmem p hp).1) (probe_bundlePartition _)).2.mpr ?_
  exact fun p hp => (hmem p hp).2

/-- The image in front is not mounted, and the flow ends there. -/
theorem isoImage_ends_flow :
    (probes RecordX509 (partitionIo [isoImage, bundlePartition]) "certs/user.p12" "alice"
        [isoImage] ()).1 = [.unmountable (.unsupportedFs "iso9660")] ∧
      probe RecordX509 (partitionIo [isoImage, bundlePartition]) "certs/user.p12" "alice"
        bundlePartition () = (.usable bundleSession bundleCreds, ()) ∧
      (authenticatePkcs12 (recordDeps []) recordPlatform (partitionIo [isoImage, bundlePartition])
        recordPin aliceLogin ()).result = .error (.error (.mount (.unsupportedFs "iso9660"))) ∧
      ¬ AsksPinFor bundleCreds.p12Bytes
        (authenticatePkcs12Observed (recordDeps []) recordPlatform
          (partitionIo [isoImage, bundlePartition]) recordPin aliceLogin ()).calls := by
  have hcalls : (authenticatePkcs12Observed (recordDeps []) recordPlatform
      (partitionIo [isoImage, bundlePartition]) recordPin aliceLogin ()).calls =
        [Call.waitForUsb (.ok [isoImage, bundlePartition]),
          .mount isoImage (.error (.unsupportedFs "iso9660"))].map .call := rfl
  refine ⟨by decide +kernel, probe_bundlePartition _, by decide +kernel, ?_⟩
  rw [hcalls]
  exact not_asksPinFor_map (by simp [Call.AsksPin])

end Sample

end PamCertauth.Flow
