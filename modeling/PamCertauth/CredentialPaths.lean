import PamCertauth.AuthenticationFlow
import PamCertauth.LexicalPaths

/-!
# Where the credentials are looked for

The path of the key bundle on a mounted device (`discovery.rs`): the configured pattern is
checked when the configuration is loaded, and the name of the user is put into it when
somebody logs in. The check does not see that name. `discover_contained_iff` says for which
names the files that are read lie below the mountpoint.
-/

namespace PamCertauth.Discovery

open X509 PamCertauth.Flow LexicalPaths

/-- Check the pattern of the configuration; none is set by default. -/
def validatePkcs12PathPattern : Option String → Except Config.Error (Option String)
  | none => .ok none
  | some value =>
    if value = "" then .error (.configInvalid "pkcs12_path_pattern must be non-empty when set")
    else if isAbsolute value.toList then
      .error (.configInvalid ("pkcs12_path_pattern must be a relative path under the USB " ++
        "mountpoint (got " ++ debugText value.toList ++ ")"))
    else if ['.', '.'] ∈ value.toList.splitOn '/' ∨ ['.'] ∈ value.toList.splitOn '/' then
      .error (.configInvalid ("pkcs12_path_pattern must not contain '..' or '.' segments (got " ++
        debugText value.toList ++ ")"))
    else .ok (some value)

/-- Replace the occurrences of `needle` from left to right, behind so many characters that
belong to the last one. -/
def replaceFrom (needle text : List Char) : ℕ → List Char → List Char
  | _, [] => []
  | skip + 1, _ :: cs => replaceFrom needle text skip cs
  | 0, c :: cs =>
    if needle.isPrefixOf (c :: cs) then
      text ++ replaceFrom needle text (needle.length - 1) cs
    else c :: replaceFrom needle text 0 cs

def userPlaceholder : List Char := "$\x7buser\x7d".toList

def expandUser (pattern pamUser : String) : String :=
  String.ofList (replaceFrom userPlaceholder pamUser.toList 0 pattern.toList)

inductive PamHelperError where
  | pamRc (rc : ℤ)
  | null
  | nonUtf8
  deriving DecidableEq, Repr

/-- The name that `pam_get_user` hands out: its return code and the bytes behind the pointer
up to the terminating zero. -/
def pamGetUserString (rc : ℤ) (user : Option Bytes) : Except PamHelperError String :=
  if rc ≠ 0 then .error (.pamRc rc)
  else
    match user with
    | none => .error .null
    | some bytes =>
      match String.fromUTF8? ⟨(bytes.takeWhile (· ≠ 0)).toArray⟩ with
      | some name => .ok name
      | none => .error .nonUtf8

/-- What the search asks of the file system. -/
structure DiscoveryFs (σ : Type) where
  isFile : String → σ → Bool × σ
  metadataLen : String → σ → Except String ℕ × σ
  read : String → σ → Except String Bytes × σ

inductive FsCall where
  | isFile (path : String) (answer : Bool)
  | metadata (path : String) (answer : Except String ℕ)
  | read (path : String) (answer : Except String Bytes)

def FsCall.path : FsCall → String
  | isFile path _ => path
  | metadata path _ => path
  | read path _ => path

def maxP12Bytes : ℕ := 10 * 1024 * 1024

def maxChainBytes : ℕ := 1024 * 1024

def joinPath (base path : String) : String := String.ofList (join base.toList path.toList)

def p12Path (mountpoint pattern pamUser : String) : String :=
  joinPath mountpoint (expandUser pattern pamUser)

def chainPath (mountpoint : String) : String := joinPath (joinPath mountpoint "certs") "chain.pem"

section

variable {σ : Type} (fs : DiscoveryFs σ)

/-- Read a file unless it is longer than allowed. -/
def readBounded (path : String) (limit : ℕ) (tooLarge : ℕ → DiscoveryError) :
    Prog σ FsCall DiscoveryError Bytes := do
  let len ← Prog.request (fs.metadataLen path) (.metadata path) .io
  if len > limit then Prog.fail (tooLarge len)
  else Prog.request (fs.read path) (.read path) .io

def discoverChain (mountpoint : String) : Prog σ FsCall DiscoveryError (Option Bytes) := do
  let path := chainPath mountpoint
  let present ← Prog.call (fs.isFile path) (.isFile path)
  if present then some <$> readBounded fs path maxChainBytes .chainTooLarge else pure none

def discoverCredentials (mountpoint pattern pamUser : String) :
    Prog σ FsCall DiscoveryError DiscoveredCreds := do
  let path := p12Path mountpoint pattern pamUser
  let present ← Prog.call (fs.isFile path) (.isFile path)
  if present then do
    let p12Bytes ← readBounded fs path maxP12Bytes .p12TooLarge
    let chainPem ← discoverChain fs mountpoint
    pure ⟨path, p12Bytes, chainPem⟩
  else Prog.fail (.p12NotFound (expandUser pattern pamUser))

/-- The search as the flow asks for it. -/
def discover (mountpoint pattern pamUser : String) (s : σ) :
    Except DiscoveryError DiscoveredCreds × σ :=
  let r := discoverCredentials fs mountpoint pattern pamUser s
  (r.result, r.env)

theorem readBounded_logsOnly {P : FsCall → Prop} {path : String} {limit : ℕ}
    {tooLarge : ℕ → DiscoveryError} (h : ∀ c : FsCall, c.path = path → P c) :
    Prog.LogsOnly P (readBounded fs path limit tooLarge) := by
  refine (Prog.LogsOnly.request fun answer => h _ rfl).bind fun len => ?_
  split
  · exact Prog.LogsOnly.fail _
  · exact Prog.LogsOnly.request fun answer => h _ rfl

/-- The search looks at two paths. -/
theorem discoverCredentials_paths (mountpoint pattern pamUser : String) :
    Prog.LogsOnly
      (fun c => c.path = p12Path mountpoint pattern pamUser ∨ c.path = chainPath mountpoint)
      (discoverCredentials fs mountpoint pattern pamUser) := by
  refine Prog.LogsOnly.bind (Prog.LogsOnly.call fun present => .inl rfl) fun present => ?_
  split
  · refine (readBounded_logsOnly fs fun c => .inl).bind fun p12Bytes => ?_
    refine Prog.LogsOnly.bind ?_ fun chainPem => Prog.LogsOnly.pure _
    refine Prog.LogsOnly.bind (Prog.LogsOnly.call fun present => .inr rfl) fun present => ?_
    split
    · exact (readBounded_logsOnly fs fun c => .inr).bind fun _ => Prog.LogsOnly.pure _
    · exact Prog.LogsOnly.pure _
  · exact Prog.LogsOnly.fail _

end

/-- A device that has every file. -/
def fullFs : DiscoveryFs Unit where
  isFile _ s := (true, s)
  metadataLen _ s := (.ok 0, s)
  read _ s := (.ok [], s)

theorem fullFs_reads (mountpoint pattern pamUser : String) :
    .read (p12Path mountpoint pattern pamUser) (.ok []) ∈
      (discoverCredentials fullFs mountpoint pattern pamUser ()).calls := by
  exact List.mem_cons_of_mem _ (List.mem_cons_of_mem _ List.mem_cons_self)

/-- Whatever the file system answers and wherever the device is mounted, the files that are
read lie below the mountpoint. -/
def Contained (pattern pamUser : String) : Prop :=
  ∀ (σ : Type) (fs : DiscoveryFs σ) (mountpoint : String) (s : σ) (path : String)
    (answer : Except String Bytes),
    .read path answer ∈ (discoverCredentials fs mountpoint pattern pamUser s).calls →
      Under mountpoint.toList path.toList

theorem under_chainPath (mountpoint : String) :
    Under mountpoint.toList (chainPath mountpoint).toList := by
  have hcerts : Descends "certs".toList := by decide +kernel
  have hchain : Descends "chain.pem".toList := by decide +kernel
  obtain ⟨habsolute, hprefix⟩ := hcerts.under_join mountpoint.toList
  obtain ⟨habsolute', hprefix'⟩ := hchain.under_join (joinPath mountpoint "certs").toList
  rw [joinPath, String.toList_ofList] at habsolute' hprefix'
  rw [chainPath, joinPath, joinPath, String.toList_ofList, String.toList_ofList]
  exact ⟨habsolute'.trans habsolute, hprefix.trans hprefix'⟩

theorem contained_iff_descends (pattern pamUser : String) :
    Contained pattern pamUser ↔ Descends (expandUser pattern pamUser).toList := by
  rw [← under_join_iff]
  constructor
  · intro h base
    have hunder := h Unit fullFs (String.ofList base) () _ _ (fullFs_reads _ pattern pamUser)
    simpa [p12Path, joinPath] using hunder
  · intro h σ fs mountpoint s path answer hmem
    rcases discoverCredentials_paths fs mountpoint pattern pamUser s _ hmem with hpath | hpath
    · change path = _ at hpath
      rw [hpath, p12Path, joinPath, String.toList_ofList]
      exact h mountpoint.toList
    · change path = _ at hpath
      rw [hpath]
      exact under_chainPath mountpoint

section

variable {needle text : List Char}

theorem prefix_append_slash_iff (h : '/' ∉ needle) (front back : List Char) :
    needle <+: front ++ '/' :: back ↔ needle <+: front := by
  constructor
  · intro hprefix
    rcases Nat.lt_or_ge front.length needle.length with hlt | hle
    · have hfront : front ++ ['/'] <+: front ++ '/' :: back :=
        (List.prefix_append_right_inj front).mpr ⟨back, rfl⟩
      have hslash : front ++ ['/'] <+: needle :=
        List.prefix_of_prefix_length_le hfront hprefix (by simp; omega)
      exact absurd (hslash.subset (by simp)) h
    · exact List.prefix_of_prefix_length_le hprefix (List.prefix_append _ _) hle
  · intro hprefix
    exact hprefix.trans (List.prefix_append _ _)

theorem mem_replaceFrom {c : Char} {skip : ℕ} {cs : List Char}
    (h : c ∈ replaceFrom needle text skip cs) : c ∈ text ∨ c ∈ cs := by
  induction cs generalizing skip with
  | nil => simp [replaceFrom] at h
  | cons c' cs ih =>
    cases skip with
    | succ skip =>
      rw [replaceFrom] at h
      exact (ih h).imp_right (List.mem_cons_of_mem _)
    | zero =>
      rw [replaceFrom] at h
      split at h
      · rcases List.mem_append.mp h with htext | hrest
        · exact .inl htext
        · exact (ih hrest).imp_right (List.mem_cons_of_mem _)
      · rcases List.mem_cons.mp h with rfl | hrest
        · exact .inr List.mem_cons_self
        · exact (ih hrest).imp_right (List.mem_cons_of_mem _)

variable (needle text) in
/-- A text without the needle is left alone; otherwise the replacement shows up. -/
theorem replaceFrom_eq_self_or (cs : List Char) :
    replaceFrom needle text 0 cs = cs ∨ ∀ c ∈ text, c ∈ replaceFrom needle text 0 cs := by
  induction cs with
  | nil => exact .inl rfl
  | cons c cs ih =>
    rw [replaceFrom]
    split
    · exact .inr fun c' hc' => List.mem_append_left _ hc'
    · rcases ih with hsame | htext
      · exact .inl (by rw [hsame])
      · exact .inr fun c' hc' => List.mem_cons_of_mem _ (htext c' hc')

theorem replaceFrom_append_slash (hne : needle ≠ []) (h : '/' ∉ needle) (back : List Char)
    {skip : ℕ} {front : List Char} (hskip : skip ≤ front.length) :
    replaceFrom needle text skip (front ++ '/' :: back) =
      replaceFrom needle text skip front ++ '/' :: replaceFrom needle text 0 back := by
  induction front generalizing skip with
  | nil =>
    obtain rfl : skip = 0 := Nat.le_zero.mp hskip
    have hslash : ¬ needle <+: '/' :: back := by
      intro hprefix
      rw [← List.nil_append ('/' :: back), prefix_append_slash_iff h] at hprefix
      exact hne (List.prefix_nil.mp hprefix)
    have hfirst : replaceFrom needle text 0 ('/' :: back) = '/' :: replaceFrom needle text 0 back := by
      rw [replaceFrom, if_neg (by simpa using hslash)]
    exact hfirst
  | cons c front ih =>
    cases skip with
    | succ skip => exact ih (Nat.le_of_succ_le_succ hskip)
    | zero =>
      have hiff := prefix_append_slash_iff h (c :: front) back
      rw [List.cons_append] at hiff
      by_cases hprefix : needle <+: c :: front
      · have hlength := hprefix.length_le
        rw [List.cons_append, replaceFrom, if_pos (by simpa using hiff.mpr hprefix), replaceFrom,
          if_pos (by simpa using hprefix), ih (by simp at hlength; omega), List.append_assoc]
      · rw [List.cons_append, replaceFrom, if_neg (by simpa using mt hiff.mp hprefix), replaceFrom,
          if_neg (by simpa using hprefix), ih (Nat.zero_le _), List.cons_append]

/-- Without slashes in the needle and its replacement the segments are treated one by one. -/
theorem splitOn_replaceFrom (hne : needle ≠ []) (hneedle : '/' ∉ needle) (htext : '/' ∉ text)
    (path : List Char) :
    (replaceFrom needle text 0 path).splitOn '/' =
      (path.splitOn '/').map (replaceFrom needle text 0) := by
  induction hlength : path.length using Nat.strong_induction_on generalizing path with
  | _ n ih =>
    by_cases hslash : '/' ∈ path
    · obtain ⟨front, back, rfl⟩ := List.append_of_mem hslash
      simp only [List.length_append, List.length_cons] at hlength
      rw [replaceFrom_append_slash hne hneedle back (Nat.zero_le _),
        List.splitOn_append_cons_self, List.splitOn_append_cons_self, List.map_append,
        ih front.length (by omega) front rfl, ih back.length (by omega) back rfl]
    · have hnone : '/' ∉ replaceFrom needle text 0 path :=
        fun hmem => (mem_replaceFrom hmem).elim htext hslash
      rw [List.splitOn_eq_singleton hnone, List.splitOn_eq_singleton hslash]
      rfl

end

/-- A name without slashes that does not consist of dots. -/
def PlainName (pamUser : String) : Prop :=
  '/' ∉ pamUser.toList ∧ ∃ c ∈ pamUser.toList, c ≠ '.'

theorem validatePkcs12PathPattern_eq_ok {raw cfg : Option String}
    (h : validatePkcs12PathPattern raw = .ok cfg) :
    isAbsolute (cfg.getD defaultPkcs12PathPattern).toList = false ∧
      ['.', '.'] ∉ (cfg.getD defaultPkcs12PathPattern).toList.splitOn '/' := by
  cases raw with
  | none =>
    cases h
    decide +kernel
  | some value =>
    rw [validatePkcs12PathPattern] at h
    split at h
    · cases h
    · split at h
      · cases h
      · split at h
        · cases h
        · rename_i habsolute hsegments
          cases h
          exact ⟨by simpa using habsolute, fun hmem => hsegments (.inl hmem)⟩

theorem descends_expandUser {pattern pamUser : String} (hname : PlainName pamUser)
    (hrelative : isAbsolute pattern.toList = false)
    (hsegments : ['.', '.'] ∉ pattern.toList.splitOn '/') :
    Descends (expandUser pattern pamUser).toList := by
  obtain ⟨hslash, c, hc, hdot⟩ := hname
  rw [expandUser, String.toList_ofList]
  constructor
  · cases hpattern : pattern.toList with
    | nil => rfl
    | cons first rest =>
      rw [replaceFrom]
      split
      · obtain ⟨head, tail, htext⟩ := List.exists_cons_of_ne_nil (List.ne_nil_of_mem hc)
        rw [htext] at hslash ⊢
        have hhead : head ≠ '/' := fun h => hslash (h ▸ List.mem_cons_self)
        simp [isAbsolute, hhead]
      · rw [hpattern] at hrelative
        exact hrelative
  · apply staysFrom_of_up_notMem
    intro hup
    have hdots := mem_splitOn_of_up_mem hup
    rw [splitOn_replaceFrom (by decide) (by decide) hslash] at hdots
    obtain ⟨segment, hsegment, heq⟩ := List.mem_map.mp hdots
    rcases replaceFrom_eq_self_or userPlaceholder pamUser.toList segment with hsame | htext
    · rw [hsame] at heq
      exact hsegments (heq ▸ hsegment)
    · have hmem := htext c hc
      rw [heq] at hmem
      simp [hdot] at hmem

/-- For every accepted pattern the files that are read lie below the mountpoint exactly if
the path with the name in it descends. Names without slashes that do not consist of dots are
safe in every accepted pattern; nothing in front of the search rejects the others. -/
theorem discover_contained_iff {raw cfg : Option String}
    (h : validatePkcs12PathPattern raw = .ok cfg) (pamUser : String) :
    (Contained (cfg.getD defaultPkcs12PathPattern) pamUser ↔
        Descends (expandUser (cfg.getD defaultPkcs12PathPattern) pamUser).toList) ∧
      (PlainName pamUser → Contained (cfg.getD defaultPkcs12PathPattern) pamUser) := by
  have hiff := contained_iff_descends (cfg.getD defaultPkcs12PathPattern) pamUser
  refine ⟨hiff, fun hname => hiff.mpr ?_⟩
  obtain ⟨hrelative, hsegments⟩ := validatePkcs12PathPattern_eq_ok h
  exact descends_expandUser hname hrelative hsegments

def userPattern : String := "certs/$\x7buser\x7d.p12"

theorem discover_contained_alice :
    validatePkcs12PathPattern (some userPattern) = .ok (some userPattern) ∧
      Contained userPattern "alice" := by
  have hvalid : validatePkcs12PathPattern (some userPattern) = .ok (some userPattern) := by
    decide +kernel
  have hname : PlainName "alice" := ⟨by decide, 'a', by decide, by decide⟩
  exact ⟨hvalid, (discover_contained_iff hvalid "alice").2 hname⟩

/-- A user who logs in as `../../../etc/keys` makes the search read a file of the host. -/
theorem discover_not_contained :
    validatePkcs12PathPattern (some userPattern) = .ok (some userPattern) ∧
      pamGetUserString 0 (some (utf8Bytes "../../../etc/keys")) = .ok "../../../etc/keys" ∧
      p12Path "/mnt/usb" userPattern "../../../etc/keys" = "/mnt/usb/certs/../../../etc/keys.p12" ∧
      resolve "/mnt/usb/certs/../../../etc/keys.p12".toList = ["etc".toList, "keys.p12".toList] ∧
      ¬ Contained userPattern "../../../etc/keys" := by
  refine ⟨by decide +kernel, by decide +kernel, by decide +kernel, by decide +kernel, ?_⟩
  intro hcontained
  have hread := fullFs_reads "/mnt/usb" userPattern "../../../etc/keys"
  have hunder := hcontained Unit fullFs "/mnt/usb" () _ _ hread
  exact absurd hunder (by decide +kernel)

end PamCertauth.Discovery
