import PamCertauth.HookProcesses
import Mathlib.Data.String.Basic

/-!
# What the environment of a hook depends on

Two calls of `build_env_vector` for one hook and one account, with different values for the
variables. The environment is described by what a variable of it is looked up as; the
description names the value it comes from, and two environments are compared through it.
-/

namespace PamCertauth.Hooks

/-- The key of a `KEY=VALUE` entry. -/
def entryKey (raw : String) : String := String.ofList (raw.toList.takeWhile (· ≠ '='))

/-- The value of a `KEY=VALUE` entry. -/
def entryValue (raw : String) : String := String.ofList ((raw.toList.dropWhile (· ≠ '=')).drop 1)

def envEntry (raw : String) : String × String := (entryKey raw, entryValue raw)

/-- The variables that have no source among the values of the hook. -/
def constantEnv (stage : HookStage) (user : Option UserInfo) : List (String × String) :=
  let userName := (user.map (·.name)).getD "root"
  let home := (user.map (·.home)).getD "/root"
  [("PATH", "/usr/sbin:/usr/bin:/sbin:/bin"), ("HOME", home), ("USER", userName),
    ("LOGNAME", userName), ("LANG", "C.UTF-8"), ("PAM_CERTAUTH_STAGE", stage.display)]

/-- The variables that have one, with their sources. -/
def sourceKeys : List (String × PlaceholderVar) :=
  [("PAM_CERTAUTH_USER", .pamUser), ("PAM_CERTAUTH_SERVICE", .pamService),
    ("PAM_CERTAUTH_HOST_ID", .hostId), ("PAM_CERTAUTH_HOST_ID_HASH", .hostIdHash),
    ("PAM_CERTAUTH_HOST_ID_SOURCE", .hostIdSource), ("PAM_CERTAUTH_CERT_CN", .certCn),
    ("PAM_CERTAUTH_CERT_SERIAL", .certSerial), ("PAM_CERTAUTH_USB_SERIAL", .usbSerial),
    ("PAM_CERTAUTH_USB_VID_PID", .usbVidPid), ("PAM_CERTAUTH_SESSION_ID", .sessionId)]

/-- The template of the hook for a variable: the last one, should the key stand twice. -/
def templateFor (hook : HookConfig) (key : String) : Option (List TemplatePart) :=
  hook.env.reverse.lookup key

/-- A part with the value of its variable copied. -/
def substitutedPart (vars : HookVars) : TemplatePart → String
  | .literal text => text
  | .var v => (vars.resolve v).getD ""

def substituted (vars : HookVars) (template : List TemplatePart) : String :=
  String.join (template.map (substitutedPart vars))

/-- The value of a variable of the environment. -/
def envValue (hook : HookConfig) (vars : HookVars) (user : Option UserInfo) (key : String) :
    Option String :=
  ((templateFor hook key).map (substituted vars)).or
    (((sourceKeys.lookup key).map fun var => (vars.resolve var).getD "").or
      ((constantEnv hook.stage user).lookup key))

theorem fixedEnv_eq (stage : HookStage) (vars : HookVars) (user : Option UserInfo) :
    fixedEnv stage vars user =
      constantEnv stage user ++ sourceKeys.map fun e => (e.1, (vars.resolve e.2).getD "") :=
  rfl

section

variable {β γ : Type}

theorem lookup_cons_ite (e : String × β) (xs : List (String × β)) (k : String) :
    (e :: xs).lookup k = if k = e.1 then some e.2 else xs.lookup k := by
  obtain ⟨k', b⟩ := e
  rw [List.lookup_cons]
  by_cases hk : k = k'
  · rw [if_pos hk, beq_iff_eq.mpr hk]
  · rw [if_neg hk, beq_eq_false_iff_ne.mpr hk]

theorem lookup_map_snd (f : β → γ) (xs : List (String × β)) (k : String) :
    (xs.map fun e => (e.1, f e.2)).lookup k = (xs.lookup k).map f := by
  induction xs with
  | nil => rfl
  | cons e xs ih =>
    rw [List.map_cons, lookup_cons_ite, lookup_cons_ite, ih]
    split <;> rfl

theorem mem_of_lookup_eq_some {xs : List (String × β)} {k : String} {b : β}
    (h : xs.lookup k = some b) : (k, b) ∈ xs := by
  induction xs with
  | nil => cases h
  | cons e xs ih =>
    rw [lookup_cons_ite] at h
    split at h
    · next heq =>
      cases h
      exact heq ▸ List.mem_cons_self
    · exact List.mem_cons_of_mem _ (ih h)

theorem lookup_eq_some_iff {xs : List (String × β)} (hnodup : (xs.map (·.1)).Nodup) {k : String}
    {b : β} : xs.lookup k = some b ↔ (k, b) ∈ xs := by
  refine ⟨mem_of_lookup_eq_some, fun h => ?_⟩
  induction xs with
  | nil => cases h
  | cons e xs ih =>
    rw [List.map_cons, List.nodup_cons] at hnodup
    rcases List.mem_cons.mp h with rfl | h
    · exact List.lookup_cons_self
    · have hne : k ≠ e.1 := fun heq => hnodup.1 (heq ▸ List.mem_map_of_mem h)
      rw [lookup_cons_ite, if_neg hne]
      exact ih hnodup.2 h

theorem lookup_reverse {xs : List (String × β)} (hnodup : (xs.map (·.1)).Nodup) (k : String) :
    xs.reverse.lookup k = xs.lookup k := by
  have hnodup' : (xs.reverse.map (·.1)).Nodup :=
    ((List.reverse_perm xs).map _).nodup_iff.mpr hnodup
  apply Option.ext
  intro b
  rw [lookup_eq_some_iff hnodup, lookup_eq_some_iff hnodup', List.mem_reverse]

end

theorem lookup_envInsert (key value : String) (env : List (String × String)) (k : String) :
    (envInsert key value env).lookup k = if k = key then some value else env.lookup k := by
  induction env with
  | nil => rw [envInsert, lookup_cons_ite]
  | cons e env ih =>
    unfold envInsert
    split
    · rw [lookup_cons_ite]
    · split
      · next heq =>
        rw [lookup_cons_ite, lookup_cons_ite, ← heq]
        by_cases hk : k = key <;> simp [hk]
      · next hne =>
        rw [lookup_cons_ite, ih, lookup_cons_ite]
        by_cases hk : k = key
        · subst hk
          simp [hne]
        · simp [hk]

theorem mem_keys_envInsert {key value k : String} {env : List (String × String)}
    (h : k ∈ (envInsert key value env).map (·.1)) : k = key ∨ k ∈ env.map (·.1) := by
  induction env with
  | nil => simpa [envInsert] using h
  | cons e env ih =>
    unfold envInsert at h
    split at h
    · simpa using h
    · split at h
      · next heq =>
        subst heq
        exact .inr (by simpa using h)
      · rw [List.map_cons, List.mem_cons] at h ⊢
        rcases h with h | h
        · exact .inr (.inl h)
        · exact (ih h).imp id .inr

theorem pairwise_envInsert {key value : String} {env : List (String × String)}
    (h : (env.map (·.1)).Pairwise (· < ·)) :
    ((envInsert key value env).map (·.1)).Pairwise (· < ·) := by
  induction env with
  | nil => simp [envInsert]
  | cons e env ih =>
    rw [List.map_cons, List.pairwise_cons] at h
    unfold envInsert
    split
    · next hlt =>
      rw [List.map_cons, List.map_cons, List.pairwise_cons, List.pairwise_cons]
      refine ⟨?_, h⟩
      intro k hk
      rcases List.mem_cons.mp hk with rfl | hk
      · exact hlt
      · exact hlt.trans (h.1 k hk)
    · split
      · next heq =>
        subst heq
        rw [List.map_cons, List.pairwise_cons]
        exact h
      · next hge hne =>
        rw [List.map_cons, List.pairwise_cons]
        refine ⟨?_, ih h.2⟩
        intro k hk
        rcases mem_keys_envInsert hk with rfl | hk
        · exact lt_of_le_of_ne (not_lt.mp hge) (Ne.symm hne)
        · exact h.1 k hk

/-- The keys behind an insertion do not depend on the values. -/
theorem keys_envInsert_congr {key a b : String} {env env' : List (String × String)}
    (h : env.map (·.1) = env'.map (·.1)) :
    (envInsert key a env).map (·.1) = (envInsert key b env').map (·.1) := by
  induction env generalizing env' with
  | nil =>
    rw [List.map_nil, eq_comm, List.map_eq_nil_iff] at h
    subst h
    rfl
  | cons e env ih =>
    cases env' with
    | nil => cases h
    | cons e' env' =>
      obtain ⟨k, v⟩ := e
      obtain ⟨k', v'⟩ := e'
      simp only [List.map_cons, List.cons.injEq] at h
      obtain ⟨rfl, htail⟩ := h
      unfold envInsert
      split
      · simp [htail]
      · split
        · simp [htail]
        · simp [ih htail]

def insertAll (entries env : List (String × String)) : List (String × String) :=
  entries.foldl (fun env e => envInsert e.1 e.2 env) env

theorem pairwise_insertAll (entries : List (String × String)) {env : List (String × String)}
    (h : (env.map (·.1)).Pairwise (· < ·)) :
    ((insertAll entries env).map (·.1)).Pairwise (· < ·) := by
  induction entries generalizing env with
  | nil => exact h
  | cons e entries ih => exact ih (pairwise_envInsert h)

theorem keys_insertAll_congr {entries entries' env env' : List (String × String)}
    (hentries : entries.map (·.1) = entries'.map (·.1)) (henv : env.map (·.1) = env'.map (·.1)) :
    (insertAll entries env).map (·.1) = (insertAll entries' env').map (·.1) := by
  induction entries generalizing entries' env env' with
  | nil =>
    rw [List.map_nil, eq_comm, List.map_eq_nil_iff] at hentries
    subst hentries
    exact henv
  | cons e entries ih =>
    cases entries' with
    | nil => cases hentries
    | cons e' entries' =>
      simp only [List.map_cons, List.cons.injEq] at hentries
      have hhead : (envInsert e.1 e.2 env).map (·.1) = (envInsert e'.1 e'.2 env').map (·.1) := by
        rw [hentries.1]
        exact keys_envInsert_congr henv
      change (insertAll entries (envInsert e.1 e.2 env)).map (·.1) =
        (insertAll entries' (envInsert e'.1 e'.2 env')).map (·.1)
      exact ih hentries.2 hhead

/-- The last entry for a key is the one that counts. -/
theorem lookup_insertAll (entries env : List (String × String)) (k : String) :
    (insertAll entries env).lookup k = (entries.reverse.lookup k).or (env.lookup k) := by
  induction entries generalizing env with
  | nil => simp [insertAll]
  | cons e entries ih =>
    have hstep : insertAll (e :: entries) env = insertAll entries (envInsert e.1 e.2 env) := rfl
    rw [hstep, ih, lookup_envInsert, List.reverse_cons, List.lookup_append, Option.or_assoc]
    rw [lookup_cons_ite]
    split <;> rfl

theorem lookup_fixedEnv_reverse (stage : HookStage) (vars : HookVars) (user : Option UserInfo)
    (k : String) :
    (fixedEnv stage vars user).reverse.lookup k =
      ((sourceKeys.lookup k).map fun var => (vars.resolve var).getD "").or
        ((constantEnv stage user).lookup k) := by
  have hconstant : ((constantEnv stage user).map (·.1)).Nodup :=
    show ["PATH", "HOME", "USER", "LOGNAME", "LANG", "PAM_CERTAUTH_STAGE"].Nodup by decide
  have hsource : (sourceKeys.map (·.1)).Nodup := by decide
  rw [fixedEnv_eq, List.reverse_append, List.lookup_append, ← List.map_reverse,
    lookup_map_snd fun var => (vars.resolve var).getD "", lookup_reverse hsource,
    lookup_reverse hconstant]

theorem eq_map_of_mapM_eq_ok {α β ε : Type} {f : α → Except ε β} {g : α → β}
    (hfg : ∀ x y, f x = .ok y → y = g x) {xs : List α} {ys : List β} (h : xs.mapM f = .ok ys) :
    ys = xs.map g := by
  rw [mapM_eq_ok_iff] at h
  induction h with
  | nil => rfl
  | cons hxy _ ih => rw [List.map_cons, ← hfg _ _ hxy, ← ih]

theorem renderPart_eq_ok {ε : Type} {missing : PlaceholderVar → ε} {vars : HookVars}
    {part : TemplatePart} {out text : String}
    (h : renderPart missing vars.resolve out part = .ok text) :
    text = out ++ substitutedPart vars part := by
  cases part with
  | literal t =>
    cases h
    rfl
  | var v =>
    simp only [renderPart] at h
    split at h
    · next value hvalue =>
      cases h
      simp [substitutedPart, hvalue]
    · cases h

/-- The text grows by what is substituted for each part. -/
theorem foldlM_renderPart_eq_ok {ε : Type} {missing : PlaceholderVar → ε} {vars : HookVars}
    {template : List TemplatePart} {out text : String}
    (h : template.foldlM (renderPart missing vars.resolve) out = .ok text) :
    text = out ++ substituted vars template := by
  induction template generalizing out with
  | nil =>
    cases h
    simp [substituted]
  | cons part template ih =>
    rw [List.foldlM_cons, bind_eq_ok_iff] at h
    obtain ⟨out', hpart, hrest⟩ := h
    rw [ih hrest, renderPart_eq_ok hpart, String.append_assoc]
    simp [substituted]

theorem renderTemplate_eq_ok {vars : HookVars} {template : List TemplatePart} {text : String}
    (h : renderTemplate vars template = .ok text) : text = substituted vars template := by
  rw [foldlM_renderPart_eq_ok h, String.empty_append]

/-- The entries of the hook, rendered. -/
def customEnv (hook : HookConfig) (vars : HookVars) : List (String × String) :=
  hook.env.map fun entry => (entry.1, substituted vars entry.2)

/-- The environment before it is encoded. -/
def envMap (hook : HookConfig) (vars : HookVars) (user : Option UserInfo) :
    List (String × String) :=
  insertAll (fixedEnv hook.stage vars user ++ customEnv hook vars) []

theorem encodeEnvEntry_eq_ok_iff {entry : String × String} {raw : String} :
    encodeEnvEntry entry = .ok raw ↔
      forbiddenControlReason entry.2 = none ∧ hasNul (entry.1 ++ "=" ++ entry.2) = false ∧
        raw = entry.1 ++ "=" ++ entry.2 := by
  unfold encodeEnvEntry
  split
  · next reason hreason => simp [hreason]
  · next hreason =>
    simp only [hreason, true_and]
    split
    · next hnul => simp [hnul]
    · next hnul =>
      rw [Bool.not_eq_true] at hnul
      rw [Except.ok.injEq, eq_comm, and_iff_right hnul]

theorem buildEnvVector_eq_ok {hook : HookConfig} {vars : HookVars} {user : Option UserInfo}
    {out : List String} (h : buildEnvVector hook vars user = .ok out) :
    out = (envMap hook vars user).map (fun e => e.1 ++ "=" ++ e.2) ∧
      ∀ e ∈ envMap hook vars user, forbiddenControlReason e.2 = none := by
  rw [buildEnvVector, bind_eq_ok_iff] at h
  obtain ⟨custom, hcustom, hout⟩ := h
  have hentries : custom = customEnv hook vars := by
    refine eq_map_of_mapM_eq_ok (fun entry pair hpair => ?_) hcustom
    cases htext : renderTemplate vars entry.2 with
    | error e =>
      rw [htext] at hpair
      cases hpair
    | ok text =>
      rw [htext] at hpair
      cases hpair
      rw [renderTemplate_eq_ok htext]
  subst hentries
  constructor
  · exact eq_map_of_mapM_eq_ok (fun entry raw hraw => (encodeEnvEntry_eq_ok_iff.mp hraw).2.2) hout
  · intro e he
    obtain ⟨raw, -, hraw⟩ := exists_ok_of_mapM_eq_ok hout he
    exact (encodeEnvEntry_eq_ok_iff.mp hraw).1

theorem pairwise_envMap (hook : HookConfig) (vars : HookVars) (user : Option UserInfo) :
    ((envMap hook vars user).map (·.1)).Pairwise (· < ·) :=
  pairwise_insertAll _ List.Pairwise.nil

theorem nodup_keys_envMap (hook : HookConfig) (vars : HookVars) (user : Option UserInfo) :
    ((envMap hook vars user).map (·.1)).Nodup :=
  (pairwise_envMap hook vars user).imp fun hlt => hlt.ne

theorem keys_envMap_congr (hook : HookConfig) (v w : HookVars) (user : Option UserInfo) :
    (envMap hook v user).map (·.1) = (envMap hook w user).map (·.1) := by
  refine keys_insertAll_congr ?_ rfl
  rw [List.map_append, List.map_append, fixedEnv_eq, fixedEnv_eq]
  simp [customEnv, Function.comp_def]

theorem lookup_envMap (hook : HookConfig) (vars : HookVars) (user : Option UserInfo) (k : String) :
    (envMap hook vars user).lookup k = envValue hook vars user k := by
  rw [envMap, lookup_insertAll, List.reverse_append, List.lookup_append, lookup_fixedEnv_reverse,
    customEnv, ← List.map_reverse, lookup_map_snd (substituted vars), List.lookup_nil, Option.or_none]
  rfl

theorem takeWhile_dropWhile_entry {key : String} (hkey : '=' ∉ key.toList) (value : String) :
    envEntry (key ++ "=" ++ value) = (key, value) := by
  have hall : ∀ c ∈ key.toList, decide (c ≠ '=') = true := by
    intro c hc
    have hne : c ≠ '=' := fun heq => hkey (heq ▸ hc)
    simpa using hne
  have htext : (key ++ "=" ++ value).toList = key.toList ++ '=' :: value.toList := by simp
  rw [envEntry, entryKey, entryValue, htext, List.takeWhile_append_of_pos hall,
    List.dropWhile_append_of_pos hall]
  simp

theorem mem_keys_envMap {hook : HookConfig} {vars : HookVars} {user : Option UserInfo}
    {e : String × String} (he : e ∈ envMap hook vars user) :
    e.1 ∈ (constantEnv hook.stage user).map (·.1) ∨ e.1 ∈ sourceKeys.map (·.1) ∨
      e.1 ∈ hook.env.map (·.1) := by
  have hvalue : envValue hook vars user e.1 = some e.2 := by
    rw [← lookup_envMap]
    exact (lookup_eq_some_iff (nodup_keys_envMap hook vars user)).mpr he
  rw [envValue, Option.or_eq_some_iff, Option.or_eq_some_iff] at hvalue
  rcases hvalue with htemplate | ⟨-, hsource | ⟨-, hconstant⟩⟩
  · obtain ⟨template, htemplate, -⟩ := Option.map_eq_some_iff.mp htemplate
    have hmem := List.mem_reverse.mp (mem_of_lookup_eq_some htemplate)
    exact .inr (.inr (List.mem_map_of_mem hmem))
  · obtain ⟨var, hvar, -⟩ := Option.map_eq_some_iff.mp hsource
    exact .inr (.inl (List.mem_map_of_mem (mem_of_lookup_eq_some hvar)))
  · exact .inl (List.mem_map_of_mem (mem_of_lookup_eq_some hconstant))

section

variable {hook : HookConfig} {user : Option UserInfo}
  (hkeys : ∀ entry ∈ hook.env, '=' ∉ entry.1.toList)

include hkeys

theorem equals_notMem_keys {vars : HookVars} :
    ∀ e ∈ envMap hook vars user, '=' ∉ e.1.toList := by
  intro e he
  rcases mem_keys_envMap he with h | h | h
  · have hconstant : (constantEnv hook.stage user).map (·.1) =
        ["PATH", "HOME", "USER", "LOGNAME", "LANG", "PAM_CERTAUTH_STAGE"] := rfl
    rw [hconstant] at h
    have hall : ∀ key ∈ ["PATH", "HOME", "USER", "LOGNAME", "LANG", "PAM_CERTAUTH_STAGE"],
        '=' ∉ key.toList := by decide
    exact hall e.1 h
  · have hall : ∀ key ∈ sourceKeys.map (·.1), '=' ∉ key.toList := by decide
    exact hall e.1 h
  · obtain ⟨entry, hentry, heq⟩ := List.mem_map.mp h
    exact heq ▸ hkeys entry hentry

theorem map_envEntry_of_eq_ok {vars : HookVars} {out : List String}
    (h : buildEnvVector hook vars user = .ok out) : out.map envEntry = envMap hook vars user := by
  rw [(buildEnvVector_eq_ok h).1, List.map_map]
  have hentry : ∀ e ∈ envMap hook vars user, (envEntry ∘ fun e => e.1 ++ "=" ++ e.2) e = id e :=
    fun e he => takeWhile_dropWhile_entry (equals_notMem_keys hkeys e he) e.2
  rw [List.map_congr_left hentry, List.map_id]

theorem mem_entries_iff {vars : HookVars} {out : List String}
    (h : buildEnvVector hook vars user = .ok out) (key value : String) :
    (key, value) ∈ out.map envEntry ↔ envValue hook vars user key = some value := by
  rw [map_envEntry_of_eq_ok hkeys h, ← lookup_envMap,
    lookup_eq_some_iff (nodup_keys_envMap hook vars user)]

end

theorem not_control_of_forbiddenControlReason {value : String}
    (h : forbiddenControlReason value = none) : ∀ b ∈ value.toUTF8.toList, 0x20 ≤ b := by
  intro b hb
  have hb' : controlReason b = none := (List.findSome?_eq_none_iff.mp h) b hb
  by_contra hle
  have hlt : b < 0x20 := UInt8.not_le.mp hle
  unfold controlReason at hb'
  rw [if_pos hlt] at hb'
  split_ifs at hb'

/-- A template depends on the variables that it mentions. -/
theorem exists_var_of_substituted_ne {v w : HookVars} {template : List TemplatePart}
    (h : substituted v template ≠ substituted w template) :
    ∃ var, .var var ∈ template ∧ v.resolve var ≠ w.resolve var := by
  by_contra hnone
  apply h
  have hparts : ∀ part ∈ template, substitutedPart v part = substitutedPart w part := by
    intro part hpart
    cases part with
    | literal text => rfl
    | var x =>
      have heq : v.resolve x = w.resolve x := by
        by_contra hne
        exact hnone ⟨x, hpart, hne⟩
      simp [substitutedPart, heq]
  rw [substituted, substituted, List.map_congr_left hparts]

/-- Where two values of a variable of the environment come from. -/
theorem envValue_ne {hook : HookConfig} {v w : HookVars} {user : Option UserInfo} {key a b : String}
    (ha : envValue hook v user key = some a) (hb : envValue hook w user key = some b) (hab : a ≠ b) :
    (templateFor hook key = none ∧
        ∃ var, (key, var) ∈ sourceKeys ∧ v.resolve var ≠ w.resolve var) ∨
      ∃ template, templateFor hook key = some template ∧
        ∃ var, .var var ∈ template ∧ v.resolve var ≠ w.resolve var := by
  unfold envValue at ha hb
  cases htemplate : templateFor hook key with
  | some template =>
    rw [htemplate] at ha hb
    cases ha
    cases hb
    exact .inr ⟨template, rfl, exists_var_of_substituted_ne hab⟩
  | none =>
    rw [htemplate] at ha hb
    refine .inl ⟨rfl, ?_⟩
    cases hsource : sourceKeys.lookup key with
    | some var =>
      rw [hsource] at ha hb
      cases ha
      cases hb
      exact ⟨var, mem_of_lookup_eq_some hsource, fun heq => hab (congrArg (·.getD "") heq)⟩
    | none =>
      rw [hsource] at ha hb
      exact absurd (Option.some.inj (ha.symm.trans hb)) hab

/-- What two environments of one hook have in common, and what they may differ in. -/
structure EnvsAgree (hook : HookConfig) (v w : HookVars) (user : Option UserInfo)
    (ev ew : List String) : Prop where
  keys_eq : ev.map entryKey = ew.map entryKey
  keys_nodup : (ev.map entryKey).Nodup
  printable : ∀ raw ∈ ev ++ ew, ∀ b ∈ (entryValue raw).toUTF8.toList, 0x20 ≤ b
  differs : ∀ key a b, (key, a) ∈ ev.map envEntry → (key, b) ∈ ew.map envEntry → a ≠ b →
    (templateFor hook key = none ∧
        ∃ var, (key, var) ∈ sourceKeys ∧ v.resolve var ≠ w.resolve var) ∨
      ∃ template, templateFor hook key = some template ∧
        ∃ var, .var var ∈ template ∧ v.resolve var ≠ w.resolve var
  whitelist : ∀ key ∈ ["PATH", "HOME", "USER", "LOGNAME", "LANG"], ∀ a b,
    (key, a) ∈ ev.map envEntry → (key, b) ∈ ew.map envEntry → a ≠ b →
    ∃ template, templateFor hook key = some template ∧
      ∃ var, .var var ∈ template ∧ v.resolve var ≠ w.resolve var
  expanded_once : ∀ key a, (key, a) ∈ ev.map envEntry ↔ envValue hook v user key = some a

/-- Values of a login reach the environment of a hook only through the variables they are
the source of and through the templates that mention them, and they are copied there. -/
theorem hook_environments_noninterference {hook : HookConfig} {v w : HookVars}
    {user : Option UserInfo} {ev ew : List String}
    (hkeys : ∀ entry ∈ hook.env, '=' ∉ entry.1.toList)
    (hv : buildEnvVector hook v user = .ok ev) (hw : buildEnvVector hook w user = .ok ew) :
    EnvsAgree hook v w user ev ew := by
  have hev := map_envEntry_of_eq_ok hkeys hv
  have hew := map_envEntry_of_eq_ok hkeys hw
  have hkeysOf : ∀ out : List String, out.map entryKey = (out.map envEntry).map (·.1) := by
    intro out
    rw [List.map_map]
    rfl
  have hprintable : ∀ {vars : HookVars} {out : List String},
      buildEnvVector hook vars user = .ok out →
      ∀ raw ∈ out, ∀ b ∈ (entryValue raw).toUTF8.toList, 0x20 ≤ b := by
    intro vars out h raw hraw
    have hmem : envEntry raw ∈ envMap hook vars user :=
      map_envEntry_of_eq_ok hkeys h ▸ List.mem_map_of_mem hraw
    have hvalue : forbiddenControlReason (entryValue raw) = none :=
      (buildEnvVector_eq_ok h).2 (envEntry raw) hmem
    exact not_control_of_forbiddenControlReason hvalue
  have hdiffers : ∀ key a b, (key, a) ∈ ev.map envEntry → (key, b) ∈ ew.map envEntry → a ≠ b →
      (templateFor hook key = none ∧
          ∃ var, (key, var) ∈ sourceKeys ∧ v.resolve var ≠ w.resolve var) ∨
        ∃ template, templateFor hook key = some template ∧
          ∃ var, .var var ∈ template ∧ v.resolve var ≠ w.resolve var := by
    intro key a b ha hb
    exact envValue_ne ((mem_entries_iff hkeys hv key a).mp ha) ((mem_entries_iff hkeys hw key b).mp hb)
  refine ⟨?_, ?_, ?_, hdiffers, ?_, mem_entries_iff hkeys hv⟩
  · rw [hkeysOf, hkeysOf, hev, hew]
    exact keys_envMap_congr hook v w user
  · rw [hkeysOf, hev]
    exact nodup_keys_envMap hook v user
  · intro raw hraw
    rcases List.mem_append.mp hraw with hraw | hraw
    · exact hprintable hv raw hraw
    · exact hprintable hw raw hraw
  · intro key hkey a b ha hb hab
    rcases hdiffers key a b ha hb hab with ⟨-, var, hvar, -⟩ | htemplate
    · -- None of these keys has a source of its own.
      have hnone : ∀ key ∈ ["PATH", "HOME", "USER", "LOGNAME", "LANG"],
          key ∉ sourceKeys.map (·.1) := by decide
      exact absurd (List.mem_map_of_mem hvar) (hnone key hkey)
    · exact htemplate

theorem hook_environments_noninterference_audit :
    ∃ ev ew, buildEnvVector (auditHookConfig .root) { pamUser := some "alice" } none = .ok ev ∧
      buildEnvVector (auditHookConfig .root) { pamUser := some "bob" } none = .ok ew ∧
      EnvsAgree (auditHookConfig .root) { pamUser := some "alice" } { pamUser := some "bob" } none
        ev ew := by
  have hok : (buildEnvVector (auditHookConfig .root) { pamUser := some "bob" } none).isOk = true := by
    decide +kernel
  obtain ⟨ev, hev⟩ := buildEnvVector_audit
  obtain ⟨ew, hew⟩ := exists_ok_of_isOk hok
  exact ⟨ev, ew, hev, hew, hook_environments_noninterference (by decide) hev hew⟩

end PamCertauth.Hooks
