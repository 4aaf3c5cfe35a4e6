import PamCertauth.Certificates
import Mathlib.Data.List.DropRight

/-!
# Which user on which host

The two binding extensions of the certificate (`x509/host_binding_ext.rs`,
`x509/user_binding_ext.rs`), the checks that compare them with the host and with
the requested user (`host_binding.rs`), and the lookup in the configured
`[[user_mapping]]` list (`mapping.rs`). Splitting a string at a byte offset that
is not a character boundary panics, so the host side returns a `Halt`.
-/

namespace PamCertauth.X509

open CryptoLibrary

def hostBindingOid : String := "2.25.183976554325829274683049824615098"
def userBindingOid : String := "2.25.215438916728501023845629178354627"
def maxIntegrityOid : String := "2.25.273824307386008814506455310913083078403"

/-- Equality of strings up to the case of ASCII letters. -/
def eqIgnoreAsciiCase (s t : String) : Bool := s.toLower == t.toLower

def isAsciiHexdigit (c : Char) : Bool :=
  ('0' ≤ c && c ≤ '9') || ('a' ≤ c && c ≤ 'f') || ('A' ≤ c && c ≤ 'F')

/-- Split a text at a byte offset of its encoding, if a character starts there. -/
def splitAtByte : ℕ → List Char → Option (List Char × List Char)
  | 0, cs => some ([], cs)
  | _ + 1, [] => none
  | n + 1, c :: cs =>
    if c.utf8Size ≤ n + 1 then
      (splitAtByte (n + 1 - c.utf8Size) cs).map fun (front, back) => (c :: front, back)
    else none

/-- A character inside a quoted rendering. -/
def escapeDebug (c : Char) : String :=
  if c = '"' then "\\\"" else if c = '\\' then "\\\\" else if c = '\n' then "\\n"
  else if c = '\r' then "\\r" else if c = '\t' then "\\t" else if c.val = 0 then "\\0"
  else c.toString

/-- The quoted rendering of a text. -/
def debugText (cs : List Char) : String := "\"" ++ String.join (cs.map escapeDebug) ++ "\""

/-- The characters of the Unicode property `White_Space`. -/
def isWhiteSpace (c : Char) : Bool :=
  let n := c.toNat
  (9 ≤ n && n ≤ 13) || n == 0x20 || n == 0x85 || n == 0xA0 || n == 0x1680
    || (0x2000 ≤ n && n ≤ 0x200A) || n == 0x2028 || n == 0x2029 || n == 0x202F || n == 0x205F
    || n == 0x3000

/-- `str::trim`, for the characters that count as white space. -/
def trimText (isSpace : Char → Bool) (cs : List Char) : List Char :=
  (cs.dropWhile isSpace).rdropWhile isSpace

section

variable {X509 : Type} [CryptoLibrary X509]

/-- Errors of the two binding extensions. -/
inductive BindingExtError where
  | missing
  | malformed (detail : String)
  | empty
  deriving DecidableEq, Repr

/-- The non-empty list of strings in the extension with this object identifier. -/
def bindingStrings (cert : X509) (oid : String) : Except BindingExtError (List String) := do
  let der ← (toDer cert).mapError fun e => .malformed ("openssl: " ++ e.text)
  match extractExtensionByOid X509 der oid with
  | .error e => .error (.malformed e.toText)
  | .ok none => .error .missing
  | .ok (some value) =>
    match parseSeqOfUtf8 value with
    | .error e => .error (.malformed e.toText)
    | .ok [] => .error .empty
    | .ok strings => .ok strings

/-- One entry of the user-binding extension. -/
inductive UserDescriptor where
  | wildcard
  | exact (name : String)
  deriving DecidableEq, Repr

def UserDescriptor.ofString (s : String) : UserDescriptor := if s = "*" then wildcard else exact s

namespace UserBindingExt

/-- The entries of the user-binding extension. -/
def parse (cert : X509) : Except BindingExtError (List UserDescriptor) :=
  List.map UserDescriptor.ofString <$> bindingStrings cert userBindingOid

end UserBindingExt

/-- One entry of the host-binding extension. -/
inductive HostDescriptor where
  | wildcard
  | sha256Hex (hex : String)
  | raw (machineId : String)
  deriving DecidableEq, Repr

namespace HostBindingExt

/-- The descriptor that a string denotes. The first seven bytes are compared with
the digest marker whenever there are that many. -/
def classify (s : String) : Except (Halt BindingExtError) HostDescriptor :=
  if s = "*" then .ok .wildcard
  else if s.utf8ByteSize < 7 then .ok (.raw s)
  else
    match splitAtByte 7 s.toList with
    | none => .error (.panicked "byte index 7 is not a char boundary")
    | some (marker, rest) =>
      if eqIgnoreAsciiCase (String.ofList marker) "sha256:" then
        let lowered := (String.ofList rest).toLower
        if lowered.utf8ByteSize ≠ 64 ∨ ¬ lowered.toList.all isAsciiHexdigit then
          .error (.error (.malformed
            ("sha256 digest must be 64 lowercase hex chars, got " ++ debugText rest)))
        else .ok (.sha256Hex lowered)
      else .ok (.raw s)

/-- The entries of the host-binding extension. -/
def parse (cert : X509) : Except (Halt BindingExtError) (List HostDescriptor) := do
  let strings ← (bindingStrings cert hostBindingOid).mapError .error
  strings.mapM classify

end HostBindingExt

/-- Errors of the scope checks. -/
inductive HostBindingError where
  | hostExtensionMissing
  | userExtensionMissing
  | hostExtensionMalformed (detail : String)
  | userExtensionMalformed (detail : String)
  | hostNotAllowed (hostIdHashPrefix : String)
  | userNotAllowed (pamUser : String)
  deriving DecidableEq, Repr

def HostBindingError.ofHostExt : BindingExtError → HostBindingError
  | .missing => hostExtensionMissing
  | .malformed m => hostExtensionMalformed m
  | .empty => hostExtensionMalformed "extension has no entries"

def HostBindingError.ofUserExt : BindingExtError → HostBindingError
  | .missing => userExtensionMissing
  | .malformed m => userExtensionMalformed m
  | .empty => userExtensionMalformed "extension has no entries"

variable (X509) in
/-- The lowercase hexadecimal SHA-256 of a string. -/
def sha256Hex (input : String) : String :=
  String.join ((sha256 X509 input.toUTF8.toList).toList.map hexByte)

variable (X509) in
def HostDescriptor.matchesHost (hostIdHash : String) : HostDescriptor → Bool
  | wildcard => true
  | sha256Hex hex => eqIgnoreAsciiCase hex hostIdHash
  | raw s => eqIgnoreAsciiCase (PamCertauth.X509.sha256Hex X509 s) hostIdHash

def UserDescriptor.matchesUser (pamUser : String) : UserDescriptor → Bool
  | wildcard => true
  | exact s => s == pamUser

/-- The certificate authorises this host. -/
def verifyHostBinding (cert : X509) (hostIdHash : String) :
    Except (Halt HostBindingError) Unit := do
  let descriptors ← (HostBindingExt.parse cert).mapError (Halt.map .ofHostExt)
  if descriptors.any (·.matchesHost X509 hostIdHash) then .ok ()
  else .error (.error (.hostNotAllowed (String.ofList (hostIdHash.toList.take 8))))

/-- The certificate authorises this user. -/
def verifyUserBinding (cert : X509) (pamUser : String) : Except HostBindingError Unit := do
  let descriptors ← (UserBindingExt.parse cert).mapError .ofUserExt
  if descriptors.any (·.matchesUser pamUser) then .ok ()
  else .error (.userNotAllowed pamUser)

/-- What a mapping wants to find in the certificate. -/
inductive UserMatchCriteria where
  | subjectCn (want : String)
  | sanEmail (want : String)
  | sanUpn (want : String)
  deriving DecidableEq, Repr

/-- One `[[user_mapping]]` entry. -/
structure UserMapping where
  pamUser : String
  criteria : UserMatchCriteria
  deriving DecidableEq, Repr

inductive MatchReason where
  | cnExact
  | sanEmail
  | sanUpn
  deriving DecidableEq, Repr

structure MatchedMapping where
  pamUser : String
  matchedBy : MatchReason
  deriving DecidableEq, Repr

inductive MappingError where
  | noMappingForUser (pamUser : String)
  | emptyMapping (pamUser : String)
  | subjectMismatch (pamUser : String) (expectedCn foundCn expectedEmail : Option String)
      (foundEmails : List String)
  | cert (e : TrustError)
  deriving DecidableEq, Repr

/-- The first candidate whose criterion holds. The accumulators keep the first
common name and the first e-mail address that were wanted. -/
def matchCandidates (pamUser : String) (cn : Option String) (sans : List String)
    (expectedCn expectedEmail : Option String) :
    List UserMapping → Except MappingError MatchedMapping
  | [] =>
    if expectedCn = none ∧ expectedEmail = none then .error (.emptyMapping pamUser)
    else .error (.subjectMismatch pamUser expectedCn cn expectedEmail sans)
  | m :: candidates =>
    match m.criteria with
    | .subjectCn want =>
      if cn = some want then .ok ⟨m.pamUser, .cnExact⟩
      else matchCandidates pamUser cn sans (expectedCn.orElse fun _ => some want) expectedEmail
        candidates
    | .sanEmail want =>
      if want ∈ sans then .ok ⟨m.pamUser, .sanEmail⟩
      else matchCandidates pamUser cn sans expectedCn (expectedEmail.orElse fun _ => some want)
        candidates
    | .sanUpn _ => matchCandidates pamUser cn sans expectedCn expectedEmail candidates

/-- Match a certificate against the mappings of one user. -/
def matchUser (endEntity : Certificate X509) (pamUser : String) (mappings : List UserMapping) :
    Except MappingError MatchedMapping :=
  match mappings.filter (·.pamUser = pamUser) with
  | [] => .error (.noMappingForUser pamUser)
  | candidates =>
    matchCandidates pamUser endEntity.subjectCn.toOption endEntity.sanEmails none none candidates

/-- The walk over the extensions does not find the certificate to be without a user binding: it
comes to a value, or it fails. -/
def CarriesUserBinding (cert : X509) : Prop :=
  ∀ der, toDer cert = .ok der → extractExtensionByOid X509 der userBindingOid ≠ .ok none

/-- The user binding of the certificate decodes to these entries. -/
def UserBindingEntries (cert : X509) (entries : List String) : Prop :=
  ∃ der value, toDer cert = .ok der ∧
    extractExtensionByOid X509 der userBindingOid = .ok (some value) ∧
    parseSeqOfUtf8 value = .ok entries

theorem userBindingEntries_of_bindingStrings {cert : X509} {xs : List String}
    (h : bindingStrings cert userBindingOid = .ok xs) : UserBindingEntries cert xs := by
  simp only [bindingStrings, bind_eq_ok_iff, mapError_eq_ok_iff] at h
  obtain ⟨der, hder, h⟩ := h
  split at h
  · cases h
  · cases h
  · next value hvalue =>
    split at h
    · cases h
    · cases h
    · next strings _ hstrings =>
      cases h
      exact ⟨der, value, hder, hvalue, hstrings⟩

theorem matchesUser_ofString_iff {s pamUser : String} :
    (UserDescriptor.ofString s).matchesUser pamUser = true ↔ s = "*" ∨ s = pamUser := by
  by_cases hs : s = "*" <;> simp [UserDescriptor.ofString, UserDescriptor.matchesUser, hs]

theorem verifyUserBinding_eq_ok_iff {cert : X509} {pamUser : String} :
    verifyUserBinding cert pamUser = .ok () ↔
      ∃ xs, bindingStrings cert userBindingOid = .ok xs ∧ ("*" ∈ xs ∨ pamUser ∈ xs) := by
  simp only [verifyUserBinding, UserBindingExt.parse]
  cases hxs : bindingStrings cert userBindingOid with
  | error e => simp [bind, Except.bind, Except.mapError, Functor.map, Except.map]
  | ok xs =>
    have hany : (xs.map UserDescriptor.ofString).any (·.matchesUser pamUser) = true ↔
        "*" ∈ xs ∨ pamUser ∈ xs := by
      simp only [List.any_map, List.any_eq_true, Function.comp_apply, matchesUser_ofString_iff]
      constructor
      · intro hentry
        obtain ⟨x, hx, rfl | rfl⟩ := hentry
        · exact .inl hx
        · exact .inr hx
      · intro hentry
        rcases hentry with hx | hx
        · exact ⟨_, hx, .inl rfl⟩
        · exact ⟨_, hx, .inr rfl⟩
    simp only [Functor.map, Except.map, Except.mapError, bind, Except.bind, Except.ok.injEq,
      exists_eq_left', ← hany]
    split <;> simp [*]

end

end PamCertauth.X509
