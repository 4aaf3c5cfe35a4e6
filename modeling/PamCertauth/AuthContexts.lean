import PamCertauth.Authorization

/-!
# The authentication context

The record that a successful authentication leaves for the later PAM calls
(`pam_data.rs`), with the integrity label that the leaf may carry (`mac/label.rs`,
`x509/max_integrity_ext.rs`) and the kinds of host identity (`host_identity/source.rs`).
-/

namespace PamCertauth

open X509 X509.CryptoLibrary

inductive HostIdSourceKind where
  | machineId
  | dmiBoardSerial
  | dmiSystemUuid
  | dmiSystemSerial
  | hostname
  | customCommand
  | override
  deriving DecidableEq, Repr

namespace HostIdSourceKind

def display : HostIdSourceKind → String
  | machineId => "machine_id"
  | dmiBoardSerial => "dmi_board_serial"
  | dmiSystemUuid => "dmi_system_uuid"
  | dmiSystemSerial => "dmi_system_serial"
  | hostname => "hostname"
  | customCommand => "custom_command"
  | override => "override"

def debug : HostIdSourceKind → String
  | machineId => "MachineId"
  | dmiBoardSerial => "DmiBoardSerial"
  | dmiSystemUuid => "DmiSystemUuid"
  | dmiSystemSerial => "DmiSystemSerial"
  | hostname => "Hostname"
  | customCommand => "CustomCommand"
  | override => "Override"

end HostIdSourceKind

inductive LabelDerError where
  | levelOutOfRange
  | malformed (detail : String)
  deriving DecidableEq, Repr

def LabelDerError.toText : LabelDerError → String
  | levelOutOfRange => "level out of int8 range"
  | malformed detail => "malformed DER: " ++ detail

/-- An integrity bound: a signed level and a mask of categories. -/
structure IntegrityLabel where
  level : Int8
  categories : UInt64
  deriving DecidableEq, Repr

namespace IntegrityLabel

/-- The mask in a BIT STRING element that ends the sequence. -/
def readCategories : Bytes → Except LabelDerError UInt64
  | [] => .ok 0
  | [_] => .error (.malformed "missing BIT STRING tag")
  | tag :: len :: payload =>
    if tag ≠ 0x03 then .error (.malformed "missing BIT STRING tag")
    else if len = 0 ∨ len.toNat > payload.length then .error (.malformed "bad BIT STRING length")
    else if len.toNat ≠ payload.length then .error (.malformed "trailing bytes after BIT STRING")
    else
      match payload with
      | [] => .error (.malformed "BIT STRING missing unused-bits byte")
      | unused :: bits =>
        if unused > 7 then .error (.malformed "BIT STRING unused-bits > 7")
        else if bits.length > 8 then .error (.malformed "categories > 64 bits")
        else .ok (bits.foldl (fun acc b => acc <<< 8 ||| b.toUInt64) 0)

/-- The level in an INTEGER element, and then the categories. -/
def readBody : Bytes → Except LabelDerError IntegrityLabel
  | tag :: len :: b :: rest =>
    if tag ≠ 0x02 then .error (.malformed "missing INTEGER tag")
    else if len = 0 ∨ len.toNat > (b :: rest).length then
      .error (.malformed "bad INTEGER length")
    else if len ≠ 1 then .error .levelOutOfRange
    else do
      let categories ← readCategories rest
      .ok ⟨b.toInt8, categories⟩
  | _ => .error (.malformed "missing INTEGER tag")

def fromDer : Bytes → Except LabelDerError IntegrityLabel
  | tag :: len :: body =>
    if tag ≠ 0x30 then .error (.malformed "not a SEQUENCE")
    else if len.toNat > body.length ∨ len &&& 0x80 ≠ 0 then .error (.malformed "bad seq length")
    else if len.toNat ≠ body.length then .error (.malformed "trailing bytes after SEQUENCE")
    else readBody body
  | _ => .error (.malformed "not a SEQUENCE")

example : fromDer [0x30, 0x07, 0x02, 0x01, 0xFF, 0x03, 0x02, 0x00, 0x05] = .ok ⟨-1, 5⟩ := by
  decide

end IntegrityLabel

inductive MaxIntegrityExtError where
  | certDer (detail : String)
  | scan (detail : String)
  | parse (e : LabelDerError)
  deriving DecidableEq, Repr

def MaxIntegrityExtError.toText : MaxIntegrityExtError → String
  | certDer detail => "cert DER serialisation: " ++ detail
  | scan detail => "cert extension scan: " ++ detail
  | parse e => "parse: " ++ e.toText

/-- The integrity bound of a verified leaf, if it carries one. -/
def extractMaxIntegrity {X509 : Type} [CryptoLibrary X509] (cert : VerifiedX509 X509) :
    Except MaxIntegrityExtError (Option IntegrityLabel) := do
  let der ← (toDer cert.cert).mapError fun e => .certDer e.text
  match extractExtensionByOid X509 der maxIntegrityOid with
  | .error e => .error (.scan e.toText)
  | .ok none => .ok none
  | .ok (some value) => some <$> (IntegrityLabel.fromDer value).mapError .parse

structure AuthContext where
  sessionId : String
  certCn : Option String
  certSerial : Option String
  usbSerial : Option String
  usbVidPid : Option String
  pamService : String
  hostId : String
  hostIdSource : HostIdSourceKind
  authenticatedAt : SystemTime
  certNotAfter : Option SystemTime
  certMaxIntegrity : Option IntegrityLabel
  certIdent : Option CertIdent
  homeDir : Option String
  deriving DecidableEq

end PamCertauth
