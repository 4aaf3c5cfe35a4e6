import PamCertauth.TokenSessions
import PamCertauth.UserAuthorization

/-!
# The lock of the token library

Modules that cannot be called from several threads at once need the locking mode `mutex`: every
call is then to be made under one lock of the process. Logins that run at the same time never
block each other for good, and most of their calls exclude each other. Three do not: the module
is loaded and finalised without the lock, by the self-check and by the flow, and so is the session
of a refused login closed. Such a call can be under way together with any call of another login.
-/

namespace PamCertauth.Flow

open X509 X509.CryptoLibrary Pkcs11 ProtocolRuns LockedCalls

def TokenEvent.action : TokenEvent → Option (Action TokenCall)
  | lock => some .lock
  | unlock => some .unlock
  | call c => some (.call c)
  | outside _ => none

section Logs

variable {mode : LockingMode} {q q' : TokenPhase} {held held' : Bool} {h : SessionHandle}
  {trace : List TokenEvent} {calls : List TokenCall}

end Logs

section Logins

variable {ρ X509 ι : Type} [CryptoLibrary X509] [DecidableEq ι]

end Logins

section Sample

/-- The log of the self-check, up to the flow. -/
def selfChecked : List TokenEvent :=
  [.outside .entry, .outside .moduleFile, .outside .moduleFile, .outside .moduleFile,
    .call (.loadModule true), .lock, .call (.cInitialize true), .unlock, .lock, .call .getSlotList,
    .unlock, .call .cFinalize, .outside .entry]

def initialized : List TokenEvent :=
  selfChecked ++ [.outside .moduleFile, .call (.loadModule true), .lock, .call (.cInitialize true),
    .unlock]

end Sample

end PamCertauth.Flow
