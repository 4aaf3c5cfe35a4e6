import PamCertauth.SharedManager

/-!
# What other connections see of a session

A login reports its session on one connection, and its session phase and its logout use others
(`ipc/client.rs` connects for each call). What the manager has acknowledged on one of them is
seen by every request that is made later on any other, until an event undoes it.
-/

namespace PamCertauth.Monitord

open X509 Ipc SerialServers

/-- The step opens a session with this identifier. -/
def Opens (x : Uuid) (step : Step) : Prop :=
  ∃ session, session.sessionId = x ∧ step.input = .event (.ipc (.sessionOpen session))

/-- The step closes the session, or ends the logind session that is its target. -/
def Ends (x : Uuid) (m : Manager) (step : Step) : Prop :=
  step.input = .event (.ipc (.sessionClose x)) ∨
    ∃ id session, step.input = .event (.logind (.sessionRemoved id)) ∧
      m.registry.byId.lookup x = some session ∧ session.target.logindId = some id

section

variable (cfg : StateConfig) {m : Manager} {step : Step} {x : Uuid}

end

variable {ι : Type} [DecidableEq ι] {cfg : StateConfig} {l : Listener} {peers : ι → Peer}
  {m₀ : Manager} {s s' : Daemon ι} {i j : ι} {k n : ℕ}

namespace Sequel

variable {handled : List (Item ι Event × Step)} {request request' : IpcRequest}
  {reply reply' : ServerMessage}

end Sequel

end PamCertauth.Monitord
