import Watlowlib.Maintenance

/-! # The search for the framing of a port

`watlow-diag detect-framing` opens the port under one framing after the other and asks whoever
answers for its identity. It sends reads only and gives every framing one row. It leaves the port
open behind a framing exactly if the identification inside the open fails. -/
namespace FramingSearch

open Discovery ExceptRules IdentityStrategies Maintenance ModbusCodec OpenDevice ProtocolDetection
  PythonValues ReadOnlyDiscovery Registry SessionExecute WatlowErrors

inductive Row where
  | hit (place : Endpoint) (partNumber : String) (hardwareId : Option ℤ)
  | miss (place : Endpoint) (error : String)
  deriving DecidableEq, Repr

def Row.place : Row → Endpoint
  | .hit place _ _ => place
  | .miss place _ => place

def missed (place : Endpoint) (stage : String) (e : PyError) : Result Row :=
  if e.IsWatlow then .ok (.miss place (stage ++ className e.kind)) else .error e

section Probes

variable {σ : Type} (lib : AnyModbus) (registry : ParameterRegistry) (site : Site σ)
  (port : String)

/-- A probe that has been made: its framing, the state it found, and what it opened and closed. -/
structure Turn (σ : Type) where
  place : Endpoint
  start : σ
  log : List PortEvent

end Probes

section Ports

variable {σ : Type} {lib : AnyModbus} {registry : ParameterRegistry} {site : Site σ}
  {port : String}

theorem openAfter_snoc (log : List PortEvent) (event : PortEvent) :
    openAfter (log ++ [event]) = event.apply (openAfter log) := by
  simp [openAfter]

end Ports

section Results

variable {σ : Type} (lib : AnyModbus) (registry : ParameterRegistry) (site : Site σ)
  (port : String)

def Accounts (place : Endpoint) (r : Result Row) : Prop :=
  (∀ row, r = .ok row → row.place = place) ∧ Bare r

end Results

end FramingSearch
