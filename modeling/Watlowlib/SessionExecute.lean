import Watlowlib.EncoderContracts
import Watlowlib.TransitionSystem

/-! # The session

`Session.execute` in its parts: the gates in front of the wire, which change nothing, and what the
outcome of the exchange does to the availability table. Only the wire lies between the two. -/
namespace SessionExecute

open Dictionaries EncoderContracts EncodingChecks ExceptRules ModbusOps ParameterCommands
  PythonValues Registry StdBusClient StdBusPayload WatlowErrors

inductive Availability where
  | unknown
  | supported
  | unsupported
  deriving DecidableEq, Repr

/-- What a client sends: a payload or a register operation. -/
inductive WireRequest where
  | payload (bs : Bytes)
  | op (o : ModbusOp)
  deriving DecidableEq

inductive WireReply where
  | frame (reply : StdBusReply)
  | words (ws : Words)
  deriving DecidableEq

structure Session where
  kind : ProtocolKind
  registry : ParameterRegistry
  address : ℤ
  port : String
  availability : Dict String Availability
  lastError : Option ErrorContext

/-- The attributes that the session looks for on a request of any type. -/
class Targeted (Req : Type) where
  nameOrId : Req → Option Ident
  instanceNo : Req → Option ℤ

instance : Targeted ReadParameterRequest := ⟨fun r => some r.nameOrId, fun r => some r.instanceNo⟩

instance : Targeted WriteParameterRequest := ⟨fun r => some r.nameOrId, fun r => some r.instanceNo⟩

variable {Req Resp : Type} [Targeted Req]

def errorContext (s : Session) (command : Command Req Resp) (request : Req) : ErrorContext :=
  { commandName := some command.name
    protocol := some s.kind
    port := textOrNone s.port
    address := numberOrNone s.address
    instanceNo := Targeted.instanceNo request }

def identStr : Ident → String
  | .name s => s
  | .id i => toString i

/-- `_cache_key`: the command and the parameter id, or the target that does not resolve. -/
def cacheKey (s : Session) (command : Command Req Resp) (request : Req) : String :=
  match Targeted.nameOrId request with
  | none => command.name
  | some target =>
    match s.registry.resolve target with
    | .ok spec => command.name ++ ":" ++ toString spec.parameterId
    | .error _ => command.name ++ ":" ++ identStr target

/-- `_cache_key` writes the id into the key, and catches the typed errors alone. -/
def checkKey (s : Session) (request : Req) : Result PUnit :=
  match Targeted.nameOrId request with
  | none => .ok ⟨⟩
  | some target =>
    match s.registry.resolve target with
    | .ok spec => require (WritesInt spec.parameterId) unwritable
    | .error e => if e.IsWatlow then require target.Writes unwritable else .error e

inductive Variant (Req Resp : Type) where
  | stdbus (v : StdBusVariant Req Resp)
  | modbus (v : ModbusVariant Req Resp)

def Variant.encode (ctx : CommandContext) (request : Req) :
    Variant Req Resp → Result WireRequest
  | .stdbus v => do
    let bs ← v.encode ctx request
    .ok (.payload bs)
  | .modbus v => do
    let o ← v.encode ctx request
    .ok (.op o)

def Variant.decode (ctx : CommandContext) (request : Req) :
    Variant Req Resp → WireReply → Result Resp
  | .stdbus v, .frame reply => v.decode reply ctx
  | .modbus v, .words ws => v.decode ws ctx request
  | _, _ => raise .attributeError [.text "reply of another protocol"]

def selectVariant (s : Session) (command : Command Req Resp) (request : Req) :
    Result (Variant Req Resp) :=
  match s.kind with
  | .stdbus =>
    match command.stdbus with
    | some v => .ok (.stdbus v)
    | none =>
      raise .protocolUnsupported
        [.text "command ", .strRepr command.name, .text " has no Std Bus variant"]
        (errorContext s command request)
  | .modbusRtu =>
    match command.modbus with
    | some v => .ok (.modbus v)
    | none =>
      raise .protocolUnsupported
        [.text "command ", .strRepr command.name, .text " has no Modbus variant"]
        (errorContext s command request)
  | .auto =>
    raise .protocolUnsupported
      [.text "session has unsupported protocol kind ", .text (protocolName .auto)]
      (errorContext s command request)

def Session.context (s : Session) : CommandContext := ⟨s.registry, s.address, s.port⟩

/-- A call past its gates, about to wait for the lock. -/
structure Dispatch (Resp : Type) where
  key : String
  wire : WireRequest
  decode : WireReply → Result Resp

/-- The part of `execute` before the lock. -/
def prepare (s : Session) (command : Command Req Resp) (request : Req) (confirm : Bool) :
    Result (Dispatch Resp) := do
  let variant ← selectVariant s command request
  checkKey s request
  require (s.availability.lookup (cacheKey s command request) ≠ some .unsupported)
    ⟨.protocolUnsupported, [.text "command ", .strRepr command.name,
      .text " is unsupported on this device"], errorContext s command request⟩
  require (command.safety = .persistent → confirm = true)
    ⟨.confirmationRequired, [.text "command ", .strRepr command.name,
      .text " is PERSISTENT and requires confirm=True"], errorContext s command request⟩
  let wire ← variant.encode s.context request
  .ok ⟨cacheKey s command request, wire, variant.decode s.context request⟩

def Rejects (e : PyError) : Prop :=
  e.kind.IsInstance .noSuchObject ∨ e.kind.IsInstance .noSuchAttribute ∨
    e.kind.IsInstance .protocolUnsupported

instance (e : PyError) : Decidable (Rejects e) :=
  inferInstanceAs (Decidable (e.kind.IsInstance .noSuchObject ∨
    e.kind.IsInstance .noSuchAttribute ∨ e.kind.IsInstance .protocolUnsupported))

def Session.mark (s : Session) (key : String) (a : Availability) : Session :=
  { s with availability := s.availability.insert key a }

def Session.recordError (s : Session) (e : PyError) : Session :=
  { s with lastError := some e.context }

/-- The handlers around the exchange and around the decode. They differ in the errors that they
record without marking: the library's own, and the protocol errors among them. -/
def Session.fail (s : Session) (recorded : ErrorKind) (key : String) (e : PyError) : Session :=
  if Rejects e then (s.mark key .unsupported).recordError e
  else if e.kind.IsInstance recorded then s.recordError e
  else s

/-- The part of `execute` from the outcome of the exchange on. Nothing is awaited in it. -/
def finish (s : Session) (d : Dispatch Resp) (outcome : Result WireReply) :
    Result Resp × Session :=
  match outcome with
  | .error e => (.error e, s.fail .watlowError d.key e)
  | .ok reply =>
    match d.decode reply with
    | .error e => (.error e, s.fail .protocol d.key e)
    | .ok response => (.ok response, s.mark d.key .supported)

/-- What a call returns, the request it hands to the client, if any, and the session after it. -/
structure Exchange (Resp : Type) where
  response : Result Resp
  emitted : Option WireRequest
  after : Session

/-- `execute` over a client that answers at once. -/
def execute (s : Session) (command : Command Req Resp) (request : Req) (confirm : Bool)
    (client : WireRequest → Result WireReply) : Exchange Resp :=
  match prepare s command request confirm with
  | .error e => ⟨.error e, none, s⟩
  | .ok d => ⟨(finish s d (client d.wire)).1, some d.wire, (finish s d (client d.wire)).2⟩

section Contracts

variable {s : Session} {command : Command Req Resp} {request : Req} {confirm : Bool}
  {d : Dispatch Resp} {outcome : Result WireReply}

@[simp] theorem mark_lookup (key key' : String) (a : Availability) :
    (s.mark key a).availability.lookup key' =
      if key' = key then some a else s.availability.lookup key' :=
  lookup_insert_eq _ _ _ _

@[simp] theorem recordError_availability (e : PyError) :
    (s.recordError e).availability = s.availability := rfl

theorem selectVariant_ok {variant : Variant Req Resp}
    (h : selectVariant s command request = .ok variant) :
    (∃ v, command.stdbus = some v ∧ variant = .stdbus v) ∨
      (∃ v, command.modbus = some v ∧ variant = .modbus v) := by
  simp only [selectVariant, raise] at h
  split at h
  · split at h
    · cases h
      exact Or.inl ⟨_, ‹_›, rfl⟩
    · cases h
  · split at h
    · cases h
      exact Or.inr ⟨_, ‹_›, rfl⟩
    · cases h
  · cases h

theorem checkKey_resolved {target : Ident} {spec : ParameterSpec}
    (htarget : Targeted.nameOrId request = some target)
    (hspec : s.registry.resolve target = .ok spec) :
    checkKey s request = .ok ⟨⟩ ↔ WritesInt spec.parameterId := by
  rw [checkKey, htarget]
  simp only
  rw [hspec]
  exact require_ok_iff

theorem checkKey_bare {e : PyError} (h : checkKey s request = .error e) : ¬ e.IsWatlow := by
  simp only [checkKey] at h
  split at h
  · cases h
  · split at h
    · obtain ⟨-, rfl⟩ := require_error_iff.mp h
      decide
    · split at h
      · obtain ⟨-, rfl⟩ := require_error_iff.mp h
        decide
      · cases h
        assumption

theorem prepare_ok_iff :
    prepare s command request confirm = .ok d ↔
      ∃ variant, selectVariant s command request = .ok variant ∧
        checkKey s request = .ok ⟨⟩ ∧
        s.availability.lookup (cacheKey s command request) ≠ some .unsupported ∧
        (command.safety = .persistent → confirm = true) ∧
        ∃ wire, variant.encode s.context request = .ok wire ∧
          d = ⟨cacheKey s command request, wire, variant.decode s.context request⟩ := by
  constructor
  · intro h
    obtain ⟨variant, hv, h⟩ := bind_ok_iff.mp h
    obtain ⟨_, hk, h⟩ := bind_ok_iff.mp h
    obtain ⟨_, ha, h⟩ := bind_ok_iff.mp h
    obtain ⟨_, hc, h⟩ := bind_ok_iff.mp h
    obtain ⟨wire, hw, h⟩ := bind_ok_iff.mp h
    cases h
    exact ⟨variant, hv, hk, require_ok_iff.mp ha, require_ok_iff.mp hc, wire, hw, rfl⟩
  · rintro ⟨variant, hv, hk, ha, hc, wire, hw, rfl⟩
    simp only [prepare]
    rw [hv, ok_bind, hk, ok_bind, require_of _ ha, ok_bind, require_of _ hc, ok_bind, hw]
    rfl

def Marks (d : Dispatch Resp) : Result WireReply → Prop
  | .error e => Rejects e
  | .ok reply => ∃ e, d.decode reply = .error e ∧ Rejects e

theorem fail_lookup (recorded : ErrorKind) (key key' : String) (e : PyError) :
    (s.fail recorded key e).availability.lookup key' =
      if Rejects e ∧ key' = key then some .unsupported else s.availability.lookup key' := by
  simp only [Session.fail]
  by_cases h : Rejects e
  · simp [h]
  · simp only [h, if_false, false_and]
    split <;> rfl

theorem finish_other {key : String} (h : key ≠ d.key) :
    (finish s d outcome).2.availability.lookup key = s.availability.lookup key := by
  simp only [finish]
  split
  · rw [fail_lookup, if_neg fun hc => h hc.2]
  · split
    · rw [fail_lookup, if_neg fun hc => h hc.2]
    · rw [mark_lookup, if_neg h]

theorem finish_marks {key : String} (hbefore : s.availability.lookup key ≠ some .unsupported)
    (hafter : (finish s d outcome).2.availability.lookup key = some .unsupported) :
    key = d.key ∧ Marks d outcome := by
  have hkey : key = d.key := by
    by_contra hne
    exact hbefore (finish_other hne ▸ hafter)
  refine ⟨hkey, ?_⟩
  subst hkey
  simp only [finish] at hafter
  split at hafter
  · rename_i e
    rw [fail_lookup] at hafter
    by_contra hc
    rw [if_neg fun h => hc h.1] at hafter
    exact hbefore hafter
  · rename_i reply
    split at hafter
    · rename_i e he
      rw [fail_lookup] at hafter
      by_contra hc
      rw [if_neg fun h => hc ⟨e, he, h.1⟩] at hafter
      exact hbefore hafter
    · rw [mark_lookup, if_pos rfl] at hafter
      cases hafter

theorem finish_ok {response : Resp} (h : (finish s d outcome).1 = .ok response) :
    ∃ reply, outcome = .ok reply ∧ d.decode reply = .ok response := by
  simp only [finish] at h
  split at h
  · cases h
  · rename_i reply
    split at h
    · cases h
    · cases h
      exact ⟨reply, rfl, ‹_›⟩

theorem execute_ok_iff {client : WireRequest → Result WireReply} {response : Resp} :
    (execute s command request confirm client).response = .ok response ↔
      ∃ d reply, prepare s command request confirm = .ok d ∧ client d.wire = .ok reply ∧
        d.decode reply = .ok response := by
  simp only [execute]
  cases h : prepare s command request confirm with
  | error e => simp
  | ok d =>
    constructor
    · intro hr
      obtain ⟨reply, hreply, hd⟩ := finish_ok hr
      exact ⟨d, reply, rfl, hreply, hd⟩
    · rintro ⟨d', reply, hd', hreply, hdecode⟩
      cases hd'
      change (finish s d (client d.wire)).1 = .ok response
      rw [hreply, finish, hdecode]

theorem execute_emitted {client : WireRequest → Result WireReply}
    (h : prepare s command request confirm = .ok d) :
    (execute s command request confirm client).emitted = some d.wire := by
  simp only [execute]
  rw [h]

/-- What no call changes; only `bind_registry` changes the registry. -/
structure Session.SameDevice (s s' : Session) : Prop where
  kind : s'.kind = s.kind
  registry : s'.registry = s.registry
  address : s'.address = s.address

theorem fail_sameDevice (recorded : ErrorKind) (key : String) (e : PyError) :
    s.SameDevice (s.fail recorded key e) := by
  simp only [Session.fail]
  split
  · exact ⟨rfl, rfl, rfl⟩
  · split <;> exact ⟨rfl, rfl, rfl⟩

theorem execute_sameDevice (client : WireRequest → Result WireReply) :
    s.SameDevice (execute s command request confirm client).after := by
  simp only [execute]
  split
  · exact ⟨rfl, rfl, rfl⟩
  · simp only [finish]
    split
    · exact fail_sameDevice _ _ _
    · split
      · exact fail_sameDevice _ _ _
      · exact ⟨rfl, rfl, rfl⟩

end Contracts

end SessionExecute
