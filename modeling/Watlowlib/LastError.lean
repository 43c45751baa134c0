import Watlowlib.SafetyGate

/-! # The last error of a session

Which failures of a call end up in `last_error`. The handlers stand around the exchange and around
the decode; what is raised in front of the exchange passes none of them. -/
namespace LastError

open ExceptRules ParameterCommands PythonValues Registry SessionExecute WatlowErrors

variable {Req Resp : Type} [Targeted Req]

/-- `execute` whose exchange ends in `s'`: other tasks may have used the session meanwhile. -/
def executeAcross (s s' : Session) (command : Command Req Resp) (request : Req) (confirm : Bool)
    (client : WireRequest → Result WireReply) : Result Resp × Session :=
  match prepare s command request confirm with
  | .error e => (.error e, s)
  | .ok d => finish s' d (client d.wire)

theorem executeAcross_self (s : Session) (command : Command Req Resp) (request : Req)
    (confirm : Bool) (client : WireRequest → Result WireReply) :
    executeAcross s s command request confirm client =
      ((execute s command request confirm client).response,
        (execute s command request confirm client).after) := by
  simp only [executeAcross, execute]
  cases prepare s command request confirm with
  | error e => rfl
  | ok d => rfl

/-- `last_error` after a call with outcome `r`: the context of a library error it raised, and
what it was if the call succeeds. -/
structure Tracks (before : Option ErrorContext) (r : Result Resp × Session) : Prop where
  raised : ∀ e, r.1 = .error e → e.IsWatlow → r.2.lastError = some e.context
  returned : ∀ response, r.1 = .ok response → r.2.lastError = before

/-- The failures that no handler sees, with their contexts: the refusals in front of the
exchange, and what the decoder raises outside the protocol errors. -/
inductive Unrecorded (s s' : Session) (command : Command Req Resp) (request : Req)
    (confirm : Bool) (client : WireRequest → Result WireReply) :
    Option ErrorContext → ErrorContext → Prop where
  | noVariant (e : PyError) (h : selectVariant s command request = .error e) :
      Unrecorded s s' command request confirm client s.lastError (errorContext s command request)
  | unavailable (variant : Variant Req Resp)
      (hv : selectVariant s command request = .ok variant) (hk : checkKey s request = .ok ⟨⟩)
      (h : s.availability.lookup (cacheKey s command request) = some .unsupported) :
      Unrecorded s s' command request confirm client s.lastError (errorContext s command request)
  | unconfirmed (variant : Variant Req Resp)
      (hv : selectVariant s command request = .ok variant) (hk : checkKey s request = .ok ⟨⟩)
      (ha : s.availability.lookup (cacheKey s command request) ≠ some .unsupported)
      (hsafety : command.safety = .persistent) (h : confirm = false) :
      Unrecorded s s' command request confirm client s.lastError (errorContext s command request)
  | notEncoded (variant : Variant Req Resp) (e : PyError)
      (hv : selectVariant s command request = .ok variant) (hk : checkKey s request = .ok ⟨⟩)
      (ha : s.availability.lookup (cacheKey s command request) ≠ some .unsupported)
      (hc : command.safety = .persistent → confirm = true)
      (h : variant.encode s.context request = .error e) (hw : e.IsWatlow) :
      Unrecorded s s' command request confirm client s.lastError e.context
  | notDecoded (d : Dispatch Resp) (reply : WireReply) (e : PyError)
      (hd : prepare s command request confirm = .ok d) (hreply : client d.wire = .ok reply)
      (h : d.decode reply = .error e) (hw : e.IsWatlow) (hp : ¬ e.kind.IsInstance .protocol) :
      Unrecorded s s' command request confirm client s'.lastError e.context

section Handlers

variable {s s' : Session} {command : Command Req Resp} {request : Req} {confirm : Bool}
  {client : WireRequest → Result WireReply} {d : Dispatch Resp} {e : PyError}

theorem selectVariant_error (h : selectVariant s command request = .error e) :
    e.context = errorContext s command request ∧ e.IsWatlow := by
  simp only [selectVariant, raise] at h
  split at h
  · split at h
    · cases h
    · cases h
      exact ⟨rfl, by simp only [PyError.IsWatlow]; decide⟩
  · split at h
    · cases h
    · cases h
      exact ⟨rfl, by simp only [PyError.IsWatlow]; decide⟩
  · cases h
    exact ⟨rfl, by simp only [PyError.IsWatlow]; decide⟩

theorem rejects_protocol (h : Rejects e) : e.kind.IsInstance .protocol := by
  rcases h with h | h | h
  · exact isInstance_trans h (by decide)
  · exact isInstance_trans h (by decide)
  · exact isInstance_trans h (by decide)

theorem fail_lastError {recorded : ErrorKind} {key : String}
    (h : ErrorKind.protocol.IsInstance recorded) :
    (s.fail recorded key e).lastError =
      if e.kind.IsInstance recorded then some e.context else s.lastError := by
  simp only [Session.fail]
  by_cases hr : Rejects e
  · rw [if_pos hr, if_pos (isInstance_trans (rejects_protocol hr) h)]
    rfl
  · rw [if_neg hr]
    split <;> rfl

theorem tracks_error_iff {before : Option ErrorContext} :
    Tracks before ((.error e, s) : Result Resp × Session) ↔
      (e.IsWatlow → s.lastError = some e.context) := by
  constructor
  · intro h
    exact h.raised e rfl
  · intro h
    refine ⟨?_, ?_⟩
    · intro e' he
      cases he
      exact h
    · intro response he
      cases he

theorem tracks_ok_iff {before : Option ErrorContext} {response : Resp} :
    Tracks before (.ok response, s) ↔ s.lastError = before := by
  constructor
  · intro h
    exact h.returned response rfl
  · intro h
    refine ⟨?_, ?_⟩
    · intro e he
      cases he
    · intro _ _
      exact h

theorem finish_tracks_iff {outcome : Result WireReply} :
    Tracks s'.lastError (finish s' d outcome) ↔
      ∀ reply e, outcome = .ok reply → d.decode reply = .error e → e.IsWatlow →
        ¬ e.kind.IsInstance .protocol → s'.lastError = some e.context := by
  cases outcome with
  | error e =>
    refine iff_of_true (tracks_error_iff.mpr fun hw => ?_) ?_
    · exact (fail_lastError (by decide)).trans (if_pos hw)
    · intro reply e' he
      cases he
  | ok reply =>
    simp only [finish]
    cases hd : d.decode reply with
    | error e =>
      have hlast : (s'.fail .protocol d.key e).lastError =
          if e.kind.IsInstance .protocol then some e.context else s'.lastError :=
        fail_lastError (by decide)
      simp only
      rw [tracks_error_iff, hlast]
      constructor
      · intro h reply' e' hr he hw hp
        cases hr
        cases hd.symm.trans he
        have hraised := h hw
        rwa [if_neg hp] at hraised
      · intro h hw
        by_cases hp : e.kind.IsInstance .protocol
        · rw [if_pos hp]
        · rw [if_neg hp]
          exact h reply e rfl hd hw hp
    | ok response =>
      refine iff_of_true (tracks_ok_iff.mpr rfl) ?_
      intro reply' e hr he
      cases hr
      cases hd.symm.trans he

variable (s' client) in
theorem prepare_error_cases (h : prepare s command request confirm = .error e) :
    (∃ before, Unrecorded s s' command request confirm client before e.context ∧
      before = s.lastError) ∨ ¬ e.IsWatlow := by
  simp only [prepare] at h
  rcases bind_error_iff.mp h with hv | ⟨variant, hv, h⟩
  · rw [(selectVariant_error hv).1]
    exact Or.inl ⟨_, .noVariant e hv, rfl⟩
  · rcases bind_error_iff.mp h with hk | ⟨_, hk, h⟩
    · exact Or.inr (checkKey_bare hk)
    rcases bind_error_iff.mp h with ha | ⟨_, ha, h⟩
    · obtain ⟨hcached, rfl⟩ := require_error_iff.mp ha
      exact Or.inl ⟨_, .unavailable variant hv hk (not_not.mp hcached), rfl⟩
    · have ha := require_ok_iff.mp ha
      rcases bind_error_iff.mp h with hc | ⟨_, hc, h⟩
      · obtain ⟨hgate, rfl⟩ := require_error_iff.mp hc
        obtain ⟨hsafety, hconfirm⟩ := Classical.not_imp.mp hgate
        exact Or.inl ⟨_, .unconfirmed variant hv hk ha hsafety (by simpa using hconfirm), rfl⟩
      · have hc := require_ok_iff.mp hc
        rcases bind_error_iff.mp h with hw | ⟨wire, -, h⟩
        · by_cases hwat : e.IsWatlow
          · exact Or.inl ⟨_, .notEncoded variant e hv hk ha hc hw hwat, rfl⟩
          · exact Or.inr hwat
        · cases h

theorem Unrecorded.raises {before : Option ErrorContext} {c : ErrorContext}
    (h : Unrecorded s s' command request confirm client before c) :
    (∃ e, prepare s command request confirm = .error e ∧ e.IsWatlow ∧ e.context = c ∧
      before = s.lastError) ∨
    ∃ d reply e, prepare s command request confirm = .ok d ∧ client d.wire = .ok reply ∧
      d.decode reply = .error e ∧ e.IsWatlow ∧ ¬ e.kind.IsInstance .protocol ∧ e.context = c ∧
      before = s'.lastError := by
  cases h with
  | noVariant e hv =>
    refine Or.inl ⟨e, ?_, (selectVariant_error hv).2, (selectVariant_error hv).1, rfl⟩
    simp only [prepare]
    rw [hv, error_bind]
  | unavailable variant hv hk ha =>
    refine Or.inl ⟨_, bind_error_iff.mpr (Or.inr ⟨variant, hv, bind_error_iff.mpr (Or.inr
      ⟨⟨⟩, hk, bind_error_iff.mpr (Or.inl (require_error_iff.mpr ⟨not_not_intro ha, rfl⟩))⟩)⟩),
      ?_, rfl, rfl⟩
    simp only [PyError.IsWatlow]
    decide
  | unconfirmed variant hv hk ha hsafety hc =>
    refine Or.inl ⟨_, bind_error_iff.mpr (Or.inr ⟨variant, hv, bind_error_iff.mpr (Or.inr
      ⟨⟨⟩, hk, bind_error_iff.mpr (Or.inr ⟨⟨⟩, require_of _ ha,
        bind_error_iff.mpr (Or.inl (require_error_iff.mpr ⟨?_, rfl⟩))⟩)⟩)⟩),
      ?_, rfl, rfl⟩
    · simp [hsafety, hc]
    · simp only [PyError.IsWatlow]
      decide
  | notEncoded variant e hv hk ha hc he hw =>
    refine Or.inl ⟨e, ?_, hw, rfl, rfl⟩
    simp only [prepare]
    rw [hv, ok_bind, hk, ok_bind, require_of _ ha, ok_bind, require_of _ hc, ok_bind, he,
      error_bind]
  | notDecoded d reply e hd hreply he hw hp =>
    exact Or.inr ⟨d, reply, e, hd, hreply, he, hw, hp, rfl, rfl⟩

end Handlers

/-- `last_error` tracks a call exactly when the call has no failure that goes unrecorded, up to
one whose context was there already. -/
theorem execute_tracks_iff (s s' : Session) (command : Command Req Resp) (request : Req)
    (confirm : Bool) (client : WireRequest → Result WireReply) :
    Tracks s'.lastError (executeAcross s s' command request confirm client) ↔
      ∀ before c, Unrecorded s s' command request confirm client before c → before = some c := by
  cases hp : prepare s command request confirm with
  | error e =>
    have hrun : executeAcross s s' command request confirm client = (.error e, s) := by
      simp only [executeAcross]
      rw [hp]
    rw [hrun, tracks_error_iff]
    constructor
    · intro hraised before c hu
      rcases hu.raises with ⟨e', he', hw, rfl, rfl⟩ | ⟨d, _, _, hd, -⟩
      · cases hp.symm.trans he'
        exact hraised hw
      · cases hp.symm.trans hd
    · intro h hw
      rcases prepare_error_cases s' client hp with ⟨b, hu, rfl⟩ | hn
      · exact h _ _ hu
      · exact absurd hw hn
  | ok d =>
    have hrun : executeAcross s s' command request confirm client =
        finish s' d (client d.wire) := by
      simp only [executeAcross]
      rw [hp]
    rw [hrun, finish_tracks_iff]
    constructor
    · intro h before c hu
      rcases hu.raises with ⟨e', he', -⟩ | ⟨d', reply, e, hd, hreply, he, hw, hn, rfl, rfl⟩
      · cases hp.symm.trans he'
      · cases hp.symm.trans hd
        exact h reply e hreply he hw hn
    · intro h reply e hreply he hw hn
      exact h _ _ (.notDecoded d reply e hp hreply he hw hn)

def unconfirmedWrite : Result ParameterEntry × Session :=
  executeAcross SafetyGate.byteSession SafetyGate.byteSession
    (writeParameter ModbusCodec.wordModbus) ⟨.id 4001, .num (.int 5), 1⟩ false
    fun _ => raise .timeout []

theorem unconfirmedWrite_untracked :
    (∃ e, unconfirmedWrite.1 = .error e ∧ e.kind = .confirmationRequired ∧
      unconfirmedWrite.2.lastError = none) ∧
    ¬ Tracks SafetyGate.byteSession.lastError unconfirmedWrite := by
  refine ⟨⟨_, rfl, rfl, rfl⟩, ?_⟩
  rintro ⟨hraised, -⟩
  have h := hraised _ rfl (by decide +kernel)
  cases h

end LastError
