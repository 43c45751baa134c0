import Watlowlib.StdBusTlv

/-! # Inner payloads of the attribute service

Selectors, the two request encoders, the payload decoder and the mapping of the device's error
codes to typed errors. -/
namespace StdBusPayload

open ExceptRules PythonNumbers PythonValues StdBusTlv WatlowErrors

def dirRequest : UInt8 := 0x01

def dirResponse : UInt8 := 0x02

def fnRead : UInt8 := 0x03

def fnWrite : UInt8 := 0x04

def noSuchObjectCode : UInt8 := 0x81

def noSuchAttributeCode : UInt8 := 0x83

def noSuchInstanceCode : UInt8 := 0x84

/-- The selector, value and tag of a write request or of a response. -/
structure Attribute where
  cls : UInt8
  member : UInt8
  instanceNo : UInt8
  value : PyValue
  typeTag : UInt8
  deriving DecidableEq, Repr

inductive Payload where
  | readRequest (cls member instanceNo : UInt8)
  | writeRequest (a : Attribute)
  | readResponse (a : Attribute)
  | writeResponse (a : Attribute)
  | errorResponse (code : UInt8)
  deriving DecidableEq, Repr

def Payload.typeName : Payload → String
  | .readRequest .. => "ReadRequest"
  | .writeRequest _ => "WriteRequest"
  | .readResponse _ => "ReadResponse"
  | .writeResponse _ => "WriteResponse"
  | .errorResponse _ => "ErrorResponse"

def errorForCode (code : UInt8) : ErrorKind × String :=
  if code = noSuchObjectCode then (.noSuchObject, " (NO_SUCH_OBJECT)")
  else if code = noSuchAttributeCode then (.noSuchAttribute, " (NO_SUCH_ATTRIBUTE)")
  else if code = noSuchInstanceCode then (.noSuchInstance, " (NO_SUCH_INSTANCE)")
  else (.protocol, " (unknown)")

def raiseForErrorCode {α : Type} (code : UInt8) (context : ErrorContext) : Result α :=
  raise (errorForCode code).1
    [.text "Standard Bus error 0x", .hex 2 code.toNat, .text (errorForCode code).2] context

theorem errorForCode_protocol (code : UInt8) : (errorForCode code).1.IsInstance .protocol := by
  simp only [errorForCode]
  split_ifs <;> decide

def splitParam (paramId : ℤ) : ℤ × ℤ := (paramId / 1000, paramId % 1000)

def joinParam (cls member : ℤ) : ℤ := cls * 1000 + member

theorem joinParam_splitParam (paramId : ℤ) :
    joinParam (splitParam paramId).1 (splitParam paramId).2 = paramId := by
  simp only [joinParam, splitParam]
  omega

def encodeReadRequest (paramId instanceNo : ℤ) : Result Bytes :=
  bytesOf [dirRequest.toNat, fnRead.toNat, 0x01, (splitParam paramId).1, (splitParam paramId).2,
    instanceNo]

def encodeWriteRequest (paramId : ℤ) (value : PyValue) (instanceNo : ℤ) (typeTag : DataType) :
    Result Bytes := do
  let head ← bytesOf [dirRequest.toNat, fnWrite.toNat, (splitParam paramId).1,
    (splitParam paramId).2, instanceNo]
  let tail ← encodeValue typeTag value
  .ok (head ++ tail)

/-- The parameter ids and instances whose selector fits three bytes. -/
structure SelectorFits (paramId instanceNo : ℤ) : Prop where
  cls : 0 ≤ paramId / 1000 ∧ paramId / 1000 ≤ 255
  member : 0 ≤ paramId % 1000 ∧ paramId % 1000 ≤ 255
  instanceNo : 0 ≤ instanceNo ∧ instanceNo ≤ 255

theorem SelectorFits.writes {paramId instanceNo : ℤ} (h : SelectorFits paramId instanceNo) :
    WritesInt paramId := by
  apply writesInt_of_small
  have hcls := h.cls
  omega

def selectorBytes (paramId instanceNo : ℤ) : Bytes :=
  [UInt8.ofNat (paramId / 1000).toNat, UInt8.ofNat (paramId % 1000).toNat,
    UInt8.ofNat instanceNo.toNat]

theorem encodeReadRequest_ok_iff {paramId instanceNo : ℤ} {bs : Bytes} :
    encodeReadRequest paramId instanceNo = .ok bs ↔
      SelectorFits paramId instanceNo ∧
        bs = [dirRequest, fnRead, 0x01] ++ selectorBytes paramId instanceNo := by
  simp only [encodeReadRequest]
  rw [bytesOf_ok_iff]
  constructor
  · rintro ⟨h, hbs⟩
    exact ⟨⟨h _ (by simp [splitParam]), h _ (by simp [splitParam]), h _ (by simp)⟩, hbs⟩
  · rintro ⟨⟨hc, hm, hi⟩, hbs⟩
    refine ⟨?_, hbs⟩
    intro i hmem
    simp only [List.mem_cons, List.not_mem_nil, or_false, splitParam] at hmem
    rcases hmem with rfl | rfl | rfl | rfl | rfl | rfl
    · decide
    · decide
    · decide
    · exact hc
    · exact hm
    · exact hi

theorem encodeWriteRequest_ok_iff {paramId instanceNo : ℤ} {value : PyValue} {type : DataType}
    {bs : Bytes} :
    encodeWriteRequest paramId value instanceNo type = .ok bs ↔
      SelectorFits paramId instanceNo ∧ ∃ tail, encodeValue type value = .ok tail ∧
        bs = [dirRequest, fnWrite] ++ selectorBytes paramId instanceNo ++ tail := by
  simp only [encodeWriteRequest]
  rw [bind_ok_iff]
  constructor
  · rintro ⟨head, hhead, h⟩
    obtain ⟨hfit, rfl⟩ := bytesOf_ok_iff.mp hhead
    obtain ⟨tail, htail, hbs⟩ := bind_ok_iff.mp h
    cases hbs
    exact ⟨⟨hfit _ (by simp [splitParam]), hfit _ (by simp [splitParam]), hfit _ (by simp)⟩,
      tail, htail, rfl⟩
  · rintro ⟨⟨hc, hm, hi⟩, tail, htail, hbs⟩
    refine ⟨_, bytesOf_ok ?_, ?_⟩
    · intro i hmem
      simp only [List.mem_cons, List.not_mem_nil, or_false, splitParam] at hmem
      rcases hmem with rfl | rfl | rfl | rfl | rfl
      · decide
      · decide
      · exact hc
      · exact hm
      · exact hi
    · rw [htail, hbs]
      rfl

/-- `01 03 01 CC MM II`, and whatever follows. -/
def decodeReadRequest (payload rest : Bytes) : Result Payload :=
  match rest with
  | mode :: cls :: member :: instanceNo :: _ =>
    if mode ≠ 0x01 then
      raise .valueError [.text "unexpected read-request shape: ", .bytesHex payload]
    else .ok (.readRequest cls member instanceNo)
  | _ => raise .valueError [.text "unexpected read-request shape: ", .bytesHex payload]

/-- `02 03 01 CC MM II <typed value>` -/
def decodeReadResponse (payload rest : Bytes) : Result Payload :=
  match rest with
  | mode :: cls :: member :: instanceNo :: v :: vs =>
    if mode ≠ 0x01 then
      raise .valueError [.text "unexpected read-response shape: ", .bytesHex payload]
    else do
      let d ← decodeValue (v :: vs)
      .ok (.readResponse ⟨cls, member, instanceNo, d.value, d.typeTag⟩)
  | _ => raise .valueError [.text "unexpected read-response shape: ", .bytesHex payload]

/-- `dd 04 CC MM II <typed value>` -/
def decodeWrite (direction : UInt8) (payload rest : Bytes) : Result Payload :=
  match rest with
  | cls :: member :: instanceNo :: v :: vs => do
    let d ← decodeValue (v :: vs)
    let a : Attribute := ⟨cls, member, instanceNo, d.value, d.typeTag⟩
    .ok (if direction = dirRequest then .writeRequest a else .writeResponse a)
  | _ => raise .valueError [.text "unexpected write shape: ", .bytesHex payload]

def decodePayload (payload : Bytes) : Result Payload :=
  match payload with
  | direction :: function :: rest =>
    if direction ≠ dirRequest ∧ direction ≠ dirResponse then
      raise .valueError [.text "unknown direction byte 0x", .hex 2 direction.toNat]
    else if direction = dirResponse ∧ function &&& 0x80 ≠ 0 then
      if rest ≠ [] then
        raise .valueError [.text "error response with unexpected trailing bytes: ",
          .bytesHex payload]
      else .ok (.errorResponse function)
    else if function = fnRead then
      if direction = dirRequest then decodeReadRequest payload rest
      else decodeReadResponse payload rest
    else if function = fnWrite then decodeWrite direction payload rest
    else raise .valueError [.text "unknown function byte 0x", .hex 2 function.toNat]
  | _ => raise .valueError [.text "payload too short: ", .bytesHex payload]

theorem decodePayload_error_kind {payload : Bytes} {e : PyError}
    (h : decodePayload payload = .error e) : e.kind = .valueError := by
  have hread : ∀ rest, decodeReadResponse payload rest = .error e → e.kind = .valueError := by
    intro rest h
    simp only [decodeReadResponse, raise] at h
    split at h
    · split at h
      · cases h; rfl
      · rcases bind_error_iff.mp h with h | ⟨d, -, h⟩
        · exact decodeValue_error_kind h
        · cases h
    · cases h; rfl
  have hwrite : ∀ direction rest, decodeWrite direction payload rest = .error e →
      e.kind = .valueError := by
    intro direction rest h
    simp only [decodeWrite, raise] at h
    split at h
    · rcases bind_error_iff.mp h with h | ⟨d, -, h⟩
      · exact decodeValue_error_kind h
      · cases h
    · cases h; rfl
  have hrequest : ∀ rest, decodeReadRequest payload rest = .error e → e.kind = .valueError := by
    intro rest h
    simp only [decodeReadRequest, raise] at h
    split at h
    · split at h
      · cases h; rfl
      · cases h
    · cases h; rfl
  simp only [decodePayload, raise] at h
  split at h
  · split_ifs at h
    · cases h; rfl
    · cases h; rfl
    · exact hrequest _ h
    · exact hread _ h
    · exact hwrite _ _ h
    · cases h; rfl
  · cases h; rfl

end StdBusPayload
