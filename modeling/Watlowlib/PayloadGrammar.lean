import Watlowlib.StdBusPayload

/-! # The grammar of the inner payloads

The productions the payload module documents, as a predicate on byte strings, against what the
decoder accepts: it also accepts a request or a response with bytes behind it. -/
namespace PayloadGrammar

open ExceptRules PythonNumbers PythonValues StdBusPayload StdBusTlv WatlowErrors

/-- The types without a length byte, with their width. -/
def fixedWidths : List (DataType × ℕ) := [(.u8, 1), (.u16, 2), (.u32, 4), (.s32, 4), (.float, 4)]

/-- The types with a count byte, with the bytes of one unit. -/
def countedUnits : List (DataType × ℕ) := [(.string, 1), (.packed, 2)]

/-- `VALUE = TYPE_TAG [LENGTH] DATA` -/
inductive TypedValue : Bytes → Prop where
  | fixed (type : DataType) (width : ℕ) (h : (type, width) ∈ fixedWidths) (data : Bytes)
      (hlen : data.length = width) : TypedValue (type.tag :: data)
  | counted (type : DataType) (unit : ℕ) (h : (type, unit) ∈ countedUnits) (n : UInt8)
      (data : Bytes) (hlen : data.length = unit * n.toNat) : TypedValue (type.tag :: n :: data)

/-- A read request, or a request or response that ends in one typed value. -/
inductive AttributeProduction : Bytes → Prop where
  | readRequest (c m i : UInt8) : AttributeProduction [dirRequest, fnRead, 0x01, c, m, i]
  | readResponse (c m i : UInt8) (v : Bytes) (hv : TypedValue v) :
      AttributeProduction (dirResponse :: fnRead :: 0x01 :: c :: m :: i :: v)
  | write (direction : UInt8) (hd : direction = dirRequest ∨ direction = dirResponse)
      (c m i : UInt8) (v : Bytes) (hv : TypedValue v) :
      AttributeProduction (direction :: fnWrite :: c :: m :: i :: v)

/-- A payload of the documented grammar; an error response has the high bit in its code. -/
inductive Production : Bytes → Prop where
  | service (p : Bytes) (hp : AttributeProduction p) : Production p
  | errorResponse (code : UInt8) (h : code &&& 0x80 ≠ 0) : Production [dirResponse, code]

/-- A production other than an error response, with at least one byte behind it. -/
def Overlong (p : Bytes) : Prop := ∃ q x xs, p = q ++ x :: xs ∧ AttributeProduction q

theorem decodeFixed_ok_iff {tag : UInt8} {width : ℕ} {label : String} {read : Bytes → PyValue}
    {data : Bytes} {d : Decoded} :
    decodeFixed tag width label read data = .ok d ↔
      width ≤ data.length ∧ d = ⟨read (data.take width), tag, 1 + width⟩ := by
  simp only [decodeFixed, raise]
  by_cases h : data.length < width
  · simp [h, show ¬ width ≤ data.length by omega]
  · simp [h, show width ≤ data.length by omega, eq_comm]

theorem decodePrefixed_ok_iff {tag : UInt8} {unit : ℕ} {label : String} {read : Bytes → PyValue}
    {data : Bytes} {d : Decoded} :
    decodePrefixed tag unit label read data = .ok d ↔
      ∃ n rest, data = n :: rest ∧ unit * n.toNat ≤ rest.length ∧
        d = ⟨read (rest.take (unit * n.toNat)), tag, 2 + unit * n.toNat⟩ := by
  cases data with
  | nil => simp [decodePrefixed, raise]
  | cons n rest =>
    simp only [decodePrefixed, raise]
    by_cases h : rest.length < unit * n.toNat
    · simp [h, show ¬ unit * n.toNat ≤ rest.length by omega]
    · simp [h, show unit * n.toNat ≤ rest.length by omega, eq_comm]

theorem typedValue_fixed_prefix {type : DataType} {width : ℕ} (h : (type, width) ∈ fixedWidths)
    {data : Bytes} (hlen : width ≤ data.length) :
    TypedValue ((type.tag :: data).take (1 + width)) := by
  rw [Nat.add_comm, List.take_succ_cons]
  exact .fixed type width h _ (List.length_take_of_le hlen)

theorem typedValue_counted_prefix {type : DataType} {unit : ℕ} (h : (type, unit) ∈ countedUnits)
    {n : UInt8} {data : Bytes} (hlen : unit * n.toNat ≤ data.length) :
    TypedValue ((type.tag :: n :: data).take (2 + unit * n.toNat)) := by
  rw [Nat.add_comm, List.take_succ_cons, List.take_succ_cons]
  exact .counted type unit h n _ (List.length_take_of_le hlen)

theorem typedValue_of_decodeValue {buf : Bytes} {d : Decoded} (h : decodeValue buf = .ok d) :
    d.consumed ≤ buf.length ∧ TypedValue (buf.take d.consumed) := by
  cases buf with
  | nil => cases h
  | cons tag data =>
    have hfixed : ∀ {type : DataType} {width label read}, (type, width) ∈ fixedWidths →
        tag = type.tag → decodeFixed tag width label read data = .ok d →
        d.consumed ≤ (tag :: data).length ∧ TypedValue ((tag :: data).take d.consumed) := by
      intro type width label read hmem htag h
      obtain ⟨hlen, rfl⟩ := decodeFixed_ok_iff.mp h
      subst htag
      refine ⟨?_, typedValue_fixed_prefix hmem hlen⟩
      simp only [List.length_cons]
      omega
    have hcounted : ∀ {type : DataType} {unit label read}, (type, unit) ∈ countedUnits →
        tag = type.tag → decodePrefixed tag unit label read data = .ok d →
        d.consumed ≤ (tag :: data).length ∧ TypedValue ((tag :: data).take d.consumed) := by
      intro type unit label read hmem htag h
      obtain ⟨n, rest, rfl, hlen, rfl⟩ := decodePrefixed_ok_iff.mp h
      subst htag
      refine ⟨?_, typedValue_counted_prefix hmem hlen⟩
      simp only [List.length_cons]
      omega
    simp only [decodeValue] at h
    split_ifs at h with h1 h2 h3 h4 h5 h6 h7
    · exact hfixed (by decide) h1 h
    · exact hfixed (by decide) h2 h
    · exact hfixed (by decide) h3 h
    · exact hfixed (by decide) h4 h
    · exact hfixed (by decide) h5 h
    · exact hcounted (by decide) h6 h
    · exact hcounted (by decide) h7 h
    · cases h

theorem decodeValue_fixed {type : DataType} {width : ℕ} (h : (type, width) ∈ fixedWidths) :
    ∃ label read, ∀ data,
      decodeValue (type.tag :: data) = decodeFixed type.tag width label read data := by
  simp only [fixedWidths, List.mem_cons, Prod.mk.injEq, List.not_mem_nil, or_false] at h
  rcases h with ⟨rfl, rfl⟩ | ⟨rfl, rfl⟩ | ⟨rfl, rfl⟩ | ⟨rfl, rfl⟩ | ⟨rfl, rfl⟩
  · exact ⟨"u8", readUnsigned, fun _ => rfl⟩
  · exact ⟨"u16", readUnsigned, fun _ => rfl⟩
  · exact ⟨"u32", readUnsigned, fun _ => rfl⟩
  · exact ⟨"s32", fun bs => .num (.int (unpackSigned 4 bs)), fun _ => rfl⟩
  · exact ⟨"float", fun bs => .num (.float (unpackFloat bs)), fun _ => rfl⟩

theorem decodeValue_counted {type : DataType} {unit : ℕ} (h : (type, unit) ∈ countedUnits) :
    ∃ label read, ∀ data,
      decodeValue (type.tag :: data) = decodePrefixed type.tag unit label read data := by
  simp only [countedUnits, List.mem_cons, Prod.mk.injEq, List.not_mem_nil, or_false] at h
  rcases h with ⟨rfl, rfl⟩ | ⟨rfl, rfl⟩
  · exact ⟨"string", fun bs => .str (decodeAsciiReplace bs), fun _ => rfl⟩
  · exact ⟨"packed-int", readUnsigned, fun _ => rfl⟩

theorem decodeValue_append {v : Bytes} (hv : TypedValue v) :
    ∃ d, d.consumed = v.length ∧ ∀ t, decodeValue (v ++ t) = .ok d := by
  cases hv with
  | fixed type width h data hlen =>
    obtain ⟨label, read, hdecode⟩ := decodeValue_fixed h
    refine ⟨⟨read data, type.tag, 1 + width⟩, by simp [hlen, Nat.add_comm], fun t => ?_⟩
    have hroom : width ≤ (data ++ t).length := by
      rw [List.length_append]
      omega
    have hdata : (data ++ t).take width = data := hlen ▸ List.take_left
    refine (hdecode _).trans (decodeFixed_ok_iff.mpr ⟨hroom, ?_⟩)
    exact congrArg (fun bs => (⟨read bs, type.tag, 1 + width⟩ : Decoded)) hdata.symm
  | counted type unit h n data hlen =>
    obtain ⟨label, read, hdecode⟩ := decodeValue_counted h
    refine ⟨⟨read data, type.tag, 2 + unit * n.toNat⟩, ?_, fun t => ?_⟩
    · rw [List.length_cons, List.length_cons, hlen, Nat.add_comm]
    have hroom : unit * n.toNat ≤ (data ++ t).length := by
      rw [List.length_append]
      omega
    have hdata : (data ++ t).take (unit * n.toNat) = data := hlen ▸ List.take_left
    refine (hdecode _).trans (decodePrefixed_ok_iff.mpr ⟨n, data ++ t, rfl, hroom, ?_⟩)
    rw [hdata]

theorem decodeValue_of_typedValue {v : Bytes} (hv : TypedValue v) (t : Bytes) :
    ∃ d, decodeValue (v ++ t) = .ok d ∧ d.consumed = v.length := by
  obtain ⟨d, hlen, hdecode⟩ := decodeValue_append hv
  exact ⟨d, hdecode t, hlen⟩

theorem decodeValue_ok_iff {buf : Bytes} :
    (∃ d, decodeValue buf = .ok d) ↔ ∃ v t, buf = v ++ t ∧ TypedValue v := by
  constructor
  · rintro ⟨d, h⟩
    obtain ⟨-, hv⟩ := typedValue_of_decodeValue h
    exact ⟨_, _, (List.take_append_drop d.consumed buf).symm, hv⟩
  · rintro ⟨v, t, rfl, hv⟩
    obtain ⟨d, hd, -⟩ := decodeValue_of_typedValue hv t
    exact ⟨d, hd⟩

theorem typedValue_prefix_free {v t : Bytes} (hv : TypedValue v) (hvt : TypedValue (v ++ t)) :
    t = [] := by
  obtain ⟨d, hd, hlen⟩ := decodeValue_of_typedValue hv t
  obtain ⟨d', hd', hlen'⟩ := decodeValue_of_typedValue hvt []
  rw [List.append_nil, hd] at hd'
  cases hd'
  rw [hlen, List.length_append] at hlen'
  apply List.eq_nil_of_length_eq_zero
  omega

theorem typedValue_ne_nil {v : Bytes} (hv : TypedValue v) : ∃ x xs, v = x :: xs := by
  cases hv with
  | fixed type width h data hlen => exact ⟨_, _, rfl⟩
  | counted type unit h n data hlen => exact ⟨_, _, rfl⟩

theorem production_not_overlong {p : Bytes} (hp : Production p) : ¬ Overlong p := by
  rintro ⟨q, x, xs, rfl, hq⟩
  have hread : ∀ {c m i : UInt8} {v t : Bytes}, TypedValue v →
      Production (dirResponse :: fnRead :: 0x01 :: c :: m :: i :: (v ++ t)) → t = [] := by
    intro c m i v t hv hp
    cases hp with
    | service _ hp =>
      cases hp with
      | readResponse _ _ _ _ hvt => exact typedValue_prefix_free hv hvt
  have hwrite : ∀ {direction c m i : UInt8} {v t : Bytes}, TypedValue v →
      Production (direction :: fnWrite :: c :: m :: i :: (v ++ t)) → t = [] := by
    intro direction c m i v t hv hp
    cases hp with
    | service _ hp =>
      cases hp with
      | write _ _ _ _ _ _ hvt => exact typedValue_prefix_free hv hvt
  cases hq with
  | readRequest c m i =>
    cases hp with
    | service _ hp => cases hp
  | readResponse c m i v hv => exact absurd (hread hv hp) (List.cons_ne_nil x xs)
  | write direction hd c m i v hv => exact absurd (hwrite hv hp) (List.cons_ne_nil x xs)

theorem decodePayload_of_service {q : Bytes} (hq : AttributeProduction q) (t : Bytes) :
    ∃ r, decodePayload (q ++ t) = .ok r := by
  cases hq with
  | readRequest c m i => exact ⟨.readRequest c m i, rfl⟩
  | readResponse c m i v hv =>
    obtain ⟨x, xs, rfl⟩ := typedValue_ne_nil hv
    obtain ⟨d, hd, -⟩ := decodeValue_of_typedValue hv t
    refine ⟨.readResponse ⟨c, m, i, d.value, d.typeTag⟩, ?_⟩
    have hshape : decodePayload (dirResponse :: fnRead :: 0x01 :: c :: m :: i :: x :: (xs ++ t)) =
        (do let d ← decodeValue (x :: (xs ++ t))
            .ok (.readResponse ⟨c, m, i, d.value, d.typeTag⟩)) := rfl
    exact hshape.trans (bind_ok_iff.mpr ⟨d, hd, rfl⟩)
  | write direction hdir c m i v hv =>
    obtain ⟨x, xs, rfl⟩ := typedValue_ne_nil hv
    obtain ⟨d, hd, -⟩ := decodeValue_of_typedValue hv t
    have hshape : decodePayload (direction :: fnWrite :: c :: m :: i :: x :: (xs ++ t)) =
        decodeWrite direction (direction :: fnWrite :: c :: m :: i :: x :: (xs ++ t))
          (c :: m :: i :: x :: (xs ++ t)) := by
      rcases hdir with rfl | rfl <;> rfl
    exact ⟨_, hshape.trans (bind_ok_iff.mpr ⟨d, hd, rfl⟩)⟩

theorem decodeReadRequest_ok {payload rest : Bytes} {r : Payload}
    (h : decodeReadRequest payload rest = .ok r) :
    ∃ c m i t, rest = 0x01 :: c :: m :: i :: t := by
  simp only [decodeReadRequest, raise] at h
  split at h
  · rename_i mode c m i t
    by_cases hmode : mode = 0x01
    · exact ⟨c, m, i, t, by rw [hmode]⟩
    · rw [if_pos hmode] at h
      cases h
  · cases h

theorem decodeReadResponse_ok {payload rest : Bytes} {r : Payload}
    (h : decodeReadResponse payload rest = .ok r) :
    ∃ c m i v t, rest = 0x01 :: c :: m :: i :: (v ++ t) ∧ TypedValue v := by
  simp only [decodeReadResponse, raise] at h
  split at h
  · rename_i mode c m i x xs
    by_cases hmode : mode = 0x01
    · rw [if_neg (by simpa using hmode)] at h
      obtain ⟨d, hd, -⟩ := bind_ok_iff.mp h
      obtain ⟨v, t, hv, htyped⟩ := decodeValue_ok_iff.mp ⟨d, hd⟩
      exact ⟨c, m, i, v, t, by rw [hmode, hv], htyped⟩
    · rw [if_pos hmode] at h
      cases h
  · cases h

theorem decodeWrite_ok {direction : UInt8} {payload rest : Bytes} {r : Payload}
    (h : decodeWrite direction payload rest = .ok r) :
    ∃ c m i v t, rest = c :: m :: i :: (v ++ t) ∧ TypedValue v := by
  simp only [decodeWrite, raise] at h
  split at h
  · rename_i c m i x xs
    obtain ⟨d, hd, -⟩ := bind_ok_iff.mp h
    obtain ⟨v, t, hv, htyped⟩ := decodeValue_ok_iff.mp ⟨d, hd⟩
    exact ⟨c, m, i, v, t, by rw [hv], htyped⟩
  · cases h

theorem production_of_decodePayload {p : Bytes} {r : Payload} (h : decodePayload p = .ok r) :
    Production p ∨ ∃ q t, p = q ++ t ∧ AttributeProduction q := by
  simp only [decodePayload, raise] at h
  split at h
  · rename_i direction function rest
    split_ifs at h with hdir herr hrest hread hreq hwrite
    · obtain ⟨rfl, hcode⟩ := herr
      rw [not_not] at hrest
      subst hrest
      exact Or.inl (.errorResponse function hcode)
    · subst hread hreq
      obtain ⟨c, m, i, t, rfl⟩ := decodeReadRequest_ok h
      exact Or.inr ⟨_, t, rfl, .readRequest c m i⟩
    · subst hread
      have hresp : direction = dirResponse := by tauto
      subst hresp
      obtain ⟨c, m, i, v, t, rfl, hv⟩ := decodeReadResponse_ok h
      exact Or.inr ⟨_, t, rfl, .readResponse c m i v hv⟩
    · subst hwrite
      obtain ⟨c, m, i, v, t, rfl, hv⟩ := decodeWrite_ok h
      exact Or.inr ⟨_, t, rfl, .write direction (by tauto) c m i v hv⟩
  · cases h

theorem decodePayload_ok_iff {p : Bytes} :
    (∃ r, decodePayload p = .ok r) ↔ Production p ∨ Overlong p := by
  constructor
  · rintro ⟨r, h⟩
    rcases production_of_decodePayload h with hp | ⟨q, t, rfl, hq⟩
    · exact Or.inl hp
    · cases t with
      | nil =>
        rw [List.append_nil]
        exact Or.inl (.service q hq)
      | cons x xs => exact Or.inr ⟨q, x, xs, rfl, hq⟩
  · rintro (hp | ⟨q, x, xs, rfl, hq⟩)
    · cases hp with
      | service _ hq =>
        obtain ⟨r, h⟩ := decodePayload_of_service hq []
        exact ⟨r, by rwa [List.append_nil] at h⟩
      | errorResponse code hcode =>
        refine ⟨.errorResponse code, ?_⟩
        simp only [decodePayload]
        rw [if_neg (by simp), if_pos (by simpa using hcode), if_neg (by simp)]
    · exact decodePayload_of_service hq _

/-- The decoder accepts exactly the grammar, and refuses the rest with a `ValueError`, on every
payload that is not a production with bytes behind it, and on no other. -/
theorem decodePayload_grammar_iff (p : Bytes) :
    (((∃ r, decodePayload p = .ok r) ↔ Production p) ∧
      (¬ Production p → ∃ e, decodePayload p = .error e ∧ e.kind = .valueError)) ↔
    ¬ Overlong p := by
  constructor
  · rintro ⟨hiff, -⟩ hover
    exact production_not_overlong (hiff.mp (decodePayload_ok_iff.mpr (Or.inr hover))) hover
  · intro hover
    have hiff : (∃ r, decodePayload p = .ok r) ↔ Production p := by
      rw [decodePayload_ok_iff, or_iff_left hover]
    refine ⟨hiff, ?_⟩
    intro hp
    cases h : decodePayload p with
    | ok r => exact absurd (hiff.mp ⟨r, h⟩) hp
    | error e => exact ⟨e, rfl, decodePayload_error_kind h⟩

theorem decodePayload_accepts_overlong :
    decodePayload [0x01, 0x03, 0x01, 0x04, 0x01, 0x01, 0x00] = .ok (.readRequest 4 1 1) ∧
      ¬ Production [0x01, 0x03, 0x01, 0x04, 0x01, 0x01, 0x00] := by
  refine ⟨rfl, ?_⟩
  intro hp
  exact production_not_overlong hp ⟨_, 0x00, [], rfl, .readRequest 4 1 1⟩

end PayloadGrammar
