import Mathlib.Data.Finset.Lattice.Basic
import Mathlib.Data.List.TakeWhile
import Watlowlib.PythonTexts

/-! # Part numbers

The family of a part number, the decoder of the EZ-ZONE PM and the capabilities that it derives.
`upper` stands for `str.upper` and may be any function. -/
namespace PartNumbers

open PythonTexts

inductive ControllerFamily where
  | pm
  | rm
  | st
  | ezzoneLimit
  | f4t
  | sd
  | f4p
  | unknown
  deriving DecidableEq, Repr

inductive Capability where
  | profile
  | limit
  | hasCooling
  | hasModbus
  | hasProfiles
  | hasBluetooth
  | hasEthernet
  deriving DecidableEq, Repr

structure PartNumber where
  raw : String
  family : ControllerFamily
  details : List (String × String)
  deriving DecidableEq, Repr

def PartNumber.detail (part : PartNumber) (key : String) : String :=
  (part.details.lookup key).getD ""

def familyPrefixes : List (String × ControllerFamily) :=
  [("PM", .pm), ("RM", .rm), ("ST", .st), ("F4T", .f4t), ("F4P", .f4p), ("SD", .sd)]

def classifyHead (head : List Char) : ControllerFamily :=
  ((familyPrefixes.find? fun e => e.1.toList.isPrefixOf head).map (·.2)).getD .unknown

/-! ## The ordering format of the PM -/

/-- `[A-Z]` -/
def isLetter (c : Char) : Bool := decide ('A' ≤ c ∧ c ≤ 'Z')

/-- `[A-Z0-9]` -/
def isAlnum (c : Char) : Bool := isLetter c || decide ('0' ≤ c ∧ c ≤ '9')

/-- `[A-Z0-9-]` -/
def isOption (c : Char) : Bool := isAlnum c || c == '-'

/-- `$`, which also matches in front of a final newline. -/
def atEnd (cs : List Char) : Bool := cs == [] || cs == ['\n']

/-- The named groups of `_PM_PART_RE`. -/
structure PmGroups where
  size : Char
  control : Char
  power : Char
  output1 : Char
  output2 : Char
  options : Option String

/-- The tail of the pattern: an options block behind a dash, or nothing. -/
def matchOptions : List Char → Option (Option String)
  | '-' :: rest =>
    if rest.takeWhile isOption ≠ [] ∧ atEnd (rest.dropWhile isOption) then
      some (some (String.ofList (rest.takeWhile isOption)))
    else none
  | tail => if atEnd tail then some none else none

def matchPm : List Char → Option PmGroups
  | 'P' :: 'M' :: size :: control :: power :: output1 :: output2 :: tail =>
    if isAlnum size ∧ isLetter control ∧ isAlnum power ∧ isAlnum output1 ∧ isAlnum output2 then
      (matchOptions tail).map fun options => ⟨size, control, power, output1, output2, options⟩
    else none
  | _ => none

def pmControlLabels : List (Char × String) :=
  [('C', "controller"), ('R', "ramp_soak_controller"), ('E', "integrated_limit_control"),
   ('L', "limit"), ('V', "process_value_display"), ('U', "dual_loop_controller")]

def pmPowerLabels : List (Char × String) := [('1', "100-240VAC"), ('3', "24V_AC_DC")]

def optionalDetail (key : String) (value : Option String) : List (String × String) :=
  match value with
  | some s => if s = "" then [] else [(key, s)]
  | none => []

def pmDetails (g : PmGroups) : List (String × String) :=
  [("case_size", g.size.toString), ("control_type", g.control.toString),
    ("power_input", g.power.toString), ("output_1", g.output1.toString),
    ("output_2", g.output2.toString)] ++
  (optionalDetail "options" g.options ++
  (optionalDetail "control_label" (pmControlLabels.lookup g.control) ++
  optionalDetail "power_label" (pmPowerLabels.lookup g.power)))

section Decoding

variable (upper : String → String) (raw : String)

/-- `raw.strip().upper()` -/
def head : List Char := (upper (strip raw)).toList

def classifyFamily : ControllerFamily := classifyHead (head upper raw)

def decodePartNumber : PartNumber :=
  if classifyFamily upper raw = .pm then
    ⟨raw, .pm, ((matchPm (head upper raw)).map pmDetails).getD []⟩
  else ⟨raw, classifyFamily upper raw, []⟩

end Decoding

/-! ## Capabilities -/

def pmCommsModbus : List Char := ['1', '2', 'B', 'D', 'E', 'F']

def pmCommsBluetooth : List Char := ['B', 'E', 'F', 'G', 'H', 'J', 'K']

def pmCommsEthernet : List Char := ['3', 'G']

def pmControlProfiles : List String := ["R", "B", "E", "N", "T"]

def pmCommsCode (part : PartNumber) : Option Char :=
  if part.family ≠ .pm then none else (part.detail "options").toList.head?

def pmCommsSupportsModbus (part : PartNumber) : Bool :=
  match pmCommsCode part with
  | some c => pmCommsModbus.contains c
  | none => false

def capabilitiesForFamily : ControllerFamily → Finset Capability
  | .rm => {.profile, .hasProfiles}
  | .ezzoneLimit => {.limit}
  | .f4t => {.profile, .hasProfiles}
  | _ => ∅

def commsCapabilities (c : Char) : Finset Capability :=
  (if pmCommsModbus.contains c then {.hasModbus} else ∅) ∪
    ((if pmCommsBluetooth.contains c then {.hasBluetooth} else ∅) ∪
      (if pmCommsEthernet.contains c then {.hasEthernet} else ∅))

def capabilitiesForPartNumber (part : PartNumber) : Finset Capability :=
  if part.family ≠ .pm then capabilitiesForFamily part.family
  else
    capabilitiesForFamily part.family ∪
      ((if part.detail "output_2" ≠ "" ∧ part.detail "output_2" ≠ "A" then {.hasCooling} else ∅) ∪
        ((if part.detail "control_type" ∈ pmControlProfiles then {.hasProfiles, .profile} else ∅) ∪
          ((pmCommsCode part).map commsCapabilities).getD ∅))

theorem commsCapabilities_hasModbus_iff (c : Char) :
    .hasModbus ∈ commsCapabilities c ↔ pmCommsModbus.contains c = true := by
  have hbluetooth : .hasModbus ∉
      (if pmCommsBluetooth.contains c then {.hasBluetooth} else ∅ : Finset Capability) := by
    split <;> decide
  have hethernet : .hasModbus ∉
      (if pmCommsEthernet.contains c then {.hasEthernet} else ∅ : Finset Capability) := by
    split <;> decide
  simp only [commsCapabilities, Finset.mem_union, hbluetooth, hethernet, or_false]
  by_cases hmodbus : pmCommsModbus.contains c = true
  · rw [if_pos hmodbus]
    exact iff_of_true (Finset.mem_singleton_self _) hmodbus
  · rw [if_neg hmodbus]
    exact iff_of_false (Finset.notMem_empty _) hmodbus

theorem capabilities_hasModbus_iff (part : PartNumber) :
    .hasModbus ∈ capabilitiesForPartNumber part ↔ pmCommsSupportsModbus part = true := by
  have hprior : ∀ family, .hasModbus ∉ capabilitiesForFamily family := by
    intro family
    cases family <;> decide
  have hcooling : .hasModbus ∉ (if part.detail "output_2" ≠ "" ∧ part.detail "output_2" ≠ "A" then
      {.hasCooling} else ∅ : Finset Capability) := by
    split <;> decide
  have hprofiles : .hasModbus ∉ (if part.detail "control_type" ∈ pmControlProfiles then
      {.hasProfiles, .profile} else ∅ : Finset Capability) := by
    split <;> decide
  by_cases hpm : part.family = .pm
  · rw [capabilitiesForPartNumber, if_neg (not_not.mpr hpm), pmCommsSupportsModbus]
    simp only [Finset.mem_union, hprior, hcooling, hprofiles, false_or]
    cases pmCommsCode part with
    | none => exact iff_of_false (Finset.notMem_empty _) Bool.false_ne_true
    | some c => exact commsCapabilities_hasModbus_iff c
  · have hcode : pmCommsCode part = none := if_pos hpm
    rw [capabilitiesForPartNumber, if_pos hpm, pmCommsSupportsModbus, hcode]
    exact iff_of_false (hprior _) Bool.false_ne_true

/-! ## The comms character -/

/-- The comms character of the ordering format: the first one of the options block. -/
def CommsCharacter (head : List Char) (c : Char) : Prop :=
  ∃ size control power output1 output2 options ending,
    head = 'P' :: 'M' :: size :: control :: power :: output1 :: output2 :: '-' ::
      (c :: options ++ ending) ∧
    (isAlnum size ∧ isLetter control ∧ isAlnum power ∧ isAlnum output1 ∧ isAlnum output2) ∧
    (∀ x ∈ c :: options, isOption x) ∧ atEnd ending

theorem atEnd_dropped {cs : List Char} (h : atEnd cs) : cs.takeWhile isOption = [] := by
  simp only [atEnd, Bool.or_eq_true, beq_iff_eq] at h
  rcases h with rfl | rfl <;> decide

theorem matchOptions_iff {tail : List Char} {o : String} :
    matchOptions tail = some (some o) ↔
      ∃ ending, tail = '-' :: (o.toList ++ ending) ∧ o.toList ≠ [] ∧
        (∀ x ∈ o.toList, isOption x) ∧ atEnd ending := by
  constructor
  · intro h
    unfold matchOptions at h
    split at h
    · rename_i rest
      split at h
      · rename_i hmatch
        cases h
        rw [String.toList_ofList]
        refine ⟨_, by rw [List.takeWhile_append_dropWhile], hmatch.1, ?_, hmatch.2⟩
        exact fun x hx => List.mem_takeWhile_imp hx
      · cases h
    · split at h
      · cases h
      · cases h
  · rintro ⟨ending, rfl, hne, hall, hend⟩
    have htake : (o.toList ++ ending).takeWhile isOption = o.toList := by
      rw [List.takeWhile_append_of_pos hall, atEnd_dropped hend, List.append_nil]
    have hdrop : (o.toList ++ ending).dropWhile isOption = ending := by
      have hsplit := List.takeWhile_append_dropWhile (p := isOption) (l := o.toList ++ ending)
      rw [htake] at hsplit
      exact List.append_cancel_left hsplit
    rw [matchOptions, htake, hdrop, if_pos ⟨hne, hend⟩, String.ofList_toList]

theorem matchPm_eq_some {head : List Char} {g : PmGroups} (h : matchPm head = some g) :
    ∃ tail, head = 'P' :: 'M' :: g.size :: g.control :: g.power :: g.output1 :: g.output2 :: tail ∧
      (isAlnum g.size ∧ isLetter g.control ∧ isAlnum g.power ∧ isAlnum g.output1 ∧
        isAlnum g.output2) ∧ matchOptions tail = some g.options := by
  unfold matchPm at h
  split at h
  · split at h
    · rename_i hclasses
      obtain ⟨options, hoptions, rfl⟩ := Option.map_eq_some_iff.mp h
      exact ⟨_, rfl, hclasses, hoptions⟩
    · cases h
  · cases h

theorem lookup_optionalDetail {key name : String} (h : name ≠ key) (v : Option String) :
    (optionalDetail key v).lookup name = none := by
  cases v with
  | none => rfl
  | some s => by_cases hs : s = "" <;> simp [optionalDetail, hs, h]

theorem detail_options (g : PmGroups) :
    ((pmDetails g).lookup "options").getD "" = g.options.getD "" := by
  have hcontrol := lookup_optionalDetail (show "options" ≠ "control_label" by decide)
    (pmControlLabels.lookup g.control)
  have hpower := lookup_optionalDetail (show "options" ≠ "power_label" by decide)
    (pmPowerLabels.lookup g.power)
  rw [pmDetails, List.lookup_append, List.lookup_append, List.lookup_append, hcontrol, hpower]
  simp only [List.lookup_cons, List.lookup_nil, show ("options" == "case_size") = false by decide,
    show ("options" == "control_type") = false by decide,
    show ("options" == "power_input") = false by decide,
    show ("options" == "output_1") = false by decide,
    show ("options" == "output_2") = false by decide, Option.none_or, Option.or_none]
  cases g.options with
  | none => rfl
  | some s => by_cases hs : s = "" <;> simp [optionalDetail, hs]

theorem pmCommsCode_of_groups {part : PartNumber} {g : PmGroups} (hpm : part.family = .pm)
    (hdetails : part.details = pmDetails g) :
    pmCommsCode part = (g.options.getD "").toList.head? := by
  rw [pmCommsCode, if_neg (not_not.mpr hpm), PartNumber.detail, hdetails, detail_options]

/-- The decoder finds the comms character of the ordering format, and no other. -/
theorem pmCommsCode_eq_some_iff {upper : String → String} {raw : String} {c : Char} :
    pmCommsCode (decodePartNumber upper raw) = some c ↔ CommsCharacter (head upper raw) c := by
  constructor
  · intro h
    by_cases hpm : classifyFamily upper raw = .pm
    · cases hmatch : matchPm (head upper raw) with
      | none =>
        simp [decodePartNumber, hpm, hmatch, pmCommsCode, PartNumber.detail] at h
      | some g =>
        rw [decodePartNumber, if_pos hpm, hmatch, pmCommsCode_of_groups (g := g) rfl rfl] at h
        obtain ⟨tail, hhead, hclasses, htail⟩ := matchPm_eq_some hmatch
        cases hoptions : g.options with
        | none =>
          rw [hoptions] at h
          cases h
        | some o =>
          rw [hoptions] at h htail
          obtain ⟨ending, rfl, -, hall, hend⟩ := matchOptions_iff.mp htail
          obtain ⟨options, ho⟩ := List.head?_eq_some_iff.mp h
          have hchars : o.toList = c :: options := ho
          rw [hchars] at hall hhead
          exact ⟨_, _, _, _, _, options, ending, hhead, hclasses, hall, hend⟩
    · rw [decodePartNumber, if_neg hpm] at h
      rw [pmCommsCode, if_pos hpm] at h
      cases h
  · rintro ⟨size, control, power, output1, output2, options, ending, hhead, hclasses, hall, hend⟩
    have hpm : classifyFamily upper raw = .pm := by
      rw [classifyFamily, hhead]
      rfl
    have htail : matchOptions ('-' :: (c :: options ++ ending)) =
        some (some (String.ofList (c :: options))) :=
      matchOptions_iff.mpr
        ⟨ending, by rw [String.toList_ofList], by simp, by simpa using hall, hend⟩
    have hmatch : matchPm (head upper raw) =
        some ⟨size, control, power, output1, output2, some (String.ofList (c :: options))⟩ := by
      rw [hhead, matchPm, if_pos hclasses, htail]
      rfl
    rw [decodePartNumber, if_pos hpm, hmatch, pmCommsCode_of_groups rfl rfl]
    simp

example : pmCommsCode (decodePartNumber id "PM3R1CA-AAAAAAA") = some 'A' := by decide +kernel

end PartNumbers
