/-!
# Reading UTF-8 with stray bytes

A path may hold bytes that are no UTF-8.  `pieces` splits a byte string into the
characters that can be read and the bytes that belong to none.
-/

namespace Collective.Text.Utf8

/-- The low six bits of a continuation byte. -/
def continuation? (byte : UInt8) : Option Nat :=
  if 0x80 ≤ byte && byte < 0xC0 then some (byte.toNat - 0x80) else none

/-- The character of a code point that needs at least `least` to be written in
this many bytes; surrogates are no characters. -/
def character? (least code : Nat) : Option Char :=
  if h : least ≤ code ∧ code.isValidChar then some (Char.ofNatAux code h.2) else none

/-- The character that a byte string starts with, and how many bytes follow its
first one. -/
def decodeOne? : List UInt8 → Option (Char × Nat)
  | [] => none
  | first :: rest =>
      if first < 0x80 then (character? 0 first.toNat).map (·, 0)
      else if first < 0xC0 then none
      else if first < 0xE0 then
        match rest with
        | second :: _ => do
            let low ← continuation? second
            (← character? 0x80 ((first.toNat - 0xC0) * 64 + low), 1)
        | _ => none
      else if first < 0xF0 then
        match rest with
        | second :: third :: _ => do
            let middle ← continuation? second
            let low ← continuation? third
            (← character? 0x800 (((first.toNat - 0xE0) * 64 + middle) * 64 + low), 2)
        | _ => none
      else if first < 0xF8 then
        match rest with
        | second :: third :: fourth :: _ => do
            let high ← continuation? second
            let middle ← continuation? third
            let low ← continuation? fourth
            let code := (((first.toNat - 0xF0) * 64 + high) * 64 + middle) * 64 + low
            (← character? 0x10000 code, 3)
        | _ => none
      else none

/-- A byte string as the characters it spells and, between them, the bytes that
belong to no character. -/
def pieces : List UInt8 → List (Char ⊕ UInt8)
  | [] => []
  | byte :: rest =>
      match decodeOne? (byte :: rest) with
      | some (character, more) => .inl character :: pieces (rest.drop more)
      | none => .inr byte :: pieces rest
  termination_by bytes => bytes.length
  decreasing_by
    · rw [List.length_drop, List.length_cons]
      omega
    · exact Nat.lt_succ_self rest.length

end Collective.Text.Utf8
