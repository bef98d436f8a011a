/-!
# UTF-8

Bytes are read by a machine whose state says what is still owed: nothing, or a number of
continuation bytes of which the next one lies in a given range. The range of the second byte is
what rules out overlong forms, surrogates and code points above U+10FFFF. A byte that is not the
one owed ends the sequence before it and is then looked at afresh, so every maximal ill-formed
part of the input gives exactly one item.
-/

namespace DocHarvest.Text.Utf8

/-- Why a part of the input is ill-formed. -/
inductive Reason
  | invalidStart
  | invalidContinuation
  | unexpectedEnd
deriving DecidableEq, Repr

/-- What a part of the input reads as; an ill-formed part is the bytes from `start` to `stop`. -/
inductive Item
  | character (decoded : Char)
  | ill (start stop : Nat) (lead : UInt8) (reason : Reason)

/-- A sequence that has begun: where, with which byte, and what it still owes. -/
structure Owing where
  start : Nat
  lead : UInt8
  lower : UInt8
  upper : UInt8
  remaining : Nat
  code : Nat

/-- What a first byte begins: a whole character, a sequence, or nothing. -/
def begin (position : Nat) (byte : UInt8) : Item ⊕ Owing :=
  let owing (lower upper : UInt8) (remaining code : Nat) : Item ⊕ Owing :=
    .inr ⟨position, byte, lower, upper, remaining, code⟩
  let code := byte.toNat
  if byte < 0x80 then .inl (.character (Char.ofNat code))
  else if byte < 0xc2 then .inl (.ill position (position + 1) byte .invalidStart)
  else if byte < 0xe0 then owing 0x80 0xbf 0 (code - 0xc0)
  else if byte == 0xe0 then owing 0xa0 0xbf 1 (code - 0xe0)
  else if byte == 0xed then owing 0x80 0x9f 1 (code - 0xe0)
  else if byte < 0xf0 then owing 0x80 0xbf 1 (code - 0xe0)
  else if byte == 0xf0 then owing 0x90 0xbf 2 (code - 0xf0)
  else if byte < 0xf4 then owing 0x80 0xbf 2 (code - 0xf0)
  else if byte == 0xf4 then owing 0x80 0x8f 2 (code - 0xf0)
  else .inl (.ill position (position + 1) byte .invalidStart)

/-- The items that a byte completes, and the sequence that is open after it. -/
def step (position : Nat) (byte : UInt8) : Option Owing → List Item × Option Owing
  | none =>
      match begin position byte with
      | .inl item => ([item], none)
      | .inr owing => ([], some owing)
  | some owing =>
      if owing.lower ≤ byte && byte ≤ owing.upper then
        let code := owing.code * 64 + (byte.toNat - 0x80)
        match owing.remaining with
        | 0 => ([.character (Char.ofNat code)], none)
        | remaining + 1 =>
            ([], some { owing with lower := 0x80, upper := 0xbf, remaining, code })
      else
        let broken := Item.ill owing.start position owing.lead .invalidContinuation
        match begin position byte with
        | .inl item => ([broken, item], none)
        | .inr next => ([broken], some next)

/-- Reads bytes from a position on, given the sequence that is open there. -/
def scanFrom (position : Nat) (open? : Option Owing) : List UInt8 → List Item
  | [] =>
      match open? with
      | none => []
      | some owing => [.ill owing.start position owing.lead .unexpectedEnd]
  | byte :: rest =>
      let (items, next) := step position byte open?
      items ++ scanFrom (position + 1) next rest

/-- The items of a byte sequence. -/
def scan (bytes : List UInt8) : List Item :=
  scanFrom 0 none bytes

/-- The character that an item shows as: ill-formed parts show as U+FFFD. -/
def Item.shown : Item → Char
  | .character decoded => decoded
  | .ill .. => Char.ofNat 0xfffd

/-- Bytes as text, with one U+FFFD for every maximal ill-formed part. -/
def decode (bytes : List UInt8) : String :=
  String.ofList ((scan bytes).map Item.shown)

/-- The first ill-formed part of a byte sequence, if there is one. -/
def firstIll? (bytes : List UInt8) : Option Item :=
  (scan bytes).find? fun
    | .character _ => false
    | .ill .. => true

end DocHarvest.Text.Utf8
