/-!
Texts from bytes. A byte sequence that is no UTF-8 is refused with the offset at which its first
ill-formed character begins. Line ends are read as single line feeds.
-/

namespace SceneScript.Text

/-- A character of which the first bytes are read: the next byte lies between `low` and `high`. -/
structure Unfinished where
  start : Nat
  value : Nat
  missing : Nat
  low : UInt8 := 0x80
  high : UInt8 := 0xBF

/-- What a leading byte announces; none after which a character cannot be well-formed. -/
def Unfinished.ofLead (start : Nat) (byte : UInt8) : Option Unfinished :=
  let bits := byte.toNat
  if byte < 0xC2 then none
  else if byte < 0xE0 then some { start, value := bits % 0x20, missing := 1 }
  else if byte = 0xE0 then some { start, value := 0, missing := 2, low := 0xA0 }
  else if byte = 0xED then some { start, value := 0xD, missing := 2, high := 0x9F }
  else if byte < 0xF0 then some { start, value := bits % 0x10, missing := 2 }
  else if byte = 0xF0 then some { start, value := 0, missing := 3, low := 0x90 }
  else if byte < 0xF4 then some { start, value := bits % 0x08, missing := 3 }
  else if byte = 0xF4 then some { start, value := 4, missing := 3, high := 0x8F }
  else none

/-- The characters read so far, last one first, and what the last bytes began. -/
structure Decoding where
  offset : Nat := 0
  pending : Option Unfinished := none
  chars : List Char := []

def Decoding.feed (state : Decoding) (byte : UInt8) : Except Nat Decoding :=
  let offset := state.offset + 1
  match state.pending with
  | none =>
      if byte < 0x80 then .ok { offset, chars := Char.ofNat byte.toNat :: state.chars }
      else
        match Unfinished.ofLead state.offset byte with
        | none => .error state.offset
        | some pending => .ok { state with offset, pending := some pending }
  | some pending =>
      if byte < pending.low || pending.high < byte then .error pending.start
      else
        let value := pending.value * 0x40 + byte.toNat % 0x40
        if pending.missing ≤ 1 then .ok { offset, chars := Char.ofNat value :: state.chars }
        else
          let missing := pending.missing - 1
          .ok { state with offset, pending := some { start := pending.start, value, missing } }

/-- Fails with the offset of the first ill-formed character. -/
def decodeUtf8 (bytes : List UInt8) : Except Nat (List Char) := do
  let state ← bytes.foldlM Decoding.feed {}
  match state.pending with
  | some pending => .error pending.start
  | none => .ok state.chars.reverse

def encodeUtf8 (text : String) : List UInt8 := text.toUTF8.toList

/-- A return, alone or before a line feed, is one line feed. -/
def unifyNewlines (chars : List Char) : List Char := go [] chars
where
  go (done : List Char) : List Char → List Char
    | [] => done.reverse
    | '\r' :: '\n' :: rest => go ('\n' :: done) rest
    | c :: rest => go ((if c = '\r' then '\n' else c) :: done) rest

end SceneScript.Text
