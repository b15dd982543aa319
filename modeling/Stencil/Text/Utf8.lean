import Stencil.Text.Quoted

namespace Stencil
namespace Text

/-!
Reading bytes as UTF-8.  A character's first byte tells how many follow.  The
reader refuses overlong forms, surrogates and anything beyond the last code
point as soon as a byte rules out every character, and says which bytes it
could not read.
-/
namespace Utf8

/-- Why a byte sequence is no character. -/
inductive Reason where
  /-- No character begins with this byte. -/
  | badStart
  /-- The next byte cannot follow those read so far. -/
  | badContinuation
  /-- The bytes end inside a character. -/
  | endOfBytes
  deriving DecidableEq, Repr

def Reason.message : Reason -> String
  | .badStart => "invalid start byte"
  | .badContinuation => "invalid continuation byte"
  | .endOfBytes => "unexpected end of data"

/-- The bytes from `start` up to, but not including, `stop` are no character;
`byte` is the first of them. -/
structure Fault where
  start : Nat
  stop : Nat
  byte : Nat
  reason : Reason
  deriving DecidableEq, Repr

def Fault.message (fault : Fault) : String :=
  let place :=
    if fault.stop = fault.start + 1 then
      "byte 0x" ++ hexadecimal 2 fault.byte ++ " in position " ++ toString fault.start
    else
      "bytes in position " ++ toString fault.start ++ "-" ++ toString (fault.stop - 1)
  "'utf-8' codec can't decode " ++ place ++ ": " ++ fault.reason.message

def isContinuation (byte : Nat) : Bool :=
  0x80 ≤ byte && byte ≤ 0xBF

/-- How many bytes the character begun by `first` has; nothing if no character
begins so. -/
def length? (first : Nat) : Option Nat :=
  if first ≤ 0x7F then some 1
  else if 0xC2 ≤ first && first ≤ 0xDF then some 2
  else if 0xE0 ≤ first && first ≤ 0xEF then some 3
  else if 0xF0 ≤ first && first ≤ 0xF4 then some 4
  else none

/-- Whether `second` may follow `first`: after some first bytes the range is
narrower, which keeps out overlong forms, surrogates and what lies beyond the
last code point. -/
def mayFollow (first second : Nat) : Bool :=
  isContinuation second &&
    (first != 0xE0 || 0xA0 ≤ second) && (first != 0xED || second ≤ 0x9F) &&
    (first != 0xF0 || 0x90 ≤ second) && (first != 0xF4 || second ≤ 0x8F)

/-- The bits that a continuation byte adds. -/
def extend (code byte : Nat) : Nat :=
  code * 64 + byte % 64

def decodeAt (position : Nat) : List UInt8 -> Except Fault (List Char)
  | [] => .ok []
  | byte :: rest =>
      let first := byte.toNat
      let fault (width : Nat) (reason : Reason) : Fault :=
        ⟨position, position + width, first, reason⟩
      match length? first with
      | none => .error (fault 1 .badStart)
      | some 1 => (decodeAt (position + 1) rest).map (Char.ofNat first :: ·)
      | some length =>
          match rest with
          | [] => .error (fault 1 .endOfBytes)
          | byte₂ :: rest =>
              let second := byte₂.toNat
              if !mayFollow first second then .error (fault 1 .badContinuation)
              else if length = 2 then
                (decodeAt (position + 2) rest).map (Char.ofNat (extend (first % 32) second) :: ·)
              else
                match rest with
                | [] => .error (fault 2 .endOfBytes)
                | byte₃ :: rest =>
                    let third := byte₃.toNat
                    if !isContinuation third then .error (fault 2 .badContinuation)
                    else if length = 3 then
                      (decodeAt (position + 3) rest).map
                        (Char.ofNat (extend (extend (first % 16) second) third) :: ·)
                    else
                      match rest with
                      | [] => .error (fault 3 .endOfBytes)
                      | byte₄ :: rest =>
                          let fourth := byte₄.toNat
                          if !isContinuation fourth then .error (fault 3 .badContinuation)
                          else
                            (decodeAt (position + 4) rest).map
                              (Char.ofNat
                                (extend (extend (extend (first % 8) second) third) fourth) :: ·)

/-- Reads a whole sequence of bytes.  The first fault ends the reading. -/
def decode (bytes : List UInt8) : Except Fault (List Char) :=
  decodeAt 0 bytes

end Utf8
end Text
end Stencil
