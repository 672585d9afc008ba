import ConstantSweep.Text.Quoted

set_option autoImplicit false

namespace ConstantSweep.Text.Utf8

def encodeChar (c : Char) : List UInt8 :=
  let code := c.toNat
  if code < 0x80 then [code.toUInt8]
  else if code < 0x800 then [(0xc0 + code / 64).toUInt8, (0x80 + code % 64).toUInt8]
  else if code < 0x10000 then
    [(0xe0 + code / 4096).toUInt8, (0x80 + code / 64 % 64).toUInt8, (0x80 + code % 64).toUInt8]
  else
    [(0xf0 + code / 262144).toUInt8, (0x80 + code / 4096 % 64).toUInt8,
     (0x80 + code / 64 % 64).toUInt8, (0x80 + code % 64).toUInt8]

def encode (text : List Char) : List UInt8 := text.flatMap encodeChar

structure Unencodable where
  position : Nat
  codes : List Nat
  deriving DecidableEq, Repr

def Unencodable.message (fault : Unencodable) : String :=
  let place := match fault.codes with
    | [code] =>
        "character '" ++ String.ofList (numericEscape code) ++ "' in position " ++ toString fault.position
    | codes =>
        "characters in position " ++ toString fault.position ++ "-" ++
          toString (fault.position + codes.length - 1)
  "'utf-8' codec can't encode " ++ place ++ ": surrogates not allowed"

-- The first half that is not excepted, with those that follow it at once; `position` counts the letters
-- before the text.
def firstUnencodable? (excepted : Nat → Bool) (position : Nat) : List Letter → Option Unencodable
  | [] => none
  | c :: rest =>
      if c.isHalf && !excepted c.code then
        some ⟨position, (c :: rest.takeWhile Letter.isHalf).map Letter.code⟩
      else firstUnencodable? excepted (position + 1) rest

def encode? (text : Text) : Except Unencodable (List UInt8) :=
  match firstUnencodable? (fun _ => false) 0 text.toList with
  | some fault => .error fault
  | none => .ok (encode (text.toList.filterMap Letter.char?))

def standsForByte (code : Nat) : Bool := 0xdc80 ≤ code && code ≤ 0xdcff

def encodeNameLetter : Letter → List UInt8
  | .char c => encodeChar c
  | .half offset => [offset.val.toUInt8]

def encodeName (name : Text) : List UInt8 := name.toList.flatMap encodeNameLetter

def encodeName? (name : Text) : Except Unencodable (List UInt8) :=
  match firstUnencodable? standsForByte 0 name.toList with
  | some fault => .error fault
  | none => .ok (encodeName name)

def nameLength (name : Text) : Nat := (encodeName name).length

inductive Reason where
  | start
  | continuation
  | truncated
  deriving DecidableEq, Repr

structure Malformed where
  position : Nat
  bytes : List UInt8
  reason : Reason
  deriving DecidableEq, Repr

def Reason.text : Reason → String
  | .start => "invalid start byte"
  | .continuation => "invalid continuation byte"
  | .truncated => "unexpected end of data"

def Malformed.message (fault : Malformed) : String :=
  let place := match fault.bytes with
    | [byte] =>
        "byte 0x" ++ String.ofList (digitsIn 16 2 byte.toNat) ++ " in position " ++ toString fault.position
    | bytes =>
        "bytes in position " ++ toString fault.position ++ "-" ++
          toString (fault.position + bytes.length - 1)
  "'utf-8' codec can't decode " ++ place ++ ": " ++ fault.reason.text

def isContinuation (byte : UInt8) : Bool := 0x80 ≤ byte && byte < 0xc0

-- The second bytes that may follow a first byte of a sequence of three or four. They exclude long
-- forms, surrogates and what lies above the last code point.
def secondAllowed (first second : UInt8) : Bool :=
  isContinuation second &&
    (if first = 0xe0 then 0xa0 ≤ second
     else if first = 0xed then second < 0xa0
     else if first = 0xf0 then 0x90 ≤ second
     else if first = 0xf4 then second < 0x90
     else true)

def payload (byte : UInt8) : Nat := byte.toNat % 64

inductive Front where
  | scalar (c : Char) (rest : List UInt8)
  | malformed (bytes : List UInt8) (reason : Reason) (rest : List UInt8)
  deriving Repr

def front (first : UInt8) (rest : List UInt8) : Front :=
  if first < 0x80 then .scalar (Char.ofNat first.toNat) rest
  else if first < 0xc2 || 0xf4 < first then .malformed [first] .start rest
  else match rest with
    | [] => .malformed [first] .truncated []
    | second :: rest₁ =>
        if first < 0xe0 then
          if isContinuation second then
            .scalar (Char.ofNat ((first.toNat - 0xc0) * 64 + payload second)) rest₁
          else .malformed [first] .continuation rest
        else if !secondAllowed first second then .malformed [first] .continuation rest
        else match rest₁ with
          | [] => .malformed [first, second] .truncated []
          | third :: rest₂ =>
              if !isContinuation third then .malformed [first, second] .continuation rest₁
              else if first < 0xf0 then
                .scalar (Char.ofNat ((first.toNat - 0xe0) * 4096 + payload second * 64 + payload third)) rest₂
              else match rest₂ with
                | [] => .malformed [first, second, third] .truncated []
                | fourth :: rest₃ =>
                    if !isContinuation fourth then
                      .malformed [first, second, third] .continuation rest₂
                    else
                      .scalar (Char.ofNat ((first.toNat - 0xf0) * 262144 + payload second * 4096 +
                        payload third * 64 + payload fourth)) rest₃

def Front.rest : Front → List UInt8
  | .scalar _ rest => rest
  | .malformed _ _ rest => rest

theorem front_rest_le (first : UInt8) (bytes : List UInt8) :
    (front first bytes).rest.length ≤ bytes.length := by
  unfold front
  repeat' split
  all_goals simp [Front.rest]
  all_goals omega

-- The text of the bytes, or their first ill formed sequence; `position` counts the bytes before. A well formed
-- sequence is as long as the bytes of its character.
def decodeFrom (position : Nat) (bytes : List UInt8) : Except Malformed (List Char) :=
  match bytes with
  | [] => .ok []
  | first :: rest =>
      match _same : front first rest with
      | .malformed bad reason _ => .error ⟨position, bad, reason⟩
      | .scalar c after =>
          (decodeFrom (position + (encodeChar c).length) after).map (c :: ·)
  termination_by bytes.length
  decreasing_by
    have bound := front_rest_le first rest
    rw [_same] at bound
    exact Nat.lt_succ_of_le bound

def decode (bytes : List UInt8) : Except Malformed (List Char) := decodeFrom 0 bytes

def decodeLossy (bytes : List UInt8) : List Char :=
  match bytes with
  | [] => []
  | first :: rest =>
      (match front first rest with
        | .malformed _ _ _ => '\ufffd'
        | .scalar c _ => c) :: decodeLossy (front first rest).rest
  termination_by bytes.length
  decreasing_by exact Nat.lt_succ_of_le (front_rest_le first rest)

def decodeName (bytes : List UInt8) : List Letter :=
  match bytes with
  | [] => []
  | first :: rest =>
      (match front first rest with
        | .malformed bad _ _ => bad.map fun byte => .half (Fin.ofNat 2048 (0x400 + byte.toNat))
        | .scalar c _ => [.char c]) ++ decodeName (front first rest).rest
  termination_by bytes.length
  decreasing_by exact Nat.lt_succ_of_le (front_rest_le first rest)

-- The same name, with characters for all its well formed bytes. Names are the same if their bytes are.
def canonicalName (name : Text) : Text :=
  if name.toList.any Letter.isHalf then ⟨decodeName (encodeName name)⟩ else name

end ConstantSweep.Text.Utf8
